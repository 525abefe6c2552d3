import Mathlib.Data.List.Basic

/-!
# Computations that give one value or none

`Gives x p a` says that a computation gives the value `a` if the condition `p` is met, and nothing
otherwise. The rules follow the computation.
-/

namespace Guarded

variable {A B S : Type*}

/-- The value is given if and only if the condition is met. -/
def Gives (x : Option A) (p : Prop) (a : A) : Prop := ∀ b, x = some b ↔ p ∧ b = a

variable {x y : Option A} {p q : Prop} {a b : A}

theorem Gives.eq_some (h : Gives x p a) (hp : p) : x = some a := (h a).mpr ⟨hp, rfl⟩

theorem Gives.congr (h : Gives x p a) (hpq : p ↔ q) : Gives x q a := fun b => by
  rw [h b, hpq]

theorem Gives.congr_value (h : Gives x p a) (hab : p → a = b) : Gives x p b := fun c => by
  rw [h c]
  exact and_congr_right fun hp => by rw [hab hp]

theorem gives_some : Gives (some a) True a := fun b => by
  rw [Option.some_inj, true_and, eq_comm]

theorem gives_getD (x : Option A) (d : A) : Gives x (x ≠ none) (x.getD d) := by
  intro b
  cases x with
  | none => exact iff_of_false (Option.some_ne_none b).symm fun h => h.1 rfl
  | some a => rw [Option.some_inj, eq_comm, Option.getD_some, and_iff_right (Option.some_ne_none a)]

theorem Gives.bind_of {f : A → Option B} {c : B} (hx : Gives x p a) (hf : p → Gives (f a) q c) :
    Gives (x.bind f) (p ∧ q) c := by
  intro b
  rw [Option.bind_eq_some_iff]
  refine ⟨?_, fun h => ⟨a, hx.eq_some h.1.1, (hf h.1.1 b).mpr ⟨h.1.2, h.2⟩⟩⟩
  rintro ⟨a', ha', hb⟩
  obtain ⟨hp, rfl⟩ := (hx a').mp ha'
  obtain ⟨hq, hc⟩ := (hf hp b).mp hb
  exact ⟨⟨hp, hq⟩, hc⟩

theorem Gives.bind {f : A → Option B} {c : B} (hx : Gives x p a) (hf : Gives (f a) q c) :
    Gives (x.bind f) (p ∧ q) c :=
  hx.bind_of fun _ => hf

theorem Gives.bind_some (hx : Gives x p a) (f : A → B) :
    Gives (x.bind fun b => some (f b)) p (f a) := by
  have hf : Gives (some (f a)) True (f a) := gives_some
  exact (hx.bind hf).congr (and_iff_left trivial)

theorem Gives.map (hx : Gives x p a) (f : A → B) : Gives (x.map f) p (f a) := by
  intro b
  rw [Option.map_eq_some_iff]
  refine ⟨?_, fun h => ⟨a, hx.eq_some h.1, h.2.symm⟩⟩
  rintro ⟨a', ha', rfl⟩
  obtain ⟨hp, rfl⟩ := (hx a').mp ha'
  exact ⟨hp, rfl⟩

theorem Gives.ite {c : Prop} [Decidable c] (hx : Gives x p a) (hy : Gives y q b) :
    Gives (if c then x else y) ((c → p) ∧ (¬ c → q)) (if c then a else b) := by
  by_cases hc : c
  · rw [if_pos hc, if_pos hc]
    exact hx.congr ⟨fun hp => ⟨fun _ => hp, fun h => absurd hc h⟩, fun h => h.1 hc⟩
  · rw [if_neg hc, if_neg hc]
    exact hy.congr ⟨fun hq => ⟨fun h => absurd h hc, fun _ => hq⟩, fun h => h.2 hc⟩

theorem gives_mapM {f : A → Option B} {p : A → Prop} {g : A → B} {as : List A}
    (h : ∀ a ∈ as, Gives (f a) (p a) (g a)) :
    Gives (as.mapM f) (∀ a ∈ as, p a) (as.map g) := by
  induction as with
  | nil => exact gives_some.congr (iff_of_true trivial (List.forall_mem_nil _))
  | cons a as ih =>
    rw [List.forall_mem_cons] at h
    have hmapM : (a :: as).mapM f = (f a).bind fun b => (as.mapM f).map (b :: ·) := by
      rw [List.mapM_cons]
      cases f a <;> cases as.mapM f <;> rfl
    rw [hmapM]
    refine (h.1.bind ((ih h.2).map (g a :: ·))).congr ?_
    rw [List.forall_mem_cons]

theorem gives_foldlM {step : S → A → Option S} {p : S → A → Prop} {f : S → A → S}
    (h : ∀ s a, Gives (step s a) (p s a) (f s a)) (as : List A) (s : S) :
    Gives (as.foldlM step s) (∀ pre a post, as = pre ++ a :: post → p (pre.foldl f s) a)
      (as.foldl f s) := by
  induction as generalizing s with
  | nil => exact gives_some.congr (iff_of_true trivial fun pre a post hsplit => by simp at hsplit)
  | cons a as ih =>
    refine ((h s a).bind (ih (f s a))).congr ⟨fun hall pre b post hsplit => ?_, fun hall => ?_⟩
    · rcases List.cons_eq_append_iff.mp hsplit with ⟨rfl, hcons⟩ | ⟨pre, rfl, hsplit⟩
      · obtain ⟨rfl, -⟩ := List.cons.inj hcons
        exact hall.1
      · exact hall.2 pre b post (List.cons.inj hsplit).2
    · refine ⟨hall [] a as rfl, fun pre b post hsplit => hall (a :: pre) b post ?_⟩
      rw [hsplit, List.cons_append]

theorem gives_foldlM_of_const {step : S → A → Option S} {p : A → Prop} {f : S → A → S}
    {I : S → Prop} (h : ∀ s a, I s → Gives (step s a) (p a) (f s a))
    (hI : ∀ s a, I s → I (f s a)) (as : List A) {s : S} (hs : I s) :
    Gives (as.foldlM step s) (∀ a ∈ as, p a) (as.foldl f s) := by
  induction as generalizing s with
  | nil => exact gives_some.congr (iff_of_true trivial (List.forall_mem_nil _))
  | cons a as ih =>
    refine ((h s a hs).bind (ih (hI s a hs))).congr ?_
    rw [List.forall_mem_cons]

end Guarded
