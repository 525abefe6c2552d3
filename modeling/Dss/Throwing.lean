import Mathlib.Data.List.Basic

/-!
# Statements that may throw

A statement works on a state and ends normally or with an exception. What it has done by then stays
done: whoever catches the exception goes on from there. A triple says what holds behind a statement
that is taken from a state that meets its precondition, with one condition for each end.
-/

namespace Throwing

variable {S E A : Type}

def Statement (S E : Type) : Type := S → S × Option E

namespace Statement

def skip : Statement S E := fun s => (s, none)

def raise (e : E) : Statement S E := fun s => (s, some e)

def change (f : S → S) : Statement S E := fun s => (f s, none)

def inspect (f : S → A) (x : A → Statement S E) : Statement S E := fun s => x (f s) s

/-- One statement behind another, which is not reached if the first throws. -/
def andThen (x y : Statement S E) : Statement S E := fun s =>
  match x s with
  | (t, none) => y t
  | (t, some e) => (t, some e)

def catching (p : E → Bool) (x : Statement S E) : Statement S E := fun s =>
  match x s with
  | (t, none) => (t, none)
  | (t, some e) => if p e then (t, none) else (t, some e)

def handling (p : E → Bool) (x y : Statement S E) : Statement S E := fun s =>
  match x s with
  | (t, none) => (t, none)
  | (t, some e) => if p e then y t else (t, some e)

def forEach (f : A → Statement S E) : List A → Statement S E
  | [] => skip
  | a :: as => andThen (f a) (forEach f as)

variable {x y : Statement S E} {s t : S} {e : E}

@[simp]
theorem change_apply {f : S → S} : (change f : Statement S E) s = (f s, none) :=
  rfl

@[simp]
theorem inspect_apply {f : S → A} {x : A → Statement S E} : inspect f x s = x (f s) s :=
  rfl

theorem andThen_of_ok (h : x s = (t, none)) : andThen x y s = y t := by
  rw [andThen, h]

theorem handling_of_throw {p : E → Bool} (h : x s = (t, some e)) :
    handling p x y s = if p e then y t else (t, some e) := by
  rw [handling, h]

theorem andThen_of_throw (h : x s = (t, some e)) : andThen x y s = (t, some e) := by
  rw [andThen, h]

/-- A statement with a catch clause leaves the state that it leaves without. -/
@[simp]
theorem catching_fst {p : E → Bool} : (catching p x s).1 = (x s).1 := by
  rcases h : x s with ⟨t, - | e⟩
  · rw [catching, h]
  · rw [catching, h]
    dsimp only
    split
    · rfl
    · rfl

end Statement

open Statement

/-! ## Triples -/

/-- Taken where `P` holds, the statement leads to a state with `Q`, or throws in one with `R`. -/
def Triple (P : S → Prop) (x : Statement S E) (Q : S → Prop) (R : E → S → Prop) : Prop :=
  ∀ s, P s → match x s with
    | (t, none) => Q t
    | (t, some e) => R e t

namespace Triple

variable {P P' Q Q' : S → Prop} {N R R' : E → S → Prop} {x y : Statement S E}

theorem fst (h : Triple P x Q R) {s : S} (hs : P s) : Q (x s).1 ∨ ∃ e, R e (x s).1 := by
  have hx := h s hs
  rcases hend : x s with ⟨t, - | e⟩
  · rw [hend] at hx
    exact Or.inl hx
  · rw [hend] at hx
    exact Or.inr ⟨e, hx⟩

theorem at_end (h : Triple P x Q fun _ => Q) {s : S} (hs : P s) : Q (x s).1 := by
  obtain hend | ⟨-, hend⟩ := h.fst hs
  · exact hend
  · exact hend

theorem of_end (h : ∀ s, P s → Q (x s).1) : Triple P x Q fun _ => Q := by
  intro s hs
  have hx := h s hs
  rcases hend : x s with ⟨t, - | e⟩
  · rw [hend] at hx
    exact hx
  · rw [hend] at hx
    exact hx

theorem weaken (h : Triple P x Q R) (hp : ∀ s, P' s → P s) (hq : ∀ s, Q s → Q' s)
    (hr : ∀ e s, R e s → R' e s) : Triple P' x Q' R' := by
  intro s hs
  have hx := h s (hp s hs)
  rcases hend : x s with ⟨t, - | e⟩
  · rw [hend] at hx
    exact hq t hx
  · rw [hend] at hx
    exact hr e t hx

theorem pre (h : Triple P x Q R) (hp : ∀ s, P' s → P s) : Triple P' x Q R :=
  h.weaken hp (fun _ hq => hq) fun _ _ hr => hr

theorem throws (h : Triple P x Q R) (hr : ∀ e s, R e s → R' e s) : Triple P x Q R' :=
  h.weaken (fun _ hp => hp) (fun _ hq => hq) hr

theorem having {p : Prop} (hp : ∀ s, P s → p) (h : p → Triple P x Q R) : Triple P x Q R :=
  fun s hs => h (hp s hs) s hs

theorem skip (h : ∀ s, P s → Q s) : Triple P (Statement.skip : Statement S E) Q R := h

theorem raise {e : E} (h : ∀ s, P s → R e s) : Triple P (Statement.raise e) Q R := h

theorem change {f : S → S} (h : ∀ s, P s → Q (f s)) :
    Triple P (Statement.change f : Statement S E) Q R := h

theorem inspect {f : S → A} {x : A → Statement S E}
    (h : ∀ a, Triple (fun s => P s ∧ f s = a) (x a) Q R) :
    Triple P (Statement.inspect f x) Q R :=
  fun s hs => h (f s) s ⟨hs, rfl⟩

theorem andThen {M : S → Prop} (hx : Triple P x M R) (hy : Triple M y Q R) :
    Triple P (x.andThen y) Q R := by
  intro s hs
  have hmid := hx s hs
  rcases hend : x s with ⟨t, - | e⟩
  · rw [hend] at hmid
    rw [andThen_of_ok hend]
    exact hy t hmid
  · rw [hend] at hmid
    rw [andThen_of_throw hend]
    exact hmid

/-- Behind a catch clause the end inside may have been the normal one, or an exception of the
kind that is caught. -/
theorem catching {p : E → Bool} (h : Triple P x Q N)
    (hcaught : ∀ e s, N e s → p e = true → Q s)
    (hpassed : ∀ e s, N e s → p e = false → R e s) : Triple P (x.catching p) Q R := by
  intro s hs
  have hx := h s hs
  rcases hend : x s with ⟨t, - | e⟩
  · rw [hend] at hx
    rw [Statement.catching, hend]
    exact hx
  · rw [hend] at hx
    rw [Statement.catching, hend]
    dsimp only
    rcases hp : p e with _ | _
    · exact hpassed e t hx hp
    · exact hcaught e t hx hp

end Triple

/-! ## What has to hold before a statement -/

/-- Something holds behind a statement, should it end normally. -/
def Behind (x : Statement S E) (p : S → Prop) (s : S) : Prop :=
  match x s with
  | (t, none) => p t
  | (_, some _) => True

instance (x : Statement S E) (p : S → Prop) [DecidablePred p] (s : S) :
    Decidable (Behind x p s) :=
  match h : x s with
  | (t, none) => decidable_of_iff (p t) (by rw [Behind, h])
  | (_, some _) => isTrue (by rw [Behind, h]; trivial)

theorem Behind.add {x : Statement S E} {P Q p : S → Prop} {R : E → S → Prop}
    (h : Triple P x Q R) :
    Triple (fun s => P s ∧ Behind x p s) x (fun s => Q s ∧ p s) R := by
  rintro s ⟨hs, hbehind⟩
  have hx := h s hs
  rw [Behind] at hbehind
  rcases hend : x s with ⟨t, - | e⟩
  · rw [hend] at hx hbehind
    exact ⟨hx, hbehind⟩
  · rw [hend] at hx
    exact hx

/-! ## Statements that keep a property -/

/-- The property holds behind the statement, however it ends. -/
def Keeps (I : S → Prop) (x : Statement S E) : Prop := ∀ s, I s → I (x s).1

namespace Keeps

variable {I J : S → Prop} {x y : Statement S E}

theorem triple (h : Keeps I x) : Triple I x I fun _ => I := Triple.of_end h

theorem of_triple (h : Triple I x I fun _ => I) : Keeps I x := fun _ hs => h.at_end hs

theorem skip : Keeps I (Statement.skip : Statement S E) := fun _ hs => hs

theorem raise {e : E} : Keeps I (Statement.raise e) := fun _ hs => hs

theorem change {f : S → S} (h : ∀ s, I s → I (f s)) :
    Keeps I (Statement.change f : Statement S E) := h

theorem inspect {f : S → A} {x : A → Statement S E} (h : ∀ a, Keeps I (x a)) :
    Keeps I (Statement.inspect f x) :=
  fun s hs => h (f s) s hs

theorem andThen (hx : Keeps I x) (hy : Keeps I y) : Keeps I (x.andThen y) :=
  of_triple (hx.triple.andThen hy.triple)

theorem catching {p : E → Bool} (hx : Keeps I x) : Keeps I (x.catching p) := by
  intro s hs
  rw [catching_fst]
  exact hx s hs

theorem and (hx : Keeps I x) (hy : Keeps J x) : Keeps (fun s => I s ∧ J s) x :=
  fun s hs => ⟨hx s hs.1, hy s hs.2⟩

theorem of_part {f : S → A} (h : ∀ a, Keeps (fun s => f s = a) x) (p : A → Prop) :
    Keeps (fun s => p (f s)) x := by
  intro s hs
  have hsame : f (x s).1 = f s := h (f s) s rfl
  rw [hsame]
  exact hs

theorem add {P Q : S → Prop} {R : E → S → Prop} (hk : Keeps I x)
    (h : Triple P x Q R) : Triple (fun s => P s ∧ I s) x (fun s => Q s ∧ I s)
      fun e s => R e s ∧ I s := by
  intro s hs
  have hx := h s hs.1
  have hkeep := hk s hs.2
  rcases hend : x s with ⟨t, - | e⟩
  · rw [hend] at hx hkeep
    exact ⟨hx, hkeep⟩
  · rw [hend] at hx hkeep
    exact ⟨hx, hkeep⟩

theorem forEach {f : A → Statement S E} {as : List A} (h : ∀ a ∈ as, Keeps I (f a)) :
    Keeps I (Statement.forEach f as) := by
  induction as with
  | nil => exact skip
  | cons a as ih =>
    exact (h a (List.mem_cons_self ..)).andThen
      (ih fun b hb => h b (List.mem_cons_of_mem _ hb))

end Keeps

end Throwing
