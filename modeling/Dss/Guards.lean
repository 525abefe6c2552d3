import Mathlib.Data.List.Basic

/-!
# Checks one after the other

The first check that fails decides how a sequence of checks fails. `FailsBy P` says that it fails
in one of the ways `P`. Where every check can only fail so, their order does not matter.
-/

namespace Guards

variable {E A B : Type} {P : E → Prop}

/-- Fails in one of the ways `P`. -/
def FailsBy (P : E → Prop) (x : Except E A) : Prop := ∃ e, x = .error e ∧ P e

/-- Can fail in the ways `P` only. -/
def FailsOnlyBy (P : E → Prop) (x : Except E A) : Prop := ∀ e, x = .error e → P e

theorem failsBy_error {e : E} : FailsBy P (.error e : Except E A) ↔ P e := by
  constructor
  · rintro ⟨e', he, hP⟩
    cases he
    exact hP
  · exact fun hP => ⟨e, rfl, hP⟩

theorem not_failsBy_ok {a : A} : ¬ FailsBy P (.ok a : Except E A) := by
  rintro ⟨e, he, -⟩
  cases he

theorem failsOnlyBy_ok {a : A} : FailsOnlyBy P (.ok a : Except E A) := by
  intro e he
  cases he

theorem failsOnlyBy_error {e : E} (h : P e) : FailsOnlyBy P (.error e : Except E A) := by
  intro e' he
  cases he
  exact h

theorem failsBy_ite {c : Prop} [Decidable c] {e : E} {a : A} (h : P e) :
    FailsBy P (if c then .error e else .ok a : Except E A) ↔ c := by
  split_ifs with hc
  · exact iff_of_true (failsBy_error.2 h) hc
  · exact iff_of_false not_failsBy_ok hc

theorem failsOnlyBy_ite {c : Prop} [Decidable c] {x y : Except E A} (hx : FailsOnlyBy P x)
    (hy : FailsOnlyBy P y) : FailsOnlyBy P (if c then x else y) := by
  split_ifs
  · exact hx
  · exact hy

theorem failsBy_bind {x : Except E A} {f : A → Except E B} :
    FailsBy P (x >>= f) ↔ FailsBy P x ∨ ∃ a, x = .ok a ∧ FailsBy P (f a) := by
  cases x with
  | error e =>
    constructor
    · exact fun h => Or.inl (failsBy_error.2 (failsBy_error.1 h))
    · rintro (h | ⟨a, ha, -⟩)
      · exact failsBy_error.2 (failsBy_error.1 h)
      · cases ha
  | ok a =>
    constructor
    · exact fun h => Or.inr ⟨a, rfl, h⟩
    · rintro (h | ⟨a', ha, h⟩)
      · exact absurd h not_failsBy_ok
      · cases ha
        exact h

theorem FailsOnlyBy.bind {x : Except E A} {f : A → Except E B} (hx : FailsOnlyBy P x)
    (hf : ∀ a, FailsOnlyBy P (f a)) : FailsOnlyBy P (x >>= f) := by
  cases x with
  | error e =>
    intro e' he
    cases he
    exact hx e rfl
  | ok a => exact hf a

theorem failsBy_andThen {x y : Except E Unit} (hx : FailsOnlyBy P x) :
    FailsBy P (x >>= fun _ => y) ↔ FailsBy P x ∨ FailsBy P y := by
  rw [failsBy_bind]
  constructor
  · exact Or.imp_right fun ⟨_, _, h⟩ => h
  · rintro (h | h)
    · exact Or.inl h
    · cases x with
      | error e => exact Or.inl ⟨e, rfl, hx e rfl⟩
      | ok a => exact Or.inr ⟨a, rfl, h⟩

variable {X : Type} {f : X → Except E Unit} {xs : List X}

theorem FailsOnlyBy.forM (h : ∀ x ∈ xs, FailsOnlyBy P (f x)) : FailsOnlyBy P (xs.forM f) := by
  induction xs with
  | nil => exact failsOnlyBy_ok
  | cons x xs ih =>
    exact FailsOnlyBy.bind (h x List.mem_cons_self) fun _ =>
      ih fun y hy => h y (List.mem_cons_of_mem x hy)

theorem exists_of_failsBy_forM (h : FailsBy P (xs.forM f)) : ∃ x ∈ xs, FailsBy P (f x) := by
  induction xs with
  | nil => exact absurd h not_failsBy_ok
  | cons x xs ih =>
    rcases failsBy_bind.1 h with h | ⟨-, -, h⟩
    · exact ⟨x, List.mem_cons_self, h⟩
    · obtain ⟨y, hy, hfails⟩ := ih h
      exact ⟨y, List.mem_cons_of_mem x hy, hfails⟩

/-- **Loops.** If its checks can fail in no other way, a loop fails if one of them does. -/
theorem failsBy_forM (h : ∀ x ∈ xs, FailsOnlyBy P (f x)) :
    FailsBy P (xs.forM f) ↔ ∃ x ∈ xs, FailsBy P (f x) := by
  refine ⟨exists_of_failsBy_forM, ?_⟩
  induction xs with
  | nil => rintro ⟨x, hx, -⟩; cases hx
  | cons x xs ih =>
    rintro ⟨y, hy, hfails⟩
    refine (failsBy_andThen (h x List.mem_cons_self)).mpr ?_
    rcases List.mem_cons.mp hy with rfl | hy
    · exact Or.inl hfails
    · exact Or.inr (ih (fun z hz => h z (List.mem_cons_of_mem x hz)) ⟨y, hy, hfails⟩)

end Guards
