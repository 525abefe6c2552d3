import Mathlib.Data.Option.Basic

/-!
# Matching

A check asks one thing after another, may fail, and says yes only if it comes through to the end.
A field that is not given asks for nothing; one that is given asks for a value, or for any value at
all if it is the wildcard.
-/

namespace Matching

variable {E A : Type}

/-! ## Checks -/

def SaysYes (x : Except E Bool) : Prop := x = .ok true

section SaysYes

variable {x : Except E Bool}

theorem saysYes_pure {b : Bool} : SaysYes (pure b : Except E Bool) ↔ b = true := by
  refine ⟨fun h => Except.ok.inj h, fun h => ?_⟩
  rw [h]
  rfl

theorem not_saysYes_error {e : E} : ¬ SaysYes (.error e) := by
  intro h
  cases h

theorem not_saysYes_no : ¬ SaysYes (.ok false : Except E Bool) := by
  intro h
  cases h

theorem saysYes_refuse {c : Prop} [Decidable c] :
    SaysYes (if c then pure false else x) ↔ ¬ c ∧ SaysYes x := by
  by_cases hc : c
  · rw [if_pos hc, saysYes_pure]
    exact iff_of_false Bool.false_ne_true fun h => h.1 hc
  · rw [if_neg hc]
    exact (and_iff_right hc).symm

theorem saysYes_accept {c : Prop} [Decidable c] :
    SaysYes (if c then pure true else x) ↔ c ∨ SaysYes x := by
  by_cases hc : c
  · rw [if_pos hc]
    exact iff_of_true rfl (Or.inl hc)
  · rw [if_neg hc]
    exact (or_iff_right hc).symm

theorem saysYes_bind {y : Except E A} {g : A → Except E Bool} :
    SaysYes (y >>= g) ↔ ∃ a, y = .ok a ∧ SaysYes (g a) := by
  cases y with
  | error e =>
    refine iff_of_false not_saysYes_error ?_
    rintro ⟨a, h, -⟩
    cases h
  | ok a =>
    refine ⟨fun h => ⟨a, rfl, h⟩, ?_⟩
    rintro ⟨a', h, hg⟩
    cases h
    exact hg

end SaysYes

/-! ## Fields -/

variable {given value : Option A} {a wildcard : A}

def Is (given value : Option A) : Prop := ∀ a, given = some a → value = some a

/-- A field that is not given, or given as the wildcard, fits every value. -/
def Fits (wildcard : A) (given value : Option A) : Prop :=
  ∀ a, given = some a → a = wildcard ∨ value = some a

theorem is_none : Is none value := by
  intro a h
  cases h

theorem is_some_iff : Is (some a) value ↔ value = some a := by
  refine ⟨fun h => h a rfl, fun h a' ha => ?_⟩
  rw [← ha]
  exact h

theorem fits_none : Fits wildcard none value := by
  intro a h
  cases h

theorem fits_some_iff : Fits wildcard (some a) value ↔ a = wildcard ∨ value = some a := by
  refine ⟨fun h => h a rfl, fun h a' ha => ?_⟩
  rw [← Option.some.inj ha]
  exact h

end Matching
