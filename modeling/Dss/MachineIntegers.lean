import Mathlib.Algebra.Order.Ring.Int
import Mathlib.Data.Int.ModEq

/-!
# Machine integers

What is converted to an integer type is cut to the value that it agrees with modulo the number of
its values. So a value of the type stays as it is, and cutting to a wider type first, of a multiple
of the size, makes no difference.
-/

namespace MachineIntegers

structure IntType : Type where
  low : ℤ
  size : ℤ
  size_pos : 0 < size

namespace IntType

/-- `uint8_t` -/
def uint8 : IntType := ⟨0, 2 ^ 8, by decide⟩

/-- `uint16_t` -/
def uint16 : IntType := ⟨0, 2 ^ 16, by decide⟩

/-- `unsigned int` -/
def uint32 : IntType := ⟨0, 2 ^ 32, by decide⟩

/-- `int` -/
def int32 : IntType := ⟨-2 ^ 31, 2 ^ 32, by decide⟩

variable (t : IntType) {s : IntType} {m n : ℤ}

/-- What the type represents. -/
def Fits (n : ℤ) : Prop := t.low ≤ n ∧ n < t.low + t.size

instance (n : ℤ) : Decidable (t.Fits n) := inferInstanceAs (Decidable (_ ∧ _))

def Value : Type := {n : ℤ // t.Fits n}

instance : DecidableEq t.Value := inferInstanceAs (DecidableEq {n : ℤ // t.Fits n})

variable {t}

theorem fits_cut (n : ℤ) : t.Fits ((n - t.low) % t.size + t.low) := by
  have hnonneg := Int.emod_nonneg (n - t.low) t.size_pos.ne'
  have hlt := Int.emod_lt_of_pos (n - t.low) t.size_pos
  exact ⟨by omega, by omega⟩

variable (t)

def cast (n : ℤ) : t.Value := ⟨(n - t.low) % t.size + t.low, fits_cut n⟩

variable {t}

variable (t)

def check (n : ℤ) : Option t.Value := if h : t.Fits n then some ⟨n, h⟩ else none

variable {t}

theorem check_eq_some_iff {v : t.Value} : t.check n = some v ↔ n = v.val := by
  unfold check
  by_cases h : t.Fits n
  · rw [dif_pos h]
    exact Option.some_inj.trans Subtype.ext_iff
  · rw [dif_neg h]
    exact iff_of_false (fun hsome => by cases hsome) fun heq => h (heq ▸ v.property)

theorem Value.ext {v w : t.Value} (h : v.val = w.val) : v = w := Subtype.ext h

theorem val_cast (h : t.Fits n) : (t.cast n).val = n := by
  have hlow := h.1
  have hhigh := h.2
  have hmod : (n - t.low) % t.size = n - t.low := Int.emod_eq_of_lt (by omega) (by omega)
  exact (congrArg (· + t.low) hmod).trans (Int.sub_add_cancel n t.low)

theorem cast_val (v : t.Value) : t.cast v.val = v := Value.ext (val_cast v.property)

theorem val_cast_eq_iff : (t.cast n).val = n ↔ t.Fits n :=
  ⟨fun h => h ▸ (t.cast n).property, val_cast⟩

theorem cast_eq_cast_iff : t.cast m = t.cast n ↔ m ≡ n [ZMOD t.size] := by
  have hval : t.cast m = t.cast n ↔ (m - t.low) % t.size = (n - t.low) % t.size :=
    Subtype.ext_iff.trans (Int.add_left_inj t.low)
  rw [hval]
  refine ⟨fun h => ?_, fun h => h.sub_right t.low⟩
  have hadd := Int.ModEq.add_right t.low h
  rwa [Int.sub_add_cancel, Int.sub_add_cancel] at hadd

theorem cast_eq_of_modEq (h : m ≡ n [ZMOD t.size]) : t.cast m = t.cast n := cast_eq_cast_iff.mpr h

theorem val_cast_modEq (n : ℤ) : (t.cast n).val ≡ n [ZMOD t.size] := by
  have hmod : (n - t.low) % t.size ≡ n - t.low [ZMOD t.size] := Int.mod_modEq _ _
  have hadd := hmod.add_right t.low
  rwa [Int.sub_add_cancel] at hadd

end IntType

end MachineIntegers
