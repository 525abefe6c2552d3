import Mathlib.Data.Nat.Notation

/-!
# Consecutive blocks

A line is laid out in blocks, one behind the other, whose lengths depend on their numbers. A point
on it lies in one block, at some distance from where the block begins.
-/

namespace Blocks

variable {len : ℕ → ℕ} {i fuel n : ℕ}

/-- How far so many blocks reach, from the block `i` on. -/
def offset (len : ℕ → ℕ) (i : ℕ) : ℕ → ℕ
  | 0 => 0
  | k + 1 => len i + offset len (i + 1) k

/-- How many blocks lie in front of a point, and its distance from the next one's beginning. -/
def locate (len : ℕ → ℕ) : ℕ → ℕ → ℕ → ℕ × ℕ
  | 0, _, n => (0, n)
  | fuel + 1, i, n =>
    if n < len i then (0, n)
    else
      let place := locate len fuel (i + 1) (n - len i)
      (place.1 + 1, place.2)

theorem offset_succ (k : ℕ) : offset len i (k + 1) = offset len i k + len (i + k) := by
  induction k generalizing i with
  | zero => rw [offset, offset, offset, Nat.add_zero, Nat.zero_add, Nat.add_zero]
  | succ k ih =>
    have hblock : i + 1 + k = i + (k + 1) := by omega
    rw [offset, ih, offset, hblock, Nat.add_assoc]

theorem locate_spec (h : n < offset len i fuel) :
    (locate len fuel i n).1 < fuel ∧
      (locate len fuel i n).2 < len (i + (locate len fuel i n).1) ∧
        offset len i (locate len fuel i n).1 + (locate len fuel i n).2 = n := by
  induction fuel generalizing i n with
  | zero => exact absurd h (Nat.not_lt_zero n)
  | succ fuel ih =>
    rw [locate]
    by_cases hlt : n < len i
    · rw [if_pos hlt]
      exact ⟨Nat.succ_pos fuel, hlt, Nat.zero_add n⟩
    · rw [if_neg hlt]
      rw [offset] at h
      have hrest : n - len i < offset len (i + 1) fuel := by omega
      have hplace := ih hrest
      dsimp only
      generalize locate len fuel (i + 1) (n - len i) = place at hplace
      obtain ⟨hfuel, hlen, hoffset⟩ := hplace
      have hblock : i + (place.1 + 1) = i + 1 + place.1 := by omega
      refine ⟨Nat.succ_lt_succ hfuel, ?_, ?_⟩
      · rw [hblock]
        exact hlen
      · rw [offset]
        omega

end Blocks
