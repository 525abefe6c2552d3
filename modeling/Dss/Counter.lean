import Mathlib.Algebra.Order.Ring.Int

/-!
# Wrapping counters compared by signed distance

A counter of `w + 1` bits counts events modulo `2 ^ (w + 1)`. Two of its values
are compared by the sign of their wrapped difference, which is right as long as
the true counts are less than `2 ^ w` apart, wherever the counter started.
-/

namespace Counter

variable {w : ℕ}

/-- The value of a counter that started at `c` and has counted `n` events. -/
def after (c : BitVec w) (n : ℕ) : BitVec w := c + BitVec.ofNat w n

@[simp] theorem after_zero (c : BitVec w) : after c 0 = c := by
  simp [after]

theorem after_add (c : BitVec w) (m n : ℕ) : after (after c m) n = after c (m + n) := by
  simp only [after, BitVec.add_assoc, BitVec.ofNat_add]

theorem after_sub (c : BitVec w) {m n : ℕ} (h : n ≤ m) :
    after c m - BitVec.ofNat w n = after c (m - n) := by
  obtain ⟨d, rfl⟩ := Nat.exists_eq_add_of_le' h
  rw [Nat.add_sub_cancel, ← after_add, after, BitVec.add_sub_cancel]

/-- The wrapped difference of two values of one counter is the number of events
between them, if that is less than half the range. -/
theorem toInt_after_sub_after (c : BitVec (w + 1)) {m n : ℕ} (hle : n ≤ m)
    (hlt : m < n + 2 ^ w) : (after c m - after c n).toInt = (m - n : ℕ) := by
  obtain ⟨d, rfl⟩ := Nat.exists_eq_add_of_le hle
  have hsub : after c (n + d) - after c n = BitVec.ofNat (w + 1) d := by
    rw [← after_add, after, BitVec.add_comm, BitVec.add_sub_cancel]
  rw [hsub, BitVec.toInt_eq_toNat_of_lt, BitVec.toNat_ofNat,
    Nat.mod_eq_of_lt (by omega), Nat.add_sub_cancel_left]
  rw [BitVec.toNat_ofNat, Nat.mod_eq_of_lt (by omega)]
  omega

/-- A value that is not ahead of another one by the signed test has been counted
no later, given that it is less than half the range ahead. -/
theorem le_of_not_ahead (c : BitVec (w + 1)) {m n : ℕ} (hlt : m < n + 2 ^ w)
    (h : ¬ 0 < (after c m - after c n).toInt) : m ≤ n := by
  by_contra hgt
  have := toInt_after_sub_after c (by omega) hlt
  omega

end Counter
