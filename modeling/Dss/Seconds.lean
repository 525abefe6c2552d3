import Mathlib.Algebra.Order.Ring.Int

/-!
# Differences of times

`DateTime::difference` takes two times in seconds and casts what lies between them to an `int`. The
operators of `DateTime` compare this difference with zero, so that what is 68 years ahead counts as
past. The language leaves a cast that does not fit undefined; here it has the value that it has on
x86-64, the least `int`.
-/

namespace Dss

namespace DateTime

/-- `DateTime::difference` -/
def difference (t other : ℤ) : ℤ :=
  if -2 ^ 31 ≤ t - other ∧ t - other < 2 ^ 31 then t - other else -2 ^ 31

variable {t other n : ℤ}

/-- **A bound on the difference** is one on the times, and the times are not too far apart. -/
theorem le_difference_iff (hn : -2 ^ 31 < n) :
    n ≤ difference t other ↔ n ≤ t - other ∧ t - other < 2 ^ 31 := by
  rw [difference]
  split_ifs with h
  · omega
  · omega

theorem lt_difference_iff (hn : -2 ^ 31 ≤ n) :
    n < difference t other ↔ n < t - other ∧ t - other < 2 ^ 31 :=
  le_difference_iff (by omega)

/-- `operator<=` -/
theorem difference_nonpos_iff :
    difference t other ≤ 0 ↔ t ≤ other ∨ 2 ^ 31 ≤ t - other := by
  have h := @lt_difference_iff t other 0 (by decide)
  omega

end DateTime

end Dss
