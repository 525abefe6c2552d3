import Dss.MachineIntegers
import Dss.Seconds
import Mathlib.Tactic.Ring

/-!
# Arithmetic on time stamps

A time stamp is a `struct timeval`. Hours, minutes and days become seconds in an `int`, and the
absolute value of the least `int` is negative. Two time stamps are compared by their difference in
seconds, which is an `int` too and leaves the microseconds out.
-/

namespace Dss

open MachineIntegers IntType

/-- `time_t` -/
def timeT : IntType := ⟨-2 ^ 63, 2 ^ 64, by decide⟩

/-- `struct timeval` -/
structure TimeVal : Type where
  sec : timeT.Value
  usec : ℤ
  deriving DecidableEq

namespace TimeVal

def instant (tv : TimeVal) : ℤ := tv.sec.val * 1000000 + tv.usec

/-- `timeradd` -/
def add (a b : TimeVal) : TimeVal :=
  let sec := timeT.cast (a.sec.val + b.sec.val)
  let usec := a.usec + b.usec
  if 1000000 ≤ usec then ⟨timeT.cast (sec.val + 1), usec - 1000000⟩ else ⟨sec, usec⟩

/-- `timersub` -/
def sub (a b : TimeVal) : TimeVal :=
  let sec := timeT.cast (a.sec.val - b.sec.val)
  let usec := a.usec - b.usec
  if usec < 0 then ⟨timeT.cast (sec.val - 1), usec + 1000000⟩ else ⟨sec, usec⟩

/-- The time so many microseconds later, as a count of seconds with 64 bits and microseconds below a
million. -/
def move (tv : TimeVal) (usec : ℤ) : TimeVal :=
  ⟨timeT.cast ((tv.instant + usec) / 1000000), (tv.instant + usec) % 1000000⟩

end TimeVal

/-- `DateTime`, with microseconds below a million. -/
structure TimeStamp : Type extends TimeVal where
  usec_nonneg : 0 ≤ usec
  usec_lt : usec < 1000000

namespace TimeStamp

/-! ## The code -/

/-- A product in `int`. -/
def times (n : int32.Value) (k : ℤ) : int32.Value := int32.cast (n.val * k)

/-- `tv.tv_sec += seconds` -/
def advance (t : TimeStamp) (seconds : int32.Value) : TimeVal :=
  { t.toTimeVal with sec := timeT.cast (t.sec.val + seconds.val) }

def addHour (t : TimeStamp) (hours : int32.Value) : TimeVal := t.advance (times (times hours 60) 60)

def addMinute (t : TimeStamp) (minutes : int32.Value) : TimeVal := t.advance (times minutes 60)

def addSeconds (t : TimeStamp) (seconds : int32.Value) : TimeVal := t.advance seconds

def addDay (t : TimeStamp) (days : int32.Value) : TimeVal :=
  t.advance (times (times (times days 24) 60) 60)

def addMilliSeconds (t : TimeStamp) (milliseconds : int32.Value) : TimeVal :=
  -- `abs`, which leaves the least `int` as it is
  let abs := int32.cast |milliseconds.val|
  let sec := timeT.cast (abs.val.tdiv 1000)
  let add : TimeVal := ⟨sec, (abs.val - sec.val * 1000) * 1000⟩
  if milliseconds.val < 0 then t.toTimeVal.sub add else t.toTimeVal.add add

/-- `difference`. What an `int` has no room for is not defined. -/
def difference (t other : TimeStamp) : Option int32.Value := int32.check (t.sec.val - other.sec.val)

/-- The comparisons -/
inductive Comparison : Type where
  /-- `operator==` -/
  | eq : Comparison
  /-- `operator!=` -/
  | ne : Comparison
  /-- `operator<` -/
  | lt : Comparison
  /-- `operator>` -/
  | gt : Comparison
  /-- `operator<=` -/
  | le : Comparison
  /-- `operator>=` -/
  | ge : Comparison
  deriving DecidableEq

def Comparison.holds : Comparison → ℤ → Bool
  | eq, d => d = 0
  | ne, d => d ≠ 0
  | lt, d => d < 0
  | gt, d => 0 < d
  | le, d => d ≤ 0
  | ge, d => 0 ≤ d

def compare (op : Comparison) (t other : TimeStamp) : Option Bool :=
  (t.difference other).map fun d => op.holds d.val

/-! ## The law -/

/-- The functions that add -/
inductive Addition : Type where
  /-- `addMilliSeconds` -/
  | milliSeconds : Addition
  /-- `addSeconds` -/
  | seconds : Addition
  /-- `addMinute` -/
  | minute : Addition
  /-- `addHour` -/
  | hour : Addition
  /-- `addDay` -/
  | day : Addition
  deriving DecidableEq

def Addition.apply : Addition → TimeStamp → int32.Value → TimeVal
  | milliSeconds => addMilliSeconds
  | seconds => addSeconds
  | minute => addMinute
  | hour => addHour
  | day => addDay

def Addition.unit : Addition → ℤ
  | milliSeconds => 1000
  | seconds => 1000000
  | minute => 60 * 1000000
  | hour => 3600 * 1000000
  | day => 86400 * 1000000

/-- The difference in whole seconds. -/
def DifferenceExact (t other : TimeStamp) : Prop :=
  ∃ d, t.difference other = some d ∧ d.val = (t.instant - other.instant).tdiv 1000000

def ComparisonsExact (t other : TimeStamp) : Prop :=
  ∀ op, compare op t other = some (op.holds (t.instant - other.instant))

/-- When an addition stays within the integers that it is made with. -/
def Addition.Fits : Addition → ℤ → Prop
  | milliSeconds, n => n ≠ -2 ^ 31
  | seconds, _ => True
  | minute, n => int32.Fits (n * 60)
  | hour, n => int32.Fits (n * 3600)
  | day, n => int32.Fits (n * 86400)

/-- The seconds have room in an `int`, and the microseconds do not go the other way. -/
def DifferenceFits (t other : TimeStamp) : Prop :=
  int32.Fits (t.sec.val - other.sec.val) ∧
    (other.sec.val < t.sec.val → other.usec ≤ t.usec) ∧
    (t.sec.val < other.sec.val → t.usec ≤ other.usec)

/-- The seconds have room in an `int`, and do not differ in their microseconds. -/
def ComparisonsFit (t other : TimeStamp) : Prop :=
  int32.Fits (t.sec.val - other.sec.val) ∧ (t.sec.val = other.sec.val → t.usec = other.usec)

/-! ## Seconds -/

theorem times_times (n : int32.Value) (j k : ℤ) : times (times n j) k = times n (j * k) := by
  refine cast_eq_of_modEq ?_
  rw [← mul_assoc]
  exact (val_cast_modEq _).mul_right k

/-- What is cut to an `int` agrees with it in 64 bits only if nothing is cut off. -/
theorem modEq_val_cast_iff {n : ℤ} (hlow : -2 ^ 62 ≤ n) (hhigh : n ≤ 2 ^ 62) :
    (int32.cast n).val ≡ n [ZMOD timeT.size] ↔ int32.Fits n := by
  rw [← val_cast_eq_iff]
  refine ⟨fun h => ?_, fun h => by rw [h]⟩
  obtain ⟨k, hk⟩ := h.dvd
  obtain ⟨hleast, hmost⟩ := (int32.cast n).property
  have hlimits : int32.low = -2 ^ 31 ∧ int32.low + int32.size = 2 ^ 31 := by decide
  have hsize : timeT.size = 2 ^ 64 := rfl
  rw [hsize] at hk
  omega

theorem move_seconds (t : TimeStamp) (n : ℤ) :
    t.toTimeVal.move (n * 1000000) = { t.toTimeVal with sec := timeT.cast (t.sec.val + n) } := by
  have hnonneg := t.usec_nonneg
  have hlt := t.usec_lt
  have hsec : (t.instant + n * 1000000) / 1000000 = t.sec.val + n := by
    rw [TimeVal.instant]
    omega
  have husec : (t.instant + n * 1000000) % 1000000 = t.usec := by
    rw [TimeVal.instant]
    omega
  rw [TimeVal.move, hsec, husec]

theorem advance_eq_move_iff (t : TimeStamp) {n : ℤ} (hlow : -2 ^ 62 ≤ n) (hhigh : n ≤ 2 ^ 62) :
    t.advance (int32.cast n) = t.toTimeVal.move (n * 1000000) ↔ int32.Fits n := by
  rw [move_seconds, advance, TimeVal.mk.injEq, and_iff_left rfl, cast_eq_cast_iff,
    ← modEq_val_cast_iff hlow hhigh]
  exact ⟨Int.ModEq.add_left_cancel' _, Int.ModEq.add_left _⟩

theorem advance_times_iff (t : TimeStamp) (n : int32.Value) {k : ℤ} (hlow : 0 ≤ k)
    (hhigh : k ≤ 86400) :
    t.advance (times n k) = t.toTimeVal.move (n.val * (k * 1000000)) ↔ int32.Fits (n.val * k) := by
  have hlimits : int32.low = -2 ^ 31 ∧ int32.low + int32.size = 2 ^ 31 := by decide
  obtain ⟨hleast, hmost⟩ := n.property
  have hlower : -2 ^ 31 * k ≤ n.val * k := Int.mul_le_mul_of_nonneg_right (by omega) hlow
  have hupper : n.val * k ≤ 2 ^ 31 * k := Int.mul_le_mul_of_nonneg_right (by omega) hlow
  rw [← mul_assoc]
  exact advance_eq_move_iff t (by omega) (by omega)

/-! ## Milliseconds -/

theorem cast_val_add (m n : ℤ) : timeT.cast ((timeT.cast m).val + n) = timeT.cast (m + n) :=
  cast_eq_of_modEq ((val_cast_modEq m).add_right n)

theorem cast_add_val (m n : ℤ) : timeT.cast (m + (timeT.cast n).val) = timeT.cast (m + n) :=
  cast_eq_of_modEq ((val_cast_modEq n).add_left m)

theorem cast_sub_val (m n : ℤ) : timeT.cast (m - (timeT.cast n).val) = timeT.cast (m - n) :=
  cast_eq_of_modEq ((val_cast_modEq n).sub_left m)

theorem add_eq_move (t : TimeStamp) {sec usec : ℤ} (hnonneg : 0 ≤ usec) (hlt : usec < 1000000) :
    t.toTimeVal.add ⟨timeT.cast sec, usec⟩ = t.toTimeVal.move (sec * 1000000 + usec) := by
  have htnonneg := t.usec_nonneg
  have htlt := t.usec_lt
  rw [TimeVal.add, TimeVal.move, TimeVal.instant]
  dsimp only
  rw [cast_add_val]
  split_ifs with hcarry
  · rw [cast_val_add, TimeVal.mk.injEq]
    refine ⟨congrArg _ ?_, ?_⟩ <;> omega
  · rw [TimeVal.mk.injEq]
    refine ⟨congrArg _ ?_, ?_⟩ <;> omega

theorem sub_eq_move (t : TimeStamp) {sec usec : ℤ} (hnonneg : 0 ≤ usec) (hlt : usec < 1000000) :
    t.toTimeVal.sub ⟨timeT.cast sec, usec⟩ = t.toTimeVal.move (-(sec * 1000000 + usec)) := by
  have htnonneg := t.usec_nonneg
  have htlt := t.usec_lt
  rw [TimeVal.sub, TimeVal.move, TimeVal.instant]
  dsimp only
  rw [cast_sub_val]
  split_ifs with hborrow
  · rw [sub_eq_add_neg, cast_val_add, TimeVal.mk.injEq]
    refine ⟨congrArg _ ?_, ?_⟩ <;> omega
  · rw [TimeVal.mk.injEq]
    refine ⟨congrArg _ ?_, ?_⟩ <;> omega

theorem val_timeT_cast {n : ℤ} (hlow : -2 ^ 62 ≤ n) (hhigh : n ≤ 2 ^ 62) :
    (timeT.cast n).val = n := by
  have hlimits : timeT.low = -2 ^ 63 ∧ timeT.low + timeT.size = 2 ^ 63 := by decide
  exact val_cast ⟨by omega, by omega⟩

theorem addMilliSeconds_of_ne (t : TimeStamp) {n : int32.Value} (h : n.val ≠ -2 ^ 31) :
    addMilliSeconds t n = t.toTimeVal.move (n.val * 1000) := by
  have hlimits : int32.low = -2 ^ 31 ∧ int32.low + int32.size = 2 ^ 31 := by decide
  obtain ⟨hleast, hmost⟩ := n.property
  have habs : (int32.cast |n.val|).val = |n.val| := by
    rcases le_or_gt 0 n.val with hsign | hsign
    · rw [abs_of_nonneg hsign]
      exact val_cast ⟨by omega, by omega⟩
    · rw [abs_of_neg hsign]
      exact val_cast ⟨by omega, by omega⟩
  have hnonneg : 0 ≤ |n.val| := abs_nonneg _
  have hle : |n.val| < 2 ^ 31 := abs_lt.mpr ⟨by omega, by omega⟩
  have hsec : |n.val|.tdiv 1000 = |n.val| / 1000 := Int.tdiv_eq_ediv_of_nonneg hnonneg
  rw [addMilliSeconds, habs, hsec, val_timeT_cast (by omega) (by omega)]
  have hmove : |n.val| / 1000 * 1000000 + (|n.val| - |n.val| / 1000 * 1000) * 1000 =
      |n.val| * 1000 := by omega
  split_ifs with hsign
  · rw [sub_eq_move t (by omega) (by omega), hmove, abs_of_neg hsign, Int.neg_mul, Int.neg_neg]
  · rw [add_eq_move t (by omega) (by omega), hmove, abs_of_nonneg (by omega)]

/-- The least `int` is added, and not subtracted. -/
theorem addMilliSeconds_least (t : TimeStamp) {n : int32.Value} (h : n.val = -2 ^ 31) :
    addMilliSeconds t n ≠ t.toTimeVal.move (n.val * 1000) := by
  have htnonneg := t.usec_nonneg
  have htlt := t.usec_lt
  have habs : (int32.cast |n.val|).val = -2 ^ 31 := by
    rw [h]
    decide
  have hsec : (timeT.cast ((-2 ^ 31 : ℤ).tdiv 1000)).val = -2147483 := by decide
  have hne :
      ¬ t.sec.val + 2147483 ≡ (t.instant + -2 ^ 31 * 1000) / 1000000 [ZMOD timeT.size] := by
    have hsize : timeT.size = 2 ^ 64 := rfl
    intro hmod
    obtain ⟨k, hk⟩ := hmod.dvd
    rw [hsize, TimeVal.instant] at hk
    omega
  intro heq
  rw [addMilliSeconds, TimeVal.move, habs, if_pos (by rw [h]; decide), TimeVal.sub] at heq
  dsimp only at heq
  rw [if_neg (by omega), h, TimeVal.mk.injEq, cast_eq_cast_iff] at heq
  exact hne heq.1

/-! ## Differences -/

theorem difference_eq_some_iff {t other : TimeStamp} {d : int32.Value} :
    t.difference other = some d ↔ t.sec.val - other.sec.val = d.val := check_eq_some_iff

theorem exists_difference_iff {t other : TimeStamp} :
    (∃ d, t.difference other = some d) ↔ int32.Fits (t.sec.val - other.sec.val) := by
  constructor
  · rintro ⟨d, hd⟩
    rw [difference_eq_some_iff.1 hd]
    exact d.property
  · exact fun h => ⟨⟨_, h⟩, difference_eq_some_iff.2 rfl⟩

/-- Where the difference is defined, it is that of the seconds. -/
theorem difference_seconds {t other : TimeStamp} {d : int32.Value}
    (h : t.difference other = some d) : DateTime.difference t.sec.val other.sec.val = d.val := by
  have hfits : int32.Fits (t.sec.val - other.sec.val) := exists_difference_iff.1 ⟨d, h⟩
  rw [← difference_eq_some_iff.1 h]
  exact if_pos hfits

theorem instant_sub (t other : TimeStamp) : t.instant - other.instant =
    (t.sec.val - other.sec.val) * 1000000 + (t.usec - other.usec) := by
  rw [TimeVal.instant, TimeVal.instant]
  omega

theorem tdiv_eq_iff {d u : ℤ} (hlow : -1000000 < u) (hhigh : u < 1000000) :
    (d * 1000000 + u).tdiv 1000000 = d ↔ (0 < d → 0 ≤ u) ∧ (d < 0 → u ≤ 0) := by
  rcases le_or_gt 0 (d * 1000000 + u) with hsign | hsign
  · rw [Int.tdiv_eq_ediv_of_nonneg hsign]
    omega
  · have hneg : (d * 1000000 + u).tdiv 1000000 = -((-(d * 1000000 + u)) / 1000000) := by
      rw [← Int.tdiv_eq_ediv_of_nonneg (by omega), Int.neg_tdiv, Int.neg_neg]
    omega

theorem differenceExact_iff (t other : TimeStamp) :
    DifferenceExact t other ↔ DifferenceFits t other := by
  have htnonneg := t.usec_nonneg
  have htlt := t.usec_lt
  have hononneg := other.usec_nonneg
  have holt := other.usec_lt
  have hdiv := @tdiv_eq_iff (t.sec.val - other.sec.val) (t.usec - other.usec) (by omega) (by omega)
  rw [DifferenceExact, DifferenceFits, ← exists_difference_iff, instant_sub]
  constructor
  · rintro ⟨d, hd, hexact⟩
    rw [← difference_eq_some_iff.1 hd] at hexact
    exact ⟨⟨d, hd⟩, fun h => by omega,
      fun h => by omega⟩
  · rintro ⟨⟨d, hd⟩, hpos, hneg⟩
    refine ⟨d, hd, ?_⟩
    rw [← difference_eq_some_iff.1 hd, eq_comm, hdiv]
    exact ⟨fun h => by omega, fun h => by omega⟩

theorem comparisonsExact_iff (t other : TimeStamp) :
    ComparisonsExact t other ↔ ComparisonsFit t other := by
  have htnonneg := t.usec_nonneg
  have htlt := t.usec_lt
  have hononneg := other.usec_nonneg
  have holt := other.usec_lt
  rw [ComparisonsExact, ComparisonsFit, ← exists_difference_iff, instant_sub]
  constructor
  · intro hexact
    obtain ⟨d, hd, hholds⟩ := Option.map_eq_some_iff.mp (hexact .eq)
    refine ⟨⟨d, hd⟩, fun hsec => ?_⟩
    rw [← difference_eq_some_iff.1 hd, Comparison.holds, Comparison.holds, decide_eq_decide]
      at hholds
    omega
  · rintro ⟨⟨d, hd⟩, husec⟩ op
    rw [compare, hd, Option.map_some, ← difference_eq_some_iff.1 hd]
    refine congrArg some ?_
    cases op <;> rw [Comparison.holds, Comparison.holds, decide_eq_decide] <;> omega

/-! ## The operations -/

/-- **When the arithmetic is exact.** -/
theorem arithmetic_exact_iff (t other : TimeStamp) :
    (∀ (op : Addition) (n : int32.Value),
      op.apply t n = t.toTimeVal.move (n.val * op.unit) ↔ op.Fits n.val) ∧
    (DifferenceExact t other ↔ DifferenceFits t other) ∧
    (ComparisonsExact t other ↔ ComparisonsFit t other) := by
  refine ⟨fun op n => ?_, differenceExact_iff t other, comparisonsExact_iff t other⟩
  cases op with
  | milliSeconds =>
    by_cases h : n.val = -2 ^ 31
    · exact iff_of_false (addMilliSeconds_least t h) (not_not_intro h)
    · exact iff_of_true (addMilliSeconds_of_ne t h) h
  | seconds => exact iff_of_true (move_seconds t n.val).symm trivial
  | minute => exact advance_times_iff t n (by decide) (by decide)
  | hour =>
    rw [Addition.apply, addHour, times_times]
    exact advance_times_iff t n (by decide) (by decide)
  | day =>
    rw [Addition.apply, addDay, times_times, times_times]
    exact advance_times_iff t n (by decide) (by decide)

def epoch : TimeStamp where
  toTimeVal := ⟨timeT.cast 0, 0⟩
  usec_nonneg := by decide
  usec_lt := by decide

/-- So many days do not fit. -/
theorem arithmetic_exact_fails :
    ¬ ((∀ (op : Addition) (t : TimeStamp) (n : int32.Value),
        op.apply t n = t.toTimeVal.move (n.val * op.unit)) ∧
      (∀ t other : TimeStamp, DifferenceExact t other) ∧
      ∀ t other : TimeStamp, ComparisonsExact t other) := by
  intro h
  have hday := h.1 .day epoch (int32.cast 24856)
  revert hday
  decide

end TimeStamp

end Dss
