import Dss.Blocks
import Dss.RecurringSchedule

/-!
# Dates as texts

`DateTime::toISO8601` writes a time in UTC, and `parseISO8601` reads such a text back: `mktime`
finds the time at which the clocks of the machine show its fields. Where no clock ever shows them,
as in the hour that is left out in spring, this is another time than the one that was written.

The fields are those of the years from 1970 to 9999, for which the buffer is large enough.
-/

namespace Dss

namespace DateTime

/-! ## The calendar -/

def isLeap (year : ℕ) : Bool := year % 4 = 0 && (year % 100 ≠ 0 || year % 400 = 0)

def yearLength (year : ℕ) : ℕ := if isLeap year then 366 else 365

def monthLength (leap : Bool) : ℕ → ℕ
  | 2 => if leap then 29 else 28
  | 4 | 6 | 9 | 11 => 30
  | _ => 31

def daysBefore (year : ℕ) : ℤ :=
  365 * ((year : ℤ) - 1970) +
    (((year : ℤ) - 1) / 4 - ((year : ℤ) - 1) / 100 + ((year : ℤ) - 1) / 400) - 477

/-- `struct tm`, with the year itself and the months from 1. -/
structure Tm : Type where
  /-- `tm_year` -/
  year : ℕ
  /-- `tm_mon` -/
  month : ℕ
  /-- `tm_mday` -/
  day : ℕ
  /-- `tm_hour` -/
  hour : ℕ
  /-- `tm_min` -/
  min : ℕ
  /-- `tm_sec` -/
  sec : ℕ
  deriving DecidableEq

def Tm.clock (tm : Tm) : ℤ :=
  (daysBefore tm.year + Blocks.offset (monthLength (isLeap tm.year)) 1 (tm.month - 1) +
    ((tm.day : ℤ) - 1)) * 86400 + (tm.hour * 3600 + tm.min * 60 + tm.sec)

def endOfTime : ℕ := 253402300800

/-- `gmtime_r`, from 1970 on. -/
def gmtime (time : ℕ) : Tm :=
  let year := Blocks.locate yearLength 8030 1970 (time / 86400)
  let month := Blocks.locate (monthLength (isLeap (1970 + year.1))) 12 1 year.2
  { year := 1970 + year.1, month := 1 + month.1, day := month.2 + 1,
    hour := time % 86400 / 3600, min := time % 3600 / 60, sec := time % 60 }

theorem daysBefore_succ (year : ℕ) : daysBefore (year + 1) = daysBefore year + yearLength year := by
  rw [daysBefore, daysBefore, yearLength, isLeap]
  by_cases h4 : year % 4 = 0
  · by_cases h100 : year % 100 = 0
    · by_cases h400 : year % 400 = 0
      · simp [h4, h100, h400]
        omega
      · simp [h4, h100, h400]
        omega
    · simp [h4, h100]
      omega
  · simp [h4]
    omega

theorem daysBefore_add (k : ℕ) : daysBefore (1970 + k) = Blocks.offset yearLength 1970 k := by
  induction k with
  | zero => decide
  | succ k ih => rw [Blocks.offset_succ, ← Nat.add_assoc, daysBefore_succ, ih, Nat.cast_add]

theorem offset_monthLength (leap : Bool) :
    Blocks.offset (monthLength leap) 1 12 = if leap then 366 else 365 := by
  cases leap <;> rfl

theorem monthLength_le (leap : Bool) (month : ℕ) : monthLength leap month ≤ 31 := by
  rw [monthLength.eq_def]
  split
  · split_ifs <;> decide
  all_goals decide

/-- The fields of a date. -/
structure Tm.Valid (tm : Tm) : Prop where
  year : tm.year ≤ 9999
  month : 1 ≤ tm.month ∧ tm.month ≤ 12
  day : 1 ≤ tm.day ∧ tm.day ≤ 31
  hour : tm.hour ≤ 23
  min : tm.min ≤ 59
  sec : tm.sec ≤ 59

theorem gmtime_blocks {time : ℕ} (h : time < endOfTime) :
    ∃ year month day, gmtime time =
        { year := 1970 + year, month := 1 + month, day := day + 1,
          hour := time % 86400 / 3600, min := time % 3600 / 60, sec := time % 60 } ∧
      year < 8030 ∧ month < 12 ∧ day < 31 ∧
      Blocks.offset yearLength 1970 year +
        (Blocks.offset (monthLength (isLeap (1970 + year))) 1 month + day) = time / 86400 := by
  have hdays : time / 86400 < Blocks.offset yearLength 1970 8030 := by
    have hend : (Blocks.offset yearLength 1970 8030 : ℤ) = 2932897 := by
      rw [← daysBefore_add]
      decide
    rw [endOfTime] at h
    omega
  obtain ⟨hyear, hlength, hoffset⟩ := Blocks.locate_spec hdays
  rw [gmtime]
  generalize Blocks.locate yearLength 8030 1970 (time / 86400) = year at *
  have hday : year.2 < Blocks.offset (monthLength (isLeap (1970 + year.1))) 1 12 := by
    rw [offset_monthLength]
    exact hlength
  obtain ⟨hmonth, hmonthLength, hday'⟩ := Blocks.locate_spec hday
  refine ⟨_, _, _, rfl, hyear, hmonth, hmonthLength.trans_le (monthLength_le _ _), ?_⟩
  rw [hday', hoffset]

theorem valid_gmtime {time : ℕ} (h : time < endOfTime) : (gmtime time).Valid := by
  obtain ⟨year, month, day, heq, hyear, hmonth, hday, -⟩ := gmtime_blocks h
  rw [heq]
  refine ⟨?_, ⟨?_, ?_⟩, ⟨?_, ?_⟩, ?_, ?_, ?_⟩ <;> dsimp only <;> omega

theorem clock_gmtime {time : ℕ} (h : time < endOfTime) : (gmtime time).clock = time := by
  obtain ⟨year, month, day, heq, -, -, -, hdays⟩ := gmtime_blocks h
  rw [heq, Tm.clock, daysBefore_add]
  rw [Nat.add_sub_cancel_left]
  push_cast
  omega

/-! ## Writing -/

def digit (n : ℕ) : Char := Char.ofNat (48 + n)

/-- `%m` and the other fields of two digits -/
def twoDigits (n : ℕ) : List Char := [digit (n / 10), digit (n % 10)]

/-- `%Y`, from the year 1000 on -/
def fourDigits (n : ℕ) : List Char :=
  [digit (n / 1000), digit (n / 100 % 10), digit (n / 10 % 10), digit (n % 10)]

/-- `strftime` with `%FT%TZ` -/
def strftime (tm : Tm) : List Char :=
  fourDigits tm.year ++ '-' :: (twoDigits tm.month ++ '-' :: (twoDigits tm.day ++
    'T' :: (twoDigits tm.hour ++ ':' :: (twoDigits tm.min ++ ':' :: (twoDigits tm.sec ++ ['Z'])))))

/-- `toISO8601` of a time, in seconds. -/
def toISO8601 (time : ℕ) : String := String.ofList (strftime (gmtime time))

/-! ## Reading -/

/-- The further digits that `get_number` reads, at most so many: none that would be too high. -/
def readNumber (high : ℕ) : ℕ → ℕ → List Char → ℕ × List Char
  | 0, value, cs => (value, cs)
  | _ + 1, value, [] => (value, [])
  | digits + 1, value, c :: cs =>
    match digitValue 10 c with
    | some d =>
      if value * 10 ≤ high then readNumber high digits (value * 10 + d) cs else (value, c :: cs)
    | none => (value, c :: cs)

/-- `get_number` of `strptime` -/
def getNumber (low high digits : ℕ) (text : List Char) : Option (ℕ × List Char) :=
  match text.dropWhile (· = ' ') with
  | [] => none
  | c :: cs =>
    match digitValue 10 c with
    | some d =>
      let number := readNumber high (digits - 1) d cs
      if low ≤ number.1 ∧ number.1 ≤ high then some number else none
    | none => none

/-- `match_char` of `strptime` -/
def matchChar (c : Char) : List Char → Option (List Char)
  | x :: cs => if x = c then some cs else none
  | [] => none

/-- `strptime` with `%FT%TZ`, for a text that ends with the `Z`. -/
def strptime (text : List Char) : Option Tm := do
  let (year, cs) ← getNumber 0 9999 4 text
  let (month, cs) ← getNumber 1 12 2 (← matchChar '-' cs)
  let (day, cs) ← getNumber 1 31 2 (← matchChar '-' cs)
  let (hour, cs) ← getNumber 0 23 2 (← matchChar 'T' cs)
  let (min, cs) ← getNumber 0 59 2 (← matchChar ':' cs)
  let (sec, cs) ← getNumber 0 61 2 (← matchChar ':' cs)
  if (← matchChar 'Z' cs) = [] then
    some { year := year, month := month, day := day, hour := hour, min := min, sec := sec }
  else none

/-- `convertTZ`: the time at which clocks that are ahead of UTC by `tzOffset` show this. -/
def convertTZ (z : TimeZone) (clock tzOffset : ℤ) : Option ℤ :=
  let t0 := z.mktime clock
  if t0 = -1 then none else some (t0 - (tzOffset - z.offset t0))

/-! ## What is written can be read -/

theorem digitValue_digit {n : ℕ} (h : n < 10) : digitValue 10 (digit n) = some n := by
  have hall : ∀ n < 10, digitValue 10 (digit n) = some n := by decide
  exact hall n h

theorem digit_ne_blank {n : ℕ} (h : n < 10) : digit n ≠ ' ' := by
  have hall : ∀ n < 10, digit n ≠ ' ' := by decide
  exact hall n h

theorem getNumber_digit {low high digits d : ℕ} {cs : List Char} (hd : d < 10) :
    getNumber low high digits (digit d :: cs) =
      if low ≤ (readNumber high (digits - 1) d cs).1 ∧ (readNumber high (digits - 1) d cs).1 ≤ high
      then some (readNumber high (digits - 1) d cs) else none := by
  rw [getNumber, List.dropWhile_cons_of_neg (by simpa using digit_ne_blank hd)]
  dsimp only
  rw [digitValue_digit hd]

theorem readNumber_digit {high digits value d : ℕ} {cs : List Char} (hd : d < 10)
    (h : value * 10 ≤ high) :
    readNumber high (digits + 1) value (digit d :: cs) =
      readNumber high digits (value * 10 + d) cs := by
  rw [readNumber, digitValue_digit hd]
  exact if_pos h

theorem readNumber_zero (high value : ℕ) (cs : List Char) :
    readNumber high 0 value cs = (value, cs) := by
  rw [readNumber]

theorem getNumber_twoDigits {low high n : ℕ} {cs : List Char} (hlow : low ≤ n) (hhigh : n ≤ high)
    (h : n < 100) : getNumber low high 2 (twoDigits n ++ cs) = some (n, cs) := by
  have hvalue : n / 10 * 10 + n % 10 = n := by omega
  rw [twoDigits, List.cons_append, getNumber_digit (by omega), List.cons_append,
    readNumber_digit (by omega) (by omega), hvalue]
  exact if_pos ⟨hlow, hhigh⟩

theorem getNumber_fourDigits {n : ℕ} {cs : List Char} (h : n ≤ 9999) :
    getNumber 0 9999 4 (fourDigits n ++ cs) = some (n, cs) := by
  have hvalue : ((n / 1000 * 10 + n / 100 % 10) * 10 + n / 10 % 10) * 10 + n % 10 = n := by omega
  rw [fourDigits, List.cons_append, getNumber_digit (by omega), List.cons_append, List.cons_append,
    List.cons_append, readNumber_digit (by omega) (by omega),
    readNumber_digit (by omega) (by omega), readNumber_digit (by omega) (by omega),
    hvalue]
  exact if_pos ⟨Nat.zero_le n, h⟩

theorem matchChar_self (c : Char) (cs : List Char) : matchChar c (c :: cs) = some cs :=
  if_pos rfl

theorem strptime_strftime {tm : Tm} (h : tm.Valid) : strptime (strftime tm) = some tm := by
  obtain ⟨hyear, hmonth, hday, hhour, hmin, hsec⟩ := h
  simp only [strptime, strftime, getNumber_fourDigits hyear, matchChar_self,
    getNumber_twoDigits hmonth.1 hmonth.2 (by omega), getNumber_twoDigits hday.1 hday.2 (by omega),
    getNumber_twoDigits (Nat.zero_le _) hhour (by omega),
    getNumber_twoDigits (Nat.zero_le _) hmin (by omega),
    getNumber_twoDigits (Nat.zero_le _) (show tm.sec ≤ 61 by omega) (by omega),
    Option.bind_eq_bind, Option.bind_some, if_true]

theorem length_toISO8601 (time : ℕ) : (toISO8601 time).length = 20 := by
  rw [toISO8601, String.length_ofList]
  rfl

end DateTime

end Dss
