import Dss.WeatherInformation

/-!
# Time stamps, on any clocks

`parseRFC2445` and `parseISO8601` take the fields of a text for what the clocks of the machine show,
and have `mktime` find the time for that. So they fail where these clocks leave an hour out, and
where `mktime` finds the last second of 1969, which it answers a failure with. The minutes of an
offset behind a colon are read without the sign in front of the hours.
-/

namespace Dss

open List

/-! ## Clocks -/

/-- Clocks, with daylight-saving time or without. -/
structure Clocks : Type extends TimeZone where
  /-- `mktime` finds a time at which they show something, if there is one. -/
  mktime_shows : ∀ time, toTimeZone.shows (mktime (toTimeZone.shows time)) = toTimeZone.shows time

/-- The C library of a machine. -/
structure Machine : Type where
  clocks : Clocks
  strtod : List Char → Converted
  strtod_twoDigits : ∀ n < 100, strtod (DateTime.twoDigits n) = ⟨n, false, [], false⟩

namespace DateTime

/-- A date that there is, and a time of the day. -/
structure Fields : Type extends Tm where
  valid : toTm.Valid
  day_le : day ≤ monthLength (isLeap year) month

/-! ## RFC 2445 -/

/-- `strptime` with `%Y%m%dT%H%M%S` -/
def strptimeRFC2445 (text : List Char) : Option (Tm × List Char) := do
  let (year, cs) ← getNumber 0 9999 4 text
  let (month, cs) ← getNumber 1 12 2 cs
  let (day, cs) ← getNumber 1 31 2 cs
  let (hour, cs) ← getNumber 0 23 2 (← matchChar 'T' cs)
  let (min, cs) ← getNumber 0 59 2 cs
  let (sec, cs) ← getNumber 0 61 2 cs
  some ({ year := year, month := month, day := day, hour := hour, min := min, sec := sec }, cs)

def parseRFC2445 (z : TimeZone) (timeString : String) : Except String ℤ :=
  let utc := timeString.toList.getLast? = some 'Z'
  if timeString.utf8ByteSize ≠ 15 + if utc then 1 else 0 then
    .error ("RFC2445: too short " ++ timeString)
  else
    match strptimeRFC2445 (cString timeString).toList with
    | none => .error ("RFC2445: invalid " ++ timeString)
    | some (tm, rest) =>
      if (cString timeString).toList.length - rest.length ≠ 15 then
        .error ("RFC2445: invalid " ++ timeString)
      else
        let t0 := z.mktime tm.clock
        if t0 = -1 then .error ("RFC2445: mktime failure" ++ timeString)
        else .ok (if utc then t0 + z.offset t0 else t0)

/-- `YYYYMMDDTHHMMSSZ` -/
def rfc2445 (tm : Tm) : String :=
  String.ofList (fourDigits tm.year ++ (twoDigits tm.month ++ (twoDigits tm.day ++ 'T' ::
    (twoDigits tm.hour ++ (twoDigits tm.min ++ (twoDigits tm.sec ++ ['Z']))))))

/-- Some time is shown so, and `mktime` does not answer with the value for a failure. -/
def Found (z : TimeZone) (clock : ℤ) : Prop :=
  (∃ time, z.shows time = clock) ∧ z.mktime clock ≠ -1

/-! ## ISO 8601 -/

/-- What `%FT%T` writes behind the year, and what follows it. -/
def behindYear (tm : Tm) (rest : List Char) : List Char :=
  '-' :: (twoDigits tm.month ++ '-' :: (twoDigits tm.day ++ 'T' :: (twoDigits tm.hour ++
    ':' :: (twoDigits tm.min ++ ':' :: (twoDigits tm.sec ++ rest)))))

def cycle : ℤ := 146097 * 86400

/-- The year of a time in UTC. The calendar begins anew every 400 years. -/
def utcYear (time : ℤ) : ℤ := (gmtime (time % cycle).toNat).year + 400 * (time / cycle)

/-- `gmtime_r`, in a year from 0 on. -/
def utcFields (time : ℤ) : Tm := { gmtime (time % cycle).toNat with year := (utcYear time).toNat }

/-- `%Y` -/
def writeYear (year : ℤ) : List Char :=
  if year < 0 then '-' :: Nat.toDigits 10 year.natAbs else Nat.toDigits 10 year.toNat

/-- `toISO8601` of any time. If the text is too long, `strftime` leaves the buffer as it is, with
anything in it. -/
def writeISO8601 (time : ℤ) : Option String :=
  let text := writeYear (utcYear time) ++ behindYear (utcFields time) ['Z']
  if text.length ≤ 20 then some (String.ofList text) else none

/-- `strptime` with `%FT%T` -/
def scanFields (text : List Char) : Option (Tm × List Char) := do
  let (year, cs) ← getNumber 0 9999 4 text
  let (month, cs) ← getNumber 1 12 2 (← matchChar '-' cs)
  let (day, cs) ← getNumber 1 31 2 (← matchChar '-' cs)
  let (hour, cs) ← getNumber 0 23 2 (← matchChar 'T' cs)
  let (min, cs) ← getNumber 0 59 2 (← matchChar ':' cs)
  let (sec, cs) ← getNumber 0 61 2 (← matchChar ':' cs)
  some ({ year := year, month := month, day := day, hour := hour, min := min, sec := sec }, cs)

/-- `%z`, which reads two digits or four, and no colon. -/
def scanZone (text : List Char) : Option (ℤ × List Char) :=
  match text.dropWhile (· = ' ') with
  | [] => none
  | sign :: cs =>
    if sign = 'Z' then some (0, cs)
    else if sign = '+' ∨ sign = '-' then
      let (number, rest) := readNumber 9999 4 0 cs
      let digits := cs.length - rest.length
      let value := if digits = 2 then number * 100 else number
      if (digits = 2 ∨ digits = 4) ∧ value % 100 < 60 then
        let seconds : ℤ := value / 100 * 3600 + value % 100 * 60
        some (if sign = '-' then -seconds else seconds, rest)
      else none
    else none

/-- `strptime` with `%FT%TZ` or with `%FT%T%z` -/
def scan (utc : Bool) (text : List Char) : Option Scanned :=
  (scanFields text).bind fun (tm, cs) =>
    if utc then (matchChar 'Z' cs).map fun rest => ⟨tm.clock, 0, rest⟩
    else (scanZone cs).map fun (gmtoff, rest) => ⟨tm.clock, gmtoff, rest⟩

end DateTime

def Machine.libc (x : Machine) : Libc where
  strptime := DateTime.scan
  strtod := x.strtod
  zone := x.clocks.toTimeZone

/-- By how much the clocks of a text are ahead of UTC. -/
inductive UtcOffset : Type where
  /-- `Z` -/
  | utc : UtcOffset
  /-- `+hh:mm`, `-hh:mm`, `+hhmm` or `-hhmm` -/
  | offset (colon negative : Bool) (hours : Fin 100) (minutes : Fin 60) : UtcOffset
  deriving DecidableEq

namespace UtcOffset

def text : UtcOffset → List Char
  | utc => ['Z']
  | offset colon negative hours minutes =>
    (if negative then '-' else '+') :: (DateTime.twoDigits hours ++
      ((if colon then [':'] else []) ++ DateTime.twoDigits minutes))

def seconds : UtcOffset → ℤ
  | utc => 0
  | offset _ negative hours minutes =>
    let ahead : ℤ := hours.val * 3600 + minutes.val * 60
    if negative then -ahead else ahead

/-- How many seconds more are read: the minutes behind a colon are added, also behind a `-`. -/
def slip : UtcOffset → ℤ
  | offset true true _ minutes => minutes.val * 120
  | _ => 0

end UtcOffset

namespace DateTime

def localText (tm : Tm) (zone : UtcOffset) : String :=
  String.ofList (fourDigits tm.year ++ behindYear tm zone.text)

/-! ## The law -/

/-- What is written of a time is read as this time. -/
def ReadBack (x : Machine) (time : ℤ) : Prop :=
  ∃ text, writeISO8601 time = some text ∧ parseISO8601 x.libc text = .ok time

/-- A local time is read as what it shows, minus the offset. -/
def ReadRight (x : Machine) (tm : Fields) (zone : UtcOffset) : Prop :=
  parseISO8601 x.libc (localText tm.toTm zone) = .ok (tm.clock - zone.seconds)

/-! ## Texts of single bytes -/

/-- A character of a single byte, and not NUL. -/
def Ascii (c : Char) : Prop := c.utf8Size = 1 ∧ c ≠ '\x00'

instance (c : Char) : Decidable (Ascii c) := inferInstanceAs (Decidable (_ ∧ _))

theorem utf8ByteSize_ofList {cs : List Char} (h : ∀ c ∈ cs, Ascii c) :
    (String.ofList cs).utf8ByteSize = cs.length := by
  induction cs with
  | nil => rfl
  | cons c cs ih =>
    obtain ⟨hc, hcs⟩ := forall_mem_cons.mp h
    rw [← singleton_append, String.ofList_append, String.utf8ByteSize_append, ih hcs,
      length_append]
    congr 1
    exact String.utf8ByteSize_singleton.trans hc.1

theorem cString_ofList {cs : List Char} (h : ∀ c ∈ cs, Ascii c) :
    cString (String.ofList cs) = String.ofList cs := by
  refine PropertyNode.cString_of_not_mem fun hnul => ?_
  rw [String.toList_ofList] at hnul
  exact (h _ hnul).2 rfl

theorem ascii_digit {n : ℕ} (h : n < 10) : Ascii (digit n) := by
  have hall : ∀ n < 10, Ascii (digit n) := by decide
  exact hall n h

theorem ascii_twoDigits {n : ℕ} (h : n < 100) : ∀ c ∈ twoDigits n, Ascii c := by
  rw [twoDigits, forall_mem_cons, forall_mem_singleton]
  exact ⟨ascii_digit (by omega), ascii_digit (by omega)⟩

theorem ascii_fourDigits {n : ℕ} (h : n ≤ 9999) : ∀ c ∈ fourDigits n, Ascii c := by
  rw [fourDigits, forall_mem_cons, forall_mem_cons, forall_mem_cons,
    forall_mem_singleton]
  exact ⟨ascii_digit (by omega), ascii_digit (by omega), ascii_digit (by omega),
    ascii_digit (by omega)⟩

theorem length_twoDigits (n : ℕ) : (twoDigits n).length = 2 := rfl

theorem length_fourDigits (n : ℕ) : (fourDigits n).length = 4 := rfl

/-- Each field is read back by the number that `strptime` expects there. -/
theorem getNumber_fields {tm : Tm} (h : tm.Valid) (cs : List Char) :
    getNumber 0 9999 4 (fourDigits tm.year ++ cs) = some (tm.year, cs) ∧
      getNumber 1 12 2 (twoDigits tm.month ++ cs) = some (tm.month, cs) ∧
      getNumber 1 31 2 (twoDigits tm.day ++ cs) = some (tm.day, cs) ∧
      getNumber 0 23 2 (twoDigits tm.hour ++ cs) = some (tm.hour, cs) ∧
      getNumber 0 59 2 (twoDigits tm.min ++ cs) = some (tm.min, cs) ∧
      getNumber 0 61 2 (twoDigits tm.sec ++ cs) = some (tm.sec, cs) := by
  obtain ⟨hyear, hmonth, hday, hhour, hmin, hsec⟩ := h
  exact ⟨getNumber_fourDigits hyear, getNumber_twoDigits hmonth.1 hmonth.2 (by omega),
    getNumber_twoDigits hday.1 hday.2 (by omega),
    getNumber_twoDigits (Nat.zero_le _) hhour (by omega),
    getNumber_twoDigits (Nat.zero_le _) hmin (by omega),
    getNumber_twoDigits (Nat.zero_le _) (by omega) (by omega)⟩

theorem ascii_fields {tm : Tm} (h : tm.Valid) :
    (∀ c ∈ fourDigits tm.year, Ascii c) ∧ (∀ c ∈ twoDigits tm.month, Ascii c) ∧
      (∀ c ∈ twoDigits tm.day, Ascii c) ∧ (∀ c ∈ twoDigits tm.hour, Ascii c) ∧
      (∀ c ∈ twoDigits tm.min, Ascii c) ∧ ∀ c ∈ twoDigits tm.sec, Ascii c := by
  obtain ⟨hyear, hmonth, hday, hhour, hmin, hsec⟩ := h
  exact ⟨ascii_fourDigits hyear, ascii_twoDigits (by omega), ascii_twoDigits (by omega),
    ascii_twoDigits (by omega), ascii_twoDigits (by omega), ascii_twoDigits (by omega)⟩

/-! ## RFC 2445, read -/

theorem ascii_rfc2445 {tm : Tm} (h : tm.Valid) : ∀ c ∈ (rfc2445 tm).toList, Ascii c := by
  obtain ⟨hyear, hmonth, hday, hhour, hmin, hsec⟩ := ascii_fields h
  rw [rfc2445, String.toList_ofList]
  simp only [forall_mem_append, forall_mem_cons]
  exact ⟨hyear, hmonth, hday, by decide, hhour, hmin, hsec, by decide,
    fun c hc => absurd hc not_mem_nil⟩

theorem strptimeRFC2445_rfc2445 {tm : Tm} (h : tm.Valid) :
    strptimeRFC2445 (rfc2445 tm).toList = some (tm, ['Z']) := by
  rw [rfc2445, String.toList_ofList]
  simp only [strptimeRFC2445, getNumber_fields h, matchChar_self, Option.bind_eq_bind,
    Option.bind_some]

theorem parseRFC2445_rfc2445 (z : TimeZone) {tm : Tm} (h : tm.Valid) :
    parseRFC2445 z (rfc2445 tm) =
      if z.mktime tm.clock = -1 then .error ("RFC2445: mktime failure" ++ rfc2445 tm)
      else .ok (z.shows (z.mktime tm.clock)) := by
  have hascii := ascii_rfc2445 h
  have hlist : (rfc2445 tm).toList = fourDigits tm.year ++ (twoDigits tm.month ++
      (twoDigits tm.day ++ 'T' :: (twoDigits tm.hour ++ (twoDigits tm.min ++
        (twoDigits tm.sec ++ ['Z']))))) := String.toList_ofList
  have hlast : (rfc2445 tm).toList.getLast? = some 'Z' := by
    rw [hlist]
    rfl
  have hlength : (rfc2445 tm).toList.length = 16 := by
    rw [hlist]
    rfl
  have hsize : (rfc2445 tm).utf8ByteSize = 16 := by
    rw [← hlength, ← utf8ByteSize_ofList hascii, String.ofList_toList]
  have hcString : cString (rfc2445 tm) = rfc2445 tm := by
    rw [← String.ofList_toList (s := rfc2445 tm)]
    exact cString_ofList hascii
  rw [parseRFC2445]
  simp only [hlast, if_true, hsize, hcString, strptimeRFC2445_rfc2445 h, hlength]
  rfl

theorem found_iff (z : Clocks) (clock : ℤ) :
    Found z.toTimeZone clock ↔ z.mktime clock ≠ -1 ∧ z.shows (z.mktime clock) = clock := by
  constructor
  · rintro ⟨⟨time, rfl⟩, hfail⟩
    exact ⟨hfail, z.mktime_shows time⟩
  · rintro ⟨hfail, hshows⟩
    exact ⟨⟨_, hshows⟩, hfail⟩

/-- **Where a time in UTC is read.** The clocks of the machine must show its fields at some time. -/
theorem parseRFC2445_exact_iff (z : Clocks) (tm : Fields) :
    parseRFC2445 z.toTimeZone (rfc2445 tm.toTm) = .ok tm.clock ↔ Found z.toTimeZone tm.clock := by
  rw [found_iff, parseRFC2445_rfc2445 _ tm.valid]
  by_cases hfail : z.mktime tm.clock = -1
  · rw [if_pos hfail]
    exact iff_of_false (fun h => by cases h) fun h => h.1 hfail
  · rw [if_neg hfail]
    exact ⟨fun h => ⟨hfail, Except.ok.inj h⟩, fun h => congrArg Except.ok h.2⟩

/-- Where summer time begins on the 28th of March 2021. -/
def zurich : TimeZone where
  offset time := if time < 1616893200 then 3600 else 7200
  mktime clock := if clock < 1616900400 then clock - 3600 else clock - 7200

theorem zurich_mktime_shows (time : ℤ) :
    zurich.shows (zurich.mktime (zurich.shows time)) = zurich.shows time := by
  simp only [TimeZone.shows, zurich]
  split_ifs <;> omega

def zurichClocks : Clocks := ⟨zurich, zurich_mktime_shows⟩

def springFields : Fields where
  toTm := { year := 2021, month := 3, day := 28, hour := 2, min := 30, sec := 0 }
  valid := by refine ⟨?_, ⟨?_, ?_⟩, ⟨?_, ?_⟩, ?_, ?_, ?_⟩ <;> decide
  day_le := by decide

/-- Half past two, on the day on which the clocks in Zurich skip it. -/
theorem parseRFC2445_fails :
    ¬ ∀ (z : Clocks) (tm : Fields),
      parseRFC2445 z.toTimeZone (rfc2445 tm.toTm) = .ok tm.clock := by
  intro h
  have hspring := h zurichClocks springFields
  rw [parseRFC2445_rfc2445 _ springFields.valid] at hspring
  revert hspring
  decide

/-! ## Fields -/

theorem scanFields_behindYear {tm : Tm} (h : tm.Valid) (rest : List Char) :
    scanFields (fourDigits tm.year ++ behindYear tm rest) = some (tm, rest) := by
  simp only [scanFields, behindYear, getNumber_fields h, matchChar_self, Option.bind_eq_bind,
    Option.bind_some]

theorem ascii_behindYear {tm : Tm} (h : tm.Valid) {rest : List Char} (hrest : ∀ c ∈ rest, Ascii c) :
    ∀ c ∈ behindYear tm rest, Ascii c := by
  obtain ⟨-, hmonth, hday, hhour, hmin, hsec⟩ := ascii_fields h
  simp only [behindYear, forall_mem_append, forall_mem_cons]
  exact ⟨by decide, hmonth, by decide, hday, by decide, hhour, by decide, hmin, by decide, hsec,
    hrest⟩

theorem length_behindYear (tm : Tm) (rest : List Char) :
    (behindYear tm rest).length = rest.length + 15 := rfl

/-! ## Offsets -/

theorem readNumber_two {high digits value n : ℕ} (h : n < 100) (hhigh : value * 100 + n ≤ high)
    (cs : List Char) : readNumber high (digits + 2) value (twoDigits n ++ cs) =
      readNumber high digits (value * 100 + n) cs := by
  have hvalue : (value * 10 + n / 10) * 10 + n % 10 = value * 100 + n := by omega
  rw [twoDigits, cons_append, readNumber_digit (by omega) (by omega), cons_append,
    nil_append, readNumber_digit (by omega) (by omega), hvalue]

theorem readNumber_four {n m : ℕ} (h : n < 100) (hm : m < 60) :
    readNumber 9999 4 0 (twoDigits n ++ twoDigits m) = (n * 100 + m, []) := by
  have hvalue : (0 * 100 + n) * 100 + m = n * 100 + m := by omega
  rw [readNumber_two h (by omega), ← append_nil (twoDigits m),
    readNumber_two (by omega) (by omega), readNumber_zero, hvalue]

theorem scanZone_plain (negative : Bool) (hours : Fin 100) (minutes : Fin 60) :
    scanZone (UtcOffset.offset false negative hours minutes).text =
      some ((UtcOffset.offset false negative hours minutes).seconds, []) := by
  have hminutes : (hours.val * 100 + minutes.val) % 100 = minutes := by omega
  cases negative <;>
    simp [scanZone, UtcOffset.text, UtcOffset.seconds, readNumber_four hours.isLt minutes.isLt,
      length_twoDigits, hminutes] <;> omega

/-- Of an offset with a colon, the hours are read. -/
theorem scanZone_colon (negative : Bool) (hours : Fin 100) (minutes : Fin 60) :
    scanZone (UtcOffset.offset true negative hours minutes).text =
      some ((UtcOffset.offset true negative hours 0).seconds, ':' :: twoDigits minutes) := by
  have hnumber : readNumber 9999 4 0 (twoDigits hours ++ ':' :: twoDigits minutes) =
      (hours.val, ':' :: twoDigits minutes) := by
    rw [readNumber_two hours.isLt (by omega), Nat.zero_add]
    rfl
  cases negative <;> simp [scanZone, UtcOffset.text, UtcOffset.seconds, hnumber, length_twoDigits]

/-! ## Local times, read -/

theorem ascii_text (zone : UtcOffset) : ∀ c ∈ zone.text, Ascii c := by
  cases zone with
  | utc => exact forall_mem_of_all (by decide)
  | offset colon negative hours minutes =>
    have hhours := ascii_twoDigits hours.isLt
    have hminutes := ascii_twoDigits (minutes.isLt.trans (by decide : 60 < 100))
    simp only [UtcOffset.text, forall_mem_cons, forall_mem_append]
    refine ⟨?_, hhours, ?_, hminutes⟩
    · cases negative <;> decide
    · cases colon <;> exact forall_mem_of_all (by decide)

theorem digit_ne_Z {n : ℕ} (h : n < 10) : digit n ≠ 'Z' := by
  have hall : ∀ n < 10, digit n ≠ 'Z' := by decide
  exact hall n h

theorem getLast?_text (zone : UtcOffset) (front : List Char) :
    (front ++ zone.text).getLast? = some 'Z' ↔ zone = .utc := by
  cases zone with
  | utc => exact iff_of_true (getLast?_concat) rfl
  | offset colon negative hours minutes =>
    have hlast : (front ++ (UtcOffset.offset colon negative hours minutes).text).getLast? =
        some (digit (minutes % 10)) := by
      cases colon <;> simp [UtcOffset.text, twoDigits, getLast?_append]
    rw [hlast]
    exact iff_of_false (fun h => digit_ne_Z (by omega) (Option.some.inj h)) fun h => by cases h

theorem length_text (zone : UtcOffset) : 19 + zone.text.length ∈ [25, 24, 23, 22, 20] := by
  cases zone with
  | utc => decide
  | offset colon negative hours minutes => cases colon <;> simp [UtcOffset.text, length_twoDigits]

theorem tzOffset_localText (x : Machine) (text : String) (clock : ℤ) (zone : UtcOffset) :
    ∃ tm, (if zone = .utc then (matchChar 'Z' zone.text).map fun rest => ⟨clock, 0, rest⟩
        else (scanZone zone.text).map fun (gmtoff, rest) => ⟨clock, gmtoff, rest⟩) = some tm ∧
      tm.clock = clock ∧ tzOffset x.libc text tm = .ok (zone.seconds + zone.slip) := by
  cases zone with
  | utc => exact ⟨⟨clock, 0, []⟩, rfl, rfl, rfl⟩
  | offset colon negative hours minutes =>
    cases colon with
    | false =>
      rw [scanZone_plain]
      refine ⟨_, rfl, rfl, ?_⟩
      cases negative <;> exact congrArg Except.ok (Int.add_zero _).symm
    | true =>
      rw [scanZone_colon]
      refine ⟨_, rfl, rfl, ?_⟩
      have hstrtod : x.libc.strtod (twoDigits minutes) = ⟨(minutes : ℕ), false, [], false⟩ :=
        x.strtod_twoDigits _ (by omega)
      simp only [tzOffset, twoDigits] at hstrtod ⊢
      rw [hstrtod]
      cases negative
      · simp [UtcOffset.seconds, UtcOffset.slip]
      · simp [UtcOffset.seconds, UtcOffset.slip]
        omega

theorem parseISO8601_localText (x : Machine) {tm : Tm} (h : tm.Valid) (zone : UtcOffset) :
    parseISO8601 x.libc (localText tm zone) =
      match convertTZ x.clocks.toTimeZone tm.clock (zone.seconds + zone.slip) with
      | none => .error ("ISO8601: mktime " ++ localText tm zone)
      | some time => .ok time := by
  have hascii : ∀ c ∈ fourDigits tm.year ++ behindYear tm zone.text, Ascii c :=
    forall_mem_append.mpr ⟨ascii_fourDigits h.year, ascii_behindYear h (ascii_text zone)⟩
  have hsize : (localText tm zone).utf8ByteSize = 19 + zone.text.length := by
    rw [localText, utf8ByteSize_ofList hascii, length_append, length_fourDigits,
      length_behindYear]
    omega
  have hlast : (localText tm zone).toList.getLast? = some 'Z' ↔ zone = .utc := by
    have hend : fourDigits tm.year ++ behindYear tm zone.text =
        fourDigits tm.year ++ behindYear tm [] ++ zone.text := by
      simp only [behindYear, append_assoc, cons_append, nil_append]
    rw [localText, String.toList_ofList, hend, getLast?_text]
  obtain ⟨scanned, hscan, hclock, hoffset⟩ :=
    tzOffset_localText x (localText tm zone) tm.clock zone
  have hstrptime : x.libc.strptime (decide ((localText tm zone).toList.getLast? = some 'Z'))
      (cString (localText tm zone)).toList = some scanned := by
    have htext : (cString (localText tm zone)).toList =
        fourDigits tm.year ++ behindYear tm zone.text := by
      rw [localText, cString_ofList hascii, String.toList_ofList]
    have hutc : decide ((localText tm zone).toList.getLast? = some 'Z') = decide (zone = .utc) :=
      decide_eq_decide.mpr hlast
    have hlibc : x.libc.strptime = scan := rfl
    rw [hlibc, hutc, htext, scan, scanFields_behindYear h, Option.bind_some, ← hscan]
    simp only [decide_eq_true_eq]
  rw [parseISO8601, if_neg (by rw [hsize]; exact not_not_intro (length_text zone))]
  simp only [hstrptime, hoffset, hclock]
  rfl

/-- **Where a local time is read as it should be.** The time that `mktime` finds must show as many
seconds more as are read of the offset. -/
theorem parseISO8601_eq_iff (x : Machine) {tm : Tm} (h : tm.Valid) (zone : UtcOffset) :
    parseISO8601 x.libc (localText tm zone) = .ok (tm.clock - zone.seconds) ↔
      x.clocks.mktime tm.clock ≠ -1 ∧
        x.clocks.shows (x.clocks.mktime tm.clock) = tm.clock + zone.slip := by
  rw [parseISO8601_localText x h, convertTZ]
  by_cases hfail : x.clocks.mktime tm.clock = -1
  · simp [hfail]
  · simp only [hfail, if_false, TimeZone.shows, not_false_eq_true, ne_eq, true_and,
      Except.ok.injEq]
    constructor <;> intro h <;> omega

/-! ## Times in UTC -/

theorem gmtime_lt {time : ℤ} : (time % cycle).toNat < endOfTime := by
  rw [cycle, endOfTime]
  omega

theorem valid_utcFields {time : ℤ} (h : utcYear time ≤ 9999) : (utcFields time).Valid := by
  have hvalid := valid_gmtime (@gmtime_lt time)
  refine ⟨?_, hvalid.month, hvalid.day, hvalid.hour, hvalid.min, hvalid.sec⟩
  show (utcYear time).toNat ≤ 9999
  omega

theorem clock_utcFields {time : ℤ} (h : 0 ≤ utcYear time) : (utcFields time).clock = time := by
  have hclock := clock_gmtime (@gmtime_lt time)
  have hyear : ((utcFields time).year : ℤ) =
      (gmtime (time % cycle).toNat).year + 400 * (time / cycle) := Int.toNat_of_nonneg h
  have hleap : isLeap (utcFields time).year = isLeap (gmtime (time % cycle).toNat).year := by
    have h4 : (utcFields time).year % 4 = (gmtime (time % cycle).toNat).year % 4 := by omega
    have h100 : (utcFields time).year % 100 = (gmtime (time % cycle).toNat).year % 100 := by omega
    have h400 : (utcFields time).year % 400 = (gmtime (time % cycle).toNat).year % 400 := by omega
    rw [isLeap, isLeap, h4, h100, h400]
  have hdays : daysBefore (utcFields time).year =
      daysBefore (gmtime (time % cycle).toNat).year + 146097 * (time / cycle) := by
    rw [daysBefore, daysBefore]
    omega
  have htime : time = 12622780800 * (time / cycle) + time % cycle :=
    (Int.mul_ediv_add_emod time cycle).symm
  have hmod : ((time % cycle).toNat : ℤ) = time % cycle :=
    Int.toNat_of_nonneg (Int.emod_nonneg _ (by decide))
  rw [Tm.clock, hleap, hdays]
  rw [Tm.clock] at hclock
  simp only [utcFields] at hclock ⊢
  omega

theorem toDigits_year {year : ℕ} (hlow : 1000 ≤ year) (hhigh : year ≤ 9999) :
    Nat.toDigits 10 year = fourDigits year := by
  have hdigit : ∀ n < 10, Nat.digitChar n = digit n := by decide
  rw [Nat.toDigits_of_base_le (by decide) (by omega),
    Nat.toDigits_of_base_le (by decide) (by omega),
    Nat.toDigits_of_base_le (by decide) (by omega), Nat.toDigits_of_lt_base (by omega),
    hdigit _ (by omega), hdigit _ (by omega), hdigit _ (by omega), hdigit _ (by omega), fourDigits]
  simp [Nat.div_div_eq_div_mul]

theorem writeISO8601_eq {time : ℤ} (hlow : 1000 ≤ utcYear time) (hhigh : utcYear time ≤ 9999) :
    writeISO8601 time = some (localText (utcFields time) .utc) := by
  have hyear : writeYear (utcYear time) = fourDigits (utcFields time).year := by
    rw [writeYear, if_neg (by omega)]
    exact toDigits_year (by omega) (by omega)
  rw [writeISO8601, hyear]
  exact if_pos (by
    rw [length_append, length_fourDigits, length_behindYear]
    decide)

theorem ascii_of_isDigit {c : Char} (h : c.isDigit = true) : Ascii c := by
  rw [Char.isDigit, Bool.and_eq_true, decide_eq_true_eq, decide_eq_true_eq] at h
  refine ⟨?_, ?_⟩
  · exact if_pos (UInt32.le_trans h.2 (by decide))
  · rintro rfl
    exact absurd h.1 (by decide)

theorem ascii_toDigits (n : ℕ) : ∀ c ∈ Nat.toDigits 10 n, Ascii c := fun _ hc =>
  ascii_of_isDigit (Nat.isDigit_of_mem_toDigits (by decide) (by decide) hc)

/-- Behind a sign there is no year. -/
theorem parseISO8601_sign (x : Machine) (cs : List Char) (time : ℤ) :
    parseISO8601 x.libc (String.ofList ('-' :: cs)) ≠ .ok time := by
  have htext : (cString (String.ofList ('-' :: cs))).toList =
      '-' :: cs.takeWhile (· ≠ '\x00') := by
    rw [cString, String.toList_ofList, String.toList_ofList]
    rfl
  have hscan : ∀ utc, x.libc.strptime utc (cString (String.ofList ('-' :: cs))).toList = none := by
    intro utc
    rw [htext]
    rfl
  rw [parseISO8601]
  split_ifs
  · rw [hscan]
    exact fun h => by cases h
  · exact fun h => by cases h

/-- A year of fewer digits makes the text too short. -/
theorem parseISO8601_short (x : Machine) {year : ℕ} (h : year < 1000) (tm : Tm) (hvalid : tm.Valid)
    (time : ℤ) :
    parseISO8601 x.libc (String.ofList (Nat.toDigits 10 year ++ behindYear tm ['Z'])) ≠
      .ok time := by
  have hascii : ∀ c ∈ Nat.toDigits 10 year ++ behindYear tm ['Z'], Ascii c :=
    forall_mem_append.mpr
      ⟨ascii_toDigits year, ascii_behindYear hvalid (forall_mem_of_all (by decide))⟩
  have hle : (Nat.toDigits 10 year).length ≤ 3 :=
    (Nat.length_toDigits_le_iff (by decide) (by decide)).mpr h
  have hsize : (String.ofList (Nat.toDigits 10 year ++ behindYear tm ['Z'])).utf8ByteSize =
      (Nat.toDigits 10 year).length + 16 := by
    rw [utf8ByteSize_ofList hascii, length_append]
    rfl
  rw [parseISO8601, if_pos]
  · exact fun h => by cases h
  · simp only [mem_cons, not_mem_nil, or_false]
    omega

theorem year_of_readBack {x : Machine} {time : ℤ} (h : ReadBack x time) :
    1000 ≤ utcYear time ∧ utcYear time ≤ 9999 := by
  obtain ⟨text, hwrite, hread⟩ := h
  rw [writeISO8601] at hwrite
  split_ifs at hwrite with hfit
  obtain rfl := Option.some.inj hwrite
  rw [length_append, length_behindYear, length_singleton] at hfit
  rw [writeYear] at hfit hread
  split_ifs at hfit hread with hsign
  · exact absurd hread (parseISO8601_sign x _ time)
  · have hhigh : (utcYear time).toNat < 10 ^ 4 :=
      (Nat.length_toDigits_le_iff (by decide) (by decide)).mp (by omega)
    by_contra hlow
    refine parseISO8601_short x ?_ (utcFields time) (valid_utcFields (by omega)) time hread
    omega

theorem readBack_iff (x : Machine) (time : ℤ) :
    ReadBack x time ↔ (1000 ≤ utcYear time ∧ utcYear time ≤ 9999) ∧
      Found x.clocks.toTimeZone time := by
  by_cases hyear : 1000 ≤ utcYear time ∧ utcYear time ≤ 9999
  · obtain ⟨hlow, hhigh⟩ := hyear
    have hclock : (utcFields time).clock = time := clock_utcFields (by omega)
    have hread := parseISO8601_eq_iff x (valid_utcFields hhigh) .utc
    rw [hclock] at hread
    simp only [UtcOffset.seconds, UtcOffset.slip, Int.sub_zero, Int.add_zero] at hread
    rw [ReadBack, writeISO8601_eq hlow hhigh, found_iff, ← hread]
    constructor
    · rintro ⟨text, hwrite, h⟩
      obtain rfl := Option.some.inj hwrite
      exact ⟨⟨hlow, hhigh⟩, h⟩
    · exact fun h => ⟨_, rfl, h.2⟩
  · exact iff_of_false (fun h => hyear (year_of_readBack h)) fun h => hyear h.1

/-- **Where ISO 8601 texts are read as they should be.** -/
theorem iso8601_agrees_iff (x : Machine) :
    (∀ time, ReadBack x time ↔ (1000 ≤ utcYear time ∧ utcYear time ≤ 9999) ∧
      Found x.clocks.toTimeZone time) ∧
    ∀ (tm : Fields) (zone : UtcOffset), ReadRight x tm zone ↔
      x.clocks.mktime tm.clock ≠ -1 ∧
        x.clocks.shows (x.clocks.mktime tm.clock) = tm.clock + zone.slip :=
  ⟨readBack_iff x, fun tm zone => parseISO8601_eq_iff x tm.valid zone⟩

/-- A `strtod` for two digits. -/
def strtodTwo (text : List Char) : Converted :=
  let number := readNumber 99 2 0 text
  { value := number.1, unread := false, rest := number.2, range := false }

theorem strtodTwo_twoDigits (n : ℕ) (h : n < 100) :
    strtodTwo (twoDigits n) = ⟨n, false, [], false⟩ := by
  rw [strtodTwo, ← append_nil (twoDigits n), readNumber_two h (by omega), readNumber_zero,
    Nat.zero_add]

def zurichMachine : Machine := ⟨zurichClocks, strtodTwo, strtodTwo_twoDigits⟩

/-- `2021-03-28T02:30:00Z` on a machine in Europe/Zurich, whose clocks skip that time. -/
theorem iso8601_agrees_fails :
    ¬ ∀ x : Machine, (∀ time, ReadBack x time) ∧ ∀ tm zone, ReadRight x tm zone := by
  intro h
  have hread := (h zurichMachine).2 springFields .utc
  rw [ReadRight, parseISO8601_localText _ springFields.valid] at hread
  revert hread
  decide

end DateTime

end Dss
