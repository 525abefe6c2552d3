import Mathlib.Data.List.TakeWhile
import Mathlib.Tactic.IntervalCases
import Dss.Base

/-!
# Numbers that are written and read

The server writes numbers in decimal and reads them in the base that the text shows. A number
that it has written has no zeros in front, so that it reads back.
-/

namespace Dss

inductive Double : Type where
  /-- a number -/
  | finite : ℚ → Double
  /-- infinite, or no number -/
  | other : Double

/-! ## Digits -/

theorem digitValue_digitChar {d : ℕ} (h : d < 10) : digitValue 10 d.digitChar = some d := by
  interval_cases d <;> decide

theorem readDigits_toDigits {n : ℕ} {cs : List Char} :
    readDigits 10 0 (Nat.toDigits 10 n ++ cs) = readDigits 10 n cs := by
  induction n using Nat.strongRecOn generalizing cs with
  | ind n ih =>
    have hlast : ∀ m d, d < 10 → readDigits 10 m (d.digitChar :: cs) =
        readDigits 10 (m * 10 + d) cs := by
      intro m d hd
      rw [readDigits, digitValue_digitChar hd]
    by_cases hn : n < 10
    · rw [Nat.toDigits_of_lt_base hn, List.singleton_append, hlast 0 n hn, Nat.zero_add]
    · rw [Nat.toDigits_of_base_le (by decide) (Nat.le_of_not_lt hn), List.append_assoc,
        ih (n / 10) (by omega), List.singleton_append, hlast _ _ (Nat.mod_lt n (by decide)),
        Nat.mul_comm, Nat.div_add_mod]

theorem readDigits_toDigits_self {n : ℕ} : readDigits 10 0 (Nat.toDigits 10 n) = (n, []) := by
  have hdigits := @readDigits_toDigits n []
  rwa [List.append_nil] at hdigits

theorem toDigits_eq_cons {n : ℕ} (h : 0 < n) :
    ∃ d cs, 0 < d ∧ d < 10 ∧ Nat.toDigits 10 n = d.digitChar :: cs := by
  induction n using Nat.strongRecOn with
  | ind n ih =>
    by_cases hn : n < 10
    · exact ⟨n, [], h, hn, Nat.toDigits_of_lt_base hn⟩
    · obtain ⟨d, cs, hpos, hd, hdigits⟩ := ih (n / 10) (by omega) (by omega)
      refine ⟨d, cs ++ [(n % 10).digitChar], hpos, hd, ?_⟩
      rw [Nat.toDigits_of_base_le (by decide) (Nat.le_of_not_lt hn), hdigits, List.cons_append]

theorem ne_nul_of_mem_toDigits {n : ℕ} {c : Char} (h : c ∈ Nat.toDigits 10 n) : c ≠ '\x00' := by
  have hdigit := Nat.isDigit_of_mem_toDigits (by decide) (by decide) h
  rintro rfl
  exact absurd hdigit (by decide)

theorem toString_nat_whole (n : ℕ) : toString n ≠ "" ∧
    (toString n).toList.takeWhile (· ≠ '\x00') = Nat.toDigits 10 n := by
  have hlist : (toString n).toList = Nat.toDigits 10 n := by
    rw [Nat.toString_eq_ofList_toDigits, String.toList_ofList]
  refine ⟨fun h => ?_, ?_⟩
  · rw [h] at hlist
    exact Nat.toDigits_ne_nil hlist.symm
  · rw [hlist, List.takeWhile_eq_self_iff]
    exact fun c hc => decide_eq_true (ne_nul_of_mem_toDigits hc)

/-! ## Numbers of any size -/

def takeSign : List Char → Bool × List Char
  | '-' :: cs => (true, cs)
  | '+' :: cs => (false, cs)
  | cs => (false, cs)

/-- The digits of a number in a base: the number without its sign, and the rest of the text. -/
def magnitude? (base : ℕ) : List Char → Option (ℕ × List Char)
  | [] => none
  | c :: cs => if (digitValue base c).isNone then none else some (readDigits base 0 (c :: cs))

/-- The number that a text starts with, of any size, and the rest of the text. -/
def numeral? (text : List Char) : Option (ℤ × List Char) :=
  let signed := takeSign (text.dropWhile isSpace)
  let based := numberBase signed.2
  (magnitude? based.1 based.2).map fun found =>
    (if signed.1 then -found.1 else found.1, found.2)

def denotedInt? (text : String) : Option ℤ :=
  match numeral? (text.toList.takeWhile (· ≠ '\x00')) with
  | some (value, []) => some value
  | _ => none

theorem strtol_eq (text : List Char) :
    strtol text = (numeral? text).elim (0, text) fun found =>
      (max (-2 ^ 63) (min found.1 (2 ^ 63 - 1)), found.2) := by
  unfold strtol numeral?
  split
  next negative body hsign =>
    have hsigned : takeSign (text.dropWhile isSpace) = (negative, body) := hsign
    rw [hsigned]
    dsimp only
    generalize numberBase body = based
    obtain ⟨base, digits⟩ := based
    cases digits with
    | nil => rfl
    | cons c cs =>
      dsimp only [magnitude?]
      split_ifs <;> rfl

theorem numeral?_toDigits (n : ℕ) :
    numeral? (Nat.toDigits 10 n) = some ((n : ℤ), []) ∧
      numeral? ('-' :: Nat.toDigits 10 n) = some (-(n : ℤ), []) := by
  rcases Nat.eq_zero_or_pos n with rfl | hpos
  · decide
  · have hread := @readDigits_toDigits_self n
    obtain ⟨d, cs, hd, hd', hdigits⟩ := toDigits_eq_cons hpos
    have hnumeral : numeral? (d.digitChar :: cs) =
          some (((readDigits 10 0 (d.digitChar :: cs)).1 : ℤ),
            (readDigits 10 0 (d.digitChar :: cs)).2) ∧
        numeral? ('-' :: d.digitChar :: cs) =
          some (-((readDigits 10 0 (d.digitChar :: cs)).1 : ℤ),
            (readDigits 10 0 (d.digitChar :: cs)).2) := by
      interval_cases d <;> exact ⟨rfl, rfl⟩
    rw [hdigits] at hread ⊢
    rwa [hread] at hnumeral

theorem numeral?_of_denotedInt? {text : String} {value : ℤ} (h : denotedInt? text = some value) :
    text ≠ "" ∧ numeral? (text.toList.takeWhile (· ≠ '\x00')) = some (value, []) := by
  unfold denotedInt? at h
  split at h
  next found hfound =>
    cases h
    refine ⟨?_, hfound⟩
    rintro rfl
    cases hfound
  next => cases h

theorem parseInt?_of_denotedInt? {text : String} {value : ℤ} (h : denotedInt? text = some value)
    (hmin : -2 ^ 31 ≤ value) (hmax : value < 2 ^ 31) : parseInt? text = some value := by
  obtain ⟨hne, hnumeral⟩ := numeral?_of_denotedInt? h
  rw [parseInt?, if_neg hne, strtol_eq, hnumeral]
  dsimp only [Option.elim_some]
  rw [if_pos rfl, max_eq_right (by omega), min_eq_left (by omega),
    Int.bmod_eq_of_le (by omega) (by omega)]

theorem denotedInt?_toString (n : ℕ) : denotedInt? (toString n) = some (n : ℤ) := by
  rw [denotedInt?, (toString_nat_whole n).2, (numeral?_toDigits n).1]

theorem parseInt?_toString {n : ℕ} (hn : n < 2 ^ 31) : parseInt? (toString n) = some (n : ℤ) :=
  parseInt?_of_denotedInt? (denotedInt?_toString n) (by omega) (by omega)

theorem parseInt?_toString_int {z : ℤ} (hmin : -2 ^ 31 ≤ z) (hmax : z < 2 ^ 31) :
    parseInt? (toString z) = some z := by
  rcases z with n | n
  · exact parseInt?_toString (Int.ofNat_lt.mp hmax)
  · obtain ⟨-, hwhole⟩ := toString_nat_whole (n + 1)
    have htext : (toString (Int.negSucc n)).toList.takeWhile (· ≠ '\x00') =
        '-' :: Nat.toDigits 10 (n + 1) := by
      show (("-" ++ toString (n + 1)).toList).takeWhile (· ≠ '\x00') = _
      rw [String.toList_append, ← hwhole]
      rfl
    refine parseInt?_of_denotedInt? ?_ hmin hmax
    rw [denotedInt?, htext, (numeral?_toDigits (n + 1)).2]
    rfl

/-! ## Unsigned numbers -/

/-- `strtoul` with base 0: as `strtol`, but what is negative wraps around. -/
def strtoul (text : List Char) : ℕ × List Char :=
  let (negative, body) :=
    match text.dropWhile isSpace with
    | '-' :: cs => (true, cs)
    | '+' :: cs => (false, cs)
    | cs => (false, cs)
  let (base, digits) := numberBase body
  match digits with
  | [] => (0, text)
  | c :: _ =>
    if (digitValue base c).isNone then (0, text)
    else
      let (magnitude, rest) := readDigits base 0 digits
      if 2 ^ 64 ≤ magnitude then (2 ^ 64 - 1, rest)
      else if negative then ((2 ^ 64 - magnitude) % 2 ^ 64, rest)
      else (magnitude, rest)

/-- `strToUInt`: the number, when the whole text is one. -/
def parseUInt? (text : String) : Option ℕ :=
  if text = "" then none
  else
    let (value, rest) := strtoul (text.toList.takeWhile (· ≠ '\x00'))
    if rest = [] then some (value % 2 ^ 32) else none

theorem strtoul_eq (text : List Char) :
    strtoul text = (numeral? text).elim (0, text) fun found =>
      (if 2 ^ 64 ≤ found.1.natAbs then 2 ^ 64 - 1 else (found.1 % 2 ^ 64).toNat, found.2) := by
  unfold strtoul numeral?
  split
  next negative body hsign =>
    have hsigned : takeSign (text.dropWhile isSpace) = (negative, body) := hsign
    rw [hsigned]
    dsimp only
    generalize numberBase body = based
    obtain ⟨base, digits⟩ := based
    cases digits with
    | nil => rfl
    | cons c cs =>
      dsimp only [magnitude?]
      by_cases hdigit : (digitValue base c).isNone = true
      · rw [if_pos hdigit, if_pos hdigit]
        rfl
      · rw [if_neg hdigit, if_neg hdigit]
        simp only [Option.map_some, Option.elim_some]
        cases negative
        · simp only [Bool.false_eq_true, if_false, Int.natAbs_natCast]
          split_ifs
          · rfl
          · congr 1
            omega
        · simp only [if_true, Int.natAbs_neg, Int.natAbs_natCast]
          split_ifs
          · rfl
          · congr 1
            omega

theorem parseUInt?_of_denotedInt? {text : String} {value : ℤ} (h : denotedInt? text = some value)
    (hsize : value.natAbs < 2 ^ 64) :
    ∃ n, parseUInt? text = some n ∧ (n : ℤ) = value % 2 ^ 32 := by
  obtain ⟨hne, hnumeral⟩ := numeral?_of_denotedInt? h
  refine ⟨(value % 2 ^ 64).toNat % 2 ^ 32, ?_, by omega⟩
  rw [parseUInt?, if_neg hne, strtoul_eq, hnumeral]
  dsimp only [Option.elim_some]
  rw [if_pos rfl, if_neg (Nat.not_le.mpr hsize)]

theorem parseUInt?_toString {n : ℕ} (hn : n < 2 ^ 32) : parseUInt? (toString n) = some n := by
  obtain ⟨m, hparse, hm⟩ := parseUInt?_of_denotedInt? (denotedInt?_toString n) (by omega)
  rw [hparse]
  exact congrArg some (by omega)

end Dss
