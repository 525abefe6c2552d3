import Mathlib.Algebra.Order.Ring.Int

/-!
# Text helpers

The string functions of `base.cpp` the handlers use. What goes through `c_str()` ends at the first
NUL. `strtol` is the C library function with base 0: blanks, a sign, then hexadecimal after `0x`,
octal after `0`, decimal otherwise, clamped to 64 bits. `strToInt` narrows that to an `int`.
-/

namespace Dss

open List

theorem forall_mem_of_all {α : Type} {p : α → Prop} [DecidablePred p] {l : List α}
    (h : l.all (fun a => decide (p a)) = true) : ∀ a ∈ l, p a := fun a ha =>
  of_decide_eq_true (all_eq_true.mp h a ha)

/-! ## Numbers -/

/-- `isspace` in the C locale. -/
def isSpace (c : Char) : Bool :=
  c == ' ' || ('\t' ≤ c && c ≤ '\r')

def digitValue (base : ℕ) (c : Char) : Option ℕ :=
  let value :=
    if '0' ≤ c && c ≤ '9' then some (c.toNat - 48)
    else if 'a' ≤ c && c ≤ 'z' then some (c.toNat - 87)
    else if 'A' ≤ c && c ≤ 'Z' then some (c.toNat - 55)
    else none
  value.filter (· < base)

/-- The number the text starts with, behind what was read of it already, and
the rest of the text. -/
def readDigits (base : ℕ) : ℕ → List Char → ℕ × List Char
  | acc, [] => (acc, [])
  | acc, c :: cs =>
    match digitValue base c with
    | some d => readDigits base (acc * base + d) cs
    | none => (acc, c :: cs)

/-- The base that `strtol` reads off the prefix, and the text behind the
prefix. A `0x` that no digit follows is the octal number 0. -/
def numberBase : List Char → ℕ × List Char
  | '0' :: x :: d :: cs =>
    if (x == 'x' || x == 'X') && (digitValue 16 d).isSome then (16, d :: cs)
    else (8, '0' :: x :: d :: cs)
  | '0' :: cs => (8, '0' :: cs)
  | cs => (10, cs)

/-- `strtol` with base 0: the value, and where it stopped reading. Without a
digit it has read nothing, the blanks and the sign included. -/
def strtol (text : List Char) : ℤ × List Char :=
  let (negative, body) :=
    match text.dropWhile isSpace with
    | '-' :: cs => (true, cs)
    | '+' :: cs => (false, cs)
    | cs => (false, cs)
  let (base, digits) := numberBase body
  match digits with
  | [] => (0, text)
  | c :: _ =>
    if (digitValue base c).isNone then (0, text)
    else
      let (magnitude, rest) := readDigits base 0 digits
      let value : ℤ := if negative then -magnitude else magnitude
      (max (-2 ^ 63) (min value (2 ^ 63 - 1)), rest)

/-- What `strToInt` and `strToIntDef` have in common: the number, when the
whole text is one. -/
def parseInt? (text : String) : Option ℤ :=
  if text = "" then none
  else
    let (value, rest) := strtol (text.toList.takeWhile (· ≠ '\x00'))
    if rest = [] then some (value.bmod (2 ^ 32)) else none

def strToIntDef (text : String) (default : ℤ) : ℤ := (parseInt? text).getD default

/-! ## Fields -/

/-- The loop of `splitString`: `field` is the current field, last character
first. A delimiter behind a backslash takes the place of the backslash. -/
def splitFields (delimiter : Char) : List Char → List Char → List String
  | field, [] => [String.ofList field.reverse]
  | field, c :: cs =>
    if c = delimiter then
      match field with
      | '\\' :: field => splitFields delimiter (c :: field) cs
      | field => String.ofList field.reverse :: splitFields delimiter [] cs
    else splitFields delimiter (c :: field) cs

/-- `splitString`, without trimming. The empty text has no field; behind a
delimiter at the end there is an empty one. -/
def splitString (source : String) (delimiter : Char) : List String :=
  if source = "" then [] else splitFields delimiter [] source.toList

/-- `splitIntoKeyValue`: both parts are empty without an equals sign. -/
def splitIntoKeyValue (keyValue : String) : String × String :=
  match keyValue.toList.dropWhile (· ≠ '=') with
  | [] => ("", "")
  | _ :: value =>
    (String.ofList (keyValue.toList.takeWhile (· ≠ '=')), String.ofList value)

/-! ## Names that end in a number -/

theorem append_dot_cancel {a b l m : List Char} (ha : '.' ∉ a) (hb : '.' ∉ b)
    (h : l ++ '.' :: a = m ++ '.' :: b) : l = m ∧ a = b := by
  rcases append_eq_append_iff.mp h with ⟨c, hm, hc⟩ | ⟨c, hl, hc⟩
  · cases c with
    | nil => exact ⟨(append_nil l ▸ hm).symm, (cons.inj hc).2⟩
    | cons x c =>
      rw [(cons.inj hc).2] at ha
      exact absurd (mem_append_right c mem_cons_self) ha
  · cases c with
    | nil => exact ⟨append_nil m ▸ hl, (cons.inj hc).2.symm⟩
    | cons x c =>
      rw [(cons.inj hc).2] at hb
      exact absurd (mem_append_right c mem_cons_self) hb

theorem dot_not_mem_toString (n : ℕ) : '.' ∉ (toString n).toList := by
  rw [Nat.toString_eq_repr, Nat.toList_repr]
  intro h
  exact absurd (Nat.isDigit_of_mem_toDigits (by decide) (by decide) h) (by decide)

theorem toString_nat_inj {m n : ℕ} (h : toString m = toString n) : m = n := by
  rw [Nat.toString_eq_repr, Nat.toString_eq_repr] at h
  have hdigits : Nat.toDigits 10 m = Nat.toDigits 10 n := by
    rw [← Nat.toList_repr, ← Nat.toList_repr, h]
  rw [← Nat.ofDigitChars_toDigits (b := 10) (n := m) (by decide) (by decide), hdigits,
    Nat.ofDigitChars_toDigits (by decide) (by decide)]

theorem name_dot_number_inj {s t : String} {m n : ℕ}
    (h : s ++ "." ++ toString m = t ++ "." ++ toString n) : s = t ∧ m = n := by
  have hl : s.toList ++ '.' :: (toString m).toList = t.toList ++ '.' :: (toString n).toList := by
    simpa using congrArg String.toList h
  obtain ⟨hs, hn⟩ := append_dot_cancel (dot_not_mem_toString m) (dot_not_mem_toString n) hl
  exact ⟨String.toList_inj.mp hs, toString_nat_inj (String.toList_inj.mp hn)⟩

end Dss
