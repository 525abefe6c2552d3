import Dss.Base
import Dss.Fields
import Dss.Position

/-!
# Lists in a text

`splitString` goes through a text by positions and takes escape characters out of it on the way.
What it finds is what a reader finds who goes from one character to the next, so a list whose
fields have been escaped and joined comes back.
-/

namespace Dss

open List

namespace StringList

/-- A `std::string`, as bytes. -/
abbrev Text : Type := List UInt8

def backslash : UInt8 := '\\'.toUInt8

/-! ## The code -/

def isBlank (b : UInt8) : Bool :=
  b = ' '.toUInt8 || b = '\t'.toUInt8 || b = '\n'.toUInt8 || b = '\r'.toUInt8

def trim (str : Text) : Text :=
  ((str.dropWhile isBlank).reverse.dropWhile isBlank).reverse

/-- `std::string::find` -/
def find (str : Text) (c : UInt8) (startPos : ℕ) : Option ℕ :=
  ((str.drop startPos).findIdx? (· = c)).map (startPos + ·)

/-- What becomes of a field. -/
def entry (trimEntries : Bool) (field : Text) : Text := if trimEntries then trim field else field

/-- The loop of `splitString`, for so many turns. -/
def splitLoop (delimiter : UInt8) (trimEntries : Bool) :
    ℕ → Text → ℕ → ℕ → List Text → Option (List Text)
  | 0, _, _, _, _ => none
  | fuel + 1, curString, startField, skip, result =>
    if startField < curString.length then
      match find curString delimiter skip with
      | some delimPos =>
        if 0 < delimPos ∧ curString[delimPos - 1]? = some backslash then
          -- the escape character is removed, and the delimiter moves into its place
          splitLoop delimiter trimEntries fuel (curString.eraseIdx (delimPos - 1)) startField
            delimPos result
        else
          let field := (curString.drop startField).take (delimPos - startField)
          let result := result ++ [entry trimEntries field]
          let skip := delimPos + 1
          splitLoop delimiter trimEntries fuel curString skip skip
            (if curString.length - skip = 0 then result ++ [[]] else result)
      | none => some (result ++ [entry trimEntries (curString.drop startField)])
    else some result

def splitString (source : Text) (delimiter : UInt8) (trimEntries : Bool) : Option (List Text) :=
  splitLoop delimiter trimEntries (source.length + 1) source 0 0 []

/-- One turn of the loop of `join`: what is written, and whether the next one is the first. -/
def joinNext (delimiter : Text) (stream : Text × Bool) (string : Text) : Text × Bool :=
  if stream.2 then (stream.1 ++ string, false) else (stream.1 ++ (delimiter ++ string), false)

def join (strings : List Text) (delimiter : Text) : Text :=
  (strings.foldl (joinNext delimiter) ([], true)).1

/-! ## One turn -/

variable {delimiter : UInt8} {trimEntries : Bool} {fuel : ℕ} {front field rest xs : Text}
  {result : List Text}

theorem find_append_of_not_mem (h : delimiter ∉ rest) :
    find (front ++ rest) delimiter front.length = none := by
  rw [find, drop_left, Option.map_eq_none_iff, findIdx?_eq_none_iff]
  intro c hc
  exact decide_eq_false fun heq => h (heq ▸ hc)

theorem find_append (h : delimiter ∉ xs) :
    find (front ++ (xs ++ delimiter :: rest)) delimiter front.length =
      some (front.length + xs.length) := by
  have hnot : ∀ c ∈ xs, decide (c = delimiter) = false := fun c hc =>
    decide_eq_false fun heq => h (heq ▸ hc)
  rw [find, drop_left, findIdx?_append, findIdx?_eq_none_iff.mpr hnot,
    findIdx?_cons]
  simp

theorem entry_nil : entry trimEntries [] = [] := ite_self _

/-- What stands in front of a position. -/
theorem getElem?_length_sub_one (h : xs ≠ []) : (xs ++ rest)[xs.length - 1]? = xs.getLast? := by
  have hpos : xs.length - 1 < xs.length := Nat.sub_one_lt (length_eq_zero_iff.not.mpr h)
  rw [getElem?_append_left hpos, getLast?_eq_getElem?]

theorem eraseIdx_length {c : UInt8} : (xs ++ c :: rest).eraseIdx xs.length = xs ++ rest := by
  induction xs with
  | nil => rfl
  | cons x xs ih => exact congrArg (x :: ·) ih

/-- The delimiter is escaped if the part of the field in front of it ends with an escape
character. -/
theorem escaped_iff (hfront : front.getLast? ≠ some backslash) :
    (0 < front.length + field.length ∧
      (front ++ (field ++ rest))[front.length + field.length - 1]? = some backslash) ↔
      field.getLast? = some backslash := by
  rw [← length_append, ← append_assoc]
  by_cases hnil : front ++ field = []
  · obtain ⟨-, rfl⟩ := append_eq_nil_iff.mp hnil
    refine iff_of_false (fun h => ?_) nofun
    rw [hnil] at h
    exact lt_irrefl _ h.1
  · rw [and_iff_right (length_pos_iff.mpr hnil), getElem?_length_sub_one hnil]
    rcases eq_nil_or_concat field with rfl | ⟨before, last, rfl⟩
    · rw [append_nil]
      exact iff_of_false hfront nofun
    · rw [concat_eq_append, ← append_assoc, getLast?_concat, getLast?_concat]

theorem splitLoop_at_end :
    splitLoop delimiter trimEntries (fuel + 1) front front.length front.length result =
      some result := by
  rw [splitLoop, if_neg (lt_irrefl _)]

theorem length_lt (hleft : rest ≠ []) : front.length < (front ++ rest).length := by
  rw [length_append]
  exact Nat.lt_add_of_pos_right (length_pos_iff.mpr hleft)

/-- The last field: there is no delimiter left. -/
theorem splitLoop_last (hleft : field ++ rest ≠ []) (h : delimiter ∉ rest) :
    splitLoop delimiter trimEntries (fuel + 1) (front ++ (field ++ rest)) front.length
        (front ++ field).length result =
      some (result ++ [entry trimEntries (field ++ rest)]) := by
  rw [splitLoop, if_pos (length_lt hleft), ← append_assoc, find_append_of_not_mem h,
    append_assoc, drop_left]

/-- What a turn does with the delimiter that it finds behind `read`, which is the field so far. -/
theorem splitLoop_found {read : Text} (hread : field ++ xs = read) (h : delimiter ∉ xs)
    (hfront : front.getLast? ≠ some backslash) :
    splitLoop delimiter trimEntries (fuel + 1) (front ++ (field ++ (xs ++ delimiter :: rest)))
        front.length (front ++ field).length result =
      if read.getLast? = some backslash then
        splitLoop delimiter trimEntries fuel
          ((front ++ (read ++ delimiter :: rest)).eraseIdx (front.length + read.length - 1))
          front.length (front.length + read.length) result
      else
        splitLoop delimiter trimEntries fuel (front ++ (read ++ delimiter :: rest))
          (front.length + read.length + 1) (front.length + read.length + 1)
          (if rest = [] then result ++ [entry trimEntries read] ++ [[]]
            else result ++ [entry trimEntries read]) := by
  have hin : front.length < (front ++ (field ++ (xs ++ delimiter :: rest))).length :=
    length_lt (by simp)
  have hline : front ++ field ++ (xs ++ delimiter :: rest) =
      front ++ (read ++ delimiter :: rest) := by
    rw [← hread, append_assoc, append_assoc]
  have hpos : (front ++ field).length + xs.length = front.length + read.length := by
    rw [← hread, length_append, length_append, Nat.add_assoc]
  have hlength : (front ++ (read ++ delimiter :: rest)).length -
      (front.length + read.length + 1) = rest.length := by
    simp only [length_append, length_cons]
    omega
  rw [splitLoop, if_pos hin, ← append_assoc, find_append h, hline, hpos]
  simp only [escaped_iff hfront, drop_left, Nat.add_sub_cancel_left, take_left, hlength,
    length_eq_zero_iff]

/-- An escaped delimiter takes the place of the escape character. -/
theorem splitLoop_escaped {before : Text} (hread : field ++ xs = before ++ [backslash])
    (h : delimiter ∉ xs) (hfront : front.getLast? ≠ some backslash) :
    splitLoop delimiter trimEntries (fuel + 1) (front ++ (field ++ (xs ++ delimiter :: rest)))
        front.length (front ++ field).length result =
      splitLoop delimiter trimEntries fuel (front ++ (before ++ [delimiter] ++ rest)) front.length
        (front ++ (before ++ [delimiter])).length result := by
  have herase : (front ++ (before ++ [backslash] ++ delimiter :: rest)).eraseIdx
      (front.length + (before ++ [backslash]).length - 1) =
        front ++ (before ++ [delimiter] ++ rest) := by
    have h := @eraseIdx_length (delimiter :: rest) (front ++ before) backslash
    simpa [← Nat.add_assoc] using h
  have hplace : front.length + (before ++ [backslash]).length =
      (front ++ (before ++ [delimiter])).length := by
    simp
  rw [splitLoop_found hread h hfront, if_pos getLast?_concat, herase, hplace]

/-- The end of a field. Behind a delimiter at the end there is an empty one. -/
theorem splitLoop_field {read : Text} (hread : field ++ xs = read) (h : delimiter ∉ xs)
    (hfront : front.getLast? ≠ some backslash) (hlast : read.getLast? ≠ some backslash) :
    splitLoop delimiter trimEntries (fuel + 1) (front ++ (field ++ (xs ++ delimiter :: rest)))
        front.length (front ++ field).length result =
      splitLoop delimiter trimEntries fuel (front ++ (read ++ [delimiter]) ++ rest)
        (front ++ (read ++ [delimiter])).length (front ++ (read ++ [delimiter])).length
        (if rest = [] then result ++ [entry trimEntries read] ++ [[]]
          else result ++ [entry trimEntries read]) := by
  have hline : front ++ (read ++ delimiter :: rest) = front ++ (read ++ [delimiter]) ++ rest := by
    simp
  have hplace : front.length + read.length + 1 = (front ++ (read ++ [delimiter])).length := by
    simp [Nat.add_assoc]
  rw [splitLoop_found hread h hfront, if_neg hlast, hline, hplace]

/-! ## The loop -/

/-- **The loop.** From the start of a field on, of which `field` has been read, it finds the fields
of what is left. -/
theorem splitLoop_spec (hdelimiter : delimiter ≠ backslash) (hfuel : rest.length < fuel)
    (hleft : field ++ rest ≠ []) (hfront : front.getLast? ≠ some backslash) :
    splitLoop delimiter trimEntries fuel (front ++ (field ++ rest)) front.length
        (front ++ field).length result =
      some (result ++ (Fields.split backslash delimiter field.reverse rest).map
        (entry trimEntries)) := by
  induction fuel generalizing front field rest result with
  | zero => exact absurd hfuel (Nat.not_lt_zero _)
  | succ fuel ih =>
    by_cases hmem : delimiter ∈ rest
    · obtain ⟨xs, rest, rfl, hxs⟩ := eq_append_cons_of_mem hmem
      rw [length_append, length_cons] at hfuel
      rw [Fields.split_append hxs, ← reverse_append]
      by_cases hlast : (field ++ xs).getLast? = some backslash
      · obtain ⟨before, hread⟩ := getLast?_eq_some_iff.mp hlast
        rw [splitLoop_escaped hread hxs hfront, ih (by omega) (by simp) hfront, hread,
          reverse_append, reverse_append]
        exact congrArg (fun fields => some (result ++ map (entry trimEntries) fields))
          Fields.split_marked.symm
      · have hfront' : (front ++ (field ++ xs ++ [delimiter])).getLast? ≠ some backslash := by
          rw [← append_assoc, getLast?_concat]
          exact fun h => hdelimiter (Option.some.inj h)
        rw [splitLoop_field rfl hxs hfront hlast,
          Fields.split_separator (by rwa [head?_reverse]), reverse_reverse]
        generalize front ++ (field ++ xs ++ [delimiter]) = front' at hfront' ⊢
        rcases eq_or_ne rest [] with rfl | hrest
        · obtain ⟨turns, rfl⟩ : ∃ turns, fuel = turns + 1 := ⟨fuel - 1, by omega⟩
          rw [append_nil, splitLoop_at_end]
          simp [Fields.split, entry_nil]
        · have h := @ih front' [] rest (result ++ [entry trimEntries (field ++ xs)]) (by omega)
            hrest hfront'
          rw [append_nil, nil_append] at h
          rw [if_neg hrest, h, append_assoc]
          rfl
    · have hread : Fields.split backslash delimiter field.reverse (rest ++ []) =
          Fields.split backslash delimiter (rest.reverse ++ field.reverse) [] :=
        Fields.split_append hmem
      rw [append_nil] at hread
      rw [splitLoop_last hleft hmem, hread, Fields.split, reverse_append,
        reverse_reverse, reverse_reverse]
      rfl

theorem splitString_eq (hdelimiter : delimiter ≠ backslash) (source : Text) :
    splitString source delimiter trimEntries =
      some (if source = [] then []
        else (Fields.split backslash delimiter [] source).map (entry trimEntries)) := by
  split_ifs with hsource
  · rw [hsource]
    rfl
  · have hloop := @splitLoop_spec delimiter trimEntries _ [] [] source [] hdelimiter
      (Nat.lt_add_one _) hsource nofun
    exact hloop

/-! ## Round trip -/

theorem join_eq (strings : List Text) (delimiter : Text) :
    join strings delimiter = List.intercalate delimiter strings := by
  have hbehind (strings : List Text) (text : Text) :
      (strings.foldl (joinNext delimiter) (text, false)).1 =
        text ++ strings.flatMap (delimiter ++ ·) := by
    induction strings generalizing text with
    | nil => exact (append_nil text).symm
    | cons string strings ih =>
      rw [foldl_cons, joinNext, if_neg Bool.false_ne_true, ih, flatMap_cons,
        append_assoc]
  have hline (string : Text) (strings : List Text) :
      intercalate delimiter (string :: strings) =
        string ++ strings.flatMap (delimiter ++ ·) := by
    induction strings generalizing string with
    | nil => rfl
    | cons next strings ih =>
      rw [intercalate_cons_cons, ih, flatMap_cons, append_assoc, append_assoc]
  cases strings with
  | nil => rfl
  | cons string strings => rw [hline, join, foldl_cons, joinNext, if_pos rfl, hbehind]; rfl

/-- The list comes back that is escaped, joined and split. -/
def RoundTrips (delimiter : UInt8) (fields : List Text) : Prop :=
  splitString (join (fields.map (Fields.escape backslash delimiter)) [delimiter]) delimiter
    false = some fields

/-- Only of no field, or of one empty field, nothing is written. -/
theorem intercalate_eq_nil {fields : List Text} (hfields : fields ≠ [[]])
    (h : List.intercalate [delimiter]
      (fields.map (Fields.escape backslash delimiter)) = []) : fields = [] := by
  rcases fields with - | ⟨field, - | ⟨next, fields⟩⟩
  · rfl
  · rw [map_singleton, intercalate_singleton] at h
    cases field with
    | nil => exact absurd rfl hfields
    | cons c field =>
      rw [Fields.escape, flatMap_cons, append_eq_nil_iff] at h
      split_ifs at h <;> cases h.1
  · rw [map_cons, map_cons, intercalate_cons_cons, append_eq_nil_iff,
      append_eq_nil_iff] at h
    cases h.1.2

/-- **Lists in a text** come back, whatever separates them but the escape character. -/
theorem splitString_join {fields : List Text} (hdelimiter : delimiter ≠ backslash)
    (hfields : fields ≠ [[]]) (hplain : ∀ field ∈ fields, backslash ∉ field) :
    RoundTrips delimiter fields := by
  rw [RoundTrips, join_eq, splitString_eq hdelimiter]
  have hid : entry false = id := rfl
  split_ifs with hnil
  · exact congrArg some (intercalate_eq_nil hfields hnil).symm
  · have hne : fields ≠ [] := by
      rintro rfl
      exact hnil rfl
    rw [Fields.split_intercalate (Ne.symm hdelimiter) hne hplain, hid, map_id]

/-- A comma at either end, and an empty field in between. -/
theorem splitString_join_commas :
    RoundTrips ','.toUInt8 [[','.toUInt8, 'a'.toUInt8], [], ['b'.toUInt8, ','.toUInt8]] :=
  splitString_join (by decide) (by decide) (by decide)

/-- Two separators in a row that are escape characters count as one. -/
theorem splitString_join_fails : ¬ ∀ (delimiter : UInt8) (fields : List Text), fields ≠ [[]] →
    (∀ field ∈ fields, backslash ∉ field) → RoundTrips delimiter fields := by
  intro h
  exact absurd (h backslash [[], [], []] (by decide) (by decide)) (by unfold RoundTrips; decide)

end StringList

end Dss
