import Mathlib.Data.List.GetD
import Dss.StringLists

/-!
# Cutting off within characters

`truncateUTF8String` copies so many bytes and looks at the last one. If it belongs to a character of
several bytes, the first byte of the character tells how many there are; without all of them the
character is taken off again.
-/

namespace Dss

open List

namespace Utf8Truncation

open StringList (Text)

/-! ## The code -/

/-- The mask for a start byte, and what it shows of one, by the number of bytes. -/
def startMask : ℕ → UInt8 × UInt8
  | 6 => (0xfe, 0xfc)
  | 5 => (0xfc, 0xf8)
  | 4 => (0xf8, 0xf0)
  | 3 => (0xf0, 0xe0)
  | 2 => (0xe0, 0xc0)
  | _ => (0xff, 0xff)

def isComplete (start : UInt8) (skippedBytes : ℕ) : Bool :=
  let (mask, compareTo) := startMask skippedBytes
  mask ≠ 0xff && start &&& mask = compareTo

/-- Backwards through the text to the start byte. -/
def startPos (buffer : Text) : ℕ → ℕ
  | 0 => 0
  | pos + 1 => if buffer.getD (pos + 1) 0 &&& 0xc0 = 0x80 then startPos buffer pos else pos + 1

/-- What becomes of a text that fills the buffer. -/
def cut (buffer : Text) : Text :=
  if buffer.getD (buffer.length - 1) 0 &&& 0x80 = 0x80 then
    let pos := startPos buffer (buffer.length - 1)
    if isComplete (buffer.getD pos 0) (buffer.length - pos) then buffer else buffer.take pos
  else buffer

/-- None, if the assertion fails. What is copied ends at a NUL. -/
def truncateUTF8String (input : Text) (maxBytes : ℤ) : Option Text :=
  if maxBytes < 0 then none
  else if maxBytes = 0 then some []
  else if input.length ≤ maxBytes.toNat then some input
  else
    let buffer := (input.takeWhile (· ≠ 0)).take maxBytes.toNat
    some (if buffer.length = maxBytes.toNat then cut buffer else buffer)

/-! ## The law -/

def IsValid (text : Text) : Prop := text.toByteArray.IsValidUTF8

/-- The longest part of a text from its start on that has no more than `n` bytes and no characters
that are not whole. -/
structure IsLongest (text : Text) (n : ℕ) (result : Text) : Prop where
  isPrefix : result <+: text
  length_le : result.length ≤ n
  valid : IsValid result
  longest : ∀ other, other <+: text → other.length ≤ n → IsValid other →
    other.length ≤ result.length

/-! ## Characters -/

/-- The first one of so many bytes. -/
def IsStart (start : UInt8) (count : ℕ) : Prop :=
  start &&& 0xc0 ≠ 0x80 ∧ (start &&& 0x80 = 0x80 ↔ count ≠ 1) ∧
    ∀ skippedBytes ≤ 4, isComplete start skippedBytes = true ↔ skippedBytes = count ∧ count ≠ 1

instance (start : UInt8) (count : ℕ) : Decidable (IsStart start count) :=
  inferInstanceAs (Decidable (_ ∧ _ ∧ _))

theorem bits (x : UInt8) : (x < 0x80 → IsStart x 1) ∧ IsStart (x &&& 0x1f ||| 0xc0) 2 ∧
    IsStart (x &&& 0x0f ||| 0xe0) 3 ∧ IsStart (x &&& 0x07 ||| 0xf0) 4 ∧
    (x &&& 0x3f ||| 0x80) &&& 0xc0 = 0x80 ∧ (x &&& 0xc0 = 0x80 → x &&& 0x80 = 0x80) := by
  have hall : ∀ n < 256, (UInt8.ofNat n < 0x80 → IsStart (UInt8.ofNat n) 1) ∧
      IsStart (UInt8.ofNat n &&& 0x1f ||| 0xc0) 2 ∧ IsStart (UInt8.ofNat n &&& 0x0f ||| 0xe0) 3 ∧
      IsStart (UInt8.ofNat n &&& 0x07 ||| 0xf0) 4 ∧
      (UInt8.ofNat n &&& 0x3f ||| 0x80) &&& 0xc0 = 0x80 ∧
      (UInt8.ofNat n &&& 0xc0 = 0x80 → UInt8.ofNat n &&& 0x80 = 0x80) := by
    decide +kernel
  have hx := hall x.toNat x.toNat_lt
  rwa [UInt8.ofNat_toNat] at hx

/-- The bytes of a character. -/
structure IsChar (start : UInt8) (others : Text) : Prop where
  isStart : IsStart start (others.length + 1)
  continued : ∀ b ∈ others, b &&& 0xc0 = 0x80
  length_le : others.length ≤ 3

theorem utf8EncodeChar_eq (c : Char) :
    ∃ start others, String.utf8EncodeChar c = start :: others ∧ IsChar start others := by
  have hcontinued (x : UInt8) := (bits x).2.2.2.2.1
  rcases c.utf8Size_eq with hsize | hsize | hsize | hsize
  · have hascii : c.val.toUInt8 < 0x80 := by
      have hval := Char.utf8Size_eq_one_iff.mp hsize
      rw [UInt8.lt_iff_toNat_lt, UInt32.toNat_toUInt8]
      have hle : c.val.toNat ≤ 127 := hval
      have hlt : (0x80 : UInt8).toNat = 128 := rfl
      omega
    exact ⟨_, [], String.utf8EncodeChar_eq_singleton hsize, (bits _).1 hascii,
      forall_mem_nil _, by decide⟩
  · exact ⟨_, _, String.utf8EncodeChar_eq_cons_cons hsize, (bits _).2.1, by simp [hcontinued],
      Nat.le_of_ble_eq_true rfl⟩
  · exact ⟨_, _, String.utf8EncodeChar_eq_cons_cons_cons hsize, (bits _).2.2.1,
      by simp [hcontinued], Nat.le_of_ble_eq_true rfl⟩
  · exact ⟨_, _, String.utf8EncodeChar_eq_cons_cons_cons_cons hsize, (bits _).2.2.2.1,
      by simp [hcontinued], Nat.le_of_ble_eq_true rfl⟩

/-! ## The cut -/

variable {front others : Text} {start : UInt8} {n count : ℕ}

theorem startPos_spec (hstart : start &&& 0xc0 ≠ 0x80) (hothers : ∀ b ∈ others, b &&& 0xc0 = 0x80)
    (hn : n ≤ others.length) :
    startPos (front ++ start :: others) (front.length + n) = front.length := by
  induction n with
  | zero =>
    cases hlength : front.length with
    | zero => rfl
    | succ pos =>
      rw [startPos, if_neg]
      rwa [← hlength, getD_append_right _ _ _ _ le_rfl, Nat.sub_self]
  | succ n ih =>
    have hbyte : (front ++ start :: others).getD (front.length + n + 1) 0 &&& 0xc0 = 0x80 := by
      rw [Nat.add_assoc, getD_append_right _ _ _ _ (Nat.le_add_right _ _),
        Nat.add_sub_cancel_left, getD_cons_succ, getD_eq_getElem _ _ hn]
      exact hothers _ (getElem_mem hn)
    rw [← Nat.add_assoc, startPos, if_pos hbyte]
    exact ih (Nat.le_of_succ_le hn)

/-- **The cut** takes the last character off if some of its bytes are missing. -/
theorem cut_spec (hstart : IsStart start count) (hothers : ∀ b ∈ others, b &&& 0xc0 = 0x80)
    (hcount : others.length + 1 ≤ count) (hle : count ≤ 4) :
    cut (front ++ start :: others) =
      if others.length + 1 = count then front ++ start :: others else front := by
  obtain ⟨hfirst, hhigh, hcomplete⟩ := hstart
  have hlast : (front ++ start :: others).length - 1 = front.length + others.length := by simp
  have hskipped : (front ++ start :: others).length - front.length = others.length + 1 := by simp
  have hpos : (front ++ start :: others).getD front.length 0 = start := by
    rw [getD_append_right _ _ _ _ le_rfl, Nat.sub_self, getD_cons_zero]
  rw [cut, hlast]
  by_cases hone : count = 1
  · have hnil : others = [] := length_eq_zero_iff.mp (by omega)
    subst hnil
    rw [length_nil, Nat.add_zero, hpos, if_neg fun h => hhigh.mp h hone, if_pos hone.symm]
  · have hbyte : (front ++ start :: others).getD (front.length + others.length) 0 &&& 0x80 =
        0x80 := by
      rcases eq_nil_or_concat others with rfl | ⟨before, last, rfl⟩
      · rw [length_nil, Nat.add_zero, hpos]
        exact hhigh.mpr hone
      · refine (bits _).2.2.2.2.2 ?_
        rw [getD_append_right _ _ _ _ (Nat.le_add_right _ _), Nat.add_sub_cancel_left,
          concat_eq_append, length_append, length_singleton, getD_cons_succ,
          getD_append_right _ _ _ _ le_rfl, Nat.sub_self]
        exact hothers _ (concat_eq_append ▸ mem_concat_self)
    rw [if_pos hbyte, startPos_spec hfirst hothers le_rfl]
    dsimp only
    rw [hskipped, hpos, take_left]
    by_cases heq : others.length + 1 = count
    · rw [if_pos ((hcomplete _ (hcount.trans hle)).mpr ⟨heq, hone⟩), if_pos heq]
    · rw [if_neg fun h => heq ((hcomplete _ (hcount.trans hle)).mp h).1, if_neg heq]

/-! ## Prefixes -/

def encode (characters : List Char) : Text := characters.flatMap String.utf8EncodeChar

variable {text : Text} {characters shorter before after : List Char} {c : Char}

theorem encode_cons : encode (c :: characters) = String.utf8EncodeChar c ++ encode characters :=
  flatMap_cons

theorem encode_append : encode (before ++ after) = encode before ++ encode after :=
  flatMap_append

theorem encode_concat : encode (before ++ [c]) = encode before ++ String.utf8EncodeChar c := by
  rw [encode_append]
  exact congrArg (encode before ++ ·) (append_nil _)

theorem isValid_iff : IsValid text ↔ ∃ characters, text = encode characters := by
  constructor
  · rintro ⟨characters, heq⟩
    exact ⟨characters, toByteArray_inj.mp heq⟩
  · rintro ⟨characters, rfl⟩
    exact ⟨characters, rfl⟩

/-- No character begins another one. -/
theorem prefix_of_encode (h : encode shorter <+: encode characters) : shorter <+: characters := by
  obtain ⟨others, hothers⟩ := h
  refine isPrefix_of_utf8Encode_append_eq_utf8Encode others.toByteArray ?_
  rw [utf8Encode, ← toByteArray_append]
  exact congrArg toByteArray hothers

/-- The character that the limit is at. -/
theorem exists_character (h : n < (encode characters).length) :
    ∃ before c after, characters = before ++ c :: after ∧ (encode before).length ≤ n ∧
      n < (encode before).length + (String.utf8EncodeChar c).length := by
  induction characters generalizing n with
  | nil => exact absurd h (Nat.not_lt_zero n)
  | cons first others ih =>
    rw [encode_cons, length_append] at h
    by_cases hfirst : n < (String.utf8EncodeChar first).length
    · exact ⟨[], first, others, rfl, Nat.zero_le n, by
        rwa [encode, flatMap_nil, length_nil, Nat.zero_add]⟩
    · obtain ⟨before, c, after, rfl, hbefore, hafter⟩ :=
        ih (n := n - (String.utf8EncodeChar first).length) (by omega)
      refine ⟨first :: before, c, after, rfl, ?_, ?_⟩ <;>
        rw [encode_cons, length_append] <;> omega

theorem isLongest_encode (hbefore : (encode before).length ≤ n)
    (hafter : n < (encode before).length + (String.utf8EncodeChar c).length) :
    IsLongest (encode (before ++ c :: after)) n (encode before) where
  isPrefix := ⟨encode (c :: after), encode_append.symm⟩
  length_le := hbefore
  valid := isValid_iff.2 ⟨before, rfl⟩
  longest other hprefix hlength hvalid := by
    obtain ⟨shorter, rfl⟩ := isValid_iff.1 hvalid
    have hmono {l l' : List Char} (h : l <+: l') : (encode l).length ≤ (encode l').length := by
      obtain ⟨rest, rfl⟩ := h
      rw [encode_append, length_append]
      exact Nat.le_add_right _ _
    have hlong : n < (encode (before ++ [c])).length := by
      rwa [encode_concat, length_append]
    have hshort : ¬before ++ [c] <+: shorter := fun h => by
      have hle := hmono h
      omega
    have hothers : before ++ [c] <+: before ++ c :: after := ⟨after, by simp⟩
    rcases prefix_or_prefix_of_prefix (prefix_of_encode hprefix) hothers with h | h
    · rcases prefix_concat_iff.mp h with rfl | h
      · exact absurd (prefix_refl _) hshort
      · exact hmono h
    · exact absurd h hshort

theorem cut_encode (hn : 0 < n) (hbefore : (encode before).length ≤ n)
    (hafter : n < (encode before).length + (String.utf8EncodeChar c).length) :
    cut ((encode (before ++ c :: after)).take n) = encode before := by
  have htake : (encode (before ++ c :: after)).take n =
      encode before ++ (String.utf8EncodeChar c).take (n - (encode before).length) := by
    rw [encode_append, encode_cons, take_append, take_of_length_le hbefore,
      take_append_of_le_length (by omega)]
  rw [htake]
  cases hpart : n - (encode before).length with
  | zero =>
    rw [take_zero, append_nil]
    rcases eq_nil_or_concat before with rfl | ⟨others, last, rfl⟩
    · exact absurd hpart (Nat.sub_ne_zero_of_lt hn)
    · obtain ⟨start, rest, hlast, hchar⟩ := utf8EncodeChar_eq last
      rw [concat_eq_append, encode_concat, hlast,
        cut_spec hchar.isStart hchar.continued le_rfl (Nat.succ_le_succ hchar.length_le),
        if_pos rfl]
  | succ k =>
    obtain ⟨start, rest, hc, hchar⟩ := utf8EncodeChar_eq c
    rw [hc, length_cons] at hafter
    have hk : (rest.take k).length = k := length_take_of_le (by omega)
    rw [hc, take_succ_cons, cut_spec hchar.isStart
      (fun b hb => hchar.continued b (mem_of_mem_take hb)) (by omega)
      (Nat.succ_le_succ hchar.length_le), if_neg (by omega)]

/-- **Cutting off** a text at a limit leaves the longest part that the limit allows. -/
theorem truncateUTF8String_longest (text : Text) (n : ℕ) (hnul : 0 ∉ text) (hvalid : IsValid text) :
    ∃ result, truncateUTF8String text n = some result ∧ IsLongest text n result := by
  have hempty : IsValid [] := isValid_iff.2 ⟨[], rfl⟩
  rw [truncateUTF8String, if_neg (Int.not_lt.mpr (Int.natCast_nonneg n)), Int.toNat_natCast]
  by_cases hzero : n = 0
  · subst hzero
    exact ⟨[], if_pos rfl, nil_prefix, le_rfl, hempty, fun other _ hlength _ => hlength⟩
  rw [if_neg (Int.natCast_ne_zero.mpr hzero)]
  by_cases hlength : text.length ≤ n
  · exact ⟨text, if_pos hlength, prefix_refl text, hlength, hvalid,
      fun other hprefix _ _ => hprefix.length_le⟩
  obtain ⟨characters, rfl⟩ := isValid_iff.1 hvalid
  obtain ⟨before, c, after, rfl, hbefore, hafter⟩ := exists_character (Nat.not_le.mp hlength)
  refine ⟨encode before, ?_, isLongest_encode hbefore hafter⟩
  have hwhole : (encode (before ++ c :: after)).takeWhile (· ≠ 0) =
      encode (before ++ c :: after) :=
    takeWhile_eq_self_iff.mpr fun b hb => decide_eq_true fun h => hnul (h ▸ hb)
  dsimp only
  rw [if_neg hlength, hwhole, if_pos (length_take_of_le (Nat.not_le.mp hlength).le),
    cut_encode (Nat.pos_of_ne_zero hzero) hbefore hafter]

/-- "aä" in two bytes. -/
theorem truncateUTF8String_longest_umlaut :
    ∃ result, truncateUTF8String [0x61, 0xc3, 0xa4] (2 : ℕ) = some result ∧
      IsLongest [0x61, 0xc3, 0xa4] 2 result :=
  truncateUTF8String_longest [0x61, 0xc3, 0xa4] 2 (by decide)
    (isValid_iff.2 ⟨['a', 'ä'], by decide⟩)

end Utf8Truncation

end Dss
