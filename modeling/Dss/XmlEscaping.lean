import Dss.PropertyText

/-!
# Texts escaped for XML

`XMLStringEscape` writes a control code as a reference, by its number in two digits; but then the
pointer moves on twice, so that the byte behind it is passed over, or the NUL at the end. The number
of the code 127 does not have two digits.

Which characters a reader of XML allows references to is a parameter, and so is whether the ends of
lines are normalised first.
-/

namespace XmlBytes

open List Option

/-! ## References -/

def ascii (text : String) : List UInt8 := text.toList.map fun c => UInt8.ofNat c.toNat

def digit (base : ℕ) (b : UInt8) : Option ℕ :=
  let n := b.toNat
  let d :=
    if 48 ≤ n ∧ n ≤ 57 then n - 48
    else if 97 ≤ n ∧ n ≤ 102 then n - 87
    else if 65 ≤ n ∧ n ≤ 70 then n - 55
    else base
  if d < base then some d else none

def digits (base : ℕ) : ℕ → List UInt8 → Option ℕ
  | value, [] => some value
  | value, b :: bs => (digit base b).bind fun d => digits base (value * base + d) bs

def number (base : ℕ) (bs : List UInt8) : Option ℕ := if bs = [] then none else digits base 0 bs

def character (legal : Char → Bool) (n : ℕ) : Option (List UInt8) :=
  if n.isValidChar ∧ legal (Char.ofNat n) then some (String.utf8EncodeChar (Char.ofNat n)) else none

/-- What stands between `&` and `;`. -/
def reference (legal : Char → Bool) (name : List UInt8) : Option (List UInt8) :=
  if name = ascii "lt" then some (ascii "<")
  else if name = ascii "gt" then some (ascii ">")
  else if name = ascii "amp" then some (ascii "&")
  else if name = ascii "quot" then some (ascii "\"")
  else if name = ascii "apos" then some (ascii "'")
  else if name.take 2 = ascii "#x" then (number 16 (name.drop 2)).bind (character legal)
  else if name.take 1 = ascii "#" then (number 10 (name.drop 1)).bind (character legal)
  else none

/-- Resolves the references. Behind a `&` its name is collected, last byte first. -/
def decode (legal : Char → Bool) : Option (List UInt8) → List UInt8 → Option (List UInt8)
  | none, [] => some []
  | some _, [] => none
  | none, b :: bs =>
    if b = 0x3c then none
    else if b = 0x26 then decode legal (some []) bs
    else (decode legal none bs).map (b :: ·)
  | some name, b :: bs =>
    if b = 0x3b then
      (reference legal name.reverse).bind fun text => (decode legal none bs).map (text ++ ·)
    else decode legal (some (b :: name)) bs

/-- Normalises the ends of lines, if it is to; behind a carriage return a line feed is dropped. -/
def normalizeEnds (lines : Bool) : Bool → List UInt8 → List UInt8
  | _, [] => []
  | behind, b :: bs =>
    if lines = true ∧ b = 0x0d then 0x0a :: normalizeEnds lines true bs
    else if lines = true ∧ b = 0x0a ∧ behind = true then normalizeEnds lines false bs
    else b :: normalizeEnds lines false bs

def read (legal : Char → Bool) (lines : Bool) (text : List UInt8) : Option (List UInt8) :=
  decode legal none (normalizeEnds lines false text)

variable {legal : Char → Bool} {lines behind : Bool} {name rest : List UInt8}

theorem decode_some (acc : List UInt8) (h : 0x3b ∉ name) :
    decode legal (some acc) (name ++ 0x3b :: rest) =
      (reference legal (acc.reverse ++ name)).bind fun text =>
        (decode legal none rest).map (text ++ ·) := by
  induction name generalizing acc with
  | nil => rw [nil_append, decode, if_pos rfl, append_nil]
  | cons b name ih =>
    rw [mem_cons, not_or] at h
    rw [cons_append, decode, if_neg (Ne.symm h.1), ih _ h.2, reverse_cons,
      append_assoc, singleton_append]

theorem decode_reference (h : 0x3b ∉ name) :
    decode legal none (0x26 :: (name ++ 0x3b :: rest)) =
      (reference legal name).bind fun text => (decode legal none rest).map (text ++ ·) := by
  rw [decode, decode_some [] h]
  rfl

theorem decode_cons {b : UInt8} (hlt : b ≠ 0x3c) (hamp : b ≠ 0x26) :
    decode legal none (b :: rest) = (decode legal none rest).map (b :: ·) := by
  rw [decode, if_neg hlt, if_neg hamp]

theorem normalizeEnds_cons {b : UInt8} (hreturn : b ≠ 0x0d) (hfeed : b ≠ 0x0a) :
    normalizeEnds lines behind (b :: rest) = b :: normalizeEnds lines false rest := by
  rw [normalizeEnds, if_neg fun h => hreturn h.2, if_neg fun h => hfeed h.2.1]

theorem normalizeEnds_append {b : UInt8} {front : List UInt8}
    (h : ∀ c ∈ b :: front, c ≠ 0x0d ∧ c ≠ 0x0a) :
    normalizeEnds lines behind (b :: front ++ rest) =
      b :: front ++ normalizeEnds lines false rest := by
  induction front generalizing b behind with
  | nil =>
    have hb := h b mem_cons_self
    exact normalizeEnds_cons hb.1 hb.2
  | cons c front ih =>
    rw [forall_mem_cons] at h
    rw [cons_append, normalizeEnds_cons h.1.1 h.1.2, ih h.2]
    rfl

theorem not_mem_normalizeEnds (h : lines = true) (text : List UInt8) :
    0x0d ∉ normalizeEnds lines behind text := by
  induction text generalizing behind with
  | nil => exact not_mem_nil
  | cons b text ih =>
    rw [normalizeEnds]
    split_ifs with hreturn
    · exact not_mem_cons_of_ne_of_not_mem (by decide) ih
    · exact ih
    · exact not_mem_cons_of_ne_of_not_mem (fun heq => hreturn ⟨h, heq.symm⟩) ih

/-- A text stays as it is unless there is a carriage return in it. -/
theorem normalizeEnds_eq_self_iff {text : List UInt8} :
    normalizeEnds lines false text = text ↔ (lines = true → 0x0d ∉ text) := by
  constructor
  · intro heq hlines
    rw [← heq]
    exact not_mem_normalizeEnds hlines text
  · intro h
    induction text with
    | nil => rfl
    | cons b text ih =>
      have hrest : lines = true → 0x0d ∉ text := fun hlines hmem =>
        h hlines (mem_cons_of_mem b hmem)
      rw [normalizeEnds, if_neg, if_neg, ih hrest]
      · exact fun hfeed => Bool.false_ne_true hfeed.2.2
      · exact fun hreturn => h hreturn.1 (hreturn.2 ▸ mem_cons_self)

end XmlBytes

namespace Dss

namespace XmlEscape

open XmlBytes

/-! ## The code -/

def named (b : UInt8) : Option (List UInt8) :=
  if b = 0x3c then some (ascii "&lt;")
  else if b = 0x3e then some (ascii "&gt;")
  else if b = 0x26 then some (ascii "&amp;")
  else if b = 0x22 then some (ascii "&quot;")
  else if b = 0x27 then some (ascii "&apos;")
  else none

/-- The control codes. A byte from 128 on is negative, as a `signed char`. -/
def isControl (b : UInt8) : Bool :=
  (b ≤ 0x1f && b ≠ 0x09 && b ≠ 0x0d && b ≠ 0x0a) || b = 0x7f

def code (b : UInt8) : List UInt8 := [0x26, 0x23, b / 10 + 0x30, b % 10 + 0x30, 0x3b]

/-- The loop, up to the NUL. Behind a control code at the end it goes on behind the NUL. -/
def escape : List UInt8 → Option (List UInt8)
  | [] => some []
  | b :: bs =>
    match named b with
    | some text => (escape bs).map (text ++ ·)
    | none =>
      if isControl b then
        match bs with
        | [] => none
        | _ :: bs => (escape bs).map (code b ++ ·)
      else (escape bs).map (b :: ·)

/-- `XMLStringEscape`, if it does not read what lies behind the text. -/
def xmlStringEscape (str : ByteArray) : Option (List UInt8) :=
  if str.validateUTF8 then escape (str.data.toList.takeWhile (· ≠ 0)) else some []

/-! ## The law -/

/-- The text is escaped without reading behind it, and read as it was. -/
def Lossless (legal : Char → Bool) (lines : Bool) (s : String) : Prop :=
  ∃ out, xmlStringEscape s.toByteArray = some out ∧
    read legal lines out = some s.toByteArray.data.toList

/-! ## Pieces -/

variable {legal : Char → Bool} {lines behind : Bool} {b : UInt8} {out bs : List UInt8}

theorem named_cases (b : UInt8) :
    (∃ name, named b = some (0x26 :: (name ++ [0x3b])) ∧ 0x3b ∉ name ∧
      (∀ c ∈ 0x26 :: (name ++ [0x3b]), c ≠ 0x0d ∧ c ≠ 0x0a) ∧
      (∀ legal, reference legal name = some [b]) ∧ isControl b = false ∧ b ≠ 0x0d ∧ b ≠ 0x0a) ∨
    named b = none ∧ b ≠ 0x3c ∧ b ≠ 0x26 := by
  rw [named]
  split_ifs with hlt hgt hamp hquot hapos
  · subst hlt
    exact .inl ⟨ascii "lt", rfl, by decide, forall_mem_of_all (by decide), fun _ => rfl, by decide,
      by decide, by decide⟩
  · subst hgt
    exact .inl ⟨ascii "gt", rfl, by decide, forall_mem_of_all (by decide), fun _ => rfl, by decide,
      by decide, by decide⟩
  · subst hamp
    exact .inl ⟨ascii "amp", rfl, by decide, forall_mem_of_all (by decide), fun _ => rfl, by decide,
      by decide, by decide⟩
  · subst hquot
    exact .inl ⟨ascii "quot", rfl, by decide, forall_mem_of_all (by decide), fun _ => rfl,
      by decide, by decide, by decide⟩
  · subst hapos
    exact .inl ⟨ascii "apos", rfl, by decide, forall_mem_of_all (by decide), fun _ => rfl,
      by decide, by decide, by decide⟩
  · exact .inr ⟨rfl, hlt, hamp⟩

theorem decode_named {name : List UInt8} (hname : 0x3b ∉ name)
    (hlines : ∀ c ∈ 0x26 :: (name ++ [0x3b]), c ≠ 0x0d ∧ c ≠ 0x0a)
    (hreference : reference legal name = some [b]) :
    decode legal none (normalizeEnds lines behind (0x26 :: (name ++ [0x3b]) ++ out)) =
      (decode legal none (normalizeEnds lines false out)).map (b :: ·) := by
  rw [normalizeEnds_append hlines, List.cons_append, List.append_assoc, List.singleton_append,
    decode_reference hname, hreference]
  rfl

theorem forall_bytes {p : UInt8 → Prop} (h : ∀ n < 256, p (UInt8.ofNat n)) (b : UInt8) : p b := by
  have hb := h b.toNat b.toNat_lt
  rwa [UInt8.ofNat_toNat] at hb

/-- The reference of a control code has no end of a line and no second semicolon, and its number, if
it has two digits, is the code. -/
theorem code_spec : ∀ b : UInt8, isControl b = true →
    (code b).all (fun c => decide (c ≠ 0x0d ∧ c ≠ 0x0a)) = true ∧
      (0x3b ∉ [0x23, b / 10 + 0x30, b % 10 + 0x30] ∧ b / 10 + 0x30 ≠ 0x78) ∧
      (number 10 [b / 10 + 0x30, b % 10 + 0x30] = none ∨
        number 10 [b / 10 + 0x30, b % 10 + 0x30] = some b.toNat ∧ b.toNat < 0x20) :=
  forall_bytes (by decide +kernel)

/-- What is read of a control code is one byte at most. -/
theorem length_reference_code (h : isControl b = true) {text : List UInt8}
    (hreference : reference legal [0x23, b / 10 + 0x30, b % 10 + 0x30] = some text) :
    text.length = 1 := by
  have hdecimal : reference legal [0x23, b / 10 + 0x30, b % 10 + 0x30] =
      (number 10 [b / 10 + 0x30, b % 10 + 0x30]).bind (character legal) := by
    simp [reference, ascii, (code_spec b h).2.1.2]
  rw [hdecimal] at hreference
  rcases (code_spec b h).2.2 with hnone | ⟨hsome, hlt⟩
  · rw [hnone] at hreference
    cases hreference
  · rw [hsome, Option.bind_some, character] at hreference
    split_ifs at hreference with hvalid
    obtain rfl := Option.some.inj hreference
    have hall : ∀ n < 0x20, (Char.ofNat n).utf8Size = 1 := by decide
    rw [String.length_utf8EncodeChar]
    exact hall _ hlt

theorem decode_code (h : isControl b = true) :
    decode legal none (normalizeEnds lines behind (code b ++ out)) =
      (reference legal [0x23, b / 10 + 0x30, b % 10 + 0x30]).bind fun text =>
        (decode legal none (normalizeEnds lines false out)).map (text ++ ·) := by
  rw [code, normalizeEnds_append (forall_mem_of_all (code_spec b h).1)]
  exact decode_reference (code_spec b h).2.1.1

/-! ## The loop -/

theorem escape_named {text : List UInt8} (h : named b = some text) :
    escape (b :: bs) = (escape bs).map (text ++ ·) := by
  rw [escape.eq_def]
  dsimp only
  rw [h]

theorem escape_plain (h : named b = none) (hcontrol : isControl b = false) :
    escape (b :: bs) = (escape bs).map (b :: ·) := by
  rw [escape.eq_def]
  dsimp only
  rw [h]
  rw [hcontrol, if_neg Bool.false_ne_true]

/-- **Without control codes, what is read is the text**, but for the ends of its lines. -/
theorem exists_escape (h : ∀ b ∈ bs, isControl b = false) :
    ∃ out, escape bs = some out ∧
      ∀ behind, decode legal none (normalizeEnds lines behind out) =
        some (normalizeEnds lines behind bs) := by
  induction bs with
  | nil => exact ⟨[], rfl, fun _ => rfl⟩
  | cons b bs ih =>
    rw [List.forall_mem_cons] at h
    obtain ⟨out, hescape, hdecode⟩ := ih h.2
    rcases named_cases b with ⟨name, hnamed, hname, hlines, hreference, -, hreturn, hfeed⟩ |
      ⟨hnone, hlt, hamp⟩
    · rw [escape_named hnamed, hescape]
      refine ⟨_, rfl, fun behind => ?_⟩
      rw [decode_named hname hlines (hreference legal), hdecode, Option.map_some,
        normalizeEnds_cons hreturn hfeed]
    · rw [escape_plain hnone h.1, hescape]
      refine ⟨_, rfl, fun behind => ?_⟩
      rw [normalizeEnds, normalizeEnds]
      split_ifs
      · rw [decode_cons (by decide) (by decide), hdecode, Option.map_some]
      · exact hdecode false
      · rw [decode_cons hlt hamp, hdecode, Option.map_some]

/-- A byte that is no control code makes a text longer by one byte at most. -/
theorem length_cons_of_plain {text : List UInt8} (hcontrol : isControl b = false)
    (hle : text.length ≤ bs.length + 1)
    (hlt : (∃ c ∈ bs, isControl c = true) → text.length < bs.length + 1) :
    text.length ≤ (b :: bs).length ∧
      ((∃ c ∈ b :: bs, isControl c = true) → text.length < (b :: bs).length) := by
  refine ⟨hle, ?_⟩
  rintro ⟨c, hmem, hc⟩
  rcases List.mem_cons.mp hmem with rfl | hmem
  · rw [hcontrol] at hc
    cases hc
  · exact hlt ⟨c, hmem, hc⟩

theorem length_read (bs : List UInt8) :
    ∀ (behind : Bool) (out text : List UInt8), escape bs = some out →
      decode legal none (normalizeEnds lines behind out) = some text →
        text.length ≤ bs.length ∧ ((∃ b ∈ bs, isControl b = true) → text.length < bs.length) := by
  fun_induction escape bs with
  | case1 =>
    intro behind out text hescape hread
    obtain rfl := Option.some.inj hescape
    obtain rfl := Option.some.inj hread
    exact ⟨Nat.le_refl 0, fun ⟨_, hmem, _⟩ => absurd hmem List.not_mem_nil⟩
  | case2 b bs entity hnamed ih =>
    intro behind out text hescape hread
    obtain ⟨out, hout, rfl⟩ := Option.map_eq_some_iff.mp hescape
    rcases named_cases b with ⟨name, hname', hname, hlines, hreference, hplain, -⟩ | ⟨hnone, -⟩
    · obtain rfl := Option.some.inj (hnamed.symm.trans hname')
      rw [decode_named hname hlines (hreference legal)] at hread
      obtain ⟨text, htext, rfl⟩ := Option.map_eq_some_iff.mp hread
      obtain ⟨hle, hlt⟩ := ih false out text hout htext
      exact length_cons_of_plain hplain (Nat.succ_le_succ hle) fun h => Nat.succ_lt_succ (hlt h)
    · rw [hnone] at hnamed
      cases hnamed
  | case3 b hnone hcontrol =>
    intro behind out text hescape
    cases hescape
  | case4 b hnone hcontrol skipped bs ih =>
    intro behind out text hescape hread
    obtain ⟨out, hout, rfl⟩ := Option.map_eq_some_iff.mp hescape
    rw [decode_code hcontrol] at hread
    obtain ⟨first, hfirst, hmap⟩ := Option.bind_eq_some_iff.mp hread
    obtain ⟨text, htext, rfl⟩ := Option.map_eq_some_iff.mp hmap
    have hle := (ih false out text hout htext).1
    have hone := length_reference_code hcontrol hfirst
    simp only [List.length_append, List.length_cons]
    omega
  | case5 b bs hnone hcontrol ih =>
    intro behind out text hescape hread
    obtain ⟨out, hout, rfl⟩ := Option.map_eq_some_iff.mp hescape
    have hb := (named_cases b).resolve_left fun ⟨name, hname, _⟩ => by
      rw [hnone] at hname
      cases hname
    have hplain := Bool.eq_false_iff.mpr hcontrol
    rw [normalizeEnds] at hread
    split_ifs at hread
    · obtain ⟨text, htext, rfl⟩ := Option.map_eq_some_iff.mp hread
      obtain ⟨hle, hlt⟩ := ih true out text hout htext
      exact length_cons_of_plain hplain (Nat.succ_le_succ hle) fun h => Nat.succ_lt_succ (hlt h)
    · obtain ⟨hle, hlt⟩ := ih false out text hout hread
      exact length_cons_of_plain hplain (Nat.le_succ_of_le hle) fun h => Nat.lt_succ_of_lt (hlt h)
    · rw [decode_cons hb.2.1 hb.2.2] at hread
      obtain ⟨text, htext, rfl⟩ := Option.map_eq_some_iff.mp hread
      obtain ⟨hle, hlt⟩ := ih false out text hout htext
      exact length_cons_of_plain hplain (Nat.succ_le_succ hle) fun h => Nat.succ_lt_succ (hlt h)

/-! ## Texts -/

theorem validateUTF8_toByteArray (s : String) : s.toByteArray.validateUTF8 = true := by
  rw [← ByteArray.isSome_utf8Decode?_eq_validateUTF8, ByteArray.isSome_utf8Decode?_iff]
  exact s.isValidUTF8

/-- **Which texts are escaped without a loss.** There is no control code in them, NUL included, and,
if the ends of lines are normalised, no carriage return. -/
theorem lossless_iff (legal : Char → Bool) (lines : Bool) (s : String) :
    Lossless legal lines s ↔ (∀ b ∈ s.toByteArray.data.toList, isControl b = false) ∧
      (lines = true → 0x0d ∉ s.toByteArray.data.toList) := by
  rw [Lossless, xmlStringEscape, if_pos (validateUTF8_toByteArray s)]
  generalize s.toByteArray.data.toList = bs
  constructor
  · rintro ⟨out, hescape, hread⟩
    obtain ⟨hle, hlt⟩ := length_read _ _ _ _ hescape hread
    have hprefix := (List.takeWhile_prefix (l := bs) fun b => decide (b ≠ 0)).length_le
    have hself : bs.takeWhile (· ≠ 0) = bs :=
      (List.takeWhile_prefix _).eq_of_length (Nat.le_antisymm hprefix hle)
    rw [hself] at hescape hlt
    have hall : ∀ b ∈ bs, isControl b = false := fun b hb =>
      Bool.eq_false_iff.mpr fun hcontrol => Nat.lt_irrefl _ (hlt ⟨b, hb, hcontrol⟩)
    refine ⟨hall, ?_⟩
    obtain ⟨out', hescape', hread'⟩ := exists_escape hall
    obtain rfl := Option.some.inj (hescape.symm.trans hescape')
    exact normalizeEnds_eq_self_iff.1 (Option.some.inj ((hread' false).symm.trans hread))
  · rintro ⟨hall, hlines⟩
    have hself : bs.takeWhile (· ≠ 0) = bs := by
      rw [List.takeWhile_eq_self_iff]
      intro b hb
      have hcontrol := hall b hb
      simpa using fun hnul : b = 0 => by
        rw [hnul] at hcontrol
        revert hcontrol
        decide
    obtain ⟨out, hescape, hread⟩ := exists_escape hall
    rw [hself]
    exact ⟨out, hescape, (hread false).trans (congrArg some (normalizeEnds_eq_self_iff.2 hlines))⟩

/-! ## Characters -/

theorem named_high (h : 0x80 ≤ b) : named b = none ∧ isControl b = false := by
  have hne : ∀ c : UInt8, c < 0x80 → b ≠ c := by
    rintro c hc rfl
    exact UInt8.not_le.mpr hc h
  have hlarge : ¬ b ≤ 0x1f := UInt8.not_le.mpr (UInt8.lt_of_lt_of_le (by decide) h)
  refine ⟨?_, ?_⟩
  · rw [named, if_neg (hne _ (by decide)), if_neg (hne _ (by decide)), if_neg (hne _ (by decide)),
      if_neg (hne _ (by decide)), if_neg (hne _ (by decide))]
  · simp only [isControl, hlarge, hne 0x7f (by decide), decide_false, Bool.false_and, Bool.or_self]

theorem high_or {mark : UInt8} (h : 0x80 ≤ mark) (x : UInt8) : 0x80 ≤ x ||| mark := by
  exact h.trans Nat.right_le_or

theorem utf8EncodeChar_high {c : Char} (h : ¬ c.toNat < 0x80) :
    ∀ b ∈ String.utf8EncodeChar c, 0x80 ≤ b := by
  have hone : c.utf8Size ≠ 1 := by
    rw [Char.utf8Size, if_neg]
    · split_ifs <;> decide
    · exact fun hle => h (Nat.lt_succ_of_le (UInt32.le_iff_toNat_le.mp hle))
  have hpos := c.utf8Size_pos
  have hle := c.utf8Size_le_four
  have hsize : c.utf8Size = 2 ∨ c.utf8Size = 3 ∨ c.utf8Size = 4 := by omega
  rcases hsize with hsize | hsize | hsize
  · rw [String.utf8EncodeChar_eq_cons_cons hsize]
    simp only [List.forall_mem_cons]
    exact ⟨high_or (by decide) _, high_or (by decide) _, fun _ hb => absurd hb List.not_mem_nil⟩
  · rw [String.utf8EncodeChar_eq_cons_cons_cons hsize]
    simp only [List.forall_mem_cons]
    exact ⟨high_or (by decide) _, high_or (by decide) _, high_or (by decide) _,
      fun _ hb => absurd hb List.not_mem_nil⟩
  · rw [String.utf8EncodeChar_eq_cons_cons_cons_cons hsize]
    simp only [List.forall_mem_cons]
    exact ⟨high_or (by decide) _, high_or (by decide) _, high_or (by decide) _,
      high_or (by decide) _,
      fun _ hb => absurd hb List.not_mem_nil⟩

theorem escape_high {front : List UInt8} (h : ∀ b ∈ front, 0x80 ≤ b) :
    escape (front ++ bs) = (escape bs).map (front ++ ·) := by
  induction front with
  | nil => exact (congrFun Option.map_id _).symm
  | cons b front ih =>
    rw [List.forall_mem_cons] at h
    obtain ⟨hnone, hcontrol⟩ := named_high h.1
    rw [List.cons_append, escape_plain hnone hcontrol, ih h.2, Option.map_map]
    rfl

theorem ascii_cases : ∀ n < 0x80, PropertyTree.isControl (Char.ofNat n) = false →
    String.utf8EncodeChar (Char.ofNat n) = [UInt8.ofNat n] ∧ 0 ≠ UInt8.ofNat n ∧
      (named (UInt8.ofNat n) =
          some ((PropertyTree.escapeChar (Char.ofNat n)).flatMap String.utf8EncodeChar) ∨
        (named (UInt8.ofNat n) = none ∧ isControl (UInt8.ofNat n) = false) ∧
          (PropertyTree.escapeChar (Char.ofNat n)).flatMap String.utf8EncodeChar =
            [UInt8.ofNat n]) := by
  decide +kernel

/-- One character, with its bytes. -/
theorem escape_utf8EncodeChar {c : Char} (h : PropertyTree.isControl c = false) :
    escape (String.utf8EncodeChar c ++ bs) =
      (escape bs).map ((PropertyTree.escapeChar c).flatMap String.utf8EncodeChar ++ ·) := by
  by_cases hascii : c.toNat < 0x80
  · have hcases := ascii_cases c.toNat hascii
    rw [Char.ofNat_toNat] at hcases
    obtain ⟨hencode, -, hnamed | ⟨⟨hnone, hcontrol⟩, hself⟩⟩ := hcases h
    · rw [hencode, List.singleton_append, escape_named hnamed]
    · rw [hencode, List.singleton_append, escape_plain hnone hcontrol, hself]
      rfl
  · have hne : ∀ d : Char, d.toNat < 0x80 → c ≠ d := fun d hd heq => hascii (heq ▸ hd)
    have hself : PropertyTree.escapeChar c = [c] := by
      rw [PropertyTree.escapeChar, if_neg (hne _ (by decide)), if_neg (hne _ (by decide)),
        if_neg (hne _ (by decide)), if_neg (hne _ (by decide)), if_neg (hne _ (by decide)), h,
        if_neg Bool.false_ne_true]
    rw [escape_high (utf8EncodeChar_high hascii), hself, List.flatMap_singleton]

/-- **Without control codes**, the bytes are those of the text escaped character by character. -/
theorem escape_flatMap {cs : List Char} (h : ∀ c ∈ cs, PropertyTree.isControl c = false) :
    escape (cs.flatMap String.utf8EncodeChar) =
      some ((PropertyTree.escape cs).flatMap String.utf8EncodeChar) := by
  induction cs with
  | nil => rfl
  | cons c cs ih =>
    rw [List.forall_mem_cons] at h
    rw [PropertyTree.escape_cons h.1, List.flatMap_cons, List.flatMap_append,
      escape_utf8EncodeChar h.1, ih h.2]
    rfl

theorem toByteArray_ofList (cs : List Char) :
    (String.ofList cs).toByteArray.data.toList = cs.flatMap String.utf8EncodeChar := by
  rw [String.toByteArray_ofList, List.utf8Encode, List.toList_data_toByteArray]

theorem zero_not_mem_utf8EncodeChar {c : Char} (h : PropertyTree.isControl c = false) :
    0 ∉ String.utf8EncodeChar c := by
  by_cases hascii : c.toNat < 0x80
  · have hcases := ascii_cases c.toNat hascii
    rw [Char.ofNat_toNat] at hcases
    obtain ⟨hencode, hne, -⟩ := hcases h
    rw [hencode, List.mem_singleton]
    exact hne
  · intro hmem
    exact absurd (utf8EncodeChar_high hascii 0 hmem) (by decide)

/-- **Bytes and characters.** Without control codes the bytes that are written are those of the text
that is escaped character by character. -/
theorem xmlStringEscape_toByteArray {s : String}
    (h : ∀ c ∈ s.toList, PropertyTree.isControl c = false) :
    xmlStringEscape s.toByteArray =
      some (PropertyTree.xmlStringEscape s).toByteArray.data.toList := by
  have hself : (s.toList.flatMap String.utf8EncodeChar).takeWhile (· ≠ 0) =
      s.toList.flatMap String.utf8EncodeChar := by
    rw [List.takeWhile_eq_self_iff]
    intro b hb
    obtain ⟨c, hc, hmem⟩ := List.mem_flatMap.mp hb
    simpa using fun hnul : b = 0 => zero_not_mem_utf8EncodeChar (h c hc) (hnul ▸ hmem)
  have hbytes : s.toByteArray.data.toList = s.toList.flatMap String.utf8EncodeChar := by
    rw [← toByteArray_ofList, String.ofList_toList]
  rw [xmlStringEscape, if_pos (validateUTF8_toByteArray s), hbytes, hself, escape_flatMap h,
    PropertyTree.xmlStringEscape, toByteArray_ofList]

theorem xmlStringEscape_toByteArray_umlaut : xmlStringEscape "<ä>".toByteArray =
    some (PropertyTree.xmlStringEscape "<ä>").toByteArray.data.toList :=
  xmlStringEscape_toByteArray (by simp [PropertyTree.isControl])

/-- Behind the code 1 there is nothing but the NUL. -/
theorem lossless_fails :
    ¬ ∀ s : String, '\x00' ∉ s.toList → Lossless (fun _ => true) false s := by
  intro h
  obtain ⟨out, hescape, -⟩ := h "\x01" (by decide)
  cases hescape

end XmlEscape

end Dss
