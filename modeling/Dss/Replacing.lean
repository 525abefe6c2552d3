import Mathlib.Data.List.Infix

/-!
# Replacing every occurrence

A word is replaced from left to right, and what was put in its place is not looked at again.

A code writes some letters as words that begin with a mark. If the words have different second
letters and no other marks, then replacing the word of a letter undoes the code for this letter.
-/

namespace Replacing

open List

universe u

variable {α : Type u}

section words

variable [DecidableEq α]

/-- `skip` letters of the last occurrence are left. -/
def replaceFrom (pat sub : List α) : ℕ → List α → List α
  | _, [] => []
  | skip + 1, _ :: as => replaceFrom pat sub skip as
  | 0, a :: as =>
    if pat <+: a :: as then sub ++ replaceFrom pat sub (pat.length - 1) as
    else a :: replaceFrom pat sub 0 as

def replaceAll (pat sub as : List α) : List α := replaceFrom pat sub 0 as

variable {pat sub as rest word : List α} {a mark : α}

/-! ## One letter after the other -/

theorem replaceFrom_eq (n : ℕ) : replaceFrom pat sub n as = replaceAll pat sub (as.drop n) := by
  induction n generalizing as with
  | zero => rfl
  | succ n ih =>
    cases as with
    | nil => rfl
    | cons a as =>
      rw [replaceFrom, ih]
      rfl

theorem replaceAll_found (h : pat ≠ []) :
    replaceAll pat sub (pat ++ rest) = sub ++ replaceAll pat sub rest := by
  cases pat with
  | nil => exact absurd rfl h
  | cons a pat =>
    rw [replaceAll, cons_append, replaceFrom, replaceFrom_eq, if_pos]
    · rw [length_cons, Nat.add_sub_cancel, drop_left]
    · rw [cons_prefix_cons]
      exact ⟨rfl, prefix_append pat rest⟩

theorem replaceAll_cons (h : ¬ pat <+: a :: as) :
    replaceAll pat sub (a :: as) = a :: replaceAll pat sub as := by
  rw [replaceAll, replaceFrom, if_neg h]
  rfl

/-- Induction along the occurrences of a word. -/
@[elab_as_elim]
theorem induction {motive : List α → Prop} (pat : List α) (hpat : pat ≠ []) (nil : motive [])
    (found : ∀ rest, motive rest → motive (pat ++ rest))
    (other : ∀ a as, ¬ pat <+: a :: as → motive as → motive (a :: as)) (as : List α) :
    motive as := by
  have hall (n : ℕ) : ∀ as : List α, as.length ≤ n → motive as := by
    induction n with
    | zero =>
      intro as hlength
      rw [length_eq_zero_iff.mp (Nat.le_zero.mp hlength)]
      exact nil
    | succ n ih =>
      intro as hlength
      cases as with
      | nil => exact nil
      | cons a as =>
        by_cases hpre : pat <+: a :: as
        · obtain ⟨rest, hrest⟩ := hpre
          rw [← hrest]
          refine found rest (ih rest ?_)
          have hpositive := length_pos_iff.mpr hpat
          rw [← hrest, length_append] at hlength
          omega
        · exact other a as hpre (ih as (Nat.le_of_succ_le_succ hlength))
  exact hall as.length as le_rfl

theorem replaceAll_append (h : mark ∉ word) :
    replaceAll (mark :: pat) sub (word ++ rest) =
      word ++ replaceAll (mark :: pat) sub rest := by
  induction word with
  | nil => rfl
  | cons a word ih =>
    obtain ⟨hne, hword⟩ := not_or.mp fun hmem => h (mem_cons.mpr hmem)
    rw [cons_append, replaceAll_cons, ih hword, cons_append]
    exact fun hpre => hne (cons_prefix_cons.mp hpre).1

theorem replaceAll_singleton :
    replaceAll [mark] sub as = as.flatMap fun a => if a = mark then sub else [a] := by
  induction as with
  | nil => rfl
  | cons a as ih =>
    rw [flatMap_cons, ← ih]
    split_ifs with ha
    · rw [ha]
      exact replaceAll_found (cons_ne_nil mark [])
    · rw [replaceAll_cons fun hpre => ha (cons_prefix_cons.mp hpre).1.symm]
      rfl

/-! ## What does not occur -/

theorem replaceAll_eq_self (hpat : pat ≠ []) (h : ¬ pat <:+: as) : replaceAll pat sub as = as := by
  induction as using induction pat hpat with
  | nil => rfl
  | found rest ih => exact absurd (prefix_append pat rest).isInfix h
  | other a as hnot ih =>
    rw [replaceAll_cons hnot, ih fun hwithin => h (hwithin.trans (suffix_cons a as).isInfix)]

theorem length_replaceAll_le (hpat : pat ≠ []) (hsub : sub.length ≤ pat.length) :
    (replaceAll pat sub as).length ≤ as.length := by
  induction as using induction pat hpat with
  | nil => exact le_rfl
  | found rest ih =>
    rw [replaceAll_found hpat, length_append, length_append]
    omega
  | other a as hnot ih =>
    rw [replaceAll_cons hnot, length_cons, length_cons]
    omega

theorem length_replaceAll_lt (hsub : sub.length < pat.length) (h : pat <:+: as) :
    (replaceAll pat sub as).length < as.length := by
  have hpat : pat ≠ [] := by
    rintro rfl
    exact Nat.not_lt_zero _ hsub
  induction as using induction pat hpat with
  | nil => exact absurd (infix_nil.mp h) hpat
  | found rest ih =>
    have hrest := @length_replaceAll_le α _ pat sub rest hpat hsub.le
    rw [replaceAll_found hpat, length_append, length_append]
    omega
  | other a as hnot ih =>
    have hshort := ih ((infix_cons_iff.mp h).resolve_left hnot)
    rw [replaceAll_cons hnot, length_cons, length_cons]
    omega

end words

/-! ## Codes -/

section codes

variable {mark a d : α} {as word rest : List α} {code : α → Option (List α)}

def letter (mark : α) (code : α → Option (List α)) (a : α) : List α :=
  match code a with
  | some word => mark :: word
  | none => [a]

def encode (mark : α) (code : α → Option (List α)) (as : List α) : List α :=
  as.flatMap (letter mark code)

structure Code (mark : α) (code : α → Option (List α)) : Prop where
  ne_nil : ∀ a, code a ≠ some []
  distinct : ∀ {a a' x : α} {word word' : List α}, code a = some (x :: word) →
    code a' = some (x :: word') → a = a'
  unmarked : ∀ {a : α} {word : List α}, code a = some word → mark ∉ word
  plain : ∀ {a : α} {word : List α}, code a = some word → ∀ x ∈ word, code x = none

theorem encode_cons : encode mark code (a :: as) = letter mark code a ++ encode mark code as :=
  flatMap_cons

theorem letter_of_some (h : code a = some word) : letter mark code a = mark :: word := by
  rw [letter, h]

theorem letter_of_none (h : code a = none) : letter mark code a = [a] := by
  rw [letter, h]

theorem encode_of_plain (h : ∀ x ∈ word, code x = none) : encode mark code word = word := by
  induction word with
  | nil => rfl
  | cons a word ih =>
    rw [encode_cons, letter_of_none (h a mem_cons_self),
      ih fun x hx => h x (mem_cons_of_mem a hx)]
    rfl

theorem encode_append :
    encode mark code (as ++ rest) = encode mark code as ++ encode mark code rest :=
  flatMap_append

theorem prefix_encode_iff (hmark : mark ∉ word) (hplain : ∀ x ∈ word, code x = none) :
    word <+: encode mark code as ↔ word <+: as := by
  induction word generalizing as with
  | nil => exact iff_of_true nil_prefix nil_prefix
  | cons x word ih =>
    obtain ⟨hne, hword⟩ := not_or.mp fun hmem => hmark (mem_cons.mpr hmem)
    have hx := hplain x mem_cons_self
    cases as with
    | nil => exact Iff.rfl
    | cons a as =>
      rw [encode_cons]
      rcases ha : code a with - | body
      · rw [letter_of_none ha, singleton_append, cons_prefix_cons, cons_prefix_cons,
          ih hword fun y hy => hplain y (mem_cons_of_mem x hy)]
      · rw [letter_of_some ha, cons_append, cons_prefix_cons, cons_prefix_cons]
        refine iff_of_false (fun h => hne h.1.symm) ?_
        rintro ⟨rfl, -⟩
        rw [hx] at ha
        cases ha

theorem Code.not_prefix {word' : List α} (h : Code mark code) (ha : code a = some word)
    (hd : code d = some word') (hne : a ≠ d) : ¬ mark :: word' <+: mark :: (word ++ rest) := by
  intro hpre
  rw [cons_prefix_cons] at hpre
  cases word with
  | nil => exact h.ne_nil a ha
  | cons x word =>
    cases word' with
    | nil => exact h.ne_nil d hd
    | cons y word' =>
      rw [cons_append, cons_prefix_cons] at hpre
      obtain ⟨-, rfl, -⟩ := hpre
      exact hne (h.distinct ha hd)

end codes

/-! ## Undoing a code -/

section undoing

variable [DecidableEq α] {mark a d : α} {as word rest sub : List α}
  {code : α → Option (List α)}

def without (code : α → Option (List α)) (d : α) : α → Option (List α) :=
  Function.update code d none

theorem without_self : without code d d = none := by
  rw [without, Function.update_self]

theorem without_of_ne (h : a ≠ d) : without code d a = code a := by
  rw [without, Function.update_of_ne h]

theorem some_of_without (h : without code d a = some word) : code a = some word := by
  by_cases ha : a = d
  · rw [ha, without_self] at h
    cases h
  · rwa [without_of_ne ha] at h

theorem ne_of_without (h : without code d a = some word) : a ≠ d := by
  rintro rfl
  rw [without_self] at h
  cases h

theorem Code.without (h : Code mark code) (d : α) : Code mark (without code d) where
  ne_nil a ha := h.ne_nil a (some_of_without ha)
  distinct ha ha' := h.distinct (some_of_without ha) (some_of_without ha')
  unmarked ha := h.unmarked (some_of_without ha)
  plain ha x hx := by
    by_cases hxd : x = d
    · rw [hxd, without_self]
    · rw [without_of_ne hxd]
      exact h.plain (some_of_without ha) x hx

theorem letter_without_of_ne (h : a ≠ d) : letter mark (without code d) a = letter mark code a := by
  rw [letter, letter, without_of_ne h]

theorem Code.replaceAll_letter {word' : List α} (h : Code mark code) (ha : code a = some word)
    (hd : code d = some word') (hne : a ≠ d) :
    replaceAll (mark :: word') sub (letter mark code a ++ rest) =
      letter mark code a ++ replaceAll (mark :: word') sub rest := by
  rw [letter_of_some ha, cons_append, replaceAll_cons (h.not_prefix ha hd hne),
    replaceAll_append (h.unmarked ha)]
  rfl

theorem Code.replaceAll_mark (h : Code mark code) (hmark : code mark = some word) :
    replaceAll (mark :: word) [mark] (encode mark code as) =
      encode mark (Replacing.without code mark) as := by
  induction as with
  | nil => rfl
  | cons a as ih =>
    rw [encode_cons, encode_cons, ← ih]
    by_cases ha : a = mark
    · rw [ha, letter_of_some hmark, replaceAll_found (cons_ne_nil mark word),
        letter_of_none without_self]
    · rw [letter_without_of_ne ha]
      rcases hcode : code a with - | body
      · rw [letter_of_none hcode, singleton_append, replaceAll_cons, singleton_append]
        exact fun hpre => ha (cons_prefix_cons.mp hpre).1.symm
      · exact h.replaceAll_letter hcode hmark ha

/-- **Undoing the code of a letter,** when the mark has none: what is left is the code without it,
of the text in which its word was replaced. -/
theorem Code.replaceAll_encode (h : Code mark code) (hmark : code mark = none)
    (hd : code d = some word) :
    replaceAll (mark :: word) [d] (encode mark code as) =
      encode mark (Replacing.without code d) (replaceAll (mark :: word) [d] as) := by
  have hpat : mark :: word ≠ [] := cons_ne_nil mark word
  have hplain : ∀ x ∈ mark :: word, code x = none := by
    intro x hx
    rcases mem_cons.mp hx with rfl | hx
    · exact hmark
    · exact h.plain hd x hx
  have hself : ∀ x ∈ [d], Replacing.without code d x = none := by
    intro x hx
    rw [mem_singleton.mp hx, without_self]
  induction as using induction (mark :: word) hpat with
  | nil => rfl
  | found rest ih =>
    rw [encode_append, encode_of_plain hplain, replaceAll_found hpat, replaceAll_found hpat,
      encode_append, ih, encode_of_plain hself]
  | other a as hnot ih =>
    rw [replaceAll_cons hnot, encode_cons, encode_cons, ← ih]
    by_cases ha : a = d
    · rw [ha, letter_of_some hd, letter_of_none without_self, replaceAll_found hpat]
    · rw [letter_without_of_ne ha]
      rcases hcode : code a with - | body
      · -- the letter stands for itself, and no word begins there
        rw [letter_of_none hcode, singleton_append, replaceAll_cons, singleton_append]
        intro hpre
        rw [cons_prefix_cons, prefix_encode_iff (h.unmarked hd) (h.plain hd),
          ← cons_prefix_cons] at hpre
        exact hnot hpre
      · exact h.replaceAll_letter hcode hd ha

end undoing

end Replacing
