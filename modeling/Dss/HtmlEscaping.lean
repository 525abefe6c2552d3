import Dss.Base
import Dss.Replacing

/-!
# HTML escaping

`escapeHTML` replaces five characters by entities, the ampersand first. `unescapeHTML` replaces the
ampersand first again, and takes what is left for an entity.
-/

namespace Dss

open Replacing List

/-- `boost::replace_all` -/
def replaceAll (input search format : String) : String :=
  .ofList (Replacing.replaceAll search.toList format.toList input.toList)

def escapeHTML (input : String) : String :=
  let input := replaceAll input "&" "&amp;"
  let input := replaceAll input "\x22" "&quot;"
  let input := replaceAll input "\x27" "&#039;"
  let input := replaceAll input "<" "&lt;"
  replaceAll input ">" "&gt;"

def unescapeHTML (input : String) : String :=
  let input := replaceAll input "&amp;" "&"
  let input := replaceAll input "&quot;" "\x22"
  let input := replaceAll input "&#039;" "\x27"
  let input := replaceAll input "&lt;" "<"
  replaceAll input "&gt;" ">"

namespace HtmlEscaping

/-! ## The law and the condition -/

def specials : List Char := ['\x22', '\x27', '<', '>']

def entities : List String := ["&quot;", "&#039;", "&lt;", "&gt;"]

/-- Escaping can be undone, and leaves no special character. -/
def Invertible (s : String) : Prop :=
  unescapeHTML (escapeHTML s) = s ∧ ∀ c ∈ specials, c ∉ (escapeHTML s).toList

def HoldsEntity (s : String) : Prop := ∃ entity ∈ entities, entity.toList <:+: s.toList

/-! ## The code -/

def htmlCode : Char → Option (List Char)
  | '&' => some "amp;".toList
  | '\x22' => some "quot;".toList
  | '\x27' => some "#039;".toList
  | '<' => some "lt;".toList
  | '>' => some "gt;".toList
  | _ => none

theorem htmlCode_cases {c : Char} {word : List Char} (h : htmlCode c = some word) :
    (c = '&' ∧ word = "amp;".toList) ∨ (c = '\x22' ∧ word = "quot;".toList) ∨
      (c = '\x27' ∧ word = "#039;".toList) ∨ (c = '<' ∧ word = "lt;".toList) ∨
        (c = '>' ∧ word = "gt;".toList) := by
  rw [htmlCode.eq_def] at h
  split at h
  all_goals cases h
  · exact Or.inl ⟨rfl, rfl⟩
  · exact Or.inr (Or.inl ⟨rfl, rfl⟩)
  · exact Or.inr (Or.inr (Or.inl ⟨rfl, rfl⟩))
  · exact Or.inr (Or.inr (Or.inr (Or.inl ⟨rfl, rfl⟩)))
  · exact Or.inr (Or.inr (Or.inr (Or.inr ⟨rfl, rfl⟩)))

theorem htmlCode_of_ne {c : Char} (hand : c ≠ '&') (hquote : c ≠ '\x22') (hsingle : c ≠ '\x27')
    (hless : c ≠ '<') (hgreater : c ≠ '>') : htmlCode c = none := by
  rcases h : htmlCode c with - | word
  · rfl
  · rcases htmlCode_cases h with ⟨hc, -⟩ | ⟨hc, -⟩ | ⟨hc, -⟩ | ⟨hc, -⟩ | ⟨hc, -⟩
    · exact absurd hc hand
    · exact absurd hc hquote
    · exact absurd hc hsingle
    · exact absurd hc hless
    · exact absurd hc hgreater

def firsts : List (Char × Char) :=
  [('&', 'a'), ('\x22', 'q'), ('\x27', '#'), ('<', 'l'), ('>', 'g')]

theorem mem_firsts {c x : Char} {word : List Char} (h : htmlCode c = some (x :: word)) :
    (c, x) ∈ firsts := by
  rcases htmlCode_cases h with ⟨rfl, hword⟩ | ⟨rfl, hword⟩ | ⟨rfl, hword⟩ | ⟨rfl, hword⟩ |
    ⟨rfl, hword⟩
  all_goals
    obtain ⟨rfl, -⟩ := cons.inj hword
    decide

theorem code_htmlCode : Code '&' htmlCode where
  ne_nil c h := by
    rcases htmlCode_cases h with ⟨-, h⟩ | ⟨-, h⟩ | ⟨-, h⟩ | ⟨-, h⟩ | ⟨-, h⟩
    all_goals exact absurd h (by decide)
  distinct := by
    intro c c' x word word' h h'
    have hfirst := mem_firsts h
    have hfirst' := mem_firsts h'
    simp only [firsts, mem_cons, Prod.mk.injEq, not_mem_nil, or_false] at hfirst hfirst'
    rcases hfirst with ⟨rfl, rfl⟩ | ⟨rfl, rfl⟩ | ⟨rfl, rfl⟩ | ⟨rfl, rfl⟩ | ⟨rfl, rfl⟩
    all_goals
      refine Eq.symm ?_
      simpa using hfirst'
  unmarked := by
    intro c word h
    rcases htmlCode_cases h with ⟨-, rfl⟩ | ⟨-, rfl⟩ | ⟨-, rfl⟩ | ⟨-, rfl⟩ | ⟨-, rfl⟩
    all_goals decide
  plain := by
    intro c word h
    have hall : word.all (fun x => (htmlCode x).isNone) = true := by
      rcases htmlCode_cases h with ⟨-, rfl⟩ | ⟨-, rfl⟩ | ⟨-, rfl⟩ | ⟨-, rfl⟩ | ⟨-, rfl⟩
      all_goals rfl
    exact fun x hx => Option.isNone_iff_eq_none.mp (all_eq_true.mp hall x hx)

theorem toList_replaceAll (input search format : String) :
    (replaceAll input search format).toList =
      Replacing.replaceAll search.toList format.toList input.toList := String.toList_ofList

theorem toList_escapeHTML (s : String) :
    (escapeHTML s).toList = encode '&' htmlCode s.toList := by
  simp only [escapeHTML, toList_replaceAll]
  rw [show ">".toList = ['>'] from rfl, show "<".toList = ['<'] from rfl,
    show "\x27".toList = ['\x27'] from rfl, show "\x22".toList = ['\x22'] from rfl,
    show "&".toList = ['&'] from rfl]
  simp only [replaceAll_singleton, flatMap_assoc]
  refine flatMap_congr fun c _ => ?_
  by_cases hand : c = '&'
  · rw [hand]
    rfl
  by_cases hquote : c = '\x22'
  · rw [hquote]
    rfl
  by_cases hsingle : c = '\x27'
  · rw [hsingle]
    rfl
  by_cases hless : c = '<'
  · rw [hless]
    rfl
  by_cases hgreater : c = '>'
  · rw [hgreater]
    rfl
  -- no replacement touches the character
  rw [letter_of_none (htmlCode_of_ne hand hquote hsingle hless hgreater)]
  simp only [hand, hquote, hsingle, hless, hgreater, if_false, flatMap_singleton]

theorem not_mem_escapeHTML (s : String) : ∀ c ∈ specials, c ∉ (escapeHTML s).toList := by
  intro c hc hmem
  rw [toList_escapeHTML, encode, mem_flatMap] at hmem
  obtain ⟨d, -, hd⟩ := hmem
  rcases h : htmlCode d with - | word
  · rw [letter_of_none h, mem_singleton] at hd
    rw [← hd] at h
    simp only [specials, mem_cons, not_mem_nil, or_false] at hc
    rcases hc with rfl | rfl | rfl | rfl
    all_goals cases h
  · have hall : ('&' :: word).all (fun x => !specials.contains x) = true := by
      rcases htmlCode_cases h with ⟨-, rfl⟩ | ⟨-, rfl⟩ | ⟨-, rfl⟩ | ⟨-, rfl⟩ | ⟨-, rfl⟩
      all_goals rfl
    rw [letter_of_some h] at hd
    have hnot := all_eq_true.mp hall c hd
    rw [contains_iff_mem.mpr hc] at hnot
    cases hnot

/-! ## What is undone -/

def unquoted (input : String) : String :=
  let input := replaceAll input "&quot;" "\x22"
  let input := replaceAll input "&#039;" "\x27"
  let input := replaceAll input "&lt;" "<"
  replaceAll input "&gt;" ">"

/-- What is left of the code when the ampersand is undone, and then both quotes and `<`. -/
def afterAnd : Char → Option (List Char) := without htmlCode '&'

def afterQuote : Char → Option (List Char) := without afterAnd '\x22'

def afterSingle : Char → Option (List Char) := without afterQuote '\x27'

def afterLess : Char → Option (List Char) := without afterSingle '<'

theorem without_afterLess (c : Char) : without afterLess '>' c = none := by
  rcases h : without afterLess '>' c with - | word
  · rfl
  · have hless := some_of_without h
    have hsingle := some_of_without hless
    have hquote := some_of_without hsingle
    have hand := some_of_without hquote
    have hnone := htmlCode_of_ne (ne_of_without hand) (ne_of_without hquote)
      (ne_of_without hsingle) (ne_of_without hless) (ne_of_without h)
    rw [some_of_without hand] at hnone
    cases hnone

theorem unescapeHTML_escapeHTML (s : String) : unescapeHTML (escapeHTML s) = unquoted s := by
  refine String.toList_inj.mp ?_
  simp only [unescapeHTML, unquoted, toList_replaceAll, toList_escapeHTML]
  have hand : Code '&' afterAnd := code_htmlCode.without '&'
  have hquote : Code '&' afterQuote := hand.without '\x22'
  have hsingle : Code '&' afterSingle := hquote.without '\x27'
  have hless : Code '&' afterLess := hsingle.without '<'
  have hfirst (as : List Char) : Replacing.replaceAll "&amp;".toList "&".toList
      (encode '&' htmlCode as) = encode '&' afterAnd as := code_htmlCode.replaceAll_mark rfl
  have hsecond (as : List Char) : Replacing.replaceAll "&quot;".toList "\x22".toList
      (encode '&' afterAnd as) = encode '&' afterQuote
        (Replacing.replaceAll "&quot;".toList "\x22".toList as) := hand.replaceAll_encode rfl rfl
  have hthird (as : List Char) : Replacing.replaceAll "&#039;".toList "\x27".toList
      (encode '&' afterQuote as) = encode '&' afterSingle
        (Replacing.replaceAll "&#039;".toList "\x27".toList as) := hquote.replaceAll_encode rfl rfl
  have hfourth (as : List Char) : Replacing.replaceAll "&lt;".toList "<".toList
      (encode '&' afterSingle as) = encode '&' afterLess
        (Replacing.replaceAll "&lt;".toList "<".toList as) := hsingle.replaceAll_encode rfl rfl
  have hfifth (as : List Char) : Replacing.replaceAll "&gt;".toList ">".toList
      (encode '&' afterLess as) = encode '&' (without afterLess '>')
        (Replacing.replaceAll "&gt;".toList ">".toList as) := hless.replaceAll_encode rfl rfl
  rw [hfirst, hsecond, hthird, hfourth, hfifth, encode_of_plain fun c _ => without_afterLess c]

/-! ## Replacing nothing -/

theorem length_replaceAll_le (input search format : String)
    (h : format.toList.length < search.toList.length) :
    (replaceAll input search format).toList.length ≤ input.toList.length := by
  rw [toList_replaceAll]
  exact Replacing.length_replaceAll_le (ne_nil_of_length_pos (Nat.zero_lt_of_lt h)) h.le

theorem replaceAll_of_not {search format input : String} (h : search.toList ≠ [])
    (hnot : ¬ search.toList <:+: input.toList) : replaceAll input search format = input := by
  refine String.toList_inj.mp ?_
  rw [toList_replaceAll, replaceAll_eq_self h hnot]

theorem replaced_eq_self_iff {search format s : String} {rest : String → String}
    (h : format.toList.length < search.toList.length)
    (hrest : ∀ input, (rest input).toList.length ≤ input.toList.length) :
    rest (replaceAll s search format) = s ↔ ¬ search.toList <:+: s.toList ∧ rest s = s := by
  have hne : search.toList ≠ [] := ne_nil_of_length_pos (Nat.zero_lt_of_lt h)
  constructor
  · intro hback
    have hnot : ¬ search.toList <:+: s.toList := by
      intro hwithin
      have hle := hrest (replaceAll s search format)
      rw [hback, toList_replaceAll] at hle
      exact Nat.not_lt_of_le hle (length_replaceAll_lt h hwithin)
    rw [replaceAll_of_not hne hnot] at hback
    exact ⟨hnot, hback⟩
  · rintro ⟨hnot, hback⟩
    rw [replaceAll_of_not hne hnot, hback]

theorem holdsEntity_iff {s : String} :
    HoldsEntity s ↔ "&quot;".toList <:+: s.toList ∨ "&#039;".toList <:+: s.toList ∨
      "&lt;".toList <:+: s.toList ∨ "&gt;".toList <:+: s.toList := by
  simp only [HoldsEntity, entities, mem_cons, not_mem_nil, or_false, or_and_right,
    exists_or, exists_eq_left]

theorem unquoted_eq_self_iff {s : String} : unquoted s = s ↔ ¬ HoldsEntity s := by
  have hgreater (input : String) : (replaceAll input "&gt;" ">").toList.length ≤
      input.toList.length := length_replaceAll_le input "&gt;" ">" (by decide)
  have hless (input : String) : (replaceAll (replaceAll input "&lt;" "<") "&gt;" ">").toList.length
      ≤ input.toList.length :=
    (hgreater _).trans (length_replaceAll_le input "&lt;" "<" (by decide))
  have hsingle (input : String) : (replaceAll (replaceAll (replaceAll input "&#039;" "\x27")
      "&lt;" "<") "&gt;" ">").toList.length ≤ input.toList.length :=
    (hless _).trans (length_replaceAll_le input "&#039;" "\x27" (by decide))
  have hlast := @replaced_eq_self_iff "&gt;" ">" s id (by decide) fun _ => le_rfl
  rw [holdsEntity_iff, not_or, not_or, not_or, ← (hlast.trans (and_iff_left rfl))]
  refine (replaced_eq_self_iff (by decide) hsingle).trans (and_congr_right fun _ => ?_)
  refine (replaced_eq_self_iff (by decide) hless).trans (and_congr_right fun _ => ?_)
  exact replaced_eq_self_iff (by decide) hgreater

/-- **Escaping can be undone** if and only if the text holds no entity but the ampersand's. -/
theorem invertible_iff (s : String) : Invertible s ↔ ¬ HoldsEntity s := by
  rw [Invertible, unescapeHTML_escapeHTML, unquoted_eq_self_iff]
  exact and_iff_left (not_mem_escapeHTML s)

/-- A text with an entity of its own. -/
theorem not_invertible : ¬ Invertible "&lt;" := by
  rw [Invertible]
  decide

end HtmlEscaping

end Dss
