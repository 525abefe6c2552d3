import Dss.Xml

/-!
# Texts in documents

What a parser reports of a text. The ends of lines are normalised first, and in an attribute all
white space becomes blanks; then the references are resolved, which are the five predefined
entities. With any other one, or with the start of a tag, the text is not well-formed.
-/

namespace Xml

open List

/-! ## Characters -/

/-- The characters a document may hold. -/
def isChar (c : Char) : Bool :=
  c = '\t' || c = '\n' || c = '\r' ||
    (0x20 ≤ c.toNat && (c.toNat ≤ 0xD7FF || (0xE000 ≤ c.toNat && c.toNat ≤ 0xFFFD) ||
      0x10000 ≤ c.toNat))

/-- The white space that does not survive in an attribute. -/
def isBreak (c : Char) : Bool := c = '\t' || c = '\n' || c = '\r'

def normalizeLines : List Char → List Char
  | '\r' :: '\n' :: cs => '\n' :: normalizeLines cs
  | '\r' :: cs => '\n' :: normalizeLines cs
  | c :: cs => c :: normalizeLines cs
  | [] => []

example : normalizeLines [] = [] := by rw [normalizeLines]

def normalizeBlanks (cs : List Char) : List Char := cs.map fun c => if isBreak c then ' ' else c

def resolve : List Char → Option (List Char)
  | [] => some []
  | '<' :: _ => none
  | '&' :: 'l' :: 't' :: ';' :: cs => (resolve cs).map ('<' :: ·)
  | '&' :: 'g' :: 't' :: ';' :: cs => (resolve cs).map ('>' :: ·)
  | '&' :: 'a' :: 'm' :: 'p' :: ';' :: cs => (resolve cs).map ('&' :: ·)
  | '&' :: 'q' :: 'u' :: 'o' :: 't' :: ';' :: cs => (resolve cs).map ('"' :: ·)
  | '&' :: 'a' :: 'p' :: 'o' :: 's' :: ';' :: cs => (resolve cs).map ('\'' :: ·)
  | '&' :: _ => none
  | c :: cs => (resolve cs).map (c :: ·)

example : resolve ['<'] = none := by rw [resolve]

@[simp] theorem resolve_nil : resolve [] = some [] := rfl

theorem resolve_cons_of_ne {c : Char} (hlt : c ≠ '<') (hamp : c ≠ '&') (cs : List Char) :
    resolve (c :: cs) = (resolve cs).map (c :: ·) := by
  rw [resolve]
  all_goals simp_all

def readText (text : String) : Option String :=
  (resolve (normalizeLines text.toList)).map String.ofList

def readAttribute (text : String) : Option String :=
  (resolve (normalizeBlanks (normalizeLines text.toList))).map String.ofList

def readAttributes : Attributes → Option Attributes
  | [] => some []
  | (key, text) :: attributes =>
    match readAttribute text, readAttributes attributes with
    | some value, some values => some ((key, value) :: values)
    | _, _ => none

namespace Content

def read : Content → Option Content
  | nil => some nil
  | text t rest =>
    match readText t, rest.read with
    | some value, some rest => some (text value rest)
    | _, _ => none
  | element name attributes content rest =>
    match readAttributes attributes, content.read, rest.read with
    | some values, some content, some rest => some (element name values content rest)
    | _, _, _ => none

theorem read_nil : read nil = some nil := rfl

theorem read_text (t : String) (rest : Content) : (text t rest).read =
    match readText t, rest.read with
    | some value, some rest => some (text value rest)
    | _, _ => none := rfl

theorem read_element (name : String) (attributes : Attributes) (content rest : Content) :
    (element name attributes content rest).read =
      match readAttributes attributes, content.read, rest.read with
      | some values, some content, some rest => some (element name values content rest)
      | _, _, _ => none := rfl

def joinTexts : Content → Content
  | nil => text "" nil
  | text t rest =>
    match rest.joinTexts with
    | text t' rest' => text (t ++ t') rest'
    | other => text t other
  | element name attributes content rest =>
    text "" (element name attributes content.joinTexts rest.joinTexts)

theorem joinTexts_eq_text (content : Content) : ∃ t rest, content.joinTexts = text t rest := by
  induction content with
  | nil => exact ⟨_, _, rfl⟩
  | text t rest ih =>
    obtain ⟨t', rest', h⟩ := ih
    exact ⟨t ++ t', rest', by rw [joinTexts, h]⟩
  | element name attributes content rest => exact ⟨_, _, rfl⟩

end Content

def Document.read (document : Document) : Option Document :=
  match readAttributes document.attributes, document.content.read with
  | some attributes, some content => some ⟨document.name, attributes, content⟩
  | _, _ => none

def Document.IsReport (document report : Document) : Prop :=
  ∃ whole, document.read = some whole ∧ report.name = whole.name ∧
    report.attributes = whole.attributes ∧ report.content.joinTexts = whole.content.joinTexts

theorem Handler.feed_joinTexts {S : Type} {h : Handler S}
    (happend : ∀ t t' s, h.characterData t' (h.characterData t s) = h.characterData (t ++ t') s)
    (hempty : ∀ s, h.characterData "" s = s) (content : Content) (s : S) :
    h.feed content.joinTexts s = h.feed content s := by
  induction content generalizing s with
  | nil => exact hempty s
  | text t rest ih =>
    obtain ⟨t', rest', hjoin⟩ := rest.joinTexts_eq_text
    have hrest := ih (h.characterData t s)
    rw [hjoin, feed, happend] at hrest
    rw [Content.joinTexts, hjoin, feed, hrest]
    rfl
  | element name attributes content rest ihcontent ihrest =>
    rw [Content.joinTexts, feed, hempty, feed, ihcontent, ihrest, feed]

/-! ## Invariants -/

def Content.All (p : Attributes → Prop) (q : String → Prop) : Content → Prop
  | nil => True
  | text t rest => q t ∧ rest.All p q
  | element _ attributes content rest => p attributes ∧ content.All p q ∧ rest.All p q

theorem Handler.feed_invariant {S : Type} {h : Handler S} {P : S → Prop} {p : Attributes → Prop}
    {q : String → Prop}
    (hstart : ∀ name attributes s, p attributes → P s → P (h.elementStart name attributes s))
    (hend : ∀ name s, P s → P (h.elementEnd name s))
    (htext : ∀ t s, q t → P s → P (h.characterData t s)) {content : Content}
    (hcontent : content.All p q) {s : S} (hs : P s) : P (h.feed content s) := by
  induction content generalizing s with
  | nil => exact hs
  | text t rest ih => exact ih hcontent.2 (htext t s hcontent.1 hs)
  | element name attributes content rest ihcontent ihrest =>
    obtain ⟨hattributes, hinner, hrest⟩ := hcontent
    exact ihrest hrest (hend _ _ (ihcontent hinner (hstart _ _ _ hattributes hs)))

/-! ## Texts that survive -/

theorem return_not_mem_normalizeLines (cs : List Char) : '\r' ∉ normalizeLines cs := by
  fun_induction normalizeLines cs with
  | case1 cs ih => simp [ih]
  | case2 cs _ ih => simp [ih]
  | case3 c cs hpair hreturn ih =>
    rw [mem_cons, not_or]
    refine ⟨?_, ih⟩
    rintro rfl
    exact hreturn rfl
  | case4 => simp

theorem normalizeLines_cons_of_ne {c : Char} (h : c ≠ '\r') (cs : List Char) :
    normalizeLines (c :: cs) = c :: normalizeLines cs := by
  rw [normalizeLines]
  · rintro cs' rfl
    exact absurd rfl h
  · rintro rfl
    exact absurd rfl h

theorem normalizeLines_return {cs : List Char} (h : cs.head? ≠ some '\n') :
    normalizeLines ('\r' :: cs) = '\n' :: normalizeLines cs := by
  rw [normalizeLines]
  rintro cs' rfl
  exact h rfl

theorem normalizeLines_append {l : List Char} (h : '\r' ∉ l) (cs : List Char) :
    normalizeLines (l ++ cs) = l ++ normalizeLines cs := by
  induction l with
  | nil => rfl
  | cons c l ih =>
    rw [mem_cons, not_or] at h
    rw [cons_append, normalizeLines_cons_of_ne (Ne.symm h.1), ih h.2, cons_append]

theorem normalizeLines_append_of_ne {m : List Char} (h : m.head? ≠ some '\n') (cs : List Char) :
    normalizeLines (cs ++ m) = normalizeLines cs ++ normalizeLines m := by
  fun_induction normalizeLines cs with
  | case1 cs ih => rw [cons_append, cons_append, normalizeLines, ih, cons_append]
  | case2 cs hpair ih =>
    rw [cons_append, normalizeLines_return, ih, cons_append]
    cases cs with
    | nil => exact h
    | cons d cs =>
      intro heq
      exact hpair cs (by rw [Option.some.inj heq])
  | case3 c cs hpair hne ih =>
    have hc : c ≠ '\r' := by
      rintro rfl
      exact hne rfl
    rw [cons_append, normalizeLines_cons_of_ne hc, ih, cons_append]
  | case4 => rfl

theorem mem_normalizeLines {c : Char} {cs : List Char} (h : c ∈ normalizeLines cs) :
    c ∈ cs ∨ c = '\n' := by
  fun_induction normalizeLines cs with
  | case1 cs ih =>
    rcases mem_cons.mp h with h | h
    · exact Or.inr h
    · exact (ih h).imp_left fun hmem => mem_cons_of_mem _ (mem_cons_of_mem _ hmem)
  | case2 cs _ ih =>
    rcases mem_cons.mp h with h | h
    · exact Or.inr h
    · exact (ih h).imp_left (mem_cons_of_mem _)
  | case3 d cs _ _ ih =>
    rcases mem_cons.mp h with rfl | h
    · exact Or.inl mem_cons_self
    · exact (ih h).imp_left (mem_cons_of_mem _)
  | case4 => cases h

theorem normalizeLines_eq_self {cs : List Char} (h : '\r' ∉ cs) : normalizeLines cs = cs := by
  induction cs with
  | nil => rfl
  | cons c cs ih =>
    rw [mem_cons, not_or] at h
    rw [normalizeLines_cons_of_ne (Ne.symm h.1), ih h.2]

theorem isBreak_of_mem_normalizeBlanks {cs : List Char} {c : Char} (h : c ∈ normalizeBlanks cs) :
    isBreak c = false := by
  obtain ⟨d, -, rfl⟩ := mem_map.mp h
  split_ifs with hbreak
  · decide
  · exact eq_false_of_ne_true hbreak

theorem normalizeBlanks_eq_self {cs : List Char} (h : ∀ c ∈ cs, isBreak c = false) :
    normalizeBlanks cs = cs := by
  rw [normalizeBlanks, map_congr_left (g := id), map_id]
  intro c hc
  rw [h c hc]
  rfl

end Xml
