import Dss.PropertyParser

/-!
# What is reported of a written tree

A text without control codes is reported as it is, but for its white space; one with a control code
makes the document ill-formed, but for the code 127.
-/

namespace Dss

open List Option

namespace PropertyTree

open Xml

/-! ## Characters -/

variable {c : Char} {cs : List Char}

theorem escape_cons (h : isControl c = false) : escape (c :: cs) = escapeChar c ++ escape cs := by
  cases cs with
  | nil => rw [escape, escape, append_nil]
  | cons d cs => rw [escape, h, if_neg Bool.false_ne_true]

theorem escape_control (h : isControl c = true) :
    ∃ rest, escape (c :: cs) = '&' :: '#' :: rest := by
  have hcode : ∃ rest, escapeChar c = '&' :: '#' :: rest := by
    rw [escapeChar, h]
    split_ifs with hlt hgt hamp hquot hapos hfalse
    · subst hlt; exact absurd h (by decide)
    · subst hgt; exact absurd h (by decide)
    · subst hamp; exact absurd h (by decide)
    · subst hquot; exact absurd h (by decide)
    · subst hapos; exact absurd h (by decide)
    · exact ⟨_, rfl⟩
    · exact absurd rfl hfalse
  obtain ⟨rest, hrest⟩ := hcode
  cases cs with
  | nil => exact ⟨rest, by rw [escape, hrest]⟩
  | cons d cs => exact ⟨rest ++ escape cs, by rw [escape, h, hrest]; rfl⟩

theorem escapeChar_cases (h : isControl c = false) :
    escapeChar c = [c] ∧ c ≠ '<' ∧ c ≠ '&' ∨
    ∃ text ∈ ["&lt;", "&gt;", "&amp;", "&quot;", "&apos;"], escapeChar c = text.toList ∧
      isBreak c = false := by
  rw [escapeChar, h]
  split_ifs with hlt hgt hamp hquot hapos hfalse
  · subst hlt; exact Or.inr ⟨_, by simp, rfl, by decide⟩
  · subst hgt; exact Or.inr ⟨"&gt;", by simp, rfl, by decide⟩
  · subst hamp; exact Or.inr ⟨"&amp;", by simp, rfl, by decide⟩
  · subst hquot; exact Or.inr ⟨"&quot;", by simp, rfl, by decide⟩
  · subst hapos; exact Or.inr ⟨"&apos;", by simp, rfl, by decide⟩
  · cases hfalse
  · exact Or.inl ⟨rfl, hlt, hamp⟩

theorem resolve_escapeChar (h : isControl c = false) :
    resolve (escapeChar c ++ cs) = (resolve cs).map (c :: ·) := by
  rw [escapeChar, h]
  split_ifs with hlt hgt hamp hquot hapos hfalse
  · subst hlt; rfl
  · subst hgt; rfl
  · subst hamp; rfl
  · subst hquot; rfl
  · subst hapos; rfl
  · cases hfalse
  · exact resolve_cons_of_ne hlt hamp cs

theorem resolve_escape_append (h : ∀ c ∈ cs, isControl c = false) (more : List Char) :
    resolve (escape cs ++ more) = (resolve more).map (cs ++ ·) := by
  induction cs with
  | nil => simp [escape]
  | cons c cs ih =>
    rw [forall_mem_cons] at h
    rw [escape_cons h.1, append_assoc, resolve_escapeChar h.1, ih h.2, Option.map_map]
    rfl

theorem resolve_escape (h : ∀ c ∈ cs, isControl c = false) : resolve (escape cs) = some cs := by
  have happend := resolve_escape_append h []
  rwa [append_nil, resolve_nil, map_some, append_nil] at happend

theorem escape_append (h : ∀ c ∈ cs, isControl c = false) (more : List Char) :
    escape (cs ++ more) = escape cs ++ escape more := by
  induction cs with
  | nil => rfl
  | cons c cs ih =>
    rw [forall_mem_cons] at h
    rw [cons_append, escape_cons h.1, ih h.2, escape_cons h.1, append_assoc]

theorem exists_control (h : ¬ ∀ c ∈ cs, isControl c = false) :
    ∃ front c rest, cs = front ++ c :: rest ∧ (∀ c ∈ front, isControl c = false) ∧
      isControl c = true := by
  induction cs with
  | nil => exact absurd nofun h
  | cons c cs ih =>
    rcases hc : isControl c with - | -
    · have hrest : ¬ ∀ c ∈ cs, isControl c = false := fun hall =>
        h (forall_mem_cons.mpr ⟨hc, hall⟩)
      obtain ⟨front, d, rest, rfl, hfront, hd⟩ := ih hrest
      exact ⟨c :: front, d, rest, rfl, forall_mem_cons.mpr ⟨hc, hfront⟩, hd⟩
    · exact ⟨[], c, cs, rfl, nofun, hc⟩

/-! ## White space -/

theorem head?_escape (h : ∀ c ∈ cs, isControl c = false) (hhead : cs.head? ≠ some '\n') :
    (escape cs).head? ≠ some '\n' := by
  cases cs with
  | nil => simp [escape]
  | cons c cs =>
    rw [escape_cons (h c mem_cons_self)]
    rcases escapeChar_cases (h c mem_cons_self) with ⟨hself, -⟩ | ⟨text, htext, hentity, -⟩
    · rw [hself]
      simpa using hhead
    · rw [hentity]
      simp only [mem_cons, not_mem_nil, or_false] at htext
      rcases htext with rfl | rfl | rfl | rfl | rfl <;> simp

theorem isControl_normalizeLines (h : ∀ c ∈ cs, isControl c = false) :
    ∀ c ∈ normalizeLines cs, isControl c = false := by
  intro c hc
  rcases mem_normalizeLines hc with hmem | rfl
  · exact h c hmem
  · decide

theorem isControl_normalizeBlanks (h : ∀ c ∈ cs, isControl c = false) :
    ∀ c ∈ normalizeBlanks cs, isControl c = false := by
  intro c hc
  obtain ⟨d, hd, rfl⟩ := mem_map.mp hc
  split_ifs
  · decide
  · exact h d hd

theorem normalizeLines_escape (h : ∀ c ∈ cs, isControl c = false) :
    normalizeLines (escape cs) = escape (normalizeLines cs) := by
  have hfeed : isControl '\n' = false := by decide
  have hreturn : isControl '\r' = false := by decide
  fun_induction normalizeLines cs with
  | case1 cs ih =>
    rw [forall_mem_cons, forall_mem_cons] at h
    rw [escape_cons hreturn, escape_cons hfeed, escape_cons hfeed, ← ih h.2.2]
    rfl
  | case2 cs hpair ih =>
    rw [forall_mem_cons] at h
    have hhead : cs.head? ≠ some '\n' := by
      cases cs with
      | nil => simp
      | cons d cs =>
        intro heq
        exact hpair cs (by rw [some.inj heq])
    rw [escape_cons hreturn, escape_cons hfeed, ← ih h.2]
    exact normalizeLines_return (head?_escape h.2 hhead)
  | case3 c cs hpair hne ih =>
    rw [forall_mem_cons] at h
    have hc : c ≠ '\r' := by
      rintro rfl
      exact hne rfl
    rw [escape_cons h.1, escape_cons h.1, ← ih h.2]
    refine normalizeLines_append ?_ _
    rcases escapeChar_cases h.1 with ⟨hself, -⟩ | ⟨text, htext, hentity, -⟩
    · rw [hself, mem_singleton]
      exact Ne.symm hc
    · rw [hentity]
      simp only [mem_cons, not_mem_nil, or_false] at htext
      rcases htext with rfl | rfl | rfl | rfl | rfl <;> decide
  | case4 => rfl

theorem normalizeBlanks_escape (h : ∀ c ∈ cs, isControl c = false) :
    normalizeBlanks (escape cs) = escape (normalizeBlanks cs) := by
  induction cs with
  | nil => rfl
  | cons c cs ih =>
    rw [forall_mem_cons] at h
    have hc : isControl (if isBreak c then ' ' else c) = false := by
      split_ifs
      · decide
      · exact h.1
    have hchar : normalizeBlanks (escapeChar c) = escapeChar (if isBreak c then ' ' else c) := by
      rcases escapeChar_cases h.1 with ⟨hself, -⟩ | ⟨text, htext, hentity, hbreak⟩
      · rw [hself]
        rcases hbreak : isBreak c with - | -
        · simp [normalizeBlanks, hbreak, hself]
        · simp only [normalizeBlanks, map_cons, map_nil, hbreak, if_true]
          decide
      · rw [hbreak, if_neg Bool.false_ne_true, hentity]
        simp only [mem_cons, not_mem_nil, or_false] at htext
        rcases htext with rfl | rfl | rfl | rfl | rfl <;> decide
    have hcons : normalizeBlanks (c :: cs) =
        (if isBreak c then ' ' else c) :: normalizeBlanks cs := rfl
    have happend : normalizeBlanks (escapeChar c ++ escape cs) =
        normalizeBlanks (escapeChar c) ++ normalizeBlanks (escape cs) := map_append
    rw [escape_cons h.1, happend, hchar, ih h.2, hcons, escape_cons hc]

/-! ## Texts -/

def Legible (text : String) : Prop := ∀ c ∈ text.toList, isControl c = false

instance (text : String) : Decidable (Legible text) := List.decidableBAll _ text.toList

def reportedText (text : String) : String := String.ofList (normalizeLines text.toList)

def reportedAttribute (text : String) : String :=
  String.ofList (normalizeBlanks (normalizeLines text.toList))

variable {text : String}

theorem readText_escape (h : Legible text) :
    readText (xmlStringEscape text) = some (reportedText text) := by
  rw [readText, xmlStringEscape, String.toList_ofList, normalizeLines_escape h,
    resolve_escape (isControl_normalizeLines h)]
  rfl

theorem readAttribute_escape (h : Legible text) :
    readAttribute (xmlStringEscape text) = some (reportedAttribute text) := by
  rw [readAttribute, xmlStringEscape, String.toList_ofList, normalizeLines_escape h,
    normalizeBlanks_escape (isControl_normalizeLines h),
    resolve_escape (isControl_normalizeBlanks (isControl_normalizeLines h))]
  rfl

theorem normalizeLines_escape_of_not (h : ¬ Legible text) :
    ∃ front rest, (∀ c ∈ front, isControl c = false) ∧
      normalizeLines (escape text.toList) = escape front ++ '&' :: '#' :: rest := by
  obtain ⟨front, c, rest, htext, hfront, hc⟩ := exists_control h
  obtain ⟨code, hcode⟩ : ∃ code, escape (c :: rest) = '&' :: '#' :: code := escape_control hc
  refine ⟨normalizeLines front, normalizeLines code, isControl_normalizeLines hfront, ?_⟩
  rw [htext, escape_append hfront, hcode, normalizeLines_append_of_ne (by simp),
    normalizeLines_escape hfront]
  rw [normalizeLines_cons_of_ne (by decide), normalizeLines_cons_of_ne (by decide)]

theorem readText_escape_eq_none (h : ¬ Legible text) : readText (xmlStringEscape text) = none := by
  obtain ⟨front, rest, hfront, heq⟩ := normalizeLines_escape_of_not h
  rw [readText, xmlStringEscape, String.toList_ofList, heq, resolve_escape_append hfront]
  rfl

theorem readAttribute_escape_eq_none (h : ¬ Legible text) :
    readAttribute (xmlStringEscape text) = none := by
  obtain ⟨front, rest, hfront, heq⟩ := normalizeLines_escape_of_not h
  have happend : normalizeBlanks (escape front ++ '&' :: '#' :: rest) =
      escape (normalizeBlanks front) ++ '&' :: '#' :: normalizeBlanks rest := by
    rw [← normalizeBlanks_escape hfront, normalizeBlanks, map_append]
    rfl
  rw [readAttribute, xmlStringEscape, String.toList_ofList, heq, happend,
    resolve_escape_append (isControl_normalizeBlanks hfront)]
  rfl

/-! ## Values and names -/

theorem isControl_of_isAlphanum (h : c.isAlphanum = true) : isControl c = false := by
  have hrange : 0x30 ≤ c.toNat ∧ c.toNat ≤ 0x7a := by
    have h : (decide (65 ≤ c.val ∧ c.val ≤ 90) ||
        (decide (97 ≤ c.val) && decide (c.val ≤ 122)) ||
        (decide (48 ≤ c.val) && decide (c.val ≤ 57))) = true := h
    simp only [Bool.or_eq_true, Bool.and_eq_true, decide_eq_true_iff,
      UInt32.le_iff_toNat_le] at h
    rcases h with (⟨hmin, hmax⟩ | ⟨hmin, hmax⟩) | ⟨hmin, hmax⟩
    · exact ⟨Nat.le_trans (by decide) hmin, Nat.le_trans hmax (by decide)⟩
    · exact ⟨Nat.le_trans (by decide) hmin, Nat.le_trans hmax (by decide)⟩
    · exact ⟨Nat.le_trans (by decide) hmin, Nat.le_trans hmax (by decide)⟩
  have hlow : ¬ c.toNat ≤ 0x1f := by omega
  have hdel : ¬ c.toNat = 0x7f := by omega
  simp [isControl, hlow, hdel]

theorem legible_toString_nat (n : ℕ) : Legible (toString n) := by
  intro c hc
  rw [Nat.toString_eq_ofList_toDigits, String.toList_ofList] at hc
  have hdigit := Nat.isDigit_of_mem_toDigits (by decide) (by decide) hc
  exact isControl_of_isAlphanum (by rw [Char.isAlphanum, hdigit, Bool.or_true])

theorem legible_append {s t : String} : Legible (s ++ t) ↔ Legible s ∧ Legible t := by
  rw [Legible, String.toList_append, forall_mem_append]
  rfl

theorem legible_toString_int (z : ℤ) : Legible (toString z) := by
  rcases z with n | n
  · exact legible_toString_nat n
  · exact legible_append.2 ⟨by decide, legible_toString_nat (n + 1)⟩

structure NodeData.IsLegible (d : NodeData) : Prop where
  name : Legible d.name
  value : ∀ text, d.value = .string text → Legible text

variable {io : DoubleText} {d : NodeData}

theorem legible_getDisplayName {several : Bool} :
    Legible (d.getDisplayName several) ↔ Legible d.name := by
  rw [NodeData.getDisplayName]
  split_ifs
  · rw [legible_append, legible_append, legible_append]
    have hopen : Legible "[" := by decide
    have hclose : Legible "]" := by decide
    rw [and_iff_left hclose, and_iff_left (legible_toString_nat d.index), and_iff_left hopen]
  · rfl

theorem legible_getAsString :
    Legible (d.getAsString io) ↔ ∀ text, d.value = .string text → Legible text := by
  rw [NodeData.getAsString, PropertyNode.getAsString]
  rcases hvalue : d.value with - | z | n | b | text | x
  · simp [Legible]
  · exact iff_of_true (legible_toString_int z) nofun
  · exact iff_of_true (legible_toString_nat n) nofun
  · cases b <;> simp [Legible] <;> decide
  · simp
  · have hplain : Legible (io.doubleToString x) := by
      intro c hc
      rcases io.plain x c hc with halpha | rfl | rfl | rfl
      · exact isControl_of_isAlphanum halpha
      · decide
      · decide
      · decide
    exact iff_of_true hplain nofun

/-! ## Documents -/

/-- All of these nodes, and those below them. -/
def Nodes.All (p : NodeData → Prop) : Nodes → Prop
  | nil => True
  | cons d children rest => p d ∧ children.All p ∧ rest.All p

theorem readText_doIndent (n : ℕ) : readText (doIndent n) = some (doIndent n) := by
  have hspaces : ∀ n, ∀ c ∈ (doIndent n).toList, c = ' ' := by
    intro n
    induction n with
    | zero => intro c hc; simp [doIndent] at hc
    | succ n ih =>
      intro c hc
      rw [doIndent, String.toList_append, mem_append] at hc
      rcases hc with hc | hc
      · simpa using hc
      · exact ih c hc
  have hread : ∀ cs : List Char, (∀ c ∈ cs, c = ' ') → resolve cs = some cs := by
    intro cs
    induction cs with
    | nil => intro _; rfl
    | cons c cs ih =>
      intro h
      rw [forall_mem_cons] at h
      rw [h.1, resolve_cons_of_ne (by decide) (by decide), ih h.2, map_some]
  have hlines : '\r' ∉ (doIndent n).toList := fun hmem => absurd (hspaces n _ hmem) (by decide)
  rw [readText, normalizeLines_eq_self hlines, hread _ (hspaces n), map_some,
    String.ofList_toList]

theorem readText_newline : readText "\n" = some "\n" := by decide

theorem readAttribute_type (t : ValueType) :
    readAttribute (getValueTypeAsString t) = some (getValueTypeAsString t) := by
  cases t <;> decide

theorem readAttributes_flags (flags : Flags) :
    readAttributes flags.attributes = some flags.attributes := by
  rcases flags with ⟨readable, writeable, archive⟩
  cases readable <;> cases writeable <;> cases archive <;> decide

theorem readAttributes_attributes (name : String) :
    readAttributes (d.attributes name) =
      (readAttribute name).map fun value => d.attributes value := by
  rw [NodeData.attributes, readAttributes, readAttributes, readAttribute_type,
    readAttributes_flags]
  cases readAttribute name <;> rfl

section Content

variable {written reported : Content → Content} {indent : ℕ} {children : Nodes}

theorem read_valueContent (hd : d.IsLegible) (rest : Content) :
    (d.valueContent io xmlStringEscape indent rest).read =
      rest.read.map (d.valueContent io reportedText indent) := by
  have hvalue : readText (xmlStringEscape (d.getAsString io)) =
      some (reportedText (d.getAsString io)) :=
    readText_escape (legible_getAsString.2 hd.value)
  rw [NodeData.valueContent]
  cases htype : valueType d.value with
  | none =>
    have hid : d.valueContent io reportedText indent = id := by
      funext more
      rw [NodeData.valueContent, htype]
      rfl
    rw [hid, Option.map_id]
    rfl
  | _ =>
    rw [Content.read_text, readText_doIndent, Content.read_element, readAttributes,
      Content.read_text, hvalue, Content.read_nil, Content.read_text, readText_newline]
    cases hrest : rest.read with
    | none => rfl
    | some more =>
      rw [map_some, NodeData.valueContent, htype]

theorem read_valueContent_eq_none {text : String} (hvalue : d.value = .string text)
    (hlegible : ¬ Legible text) (rest : Content) :
    (d.valueContent io xmlStringEscape indent rest).read = none := by
  have hnone : readText (xmlStringEscape (d.getAsString io)) = none := by
    refine readText_escape_eq_none fun h => hlegible ?_
    exact legible_getAsString.1 h text hvalue
  rw [NodeData.valueContent, hvalue]
  show (Content.text _ _).read = none
  rw [Content.read_text, readText_doIndent, Content.read_element, readAttributes,
    Content.read_text, hnone]

theorem read_nodeContent (hd : d.IsLegible)
    (hwritten : ∀ more, (written more).read = more.read.map reported) :
    (d.content io xmlStringEscape indent children written).read =
      some (d.content io reportedText indent children reported) := by
  rw [NodeData.content, NodeData.content]
  split_ifs
  · rfl
  · rw [Content.read_text, read_valueContent hd, hwritten, Content.read_text,
      readText_doIndent]
    rfl

theorem read_nodeContent_eq_none
    (h : (∃ text, d.value = .string text ∧ ¬ Legible text) ∨
      (children.length ≠ 0 ∧ d.IsLegible ∧ ∀ more, (written more).read = none)) :
    (d.content io xmlStringEscape indent children written).read = none := by
  rw [NodeData.content, if_neg]
  · rw [Content.read_text, readText_newline]
    rcases h with ⟨text, hvalue, htext⟩ | ⟨-, hd, hnone⟩
    · rw [read_valueContent_eq_none hvalue htext]
    · rw [read_valueContent hd, hnone]
      rfl
  · rcases h with ⟨text, hvalue, -⟩ | ⟨hchildren, -⟩
    · simp [NodeData.isEmptyElement, hvalue, valueType]
    · simp [NodeData.isEmptyElement, hchildren]

end Content

variable {f children : Nodes}

/-- **The report of nodes.** They are reported as they are written, but for their texts. -/
theorem read_content (h : f.All NodeData.IsLegible) (siblings : Nodes) (indent : ℕ)
    (more : Content) :
    (Nodes.content io xmlStringEscape xmlStringEscape siblings indent f more).read =
      more.read.map (Nodes.content io reportedAttribute reportedText siblings indent f) := by
  induction f generalizing siblings indent more with
  | nil =>
    have hid : Nodes.content io reportedAttribute reportedText siblings indent .nil = id := by
      rfl
    rw [hid, Option.map_id]
    rfl
  | cons d children rest ihchildren ihrest =>
    obtain ⟨hd, hchildren, hrest⟩ := h
    have hname : Legible (d.getDisplayName (1 < siblings.count d.name)) :=
      legible_getDisplayName.2 hd.name
    rw [Nodes.content, Content.read_text, readText_doIndent, Content.read_element,
      readAttributes_attributes, readAttribute_escape hname,
      read_nodeContent hd (ihchildren hchildren _ _), Content.read_text,
      ihrest hrest]
    cases more.read <;> rfl

theorem read_content_eq_none (h : ¬ f.All NodeData.IsLegible) (siblings : Nodes) (indent : ℕ)
    (more : Content) :
    (Nodes.content io xmlStringEscape xmlStringEscape siblings indent f more).read = none := by
  induction f generalizing siblings indent more with
  | nil => exact absurd trivial h
  | cons d children rest ihchildren ihrest =>
    rw [Nodes.content, Content.read_text, readText_doIndent, Content.read_element,
      readAttributes_attributes]
    by_cases hname : Legible d.name
    · rw [readAttribute_escape (legible_getDisplayName.2 hname)]
      by_cases hvalue : ∃ text, d.value = .string text ∧ ¬ Legible text
      · rw [read_nodeContent_eq_none (Or.inl hvalue)]
        rfl
      · have hd : d.IsLegible := ⟨hname, fun text htext => by
          by_contra hnot
          exact hvalue ⟨text, htext, hnot⟩⟩
        by_cases hchildren : children.All NodeData.IsLegible
        · have hrest : ¬ rest.All NodeData.IsLegible := fun hall => h ⟨hd, hchildren, hall⟩
          rw [read_nodeContent hd (read_content hchildren _ _), Content.read_text, ihrest hrest]
          rfl
        · have hlength : children.length ≠ 0 := by
            intro hzero
            cases children with
            | nil => exact hchildren trivial
            | cons d children rest => cases hzero
          rw [read_nodeContent_eq_none (Or.inr ⟨hlength, hd, ihchildren hchildren _ _⟩)]
          rfl
    · rw [readAttribute_escape_eq_none fun hlegible => hname (legible_getDisplayName.1 hlegible)]
      rfl

variable {t : Tree} {several : Bool}

def Tree.All (p : NodeData → Prop) (t : Tree) : Prop := p t.data ∧ t.children.All p

theorem document_content (io : DoubleText) (t : Tree) (several : Bool) : ∃ siblings, ∀ attr text,
    (t.document io attr text several).content =
      .text "\n" (Nodes.content io attr text siblings 1 (.cons t.data t.children .nil) .nil) := by
  cases several with
  | false => exact ⟨.nil, fun attr text => rfl⟩
  | true =>
    refine ⟨.cons t.data .nil (.cons t.data .nil .nil), fun attr text => ?_⟩
    have hcount : 1 < (Nodes.cons t.data .nil (.cons t.data .nil .nil)).count t.data.name := by
      simp [Nodes.count]
    rw [Nodes.content, decide_eq_true hcount]
    rfl

theorem read_document (attr text : String → String) :
    (t.document io attr text several).read =
      (t.document io attr text several).content.read.map fun content =>
        ⟨"properties", [("version", "1")], content⟩ := by
  rw [Document.read]
  cases (t.document io attr text several).content.read <;> rfl

theorem read_saveToXML (io : DoubleText) (several : Bool) (h : t.All NodeData.IsLegible) :
    (saveToXML io t several).read =
      some (t.document io reportedAttribute reportedText several) := by
  obtain ⟨siblings, hcontent⟩ := document_content io t several
  have hnodes : (Nodes.cons t.data t.children .nil).All NodeData.IsLegible := ⟨h.1, h.2, trivial⟩
  rw [saveToXML, read_document, hcontent, Content.read_text, readText_newline, read_content hnodes,
    Content.read_nil, map_some, map_some, ← hcontent]
  rfl

theorem read_saveToXML_eq_none (h : ¬ t.All NodeData.IsLegible) :
    (saveToXML io t several).read = none := by
  obtain ⟨siblings, hcontent⟩ := document_content io t several
  have hnodes : ¬ (Nodes.cons t.data t.children .nil).All NodeData.IsLegible := fun hall =>
    h ⟨hall.1, hall.2.1⟩
  rw [saveToXML, read_document, hcontent, Content.read_text, read_content_eq_none hnodes]
  rfl

end PropertyTree

end Dss
