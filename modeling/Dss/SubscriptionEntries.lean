import Dss.SubscriptionDocument

/-!
# The entries of a subscription file

The parser gets what is below the root of a document if nothing but subscriptions and states is
directly below the root, the content of each is harmless, and each state is a new one. Nothing of
this changes when the elements that are not known are left out.
-/

namespace Dss

open Xml SubscriptionParser

def EntryFits (name : String) (attributes : Attributes) : Prop :=
  (name = "subscription" →
    (attributes.value? "event-name").isSome ∧ (attributes.value? "handler-name").isSome) ∧
  (name = "state" → (attributes.value? "name").isSome)

/-- Of the known elements only subscriptions and states are below the root, and what is in
them is documented. -/
def DocumentedEntries : Content → Prop
  | .nil => True
  | .text _ rest => DocumentedEntries rest
  | .element name attributes content rest =>
    (isKnown name → isEntry name ∧ EntryFits name attributes ∧ Documented content .entry) ∧
      DocumentedEntries rest

def entryNode (name : String) (attributes : Attributes) (number : ℕ) : PropertyNode :=
  if name = "subscription" then
    subscriptionNode (number + 1) ((attributes.value? "event-name").getD "")
      ((attributes.value? "handler-name").getD "")
  else stateNode ((attributes.value? "name").getD "")

def entryRoot (name : String) : ParserRoot :=
  if name = "subscription" then .subscriptions else .states

def nextNumber (name : String) (number : ℕ) : ℕ :=
  if name = "subscription" then number + 1 else number

def isDuplicate (name : String) (attributes : Attributes) (root : ParserRoot → PropertyNode) :
    Bool :=
  name = "state" ∧ (attributes.value? "name").getD "" ∈ (root .states).childNames

def addEntry (root : ParserRoot → PropertyNode) (which : ParserRoot) (node : PropertyNode) :
    ParserRoot → PropertyNode :=
  Function.update root which ((root which).addChild node)

def expectedEntries : Content → (number : ℕ) → (ParserRoot → PropertyNode) →
    ParserRoot → PropertyNode
  | .nil, _, root => root
  | .text _ rest, number, root => expectedEntries rest number root
  | .element name attributes content rest, number, root =>
    if isEntry name then
      expectedEntries rest (nextNumber name number) <|
        if isDuplicate name attributes root then root
        else addEntry root (entryRoot name)
          (expected content "" (entryNode name attributes number))
    else expectedEntries rest number root

def IsNew (name : String) (attributes : Attributes) (root : ParserRoot → PropertyNode) : Prop :=
  isDuplicate name attributes root = false ∧
    (name = "state" → (root .states).position ((attributes.value? "name").getD "") = none)

/-- There are only subscriptions and states, harmless ones, and the states are new. -/
def HarmlessEntries : Content → (number : ℕ) → (ParserRoot → PropertyNode) → Prop
  | .nil, _, _ => True
  | .text _ rest, number, root => HarmlessEntries rest number root
  | .element name attributes content rest, number, root =>
    isEntry name ∧ Harmless content "" ∧ IsNew name attributes root ∧
      HarmlessEntries rest (nextNumber name number) (addEntry root (entryRoot name)
        (expected content "" (entryNode name attributes number)))

/-! ## Without the other elements -/

section keep

variable {content : Content} {nesting : Nesting} {matchType name : String} {node : PropertyNode}
  {attributes : Attributes} {number : ℕ} {root : ParserRoot → PropertyNode}

theorem hasElement_keep : (content.keep isKnown).hasElement isKnown =
    content.hasElement isKnown := by
  induction content with
  | nil => rfl
  | text t rest ih => exact ih
  | element name attributes content rest _ ih =>
    rw [Content.keep_element]
    split_ifs with hname
    · rw [Content.hasElement_element, Content.hasElement_element, ih]
    · rw [Content.hasElement_element, Bool.eq_false_iff.mpr hname, Bool.false_or, ih]

theorem directText_keep : (content.keep isKnown).directText = content.directText := by
  induction content with
  | nil => rfl
  | text t rest ih =>
    rw [Content.keep_text, Content.directText_text, Content.directText_text, ih]
  | element name attributes content rest _ ih =>
    rw [Content.keep_element]
    split_ifs
    · rw [Content.directText_element, Content.directText_element, ih]
    · rw [Content.directText_element, ih]

theorem foreign_keep : foreign (content.keep isKnown) = false := by
  induction content with
  | nil => rfl
  | text t rest ih => exact ih
  | element name attributes content rest ihcontent ih =>
    rw [Content.keep_element]
    split_ifs with hname
    · rw [foreign, hname, ihcontent, ih]
      rfl
    · exact ih

theorem expected_keep :
    expected (content.keep isKnown) matchType node = expected content matchType node := by
  induction content generalizing matchType node with
  | nil => rfl
  | text t rest ih => exact ih
  | element name attributes content rest ihcontent ih =>
    rw [Content.keep_element]
    split_ifs with hname
    · have hvalue : expectedValue attributes (content.keep isKnown) =
          expectedValue attributes content := by
        rw [expectedValue, expectedValue, hasElement_keep, directText_keep]
      rw [expected, expected, ih]
      simp only [ihcontent, hvalue]
    · have hplain : expected (.element name attributes content .nil) matchType node = node :=
        expected_of_plain (by
          rw [Content.hasElement_element, Bool.eq_false_iff.mpr hname]
          rfl)
      rw [ih, expected_cons, hplain]

theorem Documented.keep (h : Documented content nesting) :
    Documented (content.keep isKnown) nesting := by
  induction content generalizing nesting with
  | nil => trivial
  | text t rest ih => exact ih h
  | element name attributes content rest ihcontent ih =>
    obtain ⟨hknown, hrest⟩ := h
    rw [Content.keep_element]
    split_ifs with hname
    · obtain ⟨hallows, hfit, hcontent⟩ := hknown hname
      refine ⟨fun _ => ⟨hallows, ?_, ihcontent hcontent⟩, ih hrest⟩
      rw [AttributesFit, hasElement_keep, directText_keep]
      exact hfit
    · exact ih hrest

theorem Harmless.keep (h : Harmless content matchType) :
    Harmless (content.keep isKnown) matchType := by
  induction content generalizing matchType with
  | nil => trivial
  | text t rest ih => exact ih h
  | element name attributes content rest ihcontent ih =>
    rw [Content.keep_element]
    rw [Harmless] at h
    split_ifs at h ⊢ with hname hforeign
    · obtain ⟨helement, hinner, hplain⟩ := h
      rw [Harmless, if_pos hname, foreign_keep]
      refine ⟨⟨fun _ hnot => ?_, helement.2⟩, ihcontent hinner,
        harmless_of_plain (hasElement_keep.trans hplain)⟩
      rw [foreign_keep] at hnot
      cases hnot
    · obtain ⟨helement, hinner, hbehind⟩ := h
      rw [Harmless, if_pos hname, foreign_keep]
      refine ⟨⟨fun _ hnot => ?_, helement.2⟩, ihcontent hinner, ih hbehind⟩
      rw [foreign_keep] at hnot
      cases hnot
    · exact harmless_of_plain (hasElement_keep.trans h)

theorem isKnown_of_isEntry (h : isEntry name = true) : isKnown name = true := by
  simp [isKnown, h]

theorem DocumentedEntries.keep (h : DocumentedEntries content) :
    DocumentedEntries (content.keep isKnown) := by
  induction content with
  | nil => trivial
  | text t rest ih => exact ih h
  | element name attributes content rest _ ih =>
    obtain ⟨hknown, hrest⟩ := h
    rw [Content.keep_element]
    split_ifs with hname
    · obtain ⟨hentry, hfit, hcontent⟩ := hknown hname
      exact ⟨fun _ => ⟨hentry, hfit, hcontent.keep⟩, ih hrest⟩
    · exact ih hrest

theorem expectedEntries_keep : expectedEntries (content.keep isKnown) number root =
    expectedEntries content number root := by
  induction content generalizing number root with
  | nil => rfl
  | text t rest ih => exact ih
  | element name attributes content rest _ ih =>
    rw [Content.keep_element]
    split_ifs with hname
    · rw [expectedEntries, expectedEntries, ih, ih, expected_keep]
    · have hentry : ¬ isEntry name = true := fun h => hname (isKnown_of_isEntry h)
      rw [expectedEntries, if_neg hentry, ih]

theorem HarmlessEntries.keep (h : HarmlessEntries content number root) :
    HarmlessEntries (content.keep isKnown) number root := by
  induction content generalizing number root with
  | nil => trivial
  | text t rest ih => exact ih h
  | element name attributes content rest _ ih =>
    obtain ⟨hentry, hharmless, hnew, hrest⟩ := h
    rw [Content.keep_element, if_pos (isKnown_of_isEntry hentry), HarmlessEntries, expected_keep]
    exact ⟨hentry, hharmless.keep, hnew, ih hrest⟩

end keep

end Dss
