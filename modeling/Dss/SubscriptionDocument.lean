import Dss.SubscriptionReader

/-!
# Subscription documents

The documents the parser is for: subscriptions and states, with parameters and properties that may
be nested, and filters with filters on properties. What should become of the content of an entry is
said without the state of a parser; a reader gets it exactly if nothing that counts comes behind
an unknown element, and no text around it.
-/

namespace Dss

open Xml SubscriptionParser

/-! ## The elements -/

/-- The elements below the root. -/
def isEntry (name : String) : Bool := name = "subscription" ∨ name = "state"

/-- The elements with a text. -/
def isParameter (name : String) : Bool := name = "parameter" ∨ name = "property"

/-- All elements with a meaning. -/
def isKnown (name : String) : Bool :=
  isEntry name || isParameter name || name = "filter" || name = "property-filter"

/-- What an element is in. -/
inductive Nesting : Type where
  /-- in a subscription or a state -/
  | entry : Nesting
  | parameter : Nesting
  | filter : Nesting
  | propertyFilter : Nesting
  deriving DecidableEq

def Nesting.allows (name : String) : Nesting → Bool
  | entry => isParameter name || name = "filter"
  | parameter => isParameter name
  | filter => name = "property-filter"
  | propertyFilter => false

def nestingOf (name : String) : Nesting :=
  if name = "filter" then .filter
  else if name = "property-filter" then .propertyFilter
  else .parameter

def AttributesFit (name : String) (attributes : Attributes) (content : Content) : Prop :=
  (isParameter name → ∃ type, valueTypeOf attributes = some type ∧
    (content.hasElement isKnown = false → ∃ value, valueFrom type content.directText = .ok value)) ∧
  (name = "property-filter" →
    (attributes.value? "type").isSome ∧ (attributes.value? "property").isSome)

/-- The known elements are where they may be, with their attributes. -/
def Documented : Content → Nesting → Prop
  | .nil, _ => True
  | .text _ rest, nesting => Documented rest nesting
  | .element name attributes content rest, nesting =>
    (isKnown name → nesting.allows name ∧ AttributesFit name attributes content ∧
      Documented content (nestingOf name)) ∧ Documented rest nesting

/-! ## What should become of it -/

def expectedValue (attributes : Attributes) (content : Content) : PropertyValue :=
  if content.hasElement isKnown then .none
  else
    match (valueTypeOf attributes).map fun type => valueFrom type content.directText with
    | some (.ok (some value)) => value
    | _ => .none

def expected : Content → (matchType : String) → PropertyNode → PropertyNode
  | .nil, _, node => node
  | .text _ rest, matchType, node => expected rest matchType node
  | .element name attributes content rest, matchType, node =>
    expected rest matchType <|
      if isParameter name then
        node.addChild { expected content "" (parameterNode name attributes) with
          value := expectedValue attributes content }
      else if name = "filter" then
        let inner := (attributes.value? "match").getD ""
        node.addChild (expected content inner (filterNode inner))
      else if name = "property-filter" then
        node.addChild (propertyFilterNode matchType ((attributes.value? "type").getD "")
          ((attributes.value? "property").getD "") (attributes.value? "value"))
      else node

/-! ## When a reader gets it -/

def foreign : Content → Bool
  | .nil => false
  | .text _ rest => foreign rest
  | .element name _ content rest => !isKnown name || foreign content || foreign rest

def ValueType.isInert (type : ValueType) : Bool :=
  type = .none ∨ type = .unsignedInteger ∨ type = .floating

/-- What an element asks for in itself; `matchType` is the last match so far. -/
def HarmlessElement (name : String) (attributes : Attributes) (content : Content)
    (matchType : String) : Prop :=
  (isParameter name → foreign content → content.hasElement isKnown ∨
    (valueTypeOf attributes).any ValueType.isInert) ∧
  (name = "filter" → (attributes.value? "match").isSome ∨ matchType = "")

def nextMatch (name : String) (attributes : Attributes) (matchType : String) : String :=
  if name = "filter" then (attributes.value? "match").getD matchType else matchType

/-- Behind an unknown element comes no known one, at any level, and it is not in a
parameter or property whose text counts; a filter has a match, or there was none. -/
def Harmless : Content → (matchType : String) → Prop
  | .nil, _ => True
  | .text _ rest, matchType => Harmless rest matchType
  | .element name attributes content rest, matchType =>
    if isKnown name then
      HarmlessElement name attributes content matchType ∧
        Harmless content (nextMatch name attributes matchType) ∧
        if foreign content then rest.hasElement isKnown = false
        else Harmless rest (nextMatch name attributes matchType)
    else rest.hasElement isKnown = false

/-! ## Nodes that grow -/

theorem next_unique {α : Type} {l l' : List α} {a b : α} (h : l ++ [a] <+: l')
    (h' : l ++ [b] <+: l') : a = b := by
  have hequal := List.prefix_of_prefix_length_le h h' (by simp)
  have hlists := hequal.eq_of_length (by simp)
  exact (List.cons.inj (List.append_cancel_left hlists)).1

structure Grows (a b : PropertyNode) : Prop where
  name_eq : b.name = a.name
  index_eq : b.index = a.index
  value_eq : b.value = a.value
  children_le : a.children <+: b.children

namespace Grows

variable {a b d : PropertyNode}

theorem refl (a : PropertyNode) : Grows a a := ⟨rfl, rfl, rfl, List.prefix_rfl⟩

theorem trans (h : Grows a b) (h' : Grows b d) : Grows a d where
  name_eq := h'.name_eq.trans h.name_eq
  index_eq := h'.index_eq.trans h.index_eq
  value_eq := h'.value_eq.trans h.value_eq
  children_le := h.children_le.trans h'.children_le

theorem snoc (a last : PropertyNode) :
    Grows a { a with children := a.children ++ [last] } :=
  ⟨rfl, rfl, rfl, List.prefix_append _ _⟩

theorem last_unique {last last' : PropertyNode}
    (h : Grows { a with children := a.children ++ [last] } b)
    (h' : Grows { a with children := a.children ++ [last'] } b) : last = last' :=
  next_unique h.children_le h'.children_le

end Grows

/-! ## What is expected -/

section expected

variable {content rest : Content} {matchType name : String} {node : PropertyNode}
  {attributes : Attributes} {nesting : Nesting} {index : ℕ}

theorem expected_grows (content : Content) (matchType : String) (node : PropertyNode) :
    Grows node (expected content matchType node) := by
  induction content generalizing node with
  | nil => exact .refl node
  | text t rest ih => exact ih node
  | element name attributes content rest _ ih =>
    refine Grows.trans ?_ (ih _)
    split_ifs
    · exact .snoc _ _
    · exact .snoc _ _
    · exact .snoc _ _
    · exact .refl _

theorem addChild_index {child : PropertyNode} :
    ({ node with index := index } : PropertyNode).addChild child =
      { node.addChild child with index := index } := rfl

theorem expected_index : expected content matchType { node with index := index } =
    { expected content matchType node with index := index } := by
  induction content generalizing node with
  | nil => rfl
  | text t rest ih => exact ih
  | element name attributes content rest _ ih =>
    rw [expected, expected]
    split_ifs
    · rw [addChild_index, ih]
    · rw [addChild_index, ih]
    · rw [addChild_index, ih]
    · exact ih

theorem expected_of_plain (h : content.hasElement isKnown = false) :
    expected content matchType node = node := by
  induction content generalizing node with
  | nil => rfl
  | text t rest ih => exact ih h
  | element name attributes content rest _ ih =>
    rw [Content.hasElement_element] at h
    simp only [isKnown, Bool.or_eq_false_iff, decide_eq_false_iff_not] at h
    obtain ⟨⟨⟨⟨-, hparameter⟩, hfilter⟩, hproperty⟩, hrest⟩ := h
    rw [expected]
    rw [if_neg (by rw [hparameter]; exact Bool.false_ne_true), if_neg hfilter, if_neg hproperty]
    exact ih hrest

theorem kind_of_allows (h : nesting.allows name = true) : (isParameter name = true ∧
    (nesting = .entry ∨ nesting = .parameter)) ∨ (name = "filter" ∧ nesting = .entry) ∨
      (name = "property-filter" ∧ nesting = .filter) := by
  cases nesting with
  | entry =>
    rw [Nesting.allows, Bool.or_eq_true, decide_eq_true_iff] at h
    rcases h with h | h
    · exact Or.inl ⟨h, Or.inl rfl⟩
    · exact Or.inr (Or.inl ⟨h, rfl⟩)
  | parameter => exact Or.inl ⟨h, Or.inr rfl⟩
  | filter => exact Or.inr (Or.inr ⟨of_decide_eq_true h, rfl⟩)
  | propertyFilter => cases h

theorem expected_ne (hdoc : Documented content nesting)
    (h : content.hasElement isKnown = true) : expected content matchType node ≠ node := by
  induction content generalizing node with
  | nil => cases h
  | text t rest ih => exact ih hdoc h
  | element name attributes content rest _ ih =>
    obtain ⟨hknown, hrest⟩ := hdoc
    rw [expected]
    have hgrown {a last : PropertyNode} : expected rest matchType (a.addChild last) ≠ a := by
      intro heq
      have hlength := (expected_grows rest matchType (a.addChild last)).children_le.length_le
      rw [heq, PropertyNode.addChild, List.length_append] at hlength
      exact absurd hlength (Nat.not_succ_le_self _)
    split_ifs with hparameter hfilter hproperty
    · exact hgrown
    · exact hgrown
    · exact hgrown
    · have hunknown : isKnown name ≠ true := by
        intro hname
        rcases kind_of_allows (hknown hname).1 with ⟨hkind, -⟩ | ⟨hkind, -⟩ | ⟨hkind, -⟩
        · exact hparameter hkind
        · exact hfilter hkind
        · exact hproperty hkind
      rw [Content.hasElement_element, Bool.or_eq_true] at h
      exact ih hrest (h.resolve_left hunknown)

theorem expected_eq_self_iff (hdoc : Documented content nesting) :
    expected content matchType node = node ↔ content.hasElement isKnown = false := by
  constructor
  · intro h
    exact Bool.eq_false_iff.mpr fun hknown => expected_ne hdoc hknown h
  · exact expected_of_plain

theorem harmless_of_plain (h : content.hasElement isKnown = false) :
    Harmless content matchType := by
  induction content with
  | nil => trivial
  | text t rest ih => exact ih h
  | element name attributes content rest _ _ =>
    rw [Content.hasElement_element, Bool.or_eq_false_iff] at h
    rw [Harmless, if_neg (by rw [h.1]; exact Bool.false_ne_true)]
    exact h.2

end expected

/-! ## What a reader makes -/

section reads

variable {content rest : Content} {matchType name : String} {attributes : Attributes}
  {nesting : Nesting} {r b : Reader} {inner : Reader → Reader} {type : ValueType}
  {value : Option PropertyValue}

theorem valueFrom_of_isInert (h : type.isInert = true) (text : String) :
    valueFrom type text = .ok none := by
  cases type with
  | none => rfl
  | unsignedInteger => rfl
  | floating => rfl
  | integer => cases h
  | boolean => cases h
  | string => cases h

theorem valueFrom_of_not_isInert (h : type.isInert ≠ true) {text : String}
    (hvalue : valueFrom type text = .ok value) : ∃ v, value = some v ∧ v ≠ .none := by
  cases type with
  | none => exact absurd rfl h
  | unsignedInteger => exact absurd rfl h
  | floating => exact absurd rfl h
  | integer =>
    rw [valueFrom] at hvalue
    rcases hparse : parseInt? text with - | i
    · rw [hparse] at hvalue
      cases hvalue
    · rw [hparse] at hvalue
      cases hvalue
      exact ⟨_, rfl, nofun⟩
  | boolean | string =>
    cases hvalue
    exact ⟨_, rfl, nofun⟩

theorem mk_self (node : PropertyNode) :
    PropertyNode.mk node.name node.index node.value node.children = node := by
  cases node
  rfl

theorem eq_with_value_iff {a e : PropertyNode} {v : PropertyValue} (h : a.value = e.value) :
    a = { e with value := v } ↔ v = e.value ∧ a = e := by
  constructor
  · intro heq
    have hv : v = e.value := by rw [← h, heq]
    rw [hv, mk_self] at heq
    exact ⟨hv, heq⟩
  · rintro ⟨rfl, rfl⟩
    exact (mk_self a).symm

theorem with_value_inj {a e : PropertyNode} {v : PropertyValue} (h : a.value = e.value) :
    ({ a with value := v } : PropertyNode) = { e with value := v } ↔ a = e := by
  constructor
  · intro heq
    cases a
    cases e
    simp only [PropertyNode.mk.injEq, true_and] at heq h ⊢
    exact ⟨heq.1, heq.2.1, h, heq.2.2⟩
  · rintro rfl
    rfl

namespace Reader

theorem leave_reading (h : b.mode = .reading)
    (hvalue : valueFrom b.currentValueType b.temporaryValue = .ok value) :
    b.leave = { b with
      node := { b.node with value := value.getD b.node.value }
      temporaryValue := ""
      expectValue := false } := by
  rw [leave, if_pos h, hvalue]
  cases value with
  | none =>
    dsimp only [Option.getD_none]
    rw [mk_self]
  | some v => rfl

theorem close_reading (h : b.mode = .reading)
    (hvalue : valueFrom b.currentValueType b.temporaryValue = .ok value) :
    r.close b = { b with
      node := { r.node with
        children := r.node.children ++ [{ b.node with value := value.getD b.node.value }] }
      currentValueType := .none
      temporaryValue := ""
      expectValue := false } := by
  rw [close, leave_reading h hvalue, if_pos h]

theorem element_parameter (h : r.mode = .reading) (hname : isParameter name = true)
    (htype : valueTypeOf attributes = some type) : r.element name attributes inner =
      r.close (inner (r.openParameter type name attributes)) := by
  have hname' : name = "parameter" ∨ name = "property" := of_decide_eq_true hname
  rw [element, if_neg (not_not_intro h), if_pos hname', htype]

theorem element_filter (h : r.mode = .reading) : r.element "filter" attributes inner =
    r.close (inner (r.openFilter attributes)) := by
  rw [element, if_neg (not_not_intro h), if_neg (by decide), if_pos rfl]

theorem element_propertyFilter (h : r.mode = .reading)
    (htype : (attributes.value? "type").isSome)
    (hproperty : (attributes.value? "property").isSome) :
    r.element "property-filter" attributes inner = (inner { r with
      node := r.node.addChild (propertyFilterNode r.optionString
        ((attributes.value? "type").getD "") ((attributes.value? "property").getD "")
        (attributes.value? "value")) }).leave := by
  obtain ⟨fType, hfType⟩ := Option.isSome_iff_exists.mp htype
  obtain ⟨fProperty, hfProperty⟩ := Option.isSome_iff_exists.mp hproperty
  rw [element, if_neg (not_not_intro h), hfType, hfProperty]
  rfl

theorem element_unknown (h : r.mode = .reading) (hname : isKnown name = false) :
    r.element name attributes inner = { r with mode := .ignoring } := by
  simp only [isKnown, Bool.or_eq_false_iff, decide_eq_false_iff_not] at hname
  obtain ⟨⟨⟨-, hparameter⟩, hfilter⟩, hproperty⟩ := hname
  rw [element, if_neg (not_not_intro h), if_neg (of_decide_eq_false hparameter), if_neg hfilter,
    if_neg hproperty]

end Reader

structure Reads (content : Content) (nesting : Nesting) (r b : Reader) : Prop where
  grows : Grows r.node b.node
  /-- an unknown element makes it ignore what comes -/
  mode_eq : b.mode = if foreign content then .ignoring else .reading
  option_eq : nesting ≠ .entry → b.optionString = r.optionString
  plain : content.hasElement isKnown = false →
    b.node = r.node ∧ b.currentValueType = r.currentValueType
  text_eq : content.hasElement isKnown = false → foreign content = false →
    r.expectValue = true → r.currentValueType ≠ .none →
      b.temporaryValue = r.temporaryValue ++ content.directText
  type_eq : nesting = .parameter → content.hasElement isKnown = true →
    foreign content = false → b.currentValueType = .none
  inert_reading : foreign content = false → r.currentValueType.isInert = true →
    b.currentValueType.isInert = true
  /-- no text counts, also if it ignores what comes -/
  inert : Harmless content r.optionString →
    r.currentValueType.isInert = true ∨
      nesting = .parameter ∧ content.hasElement isKnown = true →
    b.currentValueType.isInert = true
  node_iff : ∀ matchType, (nesting = .filter → r.optionString = matchType) →
    (b.node = expected content matchType r.node ↔ Harmless content r.optionString)

structure ReadsElement (name : String) (attributes : Attributes) (content : Content)
    (nesting : Nesting) (r b : Reader) : Prop where
  /-- a child is added, which is the one that is expected if nothing is lost in it -/
  node_eq : ∃ last, b.node = { r.node with children := r.node.children ++ [last] } ∧
    ∀ matchType, (nesting = .filter → r.optionString = matchType) →
      ∃ last', expected (.element name attributes content .nil) matchType r.node =
          { r.node with children := r.node.children ++ [last'] } ∧
        (last = last' ↔ HarmlessElement name attributes content r.optionString ∧
          Harmless content (nextMatch name attributes r.optionString))
  /-- an unknown element makes it ignore what comes -/
  mode_eq : b.mode = if foreign content then .ignoring else .reading
  option_eq : b.optionString = nextMatch name attributes r.optionString
  /-- an element in a parameter takes the type away -/
  type_eq : foreign content = false → b.currentValueType = .none ∨
    nesting ≠ .parameter ∧ b.currentValueType = r.currentValueType
  inert : HarmlessElement name attributes content r.optionString →
    Harmless content (nextMatch name attributes r.optionString) →
      b.currentValueType.isInert = true

theorem ne_filter (h : isParameter name = true) :
    name ≠ "filter" ∧ name ≠ "property-filter" := by
  constructor
  · rintro rfl
    exact absurd h (by decide)
  · rintro rfl
    exact absurd h (by decide)

theorem expectedValue_of_plain (h : content.hasElement isKnown = false)
    (htype : valueTypeOf attributes = some type)
    (hvalue : valueFrom type content.directText = .ok value) :
    expectedValue attributes content = value.getD .none := by
  rw [expectedValue, if_neg (by rw [h]; exact Bool.false_ne_true), htype, Option.map_some, hvalue]
  cases value with
  | none => rfl
  | some v => rfl

theorem expectedValue_eq_none_iff (htype : valueTypeOf attributes = some type)
    (hfit : content.hasElement isKnown = false →
      ∃ value, valueFrom type content.directText = .ok value) :
    expectedValue attributes content = .none ↔
      content.hasElement isKnown = true ∨ type.isInert = true := by
  by_cases hknown : content.hasElement isKnown = true
  · rw [expectedValue, if_pos hknown]
    exact iff_of_true rfl (Or.inl hknown)
  · have hplain := Bool.eq_false_iff.mpr hknown
    obtain ⟨value, hvalue⟩ := hfit hplain
    rw [expectedValue_of_plain hplain htype hvalue]
    by_cases hinert : type.isInert = true
    · rw [valueFrom_of_isInert hinert] at hvalue
      cases hvalue
      exact iff_of_true rfl (Or.inr hinert)
    · obtain ⟨v, rfl, hv⟩ := valueFrom_of_not_isInert hinert hvalue
      exact iff_of_false hv (not_or.mpr ⟨hknown, hinert⟩)

theorem expected_parameter (hname : isParameter name = true) (type : ValueType) :
    expected (.element name attributes content .nil) matchType r.node =
      { r.node with children := r.node.children ++
        [{ expected content "" (r.openParameter type name attributes).node with
          value := expectedValue attributes content }] } := by
  have hnode : (expected content "" (parameterNode name attributes)).name =
      (parameterNode name attributes).name := (expected_grows _ _ _).name_eq
  have hopen : (r.openParameter type name attributes).node =
      { parameterNode name attributes with
        index := r.node.nextIndex (parameterNode name attributes).name } := rfl
  rw [hopen, expected_index, expected]
  rw [if_pos hname, expected, PropertyNode.addChild]
  dsimp only
  rw [hnode]

theorem harmlessElement_parameter (hname : isParameter name = true)
    (htype : valueTypeOf attributes = some type)
    (hfit : content.hasElement isKnown = false →
      ∃ value, valueFrom type content.directText = .ok value) :
    HarmlessElement name attributes content matchType ↔
      (foreign content = true → expectedValue attributes content = .none) := by
  rw [expectedValue_eq_none_iff htype hfit, HarmlessElement, htype]
  exact ⟨fun h => h.1 hname, fun h => ⟨fun _ => h, fun hname' => absurd hname' (ne_filter hname).1⟩⟩

theorem Reads.value_of_parameter
    (hreads : Reads content .parameter (r.openParameter type name attributes) b)
    (htype : valueTypeOf attributes = some type)
    (hfit : content.hasElement isKnown = false →
      ∃ value, valueFrom type content.directText = .ok value)
    (hread' : foreign content = false) :
    ∃ value, valueFrom b.currentValueType b.temporaryValue = .ok value ∧
      value.getD .none = expectedValue attributes content := by
  by_cases hknown : content.hasElement isKnown = true
  · rw [hreads.type_eq rfl hknown hread', expectedValue, if_pos hknown]
    exact ⟨none, rfl, rfl⟩
  · have hplain := Bool.eq_false_iff.mpr hknown
    obtain ⟨value, hvalue⟩ := hfit hplain
    rw [(hreads.plain hplain).2, expectedValue_of_plain hplain htype hvalue]
    by_cases hinert : type.isInert = true
    · rw [valueFrom_of_isInert hinert] at hvalue
      exact ⟨value, hvalue ▸ valueFrom_of_isInert hinert _, rfl⟩
    · have htext := hreads.text_eq hplain hread' rfl fun h => hinert (by
        have htype' : type = .none := h
        rw [htype']
        rfl)
      have hempty : "" ++ content.directText = content.directText := String.empty_append
      rw [htext]
      exact ⟨value, (congrArg (valueFrom type) hempty).trans hvalue, rfl⟩

theorem reads_parameter (hread : r.mode = .reading) (hname : isParameter name = true)
    (hfit : AttributesFit name attributes content)
    (hcontent : ∀ type, Reads content .parameter (r.openParameter type name attributes)
      (Reader.read content (r.openParameter type name attributes))) :
    ReadsElement name attributes content nesting r
      (r.element name attributes (Reader.read content)) := by
  obtain ⟨type, htype, hinteger⟩ := hfit.1 hname
  obtain ⟨hfilter, hproperty⟩ := ne_filter hname
  have hnext : nextMatch name attributes r.optionString = r.optionString := if_neg hfilter
  rw [Reader.element_parameter hread hname htype]
  generalize hb : Reader.read content (r.openParameter type name attributes) = b
  have hreads := hb ▸ hcontent type
  have hnode := hreads.node_iff "" nofun
  have hvalue : b.node.value = .none := hreads.grows.value_eq
  have hoption : b.optionString = nextMatch name attributes r.optionString :=
    (hreads.option_eq (by decide)).trans hnext.symm
  have hequal : b.node.value =
      (expected content "" (r.openParameter type name attributes).node).value :=
    hreads.grows.value_eq.trans (expected_grows _ _ _).value_eq.symm
  have hnone : (expected content "" (r.openParameter type name attributes).node).value = .none :=
    hequal.symm.trans hvalue
  have hharmless : HarmlessElement name attributes content r.optionString ↔
      (foreign content = true → expectedValue attributes content = .none) :=
    harmlessElement_parameter hname htype hinteger
  by_cases hforeign : foreign content = true
  · have hmode : b.mode = .ignoring := by rw [hreads.mode_eq, if_pos hforeign]
    rw [Reader.close_of_ne (by rw [hmode]; decide)]
    refine ⟨⟨b.node, rfl, fun matchType _ => ⟨_, expected_parameter hname type, ?_⟩⟩, ?_,
      hoption, ?_, ?_⟩
    · rw [eq_with_value_iff hequal, hnode, hnone, hharmless, hnext]
      exact and_congr_left' ⟨fun h _ => h, fun h => h hforeign⟩
    · rw [if_pos hforeign]
      exact hmode
    · exact fun hnot => absurd hforeign (by rw [hnot]; exact Bool.false_ne_true)
    · intro helement hinner
      rw [hnext] at hinner
      refine hreads.inert hinner ?_
      rcases (expectedValue_eq_none_iff htype hinteger).mp (hharmless.mp helement hforeign) with
        hknown | hinert
      · exact Or.inr ⟨rfl, hknown⟩
      · exact Or.inl hinert
  · have hmode : b.mode = .reading := by rw [hreads.mode_eq, if_neg hforeign]
    obtain ⟨value, hvalueFrom, hgetD⟩ :=
      hreads.value_of_parameter htype hinteger (Bool.eq_false_iff.mpr hforeign)
    rw [Reader.close_reading hmode hvalueFrom, hvalue, hgetD]
    refine ⟨⟨_, rfl, fun matchType _ => ⟨_, expected_parameter hname type, ?_⟩⟩, ?_,
      hoption, ?_, ?_⟩
    · rw [with_value_inj hequal, hnode, hharmless, hnext]
      exact ⟨fun h => ⟨fun h' => absurd h' hforeign, h⟩, And.right⟩
    · rw [if_neg hforeign]
      exact hmode
    · exact fun _ => Or.inl rfl
    · exact fun _ _ => rfl

def expectedFilter (attributes : Attributes) (content : Content) (r : Reader) : PropertyNode :=
  { expected content ((attributes.value? "match").getD "")
      (filterNode ((attributes.value? "match").getD "")) with
    index := r.node.nextIndex "filter" }

theorem expected_filter :
    expected (.element "filter" attributes content .nil) matchType r.node =
      { r.node with children := r.node.children ++ [expectedFilter attributes content r] } := by
  have hname : (expected content ((attributes.value? "match").getD "")
      (filterNode ((attributes.value? "match").getD ""))).name = "filter" :=
    (expected_grows _ _ _).name_eq
  rw [expectedFilter, expected]
  rw [if_neg (by decide), if_pos rfl, expected, PropertyNode.addChild, hname]

theorem Reads.filter_eq_iff (hcontent : Reads content .filter (r.openFilter attributes) b) :
    b.node = expectedFilter attributes content r ↔
      HarmlessElement "filter" attributes content r.optionString ∧
        Harmless content (nextMatch "filter" attributes r.optionString) := by
  rw [expectedFilter]
  have hharmless : HarmlessElement "filter" attributes content r.optionString ↔
      (attributes.value? "match").isSome ∨ r.optionString = "" :=
    ⟨fun h => h.2 rfl, fun h => ⟨fun hname => absurd hname (by decide), fun _ => h⟩⟩
  rw [hharmless]
  by_cases hmatch : (attributes.value? "match").isSome ∨ r.optionString = ""
  · have hsame : (attributes.value? "match").getD r.optionString =
        (attributes.value? "match").getD "" := by
      rcases hm : attributes.value? "match" with - | m
      · rw [hm] at hmatch
        exact hmatch.resolve_left Bool.false_ne_true
      · rfl
    have hopen : (r.openFilter attributes).node =
        { filterNode ((attributes.value? "match").getD "") with
          index := r.node.nextIndex "filter" } := by
      rw [← hsame]
      rfl
    rw [← expected_index, ← hopen, hcontent.node_iff _ fun _ => hsame]
    exact ⟨fun h => ⟨hmatch, h⟩, And.right⟩
  · refine iff_of_false (fun heq => ?_) fun h => hmatch h.1
    have hvalue := congrArg PropertyNode.value heq
    rw [hcontent.grows.value_eq, (expected_grows _ _ _).value_eq] at hvalue
    obtain ⟨hnone, hne⟩ := not_or.mp hmatch
    have hstrings : (attributes.value? "match").getD r.optionString =
        (attributes.value? "match").getD "" := PropertyValue.string.inj hvalue
    rw [Option.not_isSome_iff_eq_none] at hnone
    rw [hnone] at hstrings
    exact hne hstrings

theorem reads_filter (hread : r.mode = .reading) (hinert : r.currentValueType.isInert = true)
    (hcontent : Reads content .filter (r.openFilter attributes)
      (Reader.read content (r.openFilter attributes))) :
    ReadsElement "filter" attributes content .entry r
      (r.element "filter" attributes (Reader.read content)) := by
  have hnext : nextMatch "filter" attributes r.optionString =
      (r.openFilter attributes).optionString := if_pos rfl
  rw [Reader.element_filter hread]
  generalize Reader.read content (r.openFilter attributes) = b at hcontent ⊢
  have hoption : b.optionString = nextMatch "filter" attributes r.optionString :=
    (hcontent.option_eq (by decide)).trans hnext.symm
  have hlast := hcontent.filter_eq_iff
  by_cases hforeign : foreign content = true
  · have hmode : b.mode = .ignoring := by rw [hcontent.mode_eq, if_pos hforeign]
    rw [Reader.close_of_ne (by rw [hmode]; decide)]
    refine ⟨⟨b.node, rfl, fun _ _ => ⟨_, expected_filter, hlast⟩⟩, ?_, hoption, ?_, ?_⟩
    · rw [if_pos hforeign]
      exact hmode
    · exact fun hnot => absurd hforeign (by rw [hnot]; exact Bool.false_ne_true)
    · intro _ hinner
      exact hcontent.inert hinner (Or.inl hinert)
  · have hmode : b.mode = .reading := by rw [hcontent.mode_eq, if_neg hforeign]
    have hinert' := hcontent.inert_reading (Bool.eq_false_iff.mpr hforeign) hinert
    rw [Reader.close_reading hmode (valueFrom_of_isInert hinert' _), Option.getD_none, mk_self]
    refine ⟨⟨b.node, rfl, fun _ _ => ⟨_, expected_filter, hlast⟩⟩, ?_, hoption, ?_, ?_⟩
    · rw [if_neg hforeign]
      exact hmode
    · exact fun _ => Or.inl rfl
    · exact fun _ _ => rfl

theorem reads_propertyFilter (hread : r.mode = .reading)
    (hinert : r.currentValueType.isInert = true)
    (hfit : AttributesFit "property-filter" attributes content)
    (hplain : content.hasElement isKnown = false)
    (hcontent : ∀ r : Reader, r.mode = .reading → r.currentValueType.isInert = true →
      Reads content .propertyFilter r (Reader.read content r)) :
    ReadsElement "property-filter" attributes content .filter r
      (r.element "property-filter" attributes (Reader.read content)) := by
  obtain ⟨htype, hproperty⟩ := hfit.2 rfl
  rw [Reader.element_propertyFilter hread htype hproperty]
  generalize hr' : ({ r with
    node := r.node.addChild (propertyFilterNode r.optionString
      ((attributes.value? "type").getD "") ((attributes.value? "property").getD "")
      (attributes.value? "value")) } : Reader) = r'
  have hmode' : r'.mode = .reading := by rw [← hr']; exact hread
  have hinert' : r'.currentValueType.isInert = true := by rw [← hr']; exact hinert
  have hreads := hcontent r' hmode' hinert'
  generalize Reader.read content r' = b at hreads ⊢
  obtain ⟨hnode, htypeEq⟩ := hreads.plain hplain
  have hoption : b.optionString = nextMatch "property-filter" attributes r.optionString := by
    rw [hreads.option_eq (by decide), ← hr']
    rfl
  have hexpected (matchType : String) (hmatch : r.optionString = matchType) :
      expected (.element "property-filter" attributes content .nil) matchType r.node =
        r'.node := by
    rw [expected]
    rw [if_neg (by decide), if_neg (by decide), if_pos rfl, expected, ← hr', hmatch]
  have hharmless : HarmlessElement "property-filter" attributes content r.optionString :=
    ⟨fun hname => absurd hname (by decide), fun hname => absurd hname (by decide)⟩
  have hleave : b.leave.node = r'.node ∧ b.leave.mode = b.mode ∧
      b.leave.optionString = b.optionString ∧
        b.leave.currentValueType = r.currentValueType := by
    have htypeEq' : b.currentValueType = r.currentValueType := by rw [htypeEq, ← hr']
    by_cases hmode : b.mode = .reading
    · rw [Reader.leave_reading hmode (valueFrom_of_isInert (htypeEq ▸ hinert') _),
        Option.getD_none, mk_self]
      exact ⟨hnode, rfl, rfl, htypeEq'⟩
    · rw [Reader.leave_of_ne hmode]
      exact ⟨hnode, rfl, rfl, htypeEq'⟩
  obtain ⟨hleaveNode, hleaveMode, hleaveOption, hleaveType⟩ := hleave
  obtain ⟨last, hlast⟩ : ∃ last,
      r'.node = { r.node with children := r.node.children ++ [last] } := by
    rw [← hr']
    exact ⟨_, rfl⟩
  refine ⟨⟨last, hleaveNode.trans hlast, fun matchType hmatch => ⟨last, ?_, ?_⟩⟩, ?_, ?_, ?_, ?_⟩
  · exact (hexpected matchType (hmatch rfl)).trans hlast
  · exact iff_of_true rfl ⟨hharmless, harmless_of_plain hplain⟩
  · rw [hleaveMode, hreads.mode_eq]
  · rw [hleaveOption, hoption]
  · exact fun _ => Or.inr ⟨by decide, hleaveType⟩
  · exact fun _ _ => by rw [hleaveType]; exact hinert

theorem expected_cons {node : PropertyNode} :
    expected (.element name attributes content rest) matchType node =
      expected rest matchType
        (expected (.element name attributes content .nil) matchType node) := by
  rw [expected, expected, expected]

theorem nextMatch_of_allows (h : nesting.allows name = true) (hentry : nesting ≠ .entry) :
    nextMatch name attributes matchType = matchType := by
  refine if_neg ?_
  rintro rfl
  rcases kind_of_allows h with ⟨hkind, -⟩ | ⟨-, hkind⟩ | ⟨hkind, -⟩
  · exact absurd hkind (by decide)
  · exact hentry hkind
  · exact absurd hkind (by decide)

theorem harmless_cons (hknown : isKnown name = true) :
    Harmless (.element name attributes content rest) matchType ↔
      (HarmlessElement name attributes content matchType ∧
        Harmless content (nextMatch name attributes matchType)) ∧
      if foreign content then rest.hasElement isKnown = false
        else Harmless rest (nextMatch name attributes matchType) := by
  rw [Harmless, if_pos hknown, and_assoc]

theorem foreign_cons (hknown : isKnown name = true) :
    foreign (.element name attributes content rest) = (foreign content || foreign rest) := by
  rw [foreign, hknown, Bool.not_true, Bool.false_or]

theorem not_plain_cons (hknown : isKnown name = true) :
    ¬ Content.hasElement isKnown (.element name attributes content rest) = false := by
  rw [Content.hasElement_element, hknown]
  exact Bool.noConfusion

theorem ReadsElement.cons_foreign (hknown : isKnown name = true)
    (hallows : nesting.allows name = true) (h : ReadsElement name attributes content nesting r b)
    (hdoc : Documented rest nesting) (hcontent : foreign content = true) :
    Reads (.element name attributes content rest) nesting r (Reader.read rest b) := by
  obtain ⟨last, hnode, hlast⟩ := h.node_eq
  have hvacuous := @not_plain_cons content rest name attributes hknown
  have hmode : b.mode = .ignoring := by rw [h.mode_eq, if_pos hcontent]
  rw [Reader.read_of_ne (by rw [hmode]; decide)]
  have hforeign' : foreign (.element name attributes content rest) = true := by
    rw [foreign_cons hknown, hcontent, Bool.true_or]
  have hharmless := @harmless_cons content rest r.optionString name attributes hknown
  rw [if_pos hcontent] at hharmless
  exact {
    grows := by
      rw [hnode]
      exact .snoc _ _
    mode_eq := by rw [hmode, if_pos hforeign']
    option_eq := fun hentry => h.option_eq.trans (nextMatch_of_allows hallows hentry)
    plain := fun hplain => absurd hplain hvacuous
    text_eq := fun hplain => absurd hplain hvacuous
    type_eq := fun _ _ hread => absurd hread (by rw [hforeign']; exact Bool.noConfusion)
    inert_reading := fun hread => absurd hread (by
      rw [hforeign']
      exact Bool.noConfusion)
    inert := fun hall _ => h.inert (hharmless.mp hall).1.1 (hharmless.mp hall).1.2
    node_iff := fun matchType hmatch => by
      obtain ⟨last', hexpected, hiff⟩ := hlast matchType hmatch
      rw [expected_cons, hexpected, hharmless, ← hiff, hnode]
      constructor
      · intro heq
        have hgrows := expected_grows rest matchType
          { r.node with children := r.node.children ++ [last'] }
        rw [← heq] at hgrows
        obtain rfl := (Grows.refl _).last_unique hgrows
        exact ⟨rfl, (expected_eq_self_iff hdoc).mp heq.symm⟩
      · rintro ⟨rfl, hplain⟩
        exact (expected_of_plain hplain).symm }

theorem ReadsElement.cons_reading (hknown : isKnown name = true)
    (hallows : nesting.allows name = true) (h : ReadsElement name attributes content nesting r b)
    (hread : foreign content = false) (hrest : Reads rest nesting b (Reader.read rest b)) :
    Reads (.element name attributes content rest) nesting r (Reader.read rest b) := by
  obtain ⟨last, hnode, hlast⟩ := h.node_eq
  have hvacuous := @not_plain_cons content rest name attributes hknown
  have hforeign := @foreign_cons content rest name attributes hknown
  have hharmless := @harmless_cons content rest r.optionString name attributes hknown
  rw [hread, Bool.false_or] at hforeign
  rw [if_neg (Bool.eq_false_iff.mp hread), ← h.option_eq] at hharmless
  exact {
    grows := by
      refine Grows.trans ?_ hrest.grows
      rw [hnode]
      exact .snoc _ _
    mode_eq := by rw [hforeign, hrest.mode_eq]
    option_eq := fun hentry => (hrest.option_eq hentry).trans
      (h.option_eq.trans (nextMatch_of_allows hallows hentry))
    plain := fun hplain => absurd hplain hvacuous
    text_eq := fun hplain => absurd hplain hvacuous
    type_eq := fun hparameter _ hread' => by
      have hnone : b.currentValueType = .none :=
        (h.type_eq hread).resolve_right fun hne => hne.1 hparameter
      by_cases hknown' : rest.hasElement isKnown = true
      · exact hrest.type_eq hparameter hknown' (hforeign ▸ hread')
      · rw [(hrest.plain (Bool.eq_false_iff.mpr hknown')).2, hnone]
    inert_reading := fun hread' hr => by
      refine hrest.inert_reading (hforeign ▸ hread') ?_
      rcases h.type_eq hread with hnone | ⟨-, hsame⟩
      · rw [hnone]
        rfl
      · rw [hsame]
        exact hr
    inert := fun hall _ => by
      obtain ⟨⟨helement, hinner⟩, hbehind⟩ := hharmless.mp hall
      rw [h.option_eq] at hinner
      exact hrest.inert hbehind (Or.inl (h.inert helement hinner))
    node_iff := fun matchType hmatch => by
      obtain ⟨last', hexpected, hiff⟩ := hlast matchType hmatch
      have hmatch' : nesting = .filter → b.optionString = matchType := fun hfilter => by
        rw [h.option_eq, nextMatch_of_allows hallows (by rw [hfilter]; decide), hmatch hfilter]
      rw [expected_cons, hexpected, hharmless, h.option_eq, ← hiff, ← h.option_eq]
      have hgrows := hrest.grows
      rw [hnode] at hgrows
      constructor
      · intro heq
        have hgrows' := expected_grows rest matchType
          { r.node with children := r.node.children ++ [last'] }
        rw [← heq] at hgrows'
        obtain rfl := hgrows.last_unique hgrows'
        rw [← hnode, hrest.node_iff matchType hmatch'] at heq
        exact ⟨rfl, heq⟩
      · rintro ⟨rfl, hbehind⟩
        rw [← hnode]
        exact (hrest.node_iff matchType hmatch').mpr hbehind }

theorem ReadsElement.cons (hknown : isKnown name = true) (hallows : nesting.allows name = true)
    (h : ReadsElement name attributes content nesting r b)
    (hdoc : Documented rest nesting) (hinert : nesting = .parameter ∨ r.currentValueType.isInert)
    (hrest : b.mode = .reading → nesting = .parameter ∨ b.currentValueType.isInert →
      Reads rest nesting b (Reader.read rest b)) :
    Reads (.element name attributes content rest) nesting r (Reader.read rest b) := by
  by_cases hcontent : foreign content = true
  · exact h.cons_foreign hknown hallows hdoc hcontent
  · have hread := Bool.eq_false_iff.mpr hcontent
    have hmode : b.mode = .reading := by rw [h.mode_eq, if_neg hcontent]
    have htype : nesting = .parameter ∨ b.currentValueType.isInert = true := by
      rcases h.type_eq hread with hnone | ⟨hne, hsame⟩
      · exact Or.inr (by rw [hnone]; rfl)
      · exact hinert.imp_right fun hr => by rw [hsame]; exact hr
    exact h.cons_reading hknown hallows hread (hrest hmode htype)

theorem plain_of_propertyFilter (h : Documented content .propertyFilter) :
    content.hasElement isKnown = false := by
  induction content with
  | nil => rfl
  | text t rest ih => exact ih h
  | element name attributes content rest _ ih =>
    obtain ⟨hknown, hrest⟩ := h
    rw [Content.hasElement_element, ih hrest, Bool.or_false]
    exact Bool.eq_false_iff.mpr fun hname => Bool.false_ne_true (hknown hname).1

theorem reads_text {text : String} (hread : r.mode = .reading)
    (hrest : (r.characterData text).mode = .reading →
      (r.characterData text).currentValueType = r.currentValueType →
        Reads rest nesting (r.characterData text) (Reader.read rest (r.characterData text))) :
    Reads (.text text rest) nesting r (Reader.read rest (r.characterData text)) := by
  have hmode : (r.characterData text).mode = .reading := by
    rw [Reader.characterData]
    split_ifs
    · exact hread
    · exact hread
  have hsame : (r.characterData text).node = r.node ∧
      (r.characterData text).optionString = r.optionString ∧
      (r.characterData text).currentValueType = r.currentValueType ∧
      (r.characterData text).expectValue = r.expectValue := by
    rw [Reader.characterData]
    split_ifs
    · exact ⟨rfl, rfl, rfl, rfl⟩
    · exact ⟨rfl, rfl, rfl, rfl⟩
  obtain ⟨hnode, hoption, htype, hexpect⟩ := hsame
  have hrest := hrest hmode htype
  exact {
    grows := hnode ▸ hrest.grows
    mode_eq := hrest.mode_eq
    option_eq := fun h => (hrest.option_eq h).trans hoption
    plain := fun h => ⟨(hrest.plain h).1.trans hnode, (hrest.plain h).2.trans htype⟩
    text_eq := fun hplain hforeign hvalue hne => by
      have hcollected : (r.characterData text).temporaryValue = r.temporaryValue ++ text := by
        rw [Reader.characterData, if_pos ⟨hread, hvalue, hne⟩]
      rw [hrest.text_eq hplain hforeign (hexpect.trans hvalue) (by rwa [htype]), hcollected,
        Content.directText, String.append_assoc]
    type_eq := hrest.type_eq
    inert_reading := fun hforeign h => hrest.inert_reading hforeign (by rwa [htype])
    inert := fun h h' => hrest.inert (hoption.symm ▸ h) (by rwa [htype])
    node_iff := fun matchType hmatch => by
      have hiff := hrest.node_iff matchType fun h => hoption.trans (hmatch h)
      rwa [hnode, hoption] at hiff }

theorem reads_unknown (hread : r.mode = .reading) (hname : ¬ isKnown name = true)
    (hrest : Documented rest nesting) :
    Reads (.element name attributes content rest) nesting r
      (Reader.read rest (r.element name attributes (Reader.read content))) := by
  have hunknown := Bool.eq_false_iff.mpr hname
  rw [Reader.element_unknown hread hunknown, Reader.read_of_ne Mode.noConfusion]
  have hhas : Content.hasElement isKnown (.element name attributes content rest) =
      rest.hasElement isKnown := by
    rw [Content.hasElement_element, hunknown, Bool.false_or]
  have hforeign : foreign (.element name attributes content rest) = true := by
    rw [foreign, hunknown]
    rfl
  have hharmless : Harmless (.element name attributes content rest) r.optionString ↔
      rest.hasElement isKnown = false := by
    rw [Harmless, if_neg hname]
  have hread' {p : Prop} (h : foreign (.element name attributes content rest) = false) : p := by
    rw [hforeign] at h
    cases h
  exact {
    grows := .refl _
    mode_eq := by rw [hforeign]; rfl
    option_eq := fun _ => rfl
    plain := fun _ => ⟨rfl, rfl⟩
    text_eq := fun _ h => hread' h
    type_eq := fun _ _ h => hread' h
    inert_reading := fun h => hread' h
    inert := fun h h' => h'.resolve_right fun hknown' => by
      rw [hhas, hharmless.mp h] at hknown'
      exact Bool.false_ne_true hknown'.2
    node_iff := fun matchType _ => by
      have hexpected : expected (.element name attributes content .nil) matchType r.node =
          r.node := expected_of_plain (by
        rw [Content.hasElement_element, hunknown]
        rfl)
      rw [expected_cons, hexpected, hharmless, ← expected_eq_self_iff hrest, eq_comm] }

theorem Documented.reads (hdoc : Documented content nesting) (hread : r.mode = .reading)
    (hinert : nesting = .parameter ∨ r.currentValueType.isInert = true) :
    Reads content nesting r (Reader.read content r) := by
  induction content generalizing nesting r with
  | nil =>
    exact {
      grows := .refl _
      mode_eq := hread
      option_eq := fun _ => rfl
      plain := fun _ => ⟨rfl, rfl⟩
      text_eq := fun _ _ _ _ => String.append_empty.symm
      type_eq := fun _ h => absurd h Bool.false_ne_true
      inert_reading := fun _ => id
      inert := fun _ h => h.resolve_right fun h' => Bool.false_ne_true h'.2
      node_iff := fun _ _ => iff_of_true rfl trivial }
  | text t rest ih =>
    exact reads_text hread fun hread' htype => ih hdoc hread' (by rwa [htype])
  | element name attributes content rest ihcontent ihrest =>
    obtain ⟨hknown, hrest⟩ := hdoc
    by_cases hname : isKnown name = true
    · obtain ⟨hallows, hfit, hcontent⟩ := hknown hname
      refine ReadsElement.cons hname hallows ?_ hrest hinert fun hread' => ihrest hrest hread'
      rcases kind_of_allows hallows with ⟨hkind, -⟩ | ⟨rfl, rfl⟩ | ⟨rfl, rfl⟩
      · have hnesting : nestingOf name = .parameter := by
          obtain ⟨hfilter, hproperty⟩ := ne_filter hkind
          rw [nestingOf, if_neg hfilter, if_neg hproperty]
        rw [hnesting] at hcontent
        exact reads_parameter hread hkind hfit fun type => ihcontent hcontent hread (Or.inl rfl)
      · have hinert' := hinert.resolve_left (by decide)
        exact reads_filter hread hinert' (ihcontent hcontent hread (Or.inr hinert'))
      · have hinert' := hinert.resolve_left (by decide)
        exact reads_propertyFilter hread hinert' hfit (plain_of_propertyFilter hcontent)
          fun r' hread' hr' => ihcontent hcontent hread' (Or.inr hr')
    · exact reads_unknown hread hname hrest

end reads

end Dss
