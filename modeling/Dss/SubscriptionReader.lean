import Dss.SubscriptionParser

/-!
# A reader by recursion

What the callbacks make of the content of an entry, said by recursion on the content: a reader works
on one node, and for an element below it another reader works on the child and hands it back. From
the first unknown element on it ignores what comes, and the depth is one too low.
-/

namespace Dss

open Xml

/-- What a reader does. -/
inductive Mode : Type where
  /-- it makes nodes -/
  | reading : Mode
  | ignoring : Mode
  /-- the parser halts -/
  | stopped : Mode
  deriving DecidableEq

structure Reader : Type where
  node : PropertyNode
  optionString : String := ""
  currentValueType : ValueType := .none
  temporaryValue : String := ""
  expectValue : Bool := false
  mode : Mode := .reading

namespace Reader

def characterData (text : String) (r : Reader) : Reader :=
  if r.mode = .reading ∧ r.expectValue ∧ r.currentValueType ≠ .none then
    { r with temporaryValue := r.temporaryValue ++ text }
  else r

def child (r : Reader) (node : PropertyNode) : Reader :=
  { r with node := { node with index := r.node.nextIndex node.name } }

def leave (r : Reader) : Reader :=
  if r.mode = .reading then
    match SubscriptionParser.valueFrom r.currentValueType r.temporaryValue with
    | .error _ => { r with mode := .stopped }
    | .ok none => { r with temporaryValue := "", expectValue := false }
    | .ok (some value) =>
      { r with
        node := { r.node with value := value }
        temporaryValue := ""
        expectValue := false }
  else r

def close (r b : Reader) : Reader :=
  { b.leave with
    node := { r.node with children := r.node.children ++ [b.leave.node] }
    currentValueType :=
      if b.leave.mode = .reading then .none else b.leave.currentValueType }

def openParameter (r : Reader) (type : ValueType) (name : String) (attributes : Attributes) :
    Reader :=
  { r with
    currentValueType := type
    temporaryValue := ""
    expectValue := true }.child (SubscriptionParser.parameterNode name attributes)

def openFilter (r : Reader) (attributes : Attributes) : Reader :=
  let optionString := (attributes.value? "match").getD r.optionString
  { r with optionString := optionString }.child (SubscriptionParser.filterNode optionString)

def element (r : Reader) (name : String) (attributes : Attributes) (inner : Reader → Reader) :
    Reader :=
  if r.mode ≠ .reading then r
  else if name = "parameter" ∨ name = "property" then
    match SubscriptionParser.valueTypeOf attributes with
    | none => { r with mode := .stopped }
    | some type => r.close (inner (r.openParameter type name attributes))
  else if name = "filter" then r.close (inner (r.openFilter attributes))
  else if name = "property-filter" then
    match attributes.value? "type", attributes.value? "property" with
    | some fType, some fProperty =>
      (inner { r with
        node := r.node.addChild (SubscriptionParser.propertyFilterNode r.optionString
          fType fProperty (attributes.value? "value")) }).leave
    | _, _ => { r with mode := .stopped }
  else { r with mode := .ignoring }

def read : Content → Reader → Reader
  | .nil, r => r
  | .text t rest, r => read rest (r.characterData t)
  | .element name attributes content rest, r =>
    read rest (r.element name attributes (read content))

variable {r : Reader}

theorem characterData_of_ne {text : String} (h : r.mode ≠ .reading) :
    r.characterData text = r := if_neg fun hread => h hread.1

theorem read_of_ne (h : r.mode ≠ .reading) (content : Content) : read content r = r := by
  induction content with
  | nil => rfl
  | text t rest ih => rw [read, characterData_of_ne h, ih]
  | element name attributes content rest _ ih => rw [read, element, if_pos h, ih]

theorem leave_of_ne (h : r.mode ≠ .reading) : r.leave = r := if_neg h

theorem temporaryValue_leave (h : r.mode = .reading) (hleave : r.leave.mode = .reading) :
    r.leave.temporaryValue = "" := by
  rw [leave, if_pos h] at hleave ⊢
  split at hleave
  · cases hleave
  · rfl
  · rfl

theorem close_of_ne {b : Reader} (h : b.mode ≠ .reading) : r.close b =
    { b with node := { r.node with children := r.node.children ++ [b.node] } } := by
  rw [close, leave_of_ne h, if_neg h]

end Reader

/-! ## Places -/

theorem modify_snoc {α : Type} {f : α → α} (l : List α) (a : α) :
    (l ++ [a]).modify l.length f = l ++ [f a] := by
  induction l with
  | nil => rfl
  | cons b l ih => rw [List.cons_append, List.length_cons, List.modify_succ_cons, ih,
      List.cons_append]

namespace PropertyNode

variable {f : PropertyNode → PropertyNode} {node child : PropertyNode} {path : List ℕ} {i : ℕ}

theorem getAt_append {path' : List ℕ} :
    node.getAt (path ++ path') = (node.getAt path).bind (getAt path') := by
  induction path generalizing node with
  | nil => rfl
  | cons i path ih =>
    rw [List.cons_append, getAt, getAt, Option.bind_assoc]
    congr 1
    funext child
    exact ih

theorem modifyAt_append {path' : List ℕ} :
    modifyAt f (path ++ path') node = modifyAt (modifyAt f path') path node := by
  induction path generalizing node with
  | nil => rfl
  | cons i path ih =>
    rw [List.cons_append, modifyAt]
    congr 2
    funext child
    exact ih

end PropertyNode

open PropertyNode

/-- The tree around a place. -/
structure Hole (path : List ℕ) (plug : PropertyNode → PropertyNode) : Prop where
  getAt_plug : ∀ node, (plug node).getAt path = some node
  /-- a change there is a change of what is there -/
  modifyAt_plug : ∀ node f, modifyAt f path (plug node) = plug (f node)

theorem Hole.nil : Hole [] id := ⟨fun _ => rfl, fun _ _ => rfl⟩

theorem Hole.snoc {path : List ℕ} {plug : PropertyNode → PropertyNode} (h : Hole path plug)
    (node : PropertyNode) : Hole (path ++ [node.children.length])
      fun child => plug { node with children := node.children ++ [child] } where
  getAt_plug child := by
    rw [getAt_append, h.getAt_plug]
    simp [getAt]
  modifyAt_plug child f := by
    rw [modifyAt_append, h.modifyAt_plug, modifyAt, modify_snoc, modifyAt]

/-! ## The callbacks follow the reader -/

/-- Where a reader works: the depth, the place with the stack, and what is around it. -/
structure Frame : Type where
  level : ℤ
  ignoreVersion : Bool
  nSubscriptions : ℕ
  /-- `m_currentNode` -/
  place : Place
  nodes : List Place
  root : ParserRoot → PropertyNode
  plug : PropertyNode → PropertyNode

namespace Frame

variable (c : Frame) (r : Reader)

def roots (node : PropertyNode) : ParserRoot → PropertyNode :=
  Function.update c.root c.place.root (c.plug node)

def parser : SubscriptionParser where
  level := c.level
  ignoreVersion := c.ignoreVersion
  expectValue := r.expectValue
  ignore := false
  nSubscriptions := c.nSubscriptions
  currentValueType := r.currentValueType
  currentNode := some c.place
  temporaryValue := r.temporaryValue
  optionString := r.optionString
  nodes := c.nodes
  root := c.roots r.node
  halt := none

def child : Frame where
  level := c.level + 1
  ignoreVersion := c.ignoreVersion
  nSubscriptions := c.nSubscriptions
  place := ⟨c.place.root, c.place.path ++ [r.node.children.length]⟩
  nodes := c.place :: c.nodes
  root := c.root
  plug := fun node => c.plug { r.node with children := r.node.children ++ [node] }

def up : Frame := { c with level := c.level - 1 }

def down : Frame := { c with level := c.level + 1 }

theorem level_child : (c.child r).level = c.level + 1 := rfl

theorem level_down : c.down.level = c.level + 1 := rfl

end Frame

structure Ignores (level : ℤ) (ignoreVersion : Bool) (nSubscriptions : ℕ)
    (currentValueType : ValueType) (root : ParserRoot → PropertyNode)
    (s : SubscriptionParser) : Prop where
  halt_eq : s.halt = none
  ignore_eq : s.ignore = true
  level_eq : s.level = level
  ignoreVersion_eq : s.ignoreVersion = ignoreVersion
  nSubscriptions_eq : s.nSubscriptions = nSubscriptions
  currentValueType_eq : s.currentValueType = currentValueType
  root_eq : s.root = root

inductive Follows (c : Frame) (r : Reader) : SubscriptionParser → Prop where
  /-- it is at the place -/
  | reading (h : r.mode = .reading) : Follows c r (c.parser r)
  /-- it passes over what comes, at a depth that is one too low -/
  | ignoring {s : SubscriptionParser} (h : r.mode = .ignoring)
      (hs : Ignores (c.level - 1) c.ignoreVersion c.nSubscriptions r.currentValueType
        (c.roots r.node) s) : Follows c r s
  | stopped {s : SubscriptionParser} (h : r.mode = .stopped) (hs : s.halt.isSome) :
      Follows c r s

namespace SubscriptionParser

/-! ### While it ignores -/

section ignores

variable {level : ℤ} {ignoreVersion : Bool} {nSubscriptions : ℕ} {currentValueType : ValueType}
  {root : ParserRoot → PropertyNode} {s : SubscriptionParser}

theorem ignores_characterData (text : String)
    (h : Ignores level ignoreVersion nSubscriptions currentValueType root s) :
    Ignores level ignoreVersion nSubscriptions currentValueType root
      (handler.characterData text s) := by
  show Ignores _ _ _ _ _ (characterData text s)
  rw [characterData]
  split_ifs
  · exact h
  · exact { h with }
  · exact h

theorem ignores_elementStart (hlevel : 2 ≤ level) (name : String) (attributes : Attributes)
    (h : Ignores level ignoreVersion nSubscriptions currentValueType root s) :
    Ignores (level + 1) ignoreVersion nSubscriptions currentValueType root
      (handler.elementStart name attributes s) := by
  have heq := h.level_eq
  have hequal : handler.elementStart name attributes s = { s with level := s.level + 1 } := by
    show elementStart name attributes s = _
    rw [elementStart, if_neg (by simp [h.halt_eq]), if_neg (by omega), if_neg (by omega),
      if_pos ⟨by omega, h.ignore_eq⟩]
  rw [hequal]
  exact { h with level_eq := by rw [heq] }

theorem ignores_elementEnd (hlevel : 1 ≤ level) (name : String)
    (h : Ignores level ignoreVersion nSubscriptions currentValueType root s) :
    Ignores (level - 1) ignoreVersion nSubscriptions currentValueType root
      (elementEnd name s) := by
  have hlevel' := h.level_eq
  have hequal : elementEnd name s = { s with level := s.level - 1, expectValue := false } := by
    rw [elementEnd, if_neg (by simp [h.halt_eq])]
    dsimp only
    rw [if_neg (by omega), if_pos h.ignore_eq]
  rw [hequal]
  exact { h with level_eq := by rw [← h.level_eq] }

theorem feed_ignores {content : Content} (hlevel : 2 ≤ level)
    (h : Ignores level ignoreVersion nSubscriptions currentValueType root s) :
    Ignores level ignoreVersion nSubscriptions currentValueType root (handler.feed content s) := by
  induction content generalizing level s with
  | nil => exact h
  | text t rest ih => exact ih hlevel (ignores_characterData t h)
  | element name attributes content rest ihcontent ihrest =>
    have hstart := ignores_elementStart hlevel name attributes h
    have hend := ignores_elementEnd (by omega) name (ihcontent (by omega) hstart)
    rw [Int.add_sub_cancel] at hend
    exact ihrest hlevel hend

end ignores

variable {c : Frame} {r b : Reader} {s : SubscriptionParser}

/-! ### Single callbacks in a frame -/

theorem modify_frame (hole : Hole c.place.path c.plug) {f : PropertyNode → PropertyNode} :
    (c.parser r).modify c.place f = c.parser { r with node := f r.node } := by
  simp only [modify, modifyRoot, Frame.parser, Frame.roots, Function.update_self,
    hole.modifyAt_plug, Function.update_idem]

theorem push_frame (hole : Hole c.place.path c.plug) {node : PropertyNode} :
    (c.parser r).push node = (c.child r).parser (r.child node) := by
  have hplace : (c.parser r).nextPlace c.place = (c.child r).place := by
    simp only [nextPlace, Frame.parser, Frame.roots, Function.update_self, hole.getAt_plug,
      Option.elim_some, Frame.child]
  have hcurrent : (c.parser r).currentNode = some c.place := rfl
  rw [push, hcurrent]
  dsimp only
  rw [modify_frame hole, hplace]
  rfl

theorem characterData_frame {text : String} (h : r.mode = .reading) :
    characterData text (c.parser r) = c.parser (r.characterData text) := by
  by_cases hexpect : r.expectValue = true ∧ r.currentValueType ≠ .none
  · simp [characterData, Reader.characterData, Frame.parser, h, hexpect]
  · simp only [characterData, Reader.characterData, Frame.parser, h, hexpect, Option.isSome_none,
      Bool.false_eq_true, if_false, and_false]

/-- The end of an element while it reads: the parser halts, or it has written the value,
and the stack is to be popped. -/
theorem elementEnd_frame (hole : Hole c.place.path c.plug) (hlevel : 1 ≤ c.level)
    (h : r.mode = .reading) {name : String} :
    (r.leave.mode = .stopped ∧ (elementEnd name (c.parser r)).halt.isSome) ∨
      (r.leave.mode = .reading ∧ elementEnd name (c.parser r) =
        let s := c.up.parser { r.leave with temporaryValue := r.temporaryValue }
        let s := if name = "property" ∨ name = "parameter" ∨ name = "filter" then s.pop else s
        { s with temporaryValue := "" }) := by
  have hbegin : elementEnd name (c.parser r) =
      let s := (c.up.parser { r with expectValue := false }).writeValue
      if s.halt.isSome then s
      else
        let s := if name = "property" ∨ name = "parameter" ∨ name = "filter" then s.pop else s
        { s with temporaryValue := "" } := by
    rw [elementEnd, if_neg (by simp [Frame.parser])]
    rw [if_neg (by simp only [Frame.parser]; omega)]
    rfl
  rw [hbegin, Reader.leave, if_pos h, writeValue]
  have htype : (c.up.parser { r with expectValue := false }).currentValueType =
      r.currentValueType := rfl
  have htext : (c.up.parser { r with expectValue := false }).temporaryValue =
      r.temporaryValue := rfl
  have hcurrent : (c.up.parser { r with expectValue := false }).currentNode =
      some c.up.place := rfl
  rw [htype, htext, hcurrent]
  rcases valueFrom r.currentValueType r.temporaryValue with halt | - | value
  · exact Or.inl ⟨rfl, rfl⟩
  · exact Or.inr ⟨h, rfl⟩
  · refine Or.inr ⟨h, ?_⟩
    dsimp only
    rw [modify_frame (c := c.up) hole]
    rfl

theorem elementEnd_of_halt {name : String} (h : s.halt.isSome) : elementEnd name s = s :=
  if_pos h

theorem follows_close (hole : Hole c.place.path c.plug) (hlevel : 3 ≤ c.level)
    (h : Follows (c.child r) b s) {name : String}
    (hname : name = "property" ∨ name = "parameter" ∨ name = "filter") :
    Follows c (r.close b) (elementEnd name s) := by
  have hlevel' : 1 ≤ (c.child r).level := by
    rw [Frame.level_child]
    omega
  cases h with
  | reading h =>
    rcases elementEnd_frame (hole.snoc r.node) hlevel' h with ⟨hmode, hhalt⟩ | ⟨hmode, hend⟩
    · exact .stopped hmode hhalt
    · have hequal : elementEnd name ((c.child r).parser b) = c.parser (r.close b) := by
        have htext := Reader.temporaryValue_leave h hmode
        have hup : (c.child r).up.level = c.level := Int.add_sub_cancel c.level 1
        rw [hend, Reader.close, if_pos hmode]
        simp only [if_pos hname, Frame.parser, pop, Frame.up, Frame.child, htext] at hup ⊢
        rw [hup]
        rfl
      rw [hequal]
      exact .reading hmode
  | ignoring h hs =>
    have hne : b.mode ≠ .reading := by rw [h]; decide
    rw [Reader.close_of_ne hne]
    refine .ignoring h ?_
    have hend := ignores_elementEnd (by rw [Frame.level_child]; omega) name hs
    exact { hend with level_eq := by rw [hend.level_eq, Frame.level_child, Int.add_sub_cancel] }
  | stopped h hs =>
    have hne : b.mode ≠ .reading := by rw [h]; decide
    rw [Reader.close_of_ne hne, elementEnd_of_halt hs]
    exact .stopped h hs

theorem follows_leave (hole : Hole c.place.path c.plug) (hlevel : 1 ≤ c.level)
    (h : Follows c.down b s) {name : String}
    (hname : ¬ (name = "property" ∨ name = "parameter" ∨ name = "filter")) :
    Follows c b.leave (elementEnd name s) := by
  cases h with
  | reading h =>
    have hlevel' : 1 ≤ c.down.level := by
      rw [Frame.level_down]
      omega
    rcases elementEnd_frame (c := c.down) hole hlevel' h with ⟨hmode, hhalt⟩ | ⟨hmode, hend⟩
    · exact .stopped hmode hhalt
    · have hequal : elementEnd name (c.down.parser b) = c.parser b.leave := by
        have htext := Reader.temporaryValue_leave h hmode
        have hup : c.level + 1 - 1 = c.level := Int.add_sub_cancel c.level 1
        rw [hend]
        dsimp only
        rw [if_neg hname]
        simp only [Frame.parser, Frame.up, Frame.down, htext, hup]
      rw [hequal]
      exact .reading hmode
  | ignoring h hs =>
    have hne : b.mode ≠ .reading := by rw [h]; decide
    rw [Reader.leave_of_ne hne]
    refine .ignoring h ?_
    have hend := ignores_elementEnd (by rw [Frame.level_down]; omega) name hs
    exact { hend with level_eq := by rw [hend.level_eq, Frame.level_down, Int.add_sub_cancel] }
  | stopped h hs =>
    have hne : b.mode ≠ .reading := by rw [h]; decide
    rw [Reader.leave_of_ne hne, elementEnd_of_halt hs]
    exact .stopped h hs

theorem elementStart_frame (hlevel : 3 ≤ c.level) {name : String} {attributes : Attributes} :
    elementStart name attributes (c.parser r) = (c.parser r).startInner name attributes := by
  have hlevel' : (c.parser r).level = c.level := rfl
  rw [elementStart, if_neg (by simp [Frame.parser]), if_neg (by omega), if_neg (by omega),
    if_neg (by simp [Frame.parser]), if_neg (by omega), if_pos (by omega)]

theorem follows_characterData (t : String) (h : Follows c r s) :
    Follows c (r.characterData t) (handler.characterData t s) := by
  cases h with
  | reading h =>
    have hequal : handler.characterData t (c.parser r) = c.parser (r.characterData t) :=
      characterData_frame h
    rw [hequal]
    refine .reading ?_
    rw [Reader.characterData]
    split_ifs
    · exact h
    · exact h
  | ignoring h hs =>
    rw [Reader.characterData_of_ne (by rw [h]; decide)]
    exact .ignoring h (ignores_characterData t hs)
  | stopped h hs =>
    rw [Reader.characterData_of_ne (by rw [h]; decide)]
    refine .stopped h ?_
    have hequal : handler.characterData t s = s := if_pos hs
    rwa [hequal]

theorem follows_element {name : String} {attributes : Attributes} {content : Content}
    (hole : Hole c.place.path c.plug) (hlevel : 3 ≤ c.level) (h : r.mode = .reading)
    (hcontent : ∀ {c : Frame} {r : Reader} {s : SubscriptionParser}, Hole c.place.path c.plug →
      3 ≤ c.level → Follows c r s → Follows c (Reader.read content r) (handler.feed content s)) :
    Follows c (r.element name attributes (Reader.read content))
      (elementEnd name (handler.feed content ((c.parser r).startInner name attributes))) := by
  rw [Reader.element, if_neg (by rw [h]; decide), startInner]
  split_ifs with hparameter hfilter hproperty
  · -- a parameter or a property
    rcases valueTypeOf attributes with - | type
    · rw [feed_of_halt rfl]
      exact .stopped rfl rfl
    · have hopen : ({ c.parser r with
          currentValueType := type
          temporaryValue := ""
          expectValue := true } : SubscriptionParser) =
          c.parser { r with
            currentValueType := type
            temporaryValue := ""
            expectValue := true } := rfl
      dsimp only
      rw [hopen, push_frame hole]
      refine follows_close hole hlevel ?_ (hparameter.symm.imp_right Or.inl)
      exact hcontent (hole.snoc r.node) (by rw [Frame.level_child]; omega) (.reading h)
  · -- a filter
    have hopen : ({ c.parser r with
        optionString := (attributes.value? "match").getD (c.parser r).optionString } :
          SubscriptionParser) =
        c.parser { r with
          optionString := (attributes.value? "match").getD r.optionString } := rfl
    rw [hopen, push_frame hole]
    refine follows_close hole hlevel ?_ (Or.inr (Or.inr hfilter))
    exact hcontent (hole.snoc r.node) (by rw [Frame.level_child]; omega) (.reading h)
  · -- a filter on a property: the node stays the same
    rcases attributes.value? "type" with - | fType
    · rw [feed_of_halt rfl]
      exact .stopped rfl rfl
    rcases attributes.value? "property" with - | fProperty
    · rw [feed_of_halt rfl]
      exact .stopped rfl rfl
    have hcurrent : (c.parser r).currentNode = some c.place := rfl
    rw [hcurrent]
    dsimp only
    rw [modify_frame hole, hproperty]
    have hpass : ¬ ("property-filter" = "property" ∨ "property-filter" = "parameter" ∨
        "property-filter" = "filter") := by decide
    have hinner := @hcontent c.down { r with
      node := r.node.addChild (propertyFilterNode r.optionString fType fProperty
        (attributes.value? "value")) } _ hole (by rw [Frame.level_down]; omega) (.reading h)
    exact follows_leave hole (by omega) hinner hpass
  · -- an unknown element: its start is not counted
    have hignores : Ignores c.level c.ignoreVersion c.nSubscriptions r.currentValueType
        (c.roots r.node) { c.parser r with ignore := true } :=
      ⟨rfl, rfl, rfl, rfl, rfl, rfl, rfl⟩
    refine .ignoring rfl ?_
    exact ignores_elementEnd (by omega) name (feed_ignores (by omega) hignores)

theorem feed_follows (content : Content) : ∀ {c : Frame} {r : Reader} {s : SubscriptionParser},
    Hole c.place.path c.plug → 3 ≤ c.level → Follows c r s →
      Follows c (Reader.read content r) (handler.feed content s) := by
  induction content with
  | nil => exact fun _ _ h => h
  | text t rest ih =>
    intro c r s hole hlevel h
    exact ih hole hlevel (follows_characterData t h)
  | element name attributes content rest ihcontent ihrest =>
    intro c r s hole hlevel h
    refine ihrest hole hlevel ?_
    cases h with
    | reading h =>
      have hstart : handler.elementStart name attributes (c.parser r) =
          (c.parser r).startInner name attributes := elementStart_frame hlevel
      rw [hstart]
      exact follows_element hole hlevel h ihcontent
    | ignoring h hs =>
      rw [Reader.element, if_pos (by rw [h]; decide)]
      have hlevel' : 2 ≤ c.level - 1 := by omega
      have hstart := ignores_elementStart hlevel' name attributes hs
      have hcontent := @feed_ignores _ _ _ _ _ _ content (by omega) hstart
      have hend := ignores_elementEnd (by omega) name hcontent
      rw [Int.add_sub_cancel] at hend
      exact .ignoring h hend
    | stopped h hs =>
      rw [Reader.element, if_pos (by rw [h]; decide)]
      refine .stopped h ?_
      have hstart : handler.elementStart name attributes s = s := if_pos hs
      rw [hstart, feed_of_halt hs]
      have hend : handler.elementEnd name s = s := if_pos hs
      rwa [hend]

end SubscriptionParser

end Dss
