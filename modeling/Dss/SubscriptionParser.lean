import Dss.PropertyPath
import Dss.Xml

/-!
# The parser of subscription files

The callbacks that make property nodes of a subscription file. The depth is a counter: the root is
left with 1, the first entry below it moves it from 1 to 3 and back to 2, and the others start at
2. Elements that are not known set a flag, and what then comes is passed over.

A node is given by its place below one of the two roots. Where a stack is popped when it is empty,
or a null pointer is used, the parser halts.
-/

namespace Dss

open Xml

/-- `aValueType` -/
inductive ValueType : Type where
  /-- `vTypeNone` -/
  | none : ValueType
  /-- `vTypeInteger` -/
  | integer : ValueType
  /-- `vTypeUnsignedInteger` -/
  | unsignedInteger : ValueType
  /-- `vTypeBoolean` -/
  | boolean : ValueType
  /-- `vTypeString` -/
  | string : ValueType
  /-- `vTypeFloating` -/
  | floating : ValueType
  deriving DecidableEq

/-- `getValueTypeFromString`, which ends in an assertion for another text. -/
def getValueTypeFromString (text : String) : Option ValueType :=
  if text = "none" then some .none
  else if text = "integer" then some .integer
  else if text = "unsignedinteger" then some .unsignedInteger
  else if text = "boolean" then some .boolean
  else if text = "string" then some .string
  else if text = "floating" then some .floating
  else none

namespace PropertyNode

def addChild (node child : PropertyNode) : PropertyNode :=
  { node with children := node.children ++ [{ child with index := node.nextIndex child.name }] }

def getAt : List ℕ → PropertyNode → Option PropertyNode
  | [], node => some node
  | i :: path, node => node.children[i]?.bind (getAt path)

def modifyAt (f : PropertyNode → PropertyNode) : List ℕ → PropertyNode → PropertyNode
  | [], node => f node
  | i :: path, node => { node with children := node.children.modify i (modifyAt f path) }

end PropertyNode

/-- Why the parser does nothing any more. -/
inductive Halt : Type where
  | forceStop : Halt
  | emptyStack : Halt
  | nullPointer : Halt
  | assertion : Halt
  deriving DecidableEq

inductive ParserRoot : Type where
  /-- `m_subscriptionNode` -/
  | subscriptions : ParserRoot
  /-- `m_statesNode` -/
  | states : ParserRoot
  deriving DecidableEq

structure Place : Type where
  root : ParserRoot
  path : List ℕ

/-- `SubscriptionParser`. The root nodes are there. -/
structure SubscriptionParser : Type where
  level : ℤ := 0
  ignoreVersion : Bool := false
  expectValue : Bool := false
  ignore : Bool := false
  nSubscriptions : ℕ := 0
  currentValueType : ValueType := .none
  currentNode : Option Place := none
  temporaryValue : String := ""
  optionString : String := ""
  /-- `m_nodes`, the top first -/
  nodes : List Place := []
  root : ParserRoot → PropertyNode
  /-- `m_forceStop`, and what is undefined -/
  halt : Option Halt := none

namespace SubscriptionParser

def stop (s : SubscriptionParser) (halt : Halt) : SubscriptionParser :=
  { s with halt := some halt }

def modifyRoot (s : SubscriptionParser) (root : ParserRoot) (f : PropertyNode → PropertyNode) :
    SubscriptionParser :=
  { s with root := Function.update s.root root (f (s.root root)) }

def modify (s : SubscriptionParser) (place : Place) (f : PropertyNode → PropertyNode) :
    SubscriptionParser :=
  s.modifyRoot place.root (PropertyNode.modifyAt f place.path)

def nextPlace (s : SubscriptionParser) (place : Place) : Place where
  root := place.root
  path := place.path ++
    [((s.root place.root).getAt place.path).elim 0 fun node => node.children.length]

/-! ## The start of an element -/

/-- `SUBSCRIPTION_FORMAT_VERSION` -/
def formatVersion : ℤ := 1

/-- Whether the loop over the attributes of the root goes on to the end, and has met a
version. -/
def versionFits (attributes : Attributes) : Bool :=
  (attributes.any fun a => a.1 = "version") &&
    attributes.all fun a => a.1 ≠ "version" || (parseInt? a.2).getD (-1) == formatVersion

def startRoot (s : SubscriptionParser) (name : String) (attributes : Attributes) :
    SubscriptionParser :=
  let s := { s with expectValue := false }
  if name ≠ "subscriptions" then s.stop .forceStop
  else if !s.ignoreVersion && !versionFits attributes then s.stop .forceStop
  else { s with level := s.level + 1 }

def enter (s : SubscriptionParser) (root : ParserRoot) (node : PropertyNode) :
    SubscriptionParser :=
  { s.modifyRoot root (·.addChild node) with
    currentNode := some (s.nextPlace ⟨root, []⟩)
    level := s.level + 1 }

def subscriptionNode (number : ℕ) (eventName handlerName : String) : PropertyNode where
  name := toString number
  children :=
    [{ name := "event-name", value := .string eventName },
      { name := "handler-name", value := .string handlerName }]

def stateNode (stateName : String) : PropertyNode where
  name := stateName
  children := [{ name := "name", value := .string stateName }]

def startEntry (s : SubscriptionParser) (name : String) (attributes : Attributes) :
    SubscriptionParser :=
  let s := { s with optionString := "" }
  if name = "subscription" then
    match attributes.value? "event-name", attributes.value? "handler-name" with
    | some eventName, some handlerName =>
      { s with nSubscriptions := s.nSubscriptions + 1 }.enter .subscriptions
        (subscriptionNode (s.nSubscriptions + 1) eventName handlerName)
    | _, _ => s.stop .forceStop
  else if name = "state" then
    match attributes.value? "name" with
    | some stateName =>
      if ((s.root .states).position stateName).isSome then s.stop .forceStop
      else s.enter .states (stateNode stateName)
    | none => s.stop .forceStop
  else s.stop .forceStop

def push (s : SubscriptionParser) (node : PropertyNode) : SubscriptionParser :=
  match s.currentNode with
  | none => s.stop .nullPointer
  | some place =>
    { s.modify place (·.addChild node) with
      nodes := place :: s.nodes
      currentNode := some (s.nextPlace place)
      level := s.level + 1 }

def valueTypeOf (attributes : Attributes) : Option ValueType :=
  match attributes.value? "type" with
  | some text => getValueTypeFromString text
  | none => some .string

def parameterNode (name : String) (attributes : Attributes) : PropertyNode where
  name := (attributes.value? "name").getD name

def filterNode (optionString : String) : PropertyNode where
  name := "filter"
  value := .string optionString

def propertyFilterNode (optionString fType fProperty : String) (fValue : Option String) :
    PropertyNode where
  name := "property"
  children :=
    [{ name := "match", value := .string optionString },
      { name := "type", value := .string fType },
      { name := "property", value := .string fProperty }] ++
    fValue.toList.map fun value => { name := "value", value := .string value }

def startInner (s : SubscriptionParser) (name : String) (attributes : Attributes) :
    SubscriptionParser :=
  if name = "parameter" ∨ name = "property" then
    match valueTypeOf attributes with
    | none => s.stop .assertion
    | some type =>
      { s with
        currentValueType := type
        temporaryValue := ""
        expectValue := true }.push (parameterNode name attributes)
  else if name = "filter" then
    let s := { s with optionString := (attributes.value? "match").getD s.optionString }
    s.push (filterNode s.optionString)
  else if name = "property-filter" then
    match attributes.value? "type", attributes.value? "property" with
    | some fType, some fProperty =>
      match s.currentNode with
      | none => s.stop .nullPointer
      | some place =>
        { s.modify place (·.addChild
            (propertyFilterNode s.optionString fType fProperty (attributes.value? "value"))) with
          level := s.level + 1 }
    | _, _ => s.stop .forceStop
  else { s with ignore := true }

def elementStart (name : String) (attributes : Attributes) (s : SubscriptionParser) :
    SubscriptionParser :=
  if s.halt.isSome then s
  else if s.level = 0 then s.startRoot name attributes
  else if s.level = 1 then
    if name = "subscription" ∨ name = "state" then
      { s with
        expectValue := false
        ignore := false
        level := s.level + 1 }.startEntry name attributes
    else { s with expectValue := false, ignore := true }
  else if 1 < s.level ∧ s.ignore then { s with level := s.level + 1 }
  else if s.level = 2 then s.startEntry name attributes
  else if 3 ≤ s.level then s.startInner name attributes
  else s

/-! ## The end of an element, and text -/

def valueFrom (type : ValueType) (text : String) : Except Halt (Option PropertyValue) :=
  match type with
  | .string => .ok (some (.string text))
  | .integer =>
    match parseInt? text with
    | some i => .ok (some (.integer i))
    | none => .error .forceStop
  | .boolean => .ok (some (.boolean (text == "true")))
  | .none | .unsignedInteger | .floating => .ok none

/-- The text that was collected becomes the value of the current node. -/
def writeValue (s : SubscriptionParser) : SubscriptionParser :=
  match valueFrom s.currentValueType s.temporaryValue, s.currentNode with
  | .error halt, _ => s.stop halt
  | .ok none, _ => s
  | .ok (some _), none => s.stop .nullPointer
  | .ok (some value), some place => s.modify place fun node => { node with value := value }

def pop (s : SubscriptionParser) : SubscriptionParser :=
  match s.nodes with
  | [] => s.stop .emptyStack
  | place :: nodes =>
    { s with
      currentNode := some place
      nodes := nodes
      currentValueType := .none }

def elementEnd (name : String) (s : SubscriptionParser) : SubscriptionParser :=
  if s.halt.isSome then s
  else
    let s := { s with level := s.level - 1 }
    if s.level < 0 then s.stop .forceStop
    else
      let s := { s with expectValue := false }
      if s.ignore then s
      else
        let s := s.writeValue
        if s.halt.isSome then s
        else
          let s := if name = "property" ∨ name = "parameter" ∨ name = "filter" then s.pop else s
          { s with temporaryValue := "" }

def characterData (text : String) (s : SubscriptionParser) : SubscriptionParser :=
  if s.halt.isSome then s
  else if s.expectValue = true ∧ s.currentValueType ≠ .none then
    { s with temporaryValue := s.temporaryValue ++ text }
  else s

/-! ## Files -/

def handler : Handler SubscriptionParser where
  elementStart := elementStart
  elementEnd := elementEnd
  characterData := characterData

/-- `reinitMembers`, and what `parseFile` does to `m_forceStop`. -/
def reinitMembers (s : SubscriptionParser) (ignoreVersion : Bool) : SubscriptionParser :=
  { s with
    level := 0
    ignoreVersion := ignoreVersion
    expectValue := false
    ignore := false
    currentValueType := .none
    currentNode := none
    temporaryValue := ""
    nodes := []
    halt := none }

/-- `loadFromXML` of a file that is well-formed. -/
def loadFromXML (s : SubscriptionParser) (document : Document) (ignoreVersion : Bool) :
    SubscriptionParser :=
  handler.parse document (s.reinitMembers ignoreVersion)

theorem feed_of_halt {s : SubscriptionParser} (h : s.halt.isSome) (content : Content) :
    handler.feed content s = s :=
  Handler.feed_of_fixed (fun _ _ => if_pos h) (fun _ => if_pos h) (fun _ => if_pos h) content

end SubscriptionParser

end Dss
