import Dss.Numbers
import Dss.SubscriptionParser
import Dss.XmlText

/-!
# Property trees in files

A property node is written with its children as elements below elements. Its name stands in an
attribute, with an index where siblings have the same name, as do the flags that are set; the value
stands in an element of its own. The parser takes what stands before a bracket for the name, and
the slashes in it for a path. A node that is there already is taken again.

Aliases, proxies and listeners are left out. A node is a place in the tree instead of a pointer.
-/

namespace Dss

namespace PropertyTree

open Xml

/-! ## Trees -/

/-- `m_Flags`, as they are in a new node. -/
structure Flags : Type where
  readable : Bool := true
  writeable : Bool := true
  archive : Bool := false
  deriving DecidableEq

/-- `PropertyNode`, without its children. -/
structure NodeData : Type where
  name : String
  index : ℕ := 0
  /-- `m_PropVal` -/
  value : PropertyValue := .none
  flags : Flags := {}
  /-- whether `m_ChildNodes` is there, be it empty -/
  hasChildNodes : Bool := false

inductive Nodes : Type where
  /-- none -/
  | nil : Nodes
  | cons : (data : NodeData) → (children rest : Nodes) → Nodes

structure Tree : Type where
  data : NodeData
  children : Nodes

namespace Nodes

def count (name : String) : Nodes → ℕ
  | nil => 0
  | cons data _ rest => (if data.name = name then 1 else 0) + rest.count name

def length : Nodes → ℕ
  | nil => 0
  | cons _ _ rest => rest.length + 1

/-- The index `addChild` gives to a new node: one more than the highest of its name. -/
def nextIndex (name : String) : Nodes → ℕ
  | nil => 0
  | cons data _ rest =>
    max (if data.name = name then data.index + 1 else 0) (rest.nextIndex name)

/-- Where `getPropertyByName` finds a node, for a name without a bracket. -/
def position (name : String) : Nodes → Option ℕ
  | nil => none
  | cons data _ rest =>
    if data.name = name ∧ data.index = 0 then some 0 else (rest.position name).map (· + 1)

def get? : ℕ → Nodes → Option Tree
  | _, nil => none
  | 0, cons data children _ => some ⟨data, children⟩
  | i + 1, cons _ _ rest => rest.get? i

def modify (f : Tree → Tree) : ℕ → Nodes → Nodes
  | _, nil => nil
  | 0, cons data children rest =>
    cons (f ⟨data, children⟩).data (f ⟨data, children⟩).children rest
  | i + 1, cons data children rest => cons data children (rest.modify f i)

example (f : Tree → Tree) (i : ℕ) : nil.modify f i = nil := by rw [modify]

def append (node : Tree) : Nodes → Nodes
  | nil => cons node.data node.children nil
  | cons data children rest => cons data children (rest.append node)

end Nodes

namespace Tree

/-- `addChild` of a new node. -/
def addChild (name : String) (t : Tree) : Tree where
  data := { t.data with hasChildNodes := true }
  children := t.children.append ⟨{ name := name, index := t.children.nextIndex name }, .nil⟩

def modifyChild (f : Tree → Tree) (i : ℕ) (t : Tree) : Tree :=
  { t with children := t.children.modify f i }

def getAt : List ℕ → Tree → Option Tree
  | [], t => some t
  | i :: path, t => (t.children.get? i).bind (getAt path)

def modifyAt (f : Tree → Tree) : List ℕ → Tree → Tree
  | [], t => f t
  | i :: path, t => t.modifyChild (modifyAt f path) i

def setValue (value : PropertyValue) (t : Tree) : Tree :=
  { t with data := { t.data with value := value } }

end Tree

/-! ## Writing -/

/-- The control codes that `XMLStringEscape` handles. -/
def isControl (c : Char) : Bool :=
  (c.toNat ≤ 0x1f && c ≠ '\x09' && c ≠ '\x0d' && c ≠ '\x0a') || c.toNat = 0x7f

/-- One character of `XMLStringEscape`. A control code is written with two digits, of which the
first one is no digit from 100 on. -/
def escapeChar (c : Char) : List Char :=
  if c = '<' then "&lt;".toList
  else if c = '>' then "&gt;".toList
  else if c = '&' then "&amp;".toList
  else if c = '"' then "&quot;".toList
  else if c = '\'' then "&apos;".toList
  else if isControl c then
    ['&', '#', Char.ofNat (c.toNat / 10 + 48), Char.ofNat (c.toNat % 10 + 48), ';']
  else [c]

/-- `XMLStringEscape`: behind a control code what comes next is passed over, which is the first
byte of a character, or lies behind the end. -/
def escape : List Char → List Char
  | [] => []
  | [c] => escapeChar c
  | c :: d :: cs =>
    if isControl c then escapeChar c ++ escape cs else escapeChar c ++ escape (d :: cs)

/-- `XMLStringEscape` of a text. -/
def xmlStringEscape (text : String) : String := String.ofList (escape text.toList)

def doIndent : ℕ → String
  | 0 => ""
  | n + 1 => "    " ++ doIndent n

def valueType : PropertyValue → ValueType
  | .none => .none
  | .integer _ => .integer
  | .unsigned _ => .unsignedInteger
  | .boolean _ => .boolean
  | .string _ => .string
  | .floating _ => .floating

def getValueTypeAsString : ValueType → String
  | .none => "none"
  | .integer => "integer"
  | .unsignedInteger => "unsignedinteger"
  | .string => "string"
  | .boolean => "boolean"
  | .floating => "floating"

/-- How a `double` is written and read. -/
structure DoubleText : Type where
  /-- `doubleToString`, with 12 digits -/
  doubleToString : Float → String
  strtod : String → Float
  /-- digits, a sign, a point, an exponent; or a word for what is no number -/
  plain : ∀ x, ∀ c ∈ (doubleToString x).toList, c.isAlphanum ∨ c = '.' ∨ c = '+' ∨ c = '-'

def NodeData.getAsString (io : DoubleText) (d : NodeData) : String :=
  PropertyNode.getAsString io.doubleToString { name := d.name, index := d.index, value := d.value }

/-- `getDisplayName`, with the index if there are siblings of the name. -/
def NodeData.getDisplayName (d : NodeData) (several : Bool) : String :=
  if several then d.name ++ "[" ++ toString d.index ++ "]" else d.name

def Flags.attributes (flags : Flags) : Attributes :=
  (if flags.archive then [("archive", "true")] else []) ++
    (if flags.readable then [("readable", "true")] else []) ++
    if flags.writeable then [("writeable", "true")] else []

def NodeData.attributes (name : String) (d : NodeData) : Attributes :=
  ("type", getValueTypeAsString (valueType d.value)) :: ("name", name) :: d.flags.attributes

section Writing

variable (io : DoubleText) (attr text : String → String)

def NodeData.valueContent (d : NodeData) (indent : ℕ) (rest : Content) : Content :=
  match valueType d.value with
  | .none => rest
  | _ => .text (doIndent indent)
      (.element "value" [] (.text (text (d.getAsString io)) .nil) (.text "\n" rest))

def NodeData.isEmptyElement (d : NodeData) (children : Nodes) : Bool :=
  d.hasChildNodes && decide (children.length = 0) && decide (valueType d.value = .none)

def NodeData.content (d : NodeData) (indent : ℕ) (children : Nodes) (written : Content → Content) :
    Content :=
  if d.isEmptyElement children then .nil
  else
    .text "\n" (d.valueContent io text (indent + 1) (written (.text (doIndent indent) .nil)))

/-- `saveChildrenAsXML` for all children of a node, given what is done to names and to values. -/
def Nodes.content (siblings : Nodes) (indent : ℕ) : Nodes → Content → Content
  | nil, more => more
  | cons d children rest, more =>
    .text (doIndent indent)
      (.element "property" (d.attributes (attr (d.getDisplayName (1 < siblings.count d.name))))
        (d.content io text indent children (Nodes.content children (indent + 1) children))
        (.text "\n" (Nodes.content siblings indent rest more)))

def Tree.document (t : Tree) (several : Bool) : Document where
  name := "properties"
  attributes := [("version", "1")]
  content := .text "\n" (.text (doIndent 1)
    (.element "property" (t.data.attributes (attr (t.data.getDisplayName several)))
      (t.data.content io text 1 t.children
        (Nodes.content io attr text t.children 2 t.children))
      (.text "\n" .nil)))

end Writing

/-- `saveToXML`: the document it writes. -/
def saveToXML (io : DoubleText) (t : Tree) (several : Bool) : Document :=
  t.document io xmlStringEscape xmlStringEscape several

/-! ## Parsing -/

/-- `PropertyParser`, with the tree it adds to. -/
structure PropertyParser : Type where
  level : ℤ := 0
  ignoreVersion : Bool := false
  expectValue : Bool := false
  ignore : Bool := false
  currentValueType : ValueType := .none
  temporaryValue : String := ""
  currentNode : List ℕ := []
  /-- `m_nodes`, the top first -/
  nodes : List (List ℕ) := [[]]
  root : Tree
  /-- `m_forceStop`, and what is undefined -/
  halt : Option Halt := none

def partsOf (name : String) : List String :=
  (name.toList.splitOn '/').map fun part => String.ofList (part.takeWhile (· ≠ '['))

/-- One turn of the loop over the parts, from the node at a place. On level 1 the root itself may
be meant. -/
def enter (level : ℤ) (current : List ℕ) (p : List ℕ × Tree) (part : String) : List ℕ × Tree :=
  if level = 1 ∧ (p.2.getAt current).map (·.data.name) = some part then (current, p.2)
  else
    match p.2.getAt p.1 with
    | none => p
    | some node =>
      match node.children.position part with
      | some i => (p.1 ++ [i], p.2)
      | none => (p.1 ++ [node.children.length], p.2.modifyAt (·.addChild part) p.1)

def setFlags (attributes : Attributes) (t : Tree) : Tree :=
  { t with data := { t.data with flags :=
    { readable := (attributes.value? "readable").elim t.data.flags.readable (· = "true")
      writeable := (attributes.value? "writable").elim t.data.flags.writeable (· = "true")
      archive := (attributes.value? "archive").elim t.data.flags.archive (· = "true") } } }

namespace PropertyParser

def stop (s : PropertyParser) (halt : Halt) : PropertyParser := { s with halt := some halt }

/-- `PROPERTY_FORMAT_VERSION` -/
def formatVersion : ℤ := 1

/-- Whether the loop over the attributes of the root goes on to the end, and has met a
version. -/
def versionFits (attributes : Attributes) : Bool :=
  (attributes.any fun a => a.1 = "version") &&
    attributes.all fun a => a.1 ≠ "version" || (parseInt? a.2).getD (-1) == formatVersion

def startRoot (s : PropertyParser) (name : String) (attributes : Attributes) : PropertyParser :=
  let s := { s with expectValue := false }
  if name ≠ "properties" then s.stop .forceStop
  else if !s.ignoreVersion && !versionFits attributes then s.stop .forceStop
  else { s with level := s.level + 1 }

def startProperty (s : PropertyParser) (attributes : Attributes) : PropertyParser :=
  let s := { s with currentValueType := .none }
  match attributes.value? "name" with
  | none => s.stop .forceStop
  | some propName =>
    match (attributes.value? "type").elim (some .none) getValueTypeFromString with
    | none => s.stop .assertion
    | some type =>
      let p := (partsOf propName).foldl (enter s.level s.currentNode) (s.currentNode, s.root)
      { s with
        currentValueType := type
        root := p.2.modifyAt (setFlags attributes) p.1
        nodes := s.currentNode :: s.nodes
        currentNode := p.1
        level := s.level + 1 }

def startInner (s : PropertyParser) (name : String) (attributes : Attributes) : PropertyParser :=
  if name = "property" then s.startProperty attributes
  else if name = "value" then
    if s.currentValueType = .none then s.stop .forceStop
    else { s with expectValue := true, level := s.level + 1 }
  else { s with level := s.level + 1 }

def elementStart (name : String) (attributes : Attributes) (s : PropertyParser) : PropertyParser :=
  if s.halt.isSome then s
  else if s.level = 0 then s.startRoot name attributes
  else if s.level = 1 then
    let s := { s with expectValue := false, currentValueType := .none }
    if name ≠ "property" then { s with ignore := true, level := s.level + 1 }
    else { s with ignore := false }.startInner name attributes
  else if 1 < s.level ∧ s.ignore then { s with level := s.level + 1 }
  else s.startInner name attributes

def valueFrom (io : DoubleText) (type : ValueType) (text : String) : Except Halt PropertyValue :=
  match type with
  | .string => .ok (.string text)
  | .integer =>
    match parseInt? text with
    | some i => .ok (.integer i)
    | none => .error .forceStop
  | .unsignedInteger =>
    match parseUInt? text with
    | some n => .ok (.unsigned n)
    | none => .error .forceStop
  | .boolean => .ok (.boolean (text == "true"))
  | .floating => .ok (.floating (io.strtod text))
  | .none => .error .forceStop

def elementEnd (io : DoubleText) (name : String) (s : PropertyParser) : PropertyParser :=
  if s.halt.isSome then s
  else
    let s := { s with level := s.level - 1 }
    if s.level < 0 then s.stop .forceStop
    else
      let s := { s with expectValue := false }
      if s.ignore then s
      else if name = "property" then
        match s.nodes with
        | [] => s.stop .emptyStack
        | place :: nodes =>
          { s with currentNode := place, nodes := nodes, currentValueType := .none,
                   temporaryValue := "" }
      else if name = "value" then
        match valueFrom io s.currentValueType s.temporaryValue with
        | .error halt => s.stop halt
        | .ok value =>
          { s with root := s.root.modifyAt (Tree.setValue value) s.currentNode,
                   temporaryValue := "" }
      else { s with temporaryValue := "" }

def characterData (text : String) (s : PropertyParser) : PropertyParser :=
  if s.halt.isSome then s
  else if s.expectValue = true ∧ s.currentValueType ≠ .none then
    { s with temporaryValue := s.temporaryValue ++ text }
  else s

def handler (io : DoubleText) : Handler PropertyParser where
  elementStart := elementStart
  elementEnd := elementEnd io
  characterData := characterData

end PropertyParser

/-- `loadFromXML` of a file that is well-formed, into a node: the answer, and the node. -/
def loadFromXML (io : DoubleText) (document : Document) (root : Tree) : Bool × Tree :=
  let s := (PropertyParser.handler io).parse document { root := root }
  (s.halt.isNone, s.root)

end PropertyTree

end Dss
