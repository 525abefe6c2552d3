import Dss.BackReferences
import Dss.PropertyPath
import Dss.Transition

/-!
# Aliases in the property tree

The nodes of a property tree, with the pointers between them. A node is destroyed when nobody holds
it. A node may be made an alias of another one; the target keeps a list of its aliases, by way of
which its destructor takes the aliases back. `alias` enters a node in the list of its new target,
and leaves it in the one of the target that it had before.

An operation gives nothing where the source goes through a dangling pointer, fails an assertion
or does not return. Listeners, flags, privileges and the functions of a proxy are left out.
-/

namespace Dss

/-- `PropertyNode`, with pointers. -/
structure HeapNode : Type where
  name : String
  index : ℕ := 0
  /-- `m_PropVal` -/
  value : PropertyValue := .none
  /-- `IsLinkedToProxy()` -/
  linkedToProxy : Bool := false
  /-- `m_ParentNode` -/
  parent : Option ℕ := none
  /-- `m_ChildNodes` -/
  children : Option (List ℕ) := none
  aliasTarget : Option ℕ := none
  /-- `m_AliasedBy`, where the null pointer is an empty list -/
  aliasedBy : List ℕ := []

/-- The nodes that are alive, by their addresses. No address is used twice. -/
structure PropertyHeap : Type where
  nodes : ℕ → Option HeapNode
  next : ℕ

namespace PropertyHeap

/-! ## What the pointers are -/

/-- Whether the node is alive. -/
def isLive (h : PropertyHeap) (x : ℕ) : Bool := (h.nodes x).isSome

def aliasTarget (h : PropertyHeap) (x : ℕ) : Option ℕ := (h.nodes x).bind HeapNode.aliasTarget

def aliasedBy (h : PropertyHeap) (x : ℕ) : List ℕ := ((h.nodes x).map HeapNode.aliasedBy).getD []

def childNodes (h : PropertyHeap) (x : ℕ) : List ℕ :=
  ((h.nodes x).bind HeapNode.children).getD []

def parentNode (h : PropertyHeap) (x : ℕ) : Option ℕ := (h.nodes x).bind HeapNode.parent

def isLinkedToProxy (h : PropertyHeap) (x : ℕ) : Bool :=
  ((h.nodes x).map HeapNode.linkedToProxy).getD false

def modify (h : PropertyHeap) (x : ℕ) (f : HeapNode → HeapNode) : PropertyHeap :=
  { h with nodes := Function.update h.nodes x ((h.nodes x).map f) }

/-- The node that an alias stands for, and any other node itself: most functions begin by
calling themselves on `m_AliasTarget`. -/
def resolve (h : PropertyHeap) (x : ℕ) : Option ℕ :=
  (BackReferences.last h.aliasTarget h.next x).filter h.isLive

/-! ## Children -/

/-- The end of `removeChild`: `find`, `erase`, and the parent of the child is forgotten. -/
def eraseChild (h : PropertyHeap) (y c : ℕ) (children : List ℕ) : PropertyHeap :=
  (h.modify y fun n => { n with children := some (children.erase c) }).modify c fun n =>
    { n with parent := none }

def removeChild (h : PropertyHeap) (x c : ℕ) : Option PropertyHeap :=
  (h.resolve x).map fun y =>
    match (h.nodes y).bind HeapNode.children with
    | none => h
    | some children => h.eraseChild y c children

/-- The index `addChild` gives a child. -/
def nextIndex (h : PropertyHeap) (y : ℕ) (name : String) : ℕ :=
  ((h.childNodes y).filterMap h.nodes).foldl
    (fun i n => if n.name = name then max (n.index + 1) i else i) 0

def nameOf (h : PropertyHeap) (x : ℕ) : String := ((h.nodes x).map HeapNode.name).getD ""

/-- The end of `addChild`. -/
def appendChild (h : PropertyHeap) (y c : ℕ) : PropertyHeap :=
  let index := h.nextIndex y (h.nameOf c)
  (h.modify c fun n => { n with parent := some y, index := index }).modify y fun n =>
    { n with children := some (n.children.getD [] ++ [c]) }

def addChild (h : PropertyHeap) (x c : ℕ) : Option (PropertyHeap × Option Exception) :=
  (h.resolve x).bind fun y =>
    if c = y then some (h, some (.runtimeError "Adding self as child node"))
    else
      match h.parentNode c with
      | none => some (h.appendChild y c, none)
      | some p => (h.removeChild p c).map fun h => (h.appendChild y c, none)

def getPropertyByName (h : PropertyHeap) (y : ℕ) (part : String) : Option ℕ :=
  let (index, name) := PropertyNode.getAndRemoveIndexFromPropertyName part
  match (h.childNodes y).find? fun c =>
      (h.nodes c).any fun n => n.name = name ∧ (n.index : ℤ) = index with
  | some c => some c
  | none =>
    if index = -1 then
      (h.childNodes y).reverse.find? fun c => (h.nodes c).any fun n => n.name = name
    else none

/-- `make_shared<PropertyNode>` -/
def makeNode (h : PropertyHeap) (name : String) : PropertyHeap :=
  { nodes := Function.update h.nodes h.next (some { name := name }), next := h.next + 1 }

/-- What `DS_REQUIRE` throws. -/
def emptyName : Exception := .runtimeError "Cannot create property with empty name."

/-- `createProperty`, with the parts of the path: the node, or what was thrown. -/
def createParts : PropertyHeap → ℕ → List String → Option (PropertyHeap × Except Exception ℕ)
  | h, x, [] => (h.resolve x).map fun y => (h, .ok y)
  | h, x, part :: parts =>
    (h.resolve x).bind fun y =>
      if PropertyNode.isSelf (part :: parts) then some (h, .ok y)
      else
        match h.getPropertyByName y part with
        | some c =>
          if parts = [] ∨ parts = [""] then some (h, .ok c) else createParts h c parts
        | none =>
          if PropertyNode.newName part = "" then some (h, .error emptyName)
          else
            match (h.makeNode (cString (PropertyNode.newName part))).addChild y h.next with
            | none => none
            | some (h', some ex) => some (h', .error ex)
            | some (h', none) =>
              if parts = [] ∨ parts = [""] then some (h', .ok h.next)
              else createParts h' h.next parts

def createProperty (h : PropertyHeap) (x : ℕ) (path : String) :
    Option (PropertyHeap × Except Exception ℕ) :=
  h.createParts x (PropertyNode.splitPath path)

/-! ## Aliases -/

/-- Strikes a node off the list of its target, and forgets the target. -/
def unlink (h : PropertyHeap) (x t : ℕ) : PropertyHeap :=
  (h.modify t fun n => { n with aliasedBy := n.aliasedBy.erase x }).modify x fun n =>
    { n with aliasTarget := none }

/-- Makes a node an alias, and enters it in the list of the target. -/
def link (h : PropertyHeap) (x t : ℕ) : PropertyHeap :=
  (h.modify x fun n => { n with value := .none, aliasTarget := some t }).modify t fun n =>
    { n with aliasedBy := n.aliasedBy ++ [x] }

/-- `alias`. A node that is not in the list of its target fails an assertion. -/
def aliasTo (h : PropertyHeap) (x : ℕ) (target : Option ℕ) :
    Option (PropertyHeap × Option Exception) :=
  if h.childNodes x ≠ [] then
    some (h, some (.runtimeError "Cannot alias node if it has children"))
  else if h.isLinkedToProxy x then
    some (h, some (.runtimeError "Cannot alias node if it is linked to a proxy"))
  else
    match target with
    | none =>
      match h.aliasTarget x with
      | none => some (h, none)
      | some t => if x ∈ h.aliasedBy t then some (h.unlink x t, none) else none
    | some t => some (h.link x t, none)

def linkToProxy (h : PropertyHeap) (x : ℕ) : PropertyHeap :=
  if h.isLinkedToProxy x ∨ (h.aliasTarget x).isSome then h
  else h.modify x fun n => { n with linkedToProxy := true }

/-! ## The destructor -/

/-- The loop that takes the aliases back: what `alias` does not strike off is erased here. An
exception leaves the destructor. -/
def unaliasLoop (x : ℕ) : ℕ → PropertyHeap → Option PropertyHeap
  | 0, h => some h
  | fuel + 1, h =>
    match h.aliasedBy x with
    | [] => some h
    | a :: as =>
      if h.isLive a then
        match h.aliasTo a none with
        | some (h', none) =>
          if as.length + 1 ≤ (h'.aliasedBy x).length then
            unaliasLoop x fuel (h'.modify x fun n => { n with aliasedBy := n.aliasedBy.tail })
          else unaliasLoop x fuel h'
        | _ => none
      else none

def leaveTarget (h : PropertyHeap) (x : ℕ) : Option PropertyHeap :=
  match h.aliasTarget x with
  | none => some h
  | some t => if x ∈ h.aliasedBy t then some (h.unlink x t) else none

def orphan (h : PropertyHeap) (children : List ℕ) : PropertyHeap :=
  children.foldl (fun h c => h.modify c fun n => { n with parent := none }) h

/-- The destructor. A node that still has a parent asks for a shared pointer to itself, which
throws. The children are destroyed after it, if nobody else holds them. -/
def destroy (h : PropertyHeap) (x : ℕ) : Option PropertyHeap :=
  if (h.parentNode x).isSome then none
  else
    match unaliasLoop x (h.aliasedBy x).length h with
    | none => none
    | some h =>
      (h.leaveTarget x).map fun h =>
        let h := h.orphan (h.childNodes x)
        { h with nodes := Function.update h.nodes x none }

/-! ## Runs -/

/-- What is done to the tree. -/
inductive Operation : Type where
  | createProperty (x : ℕ) (path : String)
  | addChild (x child : ℕ)
  | removeChild (x child : ℕ)
  /-- `alias(target)` -/
  | aliasTo (x : ℕ) (target : Option ℕ)
  | linkToProxy (x : ℕ)
  /-- the last one who holds the node lets it go -/
  | destroy (x : ℕ)
  deriving DecidableEq

def Operation.given : Operation → List ℕ
  | .createProperty x _ | .linkToProxy x | .destroy x => [x]
  | .addChild x child | .removeChild x child => [x, child]
  | .aliasTo x target => x :: target.toList

/-- Whether another node has it as a child. -/
def isOwned (h : PropertyHeap) (x : ℕ) : Bool :=
  (List.range h.next).any fun p => x ∈ h.childNodes p

/-- The state after an operation on nodes that are alive; a node that is owned is not
destroyed. -/
def perform (h : PropertyHeap) : Operation → Option PropertyHeap
  | .createProperty x path => (h.createProperty x path).map Prod.fst
  | .addChild x child => (h.addChild x child).map Prod.fst
  | .removeChild x child => h.removeChild x child
  | .aliasTo x target => (h.aliasTo x target).map Prod.fst
  | .linkToProxy x => some (h.linkToProxy x)
  | .destroy x => if h.isOwned x then some h else h.destroy x

/-- One operation; nothing is done with nodes that are gone, and nothing behind a crash. -/
def step (s : Option PropertyHeap) (op : Operation) : Option PropertyHeap :=
  s.bind fun h => if op.given.all h.isLive then h.perform op else some h

def start : PropertyHeap :=
  { nodes := fun x => if x = 0 then some { name := "/" } else none, next := 1 }

/-- What the registration promises: a node is registered exactly once with its target, and
nowhere else; what is registered is alive, and so are the targets; and no chain of aliases is a
cycle. -/
structure Law (h : PropertyHeap) : Prop where
  registered : ∀ x t, h.isLive x = true → h.isLive t = true →
    (h.aliasedBy t).count x = if h.aliasTarget x = some t then 1 else 0
  aliasedBy_live : ∀ x t, x ∈ h.aliasedBy t → h.isLive x = true
  target_live : ∀ x t, h.aliasTarget x = some t → h.isLive t = true
  acyclic : BackReferences.Acyclic h.aliasTarget

/-- The law, where nothing has crashed. -/
def Lawful (s : Option PropertyHeap) : Prop := ∃ h, s = some h ∧ h.Law

/-- A node that may be made an alias is none yet, and its new target does not lead back to
it. -/
def Fits (s : Option PropertyHeap) : Operation → Prop
  | .aliasTo x (some t) => ∀ h, s = some h → h.isLive x = true → h.isLive t = true →
      h.childNodes x = [] → h.isLinkedToProxy x = false →
        h.aliasTarget x = none ∧ ¬ BackReferences.Reaches h.aliasTarget t x
  | _ => True

end PropertyHeap

end Dss
