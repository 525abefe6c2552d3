import Dss.Base
import Dss.Exception

/-!
# Property nodes

The part of `PropertyNode` the handlers use on plain nodes. The typed getters throw
`PropertyTypeMismatch` when the node holds a value of another type; `getAsString` never throws.

Of several children with one name a lookup by the bare name finds the one with index 0, whatever
its position; there may be none.
-/

namespace Dss

/-- What a handler can run into besides its result. -/
inductive Failure : Type where
  | exception : Exception → Failure
  | nullPointer : Failure
  deriving DecidableEq

namespace Failure

/-- Whether `catch (std::runtime_error&)` goes on after it. -/
def isCaught : Failure → Bool
  | exception e => e.isRuntimeError
  | nullPointer => false

end Failure

/-- The value of a node: `m_PropVal` with its `valueType`. -/
inductive PropertyValue : Type where
  /-- `vTypeNone` -/
  | none : PropertyValue
  /-- `vTypeInteger`, an `int` -/
  | integer : ℤ → PropertyValue
  /-- `vTypeUnsignedInteger` -/
  | unsigned : ℕ → PropertyValue
  /-- `vTypeBoolean` -/
  | boolean : Bool → PropertyValue
  /-- `vTypeString` -/
  | string : String → PropertyValue
  /-- `vTypeFloating` -/
  | floating : Float → PropertyValue

structure PropertyNode : Type where
  name : String
  /-- `m_Index`: which of the children with this name it was created as -/
  index : ℕ := 0
  /-- `m_PropVal` -/
  value : PropertyValue := .none
  /-- `m_ChildNodes` -/
  children : List PropertyNode := []

namespace PropertyNode

/-! ## Reading -/

def isNamed (name : String) (node : PropertyNode) : Bool :=
  node.name == name && node.index == 0

/-- `getPropertyByName`, and `getProperty` of a path that is a single name. -/
def getPropertyByName (node : PropertyNode) (name : String) : Option PropertyNode :=
  node.children.find? (isNamed name)

/-- `getProperty(parent)->getProperty(name)`, when the parent is there. -/
def getPropertyIn (node : PropertyNode) (parent name : String) : Option PropertyNode :=
  (node.getPropertyByName parent).bind (·.getPropertyByName name)

def mismatch (node : PropertyNode) : Failure :=
  .exception (.typeMismatch ("Property-Type mismatch: " ++ node.name))

def getStringValue (node : PropertyNode) : Except Failure String :=
  match node.value with
  | .string s => .ok s
  | _ => .error node.mismatch

def getIntegerValue (node : PropertyNode) : Except Failure ℤ :=
  match node.value with
  | .integer i => .ok i
  | _ => .error node.mismatch

def getBoolValue (node : PropertyNode) : Except Failure Bool :=
  match node.value with
  | .boolean b => .ok b
  | _ => .error node.mismatch

/-- `getAsString`; `doubleToString` is the stream output of a double. -/
def getAsString (doubleToString : Float → String) (node : PropertyNode) : String :=
  match node.value with
  | .none => ""
  | .integer i => toString i
  | .unsigned n => toString n
  | .boolean b => if b then "true" else "false"
  | .string s => s
  | .floating x => doubleToString x

theorem getStringValue_eq_error {node : PropertyNode} {f : Failure}
    (h : node.getStringValue = .error f) : f = node.mismatch := by
  unfold getStringValue at h
  split at h <;> cases h
  rfl

/-! ## Writing -/

/-- `setStringValue`: whatever the type was. -/
def setStringValue (node : PropertyNode) (text : String) : PropertyNode :=
  { node with value := .string text }

def modifyFirst (name : String) (f : PropertyNode → PropertyNode) :
    List PropertyNode → List PropertyNode
  | [] => []
  | node :: nodes =>
    if isNamed name node then f node :: nodes else node :: modifyFirst name f nodes

/-- Changes what a lookup by the name finds, if it finds something. -/
def modifyByName (node : PropertyNode) (name : String) (f : PropertyNode → PropertyNode) :
    PropertyNode :=
  { node with children := modifyFirst name f node.children }

/-- The index `addChild` gives a new child: one more than the highest of that
name. -/
def nextIndex (node : PropertyNode) (name : String) : ℕ :=
  node.children.foldl (fun i child => if child.name = name then max (child.index + 1) i else i) 0

/-- `createProperty(name)->setStringValue(text)`: a child that is there is
overwritten. -/
def createStringProperty (node : PropertyNode) (name text : String) : PropertyNode :=
  if (node.getPropertyByName name).isSome then
    node.modifyByName name (·.setStringValue text)
  else
    { node with children := node.children ++
        [{ name := name, index := node.nextIndex name, value := .string text }] }

/-! ## What a change leaves alone -/

/-- A change that a lookup does not notice. -/
def KeepsName (f : PropertyNode → PropertyNode) : Prop :=
  ∀ node, (f node).name = node.name ∧ (f node).index = node.index

variable {node : PropertyNode} {name other text : String} {f : PropertyNode → PropertyNode}

theorem KeepsName.isNamed (hf : KeepsName f) : isNamed name (f node) = isNamed name node := by
  obtain ⟨hname, hindex⟩ := hf node
  simp only [PropertyNode.isNamed, hname, hindex]

theorem keepsName_setStringValue : KeepsName (·.setStringValue text) := fun _ => ⟨rfl, rfl⟩

theorem keepsName_modifyByName : KeepsName (·.modifyByName name f) := fun _ => ⟨rfl, rfl⟩

theorem keepsName_createStringProperty : KeepsName (·.createStringProperty name text) := by
  intro node
  dsimp only [createStringProperty]
  split <;> exact ⟨rfl, rfl⟩

theorem find?_modifyFirst_self {nodes : List PropertyNode} (hf : KeepsName f) :
    (modifyFirst name f nodes).find? (PropertyNode.isNamed name) =
      (nodes.find? (PropertyNode.isNamed name)).map f := by
  induction nodes with
  | nil => rfl
  | cons node nodes ih =>
    cases h : PropertyNode.isNamed name node with
    | true =>
      rw [modifyFirst, if_pos h, List.find?_cons_of_pos (hf.isNamed.trans h),
        List.find?_cons_of_pos h, Option.map_some]
    | false =>
      have h' : ¬ PropertyNode.isNamed name node = true := by rw [h]; exact Bool.false_ne_true
      rw [modifyFirst, if_neg h', List.find?_cons_of_neg h', List.find?_cons_of_neg h', ih]

theorem find?_modifyFirst_of_ne {nodes : List PropertyNode} (hf : KeepsName f)
    (hne : other ≠ name) :
    (modifyFirst name f nodes).find? (PropertyNode.isNamed other) =
      nodes.find? (PropertyNode.isNamed other) := by
  induction nodes with
  | nil => rfl
  | cons node nodes ih =>
    cases h : PropertyNode.isNamed name node with
    | true =>
      have hn : node.name = name := by
        simp only [PropertyNode.isNamed, Bool.and_eq_true, beq_iff_eq] at h
        exact h.1
      have hother : ¬ PropertyNode.isNamed other node = true := by
        simp only [PropertyNode.isNamed, Bool.and_eq_true, beq_iff_eq, not_and]
        exact fun ho => absurd (ho.symm.trans hn) hne
      rw [modifyFirst, if_pos h, List.find?_cons_of_neg hother,
        List.find?_cons_of_neg (by rw [hf.isNamed]; exact hother)]
    | false =>
      rw [modifyFirst, if_neg (by rw [h]; exact Bool.false_ne_true)]
      simp only [List.find?_cons, ih]

theorem getPropertyByName_modifyByName_self (hf : KeepsName f) :
    (node.modifyByName name f).getPropertyByName name = (node.getPropertyByName name).map f :=
  find?_modifyFirst_self hf

theorem getPropertyByName_modifyByName_of_ne (hf : KeepsName f) (hne : other ≠ name) :
    (node.modifyByName name f).getPropertyByName other = node.getPropertyByName other :=
  find?_modifyFirst_of_ne hf hne

theorem getPropertyByName_createStringProperty_of_ne (hne : other ≠ name) :
    (node.createStringProperty name text).getPropertyByName other =
      node.getPropertyByName other := by
  rw [createStringProperty]
  split_ifs
  · exact getPropertyByName_modifyByName_of_ne keepsName_setStringValue hne
  · have hnew : PropertyNode.isNamed other
        { name := name, index := node.nextIndex name, value := .string text } = false :=
      Bool.and_eq_false_imp.mpr fun h => absurd (beq_iff_eq.mp h).symm hne
    rw [getPropertyByName, getPropertyByName, List.find?_append, List.find?_singleton, hnew]
    exact Option.or_none

theorem getPropertyIn_modifyByName_of_ne {child : String} (hf : KeepsName f)
    (hne : other ≠ name) :
    (node.modifyByName name f).getPropertyIn other child = node.getPropertyIn other child := by
  unfold getPropertyIn
  rw [getPropertyByName_modifyByName_of_ne hf hne]

theorem getPropertyIn_modifyByName_modifyByName {parent child : String} (hf : KeepsName f)
    (hne : child ≠ name) :
    (node.modifyByName parent (·.modifyByName name f)).getPropertyIn parent child =
      node.getPropertyIn parent child := by
  unfold getPropertyIn
  rw [getPropertyByName_modifyByName_self keepsName_modifyByName]
  cases node.getPropertyByName parent with
  | none => rfl
  | some p => exact getPropertyByName_modifyByName_of_ne hf hne

end PropertyNode

end Dss
