import Dss.HandlerIsolation
import Dss.JsonElements
import Dss.Numbers

/-!
# Property containers as messages for a vDC

A query comes as a list of containers, each with a name and properties. One that is marked as a
child belongs below the one before it. On the top level, the properties of a container without a
name are put into the message itself, and then there is no element that a child could go below.
-/

namespace Dss

open Vdcapi List

structure KeyValueContainer : Type where
  name : String
  value : String
  deriving DecidableEq

structure PropertyContainer : Type where
  name : String
  properties : List KeyValueContainer
  child : Bool
  deriving DecidableEq

/-- What ends the conversion. -/
inductive Stopped : Type where
  | nullElement : Stopped
  | exception : Exception → Stopped
  deriving DecidableEq

namespace PropertyContainerToProtobuf

/-! ## Values -/

def erase (c : Char) (text : String) : String := String.ofList (text.toList.filter (· ≠ c))

/-- `strToDouble`, if it does not throw. -/
def parseDouble? (strtod : String → Option String) (text : String) : Option String :=
  if text = "" then none else strtod text

/-- `strToInt`, `strToUInt` and `strToDouble` without the letter of their type. -/
def number {A : Type} (function text : String) (parse : String → Option A)
    (field : A → Vdcapi.PropertyValue) : Except Exception (Option Vdcapi.PropertyValue) :=
  (EventInterpreter.numberOr function text (parse text)).map fun value => some (field value)

/-- `assignValue`: the value, if one is set. -/
def assignValue (strtod : String → Option String) (value : String) :
    Except Exception (Option Vdcapi.PropertyValue) :=
  if value = "true" then .ok (some { vBool := some true })
  else if value = "false" then .ok (some { vBool := some false })
  else if '\x22' ∈ value.toList then .ok (some { vString := some (erase '\x22' value) })
  else if 'i' ∈ value.toList then
    number "strToInt" (erase 'i' value) parseInt? fun i => { vInt64 := some i }
  else if 'u' ∈ value.toList then
    number "strToUInt" (erase 'u' value) parseUInt? fun n => { vUint64 := some n }
  else if 'f' ∈ value.toList then
    number "strToDouble" (erase 'f' value) (parseDouble? strtod) fun d => { vDouble := some d }
  else .ok none

/-! ## Messages -/

def addProperties (strtod : String → Option String) :
    List KeyValueContainer → Except Stopped (List PropertyElement)
  | [] => .ok []
  | container :: containers => do
    let value ← (assignValue strtod container.value).mapError .exception
    let elements ← addProperties strtod containers
    return { name := container.name, value } :: elements

def nextIsChild : List PropertyContainer → Bool
  | [] => false
  | part :: _ => part.child

/-- `setupMessage`, with what becomes of the root. -/
def setupMessage (strtod : String → Option String) :
    Option PropertyElement → List PropertyContainer → Except Stopped (Option PropertyElement)
  | rootProp, [] => .ok rootProp
  | none, _ :: _ => .error .nullElement
  | some rootProp, part :: parts => do
    let properties ← addProperties strtod part.properties
    let newProp : PropertyElement := { name := part.name, elements := properties }
    if nextIsChild parts then
      let newProp ← setupMessage strtod (some newProp) parts
      return some { rootProp with elements := rootProp.elements ++ newProp.toList }
    else
      setupMessage strtod (some { rootProp with elements := rootProp.elements ++ [newProp] }) parts

/-- Both functions `startSetupMessage`, with what becomes of the properties or of the query. -/
def startSetupMessage (strtod : String → Option String) :
    List PropertyElement → List PropertyContainer → Except Stopped (List PropertyElement)
  | prop, [] => .ok prop
  | prop, part :: parts => do
    let properties ← addProperties strtod part.properties
    let (prop, rootProp) : List PropertyElement × Option PropertyElement :=
      if part.name = "" then (prop ++ properties, none)
      else (prop, some { name := part.name, elements := properties })
    if parts.isEmpty then return prop ++ rootProp.toList
    else if nextIsChild parts then
      let rootProp ← setupMessage strtod rootProp parts
      return prop ++ rootProp.toList
    else startSetupMessage strtod (prop ++ rootProp.toList) parts

/-! ## Where things are -/

abbrev Address : Type := List ℕ

mutual

/-- An element with all that is below it: where it is, its name and its value. -/
def listing (address : Address) :
    PropertyElement → List (Address × String × Option Vdcapi.PropertyValue)
  | { name, value, elements } => (address, name, value) :: listingFrom address 0 elements

def listingFrom (address : Address) (k : ℕ) :
    List PropertyElement → List (Address × String × Option Vdcapi.PropertyValue)
  | [] => []
  | element :: elements =>
    listing (address ++ [k]) element ++ listingFrom address (k + 1) elements

end

/-- Where a container is put. -/
inductive Place : Type where
  | element : Address → Place
  | message : ℕ → Place
  deriving DecidableEq

def propertyEntries (strtod : String → Option String) (address : Address) :
    ℕ → List KeyValueContainer → List (Address × String × Option Vdcapi.PropertyValue)
  | _, [] => []
  | k, container :: containers =>
    (address ++ [k], container.name, (assignValue strtod container.value).toOption.join) ::
      propertyEntries strtod address (k + 1) containers

def entries (strtod : String → Option String) :
    PropertyContainer × Place → List (Address × String × Option Vdcapi.PropertyValue)
  | (part, .element address) =>
    (address, part.name, none) :: propertyEntries strtod address 0 part.properties
  | (part, .message k) => propertyEntries strtod [] k part.properties

def Below (previous next : PropertyContainer × Place) : Prop :=
  next.1.child = true →
    ∃ address k, previous.2 = .element address ∧ next.2 = .element (address ++ [k])

/-- The places of the containers: each contributes its properties once, and nothing else is there.
Only a container without a name is put into the message. -/
structure Arranged (strtod : String → Option String) (parts : List PropertyContainer)
    (message : List PropertyElement) (placed : List (PropertyContainer × Place)) : Prop where
  parts_eq : placed.map Prod.fst = parts
  /-- what is there is what they contribute -/
  listing_eq : listingFrom [] 0 message = placed.flatMap (entries strtod)
  children : placed.IsChain Below
  named : ∀ p ∈ placed, p.1.name ≠ "" → ∃ address, p.2 = .element address

def Blamed (strtod : String → Option String) (parts : List PropertyContainer) (e : Exception) :
    Prop :=
  ∃ part ∈ parts, ∃ property ∈ part.properties, assignValue strtod property.value = .error e

/-- The law: no null pointer is used, and the containers are arranged; unless a value cannot be
read. -/
def Lawful (strtod : String → Option String) (parts : List PropertyContainer) :
    Except Stopped (List PropertyElement) → Prop
  | .ok message => ∃ placed, Arranged strtod parts message placed
  | .error .nullElement => False
  | .error (.exception e) => Blamed strtod parts e

def Readable (strtod : String → Option String) (value : String) : Prop :=
  value ≠ "true" → value ≠ "false" → '\x22' ∉ value.toList →
    if 'i' ∈ value.toList then (parseInt? (erase 'i' value)).isSome = true
    else if 'u' ∈ value.toList then (parseUInt? (erase 'u' value)).isSome = true
    else 'f' ∈ value.toList → (parseDouble? strtod (erase 'f' value)).isSome = true

/-- The first child is right behind a container without a name, and no value before it stops the
conversion. -/
def NullUsed (strtod : String → Option String) : List PropertyContainer → Prop
  | part :: next :: parts =>
    (∀ property ∈ part.properties, Readable strtod property.value) ∧
      if next.child then part.name = "" else NullUsed strtod (next :: parts)
  | _ => False

/-! ## Reading values -/

variable {strtod : String → Option String} {A : Type}

theorem number_readable_iff {function text : String} {parse : String → Option A}
    {field : A → Vdcapi.PropertyValue} :
    (∃ value, number function text parse field = .ok value) ↔ (parse text).isSome := by
  rw [number]
  cases parse text with
  | none => exact iff_of_false (fun ⟨value, h⟩ => by cases h) Bool.false_ne_true
  | some a => exact iff_of_true ⟨_, rfl⟩ rfl

theorem readable_iff {value : String} :
    Readable strtod value ↔ ∃ v, assignValue strtod value = .ok v := by
  rw [Readable, assignValue]
  by_cases htrue : value = "true"
  · simp [htrue]
  by_cases hfalse : value = "false"
  · simp [hfalse]
  by_cases hquote : '\x22' ∈ value.toList
  · simp [hquote, htrue, hfalse]
  simp only [htrue, hfalse, hquote, ne_eq, not_false_eq_true, true_implies, if_false]
  split_ifs with hi hu hf
  · exact number_readable_iff.symm
  · exact number_readable_iff.symm
  · simp only [hf, true_implies]
    exact number_readable_iff.symm
  · exact iff_of_true (fun h => absurd h hf) ⟨none, rfl⟩

theorem addProperties_cases (containers : List KeyValueContainer) :
    (∃ elements, addProperties strtod containers = .ok elements ∧
      (∀ property ∈ containers, Readable strtod property.value) ∧
        ∀ address k, listingFrom address k elements =
          propertyEntries strtod address k containers) ∨
    ∃ e, addProperties strtod containers = .error (.exception e) ∧
      ∃ property ∈ containers, assignValue strtod property.value = .error e := by
  induction containers with
  | nil =>
    refine Or.inl ⟨[], rfl, fun property hmem => ?_, fun address k => ?_⟩
    · cases hmem
    · rw [listingFrom, propertyEntries]
  | cons container containers ih =>
    rcases hvalue : assignValue strtod container.value with e | value
    · refine Or.inr ⟨e, ?_, container, mem_cons_self, hvalue⟩
      rw [addProperties, hvalue]
      rfl
    rcases ih with ⟨elements, hadd, hread, hlist⟩ | ⟨e, hadd, property, hmem, he⟩
    · refine Or.inl ⟨{ name := container.name, value } :: elements, ?_, ?_, fun address k => ?_⟩
      · rw [addProperties, hvalue, hadd]
        rfl
      · rw [forall_mem_cons]
        exact ⟨readable_iff.2 ⟨value, hvalue⟩, hread⟩
      · rw [listingFrom, hlist, propertyEntries, hvalue]
        rfl
    · refine Or.inr ⟨e, ?_, property, mem_cons_of_mem container hmem, he⟩
      rw [addProperties, hvalue, hadd]
      rfl

/-! ## Places -/

variable {address : Address} {k : ℕ} {elements elements' properties : List PropertyElement}
  {part : PropertyContainer} {parts : List PropertyContainer}
  {placed : List (PropertyContainer × Place)}

theorem listingFrom_append :
    listingFrom address k (elements ++ elements') =
      listingFrom address k elements ++ listingFrom address (k + elements.length) elements' := by
  induction elements generalizing k with
  | nil => rfl
  | cons element elements ih =>
    rw [cons_append, listingFrom, listingFrom, ih, append_assoc, length_cons,
      Nat.add_assoc, Nat.add_comm 1]

structure Extends (strtod : String → Option String) (address : Address)
    (elements elements' : List PropertyElement) (parts : List PropertyContainer)
    (placed : List (PropertyContainer × Place)) : Prop where
  parts_eq : placed.map Prod.fst = parts
  /-- what is there is what they contribute -/
  listing_eq : listingFrom address 0 elements' =
    listingFrom address 0 elements ++ placed.flatMap (entries strtod)
  children : placed.IsChain Below
  named : ∀ p ∈ placed, p.1.name ≠ "" → ∃ address, p.2 = .element address

def FirstBehind (address : Address) (elements : List PropertyElement)
    (placed : List (PropertyContainer × Place)) : Prop :=
  ∀ p ∈ placed.head?, p.2 = .element (address ++ [elements.length])

theorem Extends.refl : Extends strtod address elements elements [] [] where
  parts_eq := rfl
  listing_eq := (append_nil _).symm
  children := .nil
  named p hmem := by cases hmem

theorem Extends.nextIsChild_of_head (h : Extends strtod address elements elements' parts placed)
    {p : PropertyContainer × Place} (hp : p ∈ placed.head?) : nextIsChild parts = p.1.child := by
  rw [← h.parts_eq]
  cases placed with
  | nil => cases hp
  | cons q placed =>
    cases Option.some.inj hp
    rfl

theorem Extends.isChain_cons_of_sibling {p : PropertyContainer × Place}
    (h : Extends strtod address elements elements' parts placed)
    (hnext : nextIsChild parts = false) : (p :: placed).IsChain Below := by
  refine h.children.cons fun q hq hchild => ?_
  rw [h.nextIsChild_of_head hq, hchild] at hnext
  cases hnext

theorem Extends.child
    (hlist : listingFrom (address ++ [elements.length]) 0 properties =
      propertyEntries strtod (address ++ [elements.length]) 0 part.properties)
    (h : Extends strtod (address ++ [elements.length]) properties elements' parts placed)
    (hfirst : FirstBehind (address ++ [elements.length]) properties placed) :
    Extends strtod address elements
      (elements ++ [{ name := part.name, elements := elements' }]) (part :: parts)
      ((part, .element (address ++ [elements.length])) :: placed) where
  parts_eq := by rw [map_cons, h.parts_eq]
  listing_eq := by
    rw [listingFrom_append, Nat.zero_add, listingFrom, listingFrom, listing, h.listing_eq, hlist,
      flatMap_cons, entries, append_nil, cons_append]
  children := by
    refine h.children.cons fun p hp hchild => ?_
    exact ⟨_, _, rfl, hfirst p hp⟩
  named := by
    rw [forall_mem_cons]
    exact ⟨fun _ => ⟨_, rfl⟩, h.named⟩

theorem Extends.sibling
    (hlist : listingFrom (address ++ [elements.length]) 0 properties =
      propertyEntries strtod (address ++ [elements.length]) 0 part.properties)
    (h : Extends strtod address (elements ++ [{ name := part.name, elements := properties }])
      elements' parts placed)
    (hnext : nextIsChild parts = false) :
    Extends strtod address elements elements' (part :: parts)
      ((part, .element (address ++ [elements.length])) :: placed) where
  parts_eq := by rw [map_cons, h.parts_eq]
  listing_eq := by
    rw [h.listing_eq, listingFrom_append, Nat.zero_add, listingFrom, listingFrom, listing, hlist,
      flatMap_cons, entries, append_nil, append_assoc]
  children := h.isChain_cons_of_sibling hnext
  named := by
    rw [forall_mem_cons]
    exact ⟨fun _ => ⟨_, rfl⟩, h.named⟩

theorem Extends.message
    (hlist : listingFrom [] elements.length properties =
      propertyEntries strtod [] elements.length part.properties)
    (h : Extends strtod [] (elements ++ properties) elements' parts placed)
    (hname : part.name = "") (hnext : nextIsChild parts = false) :
    Extends strtod [] elements elements' (part :: parts)
      ((part, .message elements.length) :: placed) where
  parts_eq := by rw [map_cons, h.parts_eq]
  listing_eq := by
    rw [h.listing_eq, listingFrom_append, Nat.zero_add, hlist, flatMap_cons, entries,
      append_assoc]
  children := h.isChain_cons_of_sibling hnext
  named := by
    rw [forall_mem_cons]
    exact ⟨fun hne => absurd hname hne, h.named⟩

/-! ## Setting up -/

theorem Blamed.cons {e : Exception} (h : Blamed strtod parts e) :
    Blamed strtod (part :: parts) e := by
  obtain ⟨part', hmem, hvalue⟩ := h
  exact ⟨part', mem_cons_of_mem part hmem, hvalue⟩

theorem setupMessage_child {rootProp : PropertyElement}
    (hadd : addProperties strtod part.properties = .ok properties)
    (hnext : nextIsChild parts = true) :
    setupMessage strtod (some rootProp) (part :: parts) =
      (setupMessage strtod (some { name := part.name, elements := properties }) parts).map
        fun newProp => some { rootProp with elements := rootProp.elements ++ newProp.toList } := by
  rw [setupMessage, hadd]
  exact if_pos hnext

theorem setupMessage_sibling {rootProp : PropertyElement}
    (hadd : addProperties strtod part.properties = .ok properties)
    (hnext : nextIsChild parts = false) :
    setupMessage strtod (some rootProp) (part :: parts) =
      setupMessage strtod (some { rootProp with elements := rootProp.elements ++
        [{ name := part.name, elements := properties }] }) parts := by
  rw [setupMessage, hadd]
  exact if_neg (Bool.not_eq_true _ ▸ hnext)

theorem setupMessage_cases (rootProp : PropertyElement) (parts : List PropertyContainer)
    (address : Address) :
    (∃ elements placed, setupMessage strtod (some rootProp) parts =
        .ok (some { rootProp with elements }) ∧
      Extends strtod address rootProp.elements elements parts placed ∧
        FirstBehind address rootProp.elements placed) ∨
    ∃ e, setupMessage strtod (some rootProp) parts = .error (.exception e) ∧
      Blamed strtod parts e := by
  induction parts generalizing rootProp address with
  | nil =>
    refine Or.inl ⟨rootProp.elements, [], ?_, .refl, fun p hp => ?_⟩
    · cases rootProp
      rfl
    · cases hp
  | cons part parts ih =>
    rcases addProperties_cases part.properties with ⟨properties, hadd, -, hlist⟩ | ⟨e, hadd, hvalue⟩
    · rcases hnext : nextIsChild parts with - | -
      · -- the next container goes behind this one, below the same element
        rcases ih { rootProp with elements := rootProp.elements ++
            [{ name := part.name, elements := properties }] } address with
          ⟨elements, placed, hsetup, hplaced, -⟩ | ⟨e, hsetup, hblamed⟩
        · refine Or.inl ⟨elements, _, ?_, .sibling (hlist _ _) hplaced hnext, fun p hp => ?_⟩
          · rw [setupMessage_sibling hadd hnext, hsetup]
          · cases Option.some.inj hp
            rfl
        · refine Or.inr ⟨e, ?_, hblamed.cons⟩
          rw [setupMessage_sibling hadd hnext, hsetup]
      · -- it goes below this one, which has only its own properties yet
        rcases ih { name := part.name, elements := properties }
            (address ++ [rootProp.elements.length]) with
          ⟨elements, placed, hsetup, hplaced, hfirst⟩ | ⟨e, hsetup, hblamed⟩
        · refine Or.inl ⟨_, _, ?_, .child (hlist _ _) hplaced hfirst, fun p hp => ?_⟩
          · rw [setupMessage_child hadd hnext, hsetup]
            rfl
          · cases Option.some.inj hp
            rfl
        · refine Or.inr ⟨e, ?_, hblamed.cons⟩
          rw [setupMessage_child hadd hnext, hsetup]
          rfl
    · refine Or.inr ⟨e, ?_, part, mem_cons_self, hvalue⟩
      rw [setupMessage, hadd]
      rfl

section topLevel

variable {prop : List PropertyElement}

theorem startSetupMessage_message (hadd : addProperties strtod part.properties = .ok properties)
    (hname : part.name = "") (hnext : nextIsChild parts = false) :
    startSetupMessage strtod prop (part :: parts) =
      startSetupMessage strtod (prop ++ properties) parts := by
  rw [startSetupMessage, hadd]
  cases parts with
  | nil => simp [hname, bind, Except.bind, pure, Except.pure, startSetupMessage]
  | cons next parts => simp [hname, hnext, bind, Except.bind]

theorem startSetupMessage_sibling (hadd : addProperties strtod part.properties = .ok properties)
    (hname : part.name ≠ "") (hnext : nextIsChild parts = false) :
    startSetupMessage strtod prop (part :: parts) =
      startSetupMessage strtod (prop ++ [{ name := part.name, elements := properties }]) parts := by
  rw [startSetupMessage, hadd]
  cases parts with
  | nil => simp [hname, bind, Except.bind, pure, Except.pure, startSetupMessage]
  | cons next parts => simp [hname, hnext, bind, Except.bind]

theorem startSetupMessage_child (hadd : addProperties strtod part.properties = .ok properties)
    (hname : part.name ≠ "") (hnext : nextIsChild parts = true) :
    startSetupMessage strtod prop (part :: parts) =
      (setupMessage strtod (some { name := part.name, elements := properties }) parts).map
        fun rootProp => prop ++ rootProp.toList := by
  rw [startSetupMessage, hadd]
  cases parts with
  | nil => cases hnext
  | cons next parts =>
    simp [hname, hnext, bind, Except.bind]
    rfl

theorem startSetupMessage_null (hadd : addProperties strtod part.properties = .ok properties)
    (hname : part.name = "") (hnext : nextIsChild parts = true) :
    startSetupMessage strtod prop (part :: parts) = .error .nullElement := by
  rw [startSetupMessage, hadd]
  cases parts with
  | nil => cases hnext
  | cons next parts => simp [hname, hnext, bind, Except.bind, setupMessage]

theorem nullUsed_child_iff (hnext : nextIsChild parts = true) :
    NullUsed strtod (part :: parts) ↔
      (∀ property ∈ part.properties, Readable strtod property.value) ∧ part.name = "" := by
  cases parts with
  | nil => cases hnext
  | cons next parts =>
    exact and_congr_right fun _ => iff_of_eq (if_pos hnext)

theorem nullUsed_sibling_iff (hnext : nextIsChild parts = false) :
    NullUsed strtod (part :: parts) ↔
      (∀ property ∈ part.properties, Readable strtod property.value) ∧ NullUsed strtod parts := by
  cases parts with
  | nil =>
    simp only [NullUsed, and_false]
  | cons next parts =>
    exact and_congr_right fun _ => iff_of_eq (if_neg (Bool.not_eq_true _ ▸ hnext))

theorem NullUsed.readable (h : NullUsed strtod (part :: parts)) :
    ∀ property ∈ part.properties, Readable strtod property.value := by
  rcases hnext : nextIsChild parts with - | -
  · exact ((nullUsed_sibling_iff hnext).mp h).1
  · exact ((nullUsed_child_iff hnext).mp h).1

/-- **On the top level,** the containers are placed behind what the message has; unless a child has
no element to go below, or a value cannot be read before. -/
theorem startSetupMessage_cases (prop : List PropertyElement) (parts : List PropertyContainer) :
    (NullUsed strtod parts ∧ startSetupMessage strtod prop parts = .error .nullElement) ∨
    ¬ NullUsed strtod parts ∧
      ((∃ message placed, startSetupMessage strtod prop parts = .ok message ∧
        Extends strtod [] prop message parts placed) ∨
      ∃ e, startSetupMessage strtod prop parts = .error (.exception e) ∧
        Blamed strtod parts e) := by
  induction parts generalizing prop with
  | nil =>
    refine Or.inr ⟨not_false, Or.inl ⟨prop, [], ?_, .refl⟩⟩
    rw [startSetupMessage]
  | cons part parts ih =>
    rcases addProperties_cases part.properties with
      ⟨properties, hadd, hread, hlist⟩ | ⟨e, hadd, property, hmem, hvalue⟩
    · rcases hnext : nextIsChild parts with - | -
      · rw [nullUsed_sibling_iff hnext, and_iff_right hread]
        by_cases hname : part.name = ""
        · rw [startSetupMessage_message hadd hname hnext]
          refine (ih (prop ++ properties)).imp id (And.imp id (Or.imp ?_ ?_))
          · rintro ⟨message, placed, hsetup, hplaced⟩
            exact ⟨message, _, hsetup, .message (hlist _ _) hplaced hname hnext⟩
          · rintro ⟨e, hsetup, hblamed⟩
            exact ⟨e, hsetup, hblamed.cons⟩
        · rw [startSetupMessage_sibling hadd hname hnext]
          refine (ih _).imp id (And.imp id (Or.imp ?_ ?_))
          · rintro ⟨message, placed, hsetup, hplaced⟩
            exact ⟨message, _, hsetup, .sibling (hlist _ _) hplaced hnext⟩
          · rintro ⟨e, hsetup, hblamed⟩
            exact ⟨e, hsetup, hblamed.cons⟩
      · rw [nullUsed_child_iff hnext, and_iff_right hread]
        by_cases hname : part.name = ""
        · -- a container without a name has no element that a child could go below
          exact Or.inl ⟨hname, startSetupMessage_null hadd hname hnext⟩
        · rw [startSetupMessage_child hadd hname hnext]
          refine Or.inr ⟨hname, ?_⟩
          rcases setupMessage_cases { name := part.name, elements := properties } parts
            ([] ++ [prop.length]) with
            ⟨elements, placed, hsetup, hplaced, hfirst⟩ | ⟨e, hsetup, hblamed⟩
          · rw [hsetup]
            exact Or.inl ⟨_, _, rfl, .child (hlist _ _) hplaced hfirst⟩
          · rw [hsetup]
            exact Or.inr ⟨e, rfl, hblamed.cons⟩
    · -- the properties are read before the null pointer is used
      refine Or.inr ⟨fun hnull => ?_, Or.inr ⟨e, ?_, part, mem_cons_self, ?_⟩⟩
      · obtain ⟨value, hread⟩ := readable_iff.1 (hnull.readable property hmem)
        rw [hvalue] at hread
        cases hread
      · rw [startSetupMessage, hadd]
        rfl
      · exact ⟨property, hmem, hvalue⟩

end topLevel

theorem Extends.arranged {message : List PropertyElement}
    (h : Extends strtod [] [] message parts placed) : Arranged strtod parts message placed :=
  ⟨h.parts_eq, h.listing_eq, h.children, h.named⟩

/-- **The containers are arranged,** unless the first child is right behind a container without a
name and all values before it can be read: then the null pointer is used, and only then. -/
theorem startSetupMessage_lawful_iff (strtod : String → Option String)
    (parts : List PropertyContainer) :
    Lawful strtod parts (startSetupMessage strtod [] parts) ↔ ¬ NullUsed strtod parts := by
  rcases @startSetupMessage_cases strtod [] parts with
    ⟨hnull, hsetup⟩ | ⟨hnull, ⟨message, placed, hsetup, hplaced⟩ | ⟨e, hsetup, hblamed⟩⟩
  · rw [hsetup]
    exact iff_of_false id (not_not_intro hnull)
  · rw [hsetup]
    exact iff_of_true ⟨placed, hplaced.arranged⟩ hnull
  · rw [hsetup]
    exact iff_of_true hblamed hnull

def childOfMessage : List PropertyContainer :=
  [{ name := "", properties := [{ name := "a", value := "true" }], child := true },
    { name := "b", properties := [], child := true }]

/-- A child behind a container without a name goes below a null pointer. -/
theorem startSetupMessage_fails :
    ¬ Lawful (fun _ => none) childOfMessage
      (startSetupMessage (fun _ => none) [] childOfMessage) := id

end PropertyContainerToProtobuf

end Dss
