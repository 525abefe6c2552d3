import Mathlib.Data.List.AList

/-!
# Events

`Event` as `event.cpp` builds it: a name, three properties that live in fields of their own and a
hash map with the rest. `getPropertyByName` never fails: a property that is not there reads as the
empty string, which is why the filters of a subscription have `hasPropertySet`.
-/

namespace Dss

/-- `Properties`: the hash map behind an event's properties. The keys of an
`AList` are pairwise distinct, as those of the container are. -/
abbrev Properties : Type := AList fun _ : String => String

namespace Properties

/-- `Properties::get` with a default. -/
def getD (p : Properties) (key default : String) : String :=
  (p.lookup key).getD default

def has (p : Properties) (key : String) : Bool := (p.lookup key).isSome

end Properties

/-- Where an event was raised, with the ids its readers look up there. -/
inductive RaiseLocation : Type where
  /-- `erlGroup`: a group of a zone -/
  | group : (zoneID groupID : Int) → RaiseLocation
  /-- `erlDevice`: a device, by dSUID and current zone -/
  | device : (dsuid : String) → (zoneID : Int) → RaiseLocation
  /-- `erlApartment` -/
  | apartment : RaiseLocation
  /-- `erlState` -/
  | state : RaiseLocation
  deriving DecidableEq

/-- `Event`. A property with a field of its own is `none` until it is set
(`m_LocationSet`, `m_ContextSet`, `m_TimeSet`). -/
structure Event : Type where
  name : String
  /-- `m_Location` with `m_LocationSet` -/
  location : Option String := none
  /-- `m_Context` with `m_ContextSet` -/
  context : Option String := none
  /-- `m_Time` with `m_TimeSet` -/
  time : Option String := none
  /-- `m_RaiseLocation` with what it refers to -/
  raisedAt : RaiseLocation := .apartment
  properties : Properties := ∅

namespace Event

def getPropertyByName (e : Event) (name : String) : String :=
  if name = "name" then e.name
  else if name = "location" then e.location.getD ""
  else if name = "context" then e.context.getD ""
  else if name = "time" then e.time.getD ""
  else e.properties.getD name ""

def hasPropertySet (e : Event) (name : String) : Bool :=
  if name = "name" then true
  else if name = "location" then e.location.isSome
  else if name = "context" then e.context.isSome
  else if name = "time" then e.time.isSome
  else e.properties.has name

/-- `Event::setProperty`; refused for the empty name. -/
def setProperty (e : Event) (name value : String) : Event :=
  if name = "" then e
  else if name = "location" then { e with location := some value }
  else if name = "context" then { e with context := some value }
  else if name = "time" then { e with time := some value }
  else { e with properties := e.properties.insert name value }

theorem name_setProperty {e : Event} {name value : String} :
    (e.setProperty name value).name = e.name := by
  rw [setProperty]
  split_ifs <;> rfl

theorem getPropertyByName_of_not_set {e : Event} {name : String}
    (h : e.hasPropertySet name = false) : e.getPropertyByName name = "" := by
  unfold hasPropertySet at h
  unfold getPropertyByName
  split_ifs at h ⊢ <;>
    simp_all [Properties.has, Properties.getD]

end Event

end Dss
