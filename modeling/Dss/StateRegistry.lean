import Dss.CloudEvents
import Dss.Fields

/-!
# The states of the apartment

`Apartment` keeps its states in a list of pointers, and looks them up by type, name and the script
they are from. The states of a sensor are found by how their names begin.

A state that was made stays in memory as long as somebody has it, also if it is not registered.
What the constructors of states publish in the property tree is left out; it may make them throw.
-/

namespace Dss

/-! ## States -/

/-- `dsuid2str`: two hexadecimal digits a byte -/
def dsuid2str {size : ℕ} (dsuid : Vector UInt8 size) : String :=
  .ofList (dsuid.toList.flatMap fun b =>
    [Nat.digitChar (b.toNat / 16), Nat.digitChar (b.toNat % 16)])

def intToString (n : ℤ) : String := n.repr

/-- `eValueComparator` -/
inductive ValueComparator : Type where
  | undef | lower | higher
  deriving DecidableEq

/-- A condition of a `StateSensor`, as `parseCondition` has read it. -/
structure SensorCondition (V : Type) : Type where
  /-- `m_activateComparator` or `m_deactivateComparator` -/
  comparator : ValueComparator
  /-- `m_activateValue` or `m_deactivateValue` -/
  threshold : V

def SensorCondition.meets {V : Type} [LT V] [DecidableLT V] (condition : SensorCondition V)
    (value : V) : Bool :=
  match condition.comparator with
  | .lower => decide (value < condition.threshold)
  | .higher => decide (condition.threshold < value)
  | .undef => false

/-- How a state was made: the constructors of `State`, `BinaryInputState` and `StateSensor`. -/
inductive StateOrigin (size : ℕ) (V : Type) : Type where
  /-- `State(_name)` -/
  | apartment (name : String)
  /-- `State(_type, _name, _identifier)` -/
  | typed (type : StateType) (name identifier : String)
  /-- `BinaryInputState(device, inputIndex)` -/
  | binaryInput (dsuid : Vector UInt8 size) (inputIndex : ℤ)
  /-- `State(_device, stateName)` -/
  | device (dsuid : Vector UInt8 size) (stateName : String)
  /-- `State(_group, name)` -/
  | group (name : String)
  /-- `State(_meter, _inputIndex)` -/
  | circuit (meter : Vector UInt8 size) (inputIndex : ℤ)
  /-- `StateSensor(_identifier, _scriptId, _device, _sensorType, …)` -/
  | sensorDevice (identifier scriptId : String) (dsuid : Vector UInt8 size) (sensorType : ℤ)
      (activate deactivate : SensorCondition V)
  /-- `StateSensor(_identifier, _scriptId, _group, _sensorType, …)`, by zone and group -/
  | sensorZone (identifier scriptId : String) (zoneId groupId : ℤ) (sensorType : ℤ)
      (activate deactivate : SensorCondition V)

namespace StateOrigin

variable {size : ℕ} {V : Type}

def name : StateOrigin size V → String
  | apartment name => name
  | typed _ name _ => name
  | binaryInput dsuid inputIndex => "dev." ++ dsuid2str dsuid ++ "." ++ intToString inputIndex
  | device dsuid stateName => "dev." ++ dsuid2str dsuid ++ "." ++ stateName
  | group name => name
  | circuit meter inputIndex => "dsm." ++ dsuid2str meter ++ "." ++ intToString inputIndex
  | sensorDevice identifier _ dsuid sensorType _ _ =>
    "dev." ++ dsuid2str dsuid ++ ".type" ++ intToString sensorType ++ "." ++ identifier
  | sensorZone identifier _ zoneId groupId sensorType _ _ =>
    "zone.zone" ++ intToString zoneId ++ ".group" ++ intToString groupId ++
      ".type" ++ intToString sensorType ++ "." ++ identifier

def type : StateOrigin size V → StateType
  | apartment _ => .apartment
  | typed type _ _ => type
  | binaryInput _ _ | device _ _ => .device
  | group _ => .group
  | circuit _ _ => .circuit
  | sensorDevice _ _ _ _ _ _ => .sensorDevice
  | sensorZone _ _ _ _ _ _ _ => .sensorZone

def serviceName : StateOrigin size V → String
  | typed _ _ identifier => identifier
  | sensorDevice _ scriptId _ _ _ _ => scriptId
  | sensorZone _ scriptId _ _ _ _ _ => scriptId
  | apartment _ | binaryInput _ _ | device _ _ | group _ | circuit _ _ => ""

/-- The first value of `m_state`: `State_Inactive`, `State_Invalid` or `State_Unknown`. -/
def initial : StateOrigin size V → ℤ
  | binaryInput _ _ | device _ _ | circuit _ _ => 0
  | group _ => 3
  | apartment _ | typed _ _ _ | sensorDevice _ _ _ _ _ _ | sensorZone _ _ _ _ _ _ _ => 2

/-- The conditions of a `StateSensor`; nothing if it is none. -/
def conditions : StateOrigin size V → Option (SensorCondition V × SensorCondition V)
  | sensorDevice _ _ _ _ activate deactivate => some (activate, deactivate)
  | sensorZone _ _ _ _ _ activate deactivate => some (activate, deactivate)
  | apartment _ | typed _ _ _ | binaryInput _ _ | device _ _ | group _ | circuit _ _ => none

end StateOrigin

/-- `State` -/
structure ApartmentState (size : ℕ) (V : Type) : Type where
  origin : StateOrigin size V
  /-- `m_state` -/
  value : ℤ
  /-- the values that `newValue` got, in a run -/
  received : List V := []

namespace ApartmentState

variable {size : ℕ} {V : Type}

/-- A constructor, with the value that `load` finds in the file of the state. -/
def create (origin : StateOrigin size V) (loaded : Option ℤ) : ApartmentState size V :=
  { origin := origin, value := loaded.getD origin.initial }

/-- What `StateSensor::newValue` sets the state to; `State_Active` is 1, `State_Inactive` is 2,
and `State_Unknown` is 3. -/
def valueFor [LT V] [DecidableLT V] (activate deactivate : SensorCondition V) (value : V)
    (oldState : ℤ) : ℤ :=
  match activate.meets value, deactivate.meets value with
  | false, true => if oldState = 1 then 2 else oldState
  | true, true => 3
  | true, false => if oldState = 1 then oldState else 1
  | false, false => oldState

/-- `StateSensor::newValue`, called through a cast of the pointer: the cast gives a null pointer
if this is another state. -/
def newValue [LT V] [DecidableLT V] (value : V) (state : ApartmentState size V) :
    Option (ApartmentState size V) :=
  state.origin.conditions.map fun (activate, deactivate) =>
    { state with
      value := valueFor activate deactivate value state.value
      received := state.received ++ [value] }

end ApartmentState

/-! ## The registry -/

/-- The states of an `Apartment`, and all other ones that were made. -/
structure StateRegistry (size : ℕ) (V : Type) : Type where
  objects : List (ApartmentState size V)
  states : List ℕ
  nodup : states.Nodup
  made : ∀ ref ∈ states, ref < objects.length

namespace StateRegistry

variable {size : ℕ} {V : Type}

/-- `Apartment::Apartment` -/
def empty : StateRegistry size V := ⟨[], [], List.nodup_nil, List.forall_mem_nil _⟩

def findState (w : StateRegistry size V) (p : StateOrigin size V → Bool) : Option ℕ :=
  w.states.find? fun ref => (w.objects[ref]?).any fun state => p state.origin

/-- `getState`, with a type, an identifier and a name -/
def getState (w : StateRegistry size V) (type : StateType) (identifier name : String) :
    Option ℕ :=
  w.findState fun state =>
    state.type = type ∧ state.serviceName = identifier ∧ state.name = name

def make (w : StateRegistry size V) (state : ApartmentState size V) : StateRegistry size V where
  objects := w.objects ++ [state]
  states := w.states
  nodup := w.nodup
  made := fun ref h => by
    rw [List.length_append]
    exact Nat.lt_add_right 1 (w.made ref h)

theorem objects_make (w : StateRegistry size V) (state : ApartmentState size V) :
    (w.make state).objects = w.objects ++ [state] :=
  rfl

/-- `m_States.push_back`, of a state that is not there -/
def pushBack (w : StateRegistry size V) (ref : ℕ) (hmade : ref < w.objects.length)
    (hnew : ref ∉ w.states) : StateRegistry size V where
  objects := w.objects
  states := w.states ++ [ref]
  nodup := List.nodup_append.mpr ⟨w.nodup, List.nodup_singleton ref, fun a ha b hb hab =>
    hnew (by rw [← List.mem_singleton.mp hb, ← hab]; exact ha)⟩
  made := fun a h => by
    rcases List.mem_append.mp h with h | h
    · exact w.made a h
    · rw [List.mem_singleton.mp h]
      exact hmade

/-- The state that `allocateState` makes. -/
def allocated (type : StateType) (name scriptId : String) : StateOrigin size V :=
  if scriptId.length ≠ 0 then .typed type name scriptId else .apartment name

/-- `allocateState`, with the value that is found in the file of a new state; nothing if its
constructor throws -/
def allocateState (w : StateRegistry size V) (type : StateType) (name scriptId : String)
    (loaded : Option ℤ) (throws : Bool) : Option (StateRegistry size V × ℕ) :=
  match w.findState fun state =>
    state.name = name ∧ state.type = type ∧ state.serviceName = scriptId with
  | some ref => some (w, ref)
  | none =>
    if throws then none
    else
      let w' := w.make (.create (allocated type name scriptId) loaded)
      some (w'.pushBack w.objects.length (by rw [objects_make, List.length_append]; simp)
        fun h => Nat.lt_irrefl _ (w.made _ h), w.objects.length)

theorem findState_isSome_of_mem (w : StateRegistry size V) {ref : ℕ} (h : ref ∈ w.states)
    {p : StateOrigin size V → Bool} {state : ApartmentState size V}
    (hstate : w.objects[ref]? = some state) (hp : p state.origin = true) :
    (w.findState p).isSome := by
  refine List.find?_isSome.mpr ⟨ref, h, ?_⟩
  rw [hstate]
  exact hp

/-- `allocateState`, with a state; nothing if it throws an `ItemDuplicateException` -/
def allocateStateObject (w : StateRegistry size V) (ref : ℕ) (hmade : ref < w.objects.length) :
    Option (StateRegistry size V) :=
  if h : (w.findState fun state => state.name = w.objects[ref].origin.name).isSome then none
  else
    some (w.pushBack ref hmade fun hmem => h (w.findState_isSome_of_mem hmem
      (List.getElem?_eq_getElem hmade) (decide_eq_true rfl)))

/-- `removeState`. `std::remove` moves the pointer behind all other ones and returns where it is,
and there one pointer is erased; if the state is not registered, this is the end of the list, and
what happens is undefined. -/
def removeState (w : StateRegistry size V) (ref : ℕ) : Option (StateRegistry size V) :=
  let kept := w.states.filter (· ≠ ref)
  if kept.length = w.states.length then none
  else
    some
      { w with
        states := kept
        nodup := w.nodup.filter _
        made := fun a h => w.made a (List.mem_of_mem_filter h) }

/-! ## Sensors -/

section sensors

variable [LT V] [DecidableLT V]

def put (w : StateRegistry size V) (ref : ℕ) (state : ApartmentState size V) :
    StateRegistry size V :=
  { w with
    objects := w.objects.set ref state
    made := fun a h => by
      rw [List.length_set]
      exact w.made a h }

/-- A turn of the loop of `updateSensorStates`: a state whose name begins with the prefix gets
the value. A null pointer may not be dereferenced. -/
def feed (namePrefix : String) (value : V) (w : StateRegistry size V) (ref : ℕ) :
    Option (StateRegistry size V) :=
  match w.objects[ref]? with
  | none => none
  | some state =>
    if namePrefix.toList.isPrefixOf state.origin.name.toList then
      (state.newValue value).map fun state => w.put ref state
    else some w

/-- The loop of `updateSensorStates`. -/
def feedAll (w : StateRegistry size V) (namePrefix : String) (value : V) :
    Option (StateRegistry size V) :=
  w.states.foldlM (feed namePrefix value) w

def devicePrefix (dsuid : Vector UInt8 size) (sensorType : ℤ) : String :=
  "dev." ++ dsuid2str dsuid ++ ".type" ++ intToString sensorType

def zonePrefix (zoneId groupId sensorType : ℤ) : String :=
  "zone.zone" ++ intToString zoneId ++ ".group" ++ intToString groupId ++
    ".type" ++ intToString sensorType

/-- `updateSensorStates`, for a device -/
def updateDeviceSensorStates (w : StateRegistry size V) (dsuid : Vector UInt8 size)
    (sensorType : ℤ) (value : V) : Option (StateRegistry size V) :=
  w.feedAll (devicePrefix dsuid sensorType) value

/-- `updateSensorStates`, for a zone and a group -/
def updateZoneSensorStates (w : StateRegistry size V) (zoneId groupId sensorType : ℤ) (value : V) :
    Option (StateRegistry size V) :=
  w.feedAll (zonePrefix zoneId groupId sensorType) value

end sensors

end StateRegistry

end Dss
