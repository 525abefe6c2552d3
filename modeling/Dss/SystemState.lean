import Dss.Base
import Dss.DeviceBinaryInput
import Dss.Group

/-!
# Combined states of binary inputs

`SystemState::stateBinaryinput`, which the state change of a binary input runs. Several inputs are
combined into one service state by counting: the node `/scripts/system_state/<state>.<group>` goes
up when an input becomes active and down when one becomes inactive, and the state goes inactive
when the node is down to 0.

The target group is part of the name of the state only from `GroupIDAppUserMin` on.
-/

namespace Dss

namespace SystemState

/-! ## Devices -/

/-- `DeviceBinaryInput`, as far as it is read here. -/
structure Input : Type where
  inputType : BinaryInputType
  inputId : ℤ
  targetGroupId : ℕ
  deriving DecidableEq

/-- `Device`. An input's index is a byte. -/
structure Device : Type where
  /-- `m_DSID`, as text -/
  dsuid : String
  zoneID : ℤ
  binaryInputs : List Input
  length_le : binaryInputs.length ≤ 256
  deriving DecidableEq

/-- `BinaryInputId::APP_MODE` -/
def appMode : ℤ := 15

/-- `BinaryInputState::makeName` -/
def makeName (dsuid : String) (inputIndex : ℕ) : String :=
  "dev." ++ dsuid ++ "." ++ toString inputIndex

/-- The states the inputs have published under `/usr/states`, with their node
`device/inputIndex`. -/
def inputIndexNodes (devices : List Device) : List (String × ℕ) :=
  devices.flatMap fun d =>
    (List.range d.binaryInputs.length).map fun i => (makeName d.dsuid i, i)

/-! ## States and counters -/

/-- `State`, as far as it is changed here. -/
structure State : Type where
  state : ℤ := stateInactive
  /-- `m_originDeviceDSUID`: empty for `DSUID_NULL` -/
  originDeviceDSUID : String := ""
  deriving DecidableEq

/-- What the handler sends besides changing states. -/
inductive Signal : Type where
  | callScene : ℤ → ℕ → ℕ → Signal
  /-- `createGenericSignalHeatingModeSwitch(value, coSystemBinaryInput)` -/
  | heatingModeSwitch : ℕ → Signal
  deriving DecidableEq

/-- What the handler reads and writes. -/
structure States : Type where
  /-- the states of the apartment that belong to no script, by name -/
  states : String → Option State
  /-- the integer nodes below `/scripts/system_state`, by name -/
  counters : String → Option ℤ
  stored : String → State := fun _ => {}
  signals : List Signal := []

namespace States

def modify (s : States) (name : String) (f : State → State) : States :=
  { s with states := Function.update s.states name ((s.states name).map f) }

/-- `State::setState` -/
def setState (s : States) (name : String) (value : ℤ) : States :=
  s.modify name fun st => { st with state := value }

/-- `State::setOriginDeviceDSUID` -/
def setOriginDeviceDSUID (s : States) (name dsuid : String) : States :=
  s.modify name fun st => { st with originDeviceDSUID := dsuid }

/-- `setIntegerValue` of a node below `/scripts/system_state`. -/
def setCounter (s : States) (node : String) (n : ℤ) : States :=
  { s with counters := Function.update s.counters node (some n) }

/-- `getIntegerValue` of such a node, which starts at 0. -/
def counter (s : States) (node : String) : ℤ := (s.counters node).getD 0

/-- `getOrRegisterState`: a new state takes over what its file holds. -/
def getOrRegisterState (s : States) (name : String) : States :=
  if (s.states name).isSome then s
  else { s with states := Function.update s.states name (some (s.stored name)) }

def send (s : States) (signal : Signal) : States := { s with signals := s.signals ++ [signal] }

end States

/-! ## Names -/

def formatZoneName (name : String) (zoneID : ℤ) : String :=
  "zone." ++ toString zoneID ++ "." ++ name

def formatGroupName (name : String) (groupID : ℕ) : String :=
  "cluster." ++ toString groupID ++ "." ++ name

def formatAppartmentStateName (name : String) (groupID : ℕ) : String :=
  name ++ ".group" ++ toString groupID

def counterNode (name : String) (targetGroupID : ℕ) : String :=
  name ++ "." ++ toString targetGroupID

/-! ## The handler -/

structure StateChange : Type where
  /-- the provider device of `m_raisedAtState` -/
  device : Device
  /-- the property `statename` -/
  statename : Option String
  /-- the property `value` -/
  value : Option String

/-- `strToIntDef(m_properties.get("value"), -1)` -/
def StateChange.iVal (event : StateChange) : Option ℤ :=
  event.value.map fun val => (parseInt? val).getD (-1)

def stateBinaryInputGeneric (s : States) (event : StateChange) (name : String)
    (targetGroupID : ℕ) : States :=
  let node := counterNode name targetGroupID
  let s := if (s.counters node).isNone then s.setCounter node 0 else s
  match event.iVal with
  | none => s
  | some iVal =>
    if iVal = 1 then
      let s := s.setCounter node (s.counter node + 1)
      (s.setState name stateActive).setOriginDeviceDSUID name event.device.dsuid
    else if iVal = 2 then
      let s := if 0 < s.counter node then s.setCounter node (s.counter node - 1) else s
      let s := if s.counter node = 0 then s.setState name stateInactive else s
      s.setOriginDeviceDSUID name event.device.dsuid
    else s

def combineRegistered (s : States) (event : StateChange) (name : String)
    (targetGroupID : ℕ) : States :=
  stateBinaryInputGeneric (s.getOrRegisterState name) event name targetGroupID

def combineExisting (s : States) (event : StateChange) (name : String)
    (targetGroupID : ℕ) : States :=
  if (s.states name).isSome then stateBinaryInputGeneric s event name targetGroupID else s

def combineInZone (s : States) (event : StateChange) (name : String) (input : Input) : States :=
  if groupIDAppUserMin ≤ input.targetGroupId then
    combineRegistered s event (formatGroupName name input.targetGroupId) input.targetGroupId
  else
    combineRegistered s event (formatZoneName name event.device.zoneID) input.targetGroupId

def combineInApartment (s : States) (event : StateChange) (name : String) (input : Input) :
    States :=
  if groupIDAppUserMin ≤ input.targetGroupId then
    combineRegistered s event (formatAppartmentStateName name input.targetGroupId)
      input.targetGroupId
  else combineExisting s event name input.targetGroupId

def smokeDetector (s : States) (event : StateChange) : States :=
  if event.iVal = some 1 then s.setState "fire" stateActive else s

/-- The zone thermostat calls scene 1 or off (5 and 0) in the heating group. -/
def roomThermostat (s : States) (event : StateChange) : States :=
  match event.iVal with
  | none => s
  | some iVal => s.send (.callScene event.device.zoneID 3 (if iVal = 1 then 5 else 0))

/-- The value of `HeatingModeSwitchValue` to switch to: off 0, heating 1, cooling 2. -/
def heatingMode (heating heatingMode : State) : Option ℕ :=
  if heating.state = stateInactive then some 0
  else if heating.state = stateActive then
    if heatingMode.state = stateActive then some 1
    else if heatingMode.state = stateInactive then some 2
    else none
  else none

def evaluateHeatingMode (s : States) : States :=
  match s.states "heating_system", s.states "heating_system_mode" with
  | some heating, some mode =>
    match heatingMode heating mode with
    | some value => s.send (.heatingModeSwitch value)
    | none => s
  | _, _ => s

/-- The blocks of `stateBinaryinput`: one for each kind of input. -/
def combine (s : States) (event : StateChange) (input : Input) : States :=
  match input.inputType with
  | .movement | .movementInDarkness => combineInZone s event "motion" input
  | .presence | .presenceInDarkness => combineInZone s event "presence" input
  | .smokeDetector => smokeDetector s event
  | .windDetector => combineInApartment s event "wind" input
  | .rainDetector => combineInApartment s event "rain" input
  | .roomThermostat => roomThermostat s event
  | .frostDetector => combineExisting s event "frost" input.targetGroupId
  | .heatingSystem =>
    evaluateHeatingMode (combineExisting s event "heating_system" input.targetGroupId)
  | .heatingSystemMode =>
    evaluateHeatingMode (combineExisting s event "heating_system_mode" input.targetGroupId)
  | _ => s

/-- `stateBinaryinput`: the index of the input is read from the node of its state. -/
def stateBinaryinput (devices : List Device) (s : States) (event : StateChange) : States :=
  match event.statename with
  | none => s
  | some statename =>
    if statename = "" then s
    else
      match (inputIndexNodes devices).lookup statename with
      | none => s
      | some inputIndex =>
        match event.device.binaryInputs[inputIndex % 256]? with
        | none => s
        | some input => if input.inputId = appMode then combine s event input else s

end SystemState

end Dss
