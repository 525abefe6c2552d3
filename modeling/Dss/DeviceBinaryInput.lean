import Dss.DeferredScenes
import Dss.StatusField

/-!
# Binary inputs of devices

The binary inputs of all devices, the state objects they own, and the status fields they are
registered with. Making a handle on the field that type and target group select adds the input's
state to the field, dropping it removes the state.

Every operation returns `none` where a `DS_REQUIRE` fires. An operation that throws
`ItemNotFoundException` ends with the changes it has made by then.
-/

namespace Dss

/-- `BinaryInputType`; a device can report any other number, too. -/
inductive BinaryInputType : Type where
  | presence | roomBrightness | presenceInDarkness | twilightExternal | movement
  | movementInDarkness | smokeDetector | windDetector | rainDetector | sunRadiation
  | roomThermostat | batteryLow | windowContact | doorContact | windowTilt
  | garageDoorContact | sunProtection | frostDetector | heatingSystem
  | heatingSystemMode | powerUp | malfunction | service
  | unlisted (n : ℤ)
  deriving DecidableEq

def statusFieldTypeForBinaryInputType : BinaryInputType → Option StatusFieldType
  | .malfunction => some .malfunction
  | .service => some .service
  | _ => none

/-- The number `handleEvent` stores in the state of an input: its own numbering for
window handles (closed, open, tilted, unknown), `eState` for all other inputs. -/
def stateForEvent (inputType : BinaryInputType) (inputState : ℤ) : ℤ :=
  if inputType = .windowTilt then
    if inputState = 0 then 1 else if inputState = 1 then 2 else if inputState = 2 then 3 else 4
  else
    if inputState = 0 then stateInactive
    else if inputState = 1 then stateActive
    else stateUnknown

structure FieldId : Type where
  group : ℕ
  type : StatusFieldType
  deriving DecidableEq

/-- `DeviceBinaryInputSpec_t`, with what the constructor finds outside. -/
structure DeviceBinaryInputSpec : Type where
  targetGroup : ℕ
  inputType : BinaryInputType
  /-- what the file of the state holds: `stateInvalid` without one -/
  persisted : ℤ := stateInvalid
  deriving DecidableEq

structure DeviceBinaryInput : Type where
  inputIndex : ℕ
  inputType : BinaryInputType
  targetGroupId : ℕ
  /-- `m_state`: the number of the state object -/
  state : ℕ
  /-- `m_statusFieldHandle`: the field it refers to -/
  statusFieldHandle : Option FieldId := none
  deriving DecidableEq

/-- The members the constructor sets, before it looks for the status field. -/
def DeviceBinaryInput.ofSpec (spec : DeviceBinaryInputSpec) (index state : ℕ) :
    DeviceBinaryInput where
  inputIndex := index
  inputType := spec.inputType
  targetGroupId := spec.targetGroup
  state := state

/-- Writing `m_statusFieldHandle`. -/
def DeviceBinaryInput.setHandle (i : DeviceBinaryInput) (handle : Option FieldId) :
    DeviceBinaryInput :=
  { i with statusFieldHandle := handle }

/-- The devices, states and status fields of the apartment. -/
structure StatusWorld : Type where
  values : ℕ → ℤ
  /-- the number of state objects made so far -/
  allocated : ℕ
  /-- the states `dev.<dsuid>.<index>` of the apartment -/
  states : Dsuid × ℕ → Option ℕ
  /-- whether a script has made a state of that name -/
  scripted : Dsuid × ℕ → Bool
  /-- `m_binaryInputs` of each device -/
  binaryInputs : Dsuid → List DeviceBinaryInput
  /-- whether a group of zone 0 exists and has a status -/
  hasStatus : ℕ → Bool
  fields : FieldId → StatusField

namespace StatusWorld

/-! ## Handles -/

def setFields (w : StatusWorld) (fields : FieldId → StatusField) : StatusWorld :=
  { w with fields := fields }

def setField (w : StatusWorld) (f : FieldId) (field : StatusField) : StatusWorld :=
  w.setFields (Function.update w.fields f field)

def setBinaryInputList (w : StatusWorld) (d : Dsuid) (inputs : List DeviceBinaryInput) :
    StatusWorld :=
  { w with binaryInputs := Function.update w.binaryInputs d inputs }

/-- `StatusFieldHandle::StatusFieldHandle` -/
def makeHandle (w : StatusWorld) (f : FieldId) (state : ℕ) : Option StatusWorld :=
  ((w.fields f).addSubState state (w.values state)).map (w.setField f)

/-- `StatusFieldHandle::~StatusFieldHandle`, if there is a handle. -/
def resetHandle (w : StatusWorld) (handle : Option FieldId) (state : ℕ) : Option StatusWorld :=
  match handle with
  | none => some w
  | some f => ((w.fields f).removeSubState state).map (w.setField f)

/-- `StatusFieldHandle::update`, if there is a handle. -/
def updateHandle (w : StatusWorld) (handle : Option FieldId) (state : ℕ) : Option StatusWorld :=
  match handle with
  | none => some w
  | some f => ((w.fields f).updateSubState state (w.values state)).map (w.setField f)

/-- The field `updateStatusFieldHandle` looks up. -/
def targetField (w : StatusWorld) (i : DeviceBinaryInput) : Option FieldId :=
  if i.targetGroupId = 0 then none
  else
    match statusFieldTypeForBinaryInputType i.inputType with
    | none => none
    | some type => if w.hasStatus i.targetGroupId then some ⟨i.targetGroupId, type⟩ else none

def updateStatusFieldHandle (w : StatusWorld) (i : DeviceBinaryInput) :
    Option (StatusWorld × DeviceBinaryInput) :=
  if i.statusFieldHandle = w.targetField i then some (w, i)
  else
    (w.resetHandle i.statusFieldHandle i.state).bind fun w =>
      match w.targetField i with
      | none => some (w, i.setHandle none)
      | some f =>
        (w.makeHandle f i.state).map fun w => (w, i.setHandle (some f))

/-! ## Inputs -/

/-- `BinaryInputState::BinaryInputState`: the new state object has the number
`w.allocated`. -/
def makeState (w : StatusWorld) (persisted : ℤ) : StatusWorld :=
  { w with
    values := Function.update w.values w.allocated persisted
    allocated := w.allocated + 1 }

/-- `Apartment::allocateState`, when it does not throw `ItemDuplicateException`. -/
def allocateState (w : StatusWorld) (name : Dsuid × ℕ) (state : ℕ) : StatusWorld :=
  { w with states := Function.update w.states name (some state) }

/-- `Apartment::removeState` -/
def removeState (w : StatusWorld) (state : ℕ) : StatusWorld :=
  { w with states := fun name => if w.states name = some state then none else w.states name }

/-- `DeviceBinaryInput::DeviceBinaryInput`. A state of the name that is not a
script's is shared; the inner `none` is the `ItemNotFoundException` of
`getNonScriptState`, when there is only a script's. -/
def construct (w : StatusWorld) (d : Dsuid) (index : ℕ) (spec : DeviceBinaryInputSpec) :
    Option (StatusWorld × Option DeviceBinaryInput) :=
  let made := w.makeState spec.persisted
  match w.states (d, index) with
  | some shared =>
    (made.updateStatusFieldHandle (.ofSpec spec index shared)).map fun r => (r.1, some r.2)
  | none =>
    if w.scripted (d, index) then some (made, none)
    else
      ((made.allocateState (d, index) w.allocated).updateStatusFieldHandle
        (.ofSpec spec index w.allocated)).map fun r => (r.1, some r.2)

/-- `DeviceBinaryInput::~DeviceBinaryInput`: `removeState`, then the handle goes. -/
def destroy (w : StatusWorld) (i : DeviceBinaryInput) : Option StatusWorld :=
  (w.removeState i.state).resetHandle i.statusFieldHandle i.state

/-- `DeviceBinaryInput::setTargetId` -/
def setTargetId (w : StatusWorld) (i : DeviceBinaryInput) (targetGroupId : ℕ) :
    Option (StatusWorld × DeviceBinaryInput) :=
  if i.targetGroupId = targetGroupId then some (w, i)
  else w.updateStatusFieldHandle { i with targetGroupId := targetGroupId }

/-- `DeviceBinaryInput::setInputType` -/
def setInputType (w : StatusWorld) (i : DeviceBinaryInput) (inputType : BinaryInputType) :
    Option (StatusWorld × DeviceBinaryInput) :=
  if i.inputType = inputType then some (w, i)
  else w.updateStatusFieldHandle { i with inputType := inputType }

/-- `State::setState` -/
def setState (w : StatusWorld) (state : ℕ) (value : ℤ) : StatusWorld :=
  { w with values := Function.update w.values state value }

/-- `DeviceBinaryInput::handleEvent` -/
def handleEvent (w : StatusWorld) (i : DeviceBinaryInput) (inputState : ℤ) :
    Option (StatusWorld × DeviceBinaryInput) :=
  ((w.setState i.state (stateForEvent i.inputType inputState)).updateHandle
    i.statusFieldHandle i.state).map fun w => (w, i)

/-! ## Devices -/

def clearLoop (w : StatusWorld) (d : Dsuid) : List DeviceBinaryInput → Option StatusWorld
  | [] => some w
  | i :: rest => ((w.setBinaryInputList d rest).destroy i).bind fun w => w.clearLoop d rest

/-- `Device::clearBinaryInputs` -/
def clearBinaryInputs (w : StatusWorld) (d : Dsuid) : Option StatusWorld :=
  w.clearLoop d (w.binaryInputs d)

/-- The loop of `setBinaryInputs`; an exception of the constructor ends it. -/
def createLoop (w : StatusWorld) (d : Dsuid) : List DeviceBinaryInputSpec → Option StatusWorld
  | [] => some w
  | spec :: specs =>
    (w.construct d (w.binaryInputs d).length spec).bind fun
      | (w, none) => some w
      | (w, some i) => (w.setBinaryInputList d (w.binaryInputs d ++ [i])).createLoop d specs

/-- `Device::setBinaryInputs` -/
def setBinaryInputs (w : StatusWorld) (d : Dsuid) (specs : List DeviceBinaryInputSpec) :
    Option StatusWorld :=
  (w.clearBinaryInputs d).bind fun w => w.createLoop d specs

/-- An operation on the input `getBinaryInput` finds. The count it compares the
index with is cut to eight bits; out of bounds, it throws. -/
def onBinaryInput (w : StatusWorld) (d : Dsuid) (index : UInt8)
    (op : StatusWorld → DeviceBinaryInput → Option (StatusWorld × DeviceBinaryInput)) :
    Option StatusWorld :=
  let inputs := w.binaryInputs d
  if inputs.length % 256 ≤ index.toNat then some w
  else
    match inputs[index.toNat]? with
    | none => some w
    | some i =>
      (op w i).map fun (w, i) => w.setBinaryInputList d (inputs.set index.toNat i)

end StatusWorld

inductive StatusOperation : Type where
  /-- `Device::setBinaryInputs`, on every scan of the device -/
  | setBinaryInputs (d : Dsuid) (specs : List DeviceBinaryInputSpec)
  /-- `Device::clearBinaryInputs`, when the device is removed -/
  | clearBinaryInputs (d : Dsuid)
  /-- `Device::setBinaryInputTargetId` -/
  | setBinaryInputTargetId (d : Dsuid) (index : UInt8) (targetGroupId : UInt8)
  /-- `Device::setBinaryInputType` -/
  | setBinaryInputType (d : Dsuid) (index : UInt8) (inputType : BinaryInputType)
  /-- `Device::handleBinaryInputEvent` -/
  | handleBinaryInputEvent (d : Dsuid) (index : ℤ) (inputState : ℤ)
  /-- `StatusField::setValueAndPush` -/
  | setValueAndPush (f : FieldId) (value : StatusFieldValue)

namespace StatusWorld

/-- One operation; `none` is a `DS_REQUIRE` of a status field that fires. -/
def perform (w : StatusWorld) : StatusOperation → Option StatusWorld
  | .setBinaryInputs d specs => w.setBinaryInputs d specs
  | .clearBinaryInputs d => w.clearBinaryInputs d
  | .setBinaryInputTargetId d index targetGroupId =>
    w.onBinaryInput d index fun w i => w.setTargetId i targetGroupId.toNat
  | .setBinaryInputType d index inputType =>
    w.onBinaryInput d index fun w i => w.setInputType i inputType
  | .handleBinaryInputEvent d index inputState =>
    w.onBinaryInput d (UInt8.ofInt index) fun w i => w.handleEvent i inputState
  | .setValueAndPush f value => some (w.setField f ((w.fields f).setValueAndPush value))

def performAll (w : StatusWorld) (ops : List StatusOperation) : Option StatusWorld :=
  ops.foldlM perform w

/-- The apartment before the first device is read: `restored` are the numbers the
states of the status fields are loaded with. -/
def start (hasStatus : ℕ → Bool) (scripted : Dsuid × ℕ → Bool) (restored : FieldId → ℤ) :
    StatusWorld where
  values := fun _ => stateInvalid
  allocated := 0
  states := fun _ => none
  scripted := scripted
  binaryInputs := fun _ => []
  hasStatus := hasStatus
  fields := fun f => { state := restored f }

end StatusWorld

end Dss
