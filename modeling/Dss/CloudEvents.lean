import Dss.Event
import Dss.JsonPrograms
import Dss.Numbers
import Dss.PropertyPath

/-!
# Events as the clouds get them

`MsHub::toJson` and `DsHub::toJson`: an event is converted member by member, while the object it
becomes is open. An event that a hub does not know is refused before anything is written; a
property that should be a number and is not, or a device that is gone, ends the conversion where
it is. Both functions turn `std::invalid_argument` into a `DSSException`.

A pointer is `none` where the event was not raised at such an object, and fails when it is
dereferenced. `assert` is compiled in, as it is by default.
-/

namespace Dss

open Interruptible Program

/-! ## Events -/

/-- `eStateType` -/
inductive StateType : Type where
  | apartment | device | service | group | script | sensorZone | sensorDevice | circuit
  deriving DecidableEq

/-- What is read of a `State`. -/
structure CloudState : Type where
  /-- `getType` -/
  type : StateType
  /-- `getName` -/
  name : String
  /-- `toString`: the value -/
  value : String
  /-- `getProviderGroup`, by zone and group -/
  providerGroup : Option (ℤ × ℤ) := none
  /-- `getProviderDevice`, by dSUID -/
  providerDevice : Option String := none

structure CloudEvent extends Event where
  timestamp : ℤ := 0
  raisedAtState : Option CloudState := none

/-- What lies outside. -/
structure CloudRuntime : Type where
  /-- the writer behind `JSONWriter` -/
  writer : Json.Writer
  /-- `getRandomUUID`, for the n-th header; nothing, if the library fails -/
  uuid : ℕ → Option String
  /-- `DateTime::toISO8601` -/
  toISO8601 : ℤ → String
  /-- `DateTime::toISO8601_ms` -/
  toISO8601_ms : ℤ → String
  /-- `DSS::getStartTime` -/
  startTime : ℤ
  devices : String → Option (List ℕ)
  dsid : String

/-- What ends a conversion. -/
inductive Thrown : Type where
  /-- `std::invalid_argument` -/
  | invalidArgument : String → Thrown
  /-- `DSSException`, or a class derived from it -/
  | dssException : String → Thrown
  | nullPointer : Thrown
  | failedAssertion : Thrown
  deriving DecidableEq

/-- Whether `catch (DSSException&)` catches it. -/
def Thrown.isDSSException : Thrown → Bool
  | dssException _ => true
  | _ => false

namespace CloudEvent

/-- `getRaiseLocation() == erlGroup` -/
def atGroup (e : CloudEvent) : Bool :=
  match e.raisedAt with
  | .group _ _ => true
  | _ => false

/-- `getRaiseLocation() == erlDevice` -/
def atDevice (e : CloudEvent) : Bool :=
  match e.raisedAt with
  | .device _ _ => true
  | _ => false

/-- `getRaisedAtGroup`, by zone and group -/
def raisedAtGroup (e : CloudEvent) : Option (ℤ × ℤ) :=
  match e.raisedAt with
  | .group zoneID groupID => some (zoneID, groupID)
  | _ => none

/-- `getRaisedAtDevice`, by dSUID -/
def raisedAtDevice (e : CloudEvent) : Option String :=
  match e.raisedAt with
  | .device dsuid _ => some dsuid
  | _ => none

/-- `Event::toString` -/
def toString (e : CloudEvent) : String :=
  "name:" ++ e.name ++ " raise-loc:" ++
    (match e.raisedAt with
      | .group _ _ => "group"
      | .device _ _ => "device"
      | .apartment => "apartment"
      | .state => "state") ++
    " props:\x7b" ++ " ".intercalate (e.properties.entries.map fun p => p.1 ++ ":" ++ p.2) ++ "\x7d"

end CloudEvent

/-! ## The writer -/

/-- What is done with a `JSONWriter`, and with the number of headers so far. -/
abbrev JSONWriter (A : Type) : Type := Program ℕ Json.Call Thrown A

namespace JSONWriter

/-- `add` of a text. -/
def add (name value : String) : JSONWriter Unit := do
  call (.string name)
  call (.string (cString value))

/-- `add` of a number. -/
def addInt (name : String) (value : ℤ) : JSONWriter Unit := do
  call (.string name)
  call (.integer value)

/-- `add` of a `bool`. -/
def addBool (name : String) (value : Bool) : JSONWriter Unit := do
  call (.string name)
  call (.boolean value)

def deref {A : Type} : Option A → JSONWriter A
  | some a => pure a
  | none => fail .nullPointer

def strToInt (text : String) : JSONWriter ℤ :=
  match parseInt? text with
  | some i => pure i
  | none => fail (.invalidArgument ("strToInt: Could not parse value: '" ++ text ++ "'"))

def strToUInt (text : String) : JSONWriter ℕ :=
  match parseUInt? text with
  | some i => pure i
  | none => fail (.invalidArgument ("strToUInt: Could not parse value: '" ++ text ++ "'"))

/-- `getPropertyByName<SensorType>` -/
def getSensorType (e : CloudEvent) : JSONWriter ℤ :=
  if e.getPropertyByName "sensorType" = "" then pure 255
  else strToInt (e.getPropertyByName "sensorType")

def addProperties (e : CloudEvent) : JSONWriter Unit :=
  e.properties.entries.forM fun param => add param.1 param.2

/-- `catch (std::invalid_argument&)` -/
def catchInvalidArgument (e : CloudEvent) (x : JSONWriter Unit) : JSONWriter Unit := fun n =>
  match (x n).result with
  | .error (.invalidArgument _) =>
    ⟨(x n).calls, (x n).state,
      .error (.dssException ("Error converting event " ++ e.toString))⟩
  | _ => x n

def unhandled (e : CloudEvent) : JSONWriter Unit :=
  fail (.dssException ("unhandled event " ++ e.toString))

end JSONWriter

open JSONWriter

/-! ## The first hub -/

namespace MsHub

variable (rt : CloudRuntime) (e : CloudEvent)

def appendCommon (group category : String) : JSONWriter Unit := do
  add "EventGroup" group
  add "EventCategory" category
  add "Timestamp" (rt.toISO8601_ms e.timestamp)

/-- The branch for `StateChange`. The states of sensors have no common part. -/
def stateChange : JSONWriter Unit := do
  let state ← deref e.raisedAtState
  (match state.type with
    | .apartment | .service | .script =>
      appendCommon rt e "Activity" "ApartmentStateChange"
    | .group => appendCommon rt e "Activity" "ZoneStateChange"
    | .device | .circuit => appendCommon rt e "Activity" "DeviceInputState"
    | .sensorZone | .sensorDevice => pure ())
  add "StateName" state.name
  add "StateValue" state.value
  add "Origin" (e.getPropertyByName "callOrigin")

/-- What stands in the `try` of `toJson`. -/
def convert : JSONWriter Unit :=
  if e.name = "deviceSensorValue" ∧ e.atDevice then do
    appendCommon rt e "Metering" "DeviceSensorValue"
    addInt "SensorType" (← getSensorType e)
    add "SensorValue" (e.getPropertyByName "sensorValueFloat")
    add "DeviceID" (← deref e.raisedAtDevice)
    if e.getPropertyByName "sensorIndex" ≠ "" then
      add "SensorIndex" (e.getPropertyByName "sensorIndex")
  else if e.name = "zoneSensorValue" ∧ e.atGroup then do
    appendCommon rt e "Metering" "ZoneSensorValue"
    addInt "SensorType" (← getSensorType e)
    add "SensorValue" (e.getPropertyByName "sensorValueFloat")
    addInt "ZoneID" (← deref e.raisedAtGroup).1
    addInt "GroupID" (← deref e.raisedAtGroup).2
  else if e.name = "callScene" ∧ e.atGroup then do
    appendCommon rt e "Activity" "ZoneSceneCall"
    addInt "ZoneID" (← deref e.raisedAtGroup).1
    addInt "GroupID" (← deref e.raisedAtGroup).2
    addInt "SceneID" (← strToInt (e.getPropertyByName "sceneID"))
    addBool "Force" (e.hasPropertySet "forced")
    add "Origin" (e.getPropertyByName "callOrigin")
  else if e.name = "undoScene" ∧ e.atGroup then do
    appendCommon rt e "Activity" "ZoneUndoScene"
    addInt "ZoneID" (← deref e.raisedAtGroup).1
    addInt "GroupID" (← deref e.raisedAtGroup).2
    addInt "SceneID" (← strToInt (e.getPropertyByName "sceneID"))
    add "Origin" (e.getPropertyByName "callOrigin")
  else if e.name = "stateChange" then stateChange rt e
  else if e.name = "oldStateChange" then do
    appendCommon rt e "Activity" "ApartmentStateChange"
    add "StateName" (e.getPropertyByName "statename")
    add "StateValue" (e.getPropertyByName "state")
    add "Origin" (e.getPropertyByName "callOrigin")
  else if e.name = "addonStateChange" then do
    appendCommon rt e "Activity" "ApartmentStateChange"
    add "StateName" (e.getPropertyByName "scriptID" ++ "." ++ (← deref e.raisedAtState).name)
    add "StateValue" (← deref e.raisedAtState).value
    add "Origin" (e.getPropertyByName "scriptID")
  else if e.name = "deviceStatusEvent" ∧ e.atDevice then do
    appendCommon rt e "Activity" "DeviceStatusReport"
    add "StatusIndex" (e.getPropertyByName "statusIndex")
    add "StatusValue" (e.getPropertyByName "statusValue")
    add "DeviceID" (← deref e.raisedAtDevice)
  else if e.name = "deviceInvalidSensor" ∧ e.atDevice then do
    appendCommon rt e "ApartmentAndDevice" "DeviceSensorError"
    add "DeviceID" (← deref e.raisedAtDevice)
    addInt "SensorType" (← getSensorType e)
    addInt "StatusCode" 2
  else if e.name = "zoneSensorError" ∧ e.atGroup then do
    appendCommon rt e "ApartmentAndDevice" "ZoneSensorError"
    addInt "SensorType" (← getSensorType e)
    addInt "ZoneID" (← deref e.raisedAtGroup).1
    addInt "GroupID" (← deref e.raisedAtGroup).2
    addInt "StatusCode" 2
  else if e.name = "HeatingControllerSetup" then do
    appendCommon rt e "ApartmentAndDevice" "HeatingControllerSetup"
    addProperties e
  else if e.name = "HeatingControllerValue" then do
    appendCommon rt e "ApartmentAndDevice" "HeatingControllerValue"
    addProperties e
  else if e.name = "HeatingControllerState" then do
    appendCommon rt e "ApartmentAndDevice" "HeatingControllerState"
    addProperties e
  else if e.name = "HeatingEnabled" then do
    appendCommon rt e "ApartmentAndDevice" "HeatingEnabled"
    add "HeatingEnabled" (e.getPropertyByName "HeatingEnabled")
    add "CoolingEnabled" (e.getPropertyByName "CoolingEnabled")
  else if e.name = "HeatingSystemCapability" then do
    appendCommon rt e "ApartmentAndDevice" "HeatingSystemCapability"
    add "HeatingSupported" (e.getPropertyByName "HeatingSupported")
    add "CoolingSupported" (e.getPropertyByName "CoolingSupported")
  else if e.name = "AddonToCloud" then do
    appendCommon rt e "Activity" "AddOnToCloud"
    add "EventName" (e.getPropertyByName "EventName")
    Json.object "parameter" (addProperties e)
  else unhandled e

def toJson : JSONWriter Unit := catchInvalidArgument e (convert rt e)

end MsHub

/-! ## The second hub -/

namespace DsHub

variable (rt : CloudRuntime) (e : CloudEvent)

def createHeader (group category : String) : JSONWriter Unit := do
  let sequenceId ← get
  match rt.uuid sequenceId with
  | none => fail .failedAssertion
  | some eventId => do
    Json.object "EventHeader" (do
      add "EventCategory" category
      add "EventGroup" group
      modify (· + 1)
      addInt "SequenceID" ((sequenceId : ℤ).bmod (2 ^ 32))
      add "SequenceIDSince" (rt.toISO8601 rt.startTime)
      add "Timestamp" (rt.toISO8601 e.timestamp)
      add "EventID" eventId
      add "Source" "dss")

/-- A header, and a body that is opened and closed around `body`. -/
def createEvent (group category : String) (body : JSONWriter Unit) : JSONWriter Unit := do
  createHeader rt e group category
  Json.object "EventBody" body

def stateToJson : JSONWriter Unit := do
  add "StateName" (e.getPropertyByName "statename")
  add "StateValue" (e.getPropertyByName "state")
  add "Value" (e.getPropertyByName "value")
  add "OldValue" (e.getPropertyByName "oldvalue")

def sensorUsage (usages : List ℕ) (sensorIndex : ℕ) : ℕ :=
  if sensorIndex < usages.length % 2 ^ 8 then usages.getD sensorIndex 0 else 0

/-- `getDevice` of the device where the event was raised. -/
def getDevice : JSONWriter (List ℕ) := do
  let dsuid ← deref e.raisedAtDevice
  match rt.devices dsuid with
  | some usages => pure usages
  | none => fail (.dssException dsuid)

def addIfSet (name property : String) : JSONWriter Unit :=
  if e.hasPropertySet property then add name (e.getPropertyByName property) else pure ()

def addSensorIndex : JSONWriter Unit := do
  add "SensorIndex" (e.getPropertyByName "sensorIndex")
  let sensorIndex ← strToUInt (e.getPropertyByName "sensorIndex")
  let usages ← getDevice rt e
  addInt "DeviceMeasurementContextType"
    (match sensorUsage usages (sensorIndex % 2 ^ 8) with
      | 5 => 2
      | 6 => 3
      | _ => 1)

/-- The body of `DeviceSensorValue`. -/
def deviceSensorValue : JSONWriter Unit := do
  addInt "SensorType" (← getSensorType e)
  add "SensorValue" (e.getPropertyByName "sensorValueFloat")
  add "DeviceID" (← deref e.raisedAtDevice)
  (if e.getPropertyByName "sensorIndex" ≠ "" then addSensorIndex rt e else pure ())
  addIfSet e "ContextRefId" "contextId"
  addIfSet e "ContextRefString" "contextMsg"
  addIfSet e "ContextTimestamp" "contextTimestamp"

/-- What `CallScene` and `IdentifyBlink` begin with: the body is opened for a group or a device
only. -/
def openBody (zoneCategory deviceCategory : String) : JSONWriter Unit :=
  if e.atGroup then do
    createHeader rt e "Activity" zoneCategory
    call (.string "EventBody")
    call .startObject
    addInt "ZoneID" (← deref e.raisedAtGroup).1
    addInt "GroupID" (← deref e.raisedAtGroup).2
  else if e.atDevice then do
    createHeader rt e "Activity" deviceCategory
    call (.string "EventBody")
    call .startObject
    add "DeviceID" (← deref e.raisedAtDevice)
  else pure ()

/-- The branch for `CallScene`. The body is closed wherever the event was raised. -/
def callScene : JSONWriter Unit := do
  openBody rt e "ZoneSceneCall" "DeviceSceneCall"
  addInt "SceneID" (← strToInt (e.getPropertyByName "sceneID"))
  addBool "Force" (e.hasPropertySet "forced")
  add "Origin" (e.getPropertyByName "callOrigin")
  call .endObject

/-- The branch for `IdentifyBlink`. The body is closed wherever the event was raised. -/
def identifyBlink : JSONWriter Unit := do
  openBody rt e "ZoneBlink" "DeviceBlink"
  add "Origin" (e.getPropertyByName "callOrigin")
  call .endObject

/-- The branch for `StateChange`. Nothing is written for the state of a circuit. -/
def stateChange : JSONWriter Unit := do
  let state ← deref e.raisedAtState
  match state.type with
  | .apartment | .service | .script =>
    createEvent rt e "Activity" "ApartmentStateChange" (do
      add "Origin" (e.getPropertyByName "callOrigin")
      stateToJson e)
  | .group | .sensorZone =>
    createEvent rt e "Activity" "ZoneStateChange" (do
      add "ZoneId" (toString (← deref state.providerGroup).1)
      add "GroupId" (toString (← deref state.providerGroup).2)
      stateToJson e)
  | .device | .sensorDevice =>
    createEvent rt e "Activity" "DeviceStateChange" (do
      add "DeviceID" (← deref state.providerDevice)
      stateToJson e)
  | .circuit => pure ()

/-- The parameters of an action: the properties whose name begins with `params.`. -/
def addParameters : JSONWriter Unit :=
  Json.array "Parameter" (e.properties.entries.forM fun param =>
    if "params.".toList <+: param.1.toList then
      Json.item (do
        add "Name" (String.ofList (param.1.toList.drop 7))
        add "Value" param.2)
    else pure ())

/-- What stands in the `try` of `toJson`. -/
def convert : JSONWriter Unit :=
  -- sensoric
  if e.name = "deviceSensorValue" ∧ e.atDevice then
    createEvent rt e "Metering" "DeviceSensorValue" (deviceSensorValue rt e)
  else if e.name = "deviceInvalidSensor" ∧ e.atDevice then
    createEvent rt e "Metering" "DeviceSensorError" (do
      addInt "SensorType" (← getSensorType e)
      addInt "StatusCode" 2
      add "DeviceID" (← deref e.raisedAtDevice))
  else if e.name = "zoneSensorValue" ∧ e.atGroup then
    createEvent rt e "Metering" "ZoneSensorValue" (do
      addInt "SensorType" (← getSensorType e)
      add "SensorValue" (e.getPropertyByName "sensorValueFloat")
      addInt "ZoneID" (← deref e.raisedAtGroup).1
      addInt "GroupID" (← deref e.raisedAtGroup).2)
  else if e.name = "zoneSensorError" ∧ e.atGroup then
    createEvent rt e "Metering" "ZoneSensorError" (do
      addInt "SensorType" (← getSensorType e)
      addInt "StatusCode" 2
      addInt "ZoneID" (← deref e.raisedAtGroup).1
      addInt "GroupID" (← deref e.raisedAtGroup).2)
  -- inputs
  else if e.name = "deviceBinaryInputEvent" then
    createEvent rt e "Activity" "DeviceBinaryInput" (do
      add "InputIndex" (e.getPropertyByName "inputIndex")
      add "InputValue" (e.getPropertyByName "inputValue")
      add "DeviceID" (← deref e.raisedAtDevice))
  else if e.name = "deviceStatusEvent" ∧ e.atDevice then
    createEvent rt e "Activity" "DeviceStatusError" (do
      add "Index" (e.getPropertyByName "statusIndex")
      add "Value" (e.getPropertyByName "statusValue")
      add "DeviceID" (← deref e.raisedAtDevice))
  else if e.name = "deviceSensorEvent" ∧ e.atDevice then
    createEvent rt e "Activity" "DeviceAutomation" (do
      add "Value" (e.getPropertyByName "sensorEvent")
      add "DeviceID" (← deref e.raisedAtDevice))
  else if e.name = "buttonClick" ∧ e.atDevice then
    createEvent rt e "Activity" "DeviceAppButtonClick" (do
      add "ButtonIndex" (e.getPropertyByName "buttonIndex")
      add "ClickType" (e.getPropertyByName "clickType")
      add "HoldCount" (e.getPropertyByName "holdCount")
      add "DeviceID" (← deref e.raisedAtDevice))
  else if e.name = "buttonDeviceAction" ∧ e.atDevice then
    createEvent rt e "Activity" "DeviceAppActionClick" (do
      add "Value" (e.getPropertyByName "actionID")
      add "DeviceID" (← deref e.raisedAtDevice))
  -- activity
  else if e.name = "callScene" then callScene rt e
  else if e.name = "undoScene" ∧ e.atGroup then
    createEvent rt e "Activity" "ZoneUndoScene" (do
      addInt "ZoneID" (← deref e.raisedAtGroup).1
      addInt "GroupID" (← deref e.raisedAtGroup).2
      addInt "SceneID" (← strToInt (e.getPropertyByName "sceneID"))
      add "Origin" (e.getPropertyByName "callOrigin"))
  else if e.name = "blink" then identifyBlink rt e
  else if e.name = "highlevelevent" then
    createEvent rt e "Activity" "UserDefinedAction" (do
      add "SourceName" (e.getPropertyByName "callOrigin")
      add "UserDefinedActionID" (e.getPropertyByName "id"))
  -- states and addons
  else if e.name = "stateChange" then stateChange rt e
  else if e.name = "addonStateChange" then
    createEvent rt e "Activity" "ApartmentStateChange" (do
      add "StateName" (e.getPropertyByName "scriptID" ++ "." ++ (← deref e.raisedAtState).name)
      add "StateValue" (← deref e.raisedAtState).value
      add "Origin" (e.getPropertyByName "scriptID"))
  -- vdc devices
  else if e.name = "deviceActionEvent" ∧ e.atDevice then
    createEvent rt e "Activity" "DeviceActionEvent" (do
      add "ActionId" (e.getPropertyByName "actionId")
      add "DeviceID" (← deref e.raisedAtDevice)
      addParameters e)
  else if e.name = "deviceEventEvent" ∧ e.atDevice then
    createEvent rt e "Activity" "DeviceEventEvent" (do
      add "EventId" (e.getPropertyByName "eventId")
      add "DeviceID" (← deref e.raisedAtDevice))
  else if e.name = "deviceStateEvent" ∧ e.atDevice then
    createEvent rt e "Activity" "DeviceStateEvent" (do
      add "StateId" (e.getPropertyByName "stateId")
      add "Value" (e.getPropertyByName "value")
      add "DeviceID" (← deref e.raisedAtDevice))
  else if e.name = "deviceCustomActionChangedEvent" ∧ e.atDevice then
    createEvent rt e "Activity" "DeviceCustomActionChangedEvent" (do
      add "CustomActionId" (e.getPropertyByName "customActionId")
      add "ActionId" (e.getPropertyByName "actionId")
      add "CustomActionTitle" (e.getPropertyByName "customActionTitle")
      add "DeviceID" (← deref e.raisedAtDevice)
      addParameters e)
  -- heating
  else if e.name = "HeatingControllerSetup" then
    createEvent rt e "ApartmentAndDevice" "HeatingControllerSetup" (addProperties e)
  else if e.name = "HeatingControllerValueDsHub" then
    createEvent rt e "ApartmentAndDevice" "HeatingControllerValue" (addProperties e)
  else if e.name = "HeatingControllerState" then
    createEvent rt e "ApartmentAndDevice" "HeatingControllerState" (addProperties e)
  else if e.name = "HeatingEnabled" then
    createEvent rt e "ApartmentAndDevice" "HeatingEnabled" (do
      addBool "HeatingEnabled" (e.getPropertyByName "HeatingEnabled" == "true")
      addBool "CoolingEnabled" (e.getPropertyByName "CoolingEnabled" == "true"))
  else if e.name = "HeatingSystemCapability" then
    createEvent rt e "ApartmentAndDevice" "HeatingSystemCapability" (do
      addBool "HeatingSupported" (e.getPropertyByName "HeatingSupported" == "true")
      addBool "CoolingSupported" (e.getPropertyByName "CoolingSupported" == "true"))
  -- configuration
  else if e.name = "AddonToCloud" then
    createEvent rt e "ApartmentAndDevice" "AddOnToCloud" (do
      add "EventName" (e.getPropertyByName "EventName")
      Json.object "Parameter" (addProperties e))
  -- misc
  else if e.name = "executionDenied" then
    createEvent rt e "Activity" "ExecutionDenied" (do
      add "ActivityType" (e.getPropertyByName "action-type")
      add "ActivityName" (e.getPropertyByName "action-name")
      add "SourceName" (e.getPropertyByName "source-name")
      add "Reason" (e.getPropertyByName "reason"))
  else if e.name = "logFileData" then
    createEvent rt e "Activity" "LogFileData" (pure ())
  else unhandled e

def toJson : JSONWriter Unit := catchInvalidArgument e (convert rt e)

end DsHub

end Dss
