import Dss.Event
import Dss.PropertyNode

/-!
# Trigger checks

`SystemTrigger::checkTrigger`: whether one of the trigger nodes of a definition fits the event. A
check first reads the parameters of the event, which throws a `std::runtime_error` when one is
missing, and then the nodes of the trigger. What a node with a value of the wrong type does depends
on the check: some answer `false`, some throw.

What is not in the sources is a field of `Runtime`, as are the clock, the rest of the property tree
and the event queue.
-/

namespace Dss

/-- What the handler asks outside its own code during one run. -/
structure Runtime : Type where
  doubleToString : Float → String
  /-- the number a text is, when `strtod` reads all of it -/
  strtod : String → Option Float
  /-- the time a text of an accepted length stands for, by `strptime`, in
  seconds; nothing for a wrong format -/
  strptime : String → Option ℤ
  /-- `dsuid_from_string`, with the dSUID as `dsuid2str` writes it -/
  dsuidFromString : String → Option String
  /-- `dsuid2str` of a dSUID that was never set -/
  unsetDSUID : String
  now : ℤ
  /-- the current time, as `toISO8601` writes it -/
  nowISO8601 : String
  /-- `getWeekday` of the current time -/
  weekday : ℤ
  secNow : ℕ
  /-- `isDateInside` at the current time for a rule, a start and an end; their
  constructor parses the dates -/
  isDateInside : String → String → String → Except Exception Bool
  /-- `PropertySystem::getProperty` outside the trigger definitions -/
  getProperty : String → Option PropertyNode
  /-- what `EventQueue::pushEvent` throws, if it does -/
  pushEvent : Event → Option Exception
  /-- the id `EventQueue::pushTimedEvent` gives; empty when it refuses -/
  pushTimedEvent : Event → String

/-- `Properties::get` without a default. -/
def Properties.get (p : Properties) (key : String) : Except Failure String :=
  match p.lookup key with
  | some value => .ok value
  | none => .error (.exception
      (.runtimeError ("could not find value for '" ++ key ++ "' in properties")))

/-- `DSUID_NULL`, as `dsuid2str` writes it. -/
def dsuidNullText : String := "0000000000000000000000000000000000"

def strToInt (text : String) : Except Failure ℤ :=
  match parseInt? text with
  | some i => .ok i
  | none => .error (.exception
      (.invalidArgument ("strToInt: Could not parse value: '" ++ text ++ "'")))

def strToDouble (rt : Runtime) (text : String) : Except Failure Float :=
  match if text = "" then none else rt.strtod text with
  | some x => .ok x
  | none => .error (.exception
      (.invalidArgument ("strToDouble: Could not parse value: '" ++ text ++ "'")))

def str2dsuid (rt : Runtime) (text : String) : Except Failure String :=
  match rt.dsuidFromString text with
  | some dsuid => .ok dsuid
  | none => .error (.exception
      (.runtimeError "can not convert from string, invalid dSUID"))

/-- The members of `SystemTrigger`, taken from the event. -/
structure SystemTrigger : Type where
  evtName : String
  properties : Properties
  evtSrcIsGroup : Bool
  evtSrcIsDevice : Bool
  evtSrcZone : ℤ
  evtSrcGroup : ℤ
  /-- `m_evtSrcDSID`; only set for an event raised at a device -/
  evtSrcDSID : String

namespace SystemTrigger

/-- The constructor. An event of the apartment is raised at the broadcast group
of zone 0. -/
def ofEvent (rt : Runtime) (e : Event) : SystemTrigger :=
  let t : SystemTrigger :=
    { evtName := e.name, properties := e.properties, evtSrcIsGroup := false,
      evtSrcIsDevice := false, evtSrcZone := 0, evtSrcGroup := 0, evtSrcDSID := rt.unsetDSUID }
  match e.raisedAt with
  | .group zoneID groupID =>
    { t with evtSrcIsGroup := true, evtSrcZone := zoneID, evtSrcGroup := groupID }
  | .device dsuid zoneID =>
    { t with evtSrcIsDevice := true, evtSrcZone := zoneID, evtSrcDSID := dsuid }
  | .apartment | .state => t

variable (rt : Runtime) (t : SystemTrigger) (trigger : PropertyNode)

/-! ## Scenes -/

def originDSUID : Except Failure String :=
  match t.properties.lookup "originDSUID" with
  | some text => str2dsuid rt text
  | none => .ok rt.unsetDSUID

/-- An integer node that has to be there and to hold an integer: a mismatch is
caught on the spot. -/
def integerFits (node : Option PropertyNode) (p : ℤ → Bool) : Bool :=
  match node with
  | none => false
  | some node =>
    match node.getIntegerValue with
    | .ok i => p i
    | .error _ => false

/-- The test of the origin at the end of both zone checks. -/
def originFits (origin : String) : Bool :=
  match trigger.getPropertyByName "dsuid" with
  | none => true
  | some node =>
    let device := node.getAsString rt.doubleToString
    device == "" || device == "-1" || device == origin

def checkSceneZone : Except Failure Bool := do
  if !(t.evtName == "callScene" || t.evtName == "callSceneBus") then return false
  if !t.evtSrcIsGroup then return false
  let scene := strToIntDef (← t.properties.get "sceneID") (-1)
  let origin ← t.originDSUID rt
  let forced := t.properties.getD "forced" "" == "true"
  if !integerFits (trigger.getPropertyByName "zone")
      (fun zone => zone < 0 || zone == t.evtSrcZone) then return false
  if !integerFits (trigger.getPropertyByName "group")
      (fun group => group < 0 || group == t.evtSrcGroup) then return false
  if !integerFits (trigger.getPropertyByName "scene") (· == scene) then return false
  if !originFits rt trigger origin then return false
  match trigger.getPropertyByName "forced" with
  | none => return true
  | some flag =>
    match flag.getBoolValue with
    | .ok iForced => return iForced == forced
    | .error _ => return false

/-- `checkUndoSceneZone`: group and scene may be missing, and any negative
scene stands for all. -/
def checkUndoSceneZone : Except Failure Bool := do
  if t.evtName != "undoScene" then return false
  if !t.evtSrcIsGroup then return false
  let scene := strToIntDef (← t.properties.get "sceneID") (-1)
  let origin ← t.originDSUID rt
  let fits (node : Option PropertyNode) (value : ℤ) : Bool :=
    node.isNone || integerFits node (fun i => i < 0 || i == value)
  if (trigger.getPropertyByName "zone").isNone then return false
  if !fits (trigger.getPropertyByName "zone") t.evtSrcZone then return false
  if !fits (trigger.getPropertyByName "group") t.evtSrcGroup then return false
  if !fits (trigger.getPropertyByName "scene") scene then return false
  return originFits rt trigger origin

def checkDeviceScene : Except Failure Bool := do
  if t.evtName != "callScene" then return false
  if !t.evtSrcIsDevice then return false
  let scene := strToIntDef (← t.properties.get "sceneID") (-1)
  if t.evtSrcDSID == dsuidNullText then return false
  let some triggerDSID := trigger.getPropertyByName "dsuid" | return false
  let some triggerScene := trigger.getPropertyByName "scene" | return false
  let sDSID ← triggerDSID.getStringValue
  if !integerFits (some triggerScene) (· == scene) then return false
  return sDSID == "-1" || sDSID == t.evtSrcDSID

/-! ## Devices -/

def checkDeviceSensor : Except Failure Bool := do
  if t.evtName != "deviceSensorEvent" then return false
  let eventName ← t.properties.get "sensorEvent"
  let eventIndex ← t.properties.get "sensorIndex"
  let some triggerDSID := trigger.getPropertyByName "dsuid" | return false
  let sDSID ← triggerDSID.getStringValue
  if !(sDSID == "-1" || sDSID == t.evtSrcDSID) then return false
  match trigger.getPropertyByName "eventid" with
  | none =>
    let some triggerName := trigger.getPropertyByName "evt" | return false
    let iName ← triggerName.getStringValue
    return iName == eventName || iName == "-1"
  | some triggerEventId =>
    let iEventId := triggerEventId.getAsString rt.doubleToString
    return iEventId == eventIndex || iEventId == "-1"

/-- `checkDeviceBinaryInput`: dSUID, index and state, or type and state. -/
def checkDeviceBinaryInput : Except Failure Bool := do
  if t.evtName != "deviceBinaryInputEvent" then return false
  let eventIndex ← t.properties.get "inputIndex"
  let eventType ← t.properties.get "inputType"
  let eventState ← t.properties.get "inputState"
  let triggerDSID := trigger.getPropertyByName "dsuid"
  let triggerIndex := trigger.getPropertyByName "index"
  let sType := (trigger.getPropertyByName "stype").map (·.getAsString rt.doubleToString)
  if triggerDSID.isNone && sType.isNone then return false
  let some triggerState := trigger.getPropertyByName "state" | return false
  let sState := triggerState.getAsString rt.doubleToString
  if let some triggerDSID := triggerDSID then
    let sDSID ← triggerDSID.getStringValue
    if !(sDSID == "-1" || sDSID == t.evtSrcDSID) then return false
    if let some triggerIndex := triggerIndex then
      if sType.any (· != eventType) then return false
      let sIndex := triggerIndex.getAsString rt.doubleToString
      if sIndex == eventIndex && sState == eventState then return true
  return sType.any (· == eventType) && sState == eventState

/-- `checkDevice`: clicks of a button. -/
def checkDevice : Except Failure Bool := do
  if t.evtName != "buttonClick" then return false
  let clickType ← t.properties.get "clickType"
  let buttonIndex ← t.properties.get "buttonIndex"
  if t.evtSrcDSID == dsuidNullText then return false
  if clickType == "" || clickType == "-1" then return false
  let some triggerDSID := trigger.getPropertyByName "dsuid" | return false
  let some triggerMSG := trigger.getPropertyByName "msg" | return false
  let iButtonIndexID :=
    ((trigger.getPropertyByName "buttonIndex").map
      (·.getAsString rt.doubleToString)).getD "-1"
  let sDSID := triggerDSID.getAsString rt.doubleToString
  let iMSG := triggerMSG.getAsString rt.doubleToString
  return (sDSID == "-1" || sDSID == t.evtSrcDSID) &&
    (iMSG == clickType || iMSG == "-1") &&
    (buttonIndex == iButtonIndexID || iButtonIndexID == "-1")

/-- What the checks of an action or event of a device have in common: the event
they are for, the parameter with its id, and the node the id is compared to. -/
def checkDeviceId (evtName parameter nodeName : String) : Except Failure Bool := do
  if t.evtName != evtName then return false
  let id ← t.properties.get parameter
  if t.evtSrcDSID == dsuidNullText then return false
  if id == "" || id == "-1" then return false
  let some triggerDSID := trigger.getPropertyByName "dsuid" | return false
  let some idNode := trigger.getPropertyByName nodeName | return false
  let sDSID := triggerDSID.getAsString rt.doubleToString
  let sId := idNode.getAsString rt.doubleToString
  return (sDSID == "-1" || sDSID == t.evtSrcDSID) && (sId == id || sId == "-1")

def checkDirectDeviceAction : Except Failure Bool :=
  t.checkDeviceId rt trigger "buttonDeviceAction" "actionID" "action"

def checkDeviceNamedAction : Except Failure Bool :=
  t.checkDeviceId rt trigger "deviceActionEvent" "actionId" "id"

def checkDeviceNamedEvent : Except Failure Bool :=
  t.checkDeviceId rt trigger "deviceEventEvent" "eventId" "id"

/-! ## Events, states and sensors -/

def checkHighlevel : Except Failure Bool := do
  if t.evtName != "highlevelevent" then return false
  let id := t.properties.getD "id" ""
  if id == "" then return false
  let some triggerEvent := trigger.getPropertyByName "event" | return false
  return triggerEvent.getAsString rt.doubleToString == id

/-- `checkState`. A node that is missing reads as the empty text. -/
def checkState : Except Failure Bool := do
  if t.evtName != "addonStateChange" && t.evtName != "stateChange" then return false
  let name ← t.properties.get "statename"
  let state ← t.properties.get "state"
  let value ← t.properties.get "value"
  let oldvalue ← t.properties.get "oldvalue"
  let text (nodeName : String) : Option String :=
    (trigger.getPropertyByName nodeName).map (·.getAsString rt.doubleToString)
  if t.evtName == "addonStateChange" then
    let scriptID ← t.properties.get "scriptID"
    if text "addon-id" != some scriptID then return false
  let some sName := text "name" | return false
  if (text "state").isNone && (text "value").isNone then return false
  if sName != name then return false
  let sOldvalue := (text "oldvalue").getD ""
  return ((text "state").getD "" == state || (text "value").getD "" == value) &&
    (sOldvalue == "" || sOldvalue == oldvalue)

/-- `checkSensorValue`. The zone of the trigger is read as a number before
anything else, and a zone that is missing is the empty text. -/
def checkSensorValue : Except Failure Bool := do
  if t.evtName != "deviceSensorValue" && t.evtName != "zoneSensorValue" then return false
  let text (nodeName : String) : String :=
    ((trigger.getPropertyByName nodeName).map (·.getAsString rt.doubleToString)).getD ""
  if t.evtName == "deviceSensorValue" then
    if text "dsuid" != t.evtSrcDSID then return false
  else
    if (← strToInt (text "zone")) != t.evtSrcZone then return false
  let sensorType ← t.properties.get "sensorType"
  if text "sensor" != sensorType then return false
  if (trigger.getPropertyByName "value").isNone ||
    (trigger.getPropertyByName "operator").isNone then return false
  let eventValue ← strToDouble rt (← t.properties.get "sensorValueFloat")
  let triggerValue ← strToDouble rt (text "value")
  if text "operator" == "greater" then return triggerValue < eventValue
  if text "operator" == "lower" then return eventValue < triggerValue
  return false

/-- `checkEvent`: the name and every parameter given have to be the event's. -/
def checkEvent : Except Failure Bool := do
  let some triggerName := trigger.getPropertyByName "name" | return false
  if triggerName.getAsString rt.doubleToString != t.evtName then return false
  let some parameters := trigger.getPropertyByName "parameter" | return true
  return parameters.children.all fun parameter =>
    t.properties.lookup parameter.name == some (parameter.getAsString rt.doubleToString)

/-! ## The definition -/

/-- `checkTriggerNode`: the check for the type of the node and the name of the
event. -/
def checkTriggerNode : Except Failure Bool :=
  match trigger.getPropertyByName "type" with
  | none => .ok false
  | some triggerType =>
    let triggerValue := triggerType.getAsString rt.doubleToString
    if t.evtName = "callScene" then
      if triggerValue = "zone-scene" then t.checkSceneZone rt trigger
      else if triggerValue = "device-scene" then t.checkDeviceScene trigger
      else .ok false
    else if t.evtName = "callSceneBus" then
      if triggerValue = "bus-zone-scene" then t.checkSceneZone rt trigger else .ok false
    else if t.evtName = "undoScene" then
      if triggerValue = "undo-zone-scene" then t.checkUndoSceneZone rt trigger else .ok false
    else if t.evtName = "buttonClick" then
      if triggerValue = "device-msg" then t.checkDevice rt trigger else .ok false
    else if t.evtName = "buttonDeviceAction" then
      if triggerValue = "device-action" then t.checkDirectDeviceAction rt trigger else .ok false
    else if t.evtName = "deviceSensorEvent" then
      if triggerValue = "device-sensor" then t.checkDeviceSensor rt trigger else .ok false
    else if t.evtName = "deviceSensorValue" then
      if triggerValue = "device-sensor-value" then t.checkSensorValue rt trigger else .ok false
    else if t.evtName = "zoneSensorValue" then
      if triggerValue = "zone-sensor-value" then t.checkSensorValue rt trigger else .ok false
    else if t.evtName = "deviceBinaryInputEvent" then
      if triggerValue = "device-binary-input" then t.checkDeviceBinaryInput rt trigger
      else .ok false
    else if t.evtName = "deviceActionEvent" then
      if triggerValue = "device-named-action" then t.checkDeviceNamedAction rt trigger
      else .ok false
    else if t.evtName = "deviceEventEvent" then
      if triggerValue = "device-named-event" then t.checkDeviceNamedEvent rt trigger
      else .ok false
    else if t.evtName = "highlevelevent" then
      if triggerValue = "custom-event" then t.checkHighlevel rt trigger else .ok false
    else if t.evtName = "stateChange" then
      if triggerValue = "state-change" then t.checkState rt trigger else .ok false
    else if t.evtName = "addonStateChange" then
      if triggerValue = "addon-state-change" then t.checkState rt trigger else .ok false
    else if triggerValue = "event" then t.checkEvent rt trigger
    else .ok false

/-- The loop of `checkTrigger`: the first trigger node that fits decides. -/
def checkTriggerNodes : List PropertyNode → Except Failure Bool
  | [] => .ok false
  | node :: nodes => do
    if ← t.checkTriggerNode rt node then return true
    checkTriggerNodes nodes

/-- `checkTrigger`, on the definition of a trigger. -/
def checkTrigger (definition : PropertyNode) : Except Failure Bool :=
  match definition.getPropertyByName "triggers" with
  | none => .ok false
  | some appTrigger => t.checkTriggerNodes rt appTrigger.children

end SystemTrigger

end Dss
