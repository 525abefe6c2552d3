import Dss.ModelEvent
import Dss.SceneCalls
import Dss.StateRegistry
import Dss.Throwing

/-!
# Messages about groups of zones

Scene calls, undo calls, blinks and sensor values come from the bus with the ids of a zone and of a
group in it. A zone that is not there is an exception, which each handler catches; a group that is
not there is a null pointer, which each handler has to look at itself. A scene call is kept for a
while before it is raised; by then, the group may have gone.

A zone is found by its position here, and so is a group in it: a pointer that is not null.
-/

namespace Dss

namespace ZoneMessages

open SceneAccess SceneHelper Throwing Throwing.Statement

/-! ## The model -/

structure ZoneDevice : Type extends SceneAccess.Device where
  lastCalledScene : ℤ := sceneOff
  lastButOneCalledScene : ℤ := sceneOff

structure SensorNote (V : Type) : Type where
  value : V
  time : ℤ

/-- The node `sensor/type…` of a group. -/
structure SensorNode (V : Type) : Type extends SensorNote V where
  /-- `sourcedsuid` -/
  source : Dsuid

structure MessageGroup (V : Type) : Type extends ZoneGroup where
  /-- the nodes below `m_pPropertyNode`, if there is one -/
  sensorNodes : Option (ℤ → Option (SensorNode V)) := none

/-- `Zone` -/
structure MessageZone (V : Type) : Type where
  zoneID : ℕ
  devices : List ZoneDevice
  groups : List (MessageGroup V)
  /-- `m_SensorStatus`, by sensor types -/
  sensorStatus : ℤ → Option (SensorNote V) := fun _ => none

/-- `Apartment` -/
structure MessageApartment (V : Type) : Type where
  zones : List (MessageZone V)
  states : List SceneAccess.State
  /-- `m_SensorStatus`, by sensor types -/
  sensorStatus : ℤ → Option (SensorNote V) := fun _ => none

structure GroupEvent : Type where
  name : String
  /-- the ids of `m_RaisedAtGroup`, if it is not null -/
  raisedAtGroup : Option (ℕ × ℕ)
  properties : List (String × String)
  deriving DecidableEq

/-- The model, the deferred events, and what was raised. -/
structure World (V : Type) : Type where
  /-- `m_pApartment` -/
  apartment : MessageApartment V
  /-- the scene events in `m_DeferredEvents` -/
  deferred : List ModelDeferredSceneEvent := []
  raised : List GroupEvent := []

/-- How a handler ends that does not return. -/
inductive Failure : Type where
  /-- `ItemNotFoundException` -/
  | itemNotFound
  | nullPointer
  | assertion
  deriving DecidableEq

/-- What the handlers ask. -/
structure MessageRuntime (V : Type) : Type where
  /-- `Set::getByBusID` of the devices of the apartment -/
  getByBusID : ℤ → Dsuid → Option Dsuid
  /-- `Set::getBySerial` -/
  getBySerial : ℕ → Option Dsuid
  /-- `dsuid_get_serial_number` -/
  serialNumber : Dsuid → Option ℕ
  sensorValueToDouble : ℤ → ℤ → V
  doubleToString : V → String
  dsuid2str : Dsuid → String

variable {V : Type}

abbrev Handler (V : Type) : Type := Statement (World V) Failure

/-! ## Zones and groups -/

/-- Where `Apartment::getZone` finds a zone. -/
def zone? (a : MessageApartment V) (id : ℤ) : Option ℕ :=
  a.zones.findIdx? fun zone => decide ((zone.zoneID : ℤ) = id)

/-- Where `Zone::getGroup` finds a group. -/
def MessageZone.group? (zone : MessageZone V) (id : ℤ) : Option ℕ :=
  zone.groups.findIdx? fun group => decide ((group.groupID : ℤ) = id)

def group? (a : MessageApartment V) (zi : ℕ) (id : ℤ) : Option ℕ :=
  (a.zones[zi]?).bind fun zone => zone.group? id

def groupAt (a : MessageApartment V) (zi gi : ℕ) : Option (MessageGroup V) :=
  (a.zones[zi]?).bind fun zone => zone.groups[gi]?

def MessageApartment.modifyZone (a : MessageApartment V) (zi : ℕ)
    (f : MessageZone V → MessageZone V) : MessageApartment V :=
  { a with zones := a.zones.modify zi f }

def MessageApartment.modifyGroup (a : MessageApartment V) (zi gi : ℕ)
    (f : MessageGroup V → MessageGroup V) : MessageApartment V :=
  a.modifyZone zi fun zone => { zone with groups := zone.groups.modify gi f }

def changeApartment (f : MessageApartment V → MessageApartment V) : Handler V :=
  change fun w => { w with apartment := f w.apartment }

def raiseEvent (event : MessageApartment V → GroupEvent) : Handler V :=
  change fun w => { w with raised := w.raised ++ [event w.apartment] }

/-- `Apartment::getZone` -/
def withZone (id : ℤ) (x : ℕ → Handler V) : Handler V :=
  inspect (fun w => zone? w.apartment id) fun
    | some zi => x zi
    | none => raise .itemNotFound

/-- `Zone::getGroup`; no position is a null pointer. -/
def withGroup (zi : ℕ) (id : ℤ) (x : Option ℕ → Handler V) : Handler V :=
  inspect (fun w => group? w.apartment zi id) x

def groupRef (a : MessageApartment V) (zi : ℕ) (gi : Option ℕ) : Option (ℕ × ℕ) :=
  (gi.bind fun gi => groupAt a zi gi).map fun group => (group.zoneID, group.groupID)

def targets (a : MessageApartment V) (zi : ℕ) (groupID : ℤ) : List ℕ :=
  if groupID = 0 then List.range ((a.zones[zi]?).elim 0 fun zone => zone.groups.length)
  else (group? a zi groupID).toList

def withOrigin (rt : MessageRuntime V) (source : Dsuid) (originDeviceID : ℤ)
    (x : Dsuid → Handler V) : Handler V :=
  if source ≠ dsuidNull ∧ originDeviceID ≠ 0 then
    match rt.getByBusID originDeviceID source with
    | some origin => x origin
    | none => raise .itemNotFound
  else x source

/-! ## Remembered scenes -/

/-- `Device::setLastCalledScene` -/
def ZoneDevice.setLastCalledScene (device : ZoneDevice) (value : ℤ) : ZoneDevice :=
  if value ≠ device.lastCalledScene then
    { device with lastButOneCalledScene := device.lastCalledScene, lastCalledScene := value }
  else device

/-- `SetLastButOneCalledSceneAction::perform` -/
def ZoneDevice.setLastButOneCalledScene (device : ZoneDevice) (sceneID : ℤ) : ZoneDevice :=
  if 0 ≤ sceneID then
    if sceneID = device.lastCalledScene then
      { device with lastCalledScene := device.lastButOneCalledScene }
    else device
  else { device with lastCalledScene := device.lastButOneCalledScene }

/-- `Group::setLastCalledScene` -/
def MessageGroup.setLastCalledScene (group : MessageGroup V) (value : ℕ) : MessageGroup V :=
  { group with toZoneGroup := group.toZoneGroup.setLastCalledScene value }

/-- `Group::setLastButOneCalledScene`, with a scene or without. -/
def MessageGroup.setLastButOneCalledScene (group : MessageGroup V) (sceneID : ℤ) :
    MessageGroup V :=
  if 0 ≤ sceneID then
    if sceneID = group.lastCalledScene then
      { group with lastCalledScene := group.lastButOneCalledScene }
    else group
  else { group with lastCalledScene := group.lastButOneCalledScene }

def performInGroup (zi : ℕ) (groupID : ℤ) (f : ZoneDevice → ZoneDevice) : Handler V :=
  changeApartment fun a => a.modifyZone zi fun zone =>
    { zone with
      devices := zone.devices.map fun device =>
        if device.isInGroup groupID.toNat then f device else device }

/-- The scene number of a call, `_sceneID & 0x00ff`. -/
def sceneByte (sceneID : ℤ) : ℕ := (sceneID % 256).toNat

/-- The part of `onGroupCallScene` in which the scene is remembered. -/
def rememberCall (zi : ℕ) (groupID sceneID : ℤ) : Handler V :=
  if rememberScene (sceneByte sceneID) then
    andThen (performInGroup zi groupID (·.setLastCalledScene (sceneByte sceneID)))
      (inspect (fun w => targets w.apartment zi groupID) fun gis =>
        forEach (fun gi => changeApartment (·.modifyGroup zi gi
          (·.setLastCalledScene (sceneByte sceneID)))) gis)
  else skip

/-! ## On-states -/

/-- The on-state of a light or heating group, as `setOnState` sets it. -/
def setOnStateOf (group : ZoneGroup) (applicationType : ApplicationType) (origin : CallOrigin)
    (scene : ℕ) : Handler V :=
  match isOnScene group.groupID scene with
  | .dontCare => skip
  | isOn =>
    if group.applicationType ≠ applicationType then raise .assertion
    else changeApartment fun a => { a with
      states := setNonScriptState (makeGroupName group) origin
        (if isOn = .true then SceneAccess.stateActive else SceneAccess.stateInactive) a.states }

/-- `Group::setOnState` -/
def setOnState (group : ZoneGroup) (origin : CallOrigin) (scene : ℕ) : Handler V :=
  if group.zoneID = 0 then skip
  else if group.groupID = groupIDYellow then setOnStateOf group .lights origin scene
  else if group.groupID = groupIDHeating then setOnStateOf group .heating origin scene
  else skip

/-- `setOnState` of the group at a position. -/
def setOnStateAt (zi gi : ℕ) (origin : CallOrigin) (scene : MessageGroup V → ℕ) : Handler V :=
  inspect (fun w => groupAt w.apartment zi gi) fun
    | some group => setOnState group.toZoneGroup origin (scene group)
    | none => skip

def forTargets (groupID : ℤ) (x : (zi gi : ℕ) → Handler V) (zis : List ℕ) : Handler V :=
  forEach (fun zi => inspect (fun w => targets w.apartment zi groupID) fun gis =>
    forEach (x zi) gis) zis

def zonesToUpdate (zoneID : ℤ) (zone : (List ℕ → Handler V) → Handler V)
    (x : List ℕ → Handler V) : Handler V :=
  if zoneID = 0 then inspect (fun w => List.range w.apartment.zones.length) x else zone x

def handleDeferredModelStateChanges (origin : CallOrigin) (zoneID groupID : ℤ) (scene : ℕ) :
    Handler V :=
  zonesToUpdate zoneID (fun x => withZone zoneID fun zi => x [zi])
    (forTargets groupID fun zi gi => setOnStateAt zi gi origin fun _ => scene)

/-! ## Events -/

def originProperties (rt : MessageRuntime V) (origin : CallOrigin) (originDSUID : Dsuid)
    (token : String) : List (String × String) :=
  [("callOrigin", intToString origin.toInt), ("originDSUID", rt.dsuid2str originDSUID),
    ("originToken", token)]

/-- `forced` -/
def forcedProperties (forced : Bool) : List (String × String) :=
  if forced then [("forced", "true")] else []

/-- The event `CallSceneBus` of `onGroupCallScene`. -/
def callSceneBusEvent (rt : MessageRuntime V) (group : Option (ℕ × ℕ))
    (zoneID groupID sceneID : ℤ) (origin : CallOrigin) (originDSUID : Dsuid) (forced : Bool)
    (token : String) : GroupEvent where
  name := "callSceneBus"
  raisedAtGroup := group
  properties := [("sceneID", intToString sceneID), ("groupID", intToString groupID),
    ("zoneID", intToString zoneID)] ++ forcedProperties forced ++
      originProperties rt origin originDSUID token

def createGroupCallSceneEvent (rt : MessageRuntime V) (group : Option (ℕ × ℕ))
    (originDSUID : Dsuid) (e : ModelDeferredSceneEvent) : GroupEvent where
  name := "callScene"
  raisedAtGroup := group
  properties := [("sceneID", intToString e.sceneID), ("groupID", intToString e.groupID),
    ("zoneID", intToString e.zoneID)] ++
      originProperties rt e.callOrigin originDSUID e.originToken ++ forcedProperties e.forcedFlag

def createGroupUndoSceneEvent (rt : MessageRuntime V) (group : Option (ℕ × ℕ))
    (zoneID groupID sceneID : ℤ) (origin : CallOrigin) (originDSUID : Dsuid) (token : String) :
    GroupEvent where
  name := "undoScene"
  raisedAtGroup := group
  properties := [("sceneID", intToString sceneID), ("groupID", intToString groupID),
    ("zoneID", intToString zoneID)] ++ originProperties rt origin originDSUID token

/-- The event `IdentifyBlink` of `onGroupBlink`. -/
def blinkEvent (rt : MessageRuntime V) (group : Option (ℕ × ℕ)) (zoneID groupID : ℤ)
    (origin : CallOrigin) (originDSUID : Dsuid) (token : String) : GroupEvent where
  name := "blink"
  raisedAtGroup := group
  properties := [("groupID", intToString groupID), ("zoneID", intToString zoneID)] ++
    originProperties rt origin originDSUID token

def createZoneSensorValueEvent (rt : MessageRuntime V) (group : Option (ℕ × ℕ))
    (sensorType value : ℤ) (sourceDevice : Dsuid) : GroupEvent where
  name := "zoneSensorValue"
  raisedAtGroup := group
  properties := [("sensorType", intToString sensorType), ("sensorValue", intToString value),
    ("sensorValueFloat", rt.doubleToString (rt.sensorValueToDouble sensorType value)),
    ("originDSID", rt.dsuid2str sourceDevice)]

/-! ## Sensor values -/

def outdoorTypes : List ℤ := [10, 14, 12, 18, 19, 16, 17, 20, 15]

def indoorTypes : List ℤ := [9, 50, 51, 13, 11, 21]

/-- `Group::sensorPush` of the group at a position. -/
def sensorPush (zi gi : ℕ) (source : Dsuid) (sensorType : ℤ) (value : V) (now : ℤ) : Handler V :=
  inspect (fun w => (groupAt w.apartment zi gi).elim 0 (·.zoneID)) fun zoneID =>
    withZone zoneID fun zj =>
      andThen
        (changeApartment fun a =>
          if zoneID = 0 then
            if sensorType ∈ outdoorTypes then
              { a with
                sensorStatus := Function.update a.sensorStatus sensorType (some ⟨value, now⟩) }
            else a
          else if sensorType ∈ indoorTypes then
            a.modifyZone zj fun zone => { zone with
              sensorStatus := Function.update zone.sensorStatus sensorType (some ⟨value, now⟩) }
          else a)
        (changeApartment fun a => a.modifyGroup zi gi fun group => { group with
          sensorNodes := group.sensorNodes.map fun nodes =>
            Function.update nodes sensorType (some { value := value, time := now, source }) })

def dsuidByte (dsuid : Dsuid) (i : ℕ) : ℕ := dsuid.toNat / 256 ^ (16 - i) % 256

/-- The device that a sensor value is from: a meter sends a serial number in place of its
dSUID. -/
def sensorSource (rt : MessageRuntime V) (source : Dsuid) : Dsuid :=
  if dsuidByte source 0 = 0 ∧ ∀ i ∈ [10, 9, 8, 7], dsuidByte source i = 0 then
    match rt.serialNumber source with
    | some serial => (rt.getBySerial serial).getD source
    | none => source
  else source

/-! ## The handlers -/

/-- What the handlers catch. -/
def isItemNotFound (e : Failure) : Bool := decide (e = .itemNotFound)

def onGroupCallScene (rt : MessageRuntime V) (source : Dsuid)
    (zoneID groupID originDeviceID sceneID : ℤ) (origin : CallOrigin) (forced : Bool)
    (token : String) : Handler V :=
  catching isItemNotFound <|
    if sceneID < 0 ∨ maxSceneNumber < sceneID then skip
    else withZone zoneID fun zi => withGroup zi groupID fun
      | some gi => andThen (rememberCall zi groupID sceneID)
          (withOrigin rt source originDeviceID fun originDSUID =>
            raiseEvent fun a => callSceneBusEvent rt (groupRef a zi (some gi)) zoneID groupID
              sceneID origin originDSUID forced token)
      | none => skip

def onGroupUndoScene (rt : MessageRuntime V) (source : Dsuid)
    (zoneID groupID originDeviceID sceneID : ℤ) (origin : CallOrigin) (token : String) :
    Handler V :=
  catching isItemNotFound <|
    if sceneID < -1 ∨ maxSceneNumber < sceneID then skip
    else withZone zoneID fun zi => withGroup zi groupID fun
      | some gi => andThen (performInGroup zi groupID (·.setLastButOneCalledScene sceneID))
          (andThen
            (zonesToUpdate zoneID (fun x => x [zi]) (forTargets groupID fun zi gi =>
              andThen (changeApartment (·.modifyGroup zi gi (·.setLastButOneCalledScene sceneID)))
                (setOnStateAt zi gi origin fun group => group.lastCalledScene)))
            (withOrigin rt source originDeviceID fun originDSUID =>
              raiseEvent fun a => createGroupUndoSceneEvent rt (groupRef a zi (some gi)) zoneID
                groupID sceneID origin originDSUID token))
      | none => skip

def onGroupBlink (rt : MessageRuntime V) (source : Dsuid) (zoneID groupID originDeviceID : ℤ)
    (origin : CallOrigin) (token : String) : Handler V :=
  catching isItemNotFound <| withZone zoneID fun zi => withGroup zi groupID fun
    | some gi => withOrigin rt source originDeviceID fun originDSUID =>
        raiseEvent fun a => blinkEvent rt (groupRef a zi (some gi)) zoneID groupID origin
          originDSUID token
    | none => skip

def onZoneSensorValue (rt : MessageRuntime V) (now : ℤ) (sourceDevice : Dsuid)
    (zoneID groupID sensorType sensorValue : ℤ) : Handler V :=
  catching isItemNotFound <| withZone zoneID fun zi => withGroup zi groupID fun
    | some gi => andThen
        (sensorPush zi gi sourceDevice sensorType (rt.sensorValueToDouble sensorType sensorValue)
          now)
        (raiseEvent fun a => createZoneSensorValueEvent rt (groupRef a zi (some gi)) sensorType
          sensorValue (sensorSource rt sourceDevice))
    | none => raise .nullPointer

def report (rt : MessageRuntime V) (e : ModelDeferredSceneEvent) (zi : ℕ) (gi : Option ℕ)
    (originDSUID : Dsuid) : Handler V :=
  andThen (handleDeferredModelStateChanges e.callOrigin e.zoneID e.groupID e.sceneID)
    (raiseEvent fun a => createGroupCallSceneEvent rt (groupRef a zi gi) originDSUID e)

def keep (e : ModelDeferredSceneEvent) : Handler V :=
  change fun w => { w with deferred := w.deferred ++ [e] }

/-- The loop body of `handleDeferredModelEvents` for a scene event. -/
def handleDeferredScene (rt : MessageRuntime V) (now : ℤ) (e : ModelDeferredSceneEvent) :
    Handler V :=
  catching isItemNotFound <| withZone e.zoneID fun zi => withGroup zi e.groupID fun gi =>
    withOrigin rt e.source e.originDeviceID fun originDSUID =>
      if e.isDue now then
        if e.isCalled then skip else report rt e zi gi originDSUID
      else if isDimSequence e.sceneID then
        if e.isCalled then keep e
        else andThen (report rt e zi gi originDSUID) (keep e.setCalled)
      else keep e

/-! ## Messages -/

inductive Message : Type where
  /-- `onGroupCallScene` -/
  | callScene (source : Dsuid) (zoneID groupID originDeviceID sceneID : ℤ) (origin : CallOrigin)
      (forced : Bool) (token : String)
  /-- `onGroupUndoScene` -/
  | undoScene (source : Dsuid) (zoneID groupID originDeviceID sceneID : ℤ) (origin : CallOrigin)
      (token : String)
  /-- `onGroupBlink` -/
  | blink (source : Dsuid) (zoneID groupID originDeviceID : ℤ) (origin : CallOrigin)
      (token : String)
  /-- a scene call that was deferred, in a call of `handleDeferredModelEvents` -/
  | deferredScene (now : ℤ) (e : ModelDeferredSceneEvent)
  /-- `onZoneSensorValue` -/
  | zoneSensorValue (now : ℤ) (sourceDevice : Dsuid)
      (zoneID groupID sensorType sensorValue : ℤ)

namespace Message

def ids : Message → ℤ × ℤ
  | callScene _ zoneID groupID _ _ _ _ _ => (zoneID, groupID)
  | undoScene _ zoneID groupID _ _ _ _ => (zoneID, groupID)
  | blink _ zoneID groupID _ _ _ => (zoneID, groupID)
  | deferredScene _ e => (e.zoneID, e.groupID)
  | zoneSensorValue _ _ zoneID groupID _ _ => (zoneID, groupID)

def handle (rt : MessageRuntime V) : Message → Handler V
  | callScene source zoneID groupID originDeviceID sceneID origin forced token =>
    onGroupCallScene rt source zoneID groupID originDeviceID sceneID origin forced token
  | undoScene source zoneID groupID originDeviceID sceneID origin token =>
    onGroupUndoScene rt source zoneID groupID originDeviceID sceneID origin token
  | blink source zoneID groupID originDeviceID origin token =>
    onGroupBlink rt source zoneID groupID originDeviceID origin token
  | deferredScene now e => handleDeferredScene rt now e
  | zoneSensorValue now sourceDevice zoneID groupID sensorType sensorValue =>
    onZoneSensorValue rt now sourceDevice zoneID groupID sensorType sensorValue

end Message

end ZoneMessages

end Dss
