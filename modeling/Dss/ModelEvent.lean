import Dss.DeferredScenes
import Dss.ModelEventQueue

/-!
# Model events and their dispatch

A model event carries a list of `int`s and one text, read by index in the `switch` of
`handleModelEvents`. Some cases test the number of parameters, some only that there are enough, and
some read without a test. What `handleModelEvents` does is the list of handlers it calls.
-/

namespace Dss

/-- The classes derived from `ModelEvent`, with what they add. -/
inductive EventClass : Type where
  /-- `ModelEvent` itself -/
  | plain : EventClass
  /-- `ModelEventWithDSID` -/
  | withDSID (dsid : Dsuid) : EventClass
  /-- `ModelEventWithStrings`, which is a `ModelEventWithDSID` -/
  | withStrings (dsid : Dsuid) (strings : List String) : EventClass
  /-- `ModelEventWithSensorEx`; the value is a double, by its bits -/
  | withSensorEx (deviceDSID : Dsuid) (sensorValue : BitVec 64) : EventClass
  /-- `VdceModelEvent` -/
  | vdce (deviceDSID : Dsuid) (states : List (String × String)) (events : List String) :
    EventClass
  deriving DecidableEq

structure ModelEvent : Type where
  eventType : EventType
  eventClass : EventClass
  /-- `m_Parameter` -/
  parameters : List ℤ := []
  /-- `m_SingleStringParameter` -/
  singleString : String := ""
  /-- `m_SingleObjectParameter`, by its address -/
  singleObject : ℕ := 0
  deriving DecidableEq

/-- What the dispatch of an event can end with instead of a handler. -/
inductive DispatchFailure : Type where
  | assertion : DispatchFailure
  /-- `vector::at` throws -/
  | outOfRange : DispatchFailure
  | nullPointer : DispatchFailure
  | unexpectedCount : DispatchFailure
  | invalidOrigin : DispatchFailure
  /-- `str2dsuid` throws -/
  | invalidDsuid : DispatchFailure
  deriving DecidableEq

namespace CallOrigin

def toInt : CallOrigin → ℤ
  | coUnknown => 0
  | coJSScripting => 1
  | coJSON => 2
  | coSubscription => 4
  | coTest => 6
  | coSystem => 7
  | coSystemBinaryInput => 8
  | coDsmApi => 9
  | coSystemStartup => 10

/-- The cast to the enumeration; other numbers are none of its values. -/
def ofInt (n : ℤ) : CallOrigin :=
  if n = 1 then coJSScripting
  else if n = 2 then coJSON
  else if n = 4 then coSubscription
  else if n = 6 then coTest
  else if n = 7 then coSystem
  else if n = 8 then coSystemBinaryInput
  else if n = 9 then coDsmApi
  else if n = 10 then coSystemStartup
  else coUnknown

theorem ofInt_toInt (o : CallOrigin) : ofInt o.toInt = o := by
  cases o <;> rfl

end CallOrigin

def validOrigin (origin : BitVec 32) : Bool :=
  decide (origin < 11 ∧ origin ≠ 5 ∧ origin ≠ 3)

/-- The two functions of libdsuid that a model event passes a dSUID through. -/
structure DsuidStrings : Type where
  dsuid2str : Dsuid → String
  /-- `str2dsuid`, which throws where it does not read a dSUID -/
  str2dsuid : String → Option Dsuid

/-- What is written is read back. -/
def DsuidStrings.RoundTrip (lib : DsuidStrings) : Prop :=
  ∀ dsuid, lib.str2dsuid (lib.dsuid2str dsuid) = some dsuid

/-- `parseBitfield` of sixteen bytes. -/
def parseBitfield (bytes : List (BitVec 8)) : List ℕ :=
  (List.range 128).filter fun i => (bytes[i / 8]?.getD 0).getLsbD (i % 8)

/-- The handlers that `handleModelEvents` calls, with their arguments in order. A case
without a handler of its own is one here. -/
inductive HandlerCall : Type where
  | onAddDevice (dsMeterID : Dsuid) (zoneID devID : ℤ)
  | onRemoveDevice (dsMeterID : Dsuid) (zoneID devID : ℤ)
  | rescanDevice (dsMeterID : Dsuid) (deviceID : ℤ)
  | onDeviceConfigChanged (dsMeterID : Dsuid) (deviceID configClass configIndex value : ℤ)
  | onDeviceCallScene (dsMeterID : Dsuid) (deviceID originDeviceID sceneID : ℤ)
      (origin : CallOrigin) (forced : Bool) (token : String)
  | onDeviceBlink (dsMeterID : Dsuid) (deviceID originDeviceID : ℤ) (origin : CallOrigin)
      (token : String)
  | onDeviceActionEvent (dsMeterID : Dsuid) (deviceID buttonNr clickType : ℤ)
  | onDeviceActionFiltered (source : Dsuid) (deviceID buttonNr clickType : ℤ)
  | onDeviceDirectActionEvent (dsMeterID : Dsuid) (deviceID actionID : ℤ)
  | onGroupCallScene (source : Dsuid) (zoneID groupID originDeviceID sceneID : ℤ)
      (origin : CallOrigin) (forced : Bool) (token : String)
  | onGroupCallSceneFiltered (source : Dsuid) (zoneID groupID originDeviceID sceneID : ℤ)
      (origin : CallOrigin) (forced : Bool) (token : String)
  | onGroupUndoScene (source : Dsuid) (zoneID groupID originDeviceID sceneID : ℤ)
      (origin : CallOrigin) (token : String)
  | onGroupBlink (source : Dsuid) (zoneID groupID originDeviceID : ℤ) (origin : CallOrigin)
      (token : String)
  /-- the case `etModelDirty` -/
  | modelDirty
  /-- the case `etModelOperationModeChanged` -/
  | modelOperationModeChanged
  | onLostDSMeter (dsMeterID : Dsuid)
  | onJoinedDSMeter (dsMeterID : Dsuid)
  /-- the case `etDSMeterReady` -/
  | dsMeterReady (meterID : Dsuid)
  /-- the case `etBusReady` -/
  | busReady
  /-- the case `etBusDown` -/
  | busDown
  /-- the case `etMeteringValues` -/
  | meteringValues (meterID : Dsuid) (power energy : BitVec 32)
  | onSensorEvent (meterID : Dsuid) (deviceID : BitVec 16) (eventIndex : ℤ)
  | onBinaryInputEvent (meterID : Dsuid) (deviceID : BitVec 16) (eventIndex eventType state : ℤ)
  | onSensorValue (meterID : Dsuid) (deviceID : BitVec 16) (sensorIndex sensorValue : ℤ)
  | onSensorValueEx (meterID : Dsuid) (deviceID : BitVec 16) (sensorIndex : ℤ)
      (sensorValue : BitVec 64) (sensorAge contextId : BitVec 32) (contextMsg : String)
  | onCircuitPowerStateChange (meterID : Dsuid) (baseIndex stateMask stateValue : ℤ)
  | onZoneSensorValue (meterID sourceDevice : Dsuid)
      (zoneID groupID sensorType sensorValue precision : ℤ)
  | onEANReady (dsMeterID : Dsuid) (deviceID : BitVec 16) (state iNetState : ℤ)
      (eanNumber : BitVec 64) (serialNumber partNumber : ℤ) (isIndependent isConfigLocked : Bool)
      (pairedDevices : ℤ) (isVisible : Bool)
  | onOEMDataReady (deviceID : Dsuid) (state : ℤ)
      (productName iconPath productURL defaultName configLink : String)
  | onDeviceOEMDataUpdateProductInfoState (deviceID : Dsuid) (state : ℤ)
  | onHeatingControllerConfig (dsMeterID : Dsuid) (zoneID : ℤ) (spec : ℕ)
  | onHeatingControllerState (dsMeterID : Dsuid) (zoneID state : ℤ)
  | onHeatingControllerValues (dsMeterID : Dsuid) (zoneID : ℤ) (spec : ℕ)
  | onClusterConfigLock (clusterID : ℤ) (configurationLock : Bool)
  | onClusterLockedScenes (clusterID : ℤ) (lockedScenes : List ℕ)
  | onGenericEvent (eventType : ℤ) (payload : ℕ) (origin : CallOrigin)
  | onOperationLock (zoneID groupID : ℤ) (lock : Bool) (callOrigin : CallOrigin)
  | onAutoClusterMaintenance (deviceID : Dsuid)
  | onAutoClusterCleanup
  | onMeterReady
  | onDeviceDataReady (meterID : Dsuid) (deviceID : BitVec 16) (pairedDevices : ℤ) (visible : Bool)
  | onDsmStateChange (meterID : Dsuid) (state : BitVec 8)
  | onVdceEvent (deviceDSID : Dsuid) (states : List (String × String)) (events : List String)
  deriving DecidableEq

namespace ModelEvent

/-! ## Reading an event -/

/-- The cast to `ModelEventWithDSID`, and `getDSID`. -/
def dsid? (e : ModelEvent) : Option Dsuid :=
  match e.eventClass with
  | .withDSID dsid | .withStrings dsid _ => some dsid
  | .plain | .withSensorEx _ _ | .vdce _ _ _ => none

/-- `assert(pEventWithDSID != NULL)` and `getDSID`. -/
def assertDSID (e : ModelEvent) : Except DispatchFailure Dsuid :=
  match e.dsid? with
  | some dsid => .ok dsid
  | none => .error .assertion

/-- `getDSID` without an assertion. -/
def derefDSID (e : ModelEvent) : Except DispatchFailure Dsuid :=
  match e.dsid? with
  | some dsid => .ok dsid
  | none => .error .nullPointer

def getParameter (e : ModelEvent) (i : ℕ) : Except DispatchFailure ℤ :=
  match e.parameters[i]? with
  | some p => .ok p
  | none => .error .outOfRange

/-- A parameter that is taken as a `bool`. -/
def getBool (e : ModelEvent) (i : ℕ) : Except DispatchFailure Bool :=
  (e.getParameter i).map fun p => decide (p ≠ 0)

/-- A parameter that is cast to `callOrigin_t`. -/
def getOrigin (e : ModelEvent) (i : ℕ) : Except DispatchFailure CallOrigin :=
  (e.getParameter i).map CallOrigin.ofInt

/-- `getStringParameter` of the strings of an event. -/
def getString (strings : List String) (i : ℕ) : Except DispatchFailure String :=
  match strings[i]? with
  | some s => .ok s
  | none => .error .outOfRange

def expect (b : Bool) : Except DispatchFailure Unit :=
  if b then .ok () else .error .unexpectedCount

def expectOrigin (origin : ℤ) : Except DispatchFailure Unit :=
  if validOrigin (BitVec.ofInt 32 origin) then .ok () else .error .invalidOrigin

/-! ## The switch -/

/-- The `switch` of `ModelMaintenance::handleModelEvents`. There is no case for
`etUndoSceneDevice`. -/
def dispatch (lib : DsuidStrings) (e : ModelEvent) :
    Except DispatchFailure (List HandlerCall) := do
  let count := e.parameters.length
  match e.eventType with
  | .etNewDevice =>
    let dsid ← e.assertDSID
    expect (count = 2)
    return [.onAddDevice dsid (← e.getParameter 0) (← e.getParameter 1)]
  | .etLostDevice =>
    let dsid ← e.assertDSID
    expect (count = 2)
    return [.onRemoveDevice dsid (← e.getParameter 0) (← e.getParameter 1)]
  | .etDeviceChanged =>
    let dsid ← e.assertDSID
    expect (count = 1)
    return [.rescanDevice dsid (← e.getParameter 0)]
  | .etDeviceConfigChanged =>
    let dsid ← e.assertDSID
    expect (count = 4)
    return [.onDeviceConfigChanged dsid (← e.getParameter 0) (← e.getParameter 1)
      (← e.getParameter 2) (← e.getParameter 3)]
  | .etCallSceneDevice | .etCallSceneDeviceLocal =>
    let dsid ← e.assertDSID
    expect (count = 5)
    return [.onDeviceCallScene dsid (← e.getParameter 0) (← e.getParameter 1)
      (← e.getParameter 2) (← e.getOrigin 3) (← e.getBool 4) e.singleString]
  | .etBlinkDevice =>
    let dsid ← e.assertDSID
    expect (count = 3)
    return [.onDeviceBlink dsid (← e.getParameter 0) (← e.getParameter 1) (← e.getOrigin 2)
      e.singleString]
  | .etButtonClickDevice =>
    let dsid ← e.assertDSID
    expect (count = 3)
    return [.onDeviceActionEvent dsid (← e.getParameter 0) (← e.getParameter 1)
        (← e.getParameter 2),
      .onDeviceActionFiltered dsid (← e.getParameter 0) (← e.getParameter 1)
        (← e.getParameter 2)]
  | .etButtonDirectActionDevice =>
    let dsid ← e.assertDSID
    expect (count = 2)
    return [.onDeviceDirectActionEvent dsid (← e.getParameter 0) (← e.getParameter 1)]
  | .etCallSceneGroup =>
    let dsid ← e.assertDSID
    expect (count = 6)
    return [.onGroupCallScene dsid (← e.getParameter 0) (← e.getParameter 1)
        (← e.getParameter 2) (← e.getParameter 3) (← e.getOrigin 4) (← e.getBool 5)
        e.singleString,
      .onGroupCallSceneFiltered dsid (← e.getParameter 0) (← e.getParameter 1)
        (← e.getParameter 2) (← e.getParameter 3) (← e.getOrigin 4) (← e.getBool 5)
        e.singleString]
  | .etUndoSceneGroup =>
    expect (count = 5)
    let dsid ← e.derefDSID
    return [.onGroupUndoScene dsid (← e.getParameter 0) (← e.getParameter 1)
      (← e.getParameter 2) (← e.getParameter 3) (← e.getOrigin 4) e.singleString]
  | .etBlinkGroup =>
    let dsid ← e.assertDSID
    expect (count = 4)
    return [.onGroupBlink dsid (← e.getParameter 0) (← e.getParameter 1) (← e.getParameter 2)
      (← e.getOrigin 3) e.singleString]
  | .etModelDirty => return [.modelDirty]
  | .etModelOperationModeChanged => return [.modelOperationModeChanged]
  | .etLostDSMeter => return [.onLostDSMeter (← e.assertDSID)]
  | .etDS485DeviceDiscovered => return [.onJoinedDSMeter (← e.assertDSID)]
  | .etDSMeterReady =>
    expect (count = 0)
    return [.dsMeterReady (← e.assertDSID)]
  | .etBusReady => return [.busReady]
  | .etBusDown => return [.busDown]
  | .etMeteringValues =>
    expect (count = 2)
    let dsid ← e.assertDSID
    return [.meteringValues dsid (BitVec.ofInt 32 (← e.getParameter 0))
      (BitVec.ofInt 32 (← e.getParameter 1))]
  | .etDeviceSensorEvent =>
    let dsid ← e.assertDSID
    expect (2 ≤ count)
    return [.onSensorEvent dsid (BitVec.ofInt 16 (← e.getParameter 0)) (← e.getParameter 1)]
  | .etDeviceBinaryStateEvent =>
    let dsid ← e.assertDSID
    expect (4 ≤ count)
    return [.onBinaryInputEvent dsid (BitVec.ofInt 16 (← e.getParameter 0))
      (← e.getParameter 1) (← e.getParameter 2) (← e.getParameter 3)]
  | .etDeviceSensorValue =>
    let dsid ← e.assertDSID
    expect (3 ≤ count)
    return [.onSensorValue dsid (BitVec.ofInt 16 (← e.getParameter 0)) (← e.getParameter 1)
      (← e.getParameter 2)]
  | .etDeviceSensorValueEx =>
    match e.eventClass with
    | .withSensorEx deviceDSID sensorValue =>
      return [.onSensorValueEx deviceDSID (BitVec.ofInt 16 (← e.getParameter 0))
        (← e.getParameter 1) sensorValue (BitVec.ofInt 32 (← e.getParameter 2))
        (BitVec.ofInt 32 (← e.getParameter 3)) e.singleString]
    | .plain | .withDSID _ | .withStrings _ _ | .vdce _ _ _ => throw .assertion
  | .etCircuitPowerStateChange =>
    let dsid ← e.assertDSID
    expect (3 ≤ count)
    return [.onCircuitPowerStateChange dsid (← e.getParameter 0) (← e.getParameter 1)
      (← e.getParameter 2)]
  | .etZoneSensorValue =>
    let dsid ← e.assertDSID
    expect (5 ≤ count)
    let sourceDevice ← match lib.str2dsuid e.singleString with
      | some dsuid => pure dsuid
      | none => throw .invalidDsuid
    return [.onZoneSensorValue dsid sourceDevice (← e.getParameter 0) (← e.getParameter 1)
      (← e.getParameter 2) (← e.getParameter 3) (← e.getParameter 4)]
  | .etDeviceEANReady =>
    let dsid ← e.assertDSID
    expect (count = 11)
    let high ← e.getParameter 3
    let low ← e.getParameter 4
    return [.onEANReady dsid (BitVec.ofInt 16 (← e.getParameter 0)) (← e.getParameter 1)
      (← e.getParameter 2)
      (BitVec.ofInt 64 high <<< 32 ||| (BitVec.ofInt 64 low &&& 0xFFFFFFFF))
      (← e.getParameter 5) (← e.getParameter 6) (← e.getBool 7) (← e.getBool 8)
      (← e.getParameter 9) (← e.getBool 10)]
  | .etDeviceOEMDataReady =>
    match e.eventClass with
    | .withStrings dsid strings =>
      expect (¬ (count ≠ 1 ∧ strings.length ≠ 5))
      return [.onOEMDataReady dsid (← e.getParameter 0) (← getString strings 0)
        (← getString strings 1) (← getString strings 2) (← getString strings 3)
        (← getString strings 4)]
    | .plain | .withDSID _ | .withSensorEx _ _ | .vdce _ _ _ => throw .assertion
  | .etDeviceOEMDataUpdateProductInfoState =>
    let dsid ← e.assertDSID
    expect (count = 1)
    return [.onDeviceOEMDataUpdateProductInfoState dsid (← e.getParameter 0)]
  | .etControllerConfig =>
    let dsid ← e.assertDSID
    return [.onHeatingControllerConfig dsid (← e.getParameter 0) e.singleObject]
  | .etControllerState =>
    let dsid ← e.assertDSID
    return [.onHeatingControllerState dsid (← e.getParameter 0) (← e.getParameter 1)]
  | .etControllerValues =>
    let dsid ← e.assertDSID
    return [.onHeatingControllerValues dsid (← e.getParameter 0) e.singleObject]
  | .etClusterConfigLock =>
    return [.onClusterConfigLock (← e.getParameter 0) (← e.getBool 1)]
  | .etClusterLockedScenes =>
    let bytes ← (List.range 16).mapM fun i => e.getParameter (i + 1)
    return [.onClusterLockedScenes (← e.getParameter 0)
      (parseBitfield (bytes.map (BitVec.ofInt 8)))]
  | .etGenericEvent =>
    expectOrigin (← e.getParameter 1)
    return [.onGenericEvent (← e.getParameter 0) e.singleObject (← e.getOrigin 1)]
  | .etOperationLock =>
    expectOrigin (← e.getParameter 3)
    return [.onOperationLock (← e.getParameter 0) (← e.getParameter 1) (← e.getBool 2)
      (← e.getOrigin 3)]
  | .etDeviceDirty => return [.onAutoClusterMaintenance (← e.assertDSID)]
  | .etDummyEvent => return []
  | .etClusterCleanup => return [.onAutoClusterCleanup]
  | .etMeterReady => return [.onMeterReady]
  | .etDeviceDataReady =>
    let dsid ← e.assertDSID
    expect (3 ≤ count)
    return [.onDeviceDataReady dsid (BitVec.ofInt 16 (← e.getParameter 0))
      (← e.getParameter 1) (← e.getBool 2)]
  | .etDsmStateChange =>
    let dsid ← e.assertDSID
    expect (1 ≤ count)
    return [.onDsmStateChange dsid (BitVec.ofInt 8 (← e.getParameter 0))]
  | .etVdceEvent =>
    match e.eventClass with
    | .vdce deviceDSID states events => return [.onVdceEvent deviceDSID states events]
    | .plain | .withDSID _ | .withStrings _ _ | .withSensorEx _ _ => throw .assertion
  | .etUndoSceneDevice => throw .assertion

end ModelEvent

end Dss
