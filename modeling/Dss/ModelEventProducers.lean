import Dss.ModelEvent

/-!
# The producers of model events

What `DefaultBusEventSink`, the callbacks of `DSBusInterface` and `DSActionRequest`
enqueue, against the handlers that should be called for it. All of them agree with the
`switch` but `onDeviceUndoScene`, whose kind of event has no case.
-/

namespace Dss

/-! ## The event sink -/

/-- The value of a `bool` as an `int`. -/
def boolToInt (b : Bool) : ℤ := if b then 1 else 0

/-- A call of a method of `DefaultBusEventSink`, without the source and the access
category, which are not used. The type of a sensor is its number. -/
inductive SinkCall : Type where
  | onGroupCallScene (dsMeterID : Dsuid) (zoneID groupID originDeviceID sceneID : ℤ)
      (origin : CallOrigin) (token : String) (force : Bool)
  | onGroupUndoScene (dsMeterID : Dsuid) (zoneID groupID originDeviceID sceneID : ℤ)
      (explicit : Bool) (origin : CallOrigin) (token : String)
  | onGroupBlink (dsMeterID : Dsuid) (zoneID groupID originDeviceID : ℤ) (origin : CallOrigin)
      (token : String)
  | onDeviceCallScene (dsMeterID : Dsuid) (deviceID originDeviceID sceneID : ℤ)
      (origin : CallOrigin) (token : String) (force : Bool)
  | onDeviceUndoScene (dsMeterID : Dsuid) (deviceID originDeviceID sceneID : ℤ)
      (explicit : Bool) (origin : CallOrigin) (token : String)
  | onDeviceBlink (dsMeterID : Dsuid) (deviceID originDeviceID : ℤ) (origin : CallOrigin)
      (token : String)
  | onMeteringEvent (dsMeterID : Dsuid) (powerW energyWs : BitVec 32)
  | onZoneSensorValue (dsMeterID sourceDevice : Dsuid)
      (zoneID groupID sensorType sensorValue precision : ℤ) (origin : CallOrigin)
  deriving DecidableEq

def SinkCall.event (lib : DsuidStrings) : SinkCall → ModelEvent
  | onGroupCallScene dsMeterID zoneID groupID originDeviceID sceneID origin token force =>
    { eventType := .etCallSceneGroup
      eventClass := .withDSID dsMeterID
      parameters :=
        [zoneID, groupID, originDeviceID, sceneID, origin.toInt, boolToInt force]
      singleString := token }
  | onGroupUndoScene dsMeterID zoneID groupID originDeviceID sceneID explicit origin token =>
    { eventType := .etUndoSceneGroup
      eventClass := .withDSID dsMeterID
      parameters :=
        [zoneID, groupID, originDeviceID, if explicit then sceneID else -1, origin.toInt]
      singleString := token }
  | onGroupBlink dsMeterID zoneID groupID originDeviceID origin token =>
    { eventType := .etBlinkGroup
      eventClass := .withDSID dsMeterID
      parameters := [zoneID, groupID, originDeviceID, origin.toInt]
      singleString := token }
  | onDeviceCallScene dsMeterID deviceID originDeviceID sceneID origin token force =>
    { eventType := .etCallSceneDevice
      eventClass := .withDSID dsMeterID
      parameters := [deviceID, originDeviceID, sceneID, origin.toInt, boolToInt force]
      singleString := token }
  | onDeviceUndoScene dsMeterID deviceID originDeviceID sceneID explicit origin token =>
    { eventType := .etUndoSceneDevice
      eventClass := .withDSID dsMeterID
      parameters := [deviceID, sceneID, boolToInt explicit, originDeviceID, origin.toInt]
      singleString := token }
  | onDeviceBlink dsMeterID deviceID originDeviceID origin token =>
    { eventType := .etBlinkDevice
      eventClass := .withDSID dsMeterID
      parameters := [deviceID, originDeviceID, origin.toInt]
      singleString := token }
  | onMeteringEvent dsMeterID powerW energyWs =>
    { eventType := .etMeteringValues
      eventClass := .withDSID dsMeterID
      parameters := [powerW.toInt, energyWs.toInt] }
  | onZoneSensorValue dsMeterID sourceDevice zoneID groupID sensorType sensorValue precision _ =>
    { eventType := .etZoneSensorValue
      eventClass := .withStrings dsMeterID []
      parameters := [zoneID, groupID, sensorType, sensorValue, precision]
      singleString := lib.dsuid2str sourceDevice }

/-! ## The callbacks of the bus -/

def sceneStop : ℤ := 0x0F

def sceneLocalOff : ℤ := 0x32

def sceneLocalOn : ℤ := 0x33

/-- A call of a handler of `DSBusInterface`. The message of an extended sensor value is
the text up to its NUL. -/
inductive BusCallback : Type where
  | eventDeviceAccessibilityOff (dsMeterID : Dsuid) (deviceID zoneID : BitVec 16)
  | eventDeviceAccessibilityOn (dsMeterID : Dsuid) (deviceID zoneID : BitVec 16)
  | eventDevicePresence (dsMeterID : Dsuid) (deviceID : BitVec 16) (present : BitVec 8)
  | eventDataModelChanged (dsMeterID : Dsuid) (shortAddress : BitVec 16)
  | deviceConfigSet (dsMeterID : Dsuid) (deviceID : BitVec 16)
      (configClass configIndex value : BitVec 8)
  | handleDeviceLocalAction (dsMeterID : Dsuid) (deviceID : BitVec 16) (state : BitVec 8)
  | handleDeviceAction (dsMeterID : Dsuid) (deviceID : BitVec 16) (buttonNr clickType : BitVec 8)
  | handleDirectDeviceAction (dsMeterID : Dsuid) (deviceID actionID : BitVec 16)
  | handleDeviceCallScene (dsMeterID : Dsuid) (deviceID : BitVec 16) (sceneID : BitVec 8)
      (forced : Bool)
  | handleDeviceBlink (dsMeterID : Dsuid) (deviceID : BitVec 16)
  | handleCircuitEnergyData (sourceID : Dsuid) (powerW energyWs : BitVec 32)
  | handleSensorEvent (sourceID : Dsuid) (deviceID : BitVec 16) (eventIndex : BitVec 8)
  | handleBinaryInputEvent (sourceID : Dsuid) (deviceID : BitVec 16)
      (eventIndex eventType state : BitVec 8)
  | handleSensorValueEvent (sourceID : Dsuid) (deviceID : BitVec 16) (sensorIndex : BitVec 8)
      (sensorValue : BitVec 16)
  | handleSensorValueExEvent (sourceID : Dsuid) (deviceID : BitVec 16) (sensorIndex : BitVec 8)
      (sensorValue : BitVec 64) (sensorAge contextId : BitVec 32) (contextMsg : String)
  | handleCircuitPowerStateChangedEvent (sourceID : Dsuid) (baseIndex : BitVec 8)
      (stateMask stateValue : BitVec 16)
  deriving DecidableEq

def BusCallback.events (lib : DsuidStrings) : BusCallback → List ModelEvent
  | eventDeviceAccessibilityOff dsMeterID deviceID zoneID =>
    [{ eventType := .etLostDevice
       eventClass := .withDSID dsMeterID
       parameters := [zoneID.toNat, deviceID.toNat] }]
  | eventDeviceAccessibilityOn dsMeterID deviceID zoneID =>
    [{ eventType := .etNewDevice
       eventClass := .withDSID dsMeterID
       parameters := [zoneID.toNat, deviceID.toNat] }]
  | eventDevicePresence dsMeterID deviceID present =>
    [{ eventType := if present = 0 then .etLostDevice else .etNewDevice
       eventClass := .withDSID dsMeterID
       parameters := [0, deviceID.toNat] }]
  | eventDataModelChanged dsMeterID shortAddress =>
    [{ eventType := .etDeviceChanged
       eventClass := .withDSID dsMeterID
       parameters := [shortAddress.toNat] }]
  | deviceConfigSet dsMeterID deviceID configClass configIndex value =>
    [{ eventType := .etDeviceConfigChanged
       eventClass := .withDSID dsMeterID
       parameters := [deviceID.toNat, configClass.toNat, configIndex.toNat, value.toNat] }]
  | handleDeviceLocalAction dsMeterID deviceID state =>
    if 2 < state.toNat then []
    else
      [{ eventType := .etCallSceneDeviceLocal
         eventClass := .withDSID dsMeterID
         parameters := [(deviceID.toNat : ℤ), 0] ++
           (if state = 0 then [sceneLocalOff]
            else if state = 1 then [sceneLocalOn]
            else if state = 2 then [sceneStop]
            else []) ++ [CallOrigin.coDsmApi.toInt, boolToInt false] }]
  | handleDeviceAction dsMeterID deviceID buttonNr clickType =>
    [{ eventType := .etButtonClickDevice
       eventClass := .withDSID dsMeterID
       parameters := [deviceID.toNat, buttonNr.toNat, clickType.toNat] }]
  | handleDirectDeviceAction dsMeterID deviceID actionID =>
    [{ eventType := .etButtonDirectActionDevice
       eventClass := .withDSID dsMeterID
       parameters := [deviceID.toNat, actionID.toNat] }]
  | handleDeviceCallScene dsMeterID deviceID sceneID forced =>
    [(SinkCall.onDeviceCallScene dsMeterID deviceID.toNat 0 sceneID.toNat .coDsmApi ""
      forced).event lib]
  | handleDeviceBlink dsMeterID deviceID =>
    [(SinkCall.onDeviceBlink dsMeterID deviceID.toNat 0 .coDsmApi "").event lib]
  | handleCircuitEnergyData sourceID powerW energyWs =>
    [(SinkCall.onMeteringEvent sourceID powerW energyWs).event lib]
  | handleSensorEvent sourceID deviceID eventIndex =>
    [{ eventType := .etDeviceSensorEvent
       eventClass := .withDSID sourceID
       parameters := [deviceID.toNat, eventIndex.toNat] }]
  | handleBinaryInputEvent sourceID deviceID eventIndex eventType state =>
    [{ eventType := .etDeviceBinaryStateEvent
       eventClass := .withDSID sourceID
       parameters := [deviceID.toNat, eventIndex.toNat, eventType.toNat, state.toNat] }]
  | handleSensorValueEvent sourceID deviceID sensorIndex sensorValue =>
    [{ eventType := .etDeviceSensorValue
       eventClass := .withDSID sourceID
       parameters := [deviceID.toNat, sensorIndex.toNat, sensorValue.toNat] }]
  | handleSensorValueExEvent sourceID deviceID sensorIndex sensorValue sensorAge contextId
      contextMsg =>
    [{ eventType := .etDeviceSensorValueEx
       eventClass := .withSensorEx sourceID sensorValue
       parameters := [deviceID.toNat, sensorIndex.toNat, sensorAge.toInt, contextId.toInt]
       singleString := contextMsg }]
  | handleCircuitPowerStateChangedEvent sourceID baseIndex stateMask stateValue =>
    [{ eventType := .etCircuitPowerStateChange
       eventClass := .withDSID sourceID
       parameters := [baseIndex.toNat, stateMask.toNat, stateValue.toNat] }]

/-! ## Requests of this server -/

inductive RequestTarget : Type where
  | group (zoneID groupID : ℤ)
  | device (dsMeterID : Dsuid) (shortAddress : ℤ)
  deriving DecidableEq

/-- `DSActionRequest::undoScene`, once the bus has taken it. -/
def requestUndoScene (target : RequestTarget) (origin : CallOrigin) (scene : BitVec 16)
    (token : String) : SinkCall :=
  match target with
  | .group zoneID groupID =>
    .onGroupUndoScene dsuidNull zoneID groupID 0 scene.toNat true origin token
  | .device dsMeterID shortAddress =>
    .onDeviceUndoScene dsMeterID shortAddress 0 scene.toNat true origin token

/-- `DSActionRequest::undoSceneLast`, once the bus has taken it. -/
def requestUndoSceneLast (target : RequestTarget) (origin : CallOrigin) (token : String) :
    SinkCall :=
  match target with
  | .group zoneID groupID => .onGroupUndoScene dsuidNull zoneID groupID 0 (-1) false origin token
  | .device dsMeterID shortAddress =>
    .onDeviceUndoScene dsMeterID shortAddress 0 (-1) false origin token

/-- `DSActionRequest::blink`, once the bus has taken it. -/
def requestBlink (target : RequestTarget) (origin : CallOrigin) (token : String) : SinkCall :=
  match target with
  | .group zoneID groupID => .onGroupBlink dsuidNull zoneID groupID 0 origin token
  | .device dsMeterID shortAddress => .onDeviceBlink dsMeterID shortAddress 0 origin token

/-- Everything that enqueues a model event here. -/
inductive Producer : Type where
  | sink (call : SinkCall)
  | callback (call : BusCallback)
  | undoScene (target : RequestTarget) (origin : CallOrigin) (scene : BitVec 16) (token : String)
  | undoSceneLast (target : RequestTarget) (origin : CallOrigin) (token : String)
  | blink (target : RequestTarget) (origin : CallOrigin) (token : String)
  deriving DecidableEq

def Producer.events (lib : DsuidStrings) : Producer → List ModelEvent
  | sink call => [call.event lib]
  | callback call => call.events lib
  | undoScene target origin scene token =>
    [(requestUndoScene target origin scene token).event lib]
  | undoSceneLast target origin token => [(requestUndoSceneLast target origin token).event lib]
  | blink target origin token => [(requestBlink target origin token).event lib]

/-! ## The handlers that should be called -/

/-- The handlers for a call of the sink, with its arguments; `ModelMaintenance` has none
for the undo of a device. An undo that is not explicit is one of whatever scene was
called last, which the handler knows as scene -1. -/
def SinkCall.handlers : SinkCall → Option (List HandlerCall)
  | onGroupCallScene dsMeterID zoneID groupID originDeviceID sceneID origin token force =>
    some [.onGroupCallScene dsMeterID zoneID groupID originDeviceID sceneID origin force token,
      .onGroupCallSceneFiltered dsMeterID zoneID groupID originDeviceID sceneID origin force
        token]
  | onGroupUndoScene dsMeterID zoneID groupID originDeviceID sceneID explicit origin token =>
    some [.onGroupUndoScene dsMeterID zoneID groupID originDeviceID
      (if explicit then sceneID else -1) origin token]
  | onGroupBlink dsMeterID zoneID groupID originDeviceID origin token =>
    some [.onGroupBlink dsMeterID zoneID groupID originDeviceID origin token]
  | onDeviceCallScene dsMeterID deviceID originDeviceID sceneID origin token force =>
    some [.onDeviceCallScene dsMeterID deviceID originDeviceID sceneID origin force token]
  | onDeviceUndoScene _ _ _ _ _ _ _ => none
  | onDeviceBlink dsMeterID deviceID originDeviceID origin token =>
    some [.onDeviceBlink dsMeterID deviceID originDeviceID origin token]
  | onMeteringEvent dsMeterID powerW energyWs =>
    some [.meteringValues dsMeterID powerW energyWs]
  | onZoneSensorValue dsMeterID sourceDevice zoneID groupID sensorType sensorValue precision _ =>
    some [.onZoneSensorValue dsMeterID sourceDevice zoneID groupID sensorType sensorValue
      precision]

/-- The handlers for a callback of the bus, for each event. A local action other than
off, on and stop has none. -/
def BusCallback.handlers : BusCallback → List (List HandlerCall)
  | eventDeviceAccessibilityOff dsMeterID deviceID zoneID =>
    [[.onRemoveDevice dsMeterID zoneID.toNat deviceID.toNat]]
  | eventDeviceAccessibilityOn dsMeterID deviceID zoneID =>
    [[.onAddDevice dsMeterID zoneID.toNat deviceID.toNat]]
  | eventDevicePresence dsMeterID deviceID present =>
    [[if present = 0 then .onRemoveDevice dsMeterID 0 deviceID.toNat
      else .onAddDevice dsMeterID 0 deviceID.toNat]]
  | eventDataModelChanged dsMeterID shortAddress =>
    [[.rescanDevice dsMeterID shortAddress.toNat]]
  | deviceConfigSet dsMeterID deviceID configClass configIndex value =>
    [[.onDeviceConfigChanged dsMeterID deviceID.toNat configClass.toNat configIndex.toNat
      value.toNat]]
  | handleDeviceLocalAction dsMeterID deviceID state =>
    if state = 0 then
      [[.onDeviceCallScene dsMeterID deviceID.toNat 0 sceneLocalOff .coDsmApi false ""]]
    else if state = 1 then
      [[.onDeviceCallScene dsMeterID deviceID.toNat 0 sceneLocalOn .coDsmApi false ""]]
    else if state = 2 then
      [[.onDeviceCallScene dsMeterID deviceID.toNat 0 sceneStop .coDsmApi false ""]]
    else []
  | handleDeviceAction dsMeterID deviceID buttonNr clickType =>
    [[.onDeviceActionEvent dsMeterID deviceID.toNat buttonNr.toNat clickType.toNat,
      .onDeviceActionFiltered dsMeterID deviceID.toNat buttonNr.toNat clickType.toNat]]
  | handleDirectDeviceAction dsMeterID deviceID actionID =>
    [[.onDeviceDirectActionEvent dsMeterID deviceID.toNat actionID.toNat]]
  | handleDeviceCallScene dsMeterID deviceID sceneID forced =>
    [[.onDeviceCallScene dsMeterID deviceID.toNat 0 sceneID.toNat .coDsmApi forced ""]]
  | handleDeviceBlink dsMeterID deviceID =>
    [[.onDeviceBlink dsMeterID deviceID.toNat 0 .coDsmApi ""]]
  | handleCircuitEnergyData sourceID powerW energyWs =>
    [[.meteringValues sourceID powerW energyWs]]
  | handleSensorEvent sourceID deviceID eventIndex =>
    [[.onSensorEvent sourceID deviceID eventIndex.toNat]]
  | handleBinaryInputEvent sourceID deviceID eventIndex eventType state =>
    [[.onBinaryInputEvent sourceID deviceID eventIndex.toNat eventType.toNat state.toNat]]
  | handleSensorValueEvent sourceID deviceID sensorIndex sensorValue =>
    [[.onSensorValue sourceID deviceID sensorIndex.toNat sensorValue.toNat]]
  | handleSensorValueExEvent sourceID deviceID sensorIndex sensorValue sensorAge contextId
      contextMsg =>
    [[.onSensorValueEx sourceID deviceID sensorIndex.toNat sensorValue sensorAge contextId
      contextMsg]]
  | handleCircuitPowerStateChangedEvent sourceID baseIndex stateMask stateValue =>
    [[.onCircuitPowerStateChange sourceID baseIndex.toNat stateMask.toNat stateValue.toNat]]

def Producer.handlers : Producer → Option (List (List HandlerCall))
  | sink call => call.handlers.map fun handlers => [handlers]
  | callback call => some call.handlers
  | undoScene target origin scene token =>
    (requestUndoScene target origin scene token).handlers.map fun handlers => [handlers]
  | undoSceneLast target origin token =>
    (requestUndoSceneLast target origin token).handlers.map fun handlers => [handlers]
  | blink target origin token =>
    (requestBlink target origin token).handlers.map fun handlers => [handlers]

/-- Each event is dispatched, and where its kind has handlers, to these with the arguments
of the producer; nothing else happens to it. -/
def Producer.Agrees (lib : DsuidStrings) (p : Producer) : Prop :=
  ∃ calls, (p.events lib).mapM (ModelEvent.dispatch lib) = .ok calls ∧
    ∀ handlers, p.handlers = some handlers → calls = handlers

def SinkCall.UndoesDevice : SinkCall → Prop
  | onDeviceUndoScene _ _ _ _ _ _ _ => True
  | onGroupCallScene _ _ _ _ _ _ _ _ | onGroupUndoScene _ _ _ _ _ _ _ _
  | onGroupBlink _ _ _ _ _ _ | onDeviceCallScene _ _ _ _ _ _ _ | onDeviceBlink _ _ _ _ _
  | onMeteringEvent _ _ _ | onZoneSensorValue _ _ _ _ _ _ _ _ => False

def Producer.UndoesDevice : Producer → Prop
  | sink call => call.UndoesDevice
  | undoScene (.device _ _) _ _ _ | undoSceneLast (.device _ _) _ _ => True
  | undoScene (.group _ _) _ _ _ | undoSceneLast (.group _ _) _ _ | callback _
  | blink _ _ _ => False

/-! ## Reading back what was written -/

variable {lib : DsuidStrings}

theorem ofInt_toNat_eq {w : ℕ} (x : BitVec w) : BitVec.ofInt w (x.toNat : ℤ) = x := by
  rw [BitVec.ofInt_natCast, BitVec.ofNat_toNat, BitVec.setWidth_eq]

theorem boolToInt_ne_zero (b : Bool) : decide (boolToInt b ≠ 0) = b := by
  cases b <;> rfl

theorem ofInt_map_toInt (o : CallOrigin) :
    (Except.ok o.toInt : Except DispatchFailure ℤ).map CallOrigin.ofInt = .ok o :=
  congrArg Except.ok o.ofInt_toInt

theorem ne_zero_map_boolToInt (b : Bool) :
    (Except.ok (boolToInt b) : Except DispatchFailure ℤ).map (fun p => decide (p ≠ 0)) = .ok b :=
  congrArg Except.ok (boolToInt_ne_zero b)

theorem SinkCall.dispatch_event (hlib : lib.RoundTrip) (call : SinkCall) (h : ¬ call.UndoesDevice) :
    ∃ handlers, call.handlers = some handlers ∧
      (call.event lib).dispatch lib = .ok handlers := by
  cases call with
  | onDeviceUndoScene => exact absurd trivial h
  | onGroupCallScene | onGroupUndoScene | onGroupBlink | onDeviceCallScene | onDeviceBlink =>
    refine ⟨_, rfl, ?_⟩
    simp only [event, ModelEvent.dispatch, ModelEvent.assertDSID, ModelEvent.dsid?,
      ModelEvent.getOrigin, ModelEvent.getBool, ModelEvent.getParameter,
      List.getElem?_cons_succ, List.getElem?_cons_zero,
      ofInt_map_toInt, ne_zero_map_boolToInt]
    rfl
  | onMeteringEvent dsMeterID powerW energyWs =>
    refine ⟨_, rfl, ?_⟩
    exact congrArg₂ (fun p e => Except.ok [HandlerCall.meteringValues dsMeterID p e])
      BitVec.ofInt_toInt BitVec.ofInt_toInt
  | onZoneSensorValue dsMeterID sourceDevice zoneID groupID sensorType sensorValue precision =>
    refine ⟨_, rfl, ?_⟩
    simp only [event, ModelEvent.dispatch, hlib sourceDevice]
    rfl

theorem mapM_singleton {α β ε : Type} {f : α → Except ε β} {a : α} {b : β} (h : f a = .ok b) :
    [a].mapM f = .ok [b] := by
  rw [List.mapM_cons, h]
  rfl

theorem BusCallback.mapM_dispatch_events (hlib : lib.RoundTrip) (call : BusCallback) :
    (call.events lib).mapM (ModelEvent.dispatch lib) = .ok call.handlers := by
  cases call with
  | eventDeviceAccessibilityOff | eventDeviceAccessibilityOn | eventDataModelChanged
  | deviceConfigSet | handleDeviceAction | handleDirectDeviceAction
  | handleCircuitPowerStateChangedEvent => rfl
  | eventDevicePresence dsMeterID deviceID present =>
    rw [events, handlers]
    split_ifs <;> rfl
  | handleDeviceLocalAction dsMeterID deviceID state =>
    rw [events, handlers]
    by_cases h0 : state = 0
    · subst h0
      rfl
    by_cases h1 : state = 1
    · subst h1
      rfl
    by_cases h2 : state = 2
    · subst h2
      rfl
    -- the sink enqueues nothing for another action
    rw [if_pos (by bv_omega), if_neg h0, if_neg h1, if_neg h2]
    rfl
  | handleDeviceCallScene dsMeterID deviceID sceneID forced =>
    obtain ⟨_, ⟨rfl⟩, hdispatch⟩ := SinkCall.dispatch_event hlib
      (.onDeviceCallScene dsMeterID deviceID.toNat 0 sceneID.toNat .coDsmApi "" forced) id
    exact mapM_singleton hdispatch
  | handleDeviceBlink dsMeterID deviceID =>
    obtain ⟨_, ⟨rfl⟩, hdispatch⟩ := SinkCall.dispatch_event hlib
      (.onDeviceBlink dsMeterID deviceID.toNat 0 .coDsmApi "") id
    exact mapM_singleton hdispatch
  | handleCircuitEnergyData sourceID powerW energyWs =>
    obtain ⟨_, ⟨rfl⟩, hdispatch⟩ := SinkCall.dispatch_event hlib
      (.onMeteringEvent sourceID powerW energyWs) id
    exact mapM_singleton hdispatch
  | handleSensorEvent sourceID deviceID eventIndex =>
    exact mapM_singleton (congrArg (fun d => Except.ok
      [HandlerCall.onSensorEvent sourceID d eventIndex.toNat]) (ofInt_toNat_eq deviceID))
  | handleBinaryInputEvent sourceID deviceID eventIndex eventType state =>
    exact mapM_singleton (congrArg (fun d => Except.ok
      [HandlerCall.onBinaryInputEvent sourceID d eventIndex.toNat eventType.toNat state.toNat])
      (ofInt_toNat_eq deviceID))
  | handleSensorValueEvent sourceID deviceID sensorIndex sensorValue =>
    exact mapM_singleton (congrArg (fun d => Except.ok
      [HandlerCall.onSensorValue sourceID d sensorIndex.toNat sensorValue.toNat])
      (ofInt_toNat_eq deviceID))
  | handleSensorValueExEvent sourceID deviceID sensorIndex sensorValue sensorAge contextId
      contextMsg =>
    have hage : BitVec.ofInt 32 sensorAge.toInt = sensorAge := BitVec.ofInt_toInt
    have hcontext : BitVec.ofInt 32 contextId.toInt = contextId := BitVec.ofInt_toInt
    refine mapM_singleton ?_
    calc ModelEvent.dispatch lib _
        = .ok [.onSensorValueEx sourceID (BitVec.ofInt 16 deviceID.toNat) sensorIndex.toNat
          sensorValue (BitVec.ofInt 32 sensorAge.toInt) (BitVec.ofInt 32 contextId.toInt)
          contextMsg] := rfl
      _ = _ := by rw [ofInt_toNat_eq, hage, hcontext]

theorem SinkCall.dispatch_event_undoesDevice {call : SinkCall} (h : call.UndoesDevice) :
    (call.event lib).dispatch lib = .error .assertion := by
  cases call with
  | onDeviceUndoScene => rfl
  | onGroupCallScene | onGroupUndoScene | onGroupBlink | onDeviceCallScene | onDeviceBlink
  | onMeteringEvent | onZoneSensorValue => exact absurd h id

/-! ## Which producers agree -/

def Producer.call? : Producer → Option SinkCall
  | sink call => some call
  | callback _ => none
  | undoScene target origin scene token => some (requestUndoScene target origin scene token)
  | undoSceneLast target origin token => some (requestUndoSceneLast target origin token)
  | blink target origin token => some (requestBlink target origin token)

theorem Producer.undoesDevice_iff {p : Producer} :
    p.UndoesDevice ↔ ∃ call, p.call? = some call ∧ call.UndoesDevice := by
  rcases p with call | call | ⟨_ | _, _, _, _⟩ | ⟨_ | _, _, _⟩ | ⟨_ | _, _, _⟩ <;>
    simp [UndoesDevice, call?, SinkCall.UndoesDevice, requestUndoScene, requestUndoSceneLast,
      requestBlink]

theorem Producer.events_of_call? {p : Producer} {call : SinkCall} (h : p.call? = some call) :
    p.events lib = [call.event lib] ∧
      p.handlers = call.handlers.map fun handlers => [handlers] := by
  cases p with
  | callback => cases h
  | sink | undoScene | undoSceneLast | blink =>
    cases h
    exact ⟨rfl, rfl⟩

/-- **A producer and the dispatcher agree unless it undoes a scene on a device.** With a
dSUID that is read back as it was written, every other event reaches the handlers of its
kind with the arguments of its producer; the undo of a device ends in an assertion. -/
theorem Producer.agrees_iff (hlib : lib.RoundTrip) (p : Producer) :
    p.Agrees lib ↔ ¬ p.UndoesDevice := by
  rcases h : p.call? with - | call
  · -- only a callback has no call of its own
    cases p with
    | callback call =>
      refine ⟨fun _ => id, fun _ => ⟨_, BusCallback.mapM_dispatch_events hlib call, ?_⟩⟩
      rintro handlers ⟨rfl⟩
      rfl
    | sink | undoScene | undoSceneLast | blink => cases h
  · obtain ⟨hevents, hhandlers⟩ := @Producer.events_of_call? lib p call h
    rw [Agrees, hevents, hhandlers, undoesDevice_iff, h]
    constructor
    · rintro ⟨calls, hcalls, -⟩ ⟨_, ⟨rfl⟩, hundoes⟩
      rw [List.mapM_cons, SinkCall.dispatch_event_undoesDevice hundoes] at hcalls
      cases hcalls
    · intro hundoes
      obtain ⟨handlers, hsome, hdispatch⟩ :=
        SinkCall.dispatch_event hlib call fun hcall => hundoes ⟨call, rfl, hcall⟩
      refine ⟨_, mapM_singleton hdispatch, ?_⟩
      intro expected hexpected
      rw [hsome] at hexpected
      exact Option.some.inj hexpected

/-! ## The text of a dSUID -/

/-- The last `k` hexadecimal digits. -/
def hexDigits : ℕ → ℕ → List Char
  | 0, _ => []
  | k + 1, n => hexDigits k (n / 16) ++ [Nat.digitChar (n % 16)]

def hexValue? (c : Char) : Option ℕ :=
  (List.range 16).find? fun d => Nat.digitChar d = c

def readHex (cs : List Char) : Option ℕ :=
  cs.foldlM (fun n c => (hexValue? c).map fun d => 16 * n + d) 0

def hexStrings : DsuidStrings where
  dsuid2str dsuid := String.ofList (hexDigits 34 dsuid.toNat)
  str2dsuid s := if s.length = 34 then (readHex s.toList).map (BitVec.ofNat 136) else none

theorem hexValue?_digitChar : ∀ d < 16, hexValue? (Nat.digitChar d) = some d := by
  decide

theorem length_hexDigits (k n : ℕ) : (hexDigits k n).length = k := by
  induction k generalizing n with
  | zero => rfl
  | succ k ih => rw [hexDigits, List.length_append, ih, List.length_singleton]

theorem readHex_hexDigits (k n : ℕ) : readHex (hexDigits k n) = some (n % 16 ^ k) := by
  induction k generalizing n with
  | zero => simp [readHex, hexDigits, Nat.mod_one]
  | succ k ih =>
    have hdigit : n % 16 < 16 := Nat.mod_lt n (by decide)
    have hread : readHex (hexDigits k (n / 16)) = some (n / 16 % 16 ^ k) := ih (n / 16)
    rw [readHex] at hread ⊢
    rw [hexDigits, List.foldlM_append, hread]
    have hmod : n % 16 ^ (k + 1) = 16 * (n / 16 % 16 ^ k) + n % 16 := by
      rw [Nat.pow_succ', Nat.mod_mul, Nat.add_comm]
    simp [hexValue?_digitChar _ hdigit, hmod]

theorem hexStrings_roundTrip : hexStrings.RoundTrip := by
  intro dsuid
  have hlt : dsuid.toNat < 16 ^ 34 := dsuid.isLt
  have hlength : (String.ofList (hexDigits 34 dsuid.toNat)).length = 34 := by
    rw [String.length_ofList, length_hexDigits]
  have hread := readHex_hexDigits 34 dsuid.toNat
  rw [Nat.mod_eq_of_lt hlt] at hread
  simp only [hexStrings]
  rw [if_pos hlength, String.toList_ofList, hread, Option.map_some, BitVec.ofNat_toNat,
    BitVec.setWidth_eq]

/-- So it is with this text, for a blink of a device. -/
theorem Producer.agrees_blink :
    hexStrings.RoundTrip ∧
      ((blink (.device 1 2) .coJSON "").Agrees hexStrings ↔
        ¬ (blink (.device 1 2) .coJSON "").UndoesDevice) :=
  ⟨hexStrings_roundTrip, agrees_iff hexStrings_roundTrip (.blink (.device 1 2) .coJSON "")⟩

/-- Not every producer agrees: to undo scene 5 on a device ends in the assertion. -/
theorem Producer.agrees_fails :
    ¬ ∀ lib : DsuidStrings, lib.RoundTrip → ∀ p : Producer, p.Agrees lib := by
  intro h
  obtain ⟨calls, hcalls, -⟩ := h hexStrings hexStrings_roundTrip
    (.undoScene (.device 1 2) .coJSON 5 "")
  cases hcalls

end Dss
