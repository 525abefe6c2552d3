import Dss.CloudUpload

/-!
# When a batch is uploaded as it should be

What becomes of an event is read off a table: its name, where it must have been raised for that
row to be taken, and what it depends on then. A batch becomes what it should if all of its events
are converted or all of them are refused at once.
-/

namespace Dss

open Interruptible Program Json JSONWriter

/-! ## The tables -/

namespace CloudEvent

variable (e : CloudEvent)

def anywhere : CloudEvent → Bool := fun _ => true

def hasSensorType : Bool :=
  e.getPropertyByName "sensorType" = "" || (parseInt? (e.getPropertyByName "sensorType")).isSome

def hasSceneID : Bool := (parseInt? (e.getPropertyByName "sceneID")).isSome

def hasSensor (rt : CloudRuntime) : Bool :=
  e.getPropertyByName "sensorIndex" = "" ||
    ((parseUInt? (e.getPropertyByName "sensorIndex")).isSome &&
      e.raisedAtDevice.any fun dsuid => (rt.devices dsuid).isSome)

end CloudEvent

structure CloudRow : Type where
  name : String
  place : CloudEvent → Bool
  fate : CloudEvent → Fate

def fateOf : List CloudRow → CloudEvent → Fate
  | [], _ => .refused
  | row :: rows, e => if e.name = row.name ∧ row.place e = true then row.fate e else fateOf rows e

def always : CloudEvent → Fate := fun _ => .complete

def ifState (e : CloudEvent) : Fate := .completeIf e.raisedAtState.isSome .crashed

namespace MsHub

open CloudEvent

def rows : List CloudRow :=
  [⟨"deviceSensorValue", atDevice, fun e => .completeIf e.hasSensorType .refused⟩,
    ⟨"zoneSensorValue", atGroup, fun e => .completeIf e.hasSensorType .refused⟩,
    ⟨"callScene", atGroup, fun e => .completeIf e.hasSceneID .refused⟩,
    ⟨"undoScene", atGroup, fun e => .completeIf e.hasSceneID .refused⟩,
    ⟨"stateChange", anywhere, ifState⟩,
    ⟨"oldStateChange", anywhere, always⟩,
    ⟨"addonStateChange", anywhere, ifState⟩,
    ⟨"deviceStatusEvent", atDevice, always⟩,
    ⟨"deviceInvalidSensor", atDevice, fun e => .completeIf e.hasSensorType .refused⟩,
    ⟨"zoneSensorError", atGroup, fun e => .completeIf e.hasSensorType .refused⟩,
    ⟨"HeatingControllerSetup", anywhere, always⟩,
    ⟨"HeatingControllerValue", anywhere, always⟩,
    ⟨"HeatingControllerState", anywhere, always⟩,
    ⟨"HeatingEnabled", anywhere, always⟩,
    ⟨"HeatingSystemCapability", anywhere, always⟩,
    ⟨"AddonToCloud", anywhere, always⟩]

end MsHub

namespace DsHub

open CloudEvent

def callSceneFate (e : CloudEvent) : Fate :=
  if e.atGroup || e.atDevice then .completeIf e.hasSceneID .opened
  else if e.hasSceneID then .closed else .refused

def blinkFate (e : CloudEvent) : Fate := .completeIf (e.atGroup || e.atDevice) .closed

def stateFate (e : CloudEvent) : Fate :=
  match e.raisedAtState with
  | none => .crashed
  | some state =>
    match state.type with
    | .group | .sensorZone => .completeIf state.providerGroup.isSome .crashed
    | .device | .sensorDevice => .completeIf state.providerDevice.isSome .crashed
    | _ => .complete

def rows (rt : CloudRuntime) : List CloudRow :=
  [⟨"deviceSensorValue", atDevice,
      fun e => .completeIf (e.hasSensorType && e.hasSensor rt) .opened⟩,
    ⟨"deviceInvalidSensor", atDevice, fun e => .completeIf e.hasSensorType .opened⟩,
    ⟨"zoneSensorValue", atGroup, fun e => .completeIf e.hasSensorType .opened⟩,
    ⟨"zoneSensorError", atGroup, fun e => .completeIf e.hasSensorType .opened⟩,
    ⟨"deviceBinaryInputEvent", anywhere, fun e => .completeIf e.atDevice .crashed⟩,
    ⟨"deviceStatusEvent", atDevice, always⟩,
    ⟨"deviceSensorEvent", atDevice, always⟩,
    ⟨"buttonClick", atDevice, always⟩,
    ⟨"buttonDeviceAction", atDevice, always⟩,
    ⟨"callScene", anywhere, callSceneFate⟩,
    ⟨"undoScene", atGroup, fun e => .completeIf e.hasSceneID .opened⟩,
    ⟨"blink", anywhere, blinkFate⟩,
    ⟨"highlevelevent", anywhere, always⟩,
    ⟨"stateChange", anywhere, stateFate⟩,
    ⟨"addonStateChange", anywhere, ifState⟩,
    ⟨"deviceActionEvent", atDevice, always⟩,
    ⟨"deviceEventEvent", atDevice, always⟩,
    ⟨"deviceStateEvent", atDevice, always⟩,
    ⟨"deviceCustomActionChangedEvent", atDevice, always⟩,
    ⟨"HeatingControllerSetup", anywhere, always⟩,
    ⟨"HeatingControllerValueDsHub", anywhere, always⟩,
    ⟨"HeatingControllerState", anywhere, always⟩,
    ⟨"HeatingEnabled", anywhere, always⟩,
    ⟨"HeatingSystemCapability", anywhere, always⟩,
    ⟨"AddonToCloud", anywhere, always⟩,
    ⟨"executionDenied", anywhere, always⟩,
    ⟨"logFileData", anywhere, always⟩]

end DsHub

/-! ## Rows -/

/-- What is caught in `toJson` or by its caller. -/
def Thrown.isException : Thrown → Bool
  | invalidArgument _ | dssException _ => true
  | nullPointer | failedAssertion => false

variable {e : CloudEvent} {table : List CloudRow} {x y : JSONWriter Unit} {name value : String}
  {rt : CloudRuntime}

/-- `Meets` within `toJson`. -/
abbrev Within (fate : Fate) {A : Type} (x : JSONWriter A) : Prop :=
  Meets Thrown.isException fate x

theorem meets_row {place : CloudEvent → Bool} {fate : CloudEvent → Fate}
    (hx : place e = true → Within (fate e) x) (hy : Within (fateOf table e) y) :
    Within (fateOf (⟨name, place, fate⟩ :: table) e)
      (if e.name = name ∧ place e = true then x else y) := by
  rw [fateOf]
  split_ifs with h
  · exact hx h.2
  · exact hy

theorem meets_row_anywhere {fate : CloudEvent → Fate} (hx : Within (fate e) x)
    (hy : Within (fateOf table e) y) :
    Within (fateOf (⟨name, CloudEvent.anywhere, fate⟩ :: table) e)
      (if e.name = name then x else y) := by
  rw [fateOf]
  by_cases h : e.name = name
  · rw [if_pos ⟨h, rfl⟩, if_pos h]
    exact hx
  · rw [if_neg fun hrow => h hrow.1, if_neg h]
    exact hy

theorem meets_unhandled : Within (fateOf [] e) (unhandled e) :=
  meets_fail_caught rfl

theorem meets_add : Within .complete (add name value) :=
  meets_member name (.string (cString value)) rfl

theorem meets_addInt {i : ℤ} : Within .complete (addInt name i) :=
  meets_member name (.integer i) rfl

theorem meets_addBool {b : Bool} : Within .complete (addBool name b) :=
  meets_member name (.boolean b) rfl

theorem meets_deref {A : Type} (p : Option A) :
    Within (.completeIf p.isSome .crashed) (deref p) := by
  cases p with
  | none => exact meets_fail rfl
  | some a => exact meets_pure a

@[simp]
theorem deref_some_bind {A B : Type} {a : A} {f : A → JSONWriter B} :
    (deref (some a) >>= f) = f a :=
  rfl

theorem meets_deref_of_isSome {A : Type} {p : Option A} (h : p.isSome = true) :
    Within .complete (deref p) := by
  have hmeets := meets_deref p
  rwa [h] at hmeets

theorem meets_addProperties : Within .complete (addProperties e) :=
  meets_forM _ fun _ _ => meets_add

theorem meets_strToInt (text : String) :
    Within (.completeIf (parseInt? text).isSome .refused) (strToInt text) := by
  rw [strToInt]
  cases parseInt? text with
  | none => exact meets_fail_caught rfl
  | some i => exact meets_pure i

theorem meets_getSensorType : Within (.completeIf e.hasSensorType .refused) (getSensorType e) := by
  rw [getSensorType, CloudEvent.hasSensorType]
  split_ifs with h
  · rw [decide_eq_true h]
    exact meets_pure 255
  · rw [decide_eq_false h]
    exact meets_strToInt _

theorem isSome_raisedAtDevice : e.raisedAtDevice.isSome = e.atDevice := by
  rw [CloudEvent.raisedAtDevice, CloudEvent.atDevice]
  cases e.raisedAt <;> rfl

theorem isSome_raisedAtGroup : e.raisedAtGroup.isSome = e.atGroup := by
  rw [CloudEvent.raisedAtGroup, CloudEvent.atGroup]
  cases e.raisedAt <;> rfl

theorem meets_device (h : e.atDevice = true) : Within .complete (deref e.raisedAtDevice) :=
  meets_deref_of_isSome (isSome_raisedAtDevice.trans h)

theorem meets_group (h : e.atGroup = true) : Within .complete (deref e.raisedAtGroup) :=
  meets_deref_of_isSome (isSome_raisedAtGroup.trans h)

/-- The handler of `toJson` changes nothing in what is written. -/
theorem meets_catchInvalidArgument {fate : Fate} (h : Within fate x) :
    Meets Thrown.isDSSException fate (catchInvalidArgument e x) := by
  intro n
  have hx := h n
  have hok : ∀ a, (x n).result = .ok a → catchInvalidArgument e x n = x n := by
    intro a ha
    rw [catchInvalidArgument]
    simp only [ha]
  have herror : ∀ failure, (x n).result = .error failure →
      ∃ failure', (catchInvalidArgument e x n).result = .error failure' ∧
        failure'.isDSSException = failure.isException ∧
        written (catchInvalidArgument e x n) = written (x n) := by
    intro failure hfailure
    rw [catchInvalidArgument]
    simp only [hfailure]
    cases failure with
    | invalidArgument text => exact ⟨_, rfl, rfl, rfl⟩
    | dssException text => exact ⟨_, hfailure, rfl, rfl⟩
    | nullPointer => exact ⟨_, hfailure, rfl, rfl⟩
    | failedAssertion => exact ⟨_, hfailure, rfl, rfl⟩
  cases fate with
  | complete | closed =>
    obtain ⟨members, a, hwritten, ha⟩ := hx
    rw [hok a ha]
    exact ⟨members, a, hwritten, ha⟩
  | refused =>
    obtain ⟨members, failure, hwritten, hfailure, hcaught⟩ := hx
    obtain ⟨failure', hresult, hcaught', hwritten'⟩ := herror failure hfailure
    exact ⟨members, failure', hwritten'.trans hwritten, hresult, hcaught'.trans hcaught⟩
  | opened =>
    obtain ⟨members, name, members', failure, hwritten, hfailure, hcaught⟩ := hx
    obtain ⟨failure', hresult, hcaught', hwritten'⟩ := herror failure hfailure
    exact ⟨members, name, members', failure', hwritten'.trans hwritten, hresult,
      hcaught'.trans hcaught⟩
  | crashed =>
    obtain ⟨failure, hfailure, hcaught⟩ := hx
    obtain ⟨failure', hresult, hcaught', -⟩ := herror failure hfailure
    exact ⟨failure', hresult, hcaught'.trans hcaught⟩

/-! ## The first hub -/

namespace MsHub

theorem meets_appendCommon {group category : String} :
    Within .complete (appendCommon rt e group category) :=
  meets_add.next (meets_add.next meets_add)

theorem meets_stateChange : Within (ifState e) (stateChange rt e) := by
  refine Meets.crash_next (meets_deref _) fun _ state => ?_
  refine Meets.next ?_ (meets_add.next (meets_add.next meets_add))
  cases state.type <;> first | exact meets_appendCommon | exact meets_pure ()

theorem meets_convert : Within (fateOf rows e) (convert rt e) := by
  refine meets_row (fun hplace => ?deviceSensorValue) <|
    meets_row (fun hplace => ?zoneSensorValue) <|
    meets_row (fun hplace => ?callScene) <|
    meets_row (fun hplace => ?undoScene) <|
    meets_row_anywhere meets_stateChange <|
    meets_row_anywhere ?oldStateChange <|
    meets_row_anywhere ?addonStateChange <|
    meets_row (fun hplace => ?deviceStatus) <|
    meets_row (fun hplace => ?deviceInvalidSensor) <|
    meets_row (fun hplace => ?zoneSensorError) <|
    meets_row_anywhere (meets_appendCommon.next meets_addProperties) <|
    meets_row_anywhere (meets_appendCommon.next meets_addProperties) <|
    meets_row_anywhere (meets_appendCommon.next meets_addProperties) <|
    meets_row_anywhere (meets_appendCommon.next (meets_add.next meets_add)) <|
    meets_row_anywhere (meets_appendCommon.next (meets_add.next meets_add)) <|
    meets_row_anywhere ?addonToCloud meets_unhandled
  case deviceSensorValue =>
    refine meets_appendCommon.next (meets_getSensorType.guard_next fun _ => ?_)
    refine meets_addInt.next (meets_add.next ((meets_device hplace).bind fun _ => ?_))
    exact meets_add.next (Meets.ite (fun _ => meets_add) fun _ => meets_pure ())
  case zoneSensorValue =>
    refine meets_appendCommon.next (meets_getSensorType.guard_next fun _ => ?_)
    refine meets_addInt.next (meets_add.next ((meets_group hplace).bind fun _ => ?_))
    exact meets_addInt.next ((meets_group hplace).bind fun _ => meets_addInt)
  case callScene =>
    refine meets_appendCommon.next ((meets_group hplace).bind fun _ => meets_addInt.next ?_)
    refine (meets_group hplace).bind fun _ => meets_addInt.next ?_
    refine (meets_strToInt _).guard_next fun _ => ?_
    exact meets_addInt.next (meets_addBool.next meets_add)
  case undoScene =>
    refine meets_appendCommon.next ((meets_group hplace).bind fun _ => meets_addInt.next ?_)
    refine (meets_group hplace).bind fun _ => meets_addInt.next ?_
    exact (meets_strToInt _).guard_next fun _ => meets_addInt.next meets_add
  case oldStateChange =>
    exact meets_appendCommon.next (meets_add.next (meets_add.next meets_add))
  case addonStateChange =>
    refine meets_appendCommon.next ((meets_deref _).crash_next fun hstate _ => ?_)
    refine meets_add.next ((meets_deref_of_isSome hstate).bind fun _ => ?_)
    exact meets_add.next meets_add
  case deviceStatus =>
    refine meets_appendCommon.next (meets_add.next (meets_add.next ?_))
    exact (meets_device hplace).bind fun _ => meets_add
  case deviceInvalidSensor =>
    refine meets_appendCommon.next ((meets_device hplace).bind fun _ => meets_add.next ?_)
    exact meets_getSensorType.guard_next fun _ => meets_addInt.next meets_addInt
  case zoneSensorError =>
    refine meets_appendCommon.next (meets_getSensorType.guard_next fun _ => ?_)
    refine meets_addInt.next ((meets_group hplace).bind fun _ => meets_addInt.next ?_)
    exact (meets_group hplace).bind fun _ => meets_addInt.next meets_addInt
  case addonToCloud =>
    exact meets_appendCommon.next (meets_add.next meets_addProperties.object)

theorem meets_toJson : Meets Thrown.isDSSException (fateOf rows e) (toJson rt e) :=
  meets_catchInvalidArgument meets_convert

end MsHub

/-! ## The second hub -/

namespace DsHub

variable {group category : String} {body : JSONWriter Unit} {fate : Fate} {c : Bool}

theorem meets_createHeader (huuid : ∀ n, (rt.uuid n).isSome = true) :
    Within .complete (createHeader rt e group category) := by
  refine meets_get.bind fun n => ?_
  obtain ⟨eventId, heventId⟩ := Option.isSome_iff_exists.mp (huuid n)
  rw [heventId]
  refine Meets.object (meets_add.next (meets_add.next ((meets_modify _).next ?_)))
  exact meets_addInt.next (meets_add.next (meets_add.next (meets_add.next meets_add)))

theorem meets_createEvent (huuid : ∀ n, (rt.uuid n).isSome = true)
    (hbody : Within .complete body) : Within .complete (createEvent rt e group category body) :=
  (meets_createHeader huuid).next hbody.object

theorem meets_createEvent_guard (huuid : ∀ n, (rt.uuid n).isSome = true)
    (hbody : Within (.completeIf c .refused) body) :
    Within (.completeIf c .opened) (createEvent rt e group category body) :=
  (meets_createHeader huuid).next hbody.guard_object

theorem meets_createEvent_crash (huuid : ∀ n, (rt.uuid n).isSome = true)
    (hbody : Within (.completeIf c .crashed) body) :
    Within (.completeIf c .crashed) (createEvent rt e group category body) :=
  (meets_createHeader huuid).next hbody.crash_object

theorem meets_stateToJson : Within .complete (stateToJson e) :=
  meets_add.next (meets_add.next (meets_add.next meets_add))

theorem meets_addIfSet {property : String} : Within .complete (addIfSet e name property) :=
  Meets.ite (fun _ => meets_add) fun _ => meets_pure ()

theorem meets_addParameters : Within .complete (addParameters e) := by
  refine (writesItems_forM _ fun param _ => ?_).array
  refine WritesItems.ite ?_ writesItems_pure
  exact (show Within .complete _ from meets_add.next meets_add).item

theorem meets_strToUInt (text : String) :
    Within (.completeIf (parseUInt? text).isSome .refused) (strToUInt text) := by
  rw [strToUInt]
  cases parseUInt? text with
  | none => exact meets_fail_caught rfl
  | some i => exact meets_pure i

theorem meets_getDevice (h : e.atDevice = true) :
    Within (.completeIf (e.raisedAtDevice.any fun dsuid => (rt.devices dsuid).isSome) .refused)
      (getDevice rt e) := by
  obtain ⟨dsuid, hdsuid⟩ := Option.isSome_iff_exists.mp (isSome_raisedAtDevice.trans h)
  rw [getDevice, hdsuid, Option.any_some, deref_some_bind]
  cases rt.devices dsuid with
  | none => exact meets_fail_caught rfl
  | some usages => exact meets_pure usages

theorem meets_deviceSensorValue (h : e.atDevice = true) :
    Within (.completeIf (e.hasSensorType && e.hasSensor rt) .refused)
      (deviceSensorValue rt e) := by
  refine meets_getSensorType.guard_bind fun _ => meets_addInt.next (meets_add.next ?_)
  refine (meets_device h).bind fun _ => meets_add.next ?_
  refine Meets.guard_next ?_ fun _ => meets_addIfSet.next (meets_addIfSet.next meets_addIfSet)
  rw [CloudEvent.hasSensor]
  split_ifs with hempty
  · rw [decide_eq_false hempty]
    refine meets_add.next ((meets_strToUInt _).guard_bind fun _ => ?_)
    exact (meets_getDevice h).guard_next fun _ => meets_addInt
  · rw [decide_eq_true (not_not.mp hempty)]
    exact meets_pure ()

/-- What `CallScene` and `IdentifyBlink` begin with and what they go on with, is an event with a
body. -/
theorem openBody_at_group {rest : JSONWriter Unit} {device : String} (h : e.atGroup = true) :
    (openBody rt e category device >>= fun _ => rest >>= fun _ => call .endObject) =
      createEvent rt e "Activity" category (do
        addInt "ZoneID" (← deref e.raisedAtGroup).1
        addInt "GroupID" (← deref e.raisedAtGroup).2
        rest) := by
  rw [openBody, if_pos h, createEvent, Json.object]
  simp only [bind_assoc']

theorem openBody_at_device {rest : JSONWriter Unit} {zone : String} (h : e.atGroup = false)
    (h' : e.atDevice = true) :
    (openBody rt e zone category >>= fun _ => rest >>= fun _ => call .endObject) =
      createEvent rt e "Activity" category (do
        add "DeviceID" (← deref e.raisedAtDevice)
        rest) := by
  rw [openBody, if_neg (by simp [h]), if_pos h', createEvent, Json.object]
  simp only [bind_assoc']

theorem openBody_elsewhere {zone device : String} (h : (e.atGroup || e.atDevice) = false) :
    openBody rt e zone device = pure () := by
  rw [Bool.or_eq_false_iff] at h
  rw [openBody, if_neg (by simp [h.1]), if_neg (by simp [h.2])]

theorem meets_openBody (huuid : ∀ n, (rt.uuid n).isSome = true) {zone device : String}
    {rest : JSONWriter Unit} (h : (e.atGroup || e.atDevice) = true)
    (hrest : Within (.completeIf c .refused) rest) : Within (.completeIf c .opened)
      (openBody rt e zone device >>= fun _ => rest >>= fun _ => call .endObject) := by
  rcases hgroup : e.atGroup with - | -
  · rw [hgroup] at h
    rw [openBody_at_device hgroup h]
    refine meets_createEvent_guard huuid ?_
    exact (meets_device h).bind fun _ => meets_add.next hrest
  · rw [openBody_at_group hgroup]
    refine meets_createEvent_guard huuid ?_
    refine (meets_group hgroup).bind fun _ => meets_addInt.next ?_
    exact (meets_group hgroup).bind fun _ => meets_addInt.next hrest

theorem callScene_eq : callScene rt e =
    openBody rt e "ZoneSceneCall" "DeviceSceneCall" >>= fun _ => (do
      addInt "SceneID" (← strToInt (e.getPropertyByName "sceneID"))
      addBool "Force" (e.hasPropertySet "forced")
      add "Origin" (e.getPropertyByName "callOrigin")) >>= fun _ => call .endObject := by
  rw [callScene]
  simp only [bind_assoc']

theorem meets_callScene (huuid : ∀ n, (rt.uuid n).isSome = true) :
    Within (callSceneFate e) (callScene rt e) := by
  rw [callSceneFate]
  split_ifs with hplace hscene
  · rw [callScene_eq]
    refine meets_openBody huuid hplace ?_
    exact (meets_strToInt _).guard_next fun _ => meets_addInt.next (meets_addBool.next meets_add)
  · have hnumber := meets_strToInt (e.getPropertyByName "sceneID")
    rw [show (parseInt? (e.getPropertyByName "sceneID")).isSome = true from hscene] at hnumber
    rw [callScene, openBody_elsewhere (eq_false_of_ne_true hplace)]
    refine (meets_pure ()).next (hnumber.bind fun _ => meets_addInt.next ?_)
    exact meets_addBool.next (meets_add.next meets_endObject)
  · have hnumber := meets_strToInt (e.getPropertyByName "sceneID")
    rw [show (parseInt? (e.getPropertyByName "sceneID")).isSome = false from
      eq_false_of_ne_true hscene] at hnumber
    rw [callScene, openBody_elsewhere (eq_false_of_ne_true hplace)]
    exact (meets_pure ()).next (Meets.refused_bind hnumber)

theorem meets_identifyBlink (huuid : ∀ n, (rt.uuid n).isSome = true) :
    Within (blinkFate e) (identifyBlink rt e) := by
  rw [blinkFate]
  rcases hplace : (e.atGroup || e.atDevice) with - | -
  · rw [identifyBlink, openBody_elsewhere hplace]
    exact (meets_pure ()).next (meets_add.next meets_endObject)
  · have hrest : Within (.completeIf true .refused)
        (add "Origin" (e.getPropertyByName "callOrigin")) := meets_add
    exact meets_openBody huuid hplace hrest

theorem meets_stateChange (huuid : ∀ n, (rt.uuid n).isSome = true) :
    Within (stateFate e) (stateChange rt e) := by
  rw [stateChange, stateFate]
  rcases hstate : e.raisedAtState with - | state
  · exact Meets.crashed_bind (meets_fail rfl)
  · rw [deref_some_bind]
    show Within (match state.type with
      | .group | .sensorZone => .completeIf state.providerGroup.isSome .crashed
      | .device | .sensorDevice => .completeIf state.providerDevice.isSome .crashed
      | _ => .complete) _
    have hapartment : Within .complete (createEvent rt e "Activity" "ApartmentStateChange" (do
        add "Origin" (e.getPropertyByName "callOrigin")
        stateToJson e)) :=
      meets_createEvent huuid (meets_add.next meets_stateToJson)
    have hgroup : Within (.completeIf state.providerGroup.isSome .crashed)
        (createEvent rt e "Activity" "ZoneStateChange" (do
          add "ZoneId" (toString (← deref state.providerGroup).1)
          add "GroupId" (toString (← deref state.providerGroup).2)
          stateToJson e)) := by
      refine meets_createEvent_crash huuid ((meets_deref _).crash_next fun hprovider _ => ?_)
      refine meets_add.next ((meets_deref_of_isSome hprovider).bind fun _ => ?_)
      exact meets_add.next meets_stateToJson
    have hdevice : Within (.completeIf state.providerDevice.isSome .crashed)
        (createEvent rt e "Activity" "DeviceStateChange" (do
          add "DeviceID" (← deref state.providerDevice)
          stateToJson e)) := by
      refine meets_createEvent_crash huuid ((meets_deref _).crash_next fun _ _ => ?_)
      exact meets_add.next meets_stateToJson
    cases state.type with
    | apartment => exact hapartment
    | service => exact hapartment
    | script => exact hapartment
    | group => exact hgroup
    | sensorZone => exact hgroup
    | device => exact hdevice
    | sensorDevice => exact hdevice
    | circuit => exact meets_pure ()

theorem meets_convert (huuid : ∀ n, (rt.uuid n).isSome = true) :
    Within (fateOf (rows rt) e) (convert rt e) := by
  refine meets_row (fun hplace => ?deviceSensorValue) <|
    meets_row (fun hplace => ?deviceInvalidSensor) <|
    meets_row (fun hplace => ?zoneSensorValue) <|
    meets_row (fun hplace => ?zoneSensorError) <|
    meets_row_anywhere ?deviceBinaryInput <|
    meets_row (fun hplace => ?deviceStatus) <|
    meets_row (fun hplace => ?deviceSensorEvent) <|
    meets_row (fun hplace => ?buttonClick) <|
    meets_row (fun hplace => ?buttonDeviceAction) <|
    meets_row_anywhere (meets_callScene huuid) <|
    meets_row (fun hplace => ?undoScene) <|
    meets_row_anywhere (meets_identifyBlink huuid) <|
    meets_row_anywhere ?highLevelEvent <|
    meets_row_anywhere (meets_stateChange huuid) <|
    meets_row_anywhere ?addonStateChange <|
    meets_row (fun hplace => ?deviceAction) <|
    meets_row (fun hplace => ?deviceEvent) <|
    meets_row (fun hplace => ?deviceState) <|
    meets_row (fun hplace => ?deviceCustomAction) <|
    meets_row_anywhere (meets_createEvent huuid meets_addProperties) <|
    meets_row_anywhere (meets_createEvent huuid meets_addProperties) <|
    meets_row_anywhere (meets_createEvent huuid meets_addProperties) <|
    meets_row_anywhere (meets_createEvent huuid (meets_addBool.next meets_addBool)) <|
    meets_row_anywhere (meets_createEvent huuid (meets_addBool.next meets_addBool)) <|
    meets_row_anywhere ?addonToCloud <|
    meets_row_anywhere ?executionDenied <|
    meets_row_anywhere (meets_createEvent huuid (meets_pure ())) meets_unhandled
  case deviceSensorValue =>
    exact meets_createEvent_guard huuid (meets_deviceSensorValue hplace)
  case deviceInvalidSensor =>
    refine meets_createEvent_guard huuid (meets_getSensorType.guard_next fun _ => ?_)
    refine meets_addInt.next (meets_addInt.next ?_)
    exact (meets_device hplace).bind fun _ => meets_add
  case zoneSensorValue =>
    refine meets_createEvent_guard huuid (meets_getSensorType.guard_next fun _ => ?_)
    refine meets_addInt.next (meets_add.next ((meets_group hplace).bind fun _ => ?_))
    exact meets_addInt.next ((meets_group hplace).bind fun _ => meets_addInt)
  case zoneSensorError =>
    refine meets_createEvent_guard huuid (meets_getSensorType.guard_next fun _ => ?_)
    refine meets_addInt.next (meets_addInt.next ((meets_group hplace).bind fun _ => ?_))
    exact meets_addInt.next ((meets_group hplace).bind fun _ => meets_addInt)
  case deviceBinaryInput =>
    have hdevice := meets_deref e.raisedAtDevice
    rw [isSome_raisedAtDevice] at hdevice
    refine meets_createEvent_crash huuid (meets_add.next (meets_add.next ?_))
    exact hdevice.crash_next fun _ _ => meets_add
  case deviceStatus =>
    refine meets_createEvent huuid (meets_add.next (meets_add.next ?_))
    exact (meets_device hplace).bind fun _ => meets_add
  case deviceSensorEvent =>
    exact meets_createEvent huuid (meets_add.next ((meets_device hplace).bind fun _ => meets_add))
  case buttonClick =>
    refine meets_createEvent huuid (meets_add.next (meets_add.next (meets_add.next ?_)))
    exact (meets_device hplace).bind fun _ => meets_add
  case buttonDeviceAction =>
    exact meets_createEvent huuid (meets_add.next ((meets_device hplace).bind fun _ => meets_add))
  case undoScene =>
    refine meets_createEvent_guard huuid ((meets_group hplace).bind fun _ => ?_)
    refine meets_addInt.next ((meets_group hplace).bind fun _ => meets_addInt.next ?_)
    exact (meets_strToInt _).guard_next fun _ => meets_addInt.next meets_add
  case highLevelEvent => exact meets_createEvent huuid (meets_add.next meets_add)
  case addonStateChange =>
    refine meets_createEvent_crash huuid ((meets_deref _).crash_next fun hstate _ => ?_)
    refine meets_add.next ((meets_deref_of_isSome hstate).bind fun _ => ?_)
    exact meets_add.next meets_add
  case deviceAction =>
    refine meets_createEvent huuid (meets_add.next ((meets_device hplace).bind fun _ => ?_))
    exact meets_add.next meets_addParameters
  case deviceEvent =>
    exact meets_createEvent huuid (meets_add.next ((meets_device hplace).bind fun _ => meets_add))
  case deviceState =>
    refine meets_createEvent huuid (meets_add.next (meets_add.next ?_))
    exact (meets_device hplace).bind fun _ => meets_add
  case deviceCustomAction =>
    refine meets_createEvent huuid (meets_add.next (meets_add.next (meets_add.next ?_)))
    exact (meets_device hplace).bind fun _ => meets_add.next meets_addParameters
  case addonToCloud =>
    exact meets_createEvent huuid (meets_add.next meets_addProperties.object)
  case executionDenied =>
    exact meets_createEvent huuid
      (meets_add.next (meets_add.next (meets_add.next meets_add)))

theorem meets_toJson (huuid : ∀ n, (rt.uuid n).isSome = true) :
    Meets Thrown.isDSSException (fateOf (rows rt) e) (toJson rt e) :=
  meets_catchInvalidArgument (meets_convert huuid)

end DsHub

/-! ## Both hubs -/

variable {n : ℕ} {events : List CloudEvent}

theorem MsHub.isolates_iff (hwriter : rt.writer.Sound) :
    (MsHub.hub rt).Isolates n events (MsHub.doUploadSensorData rt n events) ↔
      (∀ e ∈ events, fateOf MsHub.rows e = .complete) ∨
        ∀ e ∈ events, fateOf MsHub.rows e = .refused :=
  CloudHub.isolates_iff hwriter (fun _ _ h => congrArg CloudRequest.postdata h)
    fun _ => MsHub.meets_toJson

theorem DsHub.isolates_iff (hwriter : rt.writer.Sound)
    (huuid : ∀ n, (rt.uuid n).isSome = true) :
    (DsHub.hub rt).Isolates n events (DsHub.doUploadSensorData rt n events) ↔
      (∀ e ∈ events, fateOf (DsHub.rows rt) e = .complete) ∨
        ∀ e ∈ events, fateOf (DsHub.rows rt) e = .refused :=
  CloudHub.isolates_iff hwriter (fun _ _ h => congrArg CloudRequest.postdata h)
    fun _ => DsHub.meets_toJson huuid

/-- **Isolation.** Whatever was sent before, a batch becomes the array of the objects that its
convertible events yield, if all of its events are converted, or all are refused before an object
of their own is open. One event that is refused among others leaves its object in the array, and
one that fails within its body, or closes a body it has not, ends in a failed assertion. -/
theorem doUploadSensorData_isolates_iff (hwriter : rt.writer.Sound)
    (huuid : ∀ n, (rt.uuid n).isSome = true) (n : ℕ) (events : List CloudEvent) :
    ((MsHub.hub rt).Isolates n events (MsHub.doUploadSensorData rt n events) ↔
      (∀ e ∈ events, fateOf MsHub.rows e = .complete) ∨
        ∀ e ∈ events, fateOf MsHub.rows e = .refused) ∧
    ((DsHub.hub rt).Isolates n events (DsHub.doUploadSensorData rt n events) ↔
      (∀ e ∈ events, fateOf (DsHub.rows rt) e = .complete) ∨
        ∀ e ∈ events, fateOf (DsHub.rows rt) e = .refused) :=
  ⟨MsHub.isolates_iff hwriter, DsHub.isolates_iff hwriter huuid⟩

def firstDay : CloudRuntime where
  writer := Json.writer
  uuid _ := some "6ba7b814-9dad-41d1-80b4-00c04fd430c8"
  toISO8601 _ := "1970-01-01T00:00:00Z"
  toISO8601_ms _ := "1970-01-01T00:00:00.000Z"
  startTime := 0
  devices _ := none
  dsid := "3504175fe000000000000001"

def zoneCall : CloudEvent where
  name := "callScene"
  raisedAt := .group 1 2
  properties := (∅ : Properties).insert "sceneID" "5"

def heatingOn : CloudEvent where
  name := "HeatingEnabled"
  properties := ((∅ : Properties).insert "HeatingEnabled" "true").insert "CoolingEnabled" "false"

theorem doUploadSensorData_firstDay :
    (MsHub.hub firstDay).Isolates 0 [zoneCall, heatingOn]
        (MsHub.doUploadSensorData firstDay 0 [zoneCall, heatingOn]) ∧
      (DsHub.hub firstDay).Isolates 0 [zoneCall, heatingOn]
        (DsHub.doUploadSensorData firstDay 0 [zoneCall, heatingOn]) := by
  have hboth := @doUploadSensorData_isolates_iff firstDay Json.writer_sound (fun _ => rfl) 0
    [zoneCall, heatingOn]
  exact ⟨hboth.1.mpr (Or.inl (by decide +kernel)), hboth.2.mpr (Or.inl (by decide +kernel))⟩

def deviceCall : CloudEvent := { zoneCall with raisedAt := .device "d1" 1 }

def strayBlink : CloudEvent where
  name := "blink"

/-- The object of the refused event is posted, too; and a blink at no place closes the object of
the event, and the caller's own closing fails. -/
theorem doUploadSensorData_fails :
    ¬ (MsHub.hub firstDay).Isolates 0 [zoneCall, deviceCall]
        (MsHub.doUploadSensorData firstDay 0 [zoneCall, deviceCall]) ∧
      DsHub.doUploadSensorData firstDay 0 [strayBlink] = .failedAssertion := by
  rw [MsHub.isolates_iff Json.writer_sound]
  refine ⟨?_, by decide +kernel⟩
  rintro (hcomplete | hrefused)
  · exact absurd (hcomplete deviceCall (by simp)) (by decide +kernel)
  · exact absurd (hrefused zoneCall (by simp)) (by decide +kernel)

end Dss
