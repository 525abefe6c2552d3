import Mathlib.Data.List.Nodup
import Dss.PropertyNode
import Dss.Group
import Dss.Interruptible

/-!
# Joker groups

A device whose colour can be chosen is put into another group: it leaves the standard groups, the
control groups and the global application groups, one after the other, enters the new one, and
leaves the clusters of other application types. What is done to the device follows the bus call,
which may fail. The group to enter is looked up when the others are left already.

The events that are raised, the icon, and the pause at the end are left out.
-/

namespace Dss

open List

namespace JokerGroup

open Interruptible Program

/-! ## Memberships -/

def groupIDGray : ℕ := 2
def groupIDBlack : ℕ := 8
def groupIDGlobalAppMin : ℕ := 64
def groupIDGlobalAppMax : ℕ := 249
def groupIDNotApplicable : ℕ := 255

/-- `m_groupIds` -/
structure Memberships : Type where
  ids : List ℕ
  nodup : ids.Nodup
  valid : ∀ id ∈ ids, isValidGroup id = true

namespace Memberships

instance : Membership ℕ Memberships where
  mem m id := id ∈ m.ids

instance (m : Memberships) (id : ℕ) : Decidable (id ∈ m) :=
  inferInstanceAs (Decidable (id ∈ m.ids))

/-- `Device::removeFromGroup` -/
def remove (m : Memberships) (id : ℕ) : Memberships where
  ids := m.ids.erase id
  nodup := m.nodup.erase id
  valid := fun other hother => m.valid other (List.mem_of_mem_erase hother)

/-- `Device::addToGroup` -/
def add (m : Memberships) (id : ℕ) : Memberships :=
  if hvalid : isValidGroup id = true then
    if hmem : id ∈ m.ids then m
    else
      { ids := m.ids ++ [id]
        nodup := m.nodup.append (List.nodup_singleton id) (List.disjoint_singleton.mpr hmem)
        valid := fun other hother => (List.mem_append.mp hother).elim (m.valid other)
          fun hsingle => List.mem_singleton.mp hsingle ▸ hvalid }
  else m

/-- `Device::resetGroups`: the loop takes the first one, until there is none. -/
def reset (m : Memberships) : Memberships := m.ids.foldl remove m

theorem mem_remove {m : Memberships} {id other : ℕ} :
    other ∈ m.remove id ↔ other ∈ m ∧ other ≠ id := by
  show other ∈ m.ids.erase id ↔ _
  rw [m.nodup.mem_erase_iff, and_comm]
  rfl

theorem mem_add {m : Memberships} {id other : ℕ} (h : isValidGroup id = true) :
    other ∈ m.add id ↔ other ∈ m ∨ other = id := by
  rw [add]
  split_ifs with hmem
  · exact ⟨Or.inl, fun hor => hor.elim (fun hin => hin) fun heq => heq ▸ hmem⟩
  · show other ∈ m.ids ++ [id] ↔ _
    rw [mem_append, mem_singleton]
    rfl

theorem remove_eq_self {m : Memberships} {id : ℕ} (h : id ∉ m) : m.remove id = m := by
  obtain ⟨ids, hnodup, hvalid⟩ := m
  simp only [remove, Memberships.mk.injEq]
  exact erase_of_not_mem h

theorem remove_add_self {m : Memberships} {id : ℕ} (h : id ∉ m) :
    (m.add id).remove id = m := by
  obtain ⟨ids, hnodup, hvalid⟩ := m
  have hids : id ∉ ids := h
  rw [add]
  split_ifs
  · simp [remove, erase_append_right _ hids]
  · exact remove_eq_self h

theorem mem_foldl_remove {m : Memberships} {ids : List ℕ} {other : ℕ} :
    other ∈ ids.foldl remove m ↔ other ∈ m ∧ other ∉ ids := by
  induction ids generalizing m with
  | nil => simp
  | cons id ids ih =>
    rw [foldl_cons, ih, mem_remove, mem_cons, not_or, and_assoc]

theorem not_mem_reset {m : Memberships} {other : ℕ} : other ∉ m.reset := by
  rw [reset, mem_foldl_remove]
  exact fun h => h.2 h.1

end Memberships

/-! ## Devices -/

/-- `DeviceTypes_t` -/
inductive DeviceType : Type where
  | invalid | km | tkm | sdm | kl | tup | zws | sds | sk | akm | tny | umv | umr
  deriving DecidableEq

def buttonIdArea1 : ℕ := 1
def buttonIdArea4 : ℕ := 4
def buttonIdZone : ℕ := 5
def buttonIdArea1Extended : ℕ := 10
def buttonIdArea4Extended : ℕ := 13
def buttonInputModeStandard : ℕ := 0
def buttonInputModeHeatingPushbutton : ℕ := 65
def cfgClassDevice : ℕ := 1
def cfgClassFunction : ℕ := 3
def cfgFunctionMode : ℕ := 0
def cfgFunctionButtonMode : ℕ := 1
def cfgFunctionLedConfig0 : ℕ := 0x18
def cfgFunctionLTMode : ℕ := 0x1E
def outputModeSwitch2Pol : ℕ := 35
def outputModeTempcontrolSwitched : ℕ := 65

/-- `Device`, as far as it is looked at here. -/
structure Device : Type where
  /-- `getZoneID` -/
  zoneID : ℕ
  /-- `m_groupIds` -/
  groups : Memberships
  activeGroup : ℕ
  productID : ℕ
  functionID : ℕ
  /-- `m_targetGroupId` of each of `m_binaryInputs` -/
  binaryInputs : List ℕ
  outputMode : ℕ
  buttonActiveGroup : ℕ
  buttonID : ℕ
  buttonInputMode : ℕ
  buttonInputCount : ℕ
  is2WaySlave : Bool

namespace Device

def getDeviceType (device : Device) : DeviceType :=
  if device.productID = 0 then .invalid
  else
    match device.productID / 1024 % 64 with
    | 0 => .km
    | 1 => .tkm
    | 2 => .sdm
    | 3 => .kl
    | 4 => .tup
    | 5 => .zws
    | 6 => .sds
    | 7 => .sk
    | 8 => .akm
    | 10 => .tny
    | 11 => .umv
    | 12 => .umr
    | _ => .invalid

def getDeviceNumber (device : Device) : ℕ := device.productID % 1024

/-- `getDeviceClass() == DEVICE_CLASS_BL` -/
def isClassBL (device : Device) : Bool := device.functionID / 4096 % 16 = 3

/-- `Fid_105_Mask_VariableStandardGroup` -/
def hasVariableStandardGroup (device : Device) : Bool := 0 < device.functionID / 4 % 2

def hasInput (device : Device) : Bool :=
  let subclass := device.functionID / 64 % 64
  let funcmodule := device.functionID % 64
  (subclass = 4 || subclass = 7 || subclass = 8) && 0 < funcmodule % 4

def isInGroup (device : Device) (id : ℕ) : Bool :=
  if id = 0 then true else if isValidGroup id then id ∈ device.groups else false

def hasSimpleInput (device : Device) : Bool :=
  (device.getDeviceType = .akm || device.getDeviceType = .umr) && device.binaryInputs.length = 1

/-- `isAreaButton` in `setDeviceButtonActiveGroup` -/
def isAreaButton (device : Device) : Bool :=
  (buttonIdArea1 ≤ device.buttonID && device.buttonID ≤ buttonIdArea4) ||
    (buttonIdArea1Extended ≤ device.buttonID && device.buttonID ≤ buttonIdArea4Extended)

end Device

/-! ## Groups -/

/-- An entry of `m_Groups`. -/
inductive ZoneGroup : Type where
  | group (g : Group) : ZoneGroup
  | cluster (c : Cluster) : ZoneGroup
  deriving DecidableEq

namespace ZoneGroup

/-- The `Group` part. -/
def base : ZoneGroup → Group
  | group g => g
  | cluster c => c.toGroup

def isLocked : ZoneGroup → Bool
  | group _ => false
  | cluster c => c.configurationLocked

end ZoneGroup

structure Zone : Type where
  /-- `getID` -/
  id : ℕ
  groups : List ZoneGroup

def Zone.getGroup (zone : Zone) (id : ℕ) : Option ZoneGroup :=
  zone.groups.find? fun group => group.base.groupID = id

/-- The zones with their groups. -/
structure Apartment : Type where
  zones : List Zone

def Apartment.tryGetZone (a : Apartment) (id : ℕ) : Option Zone :=
  a.zones.find? fun zone => zone.id = id

end JokerGroup

/-- `static_cast<int>` -/
def ApplicationType.value : ApplicationType → ℕ
  | .none => 0
  | .lights => 1
  | .blinds => 2
  | .heating => 3
  | .audio => 4
  | .video => 5
  | .joker => 8
  | .cooling => 9
  | .ventilation => 10
  | .window => 11
  | .recirculation => 12
  | .controlTemperature => 48
  | .apartmentVentilation => 64
  | .apartmentRecirculation => 69

/-- `static_cast<ApplicationType>`: `none` if no enumerator has the value. -/
def castApplicationType (value : ℤ) : Option ApplicationType :=
  [ApplicationType.none, .lights, .blinds, .heating, .audio, .video, .joker, .cooling,
    .ventilation, .window, .recirculation, .controlTemperature, .apartmentVentilation,
    .apartmentRecirculation].find? fun t => (t.value : ℤ) = value

namespace JokerGroup

open Interruptible Program

/-! ## Bus calls -/

inductive BusCall : Type where
  | addToGroup (id : ℕ) : BusCall
  | removeFromGroup (id : ℕ) : BusCall
  | setDeviceConfig (configClass configIndex value : ℕ) : BusCall
  | setDeviceButtonActiveGroup (id : ℕ) : BusCall
  deriving DecidableEq

/-- How a request fails by itself. -/
inductive Error : Type where
  | thrown (e : Exception) : Error
  /-- `assert` fails, or a null pointer is dereferenced -/
  | noGroup : Error
  deriving DecidableEq

abbrev Request (A : Type) : Type := Program Device BusCall Error A

def getZone (a : Apartment) (id : ℕ) : Request Zone :=
  match a.tryGetZone id with
  | some zone => pure zone
  | none => fail (.thrown (.itemNotFound (toString id)))

/-! ## Inputs -/

def setDeviceButtonID (buttonID : ℕ) : Request Unit := do
  modify fun device => { device with buttonID := buttonID }
  let device ← get
  call (.setDeviceConfig cfgClassFunction cfgFunctionButtonMode
    (device.buttonID % 16 +
      if device.buttonActiveGroup < 16 then device.buttonActiveGroup * 16 else 0))

def setDeviceButtonActiveGroup (id : ℕ) : Request Unit := do
  call (.setDeviceButtonActiveGroup id)
  modify fun device => { device with buttonActiveGroup := id }
  let device ← get
  if device.isAreaButton ∧ (id < groupIDYellow ∨ groupIDGray < id) then
    setDeviceButtonID buttonIdZone
  else pure ()

def setDeviceButtonInputMode (mode : ℕ) : Request Unit := do
  call (.setDeviceConfig cfgClassFunction cfgFunctionLTMode mode)
  modify fun device => { device with buttonInputMode := mode }

/-- `setDeviceBinaryInputTargetId` and `setBinaryInputTargetId` for the only input -/
def setBinaryInputTargetId (id : ℕ) : Request Unit := do
  call (.setDeviceConfig cfgClassDevice 0x40 id)
  modify fun device => { device with binaryInputs := device.binaryInputs.set 0 id }

/-- The part of `deviceAddToGroup` that lets the inputs follow into the group. -/
def followInputs (id : ℕ) : Request Unit := do
  let device ← get
  (if device.hasSimpleInput then setBinaryInputTargetId id
    else if device.outputMode = 0 then setDeviceButtonActiveGroup id
    else pure ())
  if device.getDeviceType = .km ∧ device.isClassBL ∧ device.getDeviceNumber = 200 then
    setDeviceButtonInputMode
      (if id = groupIDControlTemperature then buttonInputModeHeatingPushbutton
        else buttonInputModeStandard)
  else pure ()

/-- The part of `deviceRemoveFromGroup` that takes the inputs out of the group. -/
def adaptInputs (id : ℕ) : Request Unit := do
  let device ← get
  (if device.hasSimpleInput ∧ device.binaryInputs.head? = some id then
      setBinaryInputTargetId groupIDBlack
    else pure ())
  if id = device.buttonActiveGroup then setDeviceButtonActiveGroup device.activeGroup
  else pure ()

/-- `getApplicationTypeRgbBitmask` of an application type, as a number. -/
def getApplicationTypeRgbBitmask (applicationType : ℕ) : ℕ :=
  if applicationType = ApplicationType.lights.value then 6
  else if applicationType = ApplicationType.blinds.value then 7
  else if applicationType ∈ [ApplicationType.heating, .cooling, .ventilation, .recirculation,
      .window, .controlTemperature, .apartmentVentilation,
      .apartmentRecirculation].map ApplicationType.value then 1
  else if applicationType = ApplicationType.audio.value then 3
  else if applicationType = ApplicationType.video.value then 5
  else 7

def updateLedGroupColor : Request Unit := do
  let device ← get
  if device.getDeviceType = .zws ∧ device.getDeviceNumber = 205 then
    call (.setDeviceConfig cfgClassFunction cfgFunctionLedConfig0
      (0o40 + getApplicationTypeRgbBitmask device.activeGroup))
  else pure ()

def updateOutputMode : Request Unit := do
  let device ← get
  if device.getDeviceType = .zws ∧ device.getDeviceNumber = 205 then
    call (.setDeviceConfig cfgClassFunction cfgFunctionMode
      (if device.activeGroup = ApplicationType.controlTemperature.value then
        outputModeTempcontrolSwitched else outputModeSwitch2Pol))
  else pure ()

def setDeviceJokerGroup (groupId : ℕ) : Request Unit := do
  if !isDefaultGroup groupId && !isGlobalAppDsGroup groupId then
    fail (.thrown (.runtimeError "Invalid joker group value"))
  else do
    modify fun device => { device with groups := device.groups.add groupId }
    let device ← get
    (if 0 < device.buttonInputCount ∧ groupId ≠ device.buttonActiveGroup then do
        (if device.activeGroup = groupIDBlack ∧ groupId ≠ groupIDBlack ∧ device.hasInput ∧
            device.buttonInputMode ≠ buttonInputModeStandard ∧ device.is2WaySlave = false then
          setDeviceButtonInputMode buttonInputModeStandard
          else pure ())
        setDeviceButtonActiveGroup groupId
      else pure ())
    updateLedGroupColor
    updateOutputMode

/-! ## Groups that are left and entered -/

/-- Whether `deviceAddToGroup` resets the groups first. -/
def resetsGroups (device : Device) (id : ℕ) : Bool :=
  (isDefaultGroup id || isGlobalAppDsGroup id) && device.hasVariableStandardGroup

/-- The groups of a device behind `deviceAddToGroup`. -/
def groupsWith (device : Device) (id : ℕ) : Memberships :=
  if resetsGroups device id then device.groups.reset.add id else device.groups.add id

/-- `deviceAddToGroup`, up to the inputs -/
def enterGroup : Option ZoneGroup → Request Unit
  | none => fail .noGroup
  | some group =>
    if group.isLocked then
      fail (.thrown (.runtimeError "The group is locked and cannot be modified"))
    else do
      call (.addToGroup group.base.groupID)
      modify fun device => { device with groups := groupsWith device group.base.groupID }

def deviceAddToGroup (group : Option ZoneGroup) (id : ℕ) : Request Unit := do
  enterGroup group
  followInputs id

def deviceRemoveFromGroup (adapt : Bool) : Option ZoneGroup → Request Unit
  | none => fail .noGroup
  | some group =>
    if group.isLocked then
      fail (.thrown (.runtimeError "The group is locked and cannot be modified"))
    else do
      call (.removeFromGroup group.base.groupID)
      modify fun device => { device with groups := device.groups.remove group.base.groupID }
      if adapt then adaptInputs group.base.groupID else pure ()

/-- The loops of `setJokerGroup` over ids: the device leaves those groups of a zone. -/
def leaveGroups (a : Apartment) (zoneID : ℕ) : List ℕ → Request Unit
  | [] => pure ()
  | g :: gs => do
    let device ← get
    (if device.isInGroup g then do
        let zone ← getZone a zoneID
        deviceRemoveFromGroup false (zone.getGroup g)
      else pure ())
    leaveGroups a zoneID gs

/-- The loop over the clusters: whether the device was `modified`. -/
def leaveClusters (zone : Zone) (groupId : ℕ) : List ℕ → Bool → Request Bool
  | [], modified => pure modified
  | g :: gs, modified => do
    let device ← get
    if device.isInGroup g then
      match zone.getGroup g with
      | none => fail .noGroup
      | some group =>
        if group.base.applicationType.value = groupId then leaveClusters zone groupId gs modified
        else do
          deviceRemoveFromGroup true (some group)
          leaveClusters zone groupId gs true
    else leaveClusters zone groupId gs modified

def standardIds (groupId : ℕ) : List ℕ :=
  (List.range' groupIDYellow groupIDStandardMax).filter fun g => ¬ (g = groupId ∨ groupIDBlack = g)

def controlIds : List ℕ :=
  List.range' groupIDControlGroupMin (groupIDControlGroupMax + 1 - groupIDControlGroupMin)

def globalAppIds : List ℕ :=
  List.range' groupIDGlobalAppMin (groupIDGlobalAppMax + 1 - groupIDGlobalAppMin)

def clusterIds : List ℕ :=
  List.range' groupIDAppUserMin (groupIDAppUserMax + 1 - groupIDAppUserMin)

def targetZone (device : Device) (groupId : ℕ) : ℕ :=
  if groupIDGlobalAppMin ≤ groupId then 0 else device.zoneID

/-- The part of `setJokerGroup` for another group than the active one. -/
def assignGroup (a : Apartment) (groupId : ℕ) : Request Unit := do
  let device ← get
  leaveGroups a device.zoneID (standardIds groupId)
  leaveGroups a device.zoneID controlIds
  leaveGroups a 0 globalAppIds
  let zone ← getZone a (targetZone device groupId)
  deviceAddToGroup (zone.getGroup groupId) groupId
  setDeviceJokerGroup groupId

def oldGroupId (device : Device) : ℕ :=
  if device.activeGroup = groupIDNotApplicable then groupIDBlack else device.activeGroup

def setJokerGroup (a : Apartment) (groupId : ℕ) : Request Bool := do
  let device ← get
  (if oldGroupId device ≠ groupId then assignGroup a groupId else pure ())
  let zone ← getZone a 0
  leaveClusters zone groupId clusterIds (oldGroupId device ≠ groupId)

end JokerGroup

end Dss
