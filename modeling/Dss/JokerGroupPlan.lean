import Dss.JokerGroupSteps

/-!
# The calls of a joker group assignment

Which calls the request makes if the bus answers all of them, is written down here from the device
and the apartment alone: those of the groups to leave and to enter, then those by which the inputs
follow, then those of the clusters.
-/

namespace Dss

open List

namespace JokerGroup

open Interruptible Program

/-! ## The inputs -/

/-- The calls of `setDeviceButtonActiveGroup`. -/
def buttonCalls (device : Device) (id : ℕ) : List BusCall :=
  .setDeviceButtonActiveGroup id ::
    if device.isAreaButton ∧ (id < groupIDYellow ∨ groupIDGray < id) then
      [.setDeviceConfig cfgClassFunction cfgFunctionButtonMode
        (buttonIdZone % 16 + if id < 16 then id * 16 else 0)]
    else []

/-- The device with another active group of the button, whose id is then no area. -/
def buttoned (device : Device) (id : ℕ) : Device :=
  if device.isAreaButton ∧ (id < groupIDYellow ∨ groupIDGray < id) then
    { device with buttonActiveGroup := id, buttonID := buttonIdZone }
  else { device with buttonActiveGroup := id }

def inputCalls (device : Device) (id : ℕ) : List BusCall :=
  (if device.hasSimpleInput then [.setDeviceConfig cfgClassDevice 0x40 id]
    else if device.outputMode = 0 then buttonCalls device id
    else []) ++
  if device.getDeviceType = .km ∧ device.isClassBL ∧ device.getDeviceNumber = 200 then
    [.setDeviceConfig cfgClassFunction cfgFunctionLTMode
      (if id = groupIDControlTemperature then buttonInputModeHeatingPushbutton
        else buttonInputModeStandard)]
  else []

/-- The device with its inputs in the group. -/
def followed (device : Device) (id : ℕ) : Device :=
  let device' :=
    if device.hasSimpleInput then { device with binaryInputs := device.binaryInputs.set 0 id }
    else if device.outputMode = 0 then buttoned device id
    else device
  if device.getDeviceType = .km ∧ device.isClassBL ∧ device.getDeviceNumber = 200 then
    { device' with
      buttonInputMode :=
        if id = groupIDControlTemperature then buttonInputModeHeatingPushbutton
        else buttonInputModeStandard }
  else device'

/-- Whether `setDeviceJokerGroup` takes the group. -/
def isJokerGroup (groupId : ℕ) : Bool := isDefaultGroup groupId || isGlobalAppDsGroup groupId

/-- Whether the button goes back to the standard mode first. -/
abbrev Released (device : Device) (groupId : ℕ) : Prop :=
  device.activeGroup = groupIDBlack ∧ groupId ≠ groupIDBlack ∧ device.hasInput ∧
    device.buttonInputMode ≠ buttonInputModeStandard ∧ device.is2WaySlave = false

def released (device : Device) (groupId : ℕ) : Device :=
  if Released device groupId then { device with buttonInputMode := buttonInputModeStandard }
  else device

def pressCalls (device : Device) (groupId : ℕ) : List BusCall :=
  if 0 < device.buttonInputCount ∧ groupId ≠ device.buttonActiveGroup then
    (if Released device groupId then
      [.setDeviceConfig cfgClassFunction cfgFunctionLTMode buttonInputModeStandard] else []) ++
      buttonCalls (released device groupId) groupId
  else []

/-- The device with its button in the group. -/
def pressed (device : Device) (groupId : ℕ) : Device :=
  if 0 < device.buttonInputCount ∧ groupId ≠ device.buttonActiveGroup then
    buttoned (released device groupId) groupId
  else device

def ledCalls (device : Device) : List BusCall :=
  if device.getDeviceType = .zws ∧ device.getDeviceNumber = 205 then
    [.setDeviceConfig cfgClassFunction cfgFunctionLedConfig0
      (0o40 + getApplicationTypeRgbBitmask device.activeGroup)]
  else []

def outputCalls (device : Device) : List BusCall :=
  if device.getDeviceType = .zws ∧ device.getDeviceNumber = 205 then
    [.setDeviceConfig cfgClassFunction cfgFunctionMode
      (if device.activeGroup = ApplicationType.controlTemperature.value then
        outputModeTempcontrolSwitched else outputModeSwitch2Pol)]
  else []

def jokerCalls (device : Device) (groupId : ℕ) : List BusCall :=
  pressCalls device groupId ++
    (ledCalls (pressed device groupId) ++ outputCalls (pressed device groupId))

/-- The device behind `setDeviceJokerGroup`. -/
def joined (device : Device) (groupId : ℕ) : Device :=
  pressed { device with groups := device.groups.add groupId } groupId

/-- The calls by which the inputs follow. -/
def followCalls (device : Device) (groupId : ℕ) : List BusCall :=
  inputCalls device groupId ++
    if isJokerGroup groupId then
      let device' := followed device groupId
      jokerCalls { device' with groups := device'.groups.add groupId } groupId
    else []

/-! ## The clusters -/

/-- The device with the binary input in the black group. -/
def freed (device : Device) (id : ℕ) : Device :=
  if device.hasSimpleInput ∧ device.binaryInputs.head? = some id then
    { device with binaryInputs := device.binaryInputs.set 0 groupIDBlack }
  else device

def adaptCalls (device : Device) (id : ℕ) : List BusCall :=
  (if device.hasSimpleInput ∧ device.binaryInputs.head? = some id then
    [.setDeviceConfig cfgClassDevice 0x40 groupIDBlack] else []) ++
  if id = device.buttonActiveGroup then buttonCalls (freed device id) device.activeGroup else []

/-- The device out of a group, with its inputs. -/
def adapted (device : Device) (id : ℕ) : Device :=
  if id = device.buttonActiveGroup then buttoned (freed device id) device.activeGroup
  else freed device id

/-- The calls for the clusters of another application type, up to one that cannot be left. -/
def clusterCalls (zone : Zone) (groupId : ℕ) : Device → List ℕ → List BusCall
  | _, [] => []
  | device, g :: gs =>
    if device.isInGroup g then
      match zone.getGroup g with
      | none => []
      | some group =>
        if group.base.applicationType.value = groupId then clusterCalls zone groupId device gs
        else if group.isLocked then []
        else
          let device' := { device with groups := device.groups.remove g }
          .removeFromGroup g :: (adaptCalls device' g ++
            clusterCalls zone groupId (adapted device' g) gs)
    else clusterCalls zone groupId device gs

/-- Each cluster of the device is found, and one of another application type is not locked. -/
def CanLeaveClusters (zone : Zone) (groupId : ℕ) (device : Device) (ids : List ℕ) : Prop :=
  ∀ id ∈ ids, device.isInGroup id = true → ∃ group, zone.getGroup id = some group ∧
    (group.base.applicationType.value = groupId ∨ group.isLocked = false)

variable {device : Device} {zone : Zone} {groupId id : ℕ}

/-! ## What the request does about the inputs -/

theorem does_setDeviceButtonActiveGroup (device : Device) (id : ℕ) :
    Does (setDeviceButtonActiveGroup id) device (buttonCalls device id) (buttoned device id)
      (.ok ()) := by
  refine Does.bind Does.call (Does.bind Does.modify (Does.get_bind ?_))
  rw [buttoned]
  refine Does.ite ?_ Does.pure
  exact Does.bind Does.modify (Does.get_bind ⟨rfl, rfl, rfl⟩)

theorem does_followInputs (device : Device) (id : ℕ) :
    Does (followInputs id) device (inputCalls device id) (followed device id) (.ok ()) := by
  refine Does.get_bind (Does.bind (Does.ite ?_ (Does.ite ?_ Does.pure))
    (Does.ite (Does.bind Does.call Does.modify) Does.pure))
  · exact Does.bind Does.call Does.modify
  · exact does_setDeviceButtonActiveGroup device id

theorem does_updateLedGroupColor (device : Device) :
    Does updateLedGroupColor device (ledCalls device) device (.ok ()) := by
  refine Does.get_bind ?_
  rw [ledCalls]
  split_ifs
  · exact Does.call
  · exact Does.pure

theorem does_updateOutputMode (device : Device) :
    Does updateOutputMode device (outputCalls device) device (.ok ()) := by
  refine Does.get_bind ?_
  rw [outputCalls]
  split_ifs
  · exact Does.call
  · exact Does.call
  · exact Does.pure

theorem does_press (device : Device) (groupId : ℕ) :
    Does (if 0 < device.buttonInputCount ∧ groupId ≠ device.buttonActiveGroup then do
        (if Released device groupId then setDeviceButtonInputMode buttonInputModeStandard
          else pure ())
        setDeviceButtonActiveGroup groupId
      else pure ()) device (pressCalls device groupId) (pressed device groupId) (.ok ()) :=
  Does.ite (Does.bind (Does.ite (Does.bind Does.call Does.modify) Does.pure)
    (does_setDeviceButtonActiveGroup _ groupId)) Does.pure

theorem does_setDeviceJokerGroup (device : Device) (h : isJokerGroup groupId = true) :
    Does (setDeviceJokerGroup groupId) device
      (jokerCalls { device with groups := device.groups.add groupId } groupId)
      (joined device groupId) (.ok ()) := by
  have hvalid : ¬ (!isDefaultGroup groupId && !isGlobalAppDsGroup groupId) = true := by
    rw [← Bool.not_or, Bool.not_eq_true', Bool.not_eq_false]
    exact h
  rw [setDeviceJokerGroup, if_neg hvalid]
  exact Does.modify_bind (Does.get_bind (Does.bind (does_press _ groupId)
    (Does.bind (does_updateLedGroupColor _) (does_updateOutputMode _))))

/-- Another group ends the request. -/
theorem setDeviceJokerGroup_of_not (device : Device) (h : isJokerGroup groupId = false) :
    ∃ error, setDeviceJokerGroup groupId device = ⟨[], device, .error error⟩ := by
  have hnot : (!isDefaultGroup groupId && !isGlobalAppDsGroup groupId) = true := by
    rw [← Bool.not_or, Bool.not_eq_true']
    exact h
  rw [setDeviceJokerGroup, if_pos hnot]
  exact ⟨_, rfl⟩

theorem does_adaptInputs (device : Device) (id : ℕ) :
    Does (adaptInputs id) device (adaptCalls device id) (adapted device id) (.ok ()) :=
  Does.get_bind (Does.bind (Does.ite (Does.bind Does.call Does.modify) Does.pure)
    (Does.ite (does_setDeviceButtonActiveGroup _ _) Does.pure))

/-- **The inputs follow.** -/
theorem calls_followGroup (device : Device) (groupId : ℕ) :
    (followGroup groupId device).calls.map Prod.fst = followCalls device groupId := by
  obtain ⟨hcalls, hstate, hresult⟩ := does_followInputs device groupId
  rw [followGroup, bind_of_ok hresult, List.map_append, hcalls, hstate, followCalls]
  rcases h : isJokerGroup groupId with - | -
  · obtain ⟨error, heq⟩ := setDeviceJokerGroup_of_not (followed device groupId) h
    rw [heq]
    rfl
  · rw [(does_setDeviceJokerGroup _ h).calls]
    rfl

theorem ok_followGroup (device : Device) (groupId : ℕ) :
    (followGroup groupId device).result = .ok () ↔ isJokerGroup groupId = true := by
  obtain ⟨-, hstate, hresult⟩ := does_followInputs device groupId
  rw [followGroup, bind_of_ok hresult, hstate]
  rcases h : isJokerGroup groupId with - | -
  · obtain ⟨error, heq⟩ := setDeviceJokerGroup_of_not (followed device groupId) h
    rw [heq]
    exact iff_of_false (fun hok => by cases hok) Bool.false_ne_true
  · exact iff_of_true (does_setDeviceJokerGroup _ h).result rfl

theorem state_followGroup (device : Device) (h : isJokerGroup groupId = true) :
    (followGroup groupId device).state = joined (followed device groupId) groupId := by
  obtain ⟨-, hstate, hresult⟩ := does_followInputs device groupId
  rw [followGroup, bind_of_ok hresult, hstate, (does_setDeviceJokerGroup _ h).state]

/-! ## What the request does about the clusters -/

theorem does_deviceRemoveFromGroup (device : Device) {group : ZoneGroup}
    (h : group.isLocked = false) :
    Does (deviceRemoveFromGroup true (some group)) device
      (.removeFromGroup group.base.groupID ::
        adaptCalls { device with groups := device.groups.remove group.base.groupID }
          group.base.groupID)
      (adapted { device with groups := device.groups.remove group.base.groupID }
        group.base.groupID) (.ok ()) := by
  rw [deviceRemoveFromGroup, if_neg (ne_true_of_eq_false h)]
  exact Does.call_bind (Does.modify_bind (does_adaptInputs _ _))

theorem groups_adapted (device : Device) (id : ℕ) :
    (adapted device id).groups = device.groups := by
  simp only [adapted, buttoned, freed]
  split_ifs <;> rfl

/-- **The clusters.** -/
theorem calls_leaveClusters {ids : List ℕ} {modified : Bool} :
    (leaveClusters zone groupId ids modified device).calls.map Prod.fst =
      clusterCalls zone groupId device ids := by
  induction ids generalizing device modified with
  | nil => rfl
  | cons id ids ih =>
    rw [clusterCalls]
    rcases hin : device.isInGroup id with - | -
    · rw [leaveClusters_of_not_isInGroup hin, ih]
      rfl
    · rw [if_pos rfl]
      rcases hgroup : zone.getGroup id with - | group
      · rw [leaveClusters, get_bind, if_pos hin, hgroup]
        rfl
      · by_cases htype : group.base.applicationType.value = groupId
        · rw [leaveClusters_of_matching hin hgroup htype, ih]
          exact (if_pos htype).symm
        · rw [leaveClusters_of_foreign hin hgroup htype]
          dsimp only
          rw [if_neg htype]
          have hid : group.base.groupID = id := (KeyedList.key_of_find? hgroup).2
          rcases hlocked : group.isLocked with - | -
          · obtain ⟨hcalls, hstate, hresult⟩ := does_deviceRemoveFromGroup device hlocked
            rw [bind_of_ok hresult, List.map_append, hcalls, hstate, ih, hid]
            rfl
          · obtain ⟨error, heq⟩ := deviceRemoveFromGroup_of_isLocked device true hlocked
            rw [bind_of_error (by rw [heq]), heq]
            rfl

theorem ok_leaveClusters {ids : List ℕ} {modified : Bool} (hnodup : ids.Nodup) :
    (∃ result, (leaveClusters zone groupId ids modified device).result = .ok result) ↔
      CanLeaveClusters zone groupId device ids := by
  induction ids generalizing device modified with
  | nil => exact iff_of_true ⟨modified, rfl⟩ fun _ hmem => absurd hmem List.not_mem_nil
  | cons id ids ih =>
    rw [List.nodup_cons] at hnodup
    rw [CanLeaveClusters, List.forall_mem_cons]
    rcases hin : device.isInGroup id with - | -
    · rw [leaveClusters_of_not_isInGroup hin, ih hnodup.2]
      exact (and_iff_right fun h => Bool.noConfusion h).symm
    · rcases hgroup : zone.getGroup id with - | group
      · rw [leaveClusters, get_bind, if_pos hin, hgroup]
        refine iff_of_false ?_ fun h => ?_
        · rintro ⟨_, h⟩
          cases h
        · obtain ⟨_, h, -⟩ := h.1 rfl
          cases h
      · by_cases htype : group.base.applicationType.value = groupId
        · rw [leaveClusters_of_matching hin hgroup htype, ih hnodup.2]
          exact (and_iff_right fun _ => ⟨group, rfl, Or.inl htype⟩).symm
        · rw [leaveClusters_of_foreign hin hgroup htype]
          rcases hlocked : group.isLocked with - | -
          · obtain ⟨-, hstate, hresult⟩ := does_deviceRemoveFromGroup device hlocked
            have hid : group.base.groupID = id := (KeyedList.key_of_find? hgroup).2
            rw [bind_of_ok hresult, ih hnodup.2,
              and_iff_right fun _ => ⟨group, rfl, Or.inr hlocked⟩]
            refine forall₂_congr fun other hother => ?_
            have hsame : (deviceRemoveFromGroup true (some group) device).state.isInGroup other =
                device.isInGroup other := by
              have hne : other ∉ [id] := fun h => hnodup.1 (List.mem_singleton.mp h ▸ hother)
              have hother' : (without [id] device).isInGroup other = device.isInGroup other :=
                isInGroup_without hne
              rw [← hother', hstate, Device.isInGroup, groups_adapted, hid]
              rfl
            rw [hsame]
          · obtain ⟨error, heq⟩ := deviceRemoveFromGroup_of_isLocked device true hlocked
            rw [bind_of_error (by rw [heq])]
            refine iff_of_false ?_ fun h => ?_
            · rintro ⟨_, h⟩
              cases h
            · obtain ⟨found, hfound, hor⟩ := h.1 rfl
              cases hfound
              rcases hor with h | h
              · exact htype h
              · rw [hlocked] at h
                cases h

end JokerGroup

end Dss
