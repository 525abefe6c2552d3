import Dss.KeyedList
import Dss.JokerGroup

/-!
# The steps of a joker group assignment

The loop over the groups to leave stops at one that cannot be left, the group is entered with one
call, what is done about the inputs leaves the groups alone, and the loop over the clusters begins
with the first one of another application type.
-/

namespace Dss

namespace JokerGroup

open Interruptible Program

/-! ## Groups that exclude each other -/

/-- The groups of which a device may be in one only. -/
def isExclusive (id : ℕ) : Bool :=
  (groupIDYellow ≤ id && id ≤ groupIDStandardMax) || isControlGroup id || isGlobalAppGroup id

def SameGroups (device device' : Device) : Prop := ∀ id, id ∈ device'.groups ↔ id ∈ device.groups

/-- The device is in the group and in no other one but the black one, as far as these exclude
each other. -/
def Alone (device : Device) (groupId : ℕ) : Prop :=
  groupId ∈ device.groups ∧
    ∀ id ∈ device.groups, isExclusive id = true → id = groupId ∨ id = groupIDBlack

/-! ## What is to be done -/

/-- The groups that the request looks at to leave them, each with its zone. -/
def candidates (device : Device) (groupId : ℕ) : List (ℕ × ℕ) :=
  (standardIds groupId).map (Prod.mk device.zoneID) ++ controlIds.map (Prod.mk device.zoneID) ++
    globalAppIds.map (Prod.mk 0)

def others (device : Device) (groupId : ℕ) : List (ℕ × ℕ) :=
  (candidates device groupId).filter fun candidate => device.isInGroup candidate.2

/-- A group that is found, and not locked. -/
def canLeave (a : Apartment) (candidate : ℕ × ℕ) : Bool :=
  (a.tryGetZone candidate.1).any fun zone =>
    (zone.getGroup candidate.2).any fun group => !group.isLocked

/-- The first cluster of another application type, if the loop gets there. -/
def firstForeign (zone : Zone) (groupId : ℕ) (device : Device) : List ℕ → Option ZoneGroup
  | [] => none
  | g :: gs =>
    if device.isInGroup g then
      (zone.getGroup g).bind fun group =>
        if group.base.applicationType.value = groupId then firstForeign zone groupId device gs
        else some group
    else firstForeign zone groupId device gs

def without (ids : List ℕ) (device : Device) : Device :=
  { device with groups := ids.foldl Memberships.remove device.groups }

def entered (device : Device) (groupId : ℕ) : Device :=
  { device with
    groups := groupsWith (without ((others device groupId).map Prod.snd) device) groupId }

def followGroup (groupId : ℕ) : Request Unit := do
  followInputs groupId
  setDeviceJokerGroup groupId

def Stays (device : Device) (groupId : ℕ) : Prop :=
  Alone device groupId ∧ (resetsGroups device groupId = true → ∀ id ∈ device.groups, id = groupId)

/-! ## Memberships -/

variable {a : Apartment} {zone : Zone} {device device' : Device} {groupId id : ℕ}

theorem SameGroups.of_eq (h : device'.groups = device.groups) : SameGroups device device' := by
  intro id
  rw [h]

theorem isInGroup_iff (h : id ≠ 0) : device.isInGroup id = true ↔ id ∈ device.groups := by
  rw [Device.isInGroup, if_neg h]
  split_ifs with hvalid
  · exact decide_eq_true_iff
  · refine iff_of_false (fun hfalse => ?_) fun hmem => hvalid (device.groups.valid id hmem)
    cases hfalse

theorem mem_without {ids : List ℕ} :
    id ∈ (without ids device).groups ↔ id ∈ device.groups ∧ id ∉ ids :=
  Memberships.mem_foldl_remove

theorem Memberships.add_of_mem {m : Memberships} (h : id ∈ m) : m.add id = m := by
  rw [Memberships.add, dif_pos (m.valid id h)]
  exact dif_pos h

theorem mem_groupsWith (hvalid : isValidGroup groupId = true) : id ∈ groupsWith device groupId ↔
    id = groupId ∨ (id ∈ device.groups ∧ resetsGroups device groupId = false) := by
  rw [groupsWith]
  rcases hreset : resetsGroups device groupId with - | -
  · rw [if_neg Bool.false_ne_true, Memberships.mem_add hvalid]
    simp [or_comm]
  · rw [if_pos rfl, Memberships.mem_add hvalid]
    simp [Memberships.not_mem_reset]

/-! ## Inputs leave the groups alone -/

section Inputs

variable {P : Device → Prop}

def OnGroups (P : Device → Prop) : Prop :=
  ∀ device device' : Device, device'.groups = device.groups → P device → P device'

theorem keeps_setDeviceButtonID (h : OnGroups P) (buttonID : ℕ) :
    Keeps P (setDeviceButtonID buttonID) :=
  Keeps.bind (keeps_modify fun _ => h _ _ rfl) fun _ => Keeps.bind keeps_get fun _ => keeps_call _

theorem keeps_setDeviceButtonActiveGroup (h : OnGroups P) (id : ℕ) :
    Keeps P (setDeviceButtonActiveGroup id) := by
  refine Keeps.bind (keeps_call _) fun _ => Keeps.bind (keeps_modify fun _ => h _ _ rfl) fun _ =>
    Keeps.bind keeps_get fun _ => ?_
  exact Keeps.ite (keeps_setDeviceButtonID h _) (keeps_pure _)

theorem keeps_setDeviceButtonInputMode (h : OnGroups P) (mode : ℕ) :
    Keeps P (setDeviceButtonInputMode mode) :=
  Keeps.bind (keeps_call _) fun _ => keeps_modify fun _ => h _ _ rfl

theorem keeps_setBinaryInputTargetId (h : OnGroups P) (id : ℕ) :
    Keeps P (setBinaryInputTargetId id) :=
  Keeps.bind (keeps_call _) fun _ => keeps_modify fun _ => h _ _ rfl

theorem keeps_followInputs (h : OnGroups P) (id : ℕ) : Keeps P (followInputs id) := by
  refine Keeps.bind keeps_get fun _ => Keeps.bind ?_ fun _ => ?_
  · apply Keeps.ite (keeps_setBinaryInputTargetId h _)
    exact Keeps.ite (keeps_setDeviceButtonActiveGroup h _) (keeps_pure _)
  · exact Keeps.ite (keeps_setDeviceButtonInputMode h _) (keeps_pure _)

theorem keeps_adaptInputs (h : OnGroups P) (id : ℕ) : Keeps P (adaptInputs id) := by
  refine Keeps.bind keeps_get fun _ => Keeps.bind ?_ fun _ => ?_
  · exact Keeps.ite (keeps_setBinaryInputTargetId h _) (keeps_pure _)
  · exact Keeps.ite (keeps_setDeviceButtonActiveGroup h _) (keeps_pure _)

theorem keeps_setDeviceJokerGroup (h : OnGroups P)
    (hmem : ∀ device, P device → groupId ∈ device.groups) :
    Keeps P (setDeviceJokerGroup groupId) := by
  apply Keeps.ite (keeps_fail _)
  refine Keeps.bind (keeps_modify fun device hdevice => h _ _ ?_ hdevice) fun _ =>
    Keeps.bind keeps_get fun _ => Keeps.bind ?_ fun _ => Keeps.bind ?_ fun _ => ?_
  · exact Memberships.add_of_mem (hmem device hdevice)
  · refine Keeps.ite (Keeps.bind ?_ fun _ => keeps_setDeviceButtonActiveGroup h _) (keeps_pure _)
    exact Keeps.ite (keeps_setDeviceButtonInputMode h _) (keeps_pure _)
  · exact Keeps.bind keeps_get fun _ => Keeps.ite (keeps_call _) (keeps_pure _)
  · exact Keeps.bind keeps_get fun _ => Keeps.ite (keeps_call _) (keeps_pure _)

theorem keeps_followGroup (h : OnGroups P)
    (hmem : ∀ device, P device → groupId ∈ device.groups) : Keeps P (followGroup groupId) :=
  Keeps.bind (keeps_followInputs h _) fun _ => keeps_setDeviceJokerGroup h hmem

end Inputs

/-! ## Leaving groups -/

theorem isInGroup_without {ids : List ℕ} (h : id ∉ ids) :
    (without ids device).isInGroup id = device.isInGroup id := by
  rw [Device.isInGroup, Device.isInGroup]
  split_ifs
  · rfl
  · exact decide_eq_decide.mpr (mem_without.trans (and_iff_left h))
  · rfl

def leaveOne (a : Apartment) (candidate : ℕ × ℕ) : Request Unit := do
  let device ← get
  if device.isInGroup candidate.2 then do
    let zone ← getZone a candidate.1
    deviceRemoveFromGroup false (zone.getGroup candidate.2)
  else pure ()

def leaveAll (a : Apartment) : List (ℕ × ℕ) → Request Unit
  | [] => pure ()
  | candidate :: candidates => do
    leaveOne a candidate
    leaveAll a candidates

theorem leaveGroups_eq {zoneID : ℕ} {ids : List ℕ} :
    leaveGroups a zoneID ids = leaveAll a (ids.map (Prod.mk zoneID)) := by
  induction ids with
  | nil => rfl
  | cons id ids ih =>
    rw [List.map_cons, leaveAll, ← ih]
    exact (bind_assoc' (x := get)).symm

theorem leaveAll_append {l l' : List (ℕ × ℕ)} :
    leaveAll a (l ++ l') = leaveAll a l >>= fun _ => leaveAll a l' := by
  induction l with
  | nil => rfl
  | cons candidate l ih =>
    rw [List.cons_append, leaveAll, ih]
    exact bind_assoc'.symm

theorem leaveOne_of_not_isInGroup {candidate : ℕ × ℕ}
    (h : device.isInGroup candidate.2 = false) :
    leaveOne a candidate device = ⟨[], device, .ok ()⟩ := by
  rw [leaveOne, get_bind, if_neg (ne_true_of_eq_false h)]
  rfl

theorem leaveOne_of_canLeave {candidate : ℕ × ℕ} (h : device.isInGroup candidate.2 = true)
    (hleave : canLeave a candidate = true) : leaveOne a candidate device =
      ⟨[(.removeFromGroup candidate.2, device)], without [candidate.2] device, .ok ()⟩ := by
  rw [leaveOne, get_bind, if_pos h, getZone]
  rw [canLeave] at hleave
  rcases hzone : a.tryGetZone candidate.1 with - | zone
  · rw [hzone] at hleave
    cases hleave
  · rw [hzone, Option.any_some] at hleave
    rcases hgroup : zone.getGroup candidate.2 with - | group
    · rw [hgroup] at hleave
      cases hleave
    · rw [hgroup, Option.any_some, Bool.not_eq_true'] at hleave
      have hid : group.base.groupID = candidate.2 := (KeyedList.key_of_find? hgroup).2
      rw [pure_bind', hgroup, deviceRemoveFromGroup, if_neg (ne_true_of_eq_false hleave), hid]
      rfl

theorem leaveOne_of_not_canLeave {candidate : ℕ × ℕ} (h : device.isInGroup candidate.2 = true)
    (hleave : canLeave a candidate = false) :
    ∃ error, leaveOne a candidate device = ⟨[], device, .error error⟩ := by
  rw [leaveOne, get_bind, if_pos h, getZone]
  rw [canLeave] at hleave
  rcases hzone : a.tryGetZone candidate.1 with - | zone
  · exact ⟨_, rfl⟩
  · rw [hzone, Option.any_some] at hleave
    rw [pure_bind']
    rcases hgroup : zone.getGroup candidate.2 with - | group
    · exact ⟨_, rfl⟩
    · rw [hgroup, Option.any_some, Bool.not_eq_false'] at hleave
      rw [deviceRemoveFromGroup, if_pos hleave]
      exact ⟨_, rfl⟩

def leaving : List ℕ → Device → List (BusCall × Device)
  | [], _ => []
  | id :: ids, device => (.removeFromGroup id, device) :: leaving ids (without [id] device)

theorem length_leaving (ids : List ℕ) : (leaving ids device).length = ids.length := by
  induction ids generalizing device with
  | nil => rfl
  | cons id ids ih => rw [leaving, List.length_cons, ih, List.length_cons]

theorem getElem?_leaving {ids : List ℕ} {k : ℕ} {entry : BusCall × Device}
    (h : (leaving ids device)[k]? = some entry) : entry.2 = without (ids.take k) device := by
  induction ids generalizing device k with
  | nil => cases h
  | cons id ids ih =>
    cases k with
    | zero =>
      cases h
      rfl
    | succ k =>
      exact ih h

def left (a : Apartment) (device : Device) (l : List (ℕ × ℕ)) : List ℕ :=
  ((l.filter fun candidate => device.isInGroup candidate.2).takeWhile (canLeave a)).map Prod.snd

theorem leaveAll_spec (a : Apartment) (device : Device) {l : List (ℕ × ℕ)}
    (hnodup : (l.map Prod.snd).Nodup) :
    (leaveAll a l device).calls = leaving (left a device l) device ∧
      (leaveAll a l device).state = without (left a device l) device ∧
        ((leaveAll a l device).result = .ok () ↔
          ∀ candidate ∈ l.filter fun candidate => device.isInGroup candidate.2,
            canLeave a candidate = true) := by
  induction l generalizing device with
  | nil => exact ⟨rfl, rfl, fun _ => nofun, fun _ => rfl⟩
  | cons candidate l ih =>
    rw [List.map_cons, List.nodup_cons] at hnodup
    rcases hin : device.isInGroup candidate.2 with - | -
    · have hone := leaveOne_of_not_isInGroup (a := a) hin
      have hcons : ((candidate :: l).filter fun other => device.isInGroup other.2) =
          l.filter fun other => device.isInGroup other.2 :=
        List.filter_cons_of_neg (ne_true_of_eq_false hin)
      rw [leaveAll, bind_of_ok (by rw [hone]), hone, left, hcons]
      exact ih device hnodup.2
    · have hcons : ((candidate :: l).filter fun other => device.isInGroup other.2) =
          candidate :: l.filter fun other => device.isInGroup other.2 :=
        List.filter_cons_of_pos hin
      rw [left, hcons]
      rcases hleave : canLeave a candidate with - | -
      · obtain ⟨error, hone⟩ := leaveOne_of_not_canLeave hin hleave
        rw [leaveAll, bind_of_error (by rw [hone]), hone,
          List.takeWhile_cons_of_neg (ne_true_of_eq_false hleave)]
        refine ⟨rfl, rfl, nofun, fun hall => ?_⟩
        rw [hall candidate List.mem_cons_self] at hleave
        cases hleave
      · have hone := leaveOne_of_canLeave hin hleave
        have hfilter : (l.filter fun other => (without [candidate.2] device).isInGroup other.2) =
            l.filter fun other => device.isInGroup other.2 := by
          apply List.filter_congr
          intro other hother
          apply isInGroup_without
          rw [List.mem_singleton]
          exact fun heq => hnodup.1 (heq ▸ List.mem_map_of_mem hother)
        obtain ⟨hcalls, hstate, hresult⟩ := ih (without [candidate.2] device) hnodup.2
        rw [left, hfilter] at hcalls hstate
        rw [hfilter] at hresult
        rw [leaveAll, bind_of_ok (by rw [hone]), hone, List.takeWhile_cons_of_pos hleave]
        refine ⟨?_, ?_, hresult.trans ?_⟩
        · rw [hcalls]
          rfl
        · rw [hstate]
          rfl
        · rw [List.forall_mem_cons, and_iff_right hleave]

theorem sameGroups_without {ids : List ℕ} (h : ∀ id ∈ ids, id ∈ device.groups) :
    SameGroups device (without ids device) ↔ ids = [] := by
  refine ⟨fun hsame => ?_, fun hnil => hnil ▸ SameGroups.of_eq rfl⟩
  rw [List.eq_nil_iff_forall_not_mem]
  exact fun id hid => (mem_without.1 ((hsame id).mpr (h id hid))).2 hid

/-! ## The groups to leave -/

theorem map_snd_candidates : (candidates device groupId).map Prod.snd =
    standardIds groupId ++ controlIds ++ globalAppIds := by
  simp [candidates, Function.comp_def]

theorem mem_standardIds : id ∈ standardIds groupId ↔
    (1 ≤ id ∧ id ≤ 15) ∧ id ≠ groupId ∧ id ≠ groupIDBlack := by
  rw [standardIds, List.mem_filter, List.mem_range'_1, decide_eq_true_eq, groupIDYellow,
    groupIDStandardMax]
  omega

theorem mem_controlIds : id ∈ controlIds ↔ 48 ≤ id ∧ id ≤ 55 := by
  rw [controlIds, List.mem_range'_1, groupIDControlGroupMin, groupIDControlGroupMax]
  omega

theorem mem_globalAppIds : id ∈ globalAppIds ↔ 64 ≤ id ∧ id ≤ 249 := by
  rw [globalAppIds, List.mem_range'_1, groupIDGlobalAppMin, groupIDGlobalAppMax]
  omega

theorem mem_clusterIds : id ∈ clusterIds ↔ 16 ≤ id ∧ id ≤ 39 := by
  rw [clusterIds, List.mem_range'_1, groupIDAppUserMin, groupIDAppUserMax]
  omega

theorem nodup_clusterIds : clusterIds.Nodup := List.nodup_range'

/-- The standard groups, the control groups and the global application groups are different
ones. -/
theorem nodup_candidates (device : Device) (groupId : ℕ) :
    ((candidates device groupId).map Prod.snd).Nodup := by
  have hstandard : (standardIds groupId).Nodup := List.Nodup.filter _ List.nodup_range'
  have hcontrol : controlIds.Nodup := List.nodup_range'
  have hglobal : globalAppIds.Nodup := List.nodup_range'
  rw [map_snd_candidates, List.nodup_append', List.nodup_append']
  refine ⟨⟨hstandard, hcontrol, ?_⟩, hglobal, ?_⟩
  · intro id hid hid'
    rw [mem_standardIds] at hid
    rw [mem_controlIds] at hid'
    omega
  · intro id hid hid'
    rw [List.mem_append, mem_standardIds, mem_controlIds] at hid
    rw [mem_globalAppIds] at hid'
    omega

theorem isExclusive_iff : isExclusive id = true ↔
    (1 ≤ id ∧ id ≤ 15) ∨ (48 ≤ id ∧ id ≤ 55) ∨ (64 ≤ id ∧ id ≤ 249) := by
  simp only [isExclusive, isControlGroup, isGlobalAppGroup, isGlobalAppDsGroup,
    isGlobalAppUserGroup, Bool.or_eq_true, Bool.and_eq_true, decide_eq_true_iff]
  simp only [groupIDYellow, groupIDStandardMax, groupIDControlGroupMin, groupIDControlGroupMax,
    groupIDGlobalAppDsMin, groupIDGlobalAppDsMax, groupIDGlobalAppUserMin, groupIDGlobalAppUserMax]
  omega

theorem isValidGroup_of_isExclusive (h : isExclusive id = true) : isValidGroup id = true := by
  simp only [isExclusive, Bool.or_eq_true, Bool.and_eq_true, decide_eq_true_iff] at h
  simp only [isValidGroup, isDefaultGroup, Bool.or_eq_true, Bool.and_eq_true, decide_eq_true_iff]
  tauto

theorem mem_others : id ∈ (others device groupId).map Prod.snd ↔
    id ∈ device.groups ∧ isExclusive id = true ∧
      (id ≤ 15 → id ≠ groupId ∧ id ≠ groupIDBlack) := by
  have hmap : (others device groupId).map Prod.snd =
      ((candidates device groupId).map Prod.snd).filter device.isInGroup := by
    rw [List.filter_map]
    rfl
  rw [hmap, List.mem_filter, map_snd_candidates, List.mem_append, List.mem_append,
    mem_standardIds, mem_controlIds, mem_globalAppIds, isExclusive_iff]
  by_cases hzero : id = 0
  · refine iff_of_false (fun h => ?_) fun h => ?_
    · omega
    · omega
  · rw [isInGroup_iff hzero, and_comm]
    refine and_congr_right fun _ => ?_
    omega

theorem mem_entered (hgroup : isExclusive groupId = true) :
    id ∈ (entered device groupId).groups ↔ id = groupId ∨
      ((id ∈ device.groups ∧ id ∉ (others device groupId).map Prod.snd) ∧
        resetsGroups device groupId = false) := by
  rw [← mem_without]
  exact mem_groupsWith (isValidGroup_of_isExclusive hgroup)

theorem mem_of_mem_entered (hgroup : isExclusive groupId = true) (hid : id ∈ clusterIds)
    (hmem : id ∈ (entered device groupId).groups) : id ∈ device.groups := by
  rcases (mem_entered hgroup).mp hmem with rfl | ⟨⟨hin, -⟩, -⟩
  · have hrange := mem_clusterIds.1 hid
    have hcases := isExclusive_iff.1 hgroup
    omega
  · exact hin

theorem alone_entered (hgroup : isExclusive groupId = true) :
    Alone (entered device groupId) groupId := by
  refine ⟨(mem_entered hgroup).mpr (Or.inl rfl), fun id hid hexclusive => ?_⟩
  rcases (mem_entered hgroup).mp hid with heq | ⟨⟨hin, hnot⟩, -⟩
  · exact Or.inl heq
  · rw [mem_others] at hnot
    by_contra hne
    rw [not_or] at hne
    exact hnot ⟨hin, hexclusive, fun _ => hne⟩

theorem groups_followGroup (hgroup : isExclusive groupId = true) :
    (∀ entry ∈ (followGroup groupId (entered device groupId)).calls,
        entry.2.groups = (entered device groupId).groups) ∧
      (followGroup groupId (entered device groupId)).state.groups =
        (entered device groupId).groups :=
  keeps_followGroup (P := fun other => other.groups = (entered device groupId).groups)
    (fun _ _ heq hother => heq.trans hother)
    (fun _ hother => hother ▸ (mem_entered hgroup).mpr (Or.inl rfl)) (entered device groupId) rfl

/-- **Entering a group.** The groups stay as they are for a device that was in the right ones. -/
theorem sameGroups_entered (hgroup : isExclusive groupId = true) :
    SameGroups device (entered device groupId) ↔ Stays device groupId := by
  constructor
  · intro hsame
    obtain ⟨hown, halone⟩ := @alone_entered device _ hgroup
    refine ⟨⟨(hsame groupId).mp hown, fun id hid => halone id ((hsame id).mpr hid)⟩, ?_⟩
    intro hreset id hid
    rcases (mem_entered hgroup).mp ((hsame id).mpr hid) with heq | ⟨-, hfalse⟩
    · exact heq
    · rw [hreset] at hfalse
      cases hfalse
  · rintro ⟨⟨hown, halone⟩, honly⟩ id
    rw [mem_entered hgroup]
    constructor
    · rintro (rfl | ⟨⟨hid, -⟩, -⟩)
      · exact hown
      · exact hid
    · intro hid
      by_cases heq : id = groupId
      · exact Or.inl heq
      · refine Or.inr ⟨⟨hid, fun hother => ?_⟩, eq_false_of_ne_true fun hreset => ?_⟩
        · obtain ⟨-, hexclusive, hne⟩ := mem_others.1 hother
          rcases halone id hid hexclusive with heq' | hblack
          · exact heq heq'
          · exact (hne (Nat.le_trans (Nat.le_of_eq hblack) (by decide))).2 hblack
        · exact heq (honly hreset id hid)

/-! ## Leaving clusters -/

theorem leaveClusters_of_not_isInGroup {ids : List ℕ} {modified : Bool}
    (h : device.isInGroup id = false) :
    leaveClusters zone groupId (id :: ids) modified device =
      leaveClusters zone groupId ids modified device := by
  rw [leaveClusters, get_bind, if_neg (ne_true_of_eq_false h)]

theorem leaveClusters_of_matching {ids : List ℕ} {modified : Bool} {group : ZoneGroup}
    (h : device.isInGroup id = true) (hgroup : zone.getGroup id = some group)
    (htype : group.base.applicationType.value = groupId) :
    leaveClusters zone groupId (id :: ids) modified device =
      leaveClusters zone groupId ids modified device := by
  rw [leaveClusters, get_bind, if_pos h, hgroup]
  dsimp only
  rw [if_pos htype]

theorem leaveClusters_of_foreign {ids : List ℕ} {modified : Bool} {group : ZoneGroup}
    (h : device.isInGroup id = true) (hgroup : zone.getGroup id = some group)
    (htype : group.base.applicationType.value ≠ groupId) :
    leaveClusters zone groupId (id :: ids) modified device =
      (deviceRemoveFromGroup true (some group) >>= fun _ =>
        leaveClusters zone groupId ids true) device := by
  rw [leaveClusters, get_bind, if_pos h, hgroup]
  dsimp only
  rw [if_neg htype]

theorem deviceRemoveFromGroup_of_isLocked (device : Device) (adapt : Bool) {group : ZoneGroup}
    (h : group.isLocked = true) : ∃ error,
      deviceRemoveFromGroup adapt (some group) device = ⟨[], device, .error error⟩ := by
  rw [deviceRemoveFromGroup, if_pos h]
  exact ⟨_, rfl⟩

theorem deviceRemoveFromGroup_cluster (device : Device) {group : ZoneGroup}
    (h : group.isLocked = false) :
    ∃ rest, (deviceRemoveFromGroup true (some group) device).calls =
        (.removeFromGroup group.base.groupID, device) :: rest ∧
      (∀ entry ∈ rest, entry.2.groups = device.groups.remove group.base.groupID) ∧
      (deviceRemoveFromGroup true (some group) device).state.groups =
        device.groups.remove group.base.groupID := by
  have hkeeps := keeps_adaptInputs
    (P := fun other => other.groups = device.groups.remove group.base.groupID)
    (fun _ _ heq hother => heq.trans hother) group.base.groupID
    { device with groups := device.groups.remove group.base.groupID } rfl
  rw [deviceRemoveFromGroup, if_neg (ne_true_of_eq_false h)]
  exact ⟨_, rfl, hkeeps⟩

theorem keeps_leaveClusters (zone : Zone) (groupId : ℕ) {P : Device → Prop} (h : OnGroups P)
    (hremove : ∀ (device : Device) (id : ℕ), P device →
      P { device with groups := device.groups.remove id }) (ids : List ℕ) (modified : Bool) :
    Keeps P (leaveClusters zone groupId ids modified) := by
  induction ids generalizing modified with
  | nil => exact keeps_pure _
  | cons id ids ih =>
    refine Keeps.bind keeps_get fun device => Keeps.ite ?_ (ih modified)
    rcases zone.getGroup id with - | group
    · exact keeps_fail _
    · refine Keeps.ite (ih modified) (Keeps.bind ?_ fun _ => ih true)
      refine Keeps.ite (keeps_fail _) (Keeps.bind (keeps_call _) fun _ =>
        Keeps.bind (keeps_modify fun device => hremove device _) fun _ => ?_)
      exact Keeps.ite (keeps_adaptInputs h _) (keeps_pure _)

theorem leaveClusters_of_none (modified : Bool) {ids : List ℕ}
    (h : firstForeign zone groupId device ids = none) :
    (leaveClusters zone groupId ids modified device).calls = [] ∧
      (leaveClusters zone groupId ids modified device).state = device := by
  induction ids with
  | nil => exact ⟨rfl, rfl⟩
  | cons id ids ih =>
    rw [firstForeign] at h
    rcases hin : device.isInGroup id with - | -
    · rw [hin] at h
      rw [leaveClusters_of_not_isInGroup hin]
      exact ih h
    · rw [hin] at h
      rcases hgroup : zone.getGroup id with - | group
      · rw [leaveClusters, get_bind, if_pos hin, hgroup]
        exact ⟨rfl, rfl⟩
      · rw [hgroup, Option.bind_some] at h
        by_cases htype : group.base.applicationType.value = groupId
        · rw [if_pos htype] at h
          rw [leaveClusters_of_matching hin hgroup htype]
          exact ih h
        · rw [if_neg htype] at h
          cases h

/-- **The first cluster of another type.** The device is in it, and leaves it with the first
call, unless it is locked. -/
theorem leaveClusters_of_some (modified : Bool) {ids : List ℕ} {group : ZoneGroup}
    (hids : ∀ id ∈ ids, id ≠ 0) (h : firstForeign zone groupId device ids = some group) :
    group.base.groupID ∈ device.groups ∧ group.base.groupID ∈ ids ∧
      if group.isLocked then (leaveClusters zone groupId ids modified device).calls = [] ∧
        (leaveClusters zone groupId ids modified device).state = device ∧
          ∀ b, (leaveClusters zone groupId ids modified device).result ≠ .ok b
      else ∃ rest, (leaveClusters zone groupId ids modified device).calls =
          (.removeFromGroup group.base.groupID, device) :: rest ∧
        (∀ entry ∈ rest, group.base.groupID ∉ entry.2.groups) ∧
          group.base.groupID ∉ (leaveClusters zone groupId ids modified device).state.groups := by
  induction ids with
  | nil => cases h
  | cons id ids ih =>
    obtain ⟨hne, hrest⟩ := List.forall_mem_cons.mp hids
    rw [firstForeign] at h
    rcases hin : device.isInGroup id with - | -
    · rw [hin] at h
      obtain ⟨hmem, hids, hcase⟩ := ih hrest h
      rw [leaveClusters_of_not_isInGroup hin]
      exact ⟨hmem, List.mem_cons_of_mem id hids, hcase⟩
    · rw [hin] at h
      rcases hgroup : zone.getGroup id with - | found
      · rw [hgroup] at h
        cases h
      · rw [hgroup, Option.bind_some] at h
        by_cases htype : found.base.applicationType.value = groupId
        · rw [if_pos htype] at h
          obtain ⟨hmem, hids, hcase⟩ := ih hrest h
          rw [leaveClusters_of_matching hin hgroup htype]
          exact ⟨hmem, List.mem_cons_of_mem id hids, hcase⟩
        · rw [if_neg htype] at h
          have heq := Option.some.inj h
          subst heq
          have hid : found.base.groupID = id := (KeyedList.key_of_find? hgroup).2
          rw [leaveClusters_of_foreign hin hgroup htype]
          refine ⟨hid ▸ (isInGroup_iff hne).mp hin, hid ▸ List.mem_cons_self, ?_⟩
          split_ifs with hlocked
          · obtain ⟨error, heq⟩ := deviceRemoveFromGroup_of_isLocked device true hlocked
            rw [bind_of_error (by rw [heq]), heq]
            exact ⟨rfl, rfl, nofun⟩
          · obtain ⟨rest, hcalls, hrest, hstate⟩ :=
              deviceRemoveFromGroup_cluster device (eq_false_of_ne_true hlocked)
            have hgone : found.base.groupID ∉ device.groups.remove found.base.groupID :=
              fun hmem => (Memberships.mem_remove.mp hmem).2 rfl
            rcases hresult : (deviceRemoveFromGroup true (some found) device).result with
              error | done
            · rw [bind_of_error hresult]
              exact ⟨rest, hcalls, fun entry hentry => hrest entry hentry ▸ hgone, hstate ▸ hgone⟩
            · have hkeeps := keeps_leaveClusters zone groupId
                (P := fun other => found.base.groupID ∉ other.groups)
                (fun _ _ heq hother hmem => hother (heq ▸ hmem))
                (fun _ _ hother hmem => hother (Memberships.mem_remove.mp hmem).1) ids true
                (deviceRemoveFromGroup true (some found) device).state
                fun hmem => hgone (hstate ▸ hmem)
              rw [bind_of_ok hresult, hcalls]
              refine ⟨_, rfl, fun entry hentry => ?_, hkeeps.2⟩
              rcases List.mem_append.mp hentry with hentry | hentry
              · exact hrest entry hentry ▸ hgone
              · exact hkeeps.1 entry hentry

def Matches (zone : Zone) (groupId id : ℕ) : Prop :=
  ∃ group, zone.getGroup id = some group ∧ group.base.applicationType.value = groupId

/-- **The loop over the clusters.** If it ends, the device is left in the matching ones. -/
theorem leaveClusters_ok {ids : List ℕ} {modified result : Bool} (hnodup : ids.Nodup)
    (hids : ∀ id ∈ ids, id ≠ 0)
    (h : (leaveClusters zone groupId ids modified device).result = .ok result) :
    result = (modified || (firstForeign zone groupId device ids).isSome) ∧
      (∀ id, id ∈ (leaveClusters zone groupId ids modified device).state.groups ↔
        id ∈ device.groups ∧ (id ∈ ids → Matches zone groupId id)) ∧
      ∀ id ∈ ids, id ∈ device.groups → (zone.getGroup id).isSome = true := by
  induction ids generalizing device modified with
  | nil =>
    cases h
    exact ⟨(Bool.or_false _).symm, fun id => (and_iff_left nofun).symm, nofun⟩
  | cons id ids ih =>
    rw [List.nodup_cons] at hnodup
    obtain ⟨hne, hrest⟩ := List.forall_mem_cons.mp hids
    rcases hin : device.isInGroup id with - | -
    · rw [leaveClusters_of_not_isInGroup hin] at h ⊢
      obtain ⟨hresult, hgroups, hfound⟩ := ih hnodup.2 hrest h
      have hnot : ∀ other ∈ device.groups, other ≠ id := by
        rintro other hother rfl
        rw [(isInGroup_iff hne).mpr hother] at hin
        cases hin
      rw [firstForeign, hin]
      refine ⟨hresult, fun other => (hgroups other).trans (and_congr_right fun hother => ?_), ?_⟩
      · rw [List.mem_cons, or_iff_right (hnot other hother)]
      · intro other hmem hother
        exact hfound other ((List.mem_cons.mp hmem).resolve_left (hnot other hother)) hother
    · rcases hgroup : zone.getGroup id with - | group
      · rw [leaveClusters, get_bind, if_pos hin, hgroup] at h
        cases h
      · by_cases htype : group.base.applicationType.value = groupId
        · rw [leaveClusters_of_matching hin hgroup htype] at h ⊢
          obtain ⟨hresult, hgroups, hfound⟩ := ih hnodup.2 hrest h
          rw [firstForeign, hin, hgroup, Option.bind_some, if_pos htype]
          refine ⟨hresult, fun other => (hgroups other).trans (and_congr_right fun _ => ?_), ?_⟩
          · rw [List.mem_cons]
            refine ⟨fun hmatches hor => ?_, fun hmatches hother => hmatches (Or.inr hother)⟩
            rcases hor with rfl | hother
            · exact ⟨group, hgroup, htype⟩
            · exact hmatches hother
          · intro other hmem hother
            rcases List.mem_cons.mp hmem with rfl | hmem
            · rw [hgroup, Option.isSome_some]
            · exact hfound other hmem hother
        · have hid : group.base.groupID = id := (KeyedList.key_of_find? hgroup).2
          have hlocked : group.isLocked = false := by
            by_contra hyes
            obtain ⟨error, heq⟩ := deviceRemoveFromGroup_of_isLocked device true
              (eq_true_of_ne_false hyes)
            rw [leaveClusters_of_foreign hin hgroup htype, bind_of_error (by rw [heq])] at h
            cases h
          obtain ⟨-, -, -, hstate⟩ := deviceRemoveFromGroup_cluster device hlocked
          rw [leaveClusters_of_foreign hin hgroup htype] at h ⊢
          obtain ⟨-, -, hok, hend⟩ := ok_of_bind h
          obtain ⟨hresult, hgroups, hfound⟩ := ih hnodup.2 hrest hok
          rw [firstForeign, hin, hgroup, Option.bind_some, if_neg htype]
          refine ⟨by rw [hresult]; simp, fun other => ?_, ?_⟩
          · rw [hend, hgroups other, hstate, Memberships.mem_remove, hid, and_assoc]
            refine and_congr_right fun _ => ?_
            rw [List.mem_cons]
            constructor
            · rintro ⟨hother, hmatches⟩ (heq | hmem)
              · exact absurd heq hother
              · exact hmatches hmem
            · intro hmatches
              refine ⟨fun heq => ?_, fun hmem => hmatches (Or.inr hmem)⟩
              obtain ⟨found, hfound, hvalue⟩ := hmatches (Or.inl heq)
              rw [heq, hgroup] at hfound
              cases hfound
              exact htype hvalue
          · intro other hmem hother
            rcases List.mem_cons.mp hmem with rfl | hmem
            · rw [hgroup, Option.isSome_some]
            · apply hfound other hmem
              rw [hstate, Memberships.mem_remove, hid]
              exact ⟨hother, fun heq => hnodup.1 (heq ▸ hmem)⟩

end JokerGroup

end Dss
