import Mathlib.Data.List.TakeWhile
import Dss.JokerGroupPlan

/-!
# When a joker group is assigned as it should be

The request leaves the memberships as they are only where it is stopped by the very first call, or
has nothing to leave and the device is in the group to enter. Where it returns, the device is in
the right groups unless it says to be active in the group already.
-/

namespace Dss

open List

namespace JokerGroup

open Interruptible Program

/-! ## The law -/

def target (a : Apartment) (groupId : ℕ) (device : Device) : Option ZoneGroup :=
  (a.tryGetZone (targetZone device groupId)).bind fun zone => zone.getGroup groupId

/-- The device is in no cluster of another application type. -/
def Matching (a : Apartment) (device : Device) (groupId : ℕ) : Prop :=
  ∀ zone, a.tryGetZone 0 = some zone → ∀ id ∈ device.groups, isAppUserGroup id = true →
    ∀ group, zone.getGroup id = some group → group.base.applicationType.value = groupId

structure Promise (a : Apartment) (device : Device) (groupId : ℕ)
    (outcome : Outcome Device Error Bool) : Prop where
  returned : (target a groupId device).isSome = true →
    ∀ device' modified, outcome = .ended device' (.ok modified) →
      (Alone device' groupId ∧ Matching a device' groupId) ∧
        (modified = true ↔ ¬ SameGroups device device')
  missing : target a groupId device = none → SameGroups device outcome.state
  interrupted : ∀ n device', outcome = .interrupted n device' → SameGroups device device'

/-! ## The condition -/

/-- The calls for the clusters, if their zone is there. -/
def zoneCalls (a : Apartment) (groupId : ℕ) (device : Device) : List BusCall :=
  match a.tryGetZone 0 with
  | none => []
  | some zone => clusterCalls zone groupId device clusterIds

/-- The calls behind those of the groups that are left. -/
def entryCalls (a : Apartment) (device : Device) (groupId : ℕ) : List BusCall :=
  match target a groupId device with
  | none => []
  | some group =>
    if group.isLocked then []
    else .addToGroup groupId :: (followCalls (entered device groupId) groupId ++
      if isJokerGroup groupId then
        zoneCalls a groupId (joined (followed (entered device groupId) groupId) groupId)
      else [])

/-- The calls that a bus gets that answers all of them. -/
def plan (a : Apartment) (device : Device) (groupId : ℕ) : List BusCall :=
  if oldGroupId device = groupId then zoneCalls a groupId device
  else
    (((others device groupId).takeWhile (canLeave a)).map Prod.snd).map .removeFromGroup ++
      if (others device groupId).all (canLeave a) then entryCalls a device groupId else []

/-- Every group to leave or to enter is found and not locked, and the new one is one that
`setDeviceJokerGroup` takes. -/
structure Served (a : Apartment) (device : Device) (groupId : ℕ) : Prop where
  clusters : ∃ zone, a.tryGetZone 0 = some zone ∧ CanLeaveClusters zone groupId
    (if oldGroupId device = groupId then device else entered device groupId) clusterIds
  groups : oldGroupId device ≠ groupId →
    (∀ candidate ∈ others device groupId, canLeave a candidate = true) ∧
      (∃ group, target a groupId device = some group ∧ group.isLocked = false) ∧
        isJokerGroup groupId = true

/-- There is nothing to leave, or it cannot be left, or the bus fails at once. -/
def NothingLeft (a : Apartment) (throws : ℕ → BusCall → Bool) (device : Device) (groupId : ℕ) :
    Prop :=
  if oldGroupId device = groupId then
    ∀ zone, a.tryGetZone 0 = some zone →
      ∀ group, firstForeign zone groupId device clusterIds = some group →
        group.isLocked = true ∨ throws 0 (.removeFromGroup group.base.groupID) = true
  else ∀ candidate, (others device groupId).head? = some candidate →
    canLeave a candidate = false ∨ throws 0 (.removeFromGroup candidate.2) = true

/-- The call with this number is the first one; or it is behind the one that enters the group and
not behind the first that leaves a cluster, and entering the group changes nothing. -/
def Unnoticed (device : Device) (groupId n : ℕ) : Prop :=
  n = 0 ∨ (oldGroupId device ≠ groupId ∧ Stays device groupId ∧
    (others device groupId).length < n ∧
      n ≤ (others device groupId).length + 1 +
        (followCalls (entered device groupId) groupId).length)

/-- When the request keeps its promise. -/
structure Fits (a : Apartment) (throws : ℕ → BusCall → Bool) (device : Device) (groupId : ℕ) :
    Prop where
  /-- where nothing is missing and the bus answers, the device is in the right groups if it says to
  be active in this one, and otherwise is not in the right groups already -/
  returned : (target a groupId device).isSome = true →
    firstThrow throws 0 (plan a device groupId) = none → Served a device groupId →
      if oldGroupId device = groupId then Alone device groupId
      else ¬ (Stays device groupId ∧ Matching a device groupId)
  missing : target a groupId device = none → NothingLeft a throws device groupId
  interrupted : ∀ n, firstThrow throws 0 (plan a device groupId) = some n →
    Unnoticed device groupId n

variable {a : Apartment} {zone : Zone} {device device' : Device} {groupId id : ℕ}
  {throws : ℕ → BusCall → Bool}

/-! ## The clusters -/

def clusters (a : Apartment) (groupId : ℕ) (modified : Bool) : Request Bool := do
  let zone ← getZone a 0
  leaveClusters zone groupId clusterIds modified

theorem clusters_of_zone {modified : Bool} (hzone : a.tryGetZone 0 = some zone) :
    clusters a groupId modified device =
      leaveClusters zone groupId clusterIds modified device := by
  rw [clusters, getZone, hzone]
  rfl

theorem clusters_of_none (hzone : a.tryGetZone 0 = none) (modified : Bool) (device : Device) :
    ∃ error, clusters a groupId modified device = ⟨[], device, .error error⟩ := by
  rw [clusters, getZone, hzone]
  exact ⟨_, rfl⟩

theorem clusterIds_ne_zero : ∀ id ∈ clusterIds, id ≠ 0 := by
  intro id hid
  have hrange := mem_clusterIds.mp hid
  omega

theorem getElem?_clusters {modified : Bool} {k : ℕ} {entry : BusCall × Device}
    (h : (clusters a groupId modified device).calls[k]? = some entry) :
    (k = 0 ∧ entry.2 = device) ∨
      (0 < k ∧ ∃ id ∈ device.groups, id ∈ clusterIds ∧ id ∉ entry.2.groups) := by
  rcases hzone : a.tryGetZone 0 with - | zone
  · obtain ⟨error, heq⟩ := clusters_of_none hzone modified device
    rw [heq] at h
    cases h
  · rw [clusters_of_zone hzone] at h
    rcases hforeign : firstForeign zone groupId device clusterIds with - | group
    · rw [(leaveClusters_of_none _ hforeign).1] at h
      cases h
    · obtain ⟨hmem, hid, hcase⟩ :=
        leaveClusters_of_some modified clusterIds_ne_zero hforeign
      split_ifs at hcase with hlocked
      · rw [hcase.1] at h
        cases h
      · obtain ⟨rest, hcalls, hrest, -⟩ := hcase
        rw [hcalls] at h
        cases k with
        | zero =>
          cases h
          exact Or.inl ⟨rfl, rfl⟩
        | succ k =>
          have hentry := hrest entry (mem_of_getElem? (getElem?_cons_succ ▸ h))
          exact Or.inr ⟨Nat.succ_pos k, _, hmem, hid, hentry⟩

/-! ## The parts of the request -/

def enter (a : Apartment) (zoneID groupId : ℕ) : Request Unit := do
  let zone ← getZone a zoneID
  enterGroup (zone.getGroup groupId)

theorem enter_of_none (h : target a groupId device = none) (other : Device) :
    ∃ error, enter a (targetZone device groupId) groupId other = ⟨[], other, .error error⟩ := by
  rw [target] at h
  rw [enter, getZone]
  rcases hzone : a.tryGetZone (targetZone device groupId) with - | zone
  · exact ⟨_, rfl⟩
  · rw [hzone, Option.bind_some] at h
    rw [pure_bind', h]
    exact ⟨_, rfl⟩

theorem enter_of_some {group : ZoneGroup} (h : target a groupId device = some group)
    (other : Device) :
    if group.isLocked then
      ∃ error, enter a (targetZone device groupId) groupId other = ⟨[], other, .error error⟩
    else enter a (targetZone device groupId) groupId other =
      ⟨[(.addToGroup groupId, other)], { other with groups := groupsWith other groupId },
        .ok ()⟩ := by
  rw [target] at h
  rw [enter, getZone]
  rcases hzone : a.tryGetZone (targetZone device groupId) with - | zone
  · rw [hzone] at h
    cases h
  · rw [hzone, Option.bind_some] at h
    have hid : group.base.groupID = groupId := (KeyedList.key_of_find? h).2
    rw [pure_bind', h, enterGroup]
    split_ifs
    · exact ⟨_, rfl⟩
    · rw [hid]
      rfl

theorem getElem?_enter {other : Device} {k : ℕ} {entry : BusCall × Device}
    (h : (enter a (targetZone device groupId) groupId other).calls[k]? = some entry) :
    k = 0 ∧ entry.2 = other := by
  rcases htarget : target a groupId device with - | group
  · obtain ⟨error, heq⟩ := enter_of_none htarget other
    rw [heq] at h
    cases h
  · have hcase := enter_of_some htarget other
    split_ifs at hcase
    · obtain ⟨error, heq⟩ := hcase
      rw [heq] at h
      cases h
    · rw [hcase] at h
      cases k with
      | zero =>
        cases h
        exact ⟨rfl, rfl⟩
      | succ k => cases h

theorem ok_enter {other : Device}
    (h : (enter a (targetZone device groupId) groupId other).result = .ok ()) :
    (enter a (targetZone device groupId) groupId other).calls.length = 1 ∧
      (enter a (targetZone device groupId) groupId other).state =
        { other with groups := groupsWith other groupId } := by
  rcases htarget : target a groupId device with - | group
  · obtain ⟨error, heq⟩ := enter_of_none htarget other
    rw [heq] at h
    cases h
  · have hcase := enter_of_some htarget other
    split_ifs at hcase
    · obtain ⟨error, heq⟩ := hcase
      rw [heq] at h
      cases h
    · rw [hcase]
      exact ⟨rfl, rfl⟩

theorem setJokerGroup_of_active (h : oldGroupId device = groupId) :
    setJokerGroup a groupId device = clusters a groupId false device := by
  rw [setJokerGroup, get_bind, if_neg (not_not.mpr h), pure_bind', clusters,
    decide_eq_false (not_not.mpr h)]

theorem setJokerGroup_of_other (h : oldGroupId device ≠ groupId) :
    setJokerGroup a groupId device =
      (leaveAll a (candidates device groupId) >>= fun _ =>
        enter a (targetZone device groupId) groupId >>= fun _ =>
          followGroup groupId >>= fun _ => clusters a groupId true) device := by
  have hassign : assignGroup a groupId device =
      (leaveAll a (candidates device groupId) >>= fun _ =>
        enter a (targetZone device groupId) groupId >>= fun _ =>
          followGroup groupId) device := by
    rw [assignGroup, get_bind, candidates, leaveAll_append, leaveAll_append, leaveGroups_eq,
      leaveGroups_eq, leaveGroups_eq]
    simp only [bind_assoc', deviceAddToGroup, enter, followGroup]
  rw [setJokerGroup, get_bind, if_pos h, decide_eq_true h]
  refine (bind_congr_apply hassign).trans ?_
  simp only [bind_assoc']
  rfl

/-! ## Where a bus call throws -/

/-- **A call of the request for another group.** The groups are then as before at the first call,
or between the one that enters the group and the second one behind that for a cluster, if
entering it changes nothing. -/
theorem sameGroups_call_of_other (h : oldGroupId device ≠ groupId)
    (hgroup : isExclusive groupId = true) {k : ℕ} {entry : BusCall × Device}
    (hentry : (setJokerGroup a groupId device).calls[k]? = some entry) :
    SameGroups device entry.2 ↔ k = 0 ∨ (Stays device groupId ∧
      (others device groupId).length < k ∧ k ≤ (others device groupId).length + 1 +
        (followGroup groupId (entered device groupId)).calls.length) := by
  obtain ⟨hcalls, hstate, hresult⟩ := leaveAll_spec a device (nodup_candidates device groupId)
  have hmem : ∀ id ∈ (others device groupId).map Prod.snd, id ∈ device.groups :=
    fun id hid => (mem_others.mp hid).1
  have hlength : ((others device groupId).map Prod.snd).length = (others device groupId).length :=
    length_map _
  have hfirst : left a device (candidates device groupId) <+:
      (others device groupId).map Prod.snd := (List.takeWhile_prefix _).map _
  rw [setJokerGroup_of_other h] at hentry
  rcases getElem?_bind hentry with hentry | ⟨done, hok, hle, hentry⟩
  · -- a group is left
    rw [hcalls] at hentry
    obtain ⟨hk, -⟩ := List.getElem?_eq_some_iff.mp hentry
    rw [length_leaving] at hk
    have hle := hfirst.length_le
    rw [getElem?_leaving hentry, sameGroups_without fun id hid =>
      hmem id (hfirst.subset (mem_of_mem_take hid)), take_eq_nil_iff]
    have hne : left a device (candidates device groupId) ≠ [] := by
      rintro hnil
      rw [hnil] at hk
      exact absurd hk (Nat.not_lt_zero k)
    rw [or_iff_left hne]
    omega
  have hleft : left a device (candidates device groupId) =
      (others device groupId).map Prod.snd := by
    rw [left, takeWhile_eq_self_iff.mpr (hresult.mp hok)]
    rfl
  rw [hleft] at hcalls hstate
  rw [hcalls, length_leaving] at hle
  rw [hstate, hcalls, length_leaving] at hentry
  rcases getElem?_bind hentry with hentry | ⟨done, hok, hle', hentry⟩
  · -- the group is entered
    obtain ⟨hk, hsame⟩ := getElem?_enter hentry
    rw [hsame, sameGroups_without hmem, ← length_eq_zero_iff]
    omega
  obtain ⟨hone, hentered⟩ := ok_enter hok
  rw [hentered] at hentry
  have hstays := @sameGroups_entered device _ hgroup
  have hkeeps := @groups_followGroup device _ hgroup
  rcases getElem?_bind hentry with hentry | ⟨-, -, hle'', hentry⟩
  · -- the inputs follow
    obtain ⟨hk, -⟩ := List.getElem?_eq_some_iff.mp hentry
    have hsame := hkeeps.1 entry (mem_of_getElem? hentry)
    rw [SameGroups, hsame]
    refine hstays.trans ⟨fun hyes => Or.inr ⟨hyes, ?_, ?_⟩, ?_⟩
    · omega
    · change _ < (followGroup groupId (entered device groupId)).calls.length at hk
      omega
    · rintro (hzero | ⟨hyes, -⟩)
      · omega
      · exact hyes
  · -- a cluster is left
    change (followGroup groupId (entered device groupId)).calls.length ≤ _ at hle''
    rcases getElem?_clusters hentry with ⟨hk, hsame⟩ | ⟨hk, id, hid, hcluster, hnot⟩
    · change _ - (followGroup groupId (entered device groupId)).calls.length = 0 at hk
      rw [SameGroups, (congrArg Device.groups hsame).trans hkeeps.2]
      refine hstays.trans ⟨fun hyes => Or.inr ⟨hyes, ?_, ?_⟩, ?_⟩
      · omega
      · omega
      · rintro (hzero | ⟨hyes, -⟩)
        · omega
        · exact hyes
    · change 0 < _ - (followGroup groupId (entered device groupId)).calls.length at hk
      have hmem : id ∈ device.groups := mem_of_mem_entered hgroup hcluster (hkeeps.2 ▸ hid)
      refine iff_of_false (fun hsame => hnot ((hsame id).mpr hmem)) ?_
      rintro (hzero | ⟨-, -, hlast⟩)
      · omega
      · omega

theorem sameGroups_call_of_active (h : oldGroupId device = groupId) {k : ℕ}
    {entry : BusCall × Device}
    (hentry : (setJokerGroup a groupId device).calls[k]? = some entry) :
    SameGroups device entry.2 ↔ k = 0 := by
  rw [setJokerGroup_of_active h] at hentry
  rcases getElem?_clusters hentry with ⟨hk, hsame⟩ | ⟨hk, id, hid, -, hnot⟩
  · rw [hsame]
    exact iff_of_true (SameGroups.of_eq rfl) hk
  · exact iff_of_false (fun hsame => hnot ((hsame id).mpr hid)) (Nat.ne_of_gt hk)

/-! ## Where there is no such group -/

/-- A run that is stopped by its first call leaves the device as it was; behind its first call a
group is missing. -/
theorem sameGroups_run {script : Script Device BusCall Error Bool} {calls : List (BusCall × Device)}
    (hcalls : script.calls = (.removeFromGroup id, device) :: calls) (hid : id ∈ device.groups)
    (hrest : ∀ entry ∈ calls, id ∉ entry.2.groups) (hstate : id ∉ script.state.groups) :
    SameGroups device (script.run throws).state ↔ throws 0 (.removeFromGroup id) = true := by
  rcases hthrows : throws 0 (.removeFromGroup id) with - | -
  · refine iff_of_false (fun hsame => ?_) Bool.false_ne_true
    have hleft := (hsame id).mpr hid
    rcases Script.state_run_of_not_throws hcalls hthrows with ⟨entry, hentry, heq⟩ | heq
    · exact hrest entry hentry (heq ▸ hleft)
    · exact hstate (heq ▸ hleft)
  · rw [Script.run_of_throws hcalls hthrows]
    exact iff_of_true (SameGroups.of_eq rfl) rfl

theorem sameGroups_run_of_nil {script : Script Device BusCall Error Bool}
    (hcalls : script.calls = []) (hstate : script.state = device) :
    SameGroups device (script.run throws).state := by
  rw [Script.run_of_nil hcalls]
  exact SameGroups.of_eq (congrArg Device.groups hstate)

theorem not_mem_of_mem_leaving {ids : List ℕ} :
    ∀ entry ∈ leaving ids (without [id] device), id ∉ entry.2.groups := by
  intro entry hentry
  obtain ⟨k, hk⟩ := mem_iff_getElem?.mp hentry
  rw [getElem?_leaving hk]
  exact fun hmem => (mem_without.mp (mem_without.mp hmem).1).2 mem_cons_self

theorem missing_of_other (h : oldGroupId device ≠ groupId)
    (htarget : target a groupId device = none) :
    SameGroups device ((setJokerGroup a groupId device).run throws).state ↔
      ∀ candidate, (others device groupId).head? = some candidate →
        canLeave a candidate = false ∨ throws 0 (.removeFromGroup candidate.2) = true := by
  obtain ⟨hcalls, hstate, -⟩ := leaveAll_spec a device (nodup_candidates device groupId)
  -- nothing happens behind the loops
  have hscript : (setJokerGroup a groupId device).calls =
        (leaveAll a (candidates device groupId) device).calls ∧
      (setJokerGroup a groupId device).state =
        (leaveAll a (candidates device groupId) device).state := by
    rw [setJokerGroup_of_other h]
    rcases hresult : (leaveAll a (candidates device groupId) device).result with error | done
    · rw [bind_of_error hresult]
      exact ⟨rfl, rfl⟩
    · obtain ⟨error, heq⟩ := enter_of_none htarget
        (leaveAll a (candidates device groupId) device).state
      rw [bind_of_ok hresult, bind_of_error (by rw [heq]), heq]
      exact ⟨append_nil _, rfl⟩
  rw [hcalls, hstate] at hscript
  change _ = leaving (((others device groupId).takeWhile (canLeave a)).map Prod.snd) device ∧
    _ = without (((others device groupId).takeWhile (canLeave a)).map Prod.snd) device at hscript
  have hmem : ∀ id ∈ (others device groupId).map Prod.snd, id ∈ device.groups :=
    fun id hid => (mem_others.mp hid).1
  rcases hothers : others device groupId with - | ⟨candidate, rest⟩
  · rw [hothers] at hscript
    refine iff_of_true (sameGroups_run_of_nil hscript.1 hscript.2) fun other hother => ?_
    cases hother
  · rw [hothers] at hscript hmem
    rcases hleave : canLeave a candidate with - | -
    · rw [takeWhile_cons_of_neg (ne_true_of_eq_false hleave)] at hscript
      refine iff_of_true (sameGroups_run_of_nil hscript.1 hscript.2) fun other hother => ?_
      cases hother
      exact Or.inl hleave
    · rw [takeWhile_cons_of_pos hleave] at hscript
      rw [sameGroups_run hscript.1 (hmem _ mem_cons_self) not_mem_of_mem_leaving
        (hscript.2 ▸ fun hin => (mem_without.mp hin).2 mem_cons_self)]
      constructor
      · intro hthrows other hother
        cases hother
        exact Or.inr hthrows
      · intro hall
        rcases hall candidate rfl with hfalse | hthrows
        · rw [hleave] at hfalse
          cases hfalse
        · exact hthrows

theorem missing_of_active (h : oldGroupId device = groupId) :
    SameGroups device ((setJokerGroup a groupId device).run throws).state ↔
      ∀ zone, a.tryGetZone 0 = some zone →
        ∀ group, firstForeign zone groupId device clusterIds = some group →
          group.isLocked = true ∨ throws 0 (.removeFromGroup group.base.groupID) = true := by
  rw [setJokerGroup_of_active h]
  rcases hzone : a.tryGetZone 0 with - | zone
  · obtain ⟨error, heq⟩ := clusters_of_none hzone false device
    rw [heq]
    exact iff_of_true (sameGroups_run_of_nil rfl rfl) nofun
  · rw [clusters_of_zone hzone]
    have hone : ∀ P : Zone → Prop, (∀ other, some zone = some other → P other) ↔ P zone :=
      fun P => ⟨fun hall => hall zone rfl, fun hyes _ hother => Option.some.inj hother ▸ hyes⟩
    rw [hone]
    rcases hforeign : firstForeign zone groupId device clusterIds with - | group
    · obtain ⟨hcalls, hstate⟩ := leaveClusters_of_none false hforeign
      refine iff_of_true (sameGroups_run_of_nil hcalls hstate) fun group hgroup => ?_
      exact absurd hgroup (Option.some_ne_none group).symm
    · obtain ⟨hmem, -, hcase⟩ :=
        leaveClusters_of_some false clusterIds_ne_zero hforeign
      have honeGroup : ∀ P : ZoneGroup → Prop,
          (∀ other, some group = some other → P other) ↔ P group :=
        fun P => ⟨fun hall => hall group rfl, fun hyes _ hother => Option.some.inj hother ▸ hyes⟩
      rw [honeGroup]
      split_ifs at hcase with hlocked
      · exact iff_of_true (sameGroups_run_of_nil hcase.1 hcase.2.1) (Or.inl hlocked)
      · obtain ⟨rest, hcalls, hrest, hstate⟩ := hcase
        rw [sameGroups_run hcalls hmem hrest hstate, or_iff_right hlocked]

/-! ## Where the request returns -/

theorem ok_clusters {modified result : Bool}
    (h : (clusters a groupId modified device).result = .ok result) :
    ∃ zone, a.tryGetZone 0 = some zone ∧
      result = (modified || (firstForeign zone groupId device clusterIds).isSome) ∧
      (∀ id, id ∈ (clusters a groupId modified device).state.groups ↔
        id ∈ device.groups ∧ (id ∈ clusterIds → Matches zone groupId id)) ∧
      ∀ id ∈ clusterIds, id ∈ device.groups → (zone.getGroup id).isSome = true := by
  rcases hzone : a.tryGetZone 0 with - | zone
  · obtain ⟨error, heq⟩ := clusters_of_none hzone modified device
    rw [heq] at h
    cases h
  · rw [clusters_of_zone hzone] at h ⊢
    exact ⟨zone, rfl, leaveClusters_ok nodup_clusterIds clusterIds_ne_zero h⟩

theorem matching_of_ok (hzone : a.tryGetZone 0 = some zone)
    (hgroups : ∀ id, id ∈ device'.groups ↔
      id ∈ device.groups ∧ (id ∈ clusterIds → Matches zone groupId id)) :
    Matching a device' groupId := by
  intro other hother id hid hcluster group hgroup
  rw [hzone] at hother
  cases hother
  obtain ⟨found, hfound, htype⟩ :=
    ((hgroups id).mp hid).2 (mem_clusterIds.mpr (isAppUserGroup_iff.mp hcluster))
  rw [hgroup] at hfound
  cases hfound
  exact htype

theorem not_mem_clusterIds (h : isExclusive id = true) : id ∉ clusterIds := by
  intro hmem
  have hrange := mem_clusterIds.mp hmem
  have hcases := isExclusive_iff.mp h
  omega

theorem alone_iff_of_ok (hgroup : isExclusive groupId = true)
    (hgroups : ∀ id, id ∈ device'.groups ↔
      id ∈ device.groups ∧ (id ∈ clusterIds → Matches zone groupId id)) :
    Alone device' groupId ↔ Alone device groupId := by
  have hsame : ∀ id, isExclusive id = true → (id ∈ device'.groups ↔ id ∈ device.groups) :=
    fun id hid => (hgroups id).trans
      (and_iff_left fun hmem => absurd hmem (not_mem_clusterIds hid))
  refine and_congr (hsame groupId hgroup) ⟨fun hall id hid hexclusive => ?_,
    fun hall id hid hexclusive => ?_⟩
  · exact hall id ((hsame id hexclusive).mpr hid) hexclusive
  · exact hall id ((hsame id hexclusive).mp hid) hexclusive

theorem returned_of_active (h : oldGroupId device = groupId) (hgroup : isExclusive groupId = true)
    {modified : Bool}
    (hrun : (setJokerGroup a groupId device).run throws = .ended device' (.ok modified)) :
    (Alone device' groupId ∧ Matching a device' groupId) ∧
        (modified = true ↔ ¬ SameGroups device device') ↔ Alone device groupId := by
  obtain ⟨hstate, hresult⟩ := Script.ended_of_run hrun
  rw [setJokerGroup_of_active h] at hstate hresult
  obtain ⟨zone, hzone, hmodified, hgroups, -⟩ := ok_clusters hresult
  rw [hstate] at hgroups
  have hchange : modified = true ↔ ¬ SameGroups device device' := by
    rw [hmodified]
    rw [clusters_of_zone hzone] at hstate hresult
    rcases hforeign : firstForeign zone groupId device clusterIds with - | group
    · rw [(leaveClusters_of_none _ hforeign).2] at hstate
      exact iff_of_false Bool.false_ne_true
        (not_not.mpr (SameGroups.of_eq (congrArg Device.groups hstate.symm)))
    · obtain ⟨hmem, -, hcase⟩ :=
        leaveClusters_of_some false clusterIds_ne_zero hforeign
      split_ifs at hcase
      · exact absurd hresult (hcase.2.2 modified)
      · obtain ⟨rest, -, -, hnot⟩ := hcase
        rw [hstate] at hnot
        exact iff_of_true rfl fun hsame => hnot ((hsame _).mpr hmem)
  rw [and_iff_left hchange, and_iff_left (matching_of_ok hzone hgroups)]
  exact alone_iff_of_ok hgroup hgroups

theorem ok_of_other (h : oldGroupId device ≠ groupId) (hgroup : isExclusive groupId = true)
    {modified : Bool} (hresult : (setJokerGroup a groupId device).result = .ok modified) :
    modified = true ∧ ∃ zone, a.tryGetZone 0 = some zone ∧
      (∀ id, id ∈ (setJokerGroup a groupId device).state.groups ↔
        id ∈ (entered device groupId).groups ∧ (id ∈ clusterIds → Matches zone groupId id)) ∧
      ∀ id ∈ clusterIds, id ∈ (entered device groupId).groups →
        (zone.getGroup id).isSome = true := by
  rw [setJokerGroup_of_other h] at hresult ⊢
  obtain ⟨done, hleave, hresult, hstate⟩ := ok_of_bind hresult
  obtain ⟨done, henter, hresult, hstate'⟩ := ok_of_bind hresult
  obtain ⟨done, -, hresult, hstate''⟩ := ok_of_bind hresult
  rw [hstate, hstate', hstate'']
  obtain ⟨-, hleft, hall⟩ := leaveAll_spec a device (nodup_candidates device groupId)
  rw [left, takeWhile_eq_self_iff.mpr (hall.mp hleave)] at hleft
  rw [hleft] at henter hresult ⊢
  rw [(ok_enter henter).2] at hresult ⊢
  obtain ⟨zone, hzone, hmodified, hgroups, hfound⟩ := ok_clusters hresult
  have hkeeps := @groups_followGroup device _ hgroup
  refine ⟨hmodified.trans (Bool.true_or _), zone, hzone, fun id => ?_, fun id hid hmem => ?_⟩
  · rw [← hkeeps.2]
    exact hgroups id
  · exact hfound id hid (hkeeps.2.symm ▸ hmem)

/-- **Another group.** The device is in the right groups, and the request says that it was
changed. -/
theorem returned_of_other (h : oldGroupId device ≠ groupId) (hgroup : isExclusive groupId = true)
    {modified : Bool}
    (hrun : (setJokerGroup a groupId device).run throws = .ended device' (.ok modified)) :
    (Alone device' groupId ∧ Matching a device' groupId) ∧
        (modified = true ↔ ¬ SameGroups device device') ↔
      ¬ (Stays device groupId ∧ Matching a device groupId) := by
  obtain ⟨rfl, hresult⟩ := Script.ended_of_run hrun
  obtain ⟨hmodified, zone, hzone, hgroups, hfound⟩ := ok_of_other h hgroup hresult
  have hown := (hgroups groupId).mpr
    ⟨(alone_entered hgroup).1, fun hmem => absurd hmem (not_mem_clusterIds hgroup)⟩
  rw [and_iff_right ⟨(alone_iff_of_ok hgroup hgroups).mpr (alone_entered hgroup),
    matching_of_ok hzone hgroups⟩, iff_true_left hmodified, not_iff_not]
  constructor
  · intro hsame
    have hentered : SameGroups device (entered device groupId) := by
      intro id
      refine ⟨fun hid => ?_, fun hid => ((hgroups id).mp ((hsame id).mpr hid)).1⟩
      rcases (mem_entered hgroup).mp hid with rfl | ⟨⟨hin, -⟩, -⟩
      · exact (hsame _).mp hown
      · exact hin
    refine ⟨(sameGroups_entered hgroup).mp hentered, fun other hother id hid => ?_⟩
    exact matching_of_ok hzone hgroups other hother id ((hsame id).mpr hid)
  · rintro ⟨hstays, hmatching⟩ id
    have hentered := (sameGroups_entered hgroup).mpr hstays
    rw [hgroups id, hentered id]
    refine and_iff_left_of_imp fun hid hmem => ?_
    obtain ⟨group, hgroup⟩ := Option.isSome_iff_exists.mp (hfound id hmem ((hentered id).mpr hid))
    exact ⟨group, hgroup, hmatching zone hzone id hid
      (isAppUserGroup_iff.mpr (mem_clusterIds.mp hmem)) group hgroup⟩

/-! ## The calls of the request -/

theorem calls_clusters {modified : Bool} :
    (clusters a groupId modified device).calls.map Prod.fst = zoneCalls a groupId device := by
  rw [zoneCalls]
  rcases hzone : a.tryGetZone 0 with - | zone
  · obtain ⟨error, heq⟩ := clusters_of_none hzone modified device
    rw [heq]
    rfl
  · rw [clusters_of_zone hzone]
    exact calls_leaveClusters

theorem ok_clusters_iff {modified : Bool} :
    (∃ result, (clusters a groupId modified device).result = .ok result) ↔
      ∃ zone, a.tryGetZone 0 = some zone ∧ CanLeaveClusters zone groupId device clusterIds := by
  rcases hzone : a.tryGetZone 0 with - | zone
  · obtain ⟨error, heq⟩ := clusters_of_none hzone modified device
    rw [heq]
    exact iff_of_false (fun ⟨_, h⟩ => by cases h) fun ⟨_, h, _⟩ => by cases h
  · rw [clusters_of_zone hzone, ok_leaveClusters nodup_clusterIds]
    exact ⟨fun h => ⟨zone, rfl, h⟩, fun ⟨_, h, hleave⟩ => by cases h; exact hleave⟩

theorem map_fst_leaving {ids : List ℕ} :
    (leaving ids device).map Prod.fst = ids.map .removeFromGroup := by
  induction ids generalizing device with
  | nil => rfl
  | cons id ids ih => rw [leaving, map_cons, ih, map_cons]

theorem canLeaveClusters_congr {ids : List ℕ} (h : device'.groups = device.groups) :
    CanLeaveClusters zone groupId device' ids ↔ CanLeaveClusters zone groupId device ids := by
  have hsame : ∀ id, device'.isInGroup id = device.isInGroup id := fun id => by
    rw [Device.isInGroup, Device.isInGroup, h]
  simp only [CanLeaveClusters, hsame]

/-- What is behind the groups that are left: the group is entered, the inputs follow, and the
clusters are left. -/
theorem calls_enter :
    ((enter a (targetZone device groupId) groupId >>= fun _ =>
        followGroup groupId >>= fun _ => clusters a groupId true)
      (without ((others device groupId).map Prod.snd) device)).calls.map Prod.fst =
      entryCalls a device groupId := by
  rw [entryCalls]
  rcases htarget : target a groupId device with - | group
  · obtain ⟨error, heq⟩ := enter_of_none htarget
      (without ((others device groupId).map Prod.snd) device)
    rw [bind_of_error (by rw [heq]), heq]
    rfl
  have hcase := enter_of_some htarget (without ((others device groupId).map Prod.snd) device)
  dsimp only
  split_ifs at hcase ⊢ with hlocked hjoker
  · obtain ⟨error, heq⟩ := hcase
    rw [bind_of_error (by rw [heq]), heq]
    rfl
  · have hfollow := (ok_followGroup (entered device groupId) groupId).mpr hjoker
    have hstate := state_followGroup (entered device groupId) hjoker
    rw [bind_of_ok (by rw [hcase]), hcase, map_append]
    change [BusCall.addToGroup groupId] ++ ((followGroup groupId >>= fun _ =>
      clusters a groupId true) (entered device groupId)).calls.map Prod.fst = _
    rw [bind_of_ok hfollow, map_append, calls_followGroup, calls_clusters, hstate]
    rfl
  · have hfollow :
        ∃ error, (followGroup groupId (entered device groupId)).result = .error error := by
      rcases hresult : (followGroup groupId (entered device groupId)).result with error | done
      · exact ⟨error, rfl⟩
      · exact absurd ((ok_followGroup _ _).mp hresult) hjoker
    obtain ⟨error, hfollow⟩ := hfollow
    rw [bind_of_ok (by rw [hcase]), hcase, map_append]
    change [BusCall.addToGroup groupId] ++ ((followGroup groupId >>= fun _ =>
      clusters a groupId true) (entered device groupId)).calls.map Prod.fst = _
    rw [bind_of_error hfollow, calls_followGroup, append_nil]
    rfl

theorem left_of_canLeave (h : ∀ candidate ∈ others device groupId, canLeave a candidate = true) :
    left a device (candidates device groupId) = (others device groupId).map Prod.snd := by
  rw [left]
  exact congrArg _ (takeWhile_eq_self_iff.mpr h)

theorem calls_setJokerGroup :
    (setJokerGroup a groupId device).calls.map Prod.fst = plan a device groupId := by
  rw [plan]
  by_cases h : oldGroupId device = groupId
  · rw [if_pos h, setJokerGroup_of_active h, calls_clusters]
  obtain ⟨hcalls, hstate, hok⟩ := leaveAll_spec a device (nodup_candidates device groupId)
  rw [if_neg h, setJokerGroup_of_other h]
  by_cases hall : (others device groupId).all (canLeave a) = true
  · have hleave : (leaveAll a (candidates device groupId) device).result = .ok () :=
      hok.mpr (List.all_eq_true.mp hall)
    rw [if_pos hall, bind_of_ok hleave, map_append, hcalls, hstate, map_fst_leaving,
      left_of_canLeave (List.all_eq_true.mp hall),
      calls_enter, takeWhile_eq_self_iff.mpr (List.all_eq_true.mp hall)]
  · obtain ⟨error, hleave⟩ : ∃ error,
        (leaveAll a (candidates device groupId) device).result = .error error := by
      rcases hresult : (leaveAll a (candidates device groupId) device).result with error | done
      · exact ⟨error, rfl⟩
      · exact absurd (List.all_eq_true.mpr (hok.mp hresult)) hall
    rw [if_neg hall, bind_of_error hleave, hcalls, map_fst_leaving, append_nil]
    rfl

theorem ok_enter_iff {other : Device} :
    (enter a (targetZone device groupId) groupId other).result = .ok () ↔
      ∃ group, target a groupId device = some group ∧ group.isLocked = false := by
  rcases htarget : target a groupId device with - | group
  · obtain ⟨error, heq⟩ := enter_of_none htarget other
    rw [heq]
    exact iff_of_false (fun h => by cases h) fun ⟨_, h, _⟩ => by cases h
  · have hcase := enter_of_some htarget other
    split_ifs at hcase with hlocked
    · obtain ⟨error, heq⟩ := hcase
      rw [heq]
      refine iff_of_false (fun h => by cases h) fun ⟨found, h, hopen⟩ => ?_
      cases h
      exact absurd hlocked (ne_true_of_eq_false hopen)
    · rw [hcase]
      exact iff_of_true rfl ⟨group, rfl, eq_false_of_ne_true hlocked⟩

theorem ok_setJokerGroup (hgroup : isExclusive groupId = true) :
    (∃ modified, (setJokerGroup a groupId device).result = .ok modified) ↔
      Served a device groupId := by
  by_cases h : oldGroupId device = groupId
  · rw [setJokerGroup_of_active h, ok_clusters_iff]
    constructor
    · exact fun hclusters => ⟨by rwa [if_pos h], fun hne => absurd h hne⟩
    · intro hserved
      have hclusters := hserved.clusters
      rwa [if_pos h] at hclusters
  obtain ⟨-, hstate, hok⟩ := leaveAll_spec a device (nodup_candidates device groupId)
  have hkeeps := (@groups_followGroup device _ hgroup).2
  have hclusters : (∃ modified, (clusters a groupId true
        (followGroup groupId (entered device groupId)).state).result = .ok modified) ↔
      ∃ zone, a.tryGetZone 0 = some zone ∧
        CanLeaveClusters zone groupId (entered device groupId) clusterIds := by
    simp only [ok_clusters_iff, canLeaveClusters_congr hkeeps]
  rw [setJokerGroup_of_other h, ok_bind_iff]
  constructor
  · rintro ⟨done, hleave, hrest⟩
    have hall := hok.mp hleave
    rw [hstate, left_of_canLeave hall] at hrest
    obtain ⟨done, henter, hrest⟩ := ok_bind_iff.mp hrest
    rw [(ok_enter henter).2] at hrest
    obtain ⟨done, hfollow, hrest⟩ := ok_bind_iff.mp hrest
    refine ⟨?_, fun _ => ⟨hall, ok_enter_iff.mp henter,
      (ok_followGroup (entered device groupId) groupId).mp hfollow⟩⟩
    rw [if_neg h]
    exact hclusters.mp hrest
  · intro hserved
    obtain ⟨hall, htarget, hjoker⟩ := hserved.groups h
    have hleave := hserved.clusters
    rw [if_neg h] at hleave
    refine ⟨(), hok.mpr hall, ?_⟩
    rw [hstate, left_of_canLeave hall]
    have henter : (enter a (targetZone device groupId) groupId
        (without ((others device groupId).map Prod.snd) device)).result = .ok () :=
      ok_enter_iff.mpr htarget
    refine ok_bind_iff.mpr ⟨(), henter, ?_⟩
    rw [(ok_enter henter).2]
    exact ok_bind_iff.mpr ⟨(), (ok_followGroup (entered device groupId) groupId).mpr hjoker,
      hclusters.mpr hleave⟩

/-! ## The request -/

theorem returned_iff (hgroup : isExclusive groupId = true) {modified : Bool}
    (hrun : (setJokerGroup a groupId device).run throws = .ended device' (.ok modified)) :
    (Alone device' groupId ∧ Matching a device' groupId) ∧
        (modified = true ↔ ¬ SameGroups device device') ↔
      if oldGroupId device = groupId then Alone device groupId
      else ¬ (Stays device groupId ∧ Matching a device groupId) := by
  split_ifs with h
  · exact returned_of_active h hgroup hrun
  · exact returned_of_other h hgroup hrun

theorem missing_iff (htarget : target a groupId device = none) :
    SameGroups device ((setJokerGroup a groupId device).run throws).state ↔
      NothingLeft a throws device groupId := by
  rw [NothingLeft]
  split_ifs with h
  · exact missing_of_active h
  · exact missing_of_other h htarget

theorem interrupted_iff (hgroup : isExclusive groupId = true) {n : ℕ}
    (hrun : (setJokerGroup a groupId device).run throws = .interrupted n device') :
    SameGroups device device' ↔ Unnoticed device groupId n := by
  rw [Unnoticed, ← calls_followGroup, length_map]
  obtain ⟨call, hcall⟩ := Script.getElem?_of_run hrun
  by_cases h : oldGroupId device = groupId
  · rw [or_iff_left fun hother => hother.1 h]
    exact sameGroups_call_of_active h hcall
  · rw [and_iff_right h]
    exact sameGroups_call_of_other h hgroup hcall

/-- **Joker groups.** The request keeps its promise just where the condition says so. -/
theorem setJokerGroup_iff (a : Apartment) (throws : ℕ → BusCall → Bool) (device : Device)
    (hgroup : isExclusive groupId = true) :
    Promise a device groupId ((setJokerGroup a groupId device).run throws) ↔
      Fits a throws device groupId := by
  have hended : (∃ device' modified, (setJokerGroup a groupId device).run throws =
      .ended device' (.ok modified)) ↔ _ := Script.ended_iff
  rw [calls_setJokerGroup, ok_setJokerGroup hgroup] at hended
  constructor
  · intro h
    refine ⟨fun htarget hcalls hserved => ?_, fun htarget => ?_, fun n hn => ?_⟩
    · obtain ⟨device', modified, hrun⟩ := hended.mpr ⟨hcalls, hserved⟩
      exact (returned_iff hgroup hrun).mp (h.returned htarget device' modified hrun)
    · exact (missing_iff htarget).mp (h.missing htarget)
    · rw [← calls_setJokerGroup] at hn
      obtain ⟨device', hrun⟩ := Script.interrupted_iff.mpr hn
      exact (interrupted_iff hgroup hrun).mp (h.interrupted n device' hrun)
  · intro h
    refine ⟨fun htarget device' modified hrun => ?_, fun htarget => ?_, fun n device' hrun => ?_⟩
    · obtain ⟨hcalls, hserved⟩ := hended.mp ⟨device', modified, hrun⟩
      exact (returned_iff hgroup hrun).mpr (h.returned htarget hcalls hserved)
    · exact (missing_iff htarget).mpr (h.missing htarget)
    · have hn := Script.interrupted_iff.mp ⟨device', hrun⟩
      rw [calls_setJokerGroup] at hn
      exact (interrupted_iff hgroup hrun).mpr (h.interrupted n hn)

/-! ## A house -/

def membershipsOf (ids : List ℕ) : Memberships := ids.foldl Memberships.add ⟨[], .nil, nofun⟩

def houseDevice (activeGroup : ℕ) (groups : List ℕ) : Device where
  zoneID := 1
  groups := membershipsOf groups
  activeGroup := activeGroup
  productID := 0x18C8
  functionID := 0x8111
  binaryInputs := []
  outputMode := 16
  buttonActiveGroup := activeGroup
  buttonID := 5
  buttonInputMode := 0
  buttonInputCount := 1
  is2WaySlave := false

def house : Apartment where
  zones := [⟨0, []⟩, ⟨1, [.group { groupID := 1, applicationType := .lights },
    .group { groupID := 2, applicationType := .blinds },
    .group { groupID := 8, applicationType := .joker }]⟩]

/-- A device for blinds gets lights, on a bus that answers. -/
theorem setJokerGroup_house :
    Promise house (houseDevice 2 [2, 8]) 1
        ((setJokerGroup house 1 (houseDevice 2 [2, 8])).run fun _ _ => false) ↔
      Fits house (fun _ _ => false) (houseDevice 2 [2, 8]) 1 :=
  setJokerGroup_iff house (fun _ _ => false) (houseDevice 2 [2, 8]) (by decide)

/-- The device has just left blinds for lights, and still says to be active in blinds: it does
not get back. -/
theorem setJokerGroup_fails : ¬ ∀ (a : Apartment) (throws : ℕ → BusCall → Bool) (device : Device)
    (groupId : ℕ), isExclusive groupId = true →
      Promise a device groupId ((setJokerGroup a groupId device).run throws) := by
  intro hall
  have hpromise := hall house (fun _ _ => false) (houseDevice 2 [1, 8]) 2 (by decide)
  obtain ⟨device, hrun⟩ : ∃ device, (setJokerGroup house 2 (houseDevice 2 [1, 8])).run
      (fun _ _ => false) = .ended device (.ok false) := by
    exact ⟨_, Script.run_of_nil rfl⟩
  have hboth := hpromise.returned (by decide) device false hrun
  have halone := (returned_of_active rfl (by decide) hrun).mp hboth
  exact absurd halone.1 (by decide)

end JokerGroup

end Dss
