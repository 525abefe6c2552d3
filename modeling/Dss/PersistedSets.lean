import Dss.JokerGroup
import Dss.KeyedList

/-!
# Persisted sets

A set of devices is persisted as a user group of zone 0 that carries the description of the set.
The group is created in the model and on the bus, and every device of the set is made a member of
it. To undo it the group is looked up by its description; whoever is a member leaves it.

The memberships of a device are mere ids, and the user groups of the other zones have the same
ids. So a device may be a member of the id that is found, before the group is created. This is
what decides whether persisting a set can be undone.
-/

namespace Dss

namespace PersistedSets

open JokerGroup Interruptible Program

variable {D : Type}

/-! ## The apartment -/

/-- `Device`, as far as it is looked at here. -/
structure Device (D : Type) : Type where
  dsid : D
  dsMeterDSID : D
  shortAddress : ℕ
  /-- `m_groupIds` -/
  groups : Memberships

structure SetGroup : Type where
  group : ZoneGroup
  associatedSet : String := ""
  deriving DecidableEq

/-- `getID` -/
def SetGroup.id (g : SetGroup) : ℕ := g.group.base.groupID

/-- `Apartment`: zone 0 and its devices. -/
@[ext]
structure Apartment (D : Type) : Type where
  /-- `m_Groups` of zone 0 -/
  groups : List SetGroup
  devices : List (Device D)
  nodup : (devices.map Device.dsid).Nodup

/-- `ItemNotFoundException` -/
inductive Failure (D : Type) : Type where
  | group (id : ℕ) : Failure D
  | device (dsid : D) : Failure D
  deriving DecidableEq

namespace Apartment

section

variable (a : Apartment D)

def getGroup (id : ℕ) : Except (Failure D) SetGroup :=
  match a.groups.find? fun g => g.id = id with
  | some g => .ok g
  | none => .error (.group id)

def getDeviceByDSID [DecidableEq D] (dsid : D) : Except (Failure D) (Device D) :=
  match a.devices.find? fun device => device.dsid = dsid with
  | some device => .ok device
  | none => .error (.device dsid)

def isInGroup (device : Device D) (id : ℕ) : Bool :=
  if id = 0 then true else if isValidGroup id then id ∈ device.groups else false

/-- `Group::getDevices`, for a group of zone 0. -/
def getDevices (id : ℕ) : List D :=
  (a.devices.filter fun device => isInGroup device id).map Device.dsid

/-- No group of zone 0 has the id. -/
def Unused (id : ℕ) : Prop := ∀ g ∈ a.groups, g.id ≠ id

def Lists (set : List D) : Prop := ∀ dsid ∈ set, dsid ∈ a.devices.map Device.dsid

instance [DecidableEq D] (set : List D) : Decidable (a.Lists set) :=
  inferInstanceAs (Decidable (∀ dsid ∈ set, dsid ∈ a.devices.map Device.dsid))

def regroup (f : Device D → Memberships) : Apartment D where
  groups := a.groups
  devices := a.devices.map fun device => { device with groups := f device }
  nodup := by
    rw [List.map_map]
    exact a.nodup

/-- `Zone::addGroup`. The groups behind the ventilation of the apartment are not added. -/
def addGroup (g : SetGroup) : Apartment D :=
  if groupIDGlobalAppDsVentilation < g.id then a else { a with groups := a.groups ++ [g] }

/-- `setAssociatedSet`, for the group that was created. -/
def setAssociatedSet (id : ℕ) (description : String) : Apartment D :=
  { a with
    groups := KeyedList.modify SetGroup.id id (fun g => { g with associatedSet := description })
      a.groups }

/-- `Zone::removeGroup`, for the first group with the description. -/
def removeGroup (description : String) : Apartment D :=
  { a with groups := a.groups.eraseP fun g => g.associatedSet = description }

end

/-! ## Lookups and changes -/

variable {a : Apartment D} {id : ℕ}

theorem regroup_eq_self {f : Device D → Memberships}
    (h : ∀ device ∈ a.devices, f device = device.groups) : a.regroup f = a := by
  refine Apartment.ext rfl ?_
  refine (List.map_congr_left fun device hmem => ?_).trans (List.map_id a.devices)
  rw [h device hmem]
  rfl

theorem regroup_regroup (f f' : Device D → Memberships) : (a.regroup f).regroup f' =
    a.regroup fun device => f' { device with groups := f device } := by
  refine Apartment.ext rfl ?_
  exact List.map_map

theorem lists_regroup {f : Device D → Memberships} {set : List D} :
    (a.regroup f).Lists set ↔ a.Lists set := by
  rw [Lists, regroup, List.map_map]
  rfl

theorem getDeviceByDSID_of_mem [DecidableEq D] {dsid : D}
    (h : dsid ∈ a.devices.map Device.dsid) : ∃ device, a.getDeviceByDSID dsid = .ok device := by
  obtain ⟨device, hmem, rfl⟩ := List.mem_map.mp h
  refine ⟨device, ?_⟩
  rw [getDeviceByDSID, (KeyedList.find?_eq_some_iff a.nodup).mpr ⟨hmem, rfl⟩]

theorem getGroup_of_unused (h : a.Unused id) : a.getGroup id = .error (.group id) := by
  rw [getGroup, List.find?_eq_none.mpr fun g hmem heq => h g hmem (of_decide_eq_true heq)]

theorem getGroup_of_not_unused (h : ¬ a.Unused id) : ∃ g, a.getGroup id = .ok g := by
  rcases hfind : a.groups.find? fun g => g.id = id with - | g
  · rw [List.find?_eq_none] at hfind
    exact absurd (fun g hmem heq => hfind g hmem (decide_eq_true heq)) h
  · exact ⟨g, by rw [getGroup, hfind]⟩

theorem mem_getDevices (h : isZoneUserGroup id = true) {dsid : D} : dsid ∈ a.getDevices id ↔
    ∃ device ∈ a.devices, id ∈ device.groups ∧ device.dsid = dsid := by
  have hmem : ∀ device : Device D, isInGroup device id = true ↔ id ∈ device.groups := by
    intro device
    have hzero : id ≠ 0 := by
      rw [isZoneUserGroup_iff] at h
      omega
    rw [isInGroup, if_neg hzero, if_pos (isValidGroup_of_isZoneUserGroup h), decide_eq_true_iff]
  simp [getDevices, hmem, and_assoc]

theorem mem_getDevices_regroup {f : Device D → Memberships} (h : isZoneUserGroup id = true)
    {dsid : D} : dsid ∈ (a.regroup f).getDevices id ↔
      ∃ device ∈ a.devices, id ∈ f device ∧ device.dsid = dsid := by
  rw [mem_getDevices h]
  simp [regroup]

theorem lists_getDevices : a.Lists (a.getDevices id) :=
  fun _ hmem => (List.filter_sublist.map Device.dsid).subset hmem

theorem nodup_getDevices : (a.getDevices id).Nodup :=
  a.nodup.sublist (List.filter_sublist.map Device.dsid)

end Apartment

/-! ## The search -/

def userGroupIds : List ℕ :=
  List.range' groupIDUserGroupStart (groupIDUserGroupEnd + 1 - groupIDUserGroupStart)

/-- The search: the first id for which `getGroup` throws. -/
def findUnused (a : Apartment D) : Option ℕ :=
  userGroupIds.find? fun id =>
    match a.getGroup id with
    | .ok _ => false
    | .error _ => true

variable {a : Apartment D} {id : ℕ}

theorem mem_userGroupIds : id ∈ userGroupIds ↔ isZoneUserGroup id = true := by
  rw [userGroupIds, List.mem_range'_1, isZoneUserGroup_iff]
  simp only [groupIDUserGroupStart, groupIDUserGroupEnd]
  omega

theorem unused_of_findUnused (h : findUnused a = some id) :
    isZoneUserGroup id = true ∧ a.Unused id := by
  refine ⟨mem_userGroupIds.1 (List.mem_of_find?_eq_some h), ?_⟩
  by_contra hused
  obtain ⟨g, hg⟩ := Apartment.getGroup_of_not_unused hused
  have hfound := List.find?_some h
  rw [hg] at hfound
  cases hfound

theorem not_unused_of_findUnused (h : findUnused a = none) (hid : isZoneUserGroup id = true) :
    ¬ a.Unused id := by
  intro hunused
  refine List.find?_eq_none.mp h id (mem_userGroupIds.2 hid) ?_
  rw [Apartment.getGroup_of_unused hunused]

/-! ## Creating the group -/

inductive BusCall (D : Type) : Type where
  | createGroup (zoneID id : ℕ) (applicationType : ApplicationType) (configuration : ℕ)
      (name : String) : BusCall D
  | removeGroup (zoneID id : ℕ) : BusCall D
  | addToGroup (dsMeterDSID : D) (id : ℕ) (shortAddress : ℕ) : BusCall D
  | removeFromGroup (dsMeterDSID : D) (id : ℕ) (shortAddress : ℕ) : BusCall D
  deriving DecidableEq

abbrev Request (D A : Type) : Type := Program (Apartment D) (BusCall D) (Failure D) A

/-- The part of `persistSet` that creates a group that is not found. -/
def createGroup (description : String) (groupNumber : ℕ) : Request D Unit := do
  let a ← get
  match a.getGroup groupNumber with
  | .ok _ => pure ()
  | .error _ => do
    modify fun a => a.addGroup { group := .group { groupID := groupNumber } }
    call (.createGroup 0 groupNumber .none 0 "")
    modify fun a => a.setAssociatedSet groupNumber description

def withGroup (a : Apartment D) (description : String) (id : ℕ) : Apartment D :=
  { a with
    groups := a.groups ++
      [{ group := .group { groupID := id }, associatedSet := description }] }

variable {description : String}

variable (description) in
theorem createGroup_apply (hid : isZoneUserGroup id = true) (hunused : a.Unused id) :
    (createGroup description id a).result = .ok () ∧
      (createGroup description id a).state = withGroup a description id := by
  have hsmall : ¬ groupIDGlobalAppDsVentilation < id := by
    rw [isZoneUserGroup_iff] at hid
    rw [groupIDGlobalAppDsVentilation]
    omega
  have hnew : id ∉ a.groups.map SetGroup.id := by
    rintro hmem
    obtain ⟨g, hg, hkey⟩ := List.mem_map.mp hmem
    exact hunused g hg hkey
  rw [createGroup, get_bind, Apartment.getGroup_of_unused hunused]
  refine ⟨rfl, ?_⟩
  show ((a.addGroup { group := .group { groupID := id } }).setAssociatedSet id description) = _
  rw [Apartment.addGroup, if_neg (by exact hsmall)]
  refine Apartment.ext ?_ rfl
  exact KeyedList.modify_append_singleton (f := SetGroup.id)
    (a := { group := .group { groupID := id } }) hnew

/-! ## Loops over the devices -/

variable [DecidableEq D]

def forDevices (f : Memberships → Memberships) (c : Device D → BusCall D) :
    List D → Request D Unit
  | [] => pure ()
  | dsid :: set => do
    let a ← get
    match a.getDeviceByDSID dsid with
    | .error e => fail e
    | .ok device => do
      modify fun a => a.regroup fun other =>
        if other.dsid = dsid then f other.groups else other.groups
      call (c device)
      forDevices f c set

/-- The loop of `persistSet`. -/
def addDevices (id : ℕ) : List D → Request D Unit :=
  forDevices (fun m => m.add id) fun device =>
    .addToGroup device.dsMeterDSID id device.shortAddress

/-- The loop of `unpersistSet`. -/
def removeDevices (id : ℕ) : List D → Request D Unit :=
  forDevices (fun m => m.remove id) fun device =>
    .removeFromGroup device.dsMeterDSID id device.shortAddress

section Loops

variable {f : Memberships → Memberships} {c : Device D → BusCall D}

theorem forDevices_cons {dsid : D} {set : List D} {device : Device D}
    (h : a.getDeviceByDSID dsid = .ok device) :
    let changed := a.regroup fun other =>
      if other.dsid = dsid then f other.groups else other.groups
    forDevices f c (dsid :: set) a =
      ⟨(c device, changed) :: (forDevices f c set changed).calls,
        (forDevices f c set changed).state, (forDevices f c set changed).result⟩ := by
  rw [forDevices, get_bind, h]
  rfl

theorem forDevices_apply {set : List D} (hnodup : set.Nodup)
    (hlists : a.Lists set) : (forDevices f c set a).result = .ok () ∧
      (forDevices f c set a).state = a.regroup fun device =>
        if device.dsid ∈ set then f device.groups else device.groups := by
  induction set generalizing a with
  | nil => exact ⟨rfl, (Apartment.regroup_eq_self fun device _ => rfl).symm⟩
  | cons dsid set ih =>
    rw [List.nodup_cons] at hnodup
    obtain ⟨device, hdevice⟩ := Apartment.getDeviceByDSID_of_mem (hlists dsid List.mem_cons_self)
    rw [forDevices_cons hdevice]
    obtain ⟨hresult, hstate⟩ := ih hnodup.2 (a := a.regroup fun other =>
        if other.dsid = dsid then f other.groups else other.groups)
      (Apartment.lists_regroup.2 fun other hother => hlists other (List.mem_cons_of_mem _ hother))
    refine ⟨hresult, hstate.trans ((Apartment.regroup_regroup _ _).trans ?_)⟩
    congr 1
    funext other
    by_cases hother : other.dsid = dsid
    · simp [hother, hnodup.1]
    · simp [hother]

end Loops

theorem addDevices_apply (id : ℕ) {set : List D} (hnodup : set.Nodup) (hlists : a.Lists set) :
    (addDevices id set a).result = .ok () ∧ (addDevices id set a).state =
      a.regroup fun device =>
        if device.dsid ∈ set then device.groups.add id else device.groups :=
  forDevices_apply hnodup hlists

theorem removeDevices_apply (id : ℕ) {set : List D} (hnodup : set.Nodup) (hlists : a.Lists set) :
    (removeDevices id set a).result = .ok () ∧ (removeDevices id set a).state =
      a.regroup fun device =>
        if device.dsid ∈ set then device.groups.remove id else device.groups :=
  forDevices_apply hnodup hlists

/-! ## The two functions -/

/-- `persistSet`, with the number of the group. -/
def persistSetAs (set : List D) (description : String) (groupNumber : ℕ) : Request D ℤ := do
  createGroup description groupNumber
  addDevices groupNumber set
  pure groupNumber

def persistSet (set : List D) (description : String) : Request D ℤ := do
  let a ← get
  match findUnused a with
  | some id => persistSetAs set description id
  | none => pure (-1)

def unpersistSet (description : String) : Request D Unit := do
  let a ← get
  match a.groups.find? fun g => g.associatedSet = description with
  | none => pure ()
  | some g => do
    removeDevices g.id (a.getDevices g.id)
    call (.removeGroup 0 g.id)
    modify fun a => a.removeGroup description

/-! ## What is asked of them -/

/-- **A set is persisted.** Either all ids are taken, and nothing happens; or a group of zone 0
with an unused id gets the devices of the set as its members. In both cases it can be undone. -/
def Persists (a : Apartment D) (set : List D) (description : String) : Prop :=
  let persisted := persistSet set description a
  let unpersisted := unpersistSet description persisted.state
  (((∀ id, isZoneUserGroup id = true → ¬ a.Unused id) ∧
        persisted.result = .ok (-1) ∧ persisted.state = a) ∨
      ∃ id : ℕ, isZoneUserGroup id = true ∧ a.Unused id ∧ persisted.result = .ok (id : ℤ) ∧
        (∃ g, persisted.state.getGroup id = .ok g ∧ g.associatedSet = description) ∧
        ∀ dsid, dsid ∈ persisted.state.getDevices id ↔ dsid ∈ set) ∧
    unpersisted.result = .ok () ∧ unpersisted.state = a

/-- No device is a member of the least unused id, if there is one. -/
def Vacant (a : Apartment D) : Prop :=
  ∀ id, findUnused a = some id → ∀ device ∈ a.devices, id ∉ device.groups

/-! ## Persisting and undoing it -/

variable {set : List D}

def membershipsIn (set : List D) (id : ℕ) (device : Device D) : Memberships :=
  if device.dsid ∈ set then device.groups.add id else device.groups

def persisted (a : Apartment D) (set : List D) (description : String) (id : ℕ) : Apartment D :=
  (withGroup a description id).regroup (membershipsIn set id)

theorem mem_getDevices_persisted (hid : isZoneUserGroup id = true) {dsid : D} :
    dsid ∈ (persisted a set description id).getDevices id ↔
      ∃ device ∈ a.devices, id ∈ membershipsIn set id device ∧ device.dsid = dsid :=
  Apartment.mem_getDevices_regroup hid

theorem mem_membershipsIn (hid : isZoneUserGroup id = true) {device : Device D} :
    id ∈ membershipsIn set id device ↔ id ∈ device.groups ∨ device.dsid ∈ set := by
  rw [membershipsIn]
  split_ifs with hin
  · rw [Memberships.mem_add (isValidGroup_of_isZoneUserGroup hid)]
    exact iff_of_true (Or.inr rfl) (Or.inr hin)
  · exact (or_iff_left hin).symm

variable (description) in
theorem persistSet_apply (hset : set.Nodup) (hlists : a.Lists set)
    (h : findUnused a = some id) : (persistSet set description a).result = .ok (id : ℤ) ∧
      (persistSet set description a).state = persisted a set description id := by
  obtain ⟨hid, hunused⟩ := unused_of_findUnused h
  obtain ⟨hcreated, hstate⟩ := createGroup_apply description hid hunused
  obtain ⟨hadded, hstate'⟩ := addDevices_apply (a := withGroup a description id) id
    hset hlists
  rw [persistSet, get_bind, h]
  show (persistSetAs set description id a).result = _ ∧
    (persistSetAs set description id a).state = _
  rw [persistSetAs, bind_of_ok hcreated, hstate, bind_of_ok hadded]
  exact ⟨rfl, hstate'⟩

theorem getGroup_persisted (hunused : a.Unused id) :
    ∃ g, (persisted a set description id).getGroup id = .ok g ∧ g.associatedSet = description := by
  refine ⟨{ group := .group { groupID := id }, associatedSet := description }, ?_, rfl⟩
  have hfind : ((persisted a set description id).groups.find? fun g => g.id = id) =
      some { group := .group { groupID := id }, associatedSet := description } := by
    show (a.groups ++ [_]).find? _ = _
    rw [List.find?_append, List.find?_eq_none.mpr fun g hmem heq =>
      hunused g hmem (of_decide_eq_true heq)]
    simp [SetGroup.id, ZoneGroup.base]
  rw [Apartment.getGroup, hfind]

theorem unpersistSet_apply {g : SetGroup}
    (h : (a.groups.find? fun g => g.associatedSet = description) = some g) :
    (unpersistSet description a).result = .ok () ∧ (unpersistSet description a).state =
      (a.regroup fun device =>
        if device.dsid ∈ a.getDevices g.id then device.groups.remove g.id
        else device.groups).removeGroup description := by
  obtain ⟨hremoved, hstate⟩ := removeDevices_apply (a := a) g.id
    Apartment.nodup_getDevices Apartment.lists_getDevices
  rw [unpersistSet, get_bind, h]
  show ((removeDevices g.id (a.getDevices g.id) >>= _) a).result = _ ∧
    ((removeDevices g.id (a.getDevices g.id) >>= _) a).state = _
  rw [bind_of_ok hremoved, hstate]
  exact ⟨rfl, rfl⟩

theorem unpersistSet_persisted (hfresh : ∀ g ∈ a.groups, g.associatedSet ≠ description) :
    (unpersistSet description (persisted a set description id)).result = .ok () ∧
      (unpersistSet description (persisted a set description id)).state =
        a.regroup fun device =>
          if device.dsid ∈ (persisted a set description id).getDevices id then
            (membershipsIn set id device).remove id
          else membershipsIn set id device := by
  have hfind : ((persisted a set description id).groups.find? fun g =>
      g.associatedSet = description) =
        some { group := .group { groupID := id }, associatedSet := description } := by
    show (a.groups ++ [_]).find? _ = _
    rw [List.find?_append, List.find?_eq_none.mpr fun g hmem heq =>
      hfresh g hmem (of_decide_eq_true heq)]
    simp
  obtain ⟨hresult, hstate⟩ := unpersistSet_apply hfind
  refine ⟨hresult, hstate.trans (Apartment.ext ?_ ?_)⟩
  · show (a.groups ++ [_]).eraseP _ = a.groups
    rw [List.eraseP_append_right _ fun g hmem heq => hfresh g hmem (of_decide_eq_true heq)]
    simp
  · exact List.map_map

theorem not_mem_unpersisted (hid : isZoneUserGroup id = true)
    (hfresh : ∀ g ∈ a.groups, g.associatedSet ≠ description) :
    ∀ device ∈ (unpersistSet description (persisted a set description id)).state.devices,
      id ∉ device.groups := by
  rw [(unpersistSet_persisted hfresh).2]
  intro device hmem
  obtain ⟨device, hdevice, rfl⟩ := List.mem_map.mp hmem
  dsimp only
  split_ifs with hmember
  · exact fun h => (Memberships.mem_remove.mp h).2 rfl
  · exact fun h => hmember ((mem_getDevices_persisted hid).mpr ⟨device, hdevice, h, rfl⟩)

variable (description) in
theorem mem_getDevices_of_vacant (hid : isZoneUserGroup id = true) (hlists : a.Lists set)
    (hvacant : ∀ device ∈ a.devices, id ∉ device.groups) (dsid : D) :
    dsid ∈ (persisted a set description id).getDevices id ↔ dsid ∈ set := by
  rw [mem_getDevices_persisted hid]
  constructor
  · rintro ⟨device, hdevice, hmember, rfl⟩
    exact ((mem_membershipsIn hid).mp hmember).resolve_left (hvacant device hdevice)
  · intro hin
    obtain ⟨device, hdevice, rfl⟩ := List.mem_map.mp (hlists dsid hin)
    exact ⟨device, hdevice, (mem_membershipsIn hid).mpr (Or.inr hin), rfl⟩

theorem unpersisted_eq_self (hid : isZoneUserGroup id = true) (hlists : a.Lists set)
    (hfresh : ∀ g ∈ a.groups, g.associatedSet ≠ description)
    (hvacant : ∀ device ∈ a.devices, id ∉ device.groups) :
    (unpersistSet description (persisted a set description id)).state = a := by
  rw [(unpersistSet_persisted hfresh).2]
  refine Apartment.regroup_eq_self fun device hdevice => ?_
  simp only [mem_getDevices_of_vacant description hid hlists hvacant, membershipsIn]
  split_ifs
  · exact Memberships.remove_add_self (hvacant device hdevice)
  · rfl

/-- **Persisted sets.** A set of devices can be persisted and this can be undone, if and only if
the least id that no group of zone 0 has is not among the memberships of any device. -/
theorem persists_iff (hset : set.Nodup) (hlists : a.Lists set)
    (hfresh : ∀ g ∈ a.groups, g.associatedSet ≠ description) :
    Persists a set description ↔ Vacant a := by
  rcases hfound : findUnused a with - | id
  · -- all ids are taken: neither function does anything
    have hpersist : persistSet set description a = ⟨[], a, .ok (-1)⟩ := by
      rw [persistSet, get_bind, hfound]
      rfl
    have hunpersist : unpersistSet description a = ⟨[], a, .ok ()⟩ := by
      rw [unpersistSet, get_bind, List.find?_eq_none.mpr fun g hmem heq =>
        hfresh g hmem (of_decide_eq_true heq)]
      rfl
    refine iff_of_true ?_ fun id h => by cases hfound.symm.trans h
    rw [Persists, hpersist, hunpersist]
    exact ⟨Or.inl ⟨fun id hid => not_unused_of_findUnused hfound hid, rfl, rfl⟩, rfl, rfl⟩
  · obtain ⟨hid, hunused⟩ := unused_of_findUnused hfound
    obtain ⟨hresult, hstate⟩ := persistSet_apply description hset hlists hfound
    rw [Persists, hresult, hstate]
    constructor
    · rintro ⟨-, -, hundone⟩ id' hfound' device hdevice
      obtain rfl := Option.some.inj (hfound.symm.trans hfound')
      rw [← hundone] at hdevice
      exact not_mem_unpersisted hid hfresh device hdevice
    · intro hvacant
      have hmembers := fun dsid => mem_getDevices_of_vacant description hid hlists
        (hvacant id hfound) dsid
      exact ⟨Or.inr ⟨id, hid, hunused, rfl, getGroup_persisted hunused, hmembers⟩,
        (unpersistSet_persisted hfresh).1,
        unpersisted_eq_self hid hlists hfresh (hvacant id hfound)⟩

def hall : Apartment ℕ where
  groups := [{ group := .group { groupID := 40 }, associatedSet := ".zone(2)" }]
  devices := [⟨1, 0, 1, ⟨[1, 40], by decide, by decide⟩⟩, ⟨2, 0, 2, ⟨[1], by decide, by decide⟩⟩]
  nodup := by decide

theorem persists_hall : Persists hall [2, 1] ".group('yellow')" := by
  refine (persists_iff (by decide) (by decide) (by decide)).mpr ?_
  intro id hfound
  have hid : findUnused hall = some 41 := by decide
  obtain rfl := Option.some.inj (hid.symm.trans hfound)
  decide

def room : Apartment ℕ where
  groups := []
  devices := [⟨1, 0, 1, ⟨[1, 40], by decide, by decide⟩⟩, ⟨2, 0, 2, ⟨[1], by decide, by decide⟩⟩]
  nodup := by decide

/-- The group is free in zone 0, and a device of another zone is in it already. -/
theorem persists_fails : ¬ ∀ (a : Apartment ℕ) (set : List ℕ) (description : String),
    set.Nodup → a.Lists set → description ≠ "" →
    (∀ g ∈ a.groups, g.associatedSet ≠ description) → Persists a set description := by
  intro hall
  obtain ⟨-, -, hundone⟩ := hall room [2] ".zone(2)" (by decide) (by decide) (by decide)
    (by decide)
  have hdevice := @not_mem_unpersisted ℕ room 40 ".zone(2)" _ [2] (by decide) (by decide)
  have hpersisted := (@persistSet_apply ℕ room 40 ".zone(2)" _ [2] (by decide) (by decide)
    (by decide)).2
  rw [← hpersisted, hundone] at hdevice
  exact hdevice _ List.mem_cons_self (by decide)

end PersistedSets

end Dss
