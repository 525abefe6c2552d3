import Mathlib.Data.Finset.Lattice.Lemmas
import Mathlib.Data.List.Pairwise
import Dss.Group

/-!
# The report of locks

`getClusterLocks` goes through the classes of each zone, and reports each device of the class that a
locked cluster has, with the scenes that its locked clusters lock. A device that is in the groups of
two classes is met twice.

A zone has the devices themselves, where it has references that are looked up. Zone 0, where the
clusters are, is left out by the code.
-/

namespace Dss

open List

namespace ClusterLocks

variable {D : Type}

structure Device (D : Type) : Type where
  /-- `getDSID` -/
  dsid : D
  /-- `m_groupIds` -/
  groupIds : List ℕ

structure Zone (D : Type) : Type where
  /-- `getID` -/
  id : ℕ
  devices : List (Device D)

/-- Apart from zone 0, a device is in one zone, and once. -/
structure Apartment (D : Type) : Type where
  zones : List (Zone D)
  cluster : ℕ → Cluster
  zonesNodup : (zones.map (·.id)).Nodup
  devicesNodup : (((zones.filter (·.id ≠ 0)).flatMap (·.devices)).map (·.dsid)).Nodup

/-- `DeviceLock_t` -/
structure DeviceLock (D : Type) : Type where
  dsuid : D
  lockedScenes : List ℤ := []
  deriving DecidableEq

/-- `ClassLock_t` -/
structure ClassLock : Type where
  deviceClass : ℕ
  lockedScenes : Finset ℤ

/-- `ZoneLock_t` -/
structure ZoneLock : Type where
  zoneID : ℕ
  deviceClassLocks : List ClassLock

/-! ## The code -/

def deviceClassGE : ℕ := 1

def deviceClassSW : ℕ := 8

def deviceClassWE : ℕ := 9

def Device.isInGroup (device : Device D) (groupID : ℕ) : Bool :=
  if groupID = 0 then true
  else if !isValidGroup groupID then false
  else groupID ∈ device.groupIds

/-- `Set::addDevice` -/
def addDevice [DecidableEq D] (set : List (Device D)) (device : Device D) : List (Device D) :=
  if set.any (·.dsid = device.dsid) then set else set ++ [device]

def getByGroup [DecidableEq D] (set : List (Device D)) (groupNr : ℕ) : List (Device D) :=
  if groupNr ≠ groupIDBroadcast then
    set.foldl (fun result device =>
      if device.isInGroup groupNr then addDevice result device else result) []
  else set

namespace Apartment

variable (ap : Apartment D)

/-- The scenes that the locked clusters of a device lock. -/
def getLockedScenes (device : Device D) : List ℤ :=
  device.groupIds.foldl (fun ls gid =>
    if isAppUserGroup gid then
      if (ap.cluster gid).configurationLocked then ls ++ (ap.cluster gid).lockedScenes else ls
    else ls) []

def isInLockedCluster (device : Device D) : Bool :=
  device.groupIds.any fun gid => isAppUserGroup gid && (ap.cluster gid).configurationLocked

/-- The loop over the devices of a class. -/
def lockDevice (acc : List (DeviceLock D) × Finset ℤ) (device : Device D) :
    List (DeviceLock D) × Finset ℤ :=
  let ls := ap.getLockedScenes device
  if ls ≠ [] then (acc.1 ++ [⟨device.dsid, ls⟩], acc.2 ∪ ls.toFinset)
  else if ap.isInLockedCluster device then (acc.1 ++ [{ dsuid := device.dsid }], acc.2)
  else acc

variable [DecidableEq D]

/-- The loop over the classes. -/
def lockClass (devices : List (Device D)) (acc : List (DeviceLock D) × List ClassLock) (c : ℕ) :
    List (DeviceLock D) × List ClassLock :=
  if c = deviceClassSW then acc
  else
    let (lockedDevices, lockedScenes) := (getByGroup devices c).foldl ap.lockDevice (acc.1, ∅)
    (lockedDevices, if lockedScenes ≠ ∅ then acc.2 ++ [⟨c, lockedScenes⟩] else acc.2)

/-- The loop over the zones. -/
def lockZone (acc : List (DeviceLock D) × List ZoneLock) (zone : Zone D) :
    List (DeviceLock D) × List ZoneLock :=
  if zone.id = 0 then acc
  else
    let (lockedDevices, classLocks) :=
      (List.range' deviceClassGE deviceClassWE).foldl (ap.lockClass zone.devices) (acc.1, [])
    (lockedDevices, if classLocks ≠ [] then acc.2 ++ [⟨zone.id, classLocks⟩] else acc.2)

def getClusterLocks : List (DeviceLock D) × List ZoneLock := ap.zones.foldl ap.lockZone ([], [])

end Apartment

/-! ## The law -/

def IsScanned (c : ℕ) : Prop := deviceClassGE ≤ c ∧ c ≤ deviceClassWE ∧ c ≠ deviceClassSW

section Law

variable (ap : Apartment D)

/-- A device that is to be reported. -/
structure Reported (device : Device D) : Prop where
  zone : ∃ zone ∈ ap.zones, zone.id ≠ 0 ∧ device ∈ zone.devices
  deviceClass : ∃ c, IsScanned c ∧ device.isInGroup c
  locked : ap.getLockedScenes device ≠ [] ∨ ap.isInLockedCluster device

/-- The scenes that are to be reported for a class, if there are any. -/
structure ReportedScenes (zoneID c : ℕ) (scenes : Finset ℤ) : Prop where
  deviceClass : IsScanned c
  nonempty : scenes ≠ ∅
  zone : zoneID ≠ 0 ∧ ∃ zone ∈ ap.zones, zone.id = zoneID ∧ ∀ scene, scene ∈ scenes ↔
    ∃ device ∈ zone.devices, device.isInGroup c ∧ scene ∈ ap.getLockedScenes device

/-- No device that is to be reported is in the groups of two classes. -/
def OneClass : Prop :=
  ∀ device, Reported ap device → ∀ c c', IsScanned c → IsScanned c' → device.isInGroup c →
    device.isInGroup c' → c = c'

variable [DecidableEq D]

/-- What is locked is reported, and each of it once. -/
structure LawfulReport : Prop where
  once : (ap.getClusterLocks.1.map (·.dsuid)).Nodup
  devices : ∀ lock, lock ∈ ap.getClusterLocks.1 ↔
    ∃ device, Reported ap device ∧ lock = ⟨device.dsid, ap.getLockedScenes device⟩
  zones : ∀ zoneID c scenes,
    (∃ zoneLock ∈ ap.getClusterLocks.2, zoneLock.zoneID = zoneID ∧
      ⟨c, scenes⟩ ∈ zoneLock.deviceClassLocks) ↔ ReportedScenes ap zoneID c scenes
  zonesOnce : (ap.getClusterLocks.2.map (·.zoneID)).Nodup

end Law

/-! ## The loops -/

section Loops

variable {ap : Apartment D} {devices : List (Device D)} {zones : List (Zone D)} {c : ℕ}

def isLocked (ap : Apartment D) (device : Device D) : Bool :=
  ap.getLockedScenes device ≠ [] || ap.isInLockedCluster device

def lockOf (ap : Apartment D) (device : Device D) : DeviceLock D :=
  ⟨device.dsid, ap.getLockedScenes device⟩

theorem foldl_lockDevice (acc : List (DeviceLock D) × Finset ℤ) :
    devices.foldl ap.lockDevice acc =
      (acc.1 ++ (devices.filter (isLocked ap)).map (lockOf ap),
        acc.2 ∪ (devices.flatMap ap.getLockedScenes).toFinset) := by
  induction devices generalizing acc with
  | nil => simp
  | cons device devices ih =>
    rw [foldl_cons, ih, Apartment.lockDevice, filter_cons, isLocked]
    by_cases hscenes : ap.getLockedScenes device = []
    · by_cases hcluster : ap.isInLockedCluster device <;> simp [hscenes, hcluster, lockOf]
    · simp [hscenes, lockOf]

def scenesOf (ap : Apartment D) (devices : List (Device D)) (c : ℕ) : Finset ℤ :=
  ((devices.filter (·.isInGroup c)).flatMap ap.getLockedScenes).toFinset

def locksOf (ap : Apartment D) (devices : List (Device D)) (c : ℕ) : List (DeviceLock D) :=
  ((devices.filter (·.isInGroup c)).filter (isLocked ap)).map (lockOf ap)

/-- The classes that are scanned. -/
def scanned : List ℕ := (List.range' deviceClassGE deviceClassWE).filter (· ≠ deviceClassSW)

theorem mem_scanned : c ∈ scanned ↔ IsScanned c := by
  rw [scanned, mem_filter, mem_range'_1, decide_eq_true_eq, IsScanned]
  unfold deviceClassGE deviceClassWE deviceClassSW
  omega

def classLocksOf (ap : Apartment D) (zone : Zone D) : List ClassLock :=
  (scanned.filter (scenesOf ap zone.devices · ≠ ∅)).map fun c => ⟨c, scenesOf ap zone.devices c⟩

variable [DecidableEq D]

/-- A set without duplicates keeps those that are selected. -/
theorem getByGroup_eq (hnodup : (devices.map (·.dsid)).Nodup) (hc : c ≠ 0) :
    getByGroup devices c = devices.filter (·.isInGroup c) := by
  have hfold : ∀ set : List (Device D), ((set ++ devices).map (·.dsid)).Nodup →
      devices.foldl (fun result device =>
        if device.isInGroup c then addDevice result device else result) set =
        set ++ devices.filter (·.isInGroup c) := by
    clear hnodup
    induction devices with
    | nil => exact fun set _ => (append_nil set).symm
    | cons device devices ih =>
      intro set hset
      rw [foldl_cons]
      by_cases hgroup : device.isInGroup c
      · have hnew : ¬set.any (·.dsid = device.dsid) := by
          rw [any_eq_true]
          rintro ⟨other, hother, heq⟩
          rw [map_append, nodup_append] at hset
          exact hset.2.2 _ (mem_map_of_mem hother) _ mem_cons_self (of_decide_eq_true heq)
        rw [if_pos hgroup, addDevice, if_neg hnew, ih _ (by simpa using hset)]
        simp [hgroup]
      · rw [if_neg hgroup, ih _ (hset.sublist (by simp))]
        simp [hgroup]
  rw [getByGroup, if_pos (show c ≠ groupIDBroadcast from hc)]
  exact hfold [] hnodup

theorem foldl_lockClass (hnodup : (devices.map (·.dsid)).Nodup) {cs : List ℕ}
    (hcs : ∀ c ∈ cs, c ≠ 0) (acc : List (DeviceLock D) × List ClassLock) :
    cs.foldl (ap.lockClass devices) acc =
      (acc.1 ++ (cs.filter (· ≠ deviceClassSW)).flatMap (locksOf ap devices),
        acc.2 ++ ((cs.filter (· ≠ deviceClassSW)).filter (scenesOf ap devices · ≠ ∅)).map
          fun c => ⟨c, scenesOf ap devices c⟩) := by
  induction cs generalizing acc with
  | nil => simp
  | cons c cs ih =>
    rw [foldl_cons, ih fun c hc => hcs c (mem_cons_of_mem _ hc), Apartment.lockClass]
    by_cases hsw : c = deviceClassSW
    · simp [hsw]
    · rw [getByGroup_eq hnodup (hcs c mem_cons_self), foldl_lockDevice]
      by_cases hscenes : scenesOf ap devices c = ∅ <;>
        simp_all [scenesOf, locksOf]

theorem lockZone_eq {zone : Zone D} (hzero : zone.id ≠ 0)
    (hnodup : (zone.devices.map (·.dsid)).Nodup) (acc : List (DeviceLock D) × List ZoneLock) :
    ap.lockZone acc zone =
      (acc.1 ++ scanned.flatMap (locksOf ap zone.devices),
        if classLocksOf ap zone ≠ [] then acc.2 ++ [⟨zone.id, classLocksOf ap zone⟩]
        else acc.2) := by
  rw [Apartment.lockZone, if_neg hzero, foldl_lockClass hnodup (by decide)]
  rfl

theorem foldl_lockZone (hnodup : ∀ zone ∈ zones, zone.id ≠ 0 → (zone.devices.map (·.dsid)).Nodup)
    (acc : List (DeviceLock D) × List ZoneLock) :
    zones.foldl ap.lockZone acc =
      (acc.1 ++ (zones.filter (·.id ≠ 0)).flatMap fun zone =>
          scanned.flatMap (locksOf ap zone.devices),
        acc.2 ++ ((zones.filter (·.id ≠ 0)).filter (classLocksOf ap · ≠ [])).map
          fun zone => ⟨zone.id, classLocksOf ap zone⟩) := by
  induction zones generalizing acc with
  | nil => simp
  | cons zone zones ih =>
    rw [foldl_cons, ih fun zone hzone => hnodup zone (mem_cons_of_mem _ hzone)]
    by_cases hzero : zone.id = 0
    · rw [Apartment.lockZone, if_pos hzero, filter_cons_of_neg (by simpa using hzero)]
    · rw [lockZone_eq hzero (hnodup zone mem_cons_self hzero),
        filter_cons_of_pos (by simpa using hzero)]
      by_cases hlocks : classLocksOf ap zone = [] <;> simp [hlocks]

end Loops

/-! ## The report -/

section Report

variable {ap : Apartment D} {devices : List (Device D)} {device : Device D} {zone : Zone D} {c : ℕ}

/-- The zones that the code looks at. -/
def zonesOf (ap : Apartment D) : List (Zone D) := ap.zones.filter (·.id ≠ 0)

theorem mem_zonesOf : zone ∈ zonesOf ap ↔ zone ∈ ap.zones ∧ zone.id ≠ 0 := by
  rw [zonesOf, mem_filter, decide_eq_true_eq]

theorem nodup_dsids : ((zonesOf ap).flatMap fun zone => zone.devices.map (·.dsid)).Nodup := by
  rw [← map_flatMap]
  exact ap.devicesNodup

theorem nodup_devices (hzone : zone ∈ zonesOf ap) : (zone.devices.map (·.dsid)).Nodup :=
  (nodup_flatMap.mp nodup_dsids).1 zone hzone

theorem mem_locksOf {lock : DeviceLock D} :
    lock ∈ locksOf ap devices c ↔
      ∃ device ∈ devices, device.isInGroup c ∧ isLocked ap device ∧ lockOf ap device = lock := by
  rw [locksOf, mem_map]
  simp only [mem_filter, and_assoc]

theorem isLocked_iff :
    isLocked ap device ↔ ap.getLockedScenes device ≠ [] ∨ ap.isInLockedCluster device := by
  rw [isLocked, Bool.or_eq_true, decide_eq_true_eq]

theorem mem_scenesOf {scene : ℤ} :
    scene ∈ scenesOf ap devices c ↔
      ∃ device ∈ devices, device.isInGroup c ∧ scene ∈ ap.getLockedScenes device := by
  rw [scenesOf, mem_toFinset, mem_flatMap]
  simp only [mem_filter, and_assoc]

theorem mem_classLocksOf {scenes : Finset ℤ} :
    (⟨c, scenes⟩ : ClassLock) ∈ classLocksOf ap zone ↔
      IsScanned c ∧ scenes ≠ ∅ ∧ scenes = scenesOf ap zone.devices c := by
  rw [classLocksOf, mem_map]
  simp only [mem_filter, decide_eq_true_eq, mem_scanned, ClassLock.mk.injEq]
  constructor
  · rintro ⟨_, ⟨hc, hscenes⟩, rfl, rfl⟩
    exact ⟨hc, hscenes, rfl⟩
  · rintro ⟨hc, hscenes, rfl⟩
    exact ⟨c, ⟨hc, hscenes⟩, rfl, rfl⟩

/-- The identifiers in the order of the report. -/
def dsuidsOf (ap : Apartment D) (devices : List (Device D)) (c : ℕ) : List D :=
  (locksOf ap devices c).map (·.dsuid)

theorem mem_dsuidsOf {dsuid : D} :
    dsuid ∈ dsuidsOf ap devices c ↔
      ∃ device ∈ devices, device.isInGroup c ∧ isLocked ap device ∧ device.dsid = dsuid := by
  simp only [dsuidsOf, mem_map, mem_locksOf]
  constructor
  · rintro ⟨_, ⟨device, hdevice, hgroup, hlocked, rfl⟩, rfl⟩
    exact ⟨device, hdevice, hgroup, hlocked, rfl⟩
  · rintro ⟨device, hdevice, hgroup, hlocked, rfl⟩
    exact ⟨_, ⟨device, hdevice, hgroup, hlocked, rfl⟩, rfl⟩

/-- The devices of one class in a zone are met once. -/
theorem nodup_dsuidsOf (hzone : zone ∈ zonesOf ap) : (dsuidsOf ap zone.devices c).Nodup := by
  rw [dsuidsOf, locksOf, map_map]
  exact (nodup_devices hzone).sublist ((filter_sublist.trans filter_sublist).map Device.dsid)

/-- Two zones have no device in common. -/
theorem pairwise_zones :
    (zonesOf ap).Pairwise
      (Function.onFun List.Disjoint fun zone => scanned.flatMap (dsuidsOf ap zone.devices)) := by
  have hmem : ∀ {zone : Zone D} {dsuid : D},
      dsuid ∈ scanned.flatMap (dsuidsOf ap zone.devices) → dsuid ∈ zone.devices.map (·.dsid) := by
    intro zone dsuid hdsuid
    obtain ⟨c, -, hc⟩ := mem_flatMap.mp hdsuid
    obtain ⟨device, hdevice, -, -, rfl⟩ := mem_dsuidsOf.1 hc
    exact mem_map_of_mem hdevice
  exact (nodup_flatMap.mp nodup_dsids).2.imp fun hdisjoint _ hleft hright =>
    hdisjoint (hmem hleft) (hmem hright)

theorem reported_of_mem (hzone : zone ∈ zonesOf ap) (hdevice : device ∈ zone.devices)
    (hc : IsScanned c) (hgroup : device.isInGroup c) (hlocked : isLocked ap device) :
    Reported ap device :=
  ⟨⟨zone, (mem_zonesOf.1 hzone).1, (mem_zonesOf.1 hzone).2, hdevice⟩, ⟨c, hc, hgroup⟩,
    isLocked_iff.1 hlocked⟩

variable [DecidableEq D]

theorem getClusterLocks_eq :
    ap.getClusterLocks =
      ((zonesOf ap).flatMap fun zone => scanned.flatMap (locksOf ap zone.devices),
        ((zonesOf ap).filter (classLocksOf ap · ≠ [])).map
          fun zone => ⟨zone.id, classLocksOf ap zone⟩) := by
  rw [Apartment.getClusterLocks, foldl_lockZone fun zone hzone hzero =>
    nodup_devices (mem_zonesOf.2 ⟨hzone, hzero⟩), nil_append, nil_append, zonesOf]

theorem mem_devices (lock : DeviceLock D) :
    lock ∈ ap.getClusterLocks.1 ↔
      ∃ device, Reported ap device ∧ lock = ⟨device.dsid, ap.getLockedScenes device⟩ := by
  simp only [getClusterLocks_eq, mem_flatMap, mem_locksOf, mem_scanned]
  constructor
  · rintro ⟨zone, hzone, c, hc, device, hdevice, hgroup, hlocked, rfl⟩
    have hzone' := mem_zonesOf.1 hzone
    exact ⟨device, ⟨⟨zone, hzone'.1, hzone'.2, hdevice⟩, ⟨c, hc, hgroup⟩, isLocked_iff.1 hlocked⟩,
      rfl⟩
  · rintro ⟨device, ⟨⟨zone, hzone, hzero, hdevice⟩, ⟨c, hc, hgroup⟩, hlocked⟩, rfl⟩
    exact ⟨zone, mem_zonesOf.2 ⟨hzone, hzero⟩, c, hc, device, hdevice, hgroup,
      isLocked_iff.2 hlocked, rfl⟩

theorem mem_zones (zoneID c : ℕ) (scenes : Finset ℤ) :
    (∃ zoneLock ∈ ap.getClusterLocks.2, zoneLock.zoneID = zoneID ∧
      ⟨c, scenes⟩ ∈ zoneLock.deviceClassLocks) ↔ ReportedScenes ap zoneID c scenes := by
  have hscenes : ∀ zone : Zone D, scenes = scenesOf ap zone.devices c ↔ ∀ scene, scene ∈ scenes ↔
      ∃ device ∈ zone.devices, device.isInGroup c ∧ scene ∈ ap.getLockedScenes device := fun zone =>
    Finset.ext_iff.trans (forall_congr' fun _ => iff_congr Iff.rfl mem_scenesOf)
  simp only [getClusterLocks_eq, mem_map, mem_filter, decide_eq_true_eq]
  constructor
  · rintro ⟨_, ⟨zone, ⟨hzone, -⟩, rfl⟩, rfl, hmem⟩
    obtain ⟨hc, hne, heq⟩ := mem_classLocksOf.1 hmem
    have hzone' := mem_zonesOf.1 hzone
    exact ⟨hc, hne, hzone'.2, zone, hzone'.1, rfl, (hscenes zone).mp heq⟩
  · rintro ⟨hc, hne, hzero, zone, hzone, rfl, heq⟩
    have hmem := mem_classLocksOf.2 ⟨hc, hne, (hscenes zone).mpr heq⟩
    exact ⟨_, ⟨zone, ⟨mem_zonesOf.2 ⟨hzone, hzero⟩, ne_nil_of_mem hmem⟩, rfl⟩, rfl, hmem⟩

theorem nodup_zones : (ap.getClusterLocks.2.map (·.zoneID)).Nodup := by
  rw [getClusterLocks_eq, map_map]
  exact ap.zonesNodup.sublist ((filter_sublist.trans filter_sublist).map Zone.id)

theorem map_dsuid_eq :
    ap.getClusterLocks.1.map (·.dsuid) =
      (zonesOf ap).flatMap fun zone => scanned.flatMap (dsuidsOf ap zone.devices) := by
  rw [getClusterLocks_eq]
  simp only [map_flatMap]
  rfl

/-- A device that is in the groups of two classes is met in both. -/
theorem nodup_dsuid_iff : (ap.getClusterLocks.1.map (·.dsuid)).Nodup ↔ OneClass ap := by
  rw [map_dsuid_eq, nodup_flatMap, and_iff_left pairwise_zones]
  constructor
  · rintro hzones device ⟨⟨zone, hzone, hzero, hdevice⟩, -, hlocked⟩ c c' hc hc' hgroup hgroup'
    have hclasses := (nodup_flatMap.mp (hzones zone (mem_zonesOf.2 ⟨hzone, hzero⟩))).2
    have hmem : ∀ {c}, device.isInGroup c → device.dsid ∈ dsuidsOf ap zone.devices c :=
      fun hgroup => mem_dsuidsOf.2 ⟨device, hdevice, hgroup, isLocked_iff.2 hlocked, rfl⟩
    have : Std.Symm (Function.onFun List.Disjoint (dsuidsOf ap zone.devices)) :=
      ⟨fun _ _ hdisjoint => hdisjoint.symm⟩
    by_contra hne
    exact hclasses.forall (mem_scanned.2 hc) (mem_scanned.2 hc') hne (hmem hgroup)
      (hmem hgroup')
  · intro hone zone hzone
    rw [nodup_flatMap]
    refine ⟨fun c _ => nodup_dsuidsOf hzone, ?_⟩
    have hscanned : scanned.Nodup := by decide
    refine hscanned.pairwise_of_forall_ne fun c hc c' hc' hne dsuid hleft hright => hne ?_
    obtain ⟨device, hdevice, hgroup, hlocked, rfl⟩ := mem_dsuidsOf.1 hleft
    obtain ⟨device', hdevice', hgroup', -, hdsid⟩ := mem_dsuidsOf.1 hright
    have heq : device' = device :=
      inj_on_of_nodup_map (nodup_devices hzone) hdevice' hdevice hdsid
    rw [mem_scanned] at hc hc'
    exact hone device (reported_of_mem hzone hdevice hc hgroup hlocked) c c' hc hc' hgroup
      (heq ▸ hgroup')

/-- **The report is right as long as no device of it is in the groups of two classes.** -/
theorem clusterLocks_lawful_iff (ap : Apartment D) : LawfulReport ap ↔ OneClass ap :=
  ⟨fun hlawful => nodup_dsuid_iff.1 hlawful.once, fun hone =>
    ⟨nodup_dsuid_iff.2 hone, mem_devices, mem_zones, nodup_zones⟩⟩

/-- A device of the groups 1 and 2 and of a locked cluster is reported twice. -/
theorem clusterLocks_lawful_fails :
    ¬LawfulReport (D := ℕ)
      { zones := [⟨1, [⟨7, [1, 2, 16]⟩]⟩]
        cluster := fun _ => { groupID := 16, configurationLocked := true }
        zonesNodup := by decide
        devicesNodup := by decide } := by
  intro hlawful
  exact absurd hlawful.once (by decide)

end Report

end ClusterLocks

end Dss
