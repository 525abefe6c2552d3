import Dss.ZoneAddition
import Dss.ZoneRemovalErasing

/-!
# Who moves along

A move puts a device into a zone and then takes it out of its old one. So a device that is in the
zone before is in it no more, and nothing that happens later brings it back. Otherwise a move does
what it should, and does not keep another device from moving.
-/

namespace Dss

open List Option

namespace ZoneRemoval

variable {D : Type} [DecidableEq D] {rt : Runtime D} {oem : D → OemInfo} {a a' : Apartment D}
  {device other : Device D} {id : D} {z : ℤ}

/-! ## What is asked of the request -/

/-- No device or zone is listed twice. -/
structure Apartment.Proper (a : Apartment D) : Prop where
  devices_nodup : (a.devices.map Device.dsid).Nodup
  zones_nodup : (a.zones.map Zone.id).Nodup
  lists_nodup : ∀ zone ∈ a.zones, zone.devices.Nodup

/-- A device is in a zone: it has its id, and is listed there once and in no other one, except
for zone 0. -/
def Placed (a : Apartment D) (z : ℤ) (id : D) : Prop :=
  (∃ device, a.tryGetDevice id = some device ∧ device.zoneID = z) ∧
    ∀ zone ∈ a.zones, zone.id ≠ 0 → zone.devices.count id = if zone.id = z then 1 else 0

/-- The invisible devices that are paired with a main device, the main device being one of the
number. -/
def PairedWith (rt : Runtime D) (device other : Device D) : Prop :=
  device.isMainDevice = true ∧ other.dsid ∈ behind rt (device.pairedDevices - 1) device.dsid ∧
    other.isVisible = false

/-- The devices that are coupled with one: the partner of a 2-way master, or the master of its
partner; those that are coupled by OEM data; the invisible ones of those that are paired. -/
def Coupled (rt : Runtime D) (oem : D → OemInfo) (device other : Device D) : Prop :=
  (device.is2WayMaster = true ∧ other.dsid = rt.nextDsuid device.dsid) ∨
    (other.is2WayMaster = true ∧ device.dsid = rt.nextDsuid other.dsid) ∨
    isOemCoupledWith oem device other = true ∨ PairedWith rt device other

def Listed (a : Apartment D) (w : ℤ) (id : D) : Prop :=
  ∃ zone ∈ a.zones, zone.id = w ∧ id ∈ zone.devices

def Belongs (rt : Runtime D) (oem : D → OemInfo) (device other : Device D) : Prop :=
  other.dsid = device.dsid ∨ (Coupled rt oem device other ∧ other.isPresent = true)

/-- **Coupled devices move together.** The device and those present devices that are coupled with
it are in the zone; nothing has changed for the others. -/
def MovesTogether (rt : Runtime D) (oem : D → OemInfo) (device : Device D) (z : ℤ)
    (a a' : Apartment D) : Prop :=
  ∀ other ∈ a.devices,
    (Belongs rt oem device other → Placed a' z other.dsid) ∧
    (¬ Belongs rt oem device other → a'.tryGetDevice other.dsid = some other ∧
      ∀ w, Listed a' w other.dsid ↔ Listed a w other.dsid)

/-! ## A move -/

/-- A device can be moved: it is present, its meter is known, and the zone is registered on the
meter or can be created there. -/
def accepts (rt : Runtime D) (a : Apartment D) (z : ℤ) (device : Device D) : Bool :=
  device.isPresent &&
    match a.getDSMeter rt device.dsMeterDSID with
    | .error _ => false
    | .ok meter =>
      ((a.tryGetZone z).any fun zone => meter.dsid ∈ zone.dsMeters) || meter.isPresent

def relist (z : ℤ) (device : Device D) (zone : Zone D) : List D :=
  let ids := if zone.id = z then zone.devices.erase device.dsid ++ [device.dsid] else zone.devices
  if zone.id = device.zoneID ∧ device.zoneID ≠ 0 then ids.erase device.dsid else ids

/-- What a move does. -/
structure Moved (z : ℤ) (device : Device D) (a a' : Apartment D) : Prop where
  devices : a'.devices = a.devices.map fun (other : Device D) =>
    if other.dsid = device.dsid then { other with zoneID := z } else other
  dsMeters : a'.dsMeters = a.dsMeters
  zones : ∃ f : Zone D → List D,
    a'.zones = a.zones.map (fun zone =>
      { zone with devices := relist z device zone, dsMeters := f zone }) ∧
    ∀ zone : Zone D, zone.id = z → device.zoneID ≠ z →
      f zone = zone.dsMeters ∨ f zone = zone.dsMeters ++ [device.dsMeterDSID]

/-- The part of a move behind the registration of the zone. -/
structure Changed (z : ℤ) (device : Device D) (a a' : Apartment D) : Prop where
  devices : a'.devices = a.devices.map fun (other : Device D) =>
    if other.dsid = device.dsid then { other with zoneID := z } else other
  dsMeters : a'.dsMeters = a.dsMeters
  zones : ∃ f : Zone D → List D,
    a'.zones = a.zones.map (fun zone =>
      { zone with devices := relist z device zone, dsMeters := f zone }) ∧
    ∀ zone : Zone D, zone.id ≠ device.zoneID → f zone = zone.dsMeters

def entered (z : ℤ) (device : Device D) (a : Apartment D) : Apartment D :=
  { a with
    devices := a.devices.map fun (other : Device D) =>
      if other.dsid = device.dsid then { other with zoneID := z } else other }.modifyZone z
    fun zone => { zone with devices := zone.devices.erase device.dsid ++ [device.dsid] }

theorem isSome_tryGetZone_entered : ((entered z device a).tryGetZone device.zoneID).isSome =
    (a.tryGetZone device.zoneID).isSome :=
  isSome_tryGetZone_modifyZone fun _ => rfl

theorem relist_of_not_left (zone : Zone D) (h : ¬ (zone.id = device.zoneID ∧ device.zoneID ≠ 0)) :
    (if zone.id = z then
        { zone with devices := zone.devices.erase device.dsid ++ [device.dsid] }
      else zone) =
      { zone with devices := relist z device zone, dsMeters := zone.dsMeters } := by
  dsimp only [relist]
  split_ifs <;> rfl

theorem changed_of_removeFromZone {b : Apartment D} (hold : device.zoneID ≠ 0)
    (h : (entered z device a).removeFromZone device.zoneID device.dsid = .ok b) :
    Changed z device a b := by
  rw [Apartment.removeFromZone] at h
  split at h
  · cases h
  · cases h
    refine ⟨rfl, rfl, Zone.dsMeters, ?_, fun _ _ => rfl⟩
    rw [entered, Apartment.modifyZone, Apartment.modifyZone, List.map_map]
    refine map_congr_left fun zone _ => ?_
    dsimp only [Function.comp_apply, relist]
    by_cases hz : zone.id = z
    · by_cases hzone : z = device.zoneID
      · simp [hz, hzone, hold]
      · simp [hz, hzone]
    · by_cases hzone : zone.id = device.zoneID
      · have hne : device.zoneID ≠ z := fun heq => hz (hzone.trans heq)
        simp [hzone, hold, hne]
      · simp [hz, hzone]

theorem changed_of_no_zone {failure : Failure}
    (h : (entered z device a).removeFromZone device.zoneID device.dsid = .error failure) :
    Changed z device a (entered z device a) := by
  rw [Apartment.removeFromZone] at h
  split at h
  · rename_i hnone
    refine ⟨rfl, rfl, Zone.dsMeters, map_congr_left fun zone hzone => ?_, fun _ _ => rfl⟩
    have hne : zone.id ≠ device.zoneID := by
      intro heq
      have hsome := @isSome_tryGetZone_entered D _ a device z
      rw [hnone] at hsome
      have hfind : a.tryGetZone device.zoneID = none :=
        isNone_iff_eq_none.mp (isSome_eq_false_iff.mp hsome.symm)
      exact find?_eq_none.mp hfind zone hzone (decide_eq_true heq)
    exact relist_of_not_left zone fun h => hne h.1
  · cases h

theorem changed_removeZoneOnDSMeter {b : Apartment D} {meter : D} (h : Changed z device a b) :
    Changed z device a (removeZoneOnDSMeter rt device.zoneID meter b) := by
  rw [removeZoneOnDSMeter]
  split_ifs
  · obtain ⟨f, hzones, hf⟩ := h.zones
    refine ⟨h.devices, h.dsMeters, fun zone =>
      if zone.id = device.zoneID then (f zone).erase meter else f zone, ?_, fun zone hne => ?_⟩
    · rw [Apartment.modifyZone, hzones, List.map_map]
      refine map_congr_left fun zone _ => ?_
      dsimp only [Function.comp_apply]
      split_ifs <;> rfl
    · dsimp only
      rw [if_neg hne, hf zone hne]
  · exact h

theorem changed_changeZone (rt : Runtime D) (device : Device D) (z : ℤ) (a : Apartment D) :
    Changed z device a (changeZone rt device z a).1 := by
  rw [changeZone]
  split_ifs with hold
  · refine ⟨rfl, rfl, Zone.dsMeters, map_congr_left fun zone _ => ?_, fun _ _ => rfl⟩
    exact relist_of_not_left zone fun h => h.2 hold
  · split
    · rename_i failure hfailure
      exact changed_of_no_zone hfailure
    · rename_i b hb
      have hchanged := changed_of_removeFromZone hold hb
      split_ifs
      · exact changed_removeZoneOnDSMeter hchanged
      · exact hchanged

theorem dsid_of_getDSMeter {meter : DSMeter D} (h : a.getDSMeter rt id = .ok meter) :
    meter.dsid = id := by
  rw [Apartment.getDSMeter] at h
  split at h
  · rename_i hfound
    cases h
    exact (KeyedList.key_of_find? hfound).2
  · cases h

def withMeter (z : ℤ) (meter : D) (zone : Zone D) : Zone D :=
  if zone.id = z then { zone with dsMeters := zone.dsMeters ++ [meter] } else zone

def registered (z : ℤ) (meter : D) (a : Apartment D) : Apartment D :=
  a.modifyZone z fun zone => { zone with dsMeters := zone.dsMeters ++ [meter] }

/-- **A move.** The device is moved if it can be, and nothing changes otherwise. -/
theorem addDeviceToZone_spec (rt : Runtime D) (device : Device D) (z : ℤ) (a : Apartment D) :
    (accepts rt a z device = true ∧ Moved z device a (addDeviceToZone rt device z a).1) ∨
      (accepts rt a z device = false ∧ (addDeviceToZone rt device z a).1 = a ∧
        (addDeviceToZone rt device z a).2 ≠ none) := by
  rw [addDeviceToZone, accepts]
  rcases hpresent : device.isPresent with - | -
  · exact Or.inr ⟨rfl, rfl, nofun⟩
  · rw [if_neg (by simp), Bool.true_and]
    rcases hmeter : a.getDSMeter rt device.dsMeterDSID with failure | meter
    · exact Or.inr ⟨rfl, rfl, nofun⟩
    · dsimp only
      have hdsid := dsid_of_getDSMeter hmeter
      split_ifs with hregistered habsent
      · refine Or.inl ⟨by rw [hregistered, Bool.true_or], ?_⟩
        obtain ⟨hdevices, hmeters, f, hzones, hf⟩ := changed_changeZone rt device z a
        exact ⟨hdevices, hmeters, f, hzones, fun zone hzone hne =>
          Or.inl (hf zone (hzone.trans_ne (Ne.symm hne)))⟩
      · refine Or.inr ⟨?_, rfl, nofun⟩
        rw [eq_false_of_ne_true hregistered, habsent, Bool.false_or]
      · refine Or.inl ⟨?_, ?_⟩
        · rw [eq_true_of_ne_false habsent, Bool.or_true]
        · obtain ⟨hdevices, hmeters, f, hzones, hf⟩ := changed_changeZone rt device z
            (registered z meter.dsid a)
          refine ⟨hdevices, hmeters, fun zone => f (withMeter z meter.dsid zone), ?_,
            fun zone hzone hne => Or.inr ?_⟩
          · rw [registered, Apartment.modifyZone, List.map_map] at hzones
            refine hzones.trans (map_congr_left fun zone _ => ?_)
            dsimp only [Function.comp_apply, withMeter, relist]
            split_ifs <;> rfl
          · have hwith : withMeter z meter.dsid zone =
                { zone with dsMeters := zone.dsMeters ++ [meter.dsid] } := if_pos hzone
            dsimp only
            rw [hwith, hf _ (by exact hzone.trans_ne (Ne.symm hne)), hdsid]

/-! ## What a move does to a device -/

theorem mem_relist_of_ne (hne : id ≠ device.dsid) (zone : Zone D) :
    id ∈ relist z device zone ↔ id ∈ zone.devices := by
  rw [relist]
  split_ifs <;> simp [mem_erase_of_ne hne, hne]

theorem mem_relist_self (hz : z ≠ 0) {zone : Zone D} (hnodup : zone.devices.Nodup) :
    device.dsid ∈ relist z device zone ↔ (zone.id = z ∧ device.zoneID ≠ z) ∨
      (zone.id ≠ z ∧ (zone.id ≠ device.zoneID ∨ zone.id = 0) ∧ device.dsid ∈ zone.devices) := by
  have hgone : device.dsid ∉ zone.devices.erase device.dsid := hnodup.not_mem_erase
  rw [relist]
  by_cases hzone : zone.id = z
  · by_cases hold : device.zoneID = z
    · have hleft : zone.id = device.zoneID ∧ device.zoneID ≠ 0 := ⟨hzone.trans hold.symm, hold ▸ hz⟩
      rw [if_pos hzone, if_pos hleft, erase_append_right _ hgone]
      simp [hgone, hold, hzone]
    · have hleft : ¬ (zone.id = device.zoneID ∧ device.zoneID ≠ 0) :=
        fun h => hold (h.1.symm.trans hzone)
      rw [if_neg hleft]
      simp [hzone, hold]
  · rw [if_neg hzone]
    by_cases hleft : zone.id = device.zoneID ∧ device.zoneID ≠ 0
    · simp [hgone, hleft.1, hleft.2]
    · rw [if_neg hleft]
      have hor : zone.id ≠ device.zoneID ∨ zone.id = 0 := by
        by_contra hnot
        rw [not_or, not_not] at hnot
        exact hleft ⟨hnot.1, fun hzero => hnot.2 (hnot.1.trans hzero)⟩
      simp [hzone, hor]

theorem nodup_relist {zone : Zone D} (hnodup : zone.devices.Nodup) :
    (relist z device zone).Nodup := by
  have hentered : (zone.devices.erase device.dsid ++ [device.dsid]).Nodup :=
    (hnodup.erase _).append (nodup_singleton _)
      (disjoint_singleton.mpr hnodup.not_mem_erase)
  rw [relist]
  split_ifs
  · exact hentered.erase _
  · exact hnodup.erase _
  · exact hentered
  · exact hnodup

namespace Moved

theorem tryGetDevice_of_ne (h : Moved z device a a') (hne : id ≠ device.dsid) :
    a'.tryGetDevice id = a.tryGetDevice id := by
  rw [Apartment.tryGetDevice, h.devices]
  exact KeyedList.find?_modify_of_ne (f := Device.dsid)
    (g := fun other => { other with zoneID := z }) (fun _ hkey => hkey) hne

theorem tryGetDevice_self (h : Moved z device a a')
    (hdevice : a.tryGetDevice device.dsid = some device) :
    a'.tryGetDevice device.dsid = some { device with zoneID := z } := by
  rw [Apartment.tryGetDevice, h.devices]
  have hfind := @KeyedList.find?_modify_self _ _ Device.dsid a.devices device.dsid _
    (fun other => { other with zoneID := z }) fun _ hkey => hkey
  exact hfind.trans (congrArg (Option.map _) hdevice)

theorem listed_iff (h : Moved z device a a') (w : ℤ) :
    Listed a' w id ↔ ∃ zone ∈ a.zones, zone.id = w ∧ id ∈ relist z device zone := by
  obtain ⟨f, hzones, -⟩ := h.zones
  rw [Listed, hzones]
  constructor
  · rintro ⟨zone', hzone', hid, hmem⟩
    obtain ⟨zone, hzone, rfl⟩ := mem_map.mp hzone'
    exact ⟨zone, hzone, hid, hmem⟩
  · rintro ⟨zone, hzone, hid, hmem⟩
    exact ⟨_, mem_map_of_mem hzone, hid, hmem⟩

theorem listed_of_ne (h : Moved z device a a') (hne : id ≠ device.dsid) (w : ℤ) :
    Listed a' w id ↔ Listed a w id := by
  rw [h.listed_iff, Listed]
  simp only [mem_relist_of_ne hne]

/-- A zone lists the device if it is the new one and not the old one; or as before, if it is
neither. -/
theorem listed_self (h : Moved z device a a') (hproper : a.Proper) (hz : z ≠ 0)
    (hzone : (a.tryGetZone z).isSome = true) (w : ℤ) :
    Listed a' w device.dsid ↔ (w = z ∧ device.zoneID ≠ z) ∨
      (w ≠ z ∧ (w ≠ device.zoneID ∨ w = 0) ∧ Listed a w device.dsid) := by
  rw [h.listed_iff]
  constructor
  · rintro ⟨zone, hmem, rfl, hlisted⟩
    rw [mem_relist_self hz (hproper.lists_nodup zone hmem)] at hlisted
    rcases hlisted with hnew | ⟨hne, hor, hlisted⟩
    · exact Or.inl hnew
    · exact Or.inr ⟨hne, hor, zone, hmem, rfl, hlisted⟩
  · rintro (⟨rfl, hold⟩ | ⟨hne, hor, zone, hmem, rfl, hlisted⟩)
    · obtain ⟨zone, hfound⟩ := isSome_iff_exists.mp hzone
      obtain ⟨hmem, hid⟩ := mem_of_tryGetZone hfound
      exact ⟨zone, hmem, hid, (mem_relist_self hz (hproper.lists_nodup zone hmem)).mpr
        (Or.inl ⟨hid, hold⟩)⟩
    · exact ⟨zone, hmem, rfl, (mem_relist_self hz (hproper.lists_nodup zone hmem)).mpr
        (Or.inr ⟨hne, hor, hlisted⟩)⟩

theorem proper (h : Moved z device a a') (hproper : a.Proper) : a'.Proper := by
  obtain ⟨f, hzones, -⟩ := h.zones
  refine ⟨?_, ?_, fun zone' hzone' => ?_⟩
  · have hmap := @KeyedList.map_modify _ _ Device.dsid a.devices device.dsid _
      (fun other => { other with zoneID := z }) fun _ => rfl
    rw [h.devices]
    exact hmap ▸ hproper.devices_nodup
  · rw [hzones, List.map_map]
    exact hproper.zones_nodup
  · rw [hzones] at hzone'
    obtain ⟨zone, hzone, rfl⟩ := mem_map.mp hzone'
    exact nodup_relist (hproper.lists_nodup zone hzone)

theorem tryGetZone (h : Moved z device a a') : ∃ f : Zone D → List D,
    (∀ w, a'.tryGetZone w = (a.tryGetZone w).map fun zone =>
      { zone with devices := relist z device zone, dsMeters := f zone }) ∧
    ∀ zone : Zone D, zone.id = z → device.zoneID ≠ z →
      f zone = zone.dsMeters ∨ f zone = zone.dsMeters ++ [device.dsMeterDSID] := by
  obtain ⟨f, hzones, hf⟩ := h.zones
  refine ⟨f, fun w => ?_, hf⟩
  rw [Apartment.tryGetZone, hzones, find?_map]
  rfl

theorem accepts_eq (h : Moved z device a a') (hself : accepts rt a z device = true)
    (hne : device.zoneID ≠ z) (other : Device D) :
    accepts rt a' z other = accepts rt a z other := by
  have hmeters : ∀ id, a'.getDSMeter rt id = a.getDSMeter rt id := by
    intro id
    rw [Apartment.getDSMeter, Apartment.getDSMeter, h.dsMeters]
  rw [accepts, accepts, hmeters]
  rcases hmeter : a.getDSMeter rt other.dsMeterDSID with failure | meter
  · rfl
  · dsimp only
    obtain ⟨f, hzones, hf⟩ := h.tryGetZone
    rw [hzones]
    rcases hzone : a.tryGetZone z with - | zone
    · rfl
    · rw [map_some, any_some, any_some]
      rcases hf zone (mem_of_tryGetZone hzone).2 hne with hsame | hmore
      · rw [hsame]
      · rw [hmore]
        -- the meter that is new is one that the device could move to
        by_cases heq : meter.dsid = device.dsMeterDSID
        · have hdevice : a.getDSMeter rt device.dsMeterDSID = .ok meter := by
            rw [← heq, dsid_of_getDSMeter hmeter]
            exact hmeter
          rw [accepts, hdevice, hzone, Bool.and_eq_true] at hself
          have hcan : (decide (meter.dsid ∈ zone.dsMeters) || meter.isPresent) = true := hself.2
          rw [hcan]
          simp [heq]
        · simp [heq]

end Moved

/-! ## Many moves -/

def attempt (rt : Runtime D) (z : ℤ) (a : Apartment D) (id : D) : Apartment D :=
  match a.tryGetDevice id with
  | none => a
  | some device => (addDeviceToZone rt device z a).1

def moves (rt : Runtime D) (a : Apartment D) (z : ℤ) (ids : List D) : List D :=
  ids.filter fun id => (a.tryGetDevice id).any fun device => accepts rt a z device

/-- A device that has the id of the zone, and is not listed there. -/
def Lost (a : Apartment D) (z : ℤ) (id : D) : Prop :=
  (∃ device, a.tryGetDevice id = some device ∧ device.zoneID = z) ∧ ¬ Listed a z id

theorem moves_cons_of_accepts (ids : List D) (hdevice : a.tryGetDevice id = some device)
    (haccepts : accepts rt a z device = true) :
    moves rt a z (id :: ids) = id :: moves rt a z ids := by
  rw [moves, filter_cons_of_pos]
  · rfl
  · rw [hdevice, any_some, haccepts]

theorem moves_cons_of_not (ids : List D)
    (h : ((a.tryGetDevice id).any fun device => accepts rt a z device) = false) :
    moves rt a z (id :: ids) = moves rt a z ids := by
  rw [moves, filter_cons_of_neg]
  · rfl
  · exact ne_true_of_eq_false h

theorem attempt_spec (rt : Runtime D) (z : ℤ) (a : Apartment D) (id : D) :
    (∃ device, a.tryGetDevice id = some device ∧ accepts rt a z device = true ∧
        Moved z device a (attempt rt z a id)) ∨
      (((a.tryGetDevice id).any fun device => accepts rt a z device) = false ∧
        attempt rt z a id = a) := by
  rw [attempt]
  rcases hdevice : a.tryGetDevice id with - | device
  · exact Or.inr ⟨rfl, rfl⟩
  · rcases addDeviceToZone_spec rt device z a with ⟨haccepts, hmoved⟩ | ⟨haccepts, hsame, -⟩
    · exact Or.inl ⟨device, rfl, haccepts, hmoved⟩
    · exact Or.inr ⟨haccepts, hsame⟩

section Attempts

variable {ids : List D}

structure Usable (a : Apartment D) (z : ℤ) : Prop where
  proper : a.Proper
  zone : (a.tryGetZone z).isSome = true

theorem Moved.usable (h : Moved z device a a') (ha : Usable a z) : Usable a' z := by
  obtain ⟨f, hzones, -⟩ := h.tryGetZone
  refine ⟨h.proper ha.proper, ?_⟩
  rw [hzones, isSome_map]
  exact ha.zone

theorem usable_attempt (ha : Usable a z) (id : D) : Usable (attempt rt z a id) z := by
  rcases attempt_spec rt z a id with ⟨device, -, -, hmoved⟩ | ⟨-, hsame⟩
  · exact hmoved.usable ha
  · rwa [hsame]

theorem lost_attempt (hz : z ≠ 0) (ha : Usable a z) (h : Lost a z id) (other : D) :
    Lost (attempt rt z a other) z id := by
  rcases attempt_spec rt z a other with ⟨device, hdevice, -, hmoved⟩ | ⟨-, hsame⟩
  · obtain rfl := (KeyedList.key_of_find? hdevice).2
    obtain ⟨⟨found, hfound, hzoneID⟩, hlisted⟩ := h
    by_cases hid : id = device.dsid
    · subst hid
      obtain rfl := some.inj (hfound.symm.trans hdevice)
      refine ⟨⟨_, hmoved.tryGetDevice_self hdevice, rfl⟩, fun hnew => ?_⟩
      rcases (hmoved.listed_self ha.proper hz ha.zone z).mp hnew with ⟨-, hne⟩ | ⟨hne, -⟩
      · exact hne hzoneID
      · exact hne rfl
    · refine ⟨⟨found, (hmoved.tryGetDevice_of_ne hid).trans hfound, hzoneID⟩, fun hnew => ?_⟩
      exact hlisted ((hmoved.listed_of_ne hid z).mp hnew)
  · rwa [hsame]

theorem lost_foldl (rt : Runtime D) (ids : List D) (hz : z ≠ 0) (ha : Usable a z)
    (h : Lost a z id) : Lost (ids.foldl (attempt rt z) a) z id := by
  induction ids generalizing a with
  | nil => exact h
  | cons other ids ih => exact ih (usable_attempt ha other) (lost_attempt hz ha h other)

theorem lost_of_same_zone (hz : z ≠ 0) (ha : Usable a z) (hdevice : a.tryGetDevice id = some device)
    (haccepts : accepts rt a z device = true) (hzone : device.zoneID = z) :
    Lost (attempt rt z a id) z id := by
  rcases attempt_spec rt z a id with ⟨found, hfound, -, hmoved⟩ | ⟨hnot, -⟩
  · obtain rfl := some.inj (hfound.symm.trans hdevice)
    obtain rfl := (KeyedList.key_of_find? hdevice).2
    refine ⟨⟨_, hmoved.tryGetDevice_self hdevice, rfl⟩, fun hnew => ?_⟩
    rcases (hmoved.listed_self ha.proper hz ha.zone z).mp hnew with ⟨-, hne⟩ | ⟨hne, -⟩
    · exact hne hzone
    · exact hne rfl
  · rw [hdevice, any_some, haccepts] at hnot
    cases hnot

/-- A device that was moved from another zone has its place; another one keeps its own. -/
structure Good (rt : Runtime D) (z : ℤ) (ids : List D) (a a' : Apartment D) : Prop where
  usable : Usable a' z
  accepts_eq : ∀ device, accepts rt a' z device = accepts rt a z device
  nodup : (moves rt a z ids).Nodup
  zoneID_ne : ∀ id ∈ moves rt a z ids, ∀ device, a.tryGetDevice id = some device →
    device.zoneID ≠ z
  others : ∀ id ∉ moves rt a z ids, a'.tryGetDevice id = a.tryGetDevice id ∧
    ∀ w, Listed a' w id ↔ Listed a w id
  moved : ∀ id ∈ moves rt a z ids, ∀ device, a.tryGetDevice id = some device →
    a'.tryGetDevice id = some { device with zoneID := z } ∧
      ∀ w, Listed a' w id ↔ w = z ∨ (w ≠ z ∧ (w ≠ device.zoneID ∨ w = 0) ∧ Listed a w id)

theorem Good.congr {ids' : List D} (h : Good rt z ids a a')
    (heq : moves rt a z ids = moves rt a z ids') : Good rt z ids' a a' :=
  ⟨h.usable, h.accepts_eq, heq ▸ h.nodup, heq ▸ h.zoneID_ne, heq ▸ h.others, heq ▸ h.moved⟩

theorem moves_eq (h : Moved z device a a') (hdevice : a.tryGetDevice device.dsid = some device)
    (haccepts : accepts rt a z device = true) (hne : device.zoneID ≠ z) :
    moves rt a' z ids = moves rt a z ids := by
  refine filter_congr fun id _ => ?_
  have heq : (fun other => accepts rt a' z other) = fun other => accepts rt a z other :=
    funext fun other => h.accepts_eq haccepts hne other
  rw [heq]
  by_cases hid : id = device.dsid
  · rw [hid, h.tryGetDevice_self hdevice, hdevice]
    rfl
  · rw [h.tryGetDevice_of_ne hid]

/-- One more move in front. -/
theorem Good.cons (hz : z ≠ 0) (h : Moved z device a a') (ha : Usable a z)
    (hdevice : a.tryGetDevice device.dsid = some device) (haccepts : accepts rt a z device = true)
    (hne : device.zoneID ≠ z) {a'' : Apartment D} (hgood : Good rt z ids a' a'') :
    Good rt z (device.dsid :: ids) a a'' := by
  have hmoves : moves rt a z (device.dsid :: ids) = device.dsid :: moves rt a' z ids := by
    rw [moves_eq h hdevice haccepts hne, moves_cons_of_accepts ids hdevice haccepts]
  -- it is not moved again, as it would be moved out of the zone
  have hnot : device.dsid ∉ moves rt a' z ids := fun hmem =>
    hgood.zoneID_ne _ hmem _ (h.tryGetDevice_self hdevice) rfl
  refine ⟨hgood.usable, fun other => ?_, ?_, ?_, ?_, ?_⟩
  · rw [hgood.accepts_eq, h.accepts_eq haccepts hne]
  · rw [hmoves]
    exact nodup_cons.mpr ⟨hnot, hgood.nodup⟩
  · rw [hmoves]
    intro id hid found hfound
    rcases mem_cons.mp hid with rfl | hid
    · obtain rfl := some.inj (hdevice.symm.trans hfound)
      exact hne
    · have hidne : id ≠ device.dsid := fun heq => hnot (heq ▸ hid)
      exact hgood.zoneID_ne id hid found ((h.tryGetDevice_of_ne hidne).trans hfound)
  · rw [hmoves]
    intro id hid
    rw [mem_cons, not_or] at hid
    obtain ⟨hfound, hlisted⟩ := hgood.others id hid.2
    exact ⟨hfound.trans (h.tryGetDevice_of_ne hid.1), fun w =>
      (hlisted w).trans (h.listed_of_ne hid.1 w)⟩
  · rw [hmoves]
    intro id hid found hfound
    rcases mem_cons.mp hid with rfl | hid
    · obtain rfl := some.inj (hdevice.symm.trans hfound)
      obtain ⟨hsame, hlisted⟩ := hgood.others _ hnot
      refine ⟨hsame.trans (h.tryGetDevice_self hdevice), fun w => (hlisted w).trans ?_⟩
      rw [h.listed_self ha.proper hz ha.zone, and_iff_left hne]
    · have hidne : id ≠ device.dsid := fun heq => hnot (heq ▸ hid)
      obtain ⟨hsame, hlisted⟩ := hgood.moved id hid found
        ((h.tryGetDevice_of_ne hidne).trans hfound)
      refine ⟨hsame, fun w => (hlisted w).trans ?_⟩
      rw [h.listed_of_ne hidne]

/-- **Many moves.** All of them go well, or one device that is moved is lost: it was in the zone,
or is moved twice. -/
theorem attempts_spec (rt : Runtime D) (ids : List D) (hz : z ≠ 0) (ha : Usable a z) :
    Good rt z ids a (ids.foldl (attempt rt z) a) ∨
    ∃ id ∈ moves rt a z ids, Lost (ids.foldl (attempt rt z) a) z id ∧
      (1 < (moves rt a z ids).count id ∨
        ∃ device, a.tryGetDevice id = some device ∧ device.zoneID = z) := by
  induction ids generalizing a with
  | nil =>
    exact Or.inl ⟨ha, fun _ => rfl, nodup_nil, nofun, fun _ _ => ⟨rfl, fun _ => Iff.rfl⟩,
      nofun⟩
  | cons id ids ih =>
    rw [foldl_cons]
    rcases attempt_spec rt z a id with ⟨device, hdevice, haccepts, hmoved⟩ | ⟨hnot, hsame⟩
    · have hmoves := moves_cons_of_accepts ids hdevice haccepts
      obtain rfl := (KeyedList.key_of_find? hdevice).2
      by_cases hzone : device.zoneID = z
      · refine Or.inr ⟨device.dsid, ?_, ?_, Or.inr ⟨device, hdevice, hzone⟩⟩
        · rw [hmoves]
          exact mem_cons_self
        · exact lost_foldl rt ids hz (usable_attempt ha _)
            (lost_of_same_zone hz ha hdevice haccepts hzone)
      · rcases ih (usable_attempt ha device.dsid) with hgood | ⟨id, hid, hlost, hwhy⟩
        · exact Or.inl (Good.cons hz hmoved ha hdevice haccepts hzone hgood)
        · rw [moves_eq hmoved hdevice haccepts hzone] at hid hwhy
          rw [hmoves]
          refine Or.inr ⟨id, mem_cons_of_mem _ hid, hlost, ?_⟩
          rcases hwhy with hcount | ⟨found, hfound, hfoundZone⟩
          · exact Or.inl (Nat.lt_of_lt_of_le hcount count_le_count_cons)
          · by_cases hidne : id = device.dsid
            · subst hidne
              rw [count_cons_self]
              exact Or.inl (Nat.succ_lt_succ (count_pos_iff.mpr hid))
            · exact Or.inr ⟨found, (hmoved.tryGetDevice_of_ne hidne).symm.trans hfound, hfoundZone⟩
    · have hmoves := moves_cons_of_not ids hnot
      rw [hsame, hmoves]
      rcases ih ha with hgood | hlost
      · exact Or.inl (hgood.congr hmoves.symm)
      · exact Or.inr hlost

end Attempts

/-! ## The attempts of a request -/

def companions (rt : Runtime D) (oem : D → OemInfo) (a : Apartment D) (device : Device D) :
    List D :=
  if device.is2WayMaster then [rt.nextDsuid device.dsid]
  else if (oem device.dsid).isValid then
    (a.devices.filter fun other => isOemCoupledWith oem device other).map Device.dsid
  else if device.isMainDevice then
    (behind rt device.pairedDevices device.dsid).filter fun id =>
      (a.tryGetDevice id).any fun other => !other.isVisible
  else []

def attempts (rt : Runtime D) (oem : D → OemInfo) (a : Apartment D) (device : Device D) : List D :=
  device.dsid :: companions rt oem a device

def SameButZones (a a' : Apartment D) : Prop :=
  ∀ id, (a'.tryGetDevice id).map (fun device => { device with zoneID := 0 }) =
    (a.tryGetDevice id).map fun device => { device with zoneID := 0 }

theorem sameButZones_attempt (rt : Runtime D) (z : ℤ) (a : Apartment D) (id : D) :
    SameButZones a (attempt rt z a id) := by
  intro other
  rcases attempt_spec rt z a id with ⟨device, hdevice, -, hmoved⟩ | ⟨-, hsame⟩
  · obtain rfl := (KeyedList.key_of_find? hdevice).2
    by_cases hother : other = device.dsid
    · rw [hother, hmoved.tryGetDevice_self hdevice, hdevice]
      rfl
    · rw [hmoved.tryGetDevice_of_ne hother]
  · rw [hsame]

theorem SameButZones.any_eq (h : SameButZones a a') {p : Device D → Bool}
    (hp : ∀ device : Device D, p { device with zoneID := 0 } = p device) (id : D) :
    (a'.tryGetDevice id).any p = (a.tryGetDevice id).any p := by
  have hany : ∀ found : Option (Device D),
      (found.map fun device => { device with zoneID := 0 }).any p = found.any p := by
    intro found
    cases found with
    | none => rfl
    | some device => exact hp device
  rw [← hany, h id, hany]

theorem SameButZones.filter_eq (h : SameButZones a a') {p : Device D → Bool}
    (hp : ∀ device : Device D, p { device with zoneID := 0 } = p device) (ids : List D) :
    (ids.filter fun id => (a'.tryGetDevice id).any p) =
      ids.filter fun id => (a.tryGetDevice id).any p :=
  filter_congr fun id _ => h.any_eq hp id

theorem foldl_addPaired (n : ℕ) (current : D) (a : Apartment D) :
    addPaired rt z n current a = ((behind rt n current).filter fun id =>
      (a.tryGetDevice id).any fun other => !other.isVisible).foldl (attempt rt z) a := by
  induction n generalizing current a with
  | zero => rfl
  | succ n ih =>
    rw [addPaired, behind, filter_cons]
    rcases hpartner : a.tryGetDevice (rt.nextDsuid current) with - | partner
    · simp [ih]
    · rcases hvisible : partner.isVisible with - | -
      · have hattempt : attempt rt z a (rt.nextDsuid current) =
            (addDeviceToZone rt partner z a).1 := by
          rw [attempt, hpartner]
        have hfilter := (sameButZones_attempt rt z a (rt.nextDsuid current)).filter_eq
          (p := fun other => !other.isVisible) (fun _ => rfl)
          (behind rt n (rt.nextDsuid current))
        simp [hvisible, ih, ← hattempt, hfilter]
      · simp [hvisible, ih]

theorem foldl_addCoupled {ids movedDevices result : List D}
    (h : (addCoupled rt oem device z ids movedDevices a).2 = .ok result) :
    (addCoupled rt oem device z ids movedDevices a).1 = (ids.filter fun id =>
      (a.tryGetDevice id).any fun other => isOemCoupledWith oem device other).foldl
        (attempt rt z) a := by
  induction ids generalizing a movedDevices with
  | nil => rfl
  | cons id ids ih =>
    rw [addCoupled] at h ⊢
    rw [filter_cons]
    rcases hother : a.tryGetDevice id with - | other
    · rw [hother] at h
      simpa using ih h
    · rw [hother] at h
      dsimp only at h ⊢
      rcases hcoupled : isOemCoupledWith oem device other with - | -
      · rw [hcoupled] at h
        simpa [hcoupled] using ih h
      · rw [hcoupled] at h
        have hattempt : attempt rt z a id = (addDeviceToZone rt other z a).1 := by
          rw [attempt, hother]
        have hfilter := (sameButZones_attempt rt z a id).filter_eq
          (p := fun other => isOemCoupledWith oem device other) (fun _ => rfl) ids
        rcases hadd : addDeviceToZone rt other z a with ⟨a', - | failure⟩
        · rw [hadd] at h hattempt
          simp only [hcoupled, if_true, any_some, foldl_cons, hattempt]
          rw [← hfilter, hattempt]
          exact ih h
        · rw [hadd] at h
          cases h

theorem filter_coupled (hproper : a.Proper) :
    ((a.devices.map Device.dsid).filter fun id =>
      (a.tryGetDevice id).any fun other => isOemCoupledWith oem device other) =
    (a.devices.filter fun other => isOemCoupledWith oem device other).map Device.dsid := by
  rw [List.filter_map]
  refine congrArg (map _) (filter_congr fun other hother => ?_)
  have hfound : a.tryGetDevice other.dsid = some other :=
    (tryGetDevice_eq_some_iff hproper.devices_nodup).mpr ⟨hother, rfl⟩
  rw [Function.comp_apply, hfound, any_some]

theorem map_dsid_attempt (z : ℤ) (a : Apartment D) (id : D) :
    (attempt rt z a id).devices.map Device.dsid = a.devices.map Device.dsid := by
  rcases attempt_spec rt z a id with ⟨device, -, -, hmoved⟩ | ⟨-, hsame⟩
  · rw [hmoved.devices]
    exact KeyedList.map_modify (f := Device.dsid) (g := fun other => { other with zoneID := z })
      fun _ => rfl
  · rw [hsame]

theorem ofFailure_ne_ok {D : Type} (failure : Failure) (movedDevices : List D) :
    Answer.ofFailure failure ≠ .ok movedDevices := by
  rcases failure with e | -
  · cases e <;> exact nofun
  · exact nofun

theorem filter_coupled_eq_nil (h : ¬ (0 < (oem device.dsid).serialNumber ∧
      (oem device.dsid).isIndependent = false)) (devices : List (Device D)) :
    (devices.filter fun other => isOemCoupledWith oem device other) = [] := by
  refine filter_eq_nil_iff.mpr fun other _ hcoupled => h ?_
  simp only [isOemCoupledWith, Bool.and_eq_true, Bool.not_eq_true', decide_eq_true_iff] at hcoupled
  tauto

theorem foldl_addOthers {movedDevices : List D} (hproper : a.Proper) (hlike : SameButZones a a')
    (hmap : a'.devices.map Device.dsid = a.devices.map Device.dsid)
    (h : (addOthers rt oem device z a').2 = .ok movedDevices) :
    (addOthers rt oem device z a').1 = (companions rt oem a device).foldl (attempt rt z) a' := by
  rw [addOthers] at h ⊢
  rw [companions]
  split_ifs at h ⊢ with hmaster hvalid hserial hmain hmain'
  · rw [addPartner] at h ⊢
    rcases hpartner : a'.tryGetDevice (rt.nextDsuid device.dsid) with - | partner
    · rw [hpartner] at h
      cases h
    · rw [hpartner] at h
      dsimp only at h ⊢
      rcases hadd : addDeviceToZone rt partner z a' with ⟨a'', - | failure⟩
      · rw [foldl_cons, foldl_nil, attempt, hpartner]
        dsimp only
        rw [hadd]
      · rw [hadd] at h
        cases h
  · rcases hadd : addCoupled rt oem device z (a'.devices.map Device.dsid) [device.dsid] a'
      with ⟨a'', failure | moved⟩
    · rw [hadd] at h
      exact absurd h (ofFailure_ne_ok failure _)
    · have hall : (addCoupled rt oem device z (a'.devices.map Device.dsid) [device.dsid] a').2 =
          .ok moved := by rw [hadd]
      have hfold := foldl_addCoupled hall
      rw [hadd, hmap, hlike.filter_eq (fun _ => rfl), filter_coupled hproper] at hfold
      exact hfold
  · rw [filter_coupled_eq_nil hserial]
    rfl
  · rw [foldl_addPaired, hlike.filter_eq (fun _ => rfl)]
  · exact absurd hmain.1 hmain'
  · rename_i hyes
    have hzero : device.pairedDevices = 0 := by
      by_contra hne
      exact hmain ⟨hyes, Nat.pos_of_ne_zero hne⟩
    rw [hzero]
    rfl
  · rfl

theorem foldl_zoneAddDevice {text : String} {movedDevices : List D} (hproper : a.Proper)
    (hdevice : a.tryGetDevice device.dsid = some device) (htext : parseInt? text = some z)
    (h : (zoneAddDevice rt oem device.dsid text a).2 = .ok movedDevices) :
    z ≠ 0 ∧ (a.tryGetZone z).isSome = true ∧ device.zoneID ≠ z ∧
      (zoneAddDevice rt oem device.dsid text a).1 =
        (attempts rt oem a device).foldl (attempt rt z) a := by
  have hget : a.getDevice rt device.dsid = .ok device := by rw [Apartment.getDevice, hdevice]
  have hparse : strToInt text = .ok z := by rw [strToInt, htext]
  rw [zoneAddDevice, hget, hparse] at h ⊢
  dsimp only at h ⊢
  split_ifs at h ⊢ with hpresent hempty hsmall hsame
  rcases hzone : a.tryGetZone z with - | zone
  · rw [hzone] at h
    dsimp only at h
    exact absurd h (ofFailure_ne_ok _ _)
  · rw [hzone] at h
    rcases hadd : addDeviceToZone rt device z a with ⟨a', - | failure⟩
    · rw [hadd] at h
      have hattempt : attempt rt z a device.dsid = a' := by
        rw [attempt, hdevice]
        dsimp only
        rw [hadd]
      refine ⟨fun hzero => hsmall (by omega), rfl, hsame, ?_⟩
      rw [attempts, foldl_cons, hattempt]
      refine foldl_addOthers hproper ?_ ?_ h
      · rw [← hattempt]
        exact sameButZones_attempt rt z a device.dsid
      · rw [← hattempt]
        exact map_dsid_attempt z a device.dsid
    · rw [hadd] at h
      exact absurd h (ofFailure_ne_ok failure _)

/-! ## Who is moved -/

def times (rt : Runtime D) (oem : D → OemInfo) (a : Apartment D) (z : ℤ)
    (device other : Device D) : ℕ :=
  if accepts rt a z other = true then (attempts rt oem a device).count other.dsid else 0

/-- Those that belong to the device are moved once, from another zone, and not listed in a third
one; or they are in the zone already. The others are not moved, or are lost in the zone. -/
def Suits (rt : Runtime D) (oem : D → OemInfo) (device : Device D) (z : ℤ) (a : Apartment D) :
    Prop :=
  ∀ other ∈ a.devices,
    (Belongs rt oem device other →
      (times rt oem a z device other = 0 ∧ Placed a z other.dsid) ∨
      (times rt oem a z device other = 1 ∧ other.zoneID ≠ z ∧
        ∀ w, Listed a w other.dsid → w = 0 ∨ w = z ∨ w = other.zoneID)) ∧
    (¬ Belongs rt oem device other →
      times rt oem a z device other = 0 ∨ (other.zoneID = z ∧ ¬ Listed a z other.dsid))

theorem placed_iff (hz : z ≠ 0) (ha : Usable a z) : Placed a z id ↔
    (∃ device, a.tryGetDevice id = some device ∧ device.zoneID = z) ∧ Listed a z id ∧
      ∀ w, w ≠ 0 → w ≠ z → ¬ Listed a w id := by
  refine and_congr_right fun _ => ?_
  constructor
  · intro hcount
    refine ⟨?_, ?_⟩
    · obtain ⟨zone, hfound⟩ := isSome_iff_exists.mp ha.zone
      obtain ⟨hmem, hid⟩ := mem_of_tryGetZone hfound
      have hone := hcount zone hmem (hid.trans_ne hz)
      rw [if_pos hid] at hone
      exact ⟨zone, hmem, hid, count_pos_iff.mp (by omega)⟩
    · rintro w hzero hne ⟨zone, hmem, rfl, hlisted⟩
      have hnone := hcount zone hmem hzero
      rw [if_neg hne] at hnone
      exact count_eq_zero.mp hnone hlisted
  · rintro ⟨⟨zone', hmem', hid', hlisted'⟩, hothers⟩ zone hmem hzero
    by_cases hid : zone.id = z
    · obtain rfl := inj_on_of_nodup_map ha.proper.zones_nodup hmem hmem'
        (hid.trans hid'.symm)
      rw [if_pos hid]
      exact count_eq_one_of_mem (ha.proper.lists_nodup zone hmem) hlisted'
    · rw [if_neg hid]
      exact count_eq_zero.mpr fun hlisted =>
        hothers zone.id hzero hid ⟨zone, hmem, rfl, hlisted⟩

omit [DecidableEq D] in
theorem behind_succ (rt : Runtime D) (n : ℕ) (current : D) :
    ∃ last, behind rt (n + 1) current = behind rt n current ++ [last] := by
  induction n generalizing current with
  | zero => exact ⟨_, rfl⟩
  | succ n ih =>
    obtain ⟨last, hlast⟩ := ih (rt.nextDsuid current)
    refine ⟨last, ?_⟩
    rw [behind, hlast, behind, List.cons_append]

def Related (rt : Runtime D) (oem : D → OemInfo) (device other : Device D) : Prop :=
  other.dsid = device.dsid ∨ Coupled rt oem device other

def AllRelated (rt : Runtime D) (oem : D → OemInfo) (a : Apartment D) (device : Device D)
    (ids : List D) : Prop :=
  ∀ id ∈ ids, ∀ other, a.tryGetDevice id = some other → Related rt oem device other

theorem allRelated_cons {ids : List D} (h : AllRelated rt oem a device ids) :
    AllRelated rt oem a device (device.dsid :: ids) := by
  intro id hid other hother
  rcases mem_cons.mp hid with rfl | hid
  · exact Or.inl (KeyedList.key_of_find? hother).2
  · exact h id hid other hother

theorem allRelated_paired (rt : Runtime D) (oem : D → OemInfo) (a : Apartment D)
    (hmain : device.isMainDevice = true) :
    AllRelated rt oem a device ((behind rt (device.pairedDevices - 1) device.dsid).filter fun id =>
      (a.tryGetDevice id).any fun other => !other.isVisible) := by
  intro id hid other hother
  obtain ⟨hmem, hvisible⟩ := mem_filter.mp hid
  rw [hother, any_some, Bool.not_eq_true'] at hvisible
  rw [← (KeyedList.key_of_find? hother).2] at hmem
  exact Or.inr (Or.inr (Or.inr (Or.inr ⟨hmain, hmem, hvisible⟩)))

/-- At most the last attempt is made for a device that is not related. -/
def Splits (rt : Runtime D) (oem : D → OemInfo) (a : Apartment D) (device : Device D)
    (ids : List D) : Prop :=
  ∃ front back, ids = front ++ back ∧ back.length ≤ 1 ∧ AllRelated rt oem a device front ∧
    ∀ id ∈ back, ∀ other, a.tryGetDevice id = some other → ¬ Related rt oem device other

theorem splits_of_allRelated {ids : List D} (h : AllRelated rt oem a device ids) :
    Splits rt oem a device (device.dsid :: ids) :=
  ⟨_, [], (append_nil _).symm, Nat.zero_le 1, allRelated_cons h, nofun⟩

theorem splits_attempts (rt : Runtime D) (oem : D → OemInfo) (device : Device D)
    (hproper : a.Proper) : Splits rt oem a device (attempts rt oem a device) := by
  rw [attempts, companions]
  split_ifs with hmaster hvalid hmain
  · refine splits_of_allRelated fun id hid other hother => Or.inr (Or.inl ⟨hmaster, ?_⟩)
    exact (KeyedList.key_of_find? hother).2.trans (mem_singleton.mp hid)
  · refine splits_of_allRelated fun id hid other hother =>
      Or.inr (Or.inr (Or.inr (Or.inl ?_)))
    obtain ⟨found, hfound, rfl⟩ := mem_map.mp hid
    obtain ⟨hmem, hcoupled⟩ := mem_filter.mp hfound
    have hsame := (tryGetDevice_eq_some_iff hproper.devices_nodup).mpr ⟨hmem, rfl⟩
    obtain rfl := some.inj (hsame.symm.trans hother)
    exact hcoupled
  · rcases hpaired : device.pairedDevices with - | n
    · exact splits_of_allRelated nofun
    · obtain ⟨last, hlast⟩ := behind_succ rt n device.dsid
      have hfront := allRelated_paired rt oem a hmain
      rw [hpaired] at hfront
      rw [hlast, filter_append]
      by_cases hrelated : AllRelated rt oem a device ([last].filter fun id =>
          (a.tryGetDevice id).any fun other => !other.isVisible)
      · refine splits_of_allRelated fun id hid => ?_
        rcases mem_append.mp hid with hid | hid
        · exact hfront id hid
        · exact hrelated id hid
      · refine ⟨device.dsid :: _, _, (cons_append).symm, length_filter_le _ _,
          allRelated_cons hfront, ?_⟩
        intro id hid other hother hyes
        refine hrelated fun id' hid' other' hother' => ?_
        obtain rfl := mem_singleton.mp (mem_of_mem_filter hid)
        obtain rfl := mem_singleton.mp (mem_of_mem_filter hid')
        obtain rfl := some.inj (hother.symm.trans hother')
        exact hyes
  · exact splits_of_allRelated nofun

/-! ## What the request does -/

theorem count_moves (hproper : a.Proper) (hother : other ∈ a.devices) (ids : List D) :
    (moves rt a z ids).count other.dsid =
      if accepts rt a z other = true then ids.count other.dsid else 0 := by
  have hfound := (tryGetDevice_eq_some_iff hproper.devices_nodup).mpr ⟨hother, rfl⟩
  split_ifs with haccepts
  · exact count_filter (by rw [hfound, any_some, haccepts])
  · refine count_eq_zero.mpr fun hmem => haccepts ?_
    have hany := (mem_filter.mp hmem).2
    rwa [hfound] at hany

theorem exists_of_mem_moves {ids : List D} (h : id ∈ moves rt a z ids) :
    id ∈ ids ∧ ∃ other, a.tryGetDevice id = some other ∧ accepts rt a z other = true ∧
      other.isPresent = true := by
  obtain ⟨hmem, hany⟩ := mem_filter.mp h
  rcases hother : a.tryGetDevice id with - | other
  · rw [hother] at hany
    cases hany
  · rw [hother, any_some] at hany
    refine ⟨hmem, other, rfl, hany, ?_⟩
    rw [accepts, Bool.and_eq_true] at hany
    exact hany.1

theorem attempt_frame {other : D} (hne : id ≠ other) :
    (attempt rt z a other).tryGetDevice id = a.tryGetDevice id ∧
      ∀ w, Listed (attempt rt z a other) w id ↔ Listed a w id := by
  rcases attempt_spec rt z a other with ⟨found, hfound, -, hmoved⟩ | ⟨-, hsame⟩
  · obtain rfl := (KeyedList.key_of_find? hfound).2
    exact ⟨hmoved.tryGetDevice_of_ne hne, hmoved.listed_of_ne hne⟩
  · rw [hsame]
    exact ⟨rfl, fun _ => Iff.rfl⟩

section Request

variable {front back : List D}

theorem placed_congr (hdevice : a'.tryGetDevice id = a.tryGetDevice id)
    (hlisted : ∀ w, Listed a' w id ↔ Listed a w id) (hz : z ≠ 0) (ha : Usable a z)
    (ha' : Usable a' z) : Placed a' z id ↔ Placed a z id := by
  rw [placed_iff hz ha', placed_iff hz ha, hdevice]
  simp only [hlisted]

theorem placed_of_moved (hz : z ≠ 0) (ha' : Usable a' z)
    (hdevice : a'.tryGetDevice id = some { other with zoneID := z })
    (hlisted : ∀ w, Listed a' w id ↔
      w = z ∨ (w ≠ z ∧ (w ≠ other.zoneID ∨ w = 0) ∧ Listed a w id)) :
    Placed a' z id ↔ ∀ w, Listed a w id → w = 0 ∨ w = z ∨ w = other.zoneID := by
  rw [placed_iff hz ha']
  constructor
  · rintro ⟨-, -, hnone⟩ w hw
    by_contra hnot
    rw [not_or, not_or] at hnot
    exact hnone w hnot.1 hnot.2.1 ((hlisted w).mpr (Or.inr ⟨hnot.2.1, Or.inl hnot.2.2, hw⟩))
  · intro hall
    refine ⟨⟨_, hdevice, rfl⟩, (hlisted z).mpr (Or.inl rfl), fun w hzero hne hw => ?_⟩
    rcases (hlisted w).mp hw with heq | ⟨-, hold, hlist⟩
    · exact hne heq
    · rcases hall w hlist with heq | heq | heq
      · exact hzero heq
      · exact hne heq
      · exact hold.elim (fun h => h heq) hzero

theorem unchanged_iff (hz : z ≠ 0) (ha : Usable a z) (h : Moved z device a a')
    (hdevice : a.tryGetDevice device.dsid = some device) :
    (a'.tryGetDevice device.dsid = some device ∧
      ∀ w, Listed a' w device.dsid ↔ Listed a w device.dsid) ↔
    device.zoneID = z ∧ ¬ Listed a z device.dsid := by
  rw [h.tryGetDevice_self hdevice]
  have hlisted := h.listed_self ha.proper hz ha.zone
  constructor
  · rintro ⟨hsame, hzones⟩
    have hzone : device.zoneID = z := (congrArg Device.zoneID (some.inj hsame)).symm
    refine ⟨hzone, fun hlist => ?_⟩
    rcases (hlisted z).mp ((hzones z).mpr hlist) with ⟨-, hne⟩ | ⟨hne, -⟩
    · exact hne hzone
    · exact hne rfl
  · rintro ⟨rfl, hnot⟩
    refine ⟨rfl, fun w => (hlisted w).trans ?_⟩
    by_cases hw : w = device.zoneID
    · subst hw
      simp [hnot]
    · simp [hw]

theorem usable_foldl (rt : Runtime D) (ha : Usable a z) (ids : List D) :
    Usable (ids.foldl (attempt rt z) a) z := by
  induction ids generalizing a with
  | nil => exact ha
  | cons id ids ih => exact ih (usable_attempt ha id)

theorem foldl_frame (rt : Runtime D) {ids : List D} (hlength : ids.length ≤ 1) (hid : id ∉ ids) :
    (ids.foldl (attempt rt z) a).tryGetDevice id = a.tryGetDevice id ∧
      ∀ w, Listed (ids.foldl (attempt rt z) a) w id ↔ Listed a w id := by
  match ids, hlength with
  | [], _ => exact ⟨rfl, fun _ => Iff.rfl⟩
  | [other], _ => exact attempt_frame fun heq => hid (mem_singleton.mpr heq)

theorem foldl_rejected (rt : Runtime D) (id : D) {ids : List D} (hlength : ids.length ≤ 1)
    (hid : id ∈ ids → ((a.tryGetDevice id).any fun device => accepts rt a z device) = false) :
    (ids.foldl (attempt rt z) a).tryGetDevice id = a.tryGetDevice id ∧
      ∀ w, Listed (ids.foldl (attempt rt z) a) w id ↔ Listed a w id := by
  by_cases hmem : id ∈ ids
  · match ids, hlength with
    | [other], _ =>
      obtain rfl := mem_singleton.mp hmem
      rw [foldl_cons]
      rcases attempt_spec rt z a id with ⟨device, hdevice, haccepts, -⟩ | ⟨-, hsame⟩
      · have hnone := hid hmem
        rw [hdevice, any_some, haccepts] at hnone
        cases hnone
      · rw [hsame]
        exact ⟨rfl, fun _ => Iff.rfl⟩
  · exact foldl_frame rt hlength hmem

theorem times_eq (hproper : a.Proper) (hother : other ∈ a.devices)
    (hsplit : attempts rt oem a device = front ++ back) :
    times rt oem a z device other =
      (moves rt a z front).count other.dsid + (moves rt a z back).count other.dsid := by
  rw [times, hsplit, count_append, count_moves hproper hother, count_moves hproper hother]
  split_ifs <;> rfl

theorem not_suits_of_lost (hz : z ≠ 0) (ha : Usable a z)
    (hsplit : attempts rt oem a device = front ++ back) (hfront : AllRelated rt oem a device front)
    (hid : id ∈ moves rt a z front) (hlost : Lost (front.foldl (attempt rt z) a) z id)
    (hwhy : 1 < (moves rt a z front).count id ∨
      ∃ device, a.tryGetDevice id = some device ∧ device.zoneID = z) :
    ¬ MovesTogether rt oem device z a ((front ++ back).foldl (attempt rt z) a) ∧
      ¬ Suits rt oem device z a := by
  obtain ⟨hmem, other, hother, haccepts, hpresent⟩ := exists_of_mem_moves hid
  obtain ⟨hdevices, rfl⟩ := (tryGetDevice_eq_some_iff ha.proper.devices_nodup).mp hother
  have hbelongs : Belongs rt oem device other :=
    (hfront _ hmem other hother).imp_right fun hcoupled => ⟨hcoupled, hpresent⟩
  have htimes := times_eq (z := z) ha.proper hdevices hsplit
  have hcount : 0 < (moves rt a z front).count other.dsid := count_pos_iff.mpr hid
  refine ⟨fun hall => ?_, fun hsuits => ?_⟩
  · have hplaced := (hall other hdevices).1 hbelongs
    rw [foldl_append] at hplaced
    have husable := usable_foldl rt ha front
    have hlost' := lost_foldl rt back hz husable hlost
    exact hlost'.2 ((placed_iff hz (usable_foldl rt husable back)).mp hplaced).2.1
  · rcases (hsuits other hdevices).1 hbelongs with ⟨hzero, -⟩ | ⟨hone, hne, -⟩
    · omega
    · rcases hwhy with hmany | ⟨found, hfound, hzone⟩
      · omega
      · obtain rfl := some.inj (hother.symm.trans hfound)
        exact hne hzone

theorem placed_iff_suits (hz : z ≠ 0) (ha : Usable a z)
    (hgood : Good rt z front a a') (hother : other ∈ a.devices) :
    Placed a' z other.dsid ↔
      ((moves rt a z front).count other.dsid = 0 ∧ Placed a z other.dsid) ∨
      ((moves rt a z front).count other.dsid = 1 ∧ other.zoneID ≠ z ∧
        ∀ w, Listed a w other.dsid → w = 0 ∨ w = z ∨ w = other.zoneID) := by
  have hfound := (tryGetDevice_eq_some_iff ha.proper.devices_nodup).mpr ⟨hother, rfl⟩
  by_cases hmem : other.dsid ∈ moves rt a z front
  · obtain ⟨hdevice, hlisted⟩ := hgood.moved _ hmem other hfound
    rw [placed_of_moved hz hgood.usable hdevice hlisted,
      count_eq_one_of_mem hgood.nodup hmem]
    simp [hgood.zoneID_ne _ hmem other hfound]
  · obtain ⟨hdevice, hlisted⟩ := hgood.others _ hmem
    rw [placed_congr hdevice hlisted hz ha hgood.usable, count_eq_zero.mpr hmem]
    simp

theorem unchanged_iff_suits (hz : z ≠ 0) (ha : Usable a z) (hgood : Good rt z front a a')
    (hlength : back.length ≤ 1) (hother : other ∈ a.devices)
    (hnot : other.dsid ∉ moves rt a z front) :
    ((back.foldl (attempt rt z) a').tryGetDevice other.dsid = some other ∧
      ∀ w, Listed (back.foldl (attempt rt z) a') w other.dsid ↔ Listed a w other.dsid) ↔
    ((moves rt a z back).count other.dsid = 0 ∨
      (other.zoneID = z ∧ ¬ Listed a z other.dsid)) := by
  have hfound := (tryGetDevice_eq_some_iff ha.proper.devices_nodup).mpr ⟨hother, rfl⟩
  obtain ⟨hdevice, hlisted⟩ := hgood.others _ hnot
  by_cases hback : other.dsid ∈ back ∧ accepts rt a z other = true
  · obtain ⟨hmem, haccepts⟩ := hback
    have hsingle : back = [other.dsid] := by
      match back, hlength with
      | [last], _ => rw [mem_singleton.mp hmem]
    have hcount : (moves rt a z back).count other.dsid = 1 := by
      rw [count_moves ha.proper hother, if_pos haccepts, hsingle, count_singleton_self]
    rcases attempt_spec rt z a' other.dsid with ⟨found, hfound', -, hmoved⟩ | ⟨hnone, -⟩
    · obtain rfl := some.inj ((hdevice.trans hfound).symm.trans hfound')
      have hiff := unchanged_iff hz hgood.usable hmoved (hdevice.trans hfound)
      simp only [hlisted] at hiff
      rw [hsingle, foldl_cons, foldl_nil, hiff, ← hsingle, hcount]
      simp
    · rw [hdevice, hfound, any_some, hgood.accepts_eq, haccepts] at hnone
      cases hnone
  · have hcount : (moves rt a z back).count other.dsid = 0 := by
      rw [count_moves ha.proper hother]
      split_ifs with haccepts
      · exact count_eq_zero.mpr fun hmem => hback ⟨hmem, haccepts⟩
      · rfl
    obtain ⟨hsame, hzones⟩ := foldl_rejected rt (a := a') other.dsid hlength
      fun hmem => by
        rw [hdevice, hfound, any_some, hgood.accepts_eq]
        exact eq_false_of_ne_true fun haccepts => hback ⟨hmem, haccepts⟩
    rw [hcount]
    refine iff_of_true ⟨hsame.trans (hdevice.trans hfound), fun w => ?_⟩ (Or.inl rfl)
    exact (hzones w).trans (hlisted w)

/-- **The request.** Where it is answered with ok, those that are coupled have moved together if
and only if each of them that it moves comes from another zone, and the others are there. -/
theorem movesTogether_iff {text : String} {movedDevices : List D} (hproper : a.Proper)
    (hdevice : a.tryGetDevice device.dsid = some device) (htext : parseInt? text = some z)
    (h : (zoneAddDevice rt oem device.dsid text a).2 = .ok movedDevices) :
    MovesTogether rt oem device z a (zoneAddDevice rt oem device.dsid text a).1 ↔
      Suits rt oem device z a := by
  obtain ⟨hz, hzone, -, hfold⟩ := foldl_zoneAddDevice hproper hdevice htext h
  obtain ⟨front, back, hsplit, hlength, hfront, hback⟩ := splits_attempts rt oem device hproper
  have ha : Usable a z := ⟨hproper, hzone⟩
  rw [hfold, hsplit]
  rcases attempts_spec rt front hz ha with hgood | ⟨id, hid, hlost, hwhy⟩
  · rw [foldl_append]
    refine forall₂_congr fun other hother => ?_
    have htimes := times_eq (z := z) hproper hother hsplit
    have hfound := (tryGetDevice_eq_some_iff hproper.devices_nodup).mpr ⟨hother, rfl⟩
    rw [htimes]
    refine and_congr (imp_congr_right fun hbelongs => ?_) (imp_congr_right fun hbelongs => ?_)
    · -- no attempt of the rest is for one that belongs
      have hnot : other.dsid ∉ back := fun hmem =>
        hback _ hmem other hfound (hbelongs.imp_right And.left)
      have hcount : (moves rt a z back).count other.dsid = 0 :=
        count_eq_zero.mpr fun hmem => hnot (mem_of_mem_filter hmem)
      obtain ⟨hsame, hzones⟩ := foldl_frame rt (z := z)
        (a := front.foldl (attempt rt z) a) hlength hnot
      rw [placed_congr hsame hzones hz hgood.usable (usable_foldl rt hgood.usable back),
        placed_iff_suits hz ha hgood hother, hcount, Nat.add_zero]
    · -- no move before the rest is of one that does not
      have hnot : other.dsid ∉ moves rt a z front := by
        intro hmem
        obtain ⟨hin, found, hfound', -, hpresent⟩ := exists_of_mem_moves hmem
        obtain rfl := some.inj (hfound.symm.trans hfound')
        exact hbelongs ((hfront _ hin other hfound).imp_right fun hcoupled => ⟨hcoupled, hpresent⟩)
      rw [unchanged_iff_suits hz ha hgood hlength hother hnot, count_eq_zero.mpr hnot,
        Nat.zero_add]
  · obtain ⟨hfirst, hsecond⟩ := not_suits_of_lost hz ha hsplit hfront hid hlost hwhy
    exact iff_of_false hfirst hsecond

end Request

/-! ## A pair -/

def pairRuntime : Runtime ℕ where
  nullDsuid := 0
  nextDsuid := Nat.succ
  dsuid2str := toString
  deviceGetSpec _ _ := 0
  getInactiveDevicesInZone _ _ := []

def pairDevice (dsid : ℕ) (zoneID : ℤ) (is2WayMaster : Bool) : Device ℕ where
  dsid := dsid
  zoneID := zoneID
  isPresent := true
  isVisible := is2WayMaster
  isMainDevice := true
  mainDeviceDSUID := dsid
  is2WayMaster := is2WayMaster
  dsMeterDSID := 100
  lastKnownDSMeterDSID := 100
  shortAddress := dsid
  lastKnownShortAddress := dsid

def pair (zoneID : ℤ) : Apartment ℕ where
  devices := [pairDevice 10 5 true, pairDevice 11 zoneID false]
  zones := [⟨0, [10, 11], [], []⟩, ⟨5, 10 :: if zoneID = 5 then [11] else [], [100], []⟩,
    ⟨6, if zoneID = 5 then [] else [11], [100], []⟩]
  dsMeters := [⟨100, true, true⟩]

theorem proper_pair {zoneID : ℤ} (h : zoneID = 5 ∨ zoneID = 6) : (pair zoneID).Proper := by
  rcases h with rfl | rfl <;> exact ⟨by decide, by decide, by decide⟩

theorem movesTogether_pair :
    MovesTogether pairRuntime (fun _ => {}) (pairDevice 10 5 true) 6 (pair 5)
        (zoneAddDevice pairRuntime (fun _ => {}) 10 "6" (pair 5)).1 ↔
      Suits pairRuntime (fun _ => {}) (pairDevice 10 5 true) 6 (pair 5) :=
  movesTogether_iff (proper_pair (Or.inl rfl)) (by decide) (by decide +kernel)
    (show (zoneAddDevice pairRuntime (fun _ => {}) 10 "6" (pair 5)).2 = .ok [10] by
      decide +kernel)

/-- The partner is in the zone before. -/
theorem movesTogether_fails :
    ¬ ∀ (rt : Runtime ℕ) (oem : ℕ → OemInfo) (a : Apartment ℕ) (device : Device ℕ)
        (text : String) (z : ℤ) (movedDevices : List ℕ),
      a.Proper → a.tryGetDevice device.dsid = some device → parseInt? text = some z →
      (zoneAddDevice rt oem device.dsid text a).2 = .ok movedDevices →
      MovesTogether rt oem device z a (zoneAddDevice rt oem device.dsid text a).1 := by
  intro hall
  have hmoves := hall pairRuntime (fun _ => {}) (pair 6) (pairDevice 10 5 true) "6" 6 [10]
    (proper_pair (Or.inr rfl)) (by decide) (by decide +kernel) (by decide +kernel)
  have hplaced := (hmoves (pairDevice 11 6 false) (by decide)).1
    (Or.inr ⟨Or.inl ⟨rfl, rfl⟩, rfl⟩)
  have hzone : (⟨6, [10], [100], []⟩ : Zone ℕ) ∈
      (zoneAddDevice pairRuntime (fun _ => {}) 10 "6" (pair 6)).1.zones := by decide +kernel
  have hcount := hplaced.2 _ hzone (by decide)
  exact absurd hcount (by decide)

end ZoneRemoval

end Dss
