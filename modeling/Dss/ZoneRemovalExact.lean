import Dss.ZoneRemovalErasing

/-!
# When the removal of a zone does what it should

A zone without devices that are present is removed with its devices, unless one of them was
taken along by one before it in the list. With devices that are present the removal goes wrong
in any case: they never get into another zone.
-/

namespace Dss

open List Option

namespace ZoneRemoval

variable {D : Type} [DecidableEq D]

/-! ## The law -/

/-- A zone that must not be removed: a group with connected devices, a visible device, or a
main device that is present. -/
def blocked (a : Apartment D) (zone : Zone D) : Bool :=
  (zone.connectedDevices.any fun n => 0 < n) || zone.devices.any fun id =>
    (a.tryGetDevice id).any fun device =>
      device.isVisible || (device.isPresent && device.isMainDevice)

def isPresent (a : Apartment D) (id : D) : Bool :=
  (a.tryGetDevice id).any fun device => device.isPresent

def toMove (a : Apartment D) (zone : Zone D) : List D := zone.devices.filter (isPresent a)

def toErase (a : Apartment D) (zone : Zone D) : List D :=
  zone.devices.filter fun id => !isPresent a id

/-- What should be gone: the devices to erase, and what is taken along. -/
def Gone (rt : Runtime D) (a : Apartment D) (zone : Zone D) (id : D) : Prop :=
  id ∈ toErase a zone ∨ ∃ other ∈ toErase a zone, id ∈ takenAlongWith rt a other

structure Cleared (rt : Runtime D) (a : Apartment D) (zone : Zone D) (a' : Apartment D) :
    Prop where
  zones_eq : a'.zones.map Zone.id = (a.zones.map Zone.id).filter (· ≠ zone.id)
  gone : ∀ device ∈ a'.devices, ¬ Gone rt a zone device.dsid
  moved : ∀ device ∈ a.devices, device.dsid ∈ toMove a zone →
    ∃ main ∈ a.devices, main.dsid = device.mainDeviceDSUID ∧
      { device with zoneID := main.zoneID } ∈ a'.devices ∧
        ∃ other ∈ a'.zones, other.id = main.zoneID ∧ device.dsid ∈ other.devices
  kept : ∀ device ∈ a.devices, ¬ Gone rt a zone device.dsid → device.dsid ∉ toMove a zone →
    device ∈ a'.devices
  old : ∀ device ∈ a'.devices, ∃ device' ∈ a.devices, device'.dsid = device.dsid
  lists : ∀ other' ∈ a'.zones, ∃ other ∈ a.zones, other.id = other'.id ∧
    ∀ id, id ∉ toMove a zone → (id ∈ other'.devices ↔ id ∈ other.devices ∧ ¬ Gone rt a zone id)

/-- A zone that may go is cleared, and any other is left alone. -/
structure Promise (rt : Runtime D) (a : Apartment D) (zone : Zone D)
    (result : Apartment D × Response) : Prop where
  refused : blocked a zone = true → result.2 ≠ .success ∧ result.1 = a
  cleared : blocked a zone = false → result.2 = .success ∧ Cleared rt a zone result.1

/-- The zone must not be removed; or none of its devices is present, and they can be erased one
after the other. -/
def Fits (rt : Runtime D) (a : Apartment D) (zone : Zone D) : Prop :=
  blocked a zone = true ∨ (toMove a zone = [] ∧ Erasable rt a (toErase a zone))

variable {rt : Runtime D} {a : Apartment D} {zone : Zone D} {device : Device D} {id : D}
  {gone : List D}

/-! ## Sorting -/

/-- A device for which the loop ends. -/
def refuses (a : Apartment D) (id : D) : Bool :=
  (a.tryGetDevice id).any fun device =>
    device.isVisible || (device.isPresent && device.isMainDevice)

theorem sortDevices_eq {ids moving erasing : List D}
    (hfound : ∀ id ∈ ids, (a.tryGetDevice id).isSome = true) :
    sortDevices rt a ids moving erasing =
      if ids.any (refuses a) then .error notEmpty
      else .ok (moving ++ ids.filter (isPresent a),
        erasing ++ ids.filter fun id => !isPresent a id) := by
  induction ids generalizing moving erasing with
  | nil => simp [sortDevices]
  | cons id ids ih =>
    obtain ⟨device, hdevice⟩ := isSome_iff_exists.mp (hfound id mem_cons_self)
    have hids : ∀ other ∈ ids, (a.tryGetDevice other).isSome = true :=
      fun other hother => hfound other (mem_cons_of_mem id hother)
    have hrefuses : refuses a id =
        (device.isVisible || (device.isPresent && device.isMainDevice)) := by
      rw [refuses, hdevice, any_some]
    have hpresent : isPresent a id = device.isPresent := by
      rw [isPresent, hdevice, any_some]
    rw [sortDevices, Apartment.getDevice, hdevice, any_cons, hrefuses, filter_cons,
      filter_cons, hpresent]
    dsimp only
    rcases hv : device.isVisible with - | -
    · rcases hp : device.isPresent with - | -
      · simp [ih hids]
      · rcases hm : device.isMainDevice with - | -
        · simp [ih hids]
        · simp
    · simp

omit [DecidableEq D] in
theorem present_devices (h : a.Consistent) (hzone : a.tryGetZone zone.id = some zone)
    (hne : zone.id ≠ 0) : Present a zone.devices := by
  obtain ⟨hmem, -⟩ := mem_of_tryGetZone hzone
  intro id hid
  obtain ⟨device, hdevice, hdsid, hzoneID⟩ := h.members zone hmem hne id hid
  exact ⟨device, hdevice, hdsid, by rw [hasZone, hzoneID, hzone, Option.isSome_some]⟩

/-! ## Devices stay in their zone -/

section Kept

variable {b c : Apartment D} {z : ℤ}

theorem devices_removeFromZone (h : a.removeFromZone z id = .ok b) : b.devices = a.devices := by
  rw [Apartment.removeFromZone] at h
  split at h
  · cases h
  · cases h
    rfl

theorem devices_apartment_removeDevice : (a.removeDevice id).1.devices ⊆ a.devices := by
  rw [Apartment.removeDevice]
  split
  · exact List.Subset.refl _
  · split
    · exact List.Subset.refl _
    · rename_i b hb
      have hdevices : b.devices = a.devices := by
        split_ifs at hb
        · cases hb
          rfl
        · exact devices_removeFromZone hb
      split
      · exact hdevices ▸ List.Subset.refl _
      · rename_i c hc
        rw [← hdevices, ← devices_removeFromZone hc]
        exact eraseP_subset

theorem devices_takeOut (device : Device D) (a : Apartment D) :
    (takeOut device a).1.devices ⊆ a.devices := by
  rw [takeOut]
  split
  · exact List.Subset.refl _
  · exact devices_apartment_removeDevice

theorem devices_removePairedDevices (n : ℕ) (current : D) :
    (removePairedDevices rt n current a).devices ⊆ a.devices := by
  induction n generalizing current a with
  | zero => exact List.Subset.refl _
  | succ n ih =>
    refine List.Subset.trans (ih _) ?_
    rw [removePairedDevice]
    split
    · exact List.Subset.refl _
    · split
      · exact List.Subset.refl _
      · exact devices_takeOut _ _

theorem devices_removeDevice (rt : Runtime D) (device : Device D) (a : Apartment D) :
    (removeDevice rt device a).1.devices ⊆ a.devices := by
  rw [removeDevice]
  -- what is left when the paired devices are gone
  generalize hpaired : (if device.isMainDevice ∧ 0 < device.pairedDevices then
    removePairedDevices rt device.pairedDevices device.dsid a else a) = paired
  have hpairs : paired.devices ⊆ a.devices := by
    rw [← hpaired]
    split_ifs
    · exact devices_removePairedDevices _ _
    · exact List.Subset.refl _
  have hsubset := List.Subset.trans (devices_takeOut device paired) hpairs
  split
  · rename_i b _ hout
    rw [hout] at hsubset
    exact hsubset
  · rename_i b hout
    rw [hout] at hsubset
    split
    · exact hsubset
    · exact List.Subset.trans (devices_takeOut _ _) hsubset

theorem devices_eraseLoop (rt : Runtime D) (ids : List D) (a : Apartment D) :
    (eraseLoop rt ids a).1.devices ⊆ a.devices := by
  induction ids generalizing a with
  | nil => exact List.Subset.refl _
  | cons id ids ih =>
    rw [eraseLoop]
    split
    · exact List.Subset.refl _
    · rename_i device _
      have hsubset := devices_removeDevice rt device a
      split
      · rename_i heq
        rwa [heq] at hsubset
      · rename_i heq
        rw [heq] at hsubset
        exact List.Subset.trans (ih _) hsubset

theorem devices_unregister (rt : Runtime D) (z : ℤ) (meters : List D) (a : Apartment D) :
    (unregister rt z meters a).1.devices = a.devices := by
  induction meters generalizing a with
  | nil => rfl
  | cons meter meters ih =>
    rw [unregister]
    split
    · rfl
    · rw [ih]
      rfl

theorem devices_finish {meters : List D} : (finish rt z meters a).1.devices = a.devices := by
  have hdevices := devices_unregister rt z meters a
  rw [finish]
  split
  · rename_i heq
    rwa [heq] at hdevices
  · rename_i heq
    rwa [heq] at hdevices

theorem devices_changeZone (h : a.devices ⊆ c.devices)
    (hzone : ∀ other ∈ c.devices, other.dsid = device.dsid → other.zoneID = z) :
    (changeZone rt device z a).1.devices ⊆ c.devices := by
  have hmap : (a.devices.map fun (other : Device D) =>
      if other.dsid = device.dsid then { other with zoneID := z } else other) ⊆ c.devices := by
    intro other hother
    obtain ⟨found, hfound, rfl⟩ := mem_map.mp hother
    split_ifs with hdsid
    · rw [← hzone found (h hfound) hdsid]
      exact h hfound
    · exact h hfound
  rw [changeZone]
  split_ifs
  · exact hmap
  · split
    · exact hmap
    · rename_i b hb
      have hdevices := devices_removeFromZone hb
      split_ifs
      · rw [removeZoneOnDSMeter]
        split_ifs
        · rw [Apartment.modifyZone, hdevices]
          exact hmap
        · rw [hdevices]
          exact hmap
      · rw [hdevices]
        exact hmap

theorem devices_addDeviceToZone (rt : Runtime D) (h : a.devices ⊆ c.devices)
    (hzone : ∀ other ∈ c.devices, other.dsid = device.dsid → other.zoneID = z) :
    (addDeviceToZone rt device z a).1.devices ⊆ c.devices := by
  rw [addDeviceToZone]
  split_ifs
  · exact h
  · split
    · exact h
    · split_ifs
      · exact devices_changeZone h hzone
      · exact h
      · exact devices_changeZone h hzone

theorem devices_moveLoop (rt : Runtime D) (ids : List D) (h : a.devices ⊆ c.devices)
    (hzone : ∀ id ∈ ids, ∀ other ∈ c.devices, other.dsid = id → other.zoneID = z) :
    (moveLoop rt z ids a).1.devices ⊆ c.devices := by
  induction ids generalizing a with
  | nil => exact h
  | cons id ids ih =>
    rw [moveLoop]
    split
    · exact h
    · rename_i device hdevice
      have hdsid : device.dsid = id := by
        rw [Apartment.getDevice] at hdevice
        split at hdevice
        · rename_i hfound
          cases hdevice
          exact (KeyedList.key_of_find? hfound).2
        · cases hdevice
      have hsubset := devices_addDeviceToZone rt h fun other hother heq =>
        hzone id mem_cons_self other hother (heq.trans hdsid)
      split_ifs
      · exact h
      · split
        · exact h
        · split
          · exact h
          · split
            · rename_i heq
              rwa [heq] at hsubset
            · rename_i heq
              rw [heq] at hsubset
              exact ih hsubset fun other hother =>
                hzone other (mem_cons_of_mem id hother)

theorem devices_clear {moving erasing : List D}
    (hzone : ∀ id ∈ devicesOf a z, ∀ other ∈ a.devices, other.dsid = id → other.zoneID = z) :
    (clear rt z moving erasing a).1.devices ⊆ a.devices := by
  have hmove := devices_moveLoop rt ((devicesOf a z).take moving.length)
    (List.Subset.refl a.devices) fun id hid => hzone id (mem_of_mem_take hid)
  rw [clear]
  split
  · rename_i heq
    rwa [heq] at hmove
  · rename_i b heq
    rw [heq] at hmove
    have herase := devices_eraseLoop rt ((devicesOf a z).take erasing.length) b
    split
    · rename_i heq
      rw [heq] at herase
      exact List.Subset.trans herase hmove
    · rename_i heq
      rw [heq] at herase
      split_ifs
      · exact List.Subset.trans herase hmove
      · rw [devices_finish]
        exact List.Subset.trans herase hmove

end Kept

/-! ## The zone is removed -/

theorem unregister_ok (rt : Runtime D) (z : ℤ) {meters : List D}
    (h : ∀ id ∈ meters, ∃ meter ∈ a.dsMeters, meter.dsid = id) :
    ∃ a', unregister rt z meters a = (a', none) ∧
      a'.zones.map (fun zone => (zone.id, zone.devices)) =
        a.zones.map fun zone => (zone.id, zone.devices) := by
  induction meters generalizing a with
  | nil => exact ⟨a, rfl, rfl⟩
  | cons id meters ih =>
    obtain ⟨meter, hmem, hdsid⟩ := h id mem_cons_self
    have hsome : (a.dsMeters.find? fun meter => meter.dsid = id).isSome = true :=
      find?_isSome.mpr ⟨meter, hmem, decide_eq_true hdsid⟩
    obtain ⟨found, hfound⟩ := isSome_iff_exists.mp hsome
    obtain ⟨a', heq, hzones⟩ := ih
      (a := a.modifyZone z fun zone => { zone with dsMeters := zone.dsMeters.erase id })
      fun other hother => h other (mem_cons_of_mem id hother)
    refine ⟨a', ?_, hzones.trans ?_⟩
    · rw [unregister, Apartment.getDSMeter, hfound]
      exact heq
    · rw [Apartment.modifyZone, List.map_map]
      apply map_congr_left
      intro zone _
      dsimp only [Function.comp_apply]
      split_ifs <;> rfl

theorem cleared_removeZone (h : a.Consistent) {a' : Apartment D}
    (hmove : toMove a zone = []) (hgone : ∀ id, id ∈ gone ↔ Gone rt a zone id)
    (hdevices : a'.devices = (without gone a).devices)
    (hzones : a'.zones.map (fun zone => (zone.id, zone.devices)) =
      (without gone a).zones.map fun zone => (zone.id, zone.devices)) :
    Cleared rt a zone (a'.removeZone zone.id) := by
  have hids : a'.zones.map Zone.id = a.zones.map Zone.id := by
    have hfst := congrArg (map Prod.fst) hzones
    simpa only [without, List.map_map, Function.comp_def] using hfst
  have hnodup : (a'.zones.map Zone.id).Nodup := hids ▸ h.zones_nodup
  have hleft : (a'.removeZone zone.id).zones = a'.zones.filter fun other => other.id ≠ zone.id :=
    KeyedList.eraseP_eq_filter hnodup fun _ _ => decide_eq_true_iff
  have hmem : ∀ device, device ∈ (a'.removeZone zone.id).devices ↔
      device ∈ a.devices ∧ ¬ Gone rt a zone device.dsid := by
    intro device
    rw [Apartment.removeZone, hdevices, without, mem_filter, decide_eq_true_eq, hgone]
  refine ⟨?_, ?_, ?_, ?_, ?_, ?_⟩
  · rw [hleft, KeyedList.map_filter_ne, hids]
  · exact fun device hdevice => ((hmem device).mp hdevice).2
  · intro device _ hin
    rw [hmove] at hin
    cases hin
  · exact fun device hdevice hnot _ => (hmem device).mpr ⟨hdevice, hnot⟩
  · exact fun device hdevice => ⟨device, ((hmem device).mp hdevice).1, rfl⟩
  · intro other' hother'
    rw [hleft] at hother'
    have hpair : (other'.id, other'.devices) ∈
        (without gone a).zones.map fun zone => (zone.id, zone.devices) :=
      hzones ▸ mem_map_of_mem (mem_of_mem_filter hother')
    obtain ⟨found, hfound, heq⟩ := mem_map.mp hpair
    obtain ⟨other, hother, rfl⟩ := mem_map.mp hfound
    obtain ⟨hid, hlist⟩ := Prod.mk.inj heq
    refine ⟨other, hother, hid, fun id _ => ?_⟩
    rw [← hlist, ← hgone id, mem_filter, decide_eq_true_eq]

theorem toErase_eq (hmove : toMove a zone = []) : toErase a zone = zone.devices := by
  rw [toErase, filter_eq_self]
  intro id hid
  rw [Bool.not_eq_true']
  exact eq_false_of_ne_true (filter_eq_nil_iff.mp hmove id hid)

omit [DecidableEq D] in
theorem devicesOf_eq (hzone : a.tryGetZone zone.id = some zone) :
    devicesOf a zone.id = zone.devices := by
  rw [devicesOf, hzone]
  rfl

theorem clear_ok (h : a.Consistent) (hzone : a.tryGetZone zone.id = some zone)
    (hne : zone.id ≠ 0) (hmove : toMove a zone = []) (hok : Erasable rt a (toErase a zone)) :
    ∃ a', clear rt zone.id (toMove a zone) (toErase a zone) a = (a', .success) ∧
      Cleared rt a zone a' := by
  obtain ⟨hmem, -⟩ := mem_of_tryGetZone hzone
  have herase := toErase_eq hmove
  have hpresent := present_devices h hzone hne
  have hset := devicesOf_eq hzone
  have hloop : eraseLoop rt zone.devices (without [] a) =
      (without (zone.devices.foldl (goneWith rt a) []) a, none) :=
    eraseLoop_ok h hpresent (h.lists_nodup zone hmem) (fun _ _ => not_mem_nil) (herase ▸ hok)
  rw [without_nil] at hloop
  have hgone : ∀ id, id ∈ zone.devices.foldl (goneWith rt a) [] ↔ Gone rt a zone id := by
    intro id
    rw [mem_foldl_goneWith, Gone, herase]
    simp
  have hfound : (without (zone.devices.foldl (goneWith rt a) []) a).tryGetZone zone.id =
      some { zone with devices := [] } := by
    rw [tryGetZone_without, hzone, map_some]
    congr 2
    rw [filter_eq_nil_iff]
    intro id hid
    simp [mem_foldl_goneWith, hid]
  obtain ⟨a', hunregister, hzones⟩ := unregister_ok rt zone.id
    (a := without (zone.devices.foldl (goneWith rt a) []) a) (h.meters zone hmem)
  have hdevices := devices_unregister rt zone.id zone.dsMeters
    (without (zone.devices.foldl (goneWith rt a) []) a)
  rw [hunregister] at hdevices
  refine ⟨a'.removeZone zone.id, ?_, cleared_removeZone h hmove hgone hdevices hzones⟩
  rw [clear, hmove, herase, hset]
  dsimp only [length_nil, take_zero, moveLoop]
  rw [take_length, hloop]
  dsimp only
  rw [devicesOf, hfound, if_neg (by simp), finish]
  dsimp only [map_some, getD_some]
  rw [hunregister]

theorem clear_stops (h : a.Consistent) (hzone : a.tryGetZone zone.id = some zone)
    (hne : zone.id ≠ 0) (hmove : toMove a zone = []) (hbad : ¬ Erasable rt a (toErase a zone)) :
    (clear rt zone.id (toMove a zone) (toErase a zone) a).2 ≠ .success := by
  have herase := toErase_eq hmove
  have hset := devicesOf_eq hzone
  obtain ⟨a', response, hloop, hresponse⟩ : ∃ a' response,
      eraseLoop rt zone.devices (without [] a) = (a', some response) ∧ response ≠ .success :=
    eraseLoop_stops h (present_devices h hzone hne) nofun fun hall => hbad (herase ▸ hall.2)
  rw [without_nil] at hloop
  rw [clear, hmove, herase, hset]
  dsimp only [length_nil, take_zero, moveLoop]
  rw [take_length, hloop]
  exact hresponse

/-- **A zone with devices that are present.** They do not get into the zone of their main
device, whatever the request answers. -/
theorem not_cleared_of_toMove (h : a.Consistent) (hzone : a.tryGetZone zone.id = some zone)
    (hne : zone.id ≠ 0) {moving erasing : List D} (hmove : toMove a zone ≠ []) :
    ¬ Cleared rt a zone (clear rt zone.id moving erasing a).1 := by
  intro hcleared
  obtain ⟨hmem, -⟩ := mem_of_tryGetZone hzone
  obtain ⟨id, hid⟩ := exists_mem_of_ne_nil _ hmove
  have hown : ∀ id ∈ zone.devices, ∀ other ∈ a.devices, other.dsid = id →
      other.zoneID = zone.id := by
    intro id hid other hother hdsid
    obtain ⟨device, hdevice, rfl, hzoneID⟩ := h.members zone hmem hne id hid
    rwa [inj_on_of_nodup_map h.devices_nodup hother hdevice hdsid]
  have hset := devicesOf_eq hzone
  obtain ⟨device, hdevice, rfl, hzoneID⟩ :=
    h.members zone hmem hne id (mem_of_mem_filter hid)
  obtain ⟨main, -, -, hmoved, other, hother, hotherID, -⟩ := hcleared.moved device hdevice hid
  -- it is in the zone that was removed
  have hstays := hown device.dsid (mem_of_mem_filter hid) _
    (devices_clear (hset.symm ▸ hown) hmoved) rfl
  have hgone : other.id ∈ (a.zones.map Zone.id).filter (· ≠ zone.id) :=
    hcleared.zones_eq ▸ mem_map_of_mem hother
  have hneID := of_decide_eq_true (mem_filter.mp hgone).2
  exact hneID (hotherID.trans hstays)

/-! ## The request -/

theorem removeZone_eq (h : a.Consistent) {text : String} {z : ℤ}
    (htext : parseInt? text = some z) (hzone : a.tryGetZone z = some zone) (hne : z ≠ 0) :
    removeZone rt text a =
      if blocked a zone then (a, notEmpty) else clear rt z (toMove a zone) (toErase a zone) a := by
  obtain ⟨hmem, hid⟩ := mem_of_tryGetZone hzone
  have hfound : ∀ id ∈ zone.devices, (a.tryGetDevice id).isSome = true := by
    intro id hin
    obtain ⟨device, hdevice, -⟩ := h.exists_device hmem (hid ▸ hne) hin
    rw [hdevice, isSome_some]
  rw [removeZone, htext, getD_some, if_neg (hid ▸ h.id_ne zone hmem), hzone]
  dsimp only
  rw [blocked, sortDevices_eq hfound]
  rcases hconnected : zone.connectedDevices.any fun n => decide (0 < n) with - | -
  · have hrefuses : (zone.devices.any fun id => (a.tryGetDevice id).any fun device =>
        device.isVisible || (device.isPresent && device.isMainDevice)) =
        zone.devices.any (refuses a) := rfl
    rw [hrefuses]
    rcases zone.devices.any (refuses a) with - | -
    · rfl
    · rfl
  · rfl

/-- **Removal of a zone.** The request keeps its promise just for the zones that fit. -/
theorem removeZone_iff (rt : Runtime D) (h : a.Consistent) {text : String} {z : ℤ}
    (htext : parseInt? text = some z) (hzone : a.tryGetZone z = some zone) (hne : z ≠ 0) :
    Promise rt a zone (removeZone rt text a) ↔ Fits rt a zone := by
  obtain ⟨-, rfl⟩ := mem_of_tryGetZone hzone
  rw [removeZone_eq h htext hzone hne, Fits]
  rcases hblocked : blocked a zone with - | -
  · rw [if_neg Bool.false_ne_true]
    have hiff : Promise rt a zone (clear rt zone.id (toMove a zone) (toErase a zone) a) ↔
        (clear rt zone.id (toMove a zone) (toErase a zone) a).2 = .success ∧
          Cleared rt a zone (clear rt zone.id (toMove a zone) (toErase a zone) a).1 :=
      ⟨fun hpromise => hpromise.cleared hblocked,
        fun hcleared => ⟨fun hyes => absurd (hblocked.symm.trans hyes) Bool.false_ne_true,
          fun _ => hcleared⟩⟩
    rw [hiff]
    by_cases hmove : toMove a zone = []
    · by_cases hok : Erasable rt a (toErase a zone)
      · obtain ⟨a', heq, hcleared⟩ := clear_ok h hzone hne hmove hok
        rw [heq]
        exact iff_of_true ⟨rfl, hcleared⟩ (Or.inr ⟨hmove, hok⟩)
      · refine iff_of_false (fun hall => clear_stops h hzone hne hmove hok hall.1) ?_
        rintro (hfalse | hboth)
        · cases hfalse
        · exact hok hboth.2
    · refine iff_of_false (fun hall => not_cleared_of_toMove h hzone hne hmove hall.2) ?_
      rintro (hfalse | hboth)
      · cases hfalse
      · exact hmove hboth.1
  · refine iff_of_true ⟨fun _ => ⟨nofun, rfl⟩, fun hfalse => ?_⟩ (Or.inl rfl)
    exact absurd (hfalse.symm.trans hblocked) Bool.false_ne_true

/-! ## A house -/

def houseRuntime : Runtime ℕ where
  nullDsuid := 0
  nextDsuid := fun id => id + 1
  dsuid2str := fun _ => ""
  deviceGetSpec := fun _ _ => 0
  getInactiveDevicesInZone := fun _ _ => []

def houseDevice (dsid : ℕ) (zoneID : ℤ) (isPresent isVisible : Bool) (mainDevice : ℕ) :
    Device ℕ where
  dsid := dsid
  zoneID := zoneID
  isPresent := isPresent
  isVisible := isVisible
  isMainDevice := dsid = mainDevice
  mainDeviceDSUID := mainDevice
  dsMeterDSID := 100
  lastKnownDSMeterDSID := 100
  shortAddress := dsid
  lastKnownShortAddress := dsid

/-- Zone 5 has a hidden device, which may be present; its main device is in zone 6. Another
hidden device of zone 5 is not there. -/
def house (isPresent : Bool) : Apartment ℕ where
  devices := [houseDevice 10 6 true true 10, houseDevice 12 5 isPresent false 10,
    houseDevice 14 5 false false 14]
  zones := [⟨0, [10, 12, 14], [], []⟩, ⟨5, [12, 14], [100], [0]⟩, ⟨6, [10], [100], [1]⟩]
  dsMeters := [{ dsid := 100 }]

def houseZone : Zone ℕ := ⟨5, [12, 14], [100], [0]⟩

theorem consistent_house (isPresent : Bool) : (house isPresent).Consistent := by
  cases isPresent
  · exact ⟨by decide, by decide, by decide, by decide, by decide, by decide, by decide⟩
  · exact ⟨by decide, by decide, by decide, by decide, by decide, by decide, by decide⟩

/-- Zone 5 is removed, where its devices are not there. -/
theorem removeZone_house :
    Promise houseRuntime (house false) houseZone (removeZone houseRuntime "5" (house false)) ↔
      Fits houseRuntime (house false) houseZone :=
  removeZone_iff houseRuntime (consistent_house false) (z := 5) (by decide +kernel) (by decide)
    (by decide)

/-- Where one of them is there, it is not. -/
theorem removeZone_fails : ¬ ∀ a : Apartment ℕ, a.Consistent → ∀ text z, parseInt? text = some z →
    z ≠ 0 → ∀ zone, a.tryGetZone z = some zone →
      Promise houseRuntime a zone (removeZone houseRuntime text a) := by
  intro hall
  have hpromise := hall (house true) (consistent_house true) "5" 5 (by decide +kernel) (by decide)
    houseZone (by decide)
  have hsuccess := (hpromise.cleared (by decide)).1
  cases hsuccess

end ZoneRemoval

end Dss
