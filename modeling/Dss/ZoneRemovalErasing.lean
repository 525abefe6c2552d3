import Dss.KeyedList
import Dss.ZoneRemoval

/-!
# Erasing the devices of a zone

A device that is erased takes others along, so that a list of dSUIDs says what an apartment has
become. The loop that erases fails over a device that one before it has taken along.
-/

namespace Dss

open List Option Function

namespace ZoneRemoval

variable {D : Type} [DecidableEq D]

/-! ## What is taken along -/

/-- No ids are used twice, zone 0 is there, and no zone has the id of none. -/
structure Apartment.Consistent (a : Apartment D) : Prop where
  devices_nodup : (a.devices.map Device.dsid).Nodup
  zones_nodup : (a.zones.map Zone.id).Nodup
  zone_zero : (a.tryGetZone 0).isSome = true
  id_ne : ∀ zone ∈ a.zones, zone.id ≠ -1
  members : ∀ zone ∈ a.zones, zone.id ≠ 0 → ∀ id ∈ zone.devices,
    ∃ device ∈ a.devices, device.dsid = id ∧ device.zoneID = zone.id
  lists_nodup : ∀ zone ∈ a.zones, zone.devices.Nodup
  meters : ∀ zone ∈ a.zones, ∀ id ∈ zone.dsMeters, ∃ meter ∈ a.dsMeters, meter.dsid = id

/-- Whether `getZone` finds the zone of a device. -/
def hasZone (a : Apartment D) (device : Device D) : Bool := (a.tryGetZone device.zoneID).isSome

/-- Whether a paired device is taken along. -/
def isTaken (rt : Runtime D) (a : Apartment D) (id : D) : Bool :=
  (a.tryGetDevice id).any fun device =>
    (removeDeviceFromDSMeter rt a device).isOk && hasZone a device

def behind (rt : Runtime D) : ℕ → D → List D
  | 0, _ => []
  | n + 1, current => rt.nextDsuid current :: behind rt n (rt.nextDsuid current)

/-- The partner devices that `removeDevice` takes along. -/
def takenAlong (rt : Runtime D) (a : Apartment D) (device : Device D) : List D :=
  (if device.isMainDevice ∧ 0 < device.pairedDevices then
      (behind rt device.pairedDevices device.dsid).filter (isTaken rt a)
    else []) ++
  (partnerDevice rt device a).toList.map Device.dsid

def takenAlongWith (rt : Runtime D) (a : Apartment D) (id : D) : List D :=
  ((a.tryGetDevice id).map (takenAlong rt a)).getD []

def PartnerHasZone (rt : Runtime D) (a : Apartment D) (id : D) : Prop :=
  ∀ device, a.tryGetDevice id = some device →
    ∀ partner, partnerDevice rt device a = some partner → hasZone a partner = true

/-- The devices of a list can be erased one after the other: none is taken along by one before
it, and the partners are in zones that are there. -/
def Erasable (rt : Runtime D) (a : Apartment D) (ids : List D) : Prop :=
  (ids.Pairwise fun id other => other ∉ takenAlongWith rt a id) ∧ ∀ id ∈ ids, PartnerHasZone rt a id

/-! ## Lookups -/

variable {rt : Runtime D} {a : Apartment D} {zone : Zone D} {device : Device D} {id : D}
  {gone gone' : List D}

theorem tryGetDevice_eq_some_iff (h : (a.devices.map Device.dsid).Nodup) :
    a.tryGetDevice id = some device ↔ device ∈ a.devices ∧ device.dsid = id :=
  KeyedList.find?_eq_some_iff h

omit [DecidableEq D] in
theorem mem_of_tryGetZone {z : ℤ} (h : a.tryGetZone z = some zone) :
    zone ∈ a.zones ∧ zone.id = z :=
  KeyedList.key_of_find? h

theorem Apartment.Consistent.exists_device (h : a.Consistent) (hzone : zone ∈ a.zones)
    (hne : zone.id ≠ 0) (hid : id ∈ zone.devices) :
    ∃ device, a.tryGetDevice id = some device ∧ device.zoneID = zone.id := by
  obtain ⟨device, hmem, hdsid, hzoneID⟩ := h.members zone hzone hne id hid
  exact ⟨device, (tryGetDevice_eq_some_iff h.devices_nodup).mpr ⟨hmem, hdsid⟩, hzoneID⟩

/-! ## Removed devices -/

def without (gone : List D) (a : Apartment D) : Apartment D :=
  { a with
    devices := a.devices.filter fun device => device.dsid ∉ gone
    zones := a.zones.map fun zone =>
      { zone with devices := zone.devices.filter fun id => id ∉ gone } }

theorem without_congr (h : ∀ id, id ∈ gone ↔ id ∈ gone') : without gone a = without gone' a := by
  simp only [without, h]

theorem without_nil : without [] a = a := by
  simp [without]

theorem tryGetDevice_without :
    (without gone a).tryGetDevice id = if id ∈ gone then none else a.tryGetDevice id := by
  rw [Apartment.tryGetDevice, without, find?_filter]
  split_ifs with hid
  · rw [find?_eq_none]
    intro device _ hyes
    simp only [decide_eq_true_eq] at hyes
    exact hyes.1 (hyes.2 ▸ hid)
  · congr 1
    funext device
    by_cases hdevice : device.dsid = id
    · simp [hdevice, hid]
    · simp [hdevice]

theorem tryGetZone_without {z : ℤ} : (without gone a).tryGetZone z =
    (a.tryGetZone z).map fun zone =>
      { zone with devices := zone.devices.filter fun id => id ∉ gone } := by
  rw [Apartment.tryGetZone, without, find?_map]
  rfl

theorem hasZone_without : hasZone (without gone a) device = hasZone a device := by
  rw [hasZone, tryGetZone_without, isSome_map, hasZone]

theorem removeDeviceFromDSMeter_without :
    removeDeviceFromDSMeter rt (without gone a) device = removeDeviceFromDSMeter rt a device :=
  rfl

theorem filter_erase {l : List D} (h : l.Nodup) :
    (l.filter fun other => other ∉ gone).erase id = l.filter fun other => other ∉ id :: gone := by
  rw [(h.filter _).erase_eq_filter, List.filter_filter]
  apply filter_congr
  intro other _
  by_cases hother : other = id
  · simp [hother]
  · simp [hother]

theorem filter_of_not_mem {l : List D} (h : id ∉ l) :
    (l.filter fun other => other ∉ gone) = l.filter fun other => other ∉ id :: gone := by
  apply filter_congr
  intro other hother
  have hne : other ≠ id := fun heq => h (heq ▸ hother)
  simp [hne]

omit [DecidableEq D] in
theorem not_mem_of_other_zone (h : a.Consistent) (hdevice : device ∈ a.devices)
    (hzone : zone ∈ a.zones) (hne : zone.id ≠ 0) (hother : zone.id ≠ device.zoneID) :
    device.dsid ∉ zone.devices := by
  intro hmem
  obtain ⟨found, hfound, hdsid, hzoneID⟩ := h.members zone hzone hne _ hmem
  rw [List.inj_on_of_nodup_map h.devices_nodup hfound hdevice hdsid] at hzoneID
  exact hother hzoneID.symm

theorem modifyZone_without (h : a.Consistent) (hdevice : device ∈ a.devices) :
    (((without gone a).modifyZone device.zoneID fun zone =>
        { zone with devices := zone.devices.erase device.dsid }).modifyZone 0 fun zone =>
          { zone with devices := zone.devices.erase device.dsid }).zones =
      (without (device.dsid :: gone) a).zones := by
  simp only [Apartment.modifyZone, without, List.map_map]
  apply map_congr_left
  intro zone hzone
  have hnodup := h.lists_nodup zone hzone
  by_cases hzero : zone.id = 0
  · by_cases hown : zone.id = device.zoneID
    · -- erased twice
      simp only [comp_apply, if_pos hown, if_pos hzero, filter_erase hnodup]
      simp
    · simp only [comp_apply, if_neg hown, if_pos hzero, filter_erase hnodup]
  · by_cases hown : zone.id = device.zoneID
    · simp only [comp_apply, if_pos hown, if_neg hzero, filter_erase hnodup]
    · have hnot := not_mem_of_other_zone h hdevice hzone hzero hown
      simp only [comp_apply, if_neg hown, if_neg hzero]
      rw [filter_of_not_mem hnot]

theorem modifyZone_zero_without (h : a.Consistent) (hdevice : device ∈ a.devices)
    (hzero : device.zoneID = 0) :
    ((without gone a).modifyZone 0 fun zone =>
        { zone with devices := zone.devices.erase device.dsid }).zones =
      (without (device.dsid :: gone) a).zones := by
  simp only [Apartment.modifyZone, without, List.map_map]
  apply map_congr_left
  intro zone hzone
  by_cases hid : zone.id = 0
  · simp only [comp_apply, if_pos hid, filter_erase (h.lists_nodup zone hzone)]
  · have hother : zone.id ≠ device.zoneID := hzero ▸ hid
    have hnot := not_mem_of_other_zone h hdevice hzone hid hother
    simp only [comp_apply, if_neg hid]
    rw [filter_of_not_mem hnot]

theorem eraseP_without (h : a.Consistent) :
    (without gone a).devices.eraseP (fun other => other.dsid = device.dsid) =
      (without (device.dsid :: gone) a).devices := by
  have hnodup : ((without gone a).devices.map Device.dsid).Nodup :=
    h.devices_nodup.sublist (filter_sublist.map _)
  rw [KeyedList.eraseP_eq_filter hnodup fun other _ => decide_eq_true_iff, without,
    List.filter_filter]
  apply filter_congr
  intro other _
  by_cases hother : other.dsid = device.dsid
  · simp [hother]
  · simp [hother]

theorem removeFromZone_of_isSome {z : ℤ} (hz : (a.tryGetZone z).isSome = true) :
    a.removeFromZone z id = .ok (a.modifyZone z fun zone =>
      { zone with devices := zone.devices.erase id }) := by
  obtain ⟨zone, hzone⟩ := isSome_iff_exists.mp hz
  rw [Apartment.removeFromZone, hzone]

omit [DecidableEq D] in
theorem isSome_tryGetZone_modifyZone {y z : ℤ} {f : Zone D → Zone D}
    (hf : ∀ zone, (f zone).id = zone.id) :
    ((a.modifyZone y f).tryGetZone z).isSome = (a.tryGetZone z).isSome := by
  rw [Apartment.tryGetZone, Apartment.modifyZone, List.find?_map, Option.isSome_map,
    Apartment.tryGetZone]
  congr 2
  funext zone
  dsimp only [Function.comp_apply]
  split_ifs
  · rw [hf]
  · rfl

/-- **Taking a device out.** It is gone from its zone, from zone 0 and from the apartment. -/
theorem removeDevice_without (h : a.Consistent) (hdevice : device ∈ a.devices)
    (hzone : hasZone a device = true) :
    (without gone a).removeDevice device.dsid = (without (device.dsid :: gone) a, none) := by
  have hfound := (tryGetDevice_eq_some_iff h.devices_nodup).mpr ⟨hdevice, rfl⟩
  rw [Apartment.removeDevice, tryGetDevice_without]
  by_cases hgone : device.dsid ∈ gone
  · rw [if_pos hgone]
    have hsame : without gone a = without (device.dsid :: gone) a := by
      apply without_congr
      intro id
      rw [mem_cons]
      exact ⟨Or.inr, fun hid => hid.elim (fun heq => heq ▸ hgone) fun hmem => hmem⟩
    rw [← hsame]
  · rw [if_neg hgone, hfound]
    dsimp only
    have hzero : ((without gone a).tryGetZone 0).isSome = true := by
      rw [tryGetZone_without, isSome_map]
      exact h.zone_zero
    by_cases hzoneID : device.zoneID = 0
    · rw [if_pos hzoneID]
      dsimp only
      rw [removeFromZone_of_isSome hzero]
      dsimp only
      rw [modifyZone_zero_without h hdevice hzoneID]
      rw [Apartment.modifyZone]
      rw [eraseP_without h]
      rfl
    · have hown : ((without gone a).tryGetZone device.zoneID).isSome = true :=
        hasZone_without.trans hzone
      rw [if_neg hzoneID, removeFromZone_of_isSome hown]
      dsimp only
      rw [removeFromZone_of_isSome (by
        rw [isSome_tryGetZone_modifyZone
          (f := fun zone => { zone with devices := zone.devices.erase device.dsid }) fun _ => rfl]
        exact hzero)]
      dsimp only
      rw [modifyZone_without h hdevice, Apartment.modifyZone, Apartment.modifyZone]
      rw [eraseP_without h]
      rfl

theorem takeOut_without (h : a.Consistent) (hdevice : device ∈ a.devices) :
    takeOut device (without gone a) =
      if hasZone a device then (without (device.dsid :: gone) a, none)
      else (without gone a, some (Apartment.zoneNotFound device.zoneID)) := by
  rw [takeOut]
  have hsome : ((without gone a).tryGetZone device.zoneID).isSome = hasZone a device :=
    hasZone_without
  rcases hzone : hasZone a device with - | -
  · rw [hzone] at hsome
    rw [isSome_eq_false_iff.mp hsome |> isNone_iff_eq_none.mp]
    rfl
  · rw [hzone] at hsome
    obtain ⟨found, hfound⟩ := isSome_iff_exists.mp hsome
    rw [hfound]
    exact removeDevice_without h hdevice hzone

/-! ## Paired devices -/

theorem without_cons_of_mem (h : id ∈ gone) : without (id :: gone) a = without gone a := by
  apply without_congr
  intro other
  rw [mem_cons]
  exact ⟨fun hother => hother.elim (fun heq => heq ▸ h) fun hmem => hmem, Or.inr⟩

theorem removePairedDevice_without (h : a.Consistent) :
    removePairedDevice rt id (without gone a) =
      without ([id].filter (isTaken rt a) ++ gone) a := by
  rw [removePairedDevice, tryGetDevice_without, filter_singleton]
  by_cases hgone : id ∈ gone
  · rw [if_pos hgone]
    rcases isTaken rt a id with - | -
    · rfl
    · exact (without_cons_of_mem hgone).symm
  · rw [if_neg hgone, isTaken]
    rcases hfound : a.tryGetDevice id with - | device
    · rfl
    · obtain ⟨hmem, rfl⟩ := (tryGetDevice_eq_some_iff h.devices_nodup).mp hfound
      dsimp only
      rw [removeDeviceFromDSMeter_without, any_some]
      rcases hmeter : removeDeviceFromDSMeter rt a device with failure | -
      · rfl
      · rw [takeOut_without h hmem]
        rcases hzone : hasZone a device with - | -
        · rfl
        · rfl

theorem removePairedDevices_without (h : a.Consistent) (n : ℕ) (current : D) :
    removePairedDevices rt n current (without gone a) =
      without ((behind rt n current).filter (isTaken rt a) ++ gone) a := by
  induction n generalizing current gone with
  | zero => rfl
  | succ n ih =>
    rw [removePairedDevices, removePairedDevice_without h, ih, behind]
    apply without_congr
    rw [filter_singleton, filter_cons]
    rcases isTaken rt a (rt.nextDsuid current) with - | -
    · simp
    · simp [or_left_comm]

theorem partnerDevice_without : partnerDevice rt device (without gone a) =
    if rt.nextDsuid device.dsid ∈ gone then none else partnerDevice rt device a := by
  rw [partnerDevice, tryGetDevice_without, partnerDevice]
  split_ifs <;> rfl

def HadZones (a : Apartment D) (gone : List D) : Prop :=
  ∀ device ∈ a.devices, device.dsid ∈ gone → hasZone a device = true

theorem mem_of_partnerDevice (h : a.Consistent) {partner : Device D}
    (hpartner : partnerDevice rt device a = some partner) :
    partner ∈ a.devices ∧ partner.dsid = rt.nextDsuid device.dsid := by
  rw [partnerDevice] at hpartner
  split_ifs at hpartner
  exact (tryGetDevice_eq_some_iff h.devices_nodup).mp hpartner

def pairsTaken (rt : Runtime D) (a : Apartment D) (device : Device D) : List D :=
  if device.isMainDevice ∧ 0 < device.pairedDevices then
    (behind rt device.pairedDevices device.dsid).filter (isTaken rt a)
  else []

theorem takenAlong_eq : takenAlong rt a device =
    pairsTaken rt a device ++ (partnerDevice rt device a).toList.map Device.dsid :=
  rfl

theorem removePairs_without (h : a.Consistent) :
    (if device.isMainDevice ∧ 0 < device.pairedDevices then
        removePairedDevices rt device.pairedDevices device.dsid (without gone a)
      else without gone a) = without (pairsTaken rt a device ++ gone) a := by
  rw [pairsTaken]
  split_ifs
  · exact removePairedDevices_without h _ _
  · rfl

theorem removeDevice_ok (h : a.Consistent) (hdevice : device ∈ a.devices)
    (hzone : hasZone a device = true)
    (hpartner : ∀ partner, partnerDevice rt device a = some partner → hasZone a partner = true) :
    removeDevice rt device (without gone a) =
      (without (device.dsid :: (takenAlong rt a device ++ gone)) a, none) := by
  rw [removeDevice, partnerDevice_without, removePairs_without h,
    takeOut_without h hdevice, if_pos hzone, takenAlong_eq]
  rcases hfound : partnerDevice rt device a with - | partner
  · simp
  · obtain ⟨hmem, hdsid⟩ := mem_of_partnerDevice h hfound
    by_cases hgone : rt.nextDsuid device.dsid ∈ gone
    · rw [if_pos hgone]
      dsimp only
      congr 1
      apply without_congr
      intro id
      rw [← hdsid] at hgone
      simp only [mem_cons, mem_append, toList_some, map_cons, map_nil,
        not_mem_nil, or_false]
      constructor
      · tauto
      · rintro (hid | (hid | rfl) | hid) <;> tauto
    · rw [if_neg hgone]
      dsimp only
      rw [takeOut_without h hmem, if_pos (hpartner partner hfound)]
      congr 1
      apply without_congr
      simp only [mem_cons, mem_append, toList_some, map_cons, map_nil,
        not_mem_nil, or_false]
      tauto

theorem removeDevice_fails (h : a.Consistent) (hdevice : device ∈ a.devices)
    (hzone : hasZone a device = true) (hgone : HadZones a gone) {partner : Device D}
    (hpartner : partnerDevice rt device a = some partner) (hnone : hasZone a partner = false) :
    ∃ a' failure, removeDevice rt device (without gone a) = (a', some failure) := by
  obtain ⟨hmem, hdsid⟩ := mem_of_partnerDevice h hpartner
  have hnot : rt.nextDsuid device.dsid ∉ gone := by
    intro hin
    rw [hgone partner hmem (hdsid ▸ hin)] at hnone
    cases hnone
  rw [removeDevice, partnerDevice_without, if_neg hnot, hpartner]
  rw [removePairs_without h, takeOut_without h hdevice, if_pos hzone]
  dsimp only
  rw [takeOut_without h hmem, if_neg (ne_true_of_eq_false hnone)]
  exact ⟨_, _, rfl⟩

/-! ## Erasing -/

def goneWith (rt : Runtime D) (a : Apartment D) (gone : List D) (id : D) : List D :=
  id :: (takenAlongWith rt a id ++ gone)

theorem mem_foldl_goneWith {ids : List D} : id ∈ ids.foldl (goneWith rt a) gone ↔
    id ∈ gone ∨ id ∈ ids ∨ ∃ other ∈ ids, id ∈ takenAlongWith rt a other := by
  induction ids generalizing gone with
  | nil => simp
  | cons other ids ih =>
    rw [foldl_cons, ih, goneWith]
    simp only [mem_cons, mem_append, exists_eq_or_imp]
    tauto

theorem hadZones_goneWith (h : a.Consistent) (hdevice : device ∈ a.devices)
    (hzone : hasZone a device = true) (hpartner : PartnerHasZone rt a device.dsid)
    (hgone : HadZones a gone) : HadZones a (goneWith rt a gone device.dsid) := by
  have hfound := (tryGetDevice_eq_some_iff h.devices_nodup).mpr ⟨hdevice, rfl⟩
  intro other hother hmem
  rw [goneWith, takenAlongWith, hfound, map_some, getD_some, takenAlong_eq,
    mem_cons, mem_append, mem_append] at hmem
  rcases hmem with heq | (hpair | hmem) | hmem
  · exact inj_on_of_nodup_map h.devices_nodup hother hdevice heq ▸ hzone
  · rw [pairsTaken] at hpair
    split_ifs at hpair
    · have htaken := (mem_filter.mp hpair).2
      rw [isTaken, (tryGetDevice_eq_some_iff h.devices_nodup).mpr ⟨hother, rfl⟩, any_some,
        Bool.and_eq_true] at htaken
      exact htaken.2
    · cases hpair
  · obtain ⟨partner, hmem, heq⟩ := mem_map.mp hmem
    have hsome := mem_toList.mp hmem
    rw [← inj_on_of_nodup_map h.devices_nodup (mem_of_partnerDevice h hsome).1 hother heq]
    exact hpartner device hfound partner hsome
  · exact hgone other hother hmem

def Present (a : Apartment D) (ids : List D) : Prop :=
  ∀ id ∈ ids, ∃ device ∈ a.devices, device.dsid = id ∧ hasZone a device = true

theorem eraseLoop_cons (h : a.Consistent) {ids : List D} (hdevice : device ∈ a.devices)
    (hzone : hasZone a device = true) (hnot : device.dsid ∉ gone)
    (hpartner : PartnerHasZone rt a device.dsid) :
    eraseLoop rt (device.dsid :: ids) (without gone a) =
      eraseLoop rt ids (without (goneWith rt a gone device.dsid) a) := by
  have hfound := (tryGetDevice_eq_some_iff h.devices_nodup).mpr ⟨hdevice, rfl⟩
  rw [eraseLoop, Apartment.getDevice, tryGetDevice_without, if_neg hnot, hfound]
  dsimp only
  rw [removeDevice_ok h hdevice hzone (hpartner device hfound), goneWith, takenAlongWith, hfound]
  rfl

/-- **The loop over devices that can be erased.** They go with what they take along. -/
theorem eraseLoop_ok (h : a.Consistent) {ids : List D} (hids : Present a ids) (hnodup : ids.Nodup)
    (hnot : ∀ id ∈ ids, id ∉ gone) (hok : Erasable rt a ids) :
    eraseLoop rt ids (without gone a) = (without (ids.foldl (goneWith rt a) gone) a, none) := by
  induction ids generalizing gone with
  | nil => rfl
  | cons id ids ih =>
    obtain ⟨device, hdevice, rfl, hzone⟩ := hids id mem_cons_self
    obtain ⟨hpairwise, hpartners⟩ := hok
    rw [pairwise_cons] at hpairwise
    rw [nodup_cons] at hnodup
    rw [eraseLoop_cons h hdevice hzone (hnot _ mem_cons_self)
      (hpartners _ mem_cons_self)]
    apply ih (fun other hother => hids other (mem_cons_of_mem _ hother)) hnodup.2
    · intro other hother hmem
      rw [goneWith, mem_cons, mem_append] at hmem
      rcases hmem with rfl | hmem | hmem
      · exact hnodup.1 hother
      · exact hpairwise.1 other hother hmem
      · exact hnot other (mem_cons_of_mem _ hother) hmem
    · exact ⟨hpairwise.2, fun other hother => hpartners other (mem_cons_of_mem _ hother)⟩

theorem caught_ne_success (failure : Failure) : caught failure ≠ .success := by
  rw [caught.eq_def]
  split
  · exact nofun
  · exact nofun

theorem eraseLoop_stops (h : a.Consistent) {ids : List D} (hids : Present a ids)
    (hgone : HadZones a gone) (hbad : ¬ ((∀ id ∈ ids, id ∉ gone) ∧ Erasable rt a ids)) :
    ∃ a' response, eraseLoop rt ids (without gone a) = (a', some response) ∧
      response ≠ .success := by
  induction ids generalizing gone with
  | nil => exact absurd ⟨nofun, List.Pairwise.nil, nofun⟩ hbad
  | cons id ids ih =>
    obtain ⟨device, hdevice, rfl, hzone⟩ := hids id mem_cons_self
    have hfound := (tryGetDevice_eq_some_iff h.devices_nodup).mpr ⟨hdevice, rfl⟩
    by_cases hmem : device.dsid ∈ gone
    · -- it was taken along
      rw [eraseLoop, Apartment.getDevice, tryGetDevice_without, if_pos hmem]
      exact ⟨_, _, rfl, caught_ne_success _⟩
    by_cases hpartner : PartnerHasZone rt a device.dsid
    · rw [eraseLoop_cons h hdevice hzone hmem hpartner]
      apply ih (fun other hother => hids other (mem_cons_of_mem _ hother))
        (hadZones_goneWith h hdevice hzone hpartner hgone)
      rintro ⟨hnot, hpairwise, hpartners⟩
      apply hbad
      refine ⟨?_, pairwise_cons.mpr ⟨?_, hpairwise⟩, ?_⟩
      · intro other hother hin
        rcases mem_cons.mp hother with rfl | hother
        · exact hmem hin
        · exact hnot other hother (mem_cons_of_mem _ (mem_append_right _ hin))
      · intro other hother hin
        exact hnot other hother (mem_cons_of_mem _ (mem_append_left _ hin))
      · intro other hother
        rcases mem_cons.mp hother with rfl | hother
        · exact hpartner
        · exact hpartners other hother
    · have hbadPartner : ∃ partner, partnerDevice rt device a = some partner ∧
          hasZone a partner = false := by
        by_contra hall
        apply hpartner
        intro found hsome partner hpartner
        rw [hfound] at hsome
        cases hsome
        by_contra hfalse
        exact hall ⟨partner, hpartner, eq_false_of_ne_true hfalse⟩
      obtain ⟨partner, hsome, hfalse⟩ := hbadPartner
      obtain ⟨a', failure, heq⟩ := removeDevice_fails h hdevice hzone hgone hsome hfalse
      rw [eraseLoop, Apartment.getDevice, tryGetDevice_without, if_neg hmem, hfound]
      dsimp only
      rw [heq]
      exact ⟨a', caught failure, rfl, caught_ne_success failure⟩

end ZoneRemoval

end Dss
