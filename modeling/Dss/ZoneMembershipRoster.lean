import Dss.Roster
import Dss.ZoneMembership

/-!
# The records of the devices in zones

The devices by their zone ids and the lists of the zones make a roster. Each function that changes
it does to it a few of the operations of rosters, also when an exception ends it.
-/

namespace Dss

open Throwing Throwing.Statement Option Function

namespace ZoneMembership

variable {D : Type} {rt : Runtime D} {a : Apartment D} {r : Roster D ℤ} {z : ℤ} {id : D}

/-! ## The records of an apartment -/

def Apartment.roster (a : Apartment D) : Roster D ℤ :=
  ⟨fun id => (a.device id).map Device.zoneID, fun z => (a.zone z).map Zone.devices⟩

@[simp]
theorem roster_listed : a.roster.listed z = a.listed z :=
  rfl

theorem roster_modifyZone {f : Zone D → Zone D}
    (h : ∀ zone, a.zone z = some zone → (f zone).devices = zone.devices) :
    (a.modifyZone z f).roster = a.roster := by
  refine Roster.ext' (fun _ => rfl) fun w => ?_
  show (update a.zone z ((a.zone z).map f) w).map Zone.devices =
    (a.zone w).map Zone.devices
  rw [update_apply]
  split_ifs with hw
  · subst hw
    rcases hz : a.zone w with - | zone
    · rfl
    · rw [map_some, map_some, map_some, h zone hz]
  · rfl

theorem withZone_triple {P Q : Apartment D → Prop} {R : Exception → Apartment D → Prop}
    {x : Zone D → Action D}
    (h : ∀ zone, Triple (fun a => P a ∧ a.zone z = some zone) (x zone) Q R)
    (hmissing : ∀ a, P a → a.zone z = none → R (.itemNotFound (toString z)) a) :
    Triple P (withZone z x) Q R := by
  refine Triple.inspect fun zone => ?_
  cases zone with
  | none => exact Triple.raise fun a ha => hmissing a ha.1 ha.2
  | some zone => exact h zone

theorem withDevice_triple {P Q : Apartment D → Prop} {R : Exception → Apartment D → Prop}
    {x : Device D → Action D}
    (h : ∀ device, Triple (fun a => P a ∧ a.device id = some device) (x device) Q R)
    (hmissing : ∀ a, P a → a.device id = none → R (.itemNotFound (rt.dsuid2str id)) a) :
    Triple P (withDevice rt id x) Q R := by
  refine Triple.inspect fun device => ?_
  cases device with
  | none => exact Triple.raise fun a ha => hmissing a ha.1 ha.2
  | some device => exact h device

section Keeps

variable {I : Apartment D → Prop}

theorem withZone_keeps {x : Zone D → Action D} (h : ∀ zone, Keeps I (x zone)) :
    Keeps I (withZone z x) := by
  refine Keeps.inspect fun zone => ?_
  cases zone with
  | none => exact Keeps.raise
  | some zone => exact h zone

theorem withDevice_keeps {x : Device D → Action D} (h : ∀ device, Keeps I (x device)) :
    Keeps I (withDevice rt id x) := by
  refine Keeps.inspect fun device => ?_
  cases device with
  | none => exact Keeps.raise
  | some device => exact h device

theorem withSubset_keeps {select : Device D → Bool} {ids : List D} {x : List D → Action D}
    (h : ∀ selected, Keeps I (x selected)) : Keeps I (withSubset rt select ids x) := by
  refine Keeps.inspect fun selected => ?_
  cases selected with
  | error e => exact Keeps.raise
  | ok selected => exact h selected

end Keeps

theorem zoneID_of_place {own : ℤ} {device : Device D} (hown : a.roster.place id = some own)
    (hdevice : a.device id = some device) : device.zoneID = own := by
  have hplace : (a.device id).map Device.zoneID = some own := hown
  rw [hdevice] at hplace
  exact some.inj hplace

theorem device_of_place {own : ℤ} (hown : a.roster.place id = some own) :
    ∃ device, a.device id = some device ∧ device.zoneID = own :=
  map_eq_some_iff.mp hown

theorem members_isSome : (a.roster.members z).isSome = (a.zone z).isSome :=
  isSome_map

theorem members_of_missing (h : a.zone z = none) : a.roster.members z = none := by
  show (a.zone z).map Zone.devices = none
  rw [h, map_none]

/-! ## Sensors -/

theorem call_roster : Keeps (fun a => a.roster = r) (call rt) := fun _ ha => ha

theorem setSensor_devices {zone changed : Zone D} {device : Device D} {t : SensorType}
    (h : zone.setSensor z id device t = .ok changed) : changed.devices = zone.devices := by
  rw [Zone.setSensor] at h
  split at h
  · cases h
  · split_ifs at h
    obtain rfl := Except.ok.inj h
    rfl

theorem resetSensor_devices {zone : Zone D} {t : SensorType} :
    (zone.resetSensor z t).devices = zone.devices := by
  rw [Zone.resetSensor]
  split_ifs
  · rfl
  · rfl

theorem setZoneSensor_roster {t : SensorType} :
    Keeps (fun a => a.roster = r) (setZoneSensor rt z t id) := by
  refine Keeps.of_triple (withZone_triple (fun zone => ?_) fun _ ha _ => ha)
  refine withDevice_triple (fun device => ?_) fun _ ha _ => ha.1
  rcases h : zone.setSensor z id device t with e | changed
  · exact Triple.raise fun _ ha => ha.1.1
  · refine Triple.andThen (Triple.change ?_) call_roster.triple
    rintro a ⟨⟨hr, hz⟩, -⟩
    rw [← hr]
    refine roster_modifyZone fun other hother => ?_
    rw [hz] at hother
    rw [← some.inj hother, setSensor_devices h]

theorem resetZoneSensor_roster {t : SensorType} :
    Keeps (fun a => a.roster = r) (resetZoneSensor rt z t) := by
  refine withZone_keeps fun zone => Keeps.andThen (Keeps.change fun a hr => ?_) call_roster
  rw [← hr]
  exact roster_modifyZone fun _ _ => resetSensor_devices

theorem autoAssignZoneSensors_roster :
    Keeps (fun a => a.roster = r) (autoAssignZoneSensors rt z) := by
  refine withZone_keeps fun zone => ?_
  split_ifs
  · exact Keeps.skip
  · refine Keeps.forEach fun t _ => withSubset_keeps fun selected => Keeps.inspect fun found => ?_
    cases found with
    | none => exact Keeps.skip
    | some _ => exact setZoneSensor_roster

variable [DecidableEq D]

theorem checkSensorsOnDeviceRemoval_roster :
    Keeps (fun a => a.roster = r) (checkSensorsOnDeviceRemoval rt z id) :=
  withZone_keeps fun _ =>
    (Keeps.forEach fun _ _ => resetZoneSensor_roster).andThen autoAssignZoneSensors_roster

/-! ## Lists -/

omit [DecidableEq D] in
theorem roster_mapDevices {f : Zone D → Zone D} {g : List D → List D}
    (h : ∀ zone, (f zone).devices = g zone.devices) :
    (a.modifyZone z f).roster =
      { a.roster with
        members := Function.update a.roster.members z ((a.roster.members z).map g) } := by
  refine Roster.ext' (fun _ => rfl) fun w => ?_
  show (Function.update a.zone z ((a.zone z).map f) w).map Zone.devices =
    Function.update a.roster.members z ((a.roster.members z).map g) w
  rw [Function.update_apply, Function.update_apply]
  split_ifs
  · show _ = ((a.zone z).map Zone.devices).map g
    cases a.zone z with
    | none => rfl
    | some zone => exact congrArg some (h zone)
  · rfl

theorem roster_removeDevice :
    (a.modifyZone z (Zone.removeDevice id)).roster = a.roster.leave z id :=
  roster_mapDevices fun _ => rfl

theorem insert_devices {zone : Zone D} : (zone.insert id).devices =
    if id ∈ zone.devices then zone.devices else zone.devices ++ [id] := by
  rw [Zone.insert]
  split_ifs
  · rfl
  · rfl

theorem roster_insert :
    (a.modifyZone z (Zone.insert id)).roster = a.roster.enter z id :=
  roster_mapDevices fun _ => insert_devices

theorem roster_setZoneID (h : (a.device id).isSome) :
    (a.setZoneID id z).roster = a.roster.assign id z := by
  obtain ⟨device, hdevice⟩ := isSome_iff_exists.mp h
  refine Roster.ext' (fun e => ?_) fun _ => rfl
  rw [Roster.place_assign]
  show (update a.device id ((a.device id).map _) e).map Device.zoneID = _
  rw [update_apply, hdevice]
  split_ifs
  · rfl
  · rfl

theorem leave_of_missing (h : r.members z = none) : r.leave z id = r := by
  refine Roster.ext' (fun _ => rfl) fun w => ?_
  rw [Roster.leave]
  dsimp only
  rw [h, map_none, update_apply]
  split_ifs with hw
  · rw [hw, h]
  · rfl

/-- `Zone::addDevice` in the records, for a device in the zone `own`. -/
def entered (own z : ℤ) (id : D) (r : Roster D ℤ) : Roster D ℤ :=
  ((if own = -1 ∨ own = 0 then r else r.leave own id).enter z id).assign id z

/-- `addDeviceToZone` in the records, for a device in the zone `own`. -/
def transferred (own z : ℤ) (id : D) (r : Roster D ℤ) : Roster D ℤ :=
  if own = 0 then entered z z id (r.assign id z)
  else (entered z z id (r.assign id z)).leave own id

theorem removeFromZone_roster (z : ℤ) (id : D) :
    Triple (fun a => a.roster = r) (removeFromZone z id)
    (fun a => a.roster = r.leave z id) fun _ a => r.members z = none ∧ a.roster = r := by
  refine withZone_triple (fun zone => Triple.change ?_) ?_
  · rintro a ⟨rfl, -⟩
    exact roster_removeDevice
  · rintro a rfl hz
    exact ⟨members_of_missing hz, rfl⟩

variable {own : ℤ}

theorem zoneAddDevice_roster (rt : Runtime D) (z : ℤ) (hown : r.place id = some own) :
    Triple (fun a => a.roster = r) (zoneAddDevice rt z id)
      (fun a => a.roster = entered own z id r) fun _ _ => False := by
  refine withDevice_triple (fun device => ?_) ?_
  · refine Triple.having (p := device.zoneID = own) ?_ ?_
    · rintro a ⟨rfl, hdevice⟩
      exact zoneID_of_place hown hdevice
    · intro hzone
      rw [hzone]
      refine Triple.andThen (M := fun a => a.roster = if own = -1 ∨ own = 0 then r
        else r.leave own id) ?_ (Triple.andThen (M := fun a => a.roster =
          (if own = -1 ∨ own = 0 then r else r.leave own id).enter z id) ?_ ?_)
      · by_cases hskip : own = -1 ∨ own = 0
        · rw [if_neg (by omega), if_pos hskip]
          exact Triple.skip fun a ha => ha.1
        · rw [if_pos (by omega), if_neg hskip]
          -- a zone that is not found is caught: the device was on no list there
          refine Triple.catching (N := fun e a => e = .itemNotFound (toString own) ∧
            a.roster = r.leave own id) (withZone_triple (fun zone => Triple.change ?_) ?_)
            (fun _ _ h _ => h.2) ?_
          · rintro a ⟨⟨rfl, -⟩, -⟩
            exact roster_removeDevice
          · rintro a ⟨rfl, -⟩ hz
            exact ⟨rfl, by rw [leave_of_missing (members_of_missing hz)]⟩
          · rintro e a ⟨rfl, -⟩ hpassed
            cases hpassed
      · refine Triple.change fun a ha => ?_
        rw [roster_insert, ha]
      · refine Triple.change fun a ha => ?_
        have hknown : a.roster.place id = some own := by
          rw [ha]
          split_ifs
          · exact hown
          · exact hown
        obtain ⟨device, hdevice, -⟩ := device_of_place hknown
        rw [roster_setZoneID (isSome_iff_exists.mpr ⟨device, hdevice⟩), ha, entered]
  · rintro a rfl hdevice
    obtain ⟨device, hsome, -⟩ := device_of_place hown
    rw [hdevice] at hsome
    cases hsome

theorem allocateDevice_roster (rt : Runtime D) (id : D) (hz : (r.members 0).isSome) :
    Triple (fun a => a.roster = r) (allocateDevice rt id)
      (fun a => a.roster = match r.place id with
        | none => (r.enter 0 id).assign id 0
        | some own => entered own 0 id r) fun _ _ => False := by
  rcases hplace : r.place id with - | own
  · refine Triple.andThen (M := fun a => a.roster = r.assign id 0) (Triple.change ?_)
      (withZone_triple (fun zone => ?_) ?_)
    · rintro a rfl
      have hdevice : a.device id = none := map_eq_none_iff.mp hplace
      rw [hdevice]
      refine Roster.ext' (fun e => ?_) fun _ => rfl
      rw [Roster.place_assign]
      show (update a.device id (some (newDevice rt)) e).map Device.zoneID = _
      rw [update_apply]
      split_ifs
      · rfl
      · rfl
    · have hnew : (r.assign id 0).place id = some 0 := by rw [Roster.place_assign, if_pos rfl]
      refine (zoneAddDevice_roster rt 0 hnew).weaken (fun a ha => ha.1) (fun a ha => ?_)
        fun _ _ h => h
      rw [ha, entered, if_pos (Or.inr rfl)]
      refine Roster.ext' (fun e => ?_) fun _ => rfl
      simp only [Roster.place_assign, Roster.place_enter]
      split_ifs
      · rfl
      · rfl
    · rintro a ha hmissing
      have hlist : (a.roster.members 0).isSome := by rw [ha]; exact hz
      rw [members_of_missing hmissing] at hlist
      cases hlist
  · refine Triple.andThen (M := fun a => a.roster = r) (Triple.change ?_)
      (withZone_triple (fun zone => (zoneAddDevice_roster rt 0 hplace).pre fun a ha => ha.1) ?_)
    · rintro a rfl
      obtain ⟨device, hdevice, -⟩ := device_of_place hplace
      rw [hdevice]
      rfl
    · rintro a rfl hmissing
      rw [members_of_missing hmissing] at hz
      cases hz

theorem roster_forget :
    ({ a with device := Function.update a.device id none } : Apartment D).roster =
      a.roster.forget id := by
  refine Roster.ext' (fun e => ?_) fun _ => rfl
  rw [Roster.place_forget]
  show (update a.device id none e).map Device.zoneID = _
  rw [update_apply]
  split_ifs
  · rfl
  · rfl

/-- What `Apartment::removeDevice` does for a device; it throws if its zone or zone 0 is not
there. -/
theorem apartmentRemoveDevice_roster (hown : r.place id = some own) :
    Triple (fun a => a.roster = r) (apartmentRemoveDevice id)
      (fun a => a.roster = ((if own = 0 then r else r.leave own id).leave 0 id).forget id)
      fun _ _ => r.members own = none ∨ r.members 0 = none := by
  refine Triple.inspect fun found => ?_
  refine Triple.having (p := ∃ device, found = some device ∧ device.zoneID = own) ?_ ?_
  · rintro a ⟨rfl, rfl⟩
    exact device_of_place hown
  · rintro ⟨device, rfl, hzone⟩
    dsimp only
    rw [hzone]
    refine Triple.andThen (M := fun a => a.roster = if own = 0 then r else r.leave own id) ?_
      (Triple.andThen (M := fun a => a.roster =
        (if own = 0 then r else r.leave own id).leave 0 id) ?_ (Triple.change ?_))
    · by_cases hroot : own = 0
      · rw [if_neg (not_not_intro hroot), if_pos hroot]
        exact Triple.skip fun a ha => ha.1
      · rw [if_pos hroot, if_neg hroot]
        exact (removeFromZone_roster own id).weaken (fun a ha => ha.1) (fun _ ha => ha)
          fun _ _ h => Or.inl h.1
    · refine (removeFromZone_roster 0 id).throws fun _ _ h => ?_
      obtain ⟨hmissing, -⟩ := h
      by_cases hroot : own = 0
      · rw [if_pos hroot] at hmissing
        exact Or.inr hmissing
      · rw [if_neg hroot, ← not_isSome_iff_eq_none, Roster.members_leave,
          not_isSome_iff_eq_none] at hmissing
        exact Or.inr hmissing
    · intro a ha
      rw [roster_forget, ha]

theorem members_entered {own w : ℤ} :
    ((entered own z id r).members w).isSome = (r.members w).isSome := by
  rw [entered, Roster.members_assign, Roster.members_enter]
  split_ifs
  · rfl
  · exact Roster.members_leave

theorem leaveOldZone_roster {device : Device D} :
    Triple (fun a => a.roster = r) (leaveOldZone rt id device)
      (fun a => a.roster = r.leave device.zoneID id)
      fun _ a => r.members device.zoneID = none ∨ a.roster = r.leave device.zoneID id := by
  refine Triple.andThen ((removeFromZone_roster device.zoneID id).throws fun _ _ h => Or.inl h.1) ?_
  refine Triple.throws (Keeps.triple ?_) fun _ _ ha => Or.inr ha
  refine checkSensorsOnDeviceRemoval_roster.andThen (withZone_keeps fun zone =>
    withSubset_keeps fun present => ?_)
  split_ifs
  · exact call_roster.catching
  · exact Keeps.skip

/-- What `addDeviceToZone` does for a device: nothing if it throws before the device has its new
zone. -/
theorem addDeviceToZone_roster (rt : Runtime D) (z : ℤ) (hown : r.place id = some own) :
    Triple (fun a => a.roster = r) (addDeviceToZone rt id z)
      (fun a => a.roster = transferred own z id r)
      fun _ a => a.roster = r ∨ a.roster = transferred own z id r ∨ r.members own = none := by
  refine withDevice_triple (fun device => ?_) fun _ ha _ => Or.inl ha
  refine Triple.having (p := device.zoneID = own) ?_ fun hzone => ?_
  · rintro a ⟨rfl, hdevice⟩
    exact zoneID_of_place hown hdevice
  refine withZone_triple (fun zone => ?_) fun _ ha _ => Or.inl ha.1
  by_cases hpresent : device.isPresent = false
  · rw [if_pos hpresent]
    exact Triple.raise fun _ ha => Or.inl ha.1.1
  · have hcall : Triple (fun a => a.roster = r) (call rt) (fun a => a.roster = r)
        fun _ a => a.roster = r ∨ a.roster = transferred own z id r ∨ r.members own = none :=
      call_roster.triple.throws fun _ _ ha => Or.inl ha
    have hplace : (r.assign id z).place id = some z := by rw [Roster.place_assign, if_pos rfl]
    have hset : Triple (fun a => a.roster = r)
        (change (Apartment.setZoneID id z) : Action D) (fun a => a.roster = r.assign id z)
        fun _ a => a.roster = r ∨ a.roster = transferred own z id r ∨ r.members own = none := by
      rintro a rfl
      obtain ⟨device, hdevice, -⟩ := device_of_place hown
      exact roster_setZoneID (isSome_iff_exists.mpr ⟨device, hdevice⟩)
    rw [if_neg hpresent]
    refine (hcall.pre fun a ha => ha.1.1).andThen (hcall.andThen (hset.andThen ?_))
    refine ((zoneAddDevice_roster rt z hplace).throws fun _ _ h => h.elim).andThen ?_
    refine Triple.andThen (M := fun a => a.roster = transferred own z id r) ?_ ?_
    · rw [transferred]
      by_cases hroot : own = 0
      · rw [if_neg (by rw [hzone]; exact not_not_intro hroot), if_pos hroot]
        exact Triple.skip fun _ ha => ha
      · rw [if_pos (by rw [hzone]; exact hroot), if_neg hroot, ← hzone]
        refine leaveOldZone_roster.throws fun _ a h => ?_
        rcases h with hmissing | ha
        · rw [← not_isSome_iff_eq_none, members_entered, not_isSome_iff_eq_none] at hmissing
          exact Or.inr (Or.inr hmissing)
        · exact Or.inr (Or.inl ha)
    · exact autoAssignZoneSensors_roster.triple.throws fun _ _ ha => Or.inr (Or.inl ha)

end ZoneMembership

end Dss
