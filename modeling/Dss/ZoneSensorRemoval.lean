import Dss.Transition
import Dss.ZoneSensors

/-!
# The main sensors of the zones, when devices are removed

The sensors of a device that is removed are given up in its own zone, and the types are assigned
again before the device has left. If it is the first present one with a sensor of the type, it
is assigned again; and what it is assigned for in zone 0 is not given up at all.
-/

namespace Dss

open Throwing Throwing.Statement Transition

namespace ZoneMembership

variable {D : Type} {rt : Runtime D} {a b : Apartment D} {z w own : ℤ} {id : D} {t : SensorType}
  {ts us : List SensorType} {zone : Zone D} {n : ℕ}

/-! ## What is left alone -/

theorem setZoneSensor_device {d : D → Option (Device D)} :
    Keeps (fun a => a.device = d) (setZoneSensor rt z t id) := by
  refine withZone_keeps fun zone => withDevice_keeps fun device => ?_
  rcases zone.setSensor z id device t with e | changed
  · exact Keeps.raise
  · exact Keeps.andThen (Keeps.change fun _ ha => ha) fun _ ha => ha

theorem resetZoneSensor_device {d : D → Option (Device D)} :
    Keeps (fun a => a.device = d) (resetZoneSensor rt z t) :=
  withZone_keeps fun _ => Keeps.andThen (Keeps.change fun _ ha => ha) fun _ ha => ha

theorem autoAssignType_keeps {I : Apartment D → Prop} {ds : List D}
    (h : ∀ id, Keeps I (setZoneSensor rt z t id)) : Keeps I (autoAssignType rt z ds t) :=
  Keeps.of_triple (autoAssignType_triple (fun _ ha _ => ha)
    (fun id => (h id).triple.pre fun _ ha => ha.1) fun _ _ ha => ha)

theorem autoAssignZoneSensors_keeps {I : Apartment D → Prop}
    (h : ∀ t id, Keeps I (setZoneSensor rt z t id)) : Keeps I (autoAssignZoneSensors rt z) := by
  refine withZone_keeps fun zone => ?_
  split_ifs
  · exact Keeps.skip
  · exact Keeps.forEach fun t _ => autoAssignType_keeps (h t)

theorem checkSensorsOnDeviceRemoval_keeps [DecidableEq D] {I : Apartment D → Prop}
    (hset : ∀ t id, Keeps I (setZoneSensor rt z t id))
    (hreset : ∀ t, Keeps I (resetZoneSensor rt z t)) :
    Keeps I (checkSensorsOnDeviceRemoval rt z id) :=
  withZone_keeps fun _ =>
    (Keeps.forEach fun t _ => hreset t).andThen (autoAssignZoneSensors_keeps hset)

theorem mainSensors_modifyZone_of_ne {f : Zone D → Zone D} (h : w ≠ z) :
    (a.modifyZone z f).mainSensors w = a.mainSensors w := by
  rw [Apartment.mainSensors, Apartment.modifyZone]
  dsimp only
  rw [Function.update_of_ne h]
  rfl

theorem setZoneSensor_others {m : List (MainZoneSensor D)} (h : w ≠ z) :
    Keeps (fun a => a.mainSensors w = m) (setZoneSensor rt z t id) := by
  refine withZone_keeps fun zone => withDevice_keeps fun device => ?_
  rcases zone.setSensor z id device t with e | changed
  · exact Keeps.raise
  · refine Keeps.andThen (Keeps.change fun a ha => ?_) fun _ ha => ha
    rw [mainSensors_modifyZone_of_ne h, ha]

theorem resetZoneSensor_others {m : List (MainZoneSensor D)} (h : w ≠ z) :
    Keeps (fun a => a.mainSensors w = m) (resetZoneSensor rt z t) := by
  refine withZone_keeps fun zone => Keeps.andThen (Keeps.change fun a ha => ?_) fun _ ha => ha
  rw [mainSensors_modifyZone_of_ne h, ha]

/-! ## What is chosen -/

section Choice

variable [DecidableEq D]

def freeTypes (a : Apartment D) (own : ℤ) (id : D) : List SensorType :=
  (allowedSensorTypes own).filter fun t =>
    (a.mainSensors own).all fun ms => ms.sensorType ≠ t ∨ t ∈ assignedTypes a own id

def chosenTypes (a : Apartment D) (own : ℤ) (id : D) : List SensorType :=
  (freeTypes a own id).filter fun t => (firstPresent a (a.listed own) t).isSome

structure GivenUp (a : Apartment D) (own : ℤ) (id : D) (b : Apartment D) : Prop where
  device : b.device = a.device
  roster : b.roster = a.roster
  sensors : b.mainSensors own =
    (a.mainSensors own).filter fun ms => ms.sensorType ∉ assignedTypes a own id

theorem GivenUp.unassigned (h : GivenUp a own id b) (hz : b.zone own = some zone) :
    zone.getUnassignedSensorTypes own = freeTypes a own id := by
  have hsensors := h.sensors
  rw [mainSensors_of_zone hz] at hsensors
  refine List.filter_congr fun t _ => ?_
  rw [Zone.isSensorAssigned, hsensors, List.any_filter, Bool.eq_iff_iff]
  simp only [Bool.not_eq_true', List.any_eq_false, List.all_eq_true, Bool.and_eq_true,
    decide_eq_true_eq, not_and, decide_not, Bool.not_eq_true', decide_eq_false_iff_not, ne_eq]
  constructor
  · intro hfree ms hms
    by_cases ht : ms.sensorType = t
    · by_contra hnot
      rw [not_or] at hnot
      exact hfree ms hms (by rw [ht]; exact hnot.2) ht
    · exact Or.inl ht
  · intro hfree ms hms hnew ht
    obtain hne | hin := hfree ms hms
    · exact hne ht
    · exact hnew (by rw [ht]; exact hin)

theorem GivenUp.assignedTypes_eq (h : GivenUp a own id b) : assignedTypes b own id = [] := by
  rw [assignedTypes, h.sensors, List.filter_filter, List.map_eq_nil_iff,
    List.filter_eq_nil_iff]
  intro ms hms hboth
  rw [Bool.and_eq_true, decide_eq_true_eq, decide_eq_true_eq] at hboth
  refine hboth.2 (List.mem_map.mpr ⟨ms, List.mem_filter.mpr ⟨hms, ?_⟩, rfl⟩)
  exact decide_eq_true hboth.1

end Choice

theorem firstPresent_congr {ds : List D} (h : b.device = a.device) :
    firstPresent b ds t = firstPresent a ds t := by
  rw [firstPresent, firstPresent, h]

/-! ## Checking the sensors of a device -/

theorem resets_spec (rt : Runtime D) {l : List (MainZoneSensor D)}
    (hallowed : ∀ t ∈ ts, isAllowedSensorType own t = true) :
    Triple (fun b => b.mainSensors own = l ∧ b.busCalls = n)
      (forEach (resetZoneSensor rt own) ts)
      (fun b => (b.mainSensors own = l.filter fun ms => ms.sensorType ∉ ts) ∧
        b.busCalls = n + ts.length ∧ ∀ i < ts.length, rt.bus (n + i) = none)
      fun _ _ => True := by
  induction ts generalizing l n with
  | nil =>
    refine Triple.skip ?_
    simp
  | cons t ts ih =>
    have ht := hallowed t (List.mem_cons_self ..)
    refine Triple.andThen (M := fun b => rt.bus n = none ∧
      ((b.mainSensors own = l.filter fun ms => ms.sensorType ≠ t) ∧ b.busCalls = n + 1)) ?_ ?_
    · refine withZone_triple (fun zone => ?_) fun _ _ _ => trivial
      refine Triple.andThen (M := fun b =>
        (b.mainSensors own = l.filter fun ms => ms.sensorType ≠ t) ∧ b.busCalls = n)
        (Triple.change ?_) ?_
      · rintro b ⟨⟨rfl, rfl⟩, hz⟩
        refine ⟨?_, rfl⟩
        rw [mainSensors_modifyZone hz, if_pos rfl, Zone.resetSensor, if_pos ht,
          mainSensors_of_zone hz]
      · rintro b ⟨hm, rfl⟩
        rw [call]
        rcases hbus : rt.bus b.busCalls with - | e
        · exact ⟨rfl, hm, rfl⟩
        · trivial
    · refine Triple.having (fun b hb => hb.1) fun hfirst => ?_
      refine (ih fun u hu => hallowed u (List.mem_cons_of_mem _ hu)).weaken (fun b hb => hb.2)
        (fun b hb => ?_) fun _ _ h => h
      obtain ⟨hm, hn, hbus⟩ := hb
      refine ⟨?_, ?_, ?_⟩
      · rw [hm, List.filter_filter]
        simp only [List.mem_cons, not_or, Bool.decide_and, Bool.and_comm, ne_eq]
      · rw [List.length_cons]
        omega
      · intro i hi
        cases i with
        | zero => exact hfirst
        | succ i =>
          have := hbus i (by rw [List.length_cons] at hi; omega)
          rwa [Nat.add_assoc, Nat.add_comm 1 i] at this

theorem setZoneSensor_calls : Triple (fun b => b.busCalls = n) (setZoneSensor rt z t id)
    (fun b => b.busCalls = n + 1 ∧ rt.bus n = none) fun _ _ => True := by
  refine withZone_triple (fun zone => withDevice_triple (fun device => ?_) fun _ _ _ => trivial)
    fun _ _ _ => trivial
  rcases zone.setSensor z id device t with e | changed
  · exact Triple.raise fun _ _ => trivial
  · refine Triple.andThen (M := fun b => b.busCalls = n) (Triple.change fun b hb => hb.1.1) ?_
    rintro b rfl
    rw [call]
    rcases hbus : rt.bus b.busCalls with - | e
    · exact ⟨rfl, rfl⟩
    · trivial

theorem autoAssign_calls {ds : List D} :
    Triple (fun b => b.device = a.device ∧ b.busCalls = n)
      (forEach (autoAssignType rt own ds) us)
      (fun _ => ∀ i < (us.filter fun t => (firstPresent a ds t).isSome).length,
        rt.bus (n + i) = none) fun _ _ => True := by
  induction us generalizing n with
  | nil => exact Triple.skip fun _ _ i hi => absurd hi (Nat.not_lt_zero i)
  | cons t us ih =>
    rw [List.filter_cons]
    rcases hfirst : firstPresent a ds t with - | id
    · -- nothing happens for this type
      refine Triple.andThen (M := fun b => b.device = a.device ∧ b.busCalls = n)
        (autoAssignType_triple (fun b hb _ => hb) (fun id => ?_) fun _ _ _ => trivial) ih
      refine Triple.having (p := False) (fun b hb => ?_) fun hfalse => hfalse.elim
      rw [firstPresent_congr hb.1.1, hfirst] at hb
      cases hb.2
    · refine Triple.andThen (M := fun b => rt.bus n = none ∧
        (b.device = a.device ∧ b.busCalls = n + 1))
        (autoAssignType_triple (fun b hb hnone => ?_) (fun id => ?_) fun _ _ _ => trivial) ?_
      · rw [firstPresent_congr hb.1, hfirst] at hnone
        cases hnone
      · exact (setZoneSensor_device.add setZoneSensor_calls).weaken
          (fun b hb => ⟨hb.1.2, hb.1.1⟩) (fun b hb => ⟨hb.1.2, hb.2, hb.1.1⟩)
          fun _ _ _ => trivial
      · refine Triple.having (fun b hb => hb.1) fun hnow => ?_
        refine ih.weaken (fun b hb => hb.2) (fun b hb => ?_) fun _ _ h => h
        intro i hi
        cases i with
        | zero => exact hnow
        | succ i =>
          have := hb i (by rw [if_pos Option.isSome_some, List.length_cons] at hi; omega)
          rwa [Nat.add_assoc, Nat.add_comm 1 i] at this

variable [DecidableEq D]

theorem assignedTypes_eq_nil : assignedTypes a z id = [] ↔
    ∀ ms ∈ a.mainSensors z, ms.dsuid ≠ id := by
  rw [assignedTypes, List.map_eq_nil_iff, List.filter_eq_nil_iff]
  simp only [decide_eq_true_eq, ne_eq]

theorem setZoneSensor_unassigned {d : D} (hne : d ≠ id) :
    Keeps (fun a => assignedTypes a w id = []) (setZoneSensor rt z t d) := by
  refine Keeps.of_triple (withZone_triple (fun zone => ?_) fun _ ha _ => ha)
  refine withDevice_triple (fun device => ?_) fun _ ha _ => ha.1
  rcases hset : zone.setSensor z d device t with e | changed
  · exact Triple.raise fun _ ha => ha.1.1
  · refine Triple.andThen (Triple.change ?_) (Keeps.triple fun _ ha => ha)
    rintro a ⟨⟨h, hz⟩, -⟩
    obtain ⟨-, index, rfl⟩ := setSensor_ok hset
    rw [assignedTypes_eq_nil] at h ⊢
    intro ms hms
    rw [mainSensors_modifyZone hz] at hms
    split_ifs at hms with hw
    · rw [hw, mainSensors_of_zone hz] at h
      obtain rfl | hin := mem_assign hms
      · exact hne
      · exact h ms hin
    · exact h ms hms

theorem givenUp_spec (h : Sound a) :
    Triple (fun b => b = a) (forEach (resetZoneSensor rt own) (assignedTypes a own id))
      (fun b => GivenUp a own id b ∧
        b.busCalls = a.busCalls + (assignedTypes a own id).length ∧
        ∀ i < (assignedTypes a own id).length, rt.bus (a.busCalls + i) = none)
      fun _ _ => True := by
  have hdevice : Keeps (fun b => b.device = a.device)
      (forEach (resetZoneSensor rt own) (assignedTypes a own id)) :=
    Keeps.forEach fun t _ => resetZoneSensor_device
  have hroster : Keeps (fun b => b.roster = a.roster)
      (forEach (resetZoneSensor rt own) (assignedTypes a own id)) :=
    Keeps.forEach fun t _ => resetZoneSensor_roster
  have hspec := (hdevice.and hroster).add (resets_spec rt (l := a.mainSensors own)
    (n := a.busCalls) fun t ht => h.allowed_assignedTypes ht)
  refine hspec.weaken ?_ ?_ fun _ _ _ => trivial
  · rintro b rfl
    exact ⟨⟨rfl, rfl⟩, rfl, rfl⟩
  · rintro b ⟨⟨hm, hn, hbus⟩, hd, hr⟩
    exact ⟨⟨hd, hr, hm⟩, hn, hbus⟩

theorem check_triple {M Q : Apartment D → Prop}
    (hgive : Triple (fun b => b = a)
      (forEach (resetZoneSensor rt own) (assignedTypes a own id)) M fun _ _ => True)
    (hassign : ∀ zone, Triple (fun b => M b ∧ b.zone own = some zone)
      (forEach (autoAssignType rt own zone.devices) (zone.getUnassignedSensorTypes own)) Q
      fun _ _ => True)
    (hempty : ∀ b zone, M b → b.zone own = some zone → zone.devices = [] → Q b) :
    Triple (fun b => b = a) (checkSensorsOnDeviceRemoval rt own id) Q fun _ _ => True := by
  refine withZone_triple (fun zone => ?_) fun _ _ _ => trivial
  refine Triple.having (p := assignedTypes a own id = zone.getAssignedSensorTypes id) ?_ ?_
  · rintro b ⟨rfl, hz⟩
    exact assignedTypes_of_zone hz
  · intro htypes
    rw [← htypes]
    refine (hgive.pre fun b hb => hb.1).andThen ?_
    refine withZone_triple (fun zone => ?_) fun _ _ _ => trivial
    split_ifs with hnone
    · exact Triple.skip fun b hb => hempty b zone hb.1 hb.2 hnone
    · exact hassign zone

/-- **The calls of a check.** If it ends normally, the bus has not thrown for any type that was
given up, nor for any that was assigned again. -/
theorem check_calls (h : Sound a) :
    Triple (fun b => b = a) (checkSensorsOnDeviceRemoval rt own id)
      (fun _ => ∀ i < (assignedTypes a own id).length + (chosenTypes a own id).length,
        rt.bus (a.busCalls + i) = none) fun _ _ => True := by
  refine check_triple (givenUp_spec h) (fun zone => ?_) ?_
  · refine Triple.having (p := zone.devices = a.listed own ∧
      zone.getUnassignedSensorTypes own = freeTypes a own id ∧
      ∀ i < (assignedTypes a own id).length, rt.bus (a.busCalls + i) = none) ?_ ?_
    · rintro b ⟨⟨hgiven, -, hbus⟩, hz⟩
      refine ⟨?_, hgiven.unassigned hz, hbus⟩
      rw [← listed_of_zone hz, ← roster_listed, hgiven.roster, roster_listed]
    · rintro ⟨hdevices, hfree, hbus⟩
      rw [hdevices, hfree]
      refine autoAssign_calls.weaken (fun b hb => ⟨hb.1.1.device, hb.1.2.1⟩) (fun b hb => ?_)
        fun _ _ _ => trivial
      intro i hi
      by_cases hearly : i < (assignedTypes a own id).length
      · exact hbus i hearly
      · have := hb (i - (assignedTypes a own id).length) (by rw [chosenTypes] at hi; omega)
        rwa [Nat.add_assoc, Nat.add_sub_cancel' (Nat.le_of_not_lt hearly)] at this
  · rintro b zone ⟨hgiven, -, hbus⟩ hz hempty i hi
    have hlisted : a.listed own = [] := by
      rw [← roster_listed, ← hgiven.roster, roster_listed, listed_of_zone hz, hempty]
    have hnone : chosenTypes a own id = [] := by
      rw [chosenTypes, hlisted]
      exact List.filter_eq_nil_iff.mpr fun t _ => by simp [firstPresent]
    rw [hnone] at hi
    exact hbus i hi

/-- **The device that is checked.** If it is not the one that is chosen, it is not assigned any
more. -/
theorem check_unassigned (rt : Runtime D) (h : Sound a)
    (hfree : ∀ t ∈ freeTypes a own id, firstPresent a (a.listed own) t ≠ some id) :
    Triple (fun b => b = a) (checkSensorsOnDeviceRemoval rt own id)
      (fun b => assignedTypes b own id = []) fun _ _ => True := by
  refine check_triple (givenUp_spec h) (fun zone => ?_) fun b _ hb _ _ => hb.1.assignedTypes_eq
  refine Triple.having (p := zone.devices = a.listed own ∧
    zone.getUnassignedSensorTypes own = freeTypes a own id) ?_ ?_
  · rintro b ⟨⟨hgiven, -⟩, hz⟩
    refine ⟨?_, hgiven.unassigned hz⟩
    rw [← listed_of_zone hz, ← roster_listed, hgiven.roster, roster_listed]
  · rintro ⟨hdevices, htypes⟩
    rw [hdevices, htypes]
    have hkeep : Keeps (fun b => b.device = a.device ∧ assignedTypes b own id = [])
        (forEach (autoAssignType rt own (a.listed own)) (freeTypes a own id)) := by
      refine Keeps.forEach fun t ht => Keeps.of_triple (autoAssignType_triple
        (fun _ hb _ => hb) (fun d => ?_) fun _ _ hb => hb)
      refine Triple.having (p := d ≠ id) ?_ fun hne => ?_
      · rintro b ⟨⟨hd, -⟩, hfirst⟩ rfl
        rw [firstPresent_congr hd] at hfirst
        exact hfree t ht hfirst
      · exact ((setZoneSensor_device.and (setZoneSensor_unassigned hne)).triple).pre
          fun b hb => hb.1
    exact hkeep.triple.weaken (fun b hb => ⟨hb.1.1.device, hb.1.1.assignedTypes_eq⟩)
      (fun b hb => hb.2) fun _ _ _ => trivial

/-! ## Taking a device out -/

/-- What taking a device out has to meet, should the device and its zone be there: the bus
throws while its sensors are checked; or it is not assigned in zone 0, unless it is in that
zone, and it is not the one to be assigned again. -/
def TakeOutFits (rt : Runtime D) (a : Apartment D) (own : ℤ) (id : D) : Prop :=
  (a.zone own).isSome ∧ (a.device id).isSome →
    (∃ i < (assignedTypes a own id).length + (chosenTypes a own id).length,
      rt.bus (a.busCalls + i) ≠ none) ∨
    ((own ≠ 0 → assignedTypes a 0 id = []) ∧
      ∀ t ∈ freeTypes a own id, firstPresent a (a.listed own) t ≠ some id)

theorem removeFromZone_sound (own w : ℤ) (id : D) : Keeps (fun a => Sound a ∧
    assignedTypes a own id = [] ∧ assignedTypes a w id = []) (removeFromZone own id) := by
  refine withZone_keeps fun zone => Keeps.change ?_
  rintro a ⟨h, hown, hw⟩
  have hleave := h.leave own id
  rw [hown] at hleave
  refine ⟨hleave.sound, ?_, ?_⟩
  · rw [assignedTypes, mainSensors_removeDevice, ← assignedTypes, hown]
  · rw [assignedTypes, mainSensors_removeDevice, ← assignedTypes, hw]

theorem apartmentRemoveDevice_sound (h : Sound a)
    (hzone : ∀ device, a.device id = some device → device.zoneID = own)
    (hnone : (a.device id).isSome → assignedTypes a own id = [] ∧ assignedTypes a 0 id = []) :
    Sound (apartmentRemoveDevice id a).1 := by
  rw [apartmentRemoveDevice, inspect_apply]
  rcases hdevice : a.device id with - | device
  · exact h
  · obtain rfl := hzone device hdevice
    obtain ⟨hown, hmain⟩ := hnone (by rw [hdevice]; rfl)
    have hkeep : Keeps (fun a => Sound a ∧ assignedTypes a device.zoneID id = [] ∧
        assignedTypes a 0 id = [])
        ((if device.zoneID ≠ 0 then removeFromZone device.zoneID id else skip).andThen <|
          (removeFromZone 0 id).andThen <|
          change fun a => { a with device := Function.update a.device id none }) := by
      refine Keeps.andThen ?_ (Keeps.andThen ?_ (Keeps.change fun a ha =>
        ⟨⟨ha.1.once, ha.1.allowed, ha.1.member⟩, ha.2⟩))
      · split_ifs
        · exact removeFromZone_sound device.zoneID 0 id
        · exact Keeps.skip
      · intro a ha
        have hswap := removeFromZone_sound 0 device.zoneID id a
          ⟨ha.1, ha.2.2, ha.2.1⟩
        exact ⟨hswap.1, hswap.2.2, hswap.2.1⟩
    exact (hkeep a ⟨h, hown, hmain⟩).1

theorem takeOut_sound {device : Device D} (h : Sound a)
    (hzone : ∀ other, a.device id = some other → other.zoneID = device.zoneID)
    (hfits : TakeOutFits rt a device.zoneID id) : Sound (takeOut rt id device a).1 := by
  have htriple : Triple (fun b => b = a) (takeOut rt id device) Sound fun _ => Sound := by
    refine withZone_triple (fun zone => ?_) fun b hb _ => hb ▸ h
    refine Triple.having (p := a.zone device.zoneID = some zone) (fun b hb => hb.1 ▸ hb.2)
      fun hz => ?_
    -- behind the check, the device is assigned for nothing
    have hcheck : Triple (fun b => b = a) (checkSensorsOnDeviceRemoval rt device.zoneID id)
        (fun b => (a.device id).isSome →
          assignedTypes b device.zoneID id = [] ∧ assignedTypes b 0 id = []) fun _ _ => True := by
      by_cases hknown : (a.device id).isSome
      · have hsome : (a.zone device.zoneID).isSome := by rw [hz]; rfl
        obtain ⟨i, hi, hthrow⟩ | ⟨hmain, hfree⟩ := hfits ⟨hsome, hknown⟩
        · exact (check_calls h).weaken (fun _ hb => hb)
            (fun b hb => absurd (hb i hi) hthrow) fun _ _ _ => trivial
        · have hun := check_unassigned rt h hfree
          by_cases hroot : device.zoneID = 0
          · rw [hroot] at hun ⊢
            exact hun.weaken (fun _ hb => hb) (fun b hb _ => ⟨hb, hb⟩) fun _ _ _ => trivial
          · have hothers : Keeps (fun b => b.mainSensors 0 = a.mainSensors 0)
                (checkSensorsOnDeviceRemoval rt device.zoneID id) :=
              checkSensorsOnDeviceRemoval_keeps
                (fun _ _ => setZoneSensor_others (Ne.symm hroot))
                fun _ => resetZoneSensor_others (Ne.symm hroot)
            refine (hothers.add hun).weaken (fun b hb => ⟨hb, hb ▸ rfl⟩) (fun b hb _ => ?_)
              fun _ _ _ => trivial
            refine ⟨hb.1, ?_⟩
            rw [assignedTypes, hb.2, ← assignedTypes, hmain hroot]
      · exact Triple.weaken (Keeps.triple (I := fun _ => True) fun _ _ => trivial)
          (fun _ _ => trivial) (fun b _ hsome => absurd hsome hknown) fun _ _ _ => trivial
    have hdevice : Keeps (fun b => b.device = a.device)
        (checkSensorsOnDeviceRemoval rt device.zoneID id) :=
      checkSensorsOnDeviceRemoval_keeps (fun _ _ => setZoneSensor_device)
        fun _ => resetZoneSensor_device
    have hkeep := ((checkSensorsOnDeviceRemoval_sound rt device.zoneID id).and hdevice).add hcheck
    refine (hkeep.weaken ?_ (fun b hb => hb) fun _ b hb => hb.2.1).andThen (Triple.of_end ?_)
    · rintro b ⟨rfl, -⟩
      exact ⟨rfl, h, rfl⟩
    · rintro b ⟨hnone, hb, hd⟩
      exact apartmentRemoveDevice_sound hb (by rw [hd]; exact hzone) (by rw [hd]; exact hnone)
  exact htriple.at_end rfl

/-! ## Removing a device with what belongs to it -/

def PairFits (rt : Runtime D) (a : Apartment D) (id : D) : Option (Device D) → Prop
  | none => True
  | some device => rt.bus a.busCalls = none → TakeOutFits rt (called a) device.zoneID id

def PairsFit (rt : Runtime D) : ℕ → D → Apartment D → Prop
  | 0, _, _ => True
  | n + 1, current, a =>
    PairFits rt a (rt.nextDsuid current) (a.device (rt.nextDsuid current)) ∧
      Behind (removePairedDevice rt (rt.nextDsuid current))
        (PairsFit rt n (rt.nextDsuid current)) a

def PartnerFits (rt : Runtime D) (id : D) : Option (Device D) → Apartment D → Prop
  | none, _ => True
  | some other, a => TakeOutFits rt a other.zoneID (rt.nextDsuid id)

/-- What `removeDevice` has to meet: each device that is taken out meets its condition when it
is its turn. -/
def RemoveFits (rt : Runtime D) (a : Apartment D) (id : D) : Option (Device D) → Prop
  | none => True
  | some device =>
    (device.isMainDevice ∧ 0 < device.pairedDevices → PairsFit rt device.pairedDevices id a) ∧
    Behind (removePaired rt id device)
      (Behind (removeFromDSMeters rt (partnerDevice rt id device a).isSome) fun b =>
        TakeOutFits rt b device.zoneID id ∧
          Behind (takeOut rt id device)
            (PartnerFits rt id (partnerDevice rt id device a)) b) a

theorem removePairedDevice_sound (h : Sound a) (hfits : PairFits rt a id (a.device id)) :
    Sound (removePairedDevice rt id a).1 := by
  rw [removePairedDevice, catching_fst, withDevice, inspect_apply]
  rcases hdevice : a.device id with - | device
  · exact h
  · rw [hdevice] at hfits
    have hcalled : (called a).device id = some device := hdevice
    have htriple : Triple (fun b => b = a) ((call rt).andThen (takeOut rt id device)) Sound
        fun _ => Sound := by
      refine ((call_spec rt a).throws fun _ b hb => hb ▸ h.called).andThen (Triple.of_end ?_)
      rintro b ⟨rfl, hbus⟩
      refine takeOut_sound h.called ?_ (hfits hbus)
      intro other hother
      rw [hcalled] at hother
      rw [Option.some.inj hother]
    exact htriple.at_end rfl

theorem removePairedDevices_sound {current : D} (h : Sound a)
    (hfits : PairsFit rt n current a) : Sound (removePairedDevices rt n current a).1 := by
  induction n generalizing current a with
  | zero => exact h
  | succ n ih =>
    obtain ⟨hfirst, hrest⟩ := hfits
    have htriple : Triple (fun b => b = a) (removePairedDevices rt (n + 1) current) Sound
        fun _ => Sound := by
      have hturn : Triple (fun b => b = a) (removePairedDevice rt (rt.nextDsuid current)) Sound
          fun _ => Sound :=
        Triple.of_end fun b hb => hb ▸ removePairedDevice_sound h hfirst
      refine ((Behind.add hturn).pre fun b hb => ⟨hb, hb ▸ hrest⟩).andThen
        (Triple.of_end fun b hb => ih hb.1 hb.2)
    exact htriple.at_end rfl

/-- Devices go, and do not change. -/
def OnlyGone (a b : Apartment D) : Prop :=
  ∀ id device, b.device id = some device → a.device id = some device

theorem apartmentRemoveDevice_onlyGone : Keeps (OnlyGone a) (apartmentRemoveDevice id) := by
  have hlist : ∀ z, Keeps (OnlyGone a) (removeFromZone z id) :=
    fun z => withZone_keeps fun _ => Keeps.change fun _ hb => hb
  refine Keeps.inspect fun found => ?_
  cases found with
  | none => exact Keeps.skip
  | some device =>
    refine Keeps.andThen ?_ ((hlist 0).andThen (Keeps.change fun b hb d other hother => ?_))
    · split_ifs
      · exact hlist _
      · exact Keeps.skip
    · dsimp only at hother
      rw [Function.update_apply] at hother
      split_ifs at hother
      exact hb d other hother

theorem takeOut_onlyGone {device : Device D} : Keeps (OnlyGone a) (takeOut rt id device) := by
  refine withZone_keeps fun zone => Keeps.andThen ?_ apartmentRemoveDevice_onlyGone
  refine checkSensorsOnDeviceRemoval_keeps (fun t d => ?_) fun t => ?_
  · exact Keeps.of_part (fun _ => setZoneSensor_device) fun d =>
      ∀ id device, d id = some device → a.device id = some device
  · exact Keeps.of_part (fun _ => resetZoneSensor_device) fun d =>
      ∀ id device, d id = some device → a.device id = some device

theorem removePairedDevices_onlyGone {current : D} :
    Keeps (OnlyGone a) (removePairedDevices rt n current) := by
  induction n generalizing current with
  | zero => exact Keeps.skip
  | succ n ih =>
    refine Keeps.andThen ?_ ih
    exact (withDevice_keeps fun device =>
      Keeps.andThen (fun _ hb => hb) takeOut_onlyGone).catching

omit [DecidableEq D] in
theorem removeFromDSMeters_keeps {I : Apartment D → Prop} {p : Bool}
    (h : Keeps I (call rt)) : Keeps I (removeFromDSMeters rt p) := by
  refine (h.andThen ?_).catching
  split_ifs
  · exact h
  · exact Keeps.skip

theorem removeDevice_sound (h : Sound a) (hfits : RemoveFits rt a id (a.device id)) :
    Sound (removeDevice rt id a).1 := by
  rw [removeDevice, withDevice, inspect_apply]
  rcases hdevice : a.device id with - | device
  · exact h
  rw [hdevice] at hfits
  obtain ⟨hpairs, hrest⟩ := hfits
  dsimp only
  rw [inspect_apply]
  generalize hpartner : partnerDevice rt id device a = partner at hrest ⊢
  have hzone : ∀ b, OnlyGone a b → ∀ other, b.device id = some other →
      other.zoneID = device.zoneID := by
    intro b hgone other hother
    have hsame := hgone id other hother
    rw [hdevice] at hsame
    rw [← Option.some.inj hsame]
  have hpaired : Triple (fun b => b = a) (removePaired rt id device)
      (fun b => Sound b ∧ OnlyGone a b) fun _ => Sound := by
    refine Triple.weaken (R := fun _ b => Sound b ∧ OnlyGone a b) (Triple.of_end ?_)
      (fun _ hb => hb) (fun _ hb => hb) fun _ _ hb => hb.1
    rintro b rfl
    rw [removePaired]
    split_ifs with hmain
    · exact ⟨removePairedDevices_sound h (hpairs hmain),
        removePairedDevices_onlyGone b fun _ _ hb => hb⟩
    · exact ⟨h, fun _ _ hb => hb⟩
  have hcalls : Triple (fun b => Sound b ∧ OnlyGone a b)
      (removeFromDSMeters rt partner.isSome) (fun b => Sound b ∧ OnlyGone a b) fun _ => Sound :=
    (removeFromDSMeters_keeps (call_keeps_sound.and fun _ hb => hb)).triple.throws
      fun _ _ hb => hb.1
  have hdevice : Triple (fun b => (Sound b ∧ OnlyGone a b) ∧ TakeOutFits rt b device.zoneID id)
      (takeOut rt id device) (fun b => Sound b ∧ OnlyGone a b) fun _ => Sound := by
    refine Triple.weaken (R := fun _ b => Sound b ∧ OnlyGone a b) (Triple.of_end fun b hb => ?_)
      (fun _ hb => hb) (fun _ hb => hb) fun _ _ hb => hb.1
    exact ⟨takeOut_sound hb.1.1 (hzone b hb.1.2) hb.2, takeOut_onlyGone b hb.1.2⟩
  -- the paired devices, the calls, the device, and then its partner
  refine Triple.at_end (P := fun b => b = a)
    (((Behind.add hpaired).pre fun b hb => ⟨hb, hb ▸ hrest⟩).andThen
      ((Behind.add hcalls).andThen
        (((Behind.add hdevice).pre fun b hb => ⟨⟨hb.1, hb.2.1⟩, hb.2.2⟩).andThen ?_))) rfl
  cases partner with
  | none => exact Triple.skip fun b hb => hb.1.1
  | some other =>
    refine Triple.of_end fun b hb => takeOut_sound hb.1.1 (fun found hfound => ?_) hb.2
    have hother : a.device (rt.nextDsuid id) = some other := by
      rw [partnerDevice] at hpartner
      split_ifs at hpartner
      exact hpartner
    have hsame := hb.1.2 _ found hfound
    rw [hother] at hsame
    rw [← Option.some.inj hsame]

end ZoneMembership

end Dss
