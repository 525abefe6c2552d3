import Mathlib.Data.List.Nodup
import Dss.ZoneMembershipRoster

/-!
# The main sensors of the zones

A zone should have one main sensor for a type at most, only for types that it may have, and only
devices that it lists. While a device that has left a zone is still assigned there, some types are
left to be given up, one call to the bus after the other.
-/

namespace Dss

open Throwing Throwing.Statement

namespace ZoneMembership

variable {D : Type}

/-- A zone has no two main sensors for one type, none for a type that it does not allow, and none
that it does not list. -/
structure Sound (a : Apartment D) : Prop where
  once : ∀ z, ((a.mainSensors z).map MainZoneSensor.sensorType).Nodup
  allowed : ∀ z, ∀ ms ∈ a.mainSensors z, isAllowedSensorType z ms.sensorType = true
  member : ∀ z, ∀ ms ∈ a.mainSensors z, ms.dsuid ∈ a.listed z

/-- The tables are as they should be, but for the sensors of these types in one zone, which may
be devices that have left it. -/
structure SoundBut (own : ℤ) (ts : List SensorType) (a : Apartment D) : Prop where
  once : ∀ z, ((a.mainSensors z).map MainZoneSensor.sensorType).Nodup
  allowed : ∀ z, ∀ ms ∈ a.mainSensors z, isAllowedSensorType z ms.sensorType = true
  /-- only devices of the zone, or one of the exceptions -/
  member : ∀ z, ∀ ms ∈ a.mainSensors z, ms.dsuid ∈ a.listed z ∨ z = own ∧ ms.sensorType ∈ ts

variable {rt : Runtime D} {a b : Apartment D} {z w own : ℤ} {id : D} {t : SensorType}
  {ts us : List SensorType} {zone : Zone D} {l : List (MainZoneSensor D)}

theorem SoundBut.sound (h : SoundBut own [] a) : Sound a := by
  refine ⟨h.once, h.allowed, fun z ms hms => ?_⟩
  obtain hlisted | ⟨-, hnone⟩ := h.member z ms hms
  · exact hlisted
  · cases hnone

theorem Sound.but (h : Sound a) (own : ℤ) : SoundBut own [] a :=
  ⟨h.once, h.allowed, fun z ms hms => Or.inl (h.member z ms hms)⟩

theorem Sound.of_listed (h : Sound a) (hsensors : b.mainSensors = a.mainSensors)
    (hlisted : ∀ z, ∀ ms ∈ a.mainSensors z, ms.dsuid ∈ b.listed z) : Sound b := by
  refine ⟨?_, ?_, ?_⟩
  · rw [hsensors]
    exact h.once
  · rw [hsensors]
    exact h.allowed
  · rw [hsensors]
    exact hlisted

theorem SoundBut.of_missing (h : SoundBut own ts a) (hz : a.zone own = none) : Sound a := by
  refine ⟨h.once, h.allowed, fun z ms hms => ?_⟩
  obtain hlisted | ⟨rfl, -⟩ := h.member z ms hms
  · exact hlisted
  · rw [Apartment.mainSensors, hz] at hms
    cases hms

/-! ## The table of a zone -/

theorem mainSensors_of_zone (hz : a.zone z = some zone) : a.mainSensors z = zone.mainSensors := by
  rw [Apartment.mainSensors, hz]
  rfl

theorem listed_of_zone (hz : a.zone z = some zone) : a.listed z = zone.devices := by
  rw [Apartment.listed, hz]
  rfl

theorem mainSensors_modifyZone {f : Zone D → Zone D} (hz : a.zone z = some zone) :
    (a.modifyZone z f).mainSensors w =
      if w = z then (f zone).mainSensors else a.mainSensors w := by
  rw [Apartment.mainSensors, Apartment.modifyZone]
  dsimp only
  rw [Function.update_apply, hz]
  split_ifs
  · rfl
  · rfl

theorem mainSensors_modifyZone_same {f : Zone D → Zone D}
    (h : ∀ zone, (f zone).mainSensors = zone.mainSensors) :
    (a.modifyZone z f).mainSensors = a.mainSensors := by
  funext w
  rcases hz : a.zone z with - | zone
  · rw [Apartment.mainSensors, Apartment.mainSensors, Apartment.modifyZone]
    dsimp only
    rw [hz, Option.map_none, Function.update_apply]
    split_ifs with hw
    · rw [hw, hz]
    · rfl
  · rw [mainSensors_modifyZone hz, h]
    split_ifs with hw
    · rw [hw, mainSensors_of_zone hz]
    · rfl

theorem SoundBut.modifyZone {f : Zone D → Zone D} (h : SoundBut own ts a)
    (hz : a.zone z = some zone) (hlist : (f zone).devices = zone.devices)
    (honce : ((f zone).mainSensors.map MainZoneSensor.sensorType).Nodup)
    (hallowed : ∀ ms ∈ (f zone).mainSensors, isAllowedSensorType z ms.sensorType = true)
    (hmember : ∀ ms ∈ (f zone).mainSensors,
      ms.dsuid ∈ zone.devices ∨ z = own ∧ ms.sensorType ∈ us)
    (hothers : z ≠ own → ts ⊆ us) : SoundBut own us (a.modifyZone z f) := by
  have hroster : (a.modifyZone z f).roster = a.roster := by
    refine roster_modifyZone fun other hother => ?_
    rw [hz] at hother
    rw [← Option.some.inj hother, hlist]
  have hlisted : ∀ w, (a.modifyZone z f).listed w = a.listed w := by
    intro w
    rw [← roster_listed, hroster, roster_listed]
  refine ⟨fun w => ?_, fun w => ?_, fun w => ?_⟩
  · rw [mainSensors_modifyZone hz]
    split_ifs
    · exact honce
    · exact h.once w
  · rw [mainSensors_modifyZone hz]
    split_ifs with hw
    · rw [hw]
      exact hallowed
    · exact h.allowed w
  · rw [mainSensors_modifyZone hz, hlisted]
    split_ifs with hw
    · rw [hw, listed_of_zone hz]
      exact hmember
    · intro ms hms
      obtain hin | ⟨rfl, ht⟩ := h.member w ms hms
      · exact Or.inl hin
      · exact Or.inr ⟨rfl, hothers (fun heq => hw heq.symm) ht⟩

theorem mem_assign {entry ms : MainZoneSensor D} (h : ms ∈ Zone.assign entry l) :
    ms = entry ∨ ms ∈ l := by
  induction l with
  | nil =>
    exact Or.inl (List.mem_singleton.mp h)
  | cons other l ih =>
    rw [Zone.assign] at h
    split_ifs at h
    · obtain rfl | hin := List.mem_cons.mp h
      · exact Or.inl rfl
      · exact Or.inr (List.mem_cons_of_mem _ hin)
    · obtain rfl | hin := List.mem_cons.mp h
      · exact Or.inr (List.mem_cons_self ..)
      · exact (ih hin).imp_right (List.mem_cons_of_mem _)

theorem types_assign {entry : MainZoneSensor D} :
    (Zone.assign entry l).map MainZoneSensor.sensorType =
      if entry.sensorType ∈ l.map MainZoneSensor.sensorType
        then l.map MainZoneSensor.sensorType
        else l.map MainZoneSensor.sensorType ++ [entry.sensorType] := by
  induction l with
  | nil => rfl
  | cons other l ih =>
    rw [Zone.assign]
    by_cases hother : other.sensorType = entry.sensorType
    · rw [if_pos hother, List.map_cons, List.map_cons, hother,
        if_pos (List.mem_cons_self ..)]
    · rw [if_neg hother, List.map_cons, List.map_cons, ih]
      simp only [List.mem_cons, Ne.symm hother, false_or]
      split_ifs
      · rfl
      · rfl

theorem nodup_types_assign {entry : MainZoneSensor D}
    (h : (l.map MainZoneSensor.sensorType).Nodup) :
    ((Zone.assign entry l).map MainZoneSensor.sensorType).Nodup := by
  rw [types_assign]
  split_ifs with hin
  · exact h
  · rw [List.nodup_append]
    refine ⟨h, List.nodup_singleton _, fun t ht u hu heq => ?_⟩
    rw [List.mem_singleton.mp hu] at heq
    exact hin (heq ▸ ht)

theorem setSensor_ok {changed : Zone D} {device : Device D}
    (h : zone.setSensor z id device t = .ok changed) : isAllowedSensorType z t = true ∧
      ∃ index, changed =
        { zone with mainSensors := Zone.assign ⟨id, t, index⟩ zone.mainSensors } := by
  rw [Zone.setSensor] at h
  rcases hsensor : device.getSensorByType t with - | sensor
  · rw [hsensor] at h
    cases h
  · have ht : sensor.sensorType = t := by
      simpa using List.find?_some hsensor
    rw [hsensor] at h
    dsimp only at h
    rw [ht] at h
    split_ifs at h with hallowed
    exact ⟨hallowed, sensor.sensorIndex, (Except.ok.inj h).symm⟩

/-! ## Assigning -/

theorem call_sound {n : ℕ} (rt : Runtime D) :
    Triple (fun a => SoundBut own ts a ∧ a.busCalls = n) (call rt)
      (fun a => SoundBut own ts a ∧ a.busCalls = n + 1)
      fun e a => SoundBut own ts a ∧ rt.bus n = some e := by
  rintro a ⟨h, rfl⟩
  have hsame : SoundBut own ts { a with busCalls := a.busCalls + 1 } :=
    ⟨h.once, h.allowed, h.member⟩
  rw [call]
  rcases hbus : rt.bus a.busCalls with - | e
  · exact ⟨hsame, rfl⟩
  · exact ⟨hsame, rfl⟩

theorem call_keeps_sound : Keeps Sound (call rt) :=
  fun _ h => ⟨h.once, h.allowed, h.member⟩

theorem setZoneSensor_sound (rt : Runtime D) (z : ℤ) (t : SensorType) (id : D) :
    Triple (fun a => Sound a ∧ id ∈ a.listed z) (setZoneSensor rt z t id) Sound
      fun _ => Sound := by
  refine withZone_triple (fun zone => ?_) fun a ha _ => ha.1
  refine withDevice_triple (fun device => ?_) fun a ha _ => ha.1.1
  rcases hset : zone.setSensor z id device t with e | changed
  · exact Triple.raise fun a ha => ha.1.1.1
  · refine Triple.andThen (Triple.change ?_) call_keeps_sound.triple
    rintro a ⟨⟨⟨h, hid⟩, hz⟩, -⟩
    obtain ⟨hallowed, index, rfl⟩ := setSensor_ok hset
    refine ((h.but 0).modifyZone hz rfl ?_ ?_ ?_ fun _ => List.Subset.refl _).sound
    · have honce := h.once z
      rw [mainSensors_of_zone hz] at honce
      exact nodup_types_assign honce
    · intro ms hms
      obtain rfl | hin := mem_assign hms
      · exact hallowed
      · rw [← mainSensors_of_zone hz] at hin
        exact h.allowed z ms hin
    · intro ms hms
      rw [listed_of_zone hz] at hid
      obtain rfl | hin := mem_assign hms
      · exact Or.inl hid
      · rw [← mainSensors_of_zone hz] at hin
        have hmember := h.member z ms hin
        rw [listed_of_zone hz] at hmember
        exact Or.inl hmember

theorem mem_of_getSubset {select : Device D → Bool} {ids selected : List D}
    (h : getSubset rt a select ids = .ok selected) :
    selected = ids.filter fun id => (a.device id).any select := by
  induction ids generalizing selected with
  | nil =>
    obtain rfl := Except.ok.inj h
    rfl
  | cons id ids ih =>
    rw [getSubset] at h
    rcases hdevice : a.device id with - | device
    · rw [hdevice] at h
      cases h
    · rw [hdevice] at h
      rcases hrest : getSubset rt a select ids with e | rest
      · rw [hrest] at h
        cases h
      · rw [hrest] at h
        rw [← Except.ok.inj h, List.filter_cons, hdevice, ih hrest]
        rfl

def firstPresent (a : Apartment D) (devices : List D) (t : SensorType) : Option D :=
  devices.find? fun id => (a.device id).any fun device =>
    (device.getSensorByType t).isSome && device.isPresent

/-- What the loop of `autoAssignZoneSensors` does for a type, if a property holds with which
that device can be assigned. -/
theorem autoAssignType_triple {P Q : Apartment D → Prop} {R : Exception → Apartment D → Prop}
    {devices : List D} (hskip : ∀ a, P a → firstPresent a devices t = none → Q a)
    (hset : ∀ id, Triple (fun a => P a ∧ firstPresent a devices t = some id)
      (setZoneSensor rt z t id) Q R) (hraise : ∀ e a, P a → R e a) :
    Triple P (autoAssignType rt z devices t) Q R := by
  rw [autoAssignType]
  refine Triple.inspect fun subset => ?_
  cases subset with
  | error e => exact Triple.raise fun a ha => hraise e a ha.1
  | ok selected =>
    have hfind : ∀ a, getSubset rt a (fun device => (device.getSensorByType t).isSome) devices =
        .ok selected → (selected.find? fun id => (a.device id).any Device.isPresent) =
          firstPresent a devices t := by
      intro a hselected
      rw [mem_of_getSubset hselected, List.find?_filter]
      congr 1
      funext id
      cases a.device id with
      | none => rfl
      | some device => simp
    refine Triple.inspect fun found => ?_
    cases found with
    | none =>
      refine Triple.skip fun a ha => hskip a ha.1.1 ?_
      rw [← hfind a ha.1.2]
      exact ha.2
    | some id =>
      refine (hset id).pre fun a ha => ⟨ha.1.1, ?_⟩
      rw [← hfind a ha.1.2]
      exact ha.2

theorem autoAssignZoneSensors_sound : Keeps Sound (autoAssignZoneSensors rt z) := by
  refine Keeps.of_triple (withZone_triple (fun zone => ?_) fun a ha _ => ha)
  split_ifs
  · exact Triple.skip fun a ha => ha.1
  · -- the list of the zone stays the one that was looked at
    have hkeep : Keeps (fun a => Sound a ∧ a.listed z = zone.devices)
        (forEach (autoAssignType rt z zone.devices) (zone.getUnassignedSensorTypes z)) := by
      refine Keeps.forEach fun t _ => Keeps.of_triple (autoAssignType_triple
        (fun a ha _ => ha) (fun id => ?_) fun e a ha => ha)
      have hlisted : Keeps (fun a => a.roster.listed z = zone.devices)
          (setZoneSensor rt z t id) :=
        Keeps.of_part (fun r => setZoneSensor_roster) fun r => r.listed z = zone.devices
      refine (hlisted.add (setZoneSensor_sound rt z t id)).pre ?_
      rintro a ⟨⟨h, hz⟩, hfirst⟩
      refine ⟨⟨h, ?_⟩, hz⟩
      rw [hz]
      exact List.mem_of_find?_eq_some hfirst
    exact hkeep.triple.weaken (fun a ha => ⟨ha.1, listed_of_zone ha.2⟩) (fun a ha => ha.1)
      fun _ a ha => ha.1

/-! ## Giving assignments up -/

theorem SoundBut.reset (h : SoundBut own (t :: ts) a) (hz : a.zone own = some zone)
    (ht : isAllowedSensorType own t = true) :
    SoundBut own ts (a.modifyZone own (Zone.resetSensor own t)) := by
  have hin : ∀ ms ∈ (zone.resetSensor own t).mainSensors,
      ms ∈ zone.mainSensors ∧ ms.sensorType ≠ t := by
    intro ms hms
    rw [Zone.resetSensor, if_pos ht] at hms
    obtain ⟨hin, hne⟩ := List.mem_filter.mp hms
    exact ⟨hin, of_decide_eq_true hne⟩
  refine h.modifyZone hz resetSensor_devices ?_ ?_ ?_ fun hother => absurd rfl hother
  · rw [Zone.resetSensor, if_pos ht]
    have honce := h.once own
    rw [mainSensors_of_zone hz] at honce
    exact honce.sublist (List.filter_sublist.map _)
  · intro ms hms
    have hold := h.allowed own ms
    rw [mainSensors_of_zone hz] at hold
    exact hold (hin ms hms).1
  · intro ms hms
    obtain ⟨hold, hne⟩ := hin ms hms
    have hmember := h.member own ms
    rw [mainSensors_of_zone hz, listed_of_zone hz] at hmember
    obtain hlisted | ⟨-, hexception⟩ := hmember hold
    · exact Or.inl hlisted
    · exact Or.inr ⟨rfl, (List.mem_cons.mp hexception).resolve_left hne⟩

/-- Giving up an assignment. -/
theorem resetZoneSensor_sound : Keeps Sound (resetZoneSensor rt z t) := by
  refine Keeps.of_triple (withZone_triple (fun zone => ?_) fun a ha _ => ha)
  refine Triple.andThen (Triple.change ?_) call_keeps_sound.triple
  rintro a ⟨h, hz⟩
  have hin : ∀ ms ∈ (zone.resetSensor z t).mainSensors, ms ∈ zone.mainSensors := by
    intro ms hms
    rw [Zone.resetSensor] at hms
    split_ifs at hms
    · exact (List.mem_filter.mp hms).1
    · exact hms
  refine ((h.but 0).modifyZone hz resetSensor_devices ?_ ?_ ?_
    fun _ => List.Subset.refl _).sound
  · have honce := h.once z
    rw [mainSensors_of_zone hz] at honce
    rw [Zone.resetSensor]
    split_ifs
    · exact honce.sublist (List.filter_sublist.map _)
    · exact honce
  · intro ms hms
    have hold := h.allowed z ms
    rw [mainSensors_of_zone hz] at hold
    exact hold (hin ms hms)
  · intro ms hms
    have hold := h.member z ms
    rw [mainSensors_of_zone hz, listed_of_zone hz] at hold
    exact Or.inl (hold (hin ms hms))

/-- **Giving up what a device leaves behind.** The bus may throw at the last call only: then all
the assignments have been given up. -/
theorem resets_sound {n : ℕ} (hallowed : ∀ t ∈ ts, isAllowedSensorType own t = true)
    (hbus : ∀ i, i + 1 < ts.length → rt.bus (n + i) = none) :
    Triple (fun a => SoundBut own ts a ∧ a.busCalls = n)
      (forEach (resetZoneSensor rt own) ts) Sound fun _ => Sound := by
  induction ts generalizing n with
  | nil => exact Triple.skip fun a ha => ha.1.sound
  | cons t ts ih =>
    have hrest : ∀ i, i + 1 < ts.length → rt.bus (n + 1 + i) = none := by
      intro i hi
      have := hbus (i + 1) (by rw [List.length_cons]; omega)
      rwa [Nat.add_assoc, Nat.add_comm 1 i]
    refine Triple.andThen ?_ (ih (fun u hu => hallowed u (List.mem_cons_of_mem _ hu)) hrest)
    refine withZone_triple (fun zone => ?_) fun a ha hz => ha.1.of_missing hz
    refine Triple.andThen (Triple.change fun a ha => ?_)
      ((call_sound rt).throws fun e a ha => ?_)
    · exact ⟨ha.1.1.reset ha.2 (hallowed t (List.mem_cons_self ..)), ha.1.2⟩
    · -- there is nothing left, or the bus would not have thrown
      obtain ⟨h, hthrow⟩ := ha
      cases ts with
      | nil => exact h.sound
      | cons u ts =>
        have hquiet := hbus 0 (by rw [List.length_cons, List.length_cons]; omega)
        rw [Nat.add_zero, hthrow] at hquiet
        cases hquiet

variable [DecidableEq D]

theorem mainSensors_removeDevice :
    (a.modifyZone z (Zone.removeDevice id)).mainSensors = a.mainSensors :=
  mainSensors_modifyZone_same fun _ => rfl

theorem mainSensors_insert :
    (a.modifyZone z (Zone.insert id)).mainSensors = a.mainSensors := by
  refine mainSensors_modifyZone_same fun zone => ?_
  rw [Zone.insert]
  split_ifs
  · rfl
  · rfl

theorem checkSensorsOnDeviceRemoval_sound (rt : Runtime D) (z : ℤ) (id : D) :
    Keeps Sound (checkSensorsOnDeviceRemoval rt z id) :=
  withZone_keeps fun _ =>
    (Keeps.forEach fun _ _ => resetZoneSensor_sound).andThen autoAssignZoneSensors_sound

def assignedTypes (a : Apartment D) (z : ℤ) (id : D) : List SensorType :=
  ((a.mainSensors z).filter fun ms => ms.dsuid = id).map MainZoneSensor.sensorType

theorem assignedTypes_of_zone (hz : a.zone z = some zone) :
    assignedTypes a z id = zone.getAssignedSensorTypes id := by
  rw [assignedTypes, mainSensors_of_zone hz]
  rfl

theorem Sound.leave (h : Sound a) (own : ℤ) (id : D) :
    SoundBut own (assignedTypes a own id) (a.modifyZone own (Zone.removeDevice id)) := by
  refine ⟨?_, ?_, fun z ms hms => ?_⟩
  · rw [mainSensors_removeDevice]
    exact h.once
  · rw [mainSensors_removeDevice]
    exact h.allowed
  · rw [mainSensors_removeDevice] at hms
    by_cases hexception : z = own ∧ ms.dsuid = id
    · obtain ⟨rfl, hid⟩ := hexception
      refine Or.inr ⟨rfl, List.mem_map.mpr ⟨ms, List.mem_filter.mpr ⟨hms, ?_⟩, rfl⟩⟩
      exact decide_eq_true hid
    · left
      rw [← roster_listed, roster_removeDevice, ← Roster.count_pos_iff, Roster.count_leave,
        if_neg hexception, Roster.count_pos_iff]
      exact h.member z ms hms

theorem Sound.allowed_assignedTypes (h : Sound a) (ht : t ∈ assignedTypes a own id) :
    isAllowedSensorType own t = true := by
  obtain ⟨ms, hms, rfl⟩ := List.mem_map.mp ht
  exact h.allowed own ms (List.mem_filter.mp hms).1

theorem leaveOldZone_sound {device : Device D} {n : ℕ} (ts : List SensorType)
    (hbus : ∀ i, i + 1 < ts.length → rt.bus (n + i) = none) :
    Triple (fun a => Sound a ∧ a.busCalls = n ∧ assignedTypes a device.zoneID id = ts)
      (leaveOldZone rt id device) Sound fun _ => Sound := by
  refine Triple.having (p := ∀ t ∈ ts, isAllowedSensorType device.zoneID t = true) ?_ ?_
  · rintro a ⟨h, -, rfl⟩ t ht
    exact h.allowed_assignedTypes ht
  intro hallowed
  refine Triple.andThen (M := fun a => (SoundBut device.zoneID ts a ∧ a.busCalls = n) ∧
    assignedTypes a device.zoneID id = ts) ?_ (Triple.andThen (M := Sound) ?_ ?_)
  · refine withZone_triple (fun zone => Triple.change ?_) fun a ha _ => ha.1
    rintro a ⟨⟨h, hn, hts⟩, -⟩
    refine ⟨⟨?_, hn⟩, ?_⟩
    · rw [← hts]
      exact h.leave device.zoneID id
    · rw [assignedTypes, mainSensors_removeDevice, ← assignedTypes, hts]
  · refine withZone_triple (fun zone => ?_) fun a ha hz => ha.1.1.of_missing hz
    refine Triple.having (p := zone.getAssignedSensorTypes id = ts) ?_ fun hts => ?_
    · rintro a ⟨⟨-, hts⟩, hz⟩
      rw [← assignedTypes_of_zone hz, hts]
    · rw [hts]
      exact ((resets_sound hallowed hbus).pre fun a ha => ha.1.1).andThen
        autoAssignZoneSensors_sound.triple
  · refine Keeps.triple (withZone_keeps fun zone => withSubset_keeps fun present => ?_)
    split_ifs
    · exact call_keeps_sound.catching
    · exact Keeps.skip

/-! ## Moving a device -/

theorem zoneAddDevice_mainSensors (rt : Runtime D) (z : ℤ) (id : D)
    {m : ℤ → List (MainZoneSensor D)} {n : ℕ} :
    Keeps (fun a => a.mainSensors = m ∧ a.busCalls = n) (zoneAddDevice rt z id) := by
  refine withDevice_keeps fun device => ?_
  refine Keeps.andThen ?_ (Keeps.andThen (Keeps.change ?_) (Keeps.change fun _ ha => ha))
  · split_ifs
    · refine (withZone_keeps fun zone => Keeps.change ?_).catching
      rintro a ⟨hm, hn⟩
      exact ⟨by rw [mainSensors_removeDevice, hm], hn⟩
    · exact Keeps.skip
  · rintro a ⟨hm, hn⟩
    exact ⟨by rw [mainSensors_insert, hm], hn⟩

theorem listed_entered {r : Roster D ℤ} {d : D} (hz : (r.members z).isSome)
    (h : d ∈ r.listed w) : d ∈ (entered z z id (r.assign id z)).listed w := by
  have hz' : ((if z = -1 ∨ z = 0 then r.assign id z
      else (r.assign id z).leave z id).members z).isSome := by
    split_ifs
    · exact hz
    · rw [Roster.members_leave]
      exact hz
  rw [← Roster.count_pos_iff] at h ⊢
  rw [entered, Roster.count_assign, Roster.count_enter hz']
  split_ifs with hboth hsame
  · exact Nat.lt_of_lt_of_le Nat.one_pos (Nat.le_max_left ..)
  · exact Nat.lt_of_lt_of_le Nat.one_pos (Nat.le_max_left ..)
  · rwa [Roster.count_assign]
  · rwa [Roster.count_leave, if_neg hboth]

def called (a : Apartment D) : Apartment D := { a with busCalls := a.busCalls + 1 }

omit [DecidableEq D] in
theorem call_spec (rt : Runtime D) (a : Apartment D) : Triple (fun b => b = a) (call rt)
    (fun b => b = called a ∧ rt.bus a.busCalls = none) fun _ b => b = called a := by
  rintro b rfl
  rw [call]
  rcases hbus : rt.bus b.busCalls with - | e
  · exact ⟨rfl, rfl⟩
  · exact rfl

omit [DecidableEq D] in
theorem Sound.called (h : Sound a) : Sound (called a) :=
  ⟨h.once, h.allowed, h.member⟩

theorem enter_sound (h : Sound a) (hdevice : (a.device id).isSome) (hz : (a.zone z).isSome) :
    Triple (fun b => b = a.setZoneID id z) (zoneAddDevice rt z id)
      (fun b => Sound b ∧ b.mainSensors = a.mainSensors ∧ b.busCalls = a.busCalls)
      fun _ _ => False := by
  have hmembers : (a.roster.members z).isSome := by rw [members_isSome]; exact hz
  have hplace : (a.roster.assign id z).place id = some z := by
    rw [Roster.place_assign, if_pos rfl]
  have hkeep := (zoneAddDevice_mainSensors rt z id (m := a.mainSensors)
    (n := a.busCalls)).add (zoneAddDevice_roster rt z hplace)
  refine hkeep.weaken ?_ ?_ fun _ _ h => h.1
  · rintro b rfl
    exact ⟨roster_setZoneID hdevice, rfl, rfl⟩
  · rintro b ⟨hr, hm, hn⟩
    refine ⟨h.of_listed hm fun w ms hms => ?_, hm, hn⟩
    rw [← roster_listed, hr]
    exact listed_entered hmembers (h.member w ms hms)

/-- The bus does not throw while a device leaves sensors behind. -/
def LeaveFits (rt : Runtime D) (a : Apartment D) (own : ℤ) (id : D) (n : ℕ) : Prop :=
  ∀ i < (assignedTypes a own id).length - 1, rt.bus (n + i) = none

/-- What `addDeviceToZone` has to meet: if the bus lets the device go to the new zone, it does
not throw while the sensors of the old one are given up, but for the last of them. -/
def MoveFits (rt : Runtime D) (a : Apartment D) (id : D) (z : ℤ) : Option (Device D) → Prop
  | none => True
  | some device =>
    (a.zone z).isSome ∧ device.isPresent ∧ device.zoneID ≠ 0 ∧ rt.bus a.busCalls = none ∧
      rt.bus (a.busCalls + 1) = none → LeaveFits rt a device.zoneID id (a.busCalls + 2)

theorem addDeviceToZone_sound (h : Sound a) (hfits : MoveFits rt a id z (a.device id)) :
    Sound (addDeviceToZone rt id z a).1 := by
  have htriple : Triple (fun b => b = a) (addDeviceToZone rt id z) Sound fun _ => Sound := by
    refine withDevice_triple (fun device => ?_) fun b hb _ => hb ▸ h
    refine Triple.having (p := a.device id = some device) (fun b hb => hb.1 ▸ hb.2) fun hd => ?_
    refine withZone_triple (fun zone => ?_) fun b hb _ => hb.1 ▸ h
    refine Triple.having (p := a.zone z = some zone) (fun b hb => hb.1.1 ▸ hb.2) fun hz => ?_
    by_cases hpresent : device.isPresent = false
    · rw [if_pos hpresent]
      exact Triple.raise fun b hb => hb.1.1 ▸ h
    rw [if_neg hpresent]
    rw [hd] at hfits
    have hdevice : (a.device id).isSome := by rw [hd]; rfl
    have hzone : (a.zone z).isSome := by rw [hz]; rfl
    refine ((call_spec rt a).weaken (fun b hb => hb.1.1) (fun b hb => hb)
      fun _ b hb => hb ▸ h.called).andThen ?_
    refine Triple.having (p := rt.bus a.busCalls = none) (fun b hb => hb.2) fun hfirst => ?_
    refine ((call_spec rt (called a)).weaken (fun b hb => hb.1) (fun b hb => hb)
      fun _ b hb => hb ▸ h.called.called).andThen ?_
    refine Triple.having (p := rt.bus (a.busCalls + 1) = none) (fun b hb => hb.2) fun hsecond => ?_
    refine Triple.andThen (M := fun b => b = (called (called a)).setZoneID id z)
      (Triple.change fun b hb => by rw [hb.1]) ?_
    refine ((enter_sound h.called.called hdevice hzone).throws
      fun _ _ hfalse => hfalse.elim).andThen ?_
    refine Triple.andThen (M := Sound) ?_ autoAssignZoneSensors_sound.triple
    by_cases hroot : device.zoneID = 0
    · rw [if_neg (not_not_intro hroot)]
      exact Triple.skip fun b hb => hb.1
    · rw [if_pos hroot]
      have hquiet := hfits ⟨hzone, by simpa using hpresent, hroot, hfirst, hsecond⟩
      refine (leaveOldZone_sound (n := a.busCalls + 2) (assignedTypes a device.zoneID id)
        fun i hi => hquiet i (by omega)).pre ?_
      rintro b ⟨hb, hm, hn⟩
      refine ⟨hb, hn, ?_⟩
      rw [assignedTypes, hm]
      rfl
  exact htriple.at_end rfl

end ZoneMembership

end Dss
