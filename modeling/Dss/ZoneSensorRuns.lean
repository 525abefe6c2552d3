import Dss.ZoneSensorRemoval

/-!
# The main sensors of the zones, over whole runs

A run keeps the tables of the zones as they should be if nobody assigns a device of another zone,
and the devices that are moved or removed leave nothing behind.
-/

namespace Dss

open Throwing Throwing.Statement Transition

namespace ZoneMembership

inductive SensorCall (D : Type) : Type where
  | setZoneSensor (zoneID : ℤ) (sensorType : SensorType) (id : D) : SensorCall D
  | resetZoneSensor (zoneID : ℤ) (sensorType : SensorType) : SensorCall D
  | autoAssignZoneSensors (zoneID : ℤ) : SensorCall D
  | addDeviceToZone (id : D) (zoneID : ℤ) : SensorCall D
  | removeDevice (id : D) : SensorCall D
  | update (id : D) (data : Device D) : SensorCall D

variable {D : Type} [DecidableEq D]

def SensorCall.action (rt : Runtime D) : SensorCall D → Action D
  | setZoneSensor zoneID sensorType id => ZoneMembership.setZoneSensor rt zoneID sensorType id
  | resetZoneSensor zoneID sensorType => ZoneMembership.resetZoneSensor rt zoneID sensorType
  | autoAssignZoneSensors zoneID => ZoneMembership.autoAssignZoneSensors rt zoneID
  | addDeviceToZone id zoneID => ZoneMembership.addDeviceToZone rt id zoneID
  | removeDevice id => ZoneMembership.removeDevice rt id
  | update id data => change (Apartment.modifyDevice id fun device =>
      { data with zoneID := device.zoneID })

def sensorStep (rt : Runtime D) (a : Apartment D) (c : SensorCall D) : Apartment D :=
  (c.action rt a).1

/-- What a call has to meet. A device that is assigned is one of the zone, unless `setSensor`
throws. -/
def SensorFits (rt : Runtime D) (a : Apartment D) : SensorCall D → Prop
  | .setZoneSensor zoneID sensorType id =>
    (a.zone zoneID).isSome ∧ isAllowedSensorType zoneID sensorType ∧
      (a.device id).any (fun device => (device.getSensorByType sensorType).isSome) →
    id ∈ a.listed zoneID
  | .addDeviceToZone id zoneID => MoveFits rt a id zoneID (a.device id)
  | .removeDevice id => RemoveFits rt a id (a.device id)
  | .resetZoneSensor _ _ | .autoAssignZoneSensors _ | .update _ _ => True

variable {rt : Runtime D} {a : Apartment D}

/-! ## The conditions can be computed -/

instance (own : ℤ) (id : D) (n : ℕ) : Decidable (LeaveFits rt a own id n) :=
  inferInstanceAs (Decidable (∀ i < _, _))

instance (id : D) (z : ℤ) : (o : Option (Device D)) → Decidable (MoveFits rt a id z o)
  | none => inferInstanceAs (Decidable True)
  | some _ => inferInstanceAs (Decidable (_ → LeaveFits ..))

instance (own : ℤ) (id : D) : Decidable (TakeOutFits rt a own id) :=
  inferInstanceAs (Decidable (_ ∧ _ → (∃ i < _, _) ∨ _))

instance (id : D) : (o : Option (Device D)) → Decidable (PairFits rt a id o)
  | none => inferInstanceAs (Decidable True)
  | some _ => inferInstanceAs (Decidable (_ → TakeOutFits ..))

instance decidablePairsFit : (n : ℕ) → (id : D) → (a : Apartment D) →
    Decidable (PairsFit rt n id a)
  | 0, _, _ => inferInstanceAs (Decidable True)
  | n + 1, id, _ =>
    have (b : Apartment D) := decidablePairsFit n (rt.nextDsuid id) b
    inferInstanceAs (Decidable (PairFits .. ∧ Behind ..))

instance (id : D) (a : Apartment D) : (o : Option (Device D)) →
    Decidable (PartnerFits rt id o a)
  | none => inferInstanceAs (Decidable True)
  | some _ => inferInstanceAs (Decidable (TakeOutFits ..))

instance (id : D) : (o : Option (Device D)) → Decidable (RemoveFits rt a id o)
  | none => inferInstanceAs (Decidable True)
  | some _ => inferInstanceAs (Decidable ((_ → _) ∧ Behind ..))

instance : (c : SensorCall D) → Decidable (SensorFits rt a c)
  | .setZoneSensor .. => inferInstanceAs (Decidable (_ → _))
  | .addDeviceToZone id z => inferInstanceAs (Decidable (MoveFits rt a id z (a.device id)))
  | .removeDevice id => inferInstanceAs (Decidable (RemoveFits rt a id (a.device id)))
  | .resetZoneSensor .. | .autoAssignZoneSensors .. | .update .. =>
    inferInstanceAs (Decidable True)

/-! ## Runs -/

omit [DecidableEq D] in
theorem setZoneSensor_step {z : ℤ} {t : SensorType} {id : D} (h : Sound a)
    (hfits : (a.zone z).isSome ∧ isAllowedSensorType z t ∧
      (a.device id).any (fun device => (device.getSensorByType t).isSome) → id ∈ a.listed z) :
    Sound (setZoneSensor rt z t id a).1 := by
  by_cases hid : id ∈ a.listed z
  · exact (setZoneSensor_sound rt z t id).at_end ⟨h, hid⟩
  · -- one of the three things is missing, and nothing is assigned
    have hsame : (setZoneSensor rt z t id a).1 = a := by
      rw [setZoneSensor, withZone, inspect_apply]
      rcases hz : a.zone z with - | zone
      · rfl
      · dsimp only
        rw [withDevice, inspect_apply]
        rcases hdevice : a.device id with - | device
        · rfl
        · dsimp only
          rcases hset : zone.setSensor z id device t with e | changed
          · rfl
          · refine absurd (hfits ⟨by rw [hz]; rfl, (setSensor_ok hset).1, ?_⟩) hid
            rw [hdevice, Option.any_some]
            rw [Zone.setSensor] at hset
            rcases hsensor : device.getSensorByType t with - | sensor
            · rw [hsensor] at hset
              cases hset
            · rfl
    rw [hsame]
    exact h

theorem sensorStep_sound {c : SensorCall D} (h : Sound a) (hfits : SensorFits rt a c) :
    Sound (sensorStep rt a c) := by
  cases c with
  | setZoneSensor z t id => exact setZoneSensor_step h hfits
  | resetZoneSensor z t => exact resetZoneSensor_sound a h
  | autoAssignZoneSensors z => exact autoAssignZoneSensors_sound a h
  | addDeviceToZone id z => exact addDeviceToZone_sound h hfits
  | removeDevice id => exact removeDevice_sound h hfits
  | update id data => exact ⟨h.once, h.allowed, h.member⟩

/-- **The main sensors of the zones.** From tables that are as they should be, a run of calls
each of which meets its condition leads only to such tables. -/
theorem sound_of_fits (rt : Runtime D) (a : Apartment D) (calls : List (SensorCall D))
    (h : Sound a) (hfits : Meets (sensorStep rt) (SensorFits rt) a calls) :
    Always (sensorStep rt) Sound a calls :=
  always_of_meets (fun _ hinv => hinv) (fun _ _ hinv hcall => sensorStep_sound hinv hcall) h hfits

/-! ## Two runs -/

def silentRuntime : Runtime ℕ where
  nullDsuid := 0
  nextDsuid := Nat.succ
  dsuid2str := toString
  bus := fun _ => none

def weatherHouse : Apartment ℕ where
  device
    | 1 => some { zoneID := 5, isPresent := true, dsMeterDSID := 9,
                  sensorInputs := [⟨.temperatureIndoors, 0⟩] }
    | 2 => some { zoneID := 5, isPresent := true, dsMeterDSID := 9,
                  sensorInputs := [⟨.temperatureOutdoors, 0⟩] }
    | _ => none
  zone
    | 0 => some { devices := [1, 2] }
    | 5 => some { devices := [1, 2] }
    | 6 => some {}
    | _ => none

theorem weatherHouse_sound : Sound weatherHouse := by
  have hnone : ∀ z, weatherHouse.mainSensors z = [] := by
    intro z
    rw [Apartment.mainSensors, weatherHouse]
    dsimp only
    split
    · rfl
    · rfl
    · rfl
    · rfl
  refine ⟨fun z => ?_, fun z ms hms => ?_, fun z ms hms => ?_⟩
  · rw [hnone]
    exact List.nodup_nil
  · rw [hnone] at hms
    cases hms
  · rw [hnone] at hms
    cases hms

/-- The thermometer is assigned, moved, and removed when it is not present any more. -/
theorem sound_of_fits_moving : Always (sensorStep silentRuntime) Sound weatherHouse
    [.autoAssignZoneSensors 5, .addDeviceToZone 1 6,
      .update 1 { dsMeterDSID := 9, sensorInputs := [⟨.temperatureIndoors, 0⟩] },
      .removeDevice 1] :=
  sound_of_fits silentRuntime weatherHouse _ weatherHouse_sound (by decide)

/-- A weather station that is removed when it is not present any more is still assigned in
zone 0. -/
theorem sound_fails : ¬ ∀ calls : List (SensorCall ℕ),
    Always (sensorStep silentRuntime) Sound weatherHouse calls := by
  intro h
  have hend := (h [.autoAssignZoneSensors 0,
    .update 2 { dsMeterDSID := 9, sensorInputs := [⟨.temperatureOutdoors, 0⟩] },
    .removeDevice 2]).2.2.2
  exact absurd (hend.member 0 ⟨2, .temperatureOutdoors, 0⟩ (by decide)) (by decide)

end ZoneMembership

end Dss
