import Mathlib.Algebra.BigOperators.Group.List.Basic
import Dss.AbortingLoop
import Dss.Event
import Dss.Seconds
import Dss.ZoneMembership

/-!
# The monitor of the sensor values

`SensorMonitorTask` marks the values of device sensors that have not come in for an hour as
invalid, and takes back the values of zones that are as old; it also reports the values that the
assigned device does not measure any more because it is gone. One `try` is around the loop over
all zones: a zone that throws leaves those behind it without a check. `HeatingMonitorTask` has its
`try` inside `syncZone`.

Times are in seconds, and 0 is `DateTime::NullDate`. Only zone 0 keeps its values in the apartment.
An age is an `int`, so that a value of 68 years does not count as old.
-/

namespace Dss

open ZoneMembership (SensorType MainZoneSensor)
open List Option

namespace SensorMonitor

variable {D V : Type}

def sensorMaxLifeTime : ℤ := 3600

/-! ## The model -/

/-- `DeviceSensor_t`, as far as it is looked at here. -/
structure Sensor : Type where
  sensorType : SensorType
  /-- `m_sensorPollInterval` -/
  pollInterval : ℕ
  /-- `m_sensorValueTS` -/
  valueTS : ℤ
  /-- `m_sensorValueValidity` -/
  validity : Bool
  deriving DecidableEq

/-- `Device`, as far as it is looked at here. -/
structure Device (D : Type) : Type where
  /-- `getDSID` -/
  dsid : D
  /-- `getZoneID` -/
  zoneID : ℤ
  isValid : Bool
  isPresent : Bool
  /-- `m_sensorInputs` -/
  sensors : List Sensor
  deriving DecidableEq

structure Reading (V : Type) : Type where
  value : Option V := none
  ts : ℤ := 0
  deriving DecidableEq

/-- `Zone`, as far as it is looked at here. -/
structure Zone (D V : Type) : Type where
  /-- `getID` -/
  id : ℤ
  devices : List D
  mainSensors : List (MainZoneSensor D)
  /-- `m_SensorStatus`, and the control value of `m_HeatingStatus` -/
  status : SensorType → Reading V

/-- `Apartment`, as far as it is looked at here. -/
structure Apartment (D V : Type) : Type where
  devices : List (Device D)
  zones : List (Zone D V)

/-- What lies outside. -/
structure Runtime (D : Type) : Type where
  /-- the clock when a value of a zone is checked -/
  now : ℤ → SensorType → ℤ
  sensorNow : D → ℕ → ℤ
  /-- `getUptime` then -/
  uptime : D → ℕ → ℤ
  dsuid2str : D → String
  /-- `toISO8601_ms` -/
  toISO8601 : ℤ → String
  groupFailure : ℤ → SensorType → Option String

def sensorTypeNumber : SensorType → ℤ
  | .activePower => 4
  | .outputCurrent => 5
  | .electricMeter => 6
  | .temperatureIndoors => 9
  | .temperatureOutdoors => 10
  | .brightnessIndoors => 11
  | .brightnessOutdoors => 12
  | .humidityIndoors => 13
  | .humidityOutdoors => 14
  | .airPressure => 15
  | .gustSpeed => 16
  | .gustDirection => 17
  | .windSpeed => 18
  | .windDirection => 19
  | .precipitation => 20
  | .co2Concentration => 21
  | .coConcentration => 22
  | .soundPressureLevel => 25
  | .roomTemperatureSetpoint => 50
  | .roomTemperatureControlVariable => 51
  | .status => 60
  | .reserved1 => 61
  | .reserved2 => 62
  | .outputCurrent16A => 64
  | .activePowerVA => 65
  | .notUsed => 253
  | .unknownType => 255
  | .other code => code

/-! ## The devices -/

section Devices

variable (rt : Runtime D)

/-- `age` in `run` -/
def age (d : Device D) (index : ℕ) (s : Sensor) : ℤ :=
  if s.valueTS = 0 then rt.uptime d.dsid index
  else DateTime.difference (rt.sensorNow d.dsid index) s.valueTS

def isSensorDataValid (d : Device D) (s : Sensor) : Bool :=
  if !d.isPresent || !d.isValid then true else if s.pollInterval = 0 then true else s.validity

def createDeviceInvalidSensorEvent (d : Device D) (index : ℕ) (s : Sensor) : Event :=
  let e : Event :=
    { name := "deviceInvalidSensor", raisedAt := .device (rt.dsuid2str d.dsid) d.zoneID }
  let e := e.setProperty "sensorIndex" (toString index)
  let e := e.setProperty "sensorType" (toString (sensorTypeNumber s.sensorType))
  e.setProperty "lastValueTS" (rt.toISO8601 s.valueTS)

def checkSensor (d : Device D) (index : ℕ) (s : Sensor) : Sensor × List Event :=
  if s.pollInterval = 0 then (s, [])
  else if age rt d index s > sensorMaxLifeTime ∧ isSensorDataValid d s then
    ({ s with validity := false }, [createDeviceInvalidSensorEvent rt d index s])
  else (s, [])

def checkDevice (d : Device D) : Device D × List Event :=
  if !d.isValid || !d.isPresent then (d, [])
  else
    let checked := d.sensors.mapIdx (checkSensor rt d)
    ({ d with sensors := checked.map Prod.fst }, checked.flatMap Prod.snd)

end Devices

/-! ## The zones -/

inductive Call : Type where
  /-- `resetTemperature` and its siblings -/
  | reset : SensorType → Call
  /-- `sensorInvalid` of the group for broadcast -/
  | sensorInvalid : SensorType → Call
  /-- `pushEvent` of a `createZoneSensorErrorEvent`, of a group, a type and a time -/
  | pushError : ℤ → SensorType → ℤ → Call
  deriving DecidableEq

def Zone.perform (z : Zone D V) : Call → Zone D V
  | .reset t => { z with status := fun u => if u = t then {} else z.status u }
  | _ => z

section Zones

variable (rt : Runtime D) (a : Apartment D V) (z : Zone D V)

def createZoneSensorErrorEvent (zoneID groupID : ℤ) (t : SensorType) (ts : ℤ) : Event :=
  let e : Event := { name := "zoneSensorError", raisedAt := .group zoneID groupID }
  let e := e.setProperty "sensorType" (toString (sensorTypeNumber t))
  e.setProperty "lastValueTS" (rt.toISO8601 ts)

def Call.event (zoneID : ℤ) : Call → Option Event
  | .pushError groupID t ts => some (createZoneSensorErrorEvent rt zoneID groupID t ts)
  | _ => none

def checkZoneValueDueTime (t : SensorType) (ts : ℤ) : Bool :=
  if ts ≠ 0 then DateTime.difference (rt.now z.id t) ts > sensorMaxLifeTime else false

/-- `checkZoneValue`, with the reset behind it. -/
def checkZoneValue (t : SensorType) : AbortingLoop.Outcome Unit Call String :=
  if checkZoneValueDueTime rt z t (z.status t).ts then
    match rt.groupFailure z.id t with
    | some e => ⟨[], (), some e⟩
    | none => ⟨[.pushError 48 t (z.status t).ts, .reset t], (), none⟩
  else ⟨[], (), none⟩

variable [DecidableEq D]

def Apartment.getDeviceByDSID (id : D) : Option (Device D) := a.devices.find? fun d => d.dsid = id

/-- `getAssignedSensorDevice`; the search among the devices of the zone looks at each of them in
the apartment. -/
def getAssignedSensorDevice (t : SensorType) : Except String (Option (Device D)) :=
  match z.mainSensors.find? fun s => s.sensorType = t with
  | none => .ok none
  | some s =>
    match z.devices.find? fun id => (a.getDeviceByDSID id).isNone with
    | some missing => .error (rt.dsuid2str missing)
    | none =>
      if s.dsuid ∈ z.devices then .ok (a.getDeviceByDSID s.dsuid)
      else .error ("with dsid " ++ rt.dsuid2str s.dsuid)

def checkZoneSensor (t : SensorType) : AbortingLoop.Outcome Unit Call String :=
  match getAssignedSensorDevice rt a z t with
  | .error e => ⟨[], (), some e⟩
  | .ok sensorDevice =>
    let due := checkZoneValueDueTime rt z t (z.status t).ts
    let resets := if due then [.reset t] else []
    if due || sensorDevice.any fun d => !d.isPresent then
      match rt.groupFailure z.id t with
      | some e => ⟨resets, (), some e⟩
      | none => ⟨resets ++ [.sensorInvalid t, .pushError 0 t 0], (), none⟩
    else ⟨resets, (), none⟩

def sensorTypes : List SensorType :=
  [.temperatureIndoors, .humidityIndoors, .co2Concentration, .brightnessIndoors]

def valueTypes : List SensorType := sensorTypes ++ [.roomTemperatureControlVariable]

def checkType (t : SensorType) : AbortingLoop.Outcome Unit Call String :=
  if t ∈ sensorTypes then checkZoneSensor rt a z t else checkZoneValue rt z t

def checkZone : AbortingLoop.Outcome Unit Call String :=
  if z.id > 0 then
    let trace := AbortingLoop.run (fun _ t => checkType rt a z t) () valueTypes
    ⟨trace.effects.flatten, (), trace.failure⟩
  else ⟨[], (), none⟩

/-- What a run of the task does. -/
structure Result (D V : Type) : Type where
  apartment : Apartment D V
  calls : List (List Call)
  events : List Event

def checkSensorValues : Event :=
  let e : Event := { name := "check_sensor_values" }
  e.setProperty "time" "+600"

/-- `SensorMonitorTask::run` -/
def run : Result D V :=
  let devices := a.devices.map (checkDevice rt)
  let behind : Apartment D V := { a with devices := devices.map Prod.fst }
  let trace := AbortingLoop.run (fun _ z => checkZone rt behind z) () a.zones
  { apartment :=
      { behind with zones := a.zones.mapIdx fun i z => (trace.at i).foldl Zone.perform z }
    calls := trace.effects
    events := devices.flatMap Prod.snd ++
      (List.zipWith (fun (z : Zone D V) calls => calls.filterMap (Call.event rt z.id)) a.zones
        trace.effects).flatten ++ [checkSensorValues] }

end Zones

/-! ## What happens to the devices -/

section DeviceLaw

variable (rt : Runtime D)

/-- The true age of a value. -/
def elapsed (d : Device D) (index : ℕ) (s : Sensor) : ℤ :=
  if s.valueTS = 0 then rt.uptime d.dsid index else rt.sensorNow d.dsid index - s.valueTS

/-- A polled sensor whose value is too old, and which still counts as valid. -/
def Stale (d : Device D) (s : Sensor) (age : ℤ) : Prop :=
  d.isValid = true ∧ d.isPresent = true ∧ s.pollInterval ≠ 0 ∧
    sensorMaxLifeTime < age ∧ s.validity = true

instance (d : Device D) (s : Sensor) (age : ℤ) : Decidable (Stale d s age) :=
  inferInstanceAs (Decidable (_ ∧ _ ∧ _ ∧ _ ∧ _))

/-- The device with the stale sensors invalid, by the ages of their values. -/
def expectedDevice (age : Device D → ℕ → Sensor → ℤ) (d : Device D) : Device D :=
  { d with
    sensors := d.sensors.mapIdx fun i s =>
      if Stale d s (age d i s) then { s with validity := false } else s }

/-- No value that is stale has been so for 68 years. -/
def SensorsNear (d : Device D) : Prop :=
  ∀ i s, d.sensors[i]? = some s → Stale d s (elapsed rt d i s) → s.valueTS ≠ 0 →
    rt.sensorNow d.dsid i - s.valueTS < 2 ^ 31

variable {rt} {a : Apartment D V} {t : SensorType}

theorem checkSensor_fst {d : Device D} (hvalid : d.isValid = true) (hpresent : d.isPresent = true)
    (i : ℕ) (s : Sensor) : (checkSensor rt d i s).1 =
      if Stale d s (age rt d i s) then { s with validity := false } else s := by
  rw [checkSensor, isSensorDataValid, hvalid, hpresent]
  by_cases hpoll : s.pollInterval = 0
  · rw [if_pos hpoll, if_neg fun h : Stale d s (age rt d i s) => h.2.2.1 hpoll]
  · rw [if_neg hpoll, if_neg hpoll]
    by_cases hstale : Stale d s (age rt d i s)
    · rw [if_pos hstale, if_pos ⟨hstale.2.2.2.1, by simpa using hstale.2.2.2.2⟩]
    · rw [if_neg hstale, if_neg]
      rintro ⟨hage, hvalidity⟩
      exact hstale ⟨hvalid, hpresent, hpoll, hage, by simpa using hvalidity⟩

theorem checkDevice_fst (d : Device D) : (checkDevice rt d).1 = expectedDevice (age rt) d := by
  rw [checkDevice, expectedDevice]
  by_cases hskip : (!d.isValid || !d.isPresent) = true
  · have hnot (i : ℕ) (s : Sensor) : ¬ Stale d s (age rt d i s) := by
      rintro ⟨hvalid, hpresent, -⟩
      simp [hvalid, hpresent] at hskip
    have hsame : d.sensors.mapIdx (fun i s =>
        if Stale d s (age rt d i s) then { s with validity := false } else s) = d.sensors := by
      refine List.ext_getElem? fun i => ?_
      simp [List.getElem?_mapIdx, hnot]
    rw [if_pos hskip, hsame]
  · obtain ⟨hvalid, hpresent⟩ : d.isValid = true ∧ d.isPresent = true := by
      simpa using hskip
    rw [if_neg hskip]
    refine congrArg (fun sensors => { d with sensors := sensors }) ?_
    refine List.ext_getElem? fun i => ?_
    rw [List.getElem?_map, List.getElem?_mapIdx, List.getElem?_mapIdx, Option.map_map]
    exact congrFun (congrArg Option.map (funext (checkSensor_fst hvalid hpresent i))) _

def checkedApartment (rt : Runtime D) (a : Apartment D V) : Apartment D V :=
  { a with devices := (a.devices.map (checkDevice rt)).map Prod.fst }

theorem devices_checked :
    (checkedApartment rt a).devices = a.devices.map (expectedDevice (age rt)) := by
  rw [checkedApartment, List.map_map]
  exact List.map_congr_left fun d _ => checkDevice_fst d

theorem stale_age_iff {d : Device D} {i : ℕ} {s : Sensor} : Stale d s (age rt d i s) ↔
    Stale d s (elapsed rt d i s) ∧
      (s.valueTS ≠ 0 → rt.sensorNow d.dsid i - s.valueTS < 2 ^ 31) := by
  have hlong : sensorMaxLifeTime < age rt d i s ↔ sensorMaxLifeTime < elapsed rt d i s ∧
      (s.valueTS ≠ 0 → rt.sensorNow d.dsid i - s.valueTS < 2 ^ 31) := by
    rw [age, elapsed]
    split_ifs with hnull
    · exact (and_iff_left fun h => absurd hnull h).symm
    · rw [DateTime.lt_difference_iff (by decide)]
      exact and_congr_right fun _ => ⟨fun h _ => h, fun h => h hnull⟩
  rw [Stale, Stale, hlong]
  tauto

/-- The ages of the code are as good as the true ones for the values that are near. -/
theorem expectedDevice_eq_iff (d : Device D) :
    expectedDevice (age rt) d = expectedDevice (elapsed rt) d ↔ SensorsNear rt d := by
  have hsensor (i : ℕ) (s : Sensor) :
      (if Stale d s (age rt d i s) then { s with validity := false } else s) =
        (if Stale d s (elapsed rt d i s) then { s with validity := false } else s) ↔
      (Stale d s (elapsed rt d i s) → s.valueTS ≠ 0 →
        rt.sensorNow d.dsid i - s.valueTS < 2 ^ 31) := by
    rw [← and_iff_left_iff_imp, ← stale_age_iff]
    by_cases hstale : Stale d s (elapsed rt d i s)
    · have hne : s ≠ { s with validity := false } := fun heq => by
        have hvalidity := congrArg Sensor.validity heq
        rw [hstale.2.2.2.2] at hvalidity
        cases hvalidity
      by_cases hage : Stale d s (age rt d i s)
      · rw [if_pos hage, if_pos hstale]
        exact iff_of_true rfl (iff_of_true hage hstale)
      · rw [if_neg hage, if_pos hstale]
        exact iff_of_false hne fun h => hage (h.mpr hstale)
    · have hage : ¬ Stale d s (age rt d i s) := fun h => hstale (stale_age_iff.1 h).1
      rw [if_neg hage, if_neg hstale]
      exact iff_of_true rfl (iff_of_false hage hstale)
  rw [expectedDevice, expectedDevice, Device.mk.injEq, SensorsNear]
  simp only [true_and, List.ext_getElem?_iff, List.getElem?_mapIdx]
  refine forall_congr' fun i => ?_
  rcases d.sensors[i]? with - | s
  · simp
  · simp only [Option.map_some, Option.some.injEq, forall_eq', hsensor]

/-! ### The events -/

theorem name_createZoneSensorErrorEvent {zoneID groupID ts : ℤ} :
    (createZoneSensorErrorEvent rt zoneID groupID t ts).name = "zoneSensorError" :=
  Event.name_setProperty.trans Event.name_setProperty

theorem name_createDeviceInvalidSensorEvent {d : Device D} {i : ℕ} {s : Sensor} :
    (createDeviceInvalidSensorEvent rt d i s).name = "deviceInvalidSensor" :=
  Event.name_setProperty.trans (Event.name_setProperty.trans Event.name_setProperty)

theorem name_checkDevice {d : Device D} {e : Event} (h : e ∈ (checkDevice rt d).2) :
    e.name = "deviceInvalidSensor" := by
  rw [checkDevice] at h
  split_ifs at h
  · cases h
  · obtain ⟨checked, hchecked, he⟩ := List.mem_flatMap.mp h
    obtain ⟨i, hi, rfl⟩ := List.mem_mapIdx.mp hchecked
    rw [checkSensor] at he
    split_ifs at he
    · cases he
    · rw [List.mem_singleton.mp he]
      exact name_createDeviceInvalidSensorEvent
    · cases he

theorem name_event {zoneID : ℤ} {c : Call} {e : Event} (h : c.event rt zoneID = some e) :
    e.name = "zoneSensorError" := by
  cases c with
  | pushError groupID t ts =>
    rw [← Option.some.inj h]
    exact name_createZoneSensorErrorEvent
  | reset t => cases h
  | sensorInvalid t => cases h

end DeviceLaw

/-! ## The law -/

def Once (p : Prop) (n : ℕ) : Prop := (p → n = 1) ∧ (¬ p → n = 0)

def Call.type : Call → SensorType
  | .reset t => t
  | .sensorInvalid t => t
  | .pushError _ t _ => t

def Call.reports (t : SensorType) : Call → Bool
  | .pushError _ u _ => u = t
  | _ => false

section Law

variable (rt : Runtime D) (a : Apartment D V) (z : Zone D V) (t : SensorType)

/-- The value is due for a report, as the code sees it. -/
def Due : Prop :=
  (z.status t).ts ≠ 0 ∧ sensorMaxLifeTime < DateTime.difference (rt.now z.id t) (z.status t).ts

/-- The value is too old. -/
def Old : Prop :=
  (z.status t).ts ≠ 0 ∧ sensorMaxLifeTime < rt.now z.id t - (z.status t).ts

instance : Decidable (Due rt z t) := inferInstanceAs (Decidable (_ ∧ _))

variable {rt z t} in
theorem checkZoneValueDueTime_iff :
    checkZoneValueDueTime rt z t (z.status t).ts = true ↔ Due rt z t := by
  rw [checkZoneValueDueTime, Due]
  split_ifs with hnull
  · rw [decide_eq_true_iff, gt_iff_lt]
    exact (and_iff_right hnull).symm
  · exact iff_of_false id fun h => hnull h.1

variable {z t} in
theorem status_foldl {calls : List Call} : (calls.foldl Zone.perform z).status t =
    if .reset t ∈ calls then {} else z.status t := by
  induction calls generalizing z with
  | nil => rfl
  | cons c calls ih =>
    rw [List.foldl_cons, ih]
    by_cases hmem : .reset t ∈ calls
    · rw [if_pos hmem, if_pos (List.mem_cons_of_mem c hmem)]
    · rw [if_neg hmem]
      cases c with
      | reset u =>
        by_cases hu : t = u
        · rw [hu, if_pos List.mem_cons_self, Zone.perform]
          exact if_pos rfl
        · rw [Zone.perform, if_neg]
          · exact if_neg hu
          · rw [List.mem_cons, not_or]
            exact ⟨fun h => hu (Call.reset.inj h), hmem⟩
      | sensorInvalid u => simp [Zone.perform, hmem]
      | pushError groupID u ts => simp [Zone.perform, hmem]

variable [DecidableEq D]

def Absent : Prop :=
  ∃ s d, z.mainSensors.find? (fun s => s.sensorType = t) = some s ∧
    a.getDeviceByDSID s.dsuid = some d ∧ d.isPresent = false

/-- A type that a device is assigned for which the zone does not list, or while a device that it
lists is not in the apartment. -/
def Lost : Prop :=
  ∃ s, z.mainSensors.find? (fun s => s.sensorType = t) = some s ∧
    (s.dsuid ∉ z.devices ∨ ∃ id ∈ z.devices, a.getDeviceByDSID id = none)

/-- What is to be reported, if these values are too old. -/
def ReportedBy (aged : SensorType → Prop) : Prop := aged t ∨ t ∈ sensorTypes ∧ Absent a z t

def Reported : Prop := ReportedBy a z t (Due rt z)

def Throws : Prop :=
  t ∈ sensorTypes ∧ Lost a z t ∨ Reported rt a z t ∧ rt.groupFailure z.id t ≠ none

/-- The check of a zone throws. -/
def Fails : Prop := 0 < z.id ∧ ∃ t ∈ valueTypes, Throws rt a z t

/-- What should happen to a zone: each value that is too old is taken back once, and reported once
as one whose device is absent; the others stay. -/
structure Handled (aged : SensorType → Prop) (calls : List Call) (behind : Zone D V) : Prop where
  reset : ∀ t, Once (t ∈ valueTypes ∧ aged t) (calls.count (.reset t))
  sensorInvalid : ∀ t,
    Once (t ∈ sensorTypes ∧ ReportedBy a z t aged) (calls.count (.sensorInvalid t))
  error : ∀ t, Once (t ∈ valueTypes ∧ ReportedBy a z t aged) (calls.countP (Call.reports t))
  old : ∀ t ∈ valueTypes, aged t → behind.status t = {}
  young : ∀ t, ¬ (t ∈ valueTypes ∧ aged t) → behind.status t = z.status t

/-- **The law of a run**: exactly the sensors that are stale lose their validity, every zone whose
check does not throw is handled, and one check is scheduled. -/
structure Lawful : Prop where
  devices : (run rt a).apartment.devices = a.devices.map (expectedDevice (elapsed rt))
  zones : ∀ i z, a.zones[i]? = some z → 0 < z.id → ¬ Fails rt a z →
    ∃ behind, (run rt a).apartment.zones[i]? = some behind ∧
      Handled a z (Old rt z) ((run rt a).calls.getD i []) behind
  next : (run rt a).events.filter (fun e => e.name = "check_sensor_values") = [checkSensorValues]

/-- No value of the zone that is too old has been so for 68 years. -/
def ValuesNear : Prop :=
  ∀ t ∈ valueTypes, Old rt z t → rt.now z.id t - (z.status t).ts < 2 ^ 31

/-- Behind a zone whose check throws nothing is due or measured by an absent device, but in zones
whose checks throw as well. -/
def Calm : Prop :=
  ∀ pre z post, a.zones = pre ++ z :: post → Fails rt a z →
    ∀ b ∈ post, 0 < b.id → ¬ Fails rt a b → ∀ t ∈ valueTypes, ¬ Reported rt a b t

/-- When a run meets the law. -/
structure Fits : Prop where
  sensors : ∀ d ∈ a.devices, SensorsNear rt d
  values : ∀ z ∈ a.zones, 0 < z.id → ¬ Fails rt a z → ValuesNear rt z
  calm : Calm rt a

/-! ## Checks -/

variable {rt : Runtime D} {a : Apartment D V} {z : Zone D V} {t : SensorType}

variable (rt) in
theorem getAssignedSensorDevice_of_lost (h : Lost a z t) :
    ∃ e, getAssignedSensorDevice rt a z t = .error e := by
  obtain ⟨s, hs, hlost⟩ := h
  rw [getAssignedSensorDevice, hs]
  dsimp only
  rcases hmissing : z.devices.find? fun id => (a.getDeviceByDSID id).isNone with - | id
  · rw [List.find?_eq_none] at hmissing
    refine ⟨_, if_neg ?_⟩
    intro hmem
    rcases hlost with hnot | ⟨id, hid, hnone⟩
    · exact hnot hmem
    · exact hmissing id hid (Option.isNone_iff_eq_none.mpr hnone)
  · exact ⟨_, rfl⟩

variable (rt) in
theorem getAssignedSensorDevice_of_not_lost (h : ¬ Lost a z t) :
    ∃ device, getAssignedSensorDevice rt a z t = .ok device ∧
      ((device.any fun d => !d.isPresent) = true ↔ Absent a z t) := by
  rcases hs : z.mainSensors.find? fun s => s.sensorType = t with - | s
  · refine ⟨none, by rw [getAssignedSensorDevice, hs], iff_of_false Bool.false_ne_true ?_⟩
    rintro ⟨s, d, hsome, -⟩
    rw [hs] at hsome
    cases hsome
  · have hmem : s.dsuid ∈ z.devices := by
      by_contra hnot
      exact h ⟨s, hs, Or.inl hnot⟩
    have hall : (z.devices.find? fun id => (a.getDeviceByDSID id).isNone) = none := by
      refine List.find?_eq_none.mpr fun id hid hnone => h ⟨s, hs, Or.inr ⟨id, hid, ?_⟩⟩
      exact Option.isNone_iff_eq_none.mp hnone
    refine ⟨a.getDeviceByDSID s.dsuid, ?_, ?_⟩
    · rw [getAssignedSensorDevice, hs]
      dsimp only
      rw [hall]
      exact if_pos hmem
    · rw [Option.any_eq_true]
      constructor
      · rintro ⟨d, hd, hgone⟩
        exact ⟨s, d, hs, hd, by simpa using hgone⟩
      · rintro ⟨s', d, hs', hd, hgone⟩
        obtain rfl := Option.some.inj (hs.symm.trans hs')
        exact ⟨d, hd, by simpa using hgone⟩

structure Checked (rt : Runtime D) (a : Apartment D V) (z : Zone D V) (t : SensorType)
    (o : AbortingLoop.Outcome Unit Call String) : Prop where
  failure : o.failure = none ↔ ¬ Throws rt a z t
  type : ∀ c ∈ o.effects, c.type = t
  reset : o.failure = none → Once (Due rt z t) (o.effects.count (.reset t))
  sensorInvalid : o.failure = none →
    Once (t ∈ sensorTypes ∧ Reported rt a z t) (o.effects.count (.sensorInvalid t))
  error : o.failure = none → Once (Reported rt a z t) (o.effects.countP (Call.reports t))
  /-- nothing is done to a value that is fine -/
  quiet : ¬ Reported rt a z t → o.effects = []

theorem once_of {p : Prop} (h : p) : Once p 1 := ⟨fun _ => rfl, fun hnot => absurd h hnot⟩

theorem once_of_not {p : Prop} (h : ¬ p) : Once p 0 := ⟨fun hp => absurd hp h, fun _ => rfl⟩

theorem Once.congr {p q : Prop} {n : ℕ} (h : Once p n) (hpq : p ↔ q) : Once q n :=
  ⟨fun hq => h.1 (hpq.mpr hq), fun hq => h.2 fun hp => hq (hpq.mp hp)⟩

theorem once_ite {p q : Prop} [Decidable p] {n : ℕ} (h : p → Once q n) :
    Once (p ∧ q) (if p then n else 0) := by
  split_ifs with hp
  · exact (h hp).congr (and_iff_right hp).symm
  · exact once_of_not fun hboth => hp hboth.1

theorem type_of_reports : ∀ c : Call, c.reports t = true → c.type = t
  | .pushError _ _ _, h => of_decide_eq_true h

theorem Checked.of_fine (hok : ¬ Throws rt a z t) (hfine : ¬ Reported rt a z t) :
    Checked rt a z t ⟨[], (), none⟩ where
  failure := iff_of_true rfl hok
  type := List.forall_mem_nil _
  reset _ := once_of_not fun hold => hfine (Or.inl hold)
  sensorInvalid _ := once_of_not fun h => hfine h.2
  error _ := once_of_not hfine
  quiet _ := rfl

theorem Checked.of_throws {effects : List Call} {e : String} (hthrows : Throws rt a z t)
    (htype : ∀ c ∈ effects, c.type = t) (hquiet : ¬ Reported rt a z t → effects = []) :
    Checked rt a z t ⟨effects, (), some e⟩ where
  failure := iff_of_false (Option.some_ne_none e) (not_not.mpr hthrows)
  type := htype
  reset h := absurd h (Option.some_ne_none e)
  sensorInvalid h := absurd h (Option.some_ne_none e)
  error h := absurd h (Option.some_ne_none e)
  quiet := hquiet

theorem Checked.of_reported {due : Bool} (ht : t ∈ sensorTypes) (hok : ¬ Throws rt a z t)
    (hreported : Reported rt a z t) (hold : due = true ↔ Due rt z t) :
    Checked rt a z t
      ⟨(if due then [.reset t] else []) ++ [.sensorInvalid t, .pushError 0 t 0], (), none⟩ where
  failure := iff_of_true rfl hok
  type := by cases due <;> simp [Call.type]
  reset _ := by
    cases due
    · exact once_of_not fun h => Bool.false_ne_true (hold.mpr h)
    · have hcount : [Call.reset t, .sensorInvalid t, .pushError 0 t 0].count (.reset t) = 1 := by
        simp
      exact hcount ▸ once_of (hold.mp rfl)
  sensorInvalid _ := by
    have hcount : ((if due then [Call.reset t] else []) ++
        [Call.sensorInvalid t, Call.pushError 0 t 0]).count (Call.sensorInvalid t) = 1 := by
      cases due <;> simp
    exact hcount ▸ once_of ⟨ht, hreported⟩
  error _ := by
    have hcount : ((if due then [Call.reset t] else []) ++
        [Call.sensorInvalid t, Call.pushError 0 t 0]).countP (Call.reports t) = 1 := by
      cases due <;> simp [Call.reports]
    exact hcount ▸ once_of hreported
  quiet h := absurd hreported h

theorem checked_checkZoneSensor (ht : t ∈ sensorTypes) :
    Checked rt a z t (checkZoneSensor rt a z t) := by
  rw [checkZoneSensor]
  by_cases hlost : Lost a z t
  · obtain ⟨e, he⟩ := getAssignedSensorDevice_of_lost rt hlost
    rw [he]
    exact Checked.of_throws (Or.inl ⟨ht, hlost⟩) (List.forall_mem_nil _) fun _ => rfl
  · obtain ⟨device, hdevice, hgone⟩ := getAssignedSensorDevice_of_not_lost rt hlost
    have hold : checkZoneValueDueTime rt z t (z.status t).ts = true ↔ Due rt z t :=
      checkZoneValueDueTime_iff
    rw [hdevice]
    dsimp only
    generalize checkZoneValueDueTime rt z t (z.status t).ts = due at hold ⊢
    generalize device.any _ = gone at hgone ⊢
    have hreported : (due || gone) = true ↔ Reported rt a z t := by
      rw [Bool.or_eq_true, hold, hgone, Reported, ReportedBy, and_iff_right ht]
    have hthrows : Throws rt a z t ↔ (due || gone) = true ∧ rt.groupFailure z.id t ≠ none := by
      rw [Throws, hreported, or_iff_right fun h => hlost h.2]
    by_cases hrep : (due || gone) = true
    · rw [if_pos hrep]
      rcases hgroup : rt.groupFailure z.id t with - | e
      · have hok : ¬ Throws rt a z t := fun h => (hthrows.mp h).2 hgroup
        exact Checked.of_reported ht hok (hreported.mp hrep) hold
      · have hthrow : Throws rt a z t :=
          hthrows.mpr ⟨hrep, by rw [hgroup]; exact Option.some_ne_none e⟩
        refine Checked.of_throws hthrow ?_ fun h => absurd (hreported.mp hrep) h
        cases due <;> simp [Call.type]
    · have hdue : due = false := by
        cases due
        · rfl
        · exact absurd rfl hrep
      rw [if_neg hrep, hdue]
      exact Checked.of_fine (fun h => hrep (hthrows.mp h).1) fun h => hrep (hreported.mpr h)

theorem checked_checkZoneValue (ht : t ∉ sensorTypes) :
    Checked rt a z t (checkZoneValue rt z t) := by
  have hreported : Reported rt a z t ↔ Due rt z t := or_iff_left fun h => ht h.1
  have hthrows : Throws rt a z t ↔ Due rt z t ∧ rt.groupFailure z.id t ≠ none := by
    rw [Throws, hreported, or_iff_right fun h => ht h.1]
  rw [checkZoneValue]
  by_cases hold : Due rt z t
  · rw [if_pos (checkZoneValueDueTime_iff.2 hold)]
    rcases hgroup : rt.groupFailure z.id t with - | e
    · exact
        { failure := iff_of_true rfl fun h => (hthrows.mp h).2 hgroup
          type := by simp [Call.type]
          reset := fun _ => by simpa [List.count_cons] using once_of hold
          sensorInvalid := fun _ => by
            simpa [List.count_cons] using once_of_not fun h => ht h.1
          error := fun _ => by
            simpa [List.countP_cons, Call.reports] using once_of (hreported.mpr hold)
          quiet := fun h => absurd (hreported.mpr hold) h }
    · have hthrow : Throws rt a z t :=
        hthrows.mpr ⟨hold, by rw [hgroup]; exact Option.some_ne_none e⟩
      exact Checked.of_throws hthrow (List.forall_mem_nil _) fun _ => rfl
  · rw [if_neg fun h => hold (checkZoneValueDueTime_iff.1 h)]
    exact Checked.of_fine (fun h => hold (hthrows.mp h).1) fun h => hold (hreported.mp h)

theorem checked_checkType : Checked rt a z t (checkType rt a z t) := by
  rw [checkType]
  split_ifs with ht
  · exact checked_checkZoneSensor ht
  · exact checked_checkZoneValue ht

/-! ## Zones -/

theorem countP_flatten {f : SensorType → List Call} (htype : ∀ u, ∀ c ∈ f u, c.type = u)
    {p : Call → Bool} (hp : ∀ c, p c = true → c.type = t) :
    (valueTypes.map f).flatten.countP p = if t ∈ valueTypes then (f t).countP p else 0 := by
  have hother : ∀ u, u ≠ t → u ∈ valueTypes → (f u).countP p = 0 := by
    intro u hne _
    refine List.countP_eq_zero.mpr fun c hc hcp => hne ?_
    rw [← htype u c hc, hp c hcp]
  have hnodup : valueTypes.Nodup := by decide
  rw [List.countP_flatten]
  refine (List.sum_map_eq_nsmul_single t (fun u => (f u).countP p) hother).trans ?_
  rw [hnodup.count]
  split_ifs with ht
  · exact one_nsmul _
  · exact zero_nsmul _

variable (rt a z) in
theorem undisturbed_types :
    AbortingLoop.Undisturbed (fun (_ : Unit) t => checkType rt a z t) (fun _ _ => True) ()
      valueTypes :=
  AbortingLoop.undisturbed_of_same fun _ _ _ => ⟨rfl, rfl⟩

theorem checkZone_failure : (checkZone rt a z).failure = none ↔ ¬ Fails rt a z := by
  rw [checkZone, Fails]
  split_ifs with hid
  · rw [AbortingLoop.run_failure_eq_none (undisturbed_types rt a z) fun _ _ => trivial]
    simp only [checked_checkType.failure, gt_iff_lt.mp hid, true_and, not_exists, not_and]
  · exact iff_of_true rfl fun h => hid h.1

theorem checkZone_effects (hid : 0 < z.id) (h : ¬ Fails rt a z) :
    (checkZone rt a z).effects =
      (valueTypes.map fun t => (checkType rt a z t).effects).flatten ∧
    ∀ t ∈ valueTypes, (checkType rt a z t).failure = none := by
  have hok : ∀ t ∈ valueTypes, (checkType rt a z t).failure = none := fun t ht =>
    checked_checkType.failure.mpr fun hthrows => h ⟨hid, t, ht, hthrows⟩
  refine ⟨?_, hok⟩
  rw [checkZone, if_pos hid]
  dsimp only
  rw [AbortingLoop.effects_eq_map (undisturbed_types rt a z) (fun _ _ => trivial) hok]

theorem handled_checkZone (hid : 0 < z.id) (h : ¬ Fails rt a z) :
    Handled a z (Due rt z) (checkZone rt a z).effects
      ((checkZone rt a z).effects.foldl Zone.perform z) := by
  obtain ⟨heffects, hok⟩ := checkZone_effects hid h
  have htype : ∀ u, ∀ c ∈ (checkType rt a z u).effects, c.type = u := fun u =>
    checked_checkType.type
  have hreset (t : SensorType) : Once (t ∈ valueTypes ∧ Due rt z t)
      ((checkZone rt a z).effects.count (.reset t)) := by
    rw [heffects, List.count, countP_flatten htype fun c hc => by rw [eq_of_beq hc]]
    exact once_ite fun ht => checked_checkType.reset (hok t ht)
  refine ⟨hreset, fun t => ?_, fun t => ?_, fun t ht hold => ?_, fun t hyoung => ?_⟩
  · rw [heffects, List.count, countP_flatten htype fun c hc => by rw [eq_of_beq hc]]
    have honce := once_ite fun ht : t ∈ valueTypes =>
      checked_checkType.sensorInvalid (hok t ht)
    exact honce.congr (and_iff_right_of_imp fun hs => List.mem_append_left _ hs.1)
  · rw [heffects, countP_flatten htype type_of_reports]
    exact once_ite fun ht => checked_checkType.error (hok t ht)
  · rw [status_foldl, if_pos]
    exact List.count_pos_iff.mp (by rw [(hreset t).1 ⟨ht, hold⟩]; exact Nat.one_pos)
  · rw [status_foldl, if_neg]
    exact List.count_eq_zero.mp ((hreset t).2 hyoung)

theorem checkZone_quiet (hid : 0 < z.id) (h : ¬ Fails rt a z)
    (hfine : ∀ t ∈ valueTypes, ¬ Reported rt a z t) : (checkZone rt a z).effects = [] := by
  rw [(checkZone_effects hid h).1, List.flatten_eq_nil_iff, List.forall_mem_map]
  exact fun t ht => checked_checkType.quiet (hfine t ht)

theorem Handled.quiet {aged : SensorType → Prop} {behind : Zone D V}
    (h : Handled a z aged [] behind) : ∀ t ∈ valueTypes, ¬ ReportedBy a z t aged := by
  intro t ht hreported
  cases (h.error t).1 ⟨ht, hreported⟩

theorem Handled.congr {aged aged' : SensorType → Prop} {calls : List Call} {behind : Zone D V}
    (h : Handled a z aged calls behind) (heq : ∀ t ∈ valueTypes, aged t ↔ aged' t) :
    Handled a z aged' calls behind := by
  have hreported (t : SensorType) (ht : t ∈ valueTypes) :
      ReportedBy a z t aged ↔ ReportedBy a z t aged' := or_congr_left (heq t ht)
  refine ⟨fun t => ?_, fun t => ?_, fun t => ?_, fun t ht hold => ?_, fun t hyoung => ?_⟩
  · exact (h.reset t).congr (and_congr_right (heq t))
  · exact (h.sensorInvalid t).congr
      (and_congr_right fun ht => hreported t (List.mem_append_left _ ht))
  · exact (h.error t).congr (and_congr_right (hreported t))
  · exact h.old t ht ((heq t ht).mpr hold)
  · exact h.young t fun hboth => hyoung ⟨hboth.1, (heq t hboth.1).mp hboth.2⟩

omit [DecidableEq D] in
theorem due_iff : Due rt z t ↔ Old rt z t ∧ rt.now z.id t - (z.status t).ts < 2 ^ 31 := by
  rw [Due, Old, DateTime.lt_difference_iff (by decide), and_assoc]

/-- A zone is handled by the true ages if it is by those of the code and its values are near. -/
theorem handled_old_iff {calls : List Call} {behind : Zone D V} (hid : 0 < z.id)
    (hok : ¬ Fails rt a z) (hcalls : calls = (checkZone rt a z).effects ∨ calls = []) :
    Handled a z (Old rt z) calls behind ↔
      Handled a z (Due rt z) calls behind ∧ ValuesNear rt z := by
  constructor
  · intro h
    have hnear : ValuesNear rt z := by
      intro t ht hold
      rcases hcalls with rfl | rfl
      · have honce := (h.reset t).1 ⟨ht, hold⟩
        by_contra hfar
        have hnone := ((handled_checkZone hid hok).reset t).2 fun hdue =>
          hfar (due_iff.1 hdue.2).2
        omega
      · exact absurd (Or.inl hold) (h.quiet t ht)
    exact ⟨h.congr fun t ht => (due_iff.trans (and_iff_left_of_imp (hnear t ht))).symm, hnear⟩
  · rintro ⟨h, hnear⟩
    exact h.congr fun t ht => due_iff.trans (and_iff_left_of_imp (hnear t ht))

/-! ## Runs -/

theorem getDeviceByDSID_checked (id : D) : (checkedApartment rt a).getDeviceByDSID id =
    (a.getDeviceByDSID id).map (expectedDevice (age rt)) := by
  rw [Apartment.getDeviceByDSID, devices_checked, List.find?_map]
  rfl

theorem getAssignedSensorDevice_checked :
    getAssignedSensorDevice rt (checkedApartment rt a) z t =
      (getAssignedSensorDevice rt a z t).map (Option.map (expectedDevice (age rt))) := by
  simp only [getAssignedSensorDevice, getDeviceByDSID_checked, Option.isNone_map]
  split
  · rfl
  · split
    · rfl
    · split_ifs <;> rfl

theorem checkZoneSensor_checked :
    checkZoneSensor rt (checkedApartment rt a) z t = checkZoneSensor rt a z t := by
  rw [checkZoneSensor, checkZoneSensor, getAssignedSensorDevice_checked]
  rcases getAssignedSensorDevice rt a z t with e | device
  · rfl
  · cases device <;> rfl

theorem checkZone_checked : checkZone rt (checkedApartment rt a) z = checkZone rt a z := by
  simp only [checkZone, checkType, checkZoneSensor_checked]

theorem checkZone_checkedApartment (rt : Runtime D) (a : Apartment D V) :
    (fun (_ : Unit) z => checkZone rt (checkedApartment rt a) z) = fun _ z => checkZone rt a z :=
  funext fun _ => funext fun _ => checkZone_checked

theorem run_zones (rt : Runtime D) (a : Apartment D V) :
    (run rt a).apartment.zones = a.zones.mapIdx fun i z =>
      ((AbortingLoop.run (fun _ z => checkZone rt a z) () a.zones).at i).foldl Zone.perform z := by
  rw [← checkZone_checkedApartment]
  rfl

theorem run_calls (rt : Runtime D) (a : Apartment D V) (i : ℕ) :
    (run rt a).calls.getD i [] =
      (AbortingLoop.run (fun _ z => checkZone rt a z) () a.zones).at i := by
  rw [← checkZone_checkedApartment]
  rfl

theorem run_next (rt : Runtime D) (a : Apartment D V) :
    (run rt a).events.filter (fun e => e.name = "check_sensor_values") = [checkSensorValues] := by
  rw [run]
  have hdevices : ((a.devices.map (checkDevice rt)).flatMap Prod.snd).filter
      (fun e => e.name = "check_sensor_values") = [] := by
    refine List.filter_eq_nil_iff.mpr fun e he => ?_
    obtain ⟨checked, hchecked, he⟩ := List.mem_flatMap.mp he
    obtain ⟨d, -, rfl⟩ := List.mem_map.mp hchecked
    rw [name_checkDevice he]
    decide
  have hzones (calls : List (List Call)) : (List.zipWith
      (fun (z : Zone D V) calls => calls.filterMap (Call.event rt z.id)) a.zones
        calls).flatten.filter (fun e => e.name = "check_sensor_values") = [] := by
    refine List.filter_eq_nil_iff.mpr fun e he => ?_
    obtain ⟨events, hevents, he⟩ := List.mem_flatten.mp he
    obtain ⟨i, hi⟩ := List.mem_iff_getElem?.mp hevents
    obtain ⟨z, zoneCalls, -, -, rfl⟩ := List.getElem?_zipWith_eq_some.mp hi
    obtain ⟨c, -, hc⟩ := List.mem_filterMap.mp he
    rw [name_event hc]
    decide
  rw [List.filter_append, List.filter_append, hdevices, hzones]
  rfl

variable (rt a) in
theorem undisturbed_zones : AbortingLoop.Undisturbed (fun (_ : Unit) z => checkZone rt a z)
    (fun _ _ => True) () a.zones :=
  AbortingLoop.undisturbed_of_same fun _ _ _ => ⟨rfl, rfl⟩

/-- A zone is as it should be if its values are near, and it gets the calls that it gets by
itself. -/
theorem zone_lawful_iff {i : ℕ} (hz : a.zones[i]? = some z) (hid : 0 < z.id)
    (hok : ¬ Fails rt a z) :
    (∃ behind, (run rt a).apartment.zones[i]? = some behind ∧
        Handled a z (Old rt z) ((run rt a).calls.getD i []) behind) ↔
      (AbortingLoop.run (fun _ z => checkZone rt a z) () a.zones).at i =
          (checkZone rt a z).effects ∧ ValuesNear rt z := by
  have hat : (AbortingLoop.run (fun _ z => checkZone rt a z) () a.zones).at i =
      (checkZone rt a z).effects ∨
      (AbortingLoop.run (fun _ z => checkZone rt a z) () a.zones).at i = [] :=
    AbortingLoop.at_eq_or_nil (undisturbed_zones rt a) (fun _ _ => trivial) i z hz
  rw [run_zones, run_calls, List.getElem?_mapIdx, hz]
  simp only [Option.map_some, Option.some.injEq, exists_eq_left']
  rw [handled_old_iff hid hok hat]
  refine and_congr_left fun _ => ?_
  rcases hat with hat | hat
  · rw [hat]
    exact iff_of_true (handled_checkZone hid hok) rfl
  · rw [hat]
    constructor
    · exact fun h => (checkZone_quiet hid hok h.quiet).symm
    · intro h
      have hhandled := handled_checkZone hid hok
      rw [← h] at hhandled
      exact hhandled

theorem firstFailure_iff {P : Zone D V → Prop} :
    (∀ z f post, AbortingLoop.FirstFailure (fun (_ : Unit) z => checkZone rt a z) () a.zones z f
        post → ∀ b ∈ post, P b) ↔
      ∀ pre z post, a.zones = pre ++ z :: post → Fails rt a z → ∀ b ∈ post, P b := by
  constructor
  · intro h pre z post hzones hfails b hb
    have hthrows : (checkZone rt a z).failure ≠ none := fun hok => checkZone_failure.1 hok hfails
    obtain ⟨first, f, rest, hfirst, hrest⟩ :=
      AbortingLoop.exists_firstFailure (fun (_ : Unit) z => checkZone rt a z) () pre post hthrows
    rw [← hzones] at hfirst
    exact h first f rest hfirst b (hrest b hb)
  · rintro h z f post ⟨pre, hzones, -, hz⟩ b hb
    refine h pre z post hzones ?_ b hb
    by_contra hok
    rw [checkZone_failure.2 hok] at hz
    cases hz

theorem checkZone_quiet_iff (hid : 0 < z.id) (h : ¬ Fails rt a z) :
    (checkZone rt a z).effects = [] ↔ ∀ t ∈ valueTypes, ¬ Reported rt a z t := by
  refine ⟨fun hnil => ?_, checkZone_quiet hid h⟩
  have hhandled := handled_checkZone hid h
  rw [hnil] at hhandled
  exact hhandled.quiet

theorem devices_lawful_iff :
    (run rt a).apartment.devices = a.devices.map (expectedDevice (elapsed rt)) ↔
      ∀ d ∈ a.devices, SensorsNear rt d := by
  have hdevices : (run rt a).apartment.devices = a.devices.map (expectedDevice (age rt)) :=
    devices_checked
  rw [hdevices, List.map_inj_left]
  exact forall₂_congr fun d _ => expectedDevice_eq_iff d

/-- Every zone gets the calls that it gets by itself if nothing is to be done behind one that
throws. -/
theorem calm_iff : (∀ i z, a.zones[i]? = some z → 0 < z.id ∧ ¬ Fails rt a z →
    (AbortingLoop.run (fun _ z => checkZone rt a z) () a.zones).at i =
      (checkZone rt a z).effects) ↔ Calm rt a := by
  rw [AbortingLoop.effects_eq_iff_of (undisturbed_zones rt a)
    (fun _ _ => trivial) fun z => 0 < z.id ∧ ¬ Fails rt a z, firstFailure_iff]
  refine forall_congr' fun pre => forall_congr' fun z => forall_congr' fun post =>
    forall_congr' fun _ => forall_congr' fun _ => forall_congr' fun b => forall_congr' fun _ => ?_
  rw [and_imp]
  exact forall_congr' fun hid => forall_congr' fun hok => by rw [checkZone_quiet_iff hid hok]

/-- **What a run does**: it meets the law exactly if behind a zone whose check throws there is
nothing to be done, and nothing that is too old is so for 68 years. -/
theorem run_isolated_iff (rt : Runtime D) (a : Apartment D V) : Lawful rt a ↔ Fits rt a := by
  constructor
  · intro h
    refine ⟨devices_lawful_iff.1 h.devices, fun z hz hid hok => ?_,
      calm_iff.1 fun i z hz hrest => ?_⟩
    · obtain ⟨i, hi⟩ := List.mem_iff_getElem?.mp hz
      exact ((zone_lawful_iff hi hid hok).1 (h.zones i z hi hid hok)).2
    · exact ((zone_lawful_iff hz hrest.1 hrest.2).1 (h.zones i z hz hrest.1 hrest.2)).1
  · intro h
    refine ⟨devices_lawful_iff.2 h.sensors, fun i z hz hid hok => ?_, run_next rt a⟩
    exact (zone_lawful_iff hz hid hok).2 ⟨calm_iff.2 h.calm i z hz ⟨hid, hok⟩,
      h.values z (List.mem_of_getElem? hz) hid hok⟩

end Law

def movedOut : Zone ℕ ℕ where
  id := 1
  devices := []
  mainSensors := [{ dsuid := 7, sensorType := .temperatureIndoors, sensorIndex := 0 }]
  status _ := {}

def cold : Zone ℕ ℕ where
  id := 2
  devices := []
  mainSensors := []
  status t := if t = .temperatureIndoors then { value := some 20, ts := 1 } else {}

def twoZones : Apartment ℕ ℕ := { devices := [], zones := [movedOut, cold] }

def lateRuntime : Runtime ℕ where
  now _ _ := 10000
  sensorNow _ _ := 10000
  uptime _ _ := 10000
  dsuid2str := toString
  toISO8601 := toString
  groupFailure _ _ := none

theorem not_fails_cold : ¬ Fails lateRuntime twoZones cold := by
  rintro ⟨-, t, -, ⟨-, s, hs, -⟩ | ⟨-, hgroup⟩⟩
  · cases hs
  · exact hgroup rfl

/-- The old temperature stays. -/
theorem run_isolated_fails : ¬ Lawful lateRuntime twoZones := by
  intro h
  obtain ⟨behind, -, hhandled⟩ := h.zones 1 cold rfl (by decide) not_fails_cold
  have hold : Old lateRuntime cold .temperatureIndoors := ⟨by decide, by decide⟩
  have honce := (hhandled.reset .temperatureIndoors).1 ⟨by decide, hold⟩
  cases honce

end SensorMonitor

end Dss
