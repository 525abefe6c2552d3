import Mathlib.Data.Int.Notation
import Dss.Exception
import Dss.Throwing

/-!
# Devices in zones, and the sensors of a zone

A device knows the id of its zone, and each zone lists the devices that are in it; zone 0 lists
all of them. A zone also has a table of main sensors. The functions that change these are written
here with the bus calls they make, each of which may throw.

The property tree, the events that are raised, the presence flags of groups and zones and the lists
of the meters are left out.
-/

namespace Dss

open Throwing Throwing.Statement

namespace ZoneMembership

/-! ## Sensor types -/

inductive SensorType : Type where
  | activePower | outputCurrent | electricMeter
  | temperatureIndoors | temperatureOutdoors | brightnessIndoors | brightnessOutdoors
  | humidityIndoors | humidityOutdoors | airPressure | gustSpeed | gustDirection
  | windSpeed | windDirection | precipitation | co2Concentration | coConcentration
  | soundPressureLevel | roomTemperatureSetpoint | roomTemperatureControlVariable | status
  | reserved1 | reserved2 | outputCurrent16A | activePowerVA | notUsed | unknownType
  /-- a number that is none of the enumerators -/
  | other (code : ℤ)
  deriving DecidableEq

def sensorTypeName : SensorType → String
  | .status => "Status"
  | .activePower => "Active Power"
  | .outputCurrent => "Output Current"
  | .electricMeter => "Electric Meter"
  | .outputCurrent16A => "Output Current Ex"
  | .activePowerVA => "Active Power Ex"
  | .temperatureIndoors => "Temperature Indoors"
  | .temperatureOutdoors => "Temperature Outdoors"
  | .brightnessIndoors => "Brightness Indoors"
  | .brightnessOutdoors => "Brightness Outdoors"
  | .humidityIndoors => "Humidity Indoors"
  | .humidityOutdoors => "Humidity Outdoors"
  | .airPressure => "Air Pressure"
  | .gustSpeed => "Gust Speed"
  | .gustDirection => "Gust Direction"
  | .windSpeed => "Wind Speed"
  | .windDirection => "Wind Direction"
  | .soundPressureLevel => "Sound Pressure Level"
  | .precipitation => "Precipitation"
  | .roomTemperatureSetpoint => "Nominal Temperature"
  | .roomTemperatureControlVariable => "Temperature Control Value"
  | .co2Concentration => "Carbon Dioxide Concentration"
  | .coConcentration => "Carbon Monoxide Concentration"
  | .unknownType => "Unknown Type"
  | .reserved1 => "Reserved1"
  | .reserved2 => "Reserved2"
  | .notUsed => "NotUsed"
  | .other code => "Invalid Type: " ++ toString code

/-- The sensor types of zone 0, in the order of `getUnassignedSensorTypes`. -/
def sensorTypesOutdoor : List SensorType :=
  [.temperatureOutdoors, .brightnessOutdoors, .humidityOutdoors, .windSpeed, .windDirection,
    .gustSpeed, .gustDirection, .precipitation, .airPressure]

/-- The sensor types of any other zone, in the order of `getUnassignedSensorTypes`. -/
def sensorTypesIndoor : List SensorType :=
  [.temperatureIndoors, .brightnessIndoors, .humidityIndoors, .co2Concentration]

def allowedSensorTypes (zoneID : ℤ) : List SensorType :=
  if zoneID = 0 then sensorTypesOutdoor else sensorTypesIndoor

/-- `Zone::isAllowedSensorType` -/
def isAllowedSensorType (zoneID : ℤ) (sensorType : SensorType) : Bool :=
  sensorType ∈ allowedSensorTypes zoneID

/-! ## The model -/

/-- `DeviceSensor_t`, as far as it is looked at here. -/
structure Sensor : Type where
  sensorType : SensorType
  sensorIndex : ℕ
  deriving DecidableEq

/-- `Device`, as far as it is looked at here. -/
structure Device (D : Type) : Type where
  /-- `getZoneID` -/
  zoneID : ℤ := 0
  isPresent : Bool := false
  /-- `getDSMeterDSID` -/
  dsMeterDSID : D
  sensorInputs : List Sensor := []
  is2WayMaster : Bool := false
  isMainDevice : Bool := true
  /-- `getPairedDevices` -/
  pairedDevices : ℕ := 0
  deriving DecidableEq

/-- `MainZoneSensor_t` -/
structure MainZoneSensor (D : Type) : Type where
  dsuid : D
  sensorType : SensorType
  sensorIndex : ℕ
  deriving DecidableEq

/-- `Zone`, as far as it is looked at here. -/
structure Zone (D : Type) : Type where
  devices : List D := []
  mainSensors : List (MainZoneSensor D) := []
  deriving DecidableEq

/-- `Apartment`, with the number of bus calls that have been made. -/
structure Apartment (D : Type) : Type where
  device : D → Option (Device D)
  zone : ℤ → Option (Zone D)
  busCalls : ℕ := 0

/-- What lies outside: libdsuid, and the bus. -/
structure Runtime (D : Type) : Type where
  /-- `DSUID_NULL` -/
  nullDsuid : D
  /-- `dsuid_get_next_dsuid` -/
  nextDsuid : D → D
  dsuid2str : D → String
  bus : ℕ → Option Exception

/-- What is done with the apartment; it may throw. -/
abbrev Action (D : Type) : Type := Statement (Apartment D) Exception

variable {D : Type}

def Device.getSensorByType (device : Device D) (sensorType : SensorType) : Option Sensor :=
  device.sensorInputs.find? fun sensor => sensor.sensorType = sensorType

namespace Zone

/-- The loop of `setSensor`: the entry of the type is changed, or one is added. -/
def assign (entry : MainZoneSensor D) : List (MainZoneSensor D) → List (MainZoneSensor D)
  | [] => [entry]
  | ms :: rest =>
    if ms.sensorType = entry.sensorType then entry :: rest else ms :: assign entry rest

/-- `setSensor`, in the zone of this id. -/
def setSensor (zoneID : ℤ) (id : D) (device : Device D) (sensorType : SensorType)
    (zone : Zone D) : Except Exception (Zone D) :=
  match device.getSensorByType sensorType with
  | none => .error (.itemNotFound "Device::getSensor: no sensor with given type found")
  | some sensor =>
    if isAllowedSensorType zoneID sensor.sensorType then
      let entry := ⟨id, sensor.sensorType, sensor.sensorIndex⟩
      .ok { zone with mainSensors := assign entry zone.mainSensors }
    else
      .error (.runtimeError
        ("Assignment of sensor type " ++ sensorTypeName sensor.sensorType ++ " is not allowed!"))

/-- `resetSensor`, in the zone of this id. -/
def resetSensor (zoneID : ℤ) (sensorType : SensorType) (zone : Zone D) : Zone D :=
  if isAllowedSensorType zoneID sensorType then
    { zone with mainSensors := zone.mainSensors.filter fun ms => ms.sensorType ≠ sensorType }
  else zone

def isSensorAssigned (zone : Zone D) (sensorType : SensorType) : Bool :=
  zone.mainSensors.any fun ms => ms.sensorType = sensorType

/-- `getUnassignedSensorTypes`, in the zone of this id. -/
def getUnassignedSensorTypes (zoneID : ℤ) (zone : Zone D) : List SensorType :=
  (allowedSensorTypes zoneID).filter fun sensorType => !zone.isSensorAssigned sensorType

variable [DecidableEq D]

def getAssignedSensorTypes (zone : Zone D) (id : D) : List SensorType :=
  (zone.mainSensors.filter fun ms => ms.dsuid = id).map MainZoneSensor.sensorType

def insert (id : D) (zone : Zone D) : Zone D :=
  if id ∈ zone.devices then zone else { zone with devices := zone.devices ++ [id] }

def removeDevice (id : D) (zone : Zone D) : Zone D :=
  { zone with devices := zone.devices.erase id }

end Zone

namespace Apartment

def listed (a : Apartment D) (zoneID : ℤ) : List D := ((a.zone zoneID).map Zone.devices).getD []

def mainSensors (a : Apartment D) (zoneID : ℤ) : List (MainZoneSensor D) :=
  ((a.zone zoneID).map Zone.mainSensors).getD []

def modifyZone (zoneID : ℤ) (f : Zone D → Zone D) (a : Apartment D) : Apartment D :=
  { a with zone := Function.update a.zone zoneID ((a.zone zoneID).map f) }

variable [DecidableEq D]

def modifyDevice (id : D) (f : Device D → Device D) (a : Apartment D) : Apartment D :=
  { a with device := Function.update a.device id ((a.device id).map f) }

/-- `Device::setZoneID` -/
def setZoneID (id : D) (zoneID : ℤ) : Apartment D → Apartment D :=
  modifyDevice id fun device => { device with zoneID := zoneID }

end Apartment

/-! ## Looking things up -/

/-- `getZone` -/
def withZone (zoneID : ℤ) (x : Zone D → Action D) : Action D :=
  inspect (fun a => a.zone zoneID) fun
    | none => raise (.itemNotFound (toString zoneID))
    | some zone => x zone

/-- `getDeviceByDSID` -/
def withDevice (rt : Runtime D) (id : D) (x : Device D → Action D) : Action D :=
  inspect (fun a => a.device id) fun
    | none => raise (.itemNotFound (rt.dsuid2str id))
    | some device => x device

def call (rt : Runtime D) : Action D := fun a =>
  ({ a with busCalls := a.busCalls + 1 }, rt.bus a.busCalls)

/-- `Set::getSubset`: those of the devices that are selected, each of which is looked up. -/
def getSubset (rt : Runtime D) (a : Apartment D) (select : Device D → Bool) :
    List D → Except Exception (List D)
  | [] => .ok []
  | id :: ids =>
    match a.device id with
    | none => .error (.itemNotFound (rt.dsuid2str id))
    | some device =>
      match getSubset rt a select ids with
      | .error e => .error e
      | .ok selected => .ok (if select device then id :: selected else selected)

def withSubset (rt : Runtime D) (select : Device D → Bool) (ids : List D)
    (x : List D → Action D) : Action D :=
  inspect (fun a => getSubset rt a select ids) fun
    | .error e => raise e
    | .ok selected => x selected

/-! ## The sensors of a zone -/

/-- `StructureManipulator::setZoneSensor` -/
def setZoneSensor (rt : Runtime D) (zoneID : ℤ) (sensorType : SensorType) (id : D) : Action D :=
  withZone zoneID fun zone =>
    withDevice rt id fun device =>
      match zone.setSensor zoneID id device sensorType with
      | .error e => raise e
      | .ok changed => (change (Apartment.modifyZone zoneID fun _ => changed)).andThen (call rt)

/-- `StructureManipulator::resetZoneSensor` -/
def resetZoneSensor (rt : Runtime D) (zoneID : ℤ) (sensorType : SensorType) : Action D :=
  withZone zoneID fun _ =>
    (change (Apartment.modifyZone zoneID (Zone.resetSensor zoneID sensorType))).andThen (call rt)

/-- One turn of the loop of `autoAssignZoneSensors`: the first device of the set that has a
sensor of the type and is present. -/
def autoAssignType (rt : Runtime D) (zoneID : ℤ) (devices : List D) (sensorType : SensorType) :
    Action D :=
  withSubset rt (fun device => (device.getSensorByType sensorType).isSome) devices
    fun devicesBySensor =>
      inspect (fun a => devicesBySensor.find? fun id => (a.device id).any Device.isPresent) fun
        | none => skip
        | some id => setZoneSensor rt zoneID sensorType id

/-- `StructureManipulator::autoAssignZoneSensors` -/
def autoAssignZoneSensors (rt : Runtime D) (zoneID : ℤ) : Action D :=
  withZone zoneID fun zone =>
    if zone.devices = [] then skip
    else forEach (autoAssignType rt zoneID zone.devices) (zone.getUnassignedSensorTypes zoneID)

variable [DecidableEq D]

/-- `StructureManipulator::checkSensorsOnDeviceRemoval` -/
def checkSensorsOnDeviceRemoval (rt : Runtime D) (zoneID : ℤ) (id : D) : Action D :=
  withZone zoneID fun zone =>
    (forEach (resetZoneSensor rt zoneID) (zone.getAssignedSensorTypes id)).andThen
      (autoAssignZoneSensors rt zoneID)

/-! ## The lists of devices -/

/-- `Zone::addDevice`. The zone that the device was in is looked up inside a catch clause. -/
def zoneAddDevice (rt : Runtime D) (zoneID : ℤ) (id : D) : Action D :=
  withDevice rt id fun device =>
    (if device.zoneID ≠ -1 ∧ device.zoneID ≠ 0 then
      catching Exception.isRuntimeError <| withZone device.zoneID fun _ =>
        change (Apartment.modifyZone device.zoneID (Zone.removeDevice id))
    else skip).andThen <|
    (change (Apartment.modifyZone zoneID (Zone.insert id))).andThen <|
    change (Apartment.setZoneID id zoneID)

/-- A device that is new: what `Device::Device` sets. -/
def newDevice (rt : Runtime D) : Device D := { dsMeterDSID := rt.nullDsuid }

def allocateDevice (rt : Runtime D) (id : D) : Action D :=
  (change fun a =>
    if (a.device id).isSome then a
    else { a with device := Function.update a.device id (some (newDevice rt)) }).andThen <|
  withZone 0 fun _ => zoneAddDevice rt 0 id

def allocateZone (zoneID : ℤ) : Action D :=
  change fun a =>
    if (a.zone zoneID).isSome then a
    else { a with zone := Function.update a.zone zoneID (some {}) }

def removeZone (zoneID : ℤ) : Action D :=
  change fun a => { a with zone := Function.update a.zone zoneID none }

/-- A device leaves the list of the zone of an id, which `getZone` has to find. -/
def removeFromZone (zoneID : ℤ) (id : D) : Action D :=
  withZone zoneID fun _ => change (Apartment.modifyZone zoneID (Zone.removeDevice id))

/-- `Apartment::removeDevice` -/
def apartmentRemoveDevice (id : D) : Action D :=
  inspect (fun a => a.device id) fun
    | none => skip
    | some device =>
      (if device.zoneID ≠ 0 then removeFromZone device.zoneID id else skip).andThen <|
      (removeFromZone 0 id).andThen <|
      change fun a => { a with device := Function.update a.device id none }

/-! ## The structure manipulator -/

/-- The part of `addDeviceToZone` for the zone that the device was in. The zone is removed from
the meter of the device if no device is present there, and what that throws is logged. -/
def leaveOldZone (rt : Runtime D) (id : D) (device : Device D) : Action D :=
  (removeFromZone device.zoneID id).andThen <|
  (checkSensorsOnDeviceRemoval rt device.zoneID id).andThen <|
  withZone device.zoneID fun zone =>
    withSubset rt (fun other => other.dsMeterDSID = device.dsMeterDSID ∧ other.isPresent)
      zone.devices fun presentDevicesInZoneOfDSMeter =>
        if presentDevicesInZoneOfDSMeter = [] then
          catching Exception.isRuntimeError (call rt)
        else skip

/-- `addDeviceToZone`. The registration of the zone on the meter of the device, which may
throw, counts as a bus call. -/
def addDeviceToZone (rt : Runtime D) (id : D) (zoneID : ℤ) : Action D :=
  withDevice rt id fun device =>
    withZone zoneID fun _ =>
      if device.isPresent = false then raise (.runtimeError "Need device to be present")
      else
        (call rt).andThen <|
        (call rt).andThen <|
        (change (Apartment.setZoneID id zoneID)).andThen <|
        (zoneAddDevice rt zoneID id).andThen <|
        (if device.zoneID ≠ 0 then leaveOldZone rt id device else skip).andThen <|
        autoAssignZoneSensors rt zoneID

/-- The sensors of the zone of a device are checked, and the device is removed. -/
def takeOut (rt : Runtime D) (id : D) (device : Device D) : Action D :=
  withZone device.zoneID fun _ =>
    (checkSensorsOnDeviceRemoval rt device.zoneID id).andThen (apartmentRemoveDevice id)

/-- One turn of the loop over the paired devices. `removeDeviceFromDSMeter` counts as a bus
call, and what is thrown is logged. -/
def removePairedDevice (rt : Runtime D) (id : D) : Action D :=
  catching Exception.isRuntimeError <|
    withDevice rt id fun device => (call rt).andThen (takeOut rt id device)

def removePairedDevices (rt : Runtime D) : ℕ → D → Action D
  | 0, _ => skip
  | n + 1, current =>
    (removePairedDevice rt (rt.nextDsuid current)).andThen
      (removePairedDevices rt n (rt.nextDsuid current))

/-- The part of `removeDevice` for the paired devices of a main device. -/
def removePaired (rt : Runtime D) (id : D) (device : Device D) : Action D :=
  if device.isMainDevice ∧ 0 < device.pairedDevices then
    removePairedDevices rt device.pairedDevices id
  else skip

/-- The calls of `removeDeviceFromDSMeter` for the device itself and its partner, if it has one.
What is thrown is logged. -/
def removeFromDSMeters (rt : Runtime D) (hasPartner : Bool) : Action D :=
  catching Exception.isRuntimeError <|
    (call rt).andThen (if hasPartner then call rt else skip)

def partnerDevice (rt : Runtime D) (id : D) (device : Device D) (a : Apartment D) :
    Option (Device D) :=
  if device.is2WayMaster then a.device (rt.nextDsuid id) else none

def removeDevice (rt : Runtime D) (id : D) : Action D :=
  withDevice rt id fun device =>
    inspect (partnerDevice rt id device) fun partner =>
      (removePaired rt id device).andThen <|
      (removeFromDSMeters rt partner.isSome).andThen <|
      (takeOut rt id device).andThen <|
      match partner with
      | none => skip
      | some other => takeOut rt (rt.nextDsuid id) other

end ZoneMembership

end Dss
