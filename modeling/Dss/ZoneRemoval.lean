import Mathlib.Data.List.Basic
import Dss.PropertyNode

/-!
# Removal of a zone

The request `removeZone` refuses a zone that appears to have devices. Of the invisible ones it sorts
those that are present from those that are not, to move the former and to erase the latter. Both
loops behind that count the devices of one list, but take them from the list of all, and the one
that moves them moves them into the zone they come from.

The bus does not fail here. The presence flags of groups and zones, the sensor assignments and the
events that are raised are left out.
-/

namespace Dss

namespace ZoneRemoval

/-- `Device`, as far as it is looked at here. -/
structure Device (D : Type) : Type where
  /-- `getDSID` -/
  dsid : D
  /-- `getZoneID` -/
  zoneID : ℤ
  isPresent : Bool
  isVisible : Bool
  isMainDevice : Bool
  /-- `getMainDeviceDSUID` -/
  mainDeviceDSUID : D
  is2WayMaster : Bool := false
  /-- `getPairedDevices` -/
  pairedDevices : ℕ := 0
  /-- `getDSMeterDSID` -/
  dsMeterDSID : D
  /-- `getLastKnownDSMeterDSID` -/
  lastKnownDSMeterDSID : D
  /-- `getShortAddress` -/
  shortAddress : ℕ
  /-- `getLastKnownShortAddress` -/
  lastKnownShortAddress : ℕ
  deriving DecidableEq

structure Zone (D : Type) : Type where
  /-- `getID` -/
  id : ℤ
  devices : List D := []
  dsMeters : List D := []
  /-- `m_connectedDevices` of each of its groups -/
  connectedDevices : List ℕ := []
  deriving DecidableEq

structure DSMeter (D : Type) : Type where
  /-- `getDSID` -/
  dsid : D
  isPresent : Bool := true
  isConnected : Bool := true
  deriving DecidableEq

structure Apartment (D : Type) : Type where
  devices : List (Device D)
  zones : List (Zone D)
  dsMeters : List (DSMeter D)
  deriving DecidableEq

/-- What lies outside: libdsuid, and what the bus answers. -/
structure Runtime (D : Type) : Type where
  /-- `DSUID_NULL` -/
  nullDsuid : D
  /-- `dsuid_get_next_dsuid` -/
  nextDsuid : D → D
  dsuid2str : D → String
  /-- `deviceGetSpec`: the dSUID of the device with a short address on a meter -/
  deviceGetSpec : ℕ → D → D
  /-- `getInactiveDevicesInZone` of a meter -/
  getInactiveDevicesInZone : D → ℤ → List D

/-- How the request ends. -/
inductive Response : Type where
  /-- `JSONWriter::success` -/
  | success : Response
  /-- `JSONWriter::failure` -/
  | failure (message : String) : Response
  /-- an exception, which the web server answers with a failure -/
  | thrown (failure : Failure) : Response
  deriving DecidableEq

def shortAddressStaleDevice : ℕ := 0xFFFF

variable {D : Type} [DecidableEq D]

/-! ## The apartment -/

namespace Apartment

/-- `tryGetDeviceByDSID` -/
def tryGetDevice (a : Apartment D) (id : D) : Option (Device D) :=
  a.devices.find? fun device => device.dsid = id

/-- `getDeviceByDSID` -/
def getDevice (rt : Runtime D) (a : Apartment D) (id : D) : Except Failure (Device D) :=
  match a.tryGetDevice id with
  | some device => .ok device
  | none => .error (.exception (.itemNotFound (rt.dsuid2str id)))

def tryGetZone (a : Apartment D) (id : ℤ) : Option (Zone D) :=
  a.zones.find? fun zone => zone.id = id

/-- What `getZone` throws. -/
def zoneNotFound (id : ℤ) : Failure := .exception (.itemNotFound (toString id))

/-- `getDSMeterByDSID` -/
def getDSMeter (rt : Runtime D) (a : Apartment D) (id : D) : Except Failure (DSMeter D) :=
  match a.dsMeters.find? fun meter => meter.dsid = id with
  | some meter => .ok meter
  | none => .error (.exception (.itemNotFound (rt.dsuid2str id)))

def modifyZone (id : ℤ) (f : Zone D → Zone D) (a : Apartment D) : Apartment D :=
  { a with zones := a.zones.map fun zone => if zone.id = id then f zone else zone }

/-- `Zone::removeDevice` in the zone of an id, which `getZone` has to find. -/
def removeFromZone (zoneID : ℤ) (id : D) (a : Apartment D) : Except Failure (Apartment D) :=
  match a.tryGetZone zoneID with
  | none => .error (zoneNotFound zoneID)
  | some _ =>
    .ok (a.modifyZone zoneID fun zone => { zone with devices := zone.devices.erase id })

def removeDevice (id : D) (a : Apartment D) : Apartment D × Option Failure :=
  match a.tryGetDevice id with
  | none => (a, none)
  | some device =>
    match if device.zoneID = 0 then .ok a else a.removeFromZone device.zoneID id with
    | .error failure => (a, some failure)
    | .ok a =>
      match a.removeFromZone 0 id with
      | .error failure => (a, some failure)
      | .ok a => ({ a with devices := a.devices.eraseP fun device => device.dsid = id }, none)

def removeZone (id : ℤ) (a : Apartment D) : Apartment D :=
  { a with zones := a.zones.eraseP fun zone => zone.id = id }

end Apartment

/-! ## The structure manipulator -/

/-- `removeDeviceFromDSMeter`: what it throws. -/
def removeDeviceFromDSMeter (rt : Runtime D) (a : Apartment D) (device : Device D) :
    Except Failure Unit :=
  let dsmDsid :=
    if device.dsMeterDSID = rt.nullDsuid then device.lastKnownDSMeterDSID else device.dsMeterDSID
  let shortAddr :=
    if device.shortAddress = shortAddressStaleDevice then device.lastKnownShortAddress
    else device.shortAddress
  if dsmDsid = rt.nullDsuid then .ok ()
  else if shortAddr = shortAddressStaleDevice then
    .error (.exception (.runtimeError "Not enough data to delete device on dSM"))
  else
    match a.getDSMeter rt device.dsMeterDSID with
    | .error failure => .error failure
    | .ok meter =>
      if meter.isConnected = false then .ok ()
      else if rt.deviceGetSpec shortAddr dsmDsid ≠ device.dsid then
        .error (.exception (.runtimeError
          "Not deleting device - dSID mismatch between dSS model and dSM"))
      else .ok ()

/-- `checkSensorsOnDeviceRemoval` with the zone of a device, and `Apartment::removeDevice`. -/
def takeOut (device : Device D) (a : Apartment D) : Apartment D × Option Failure :=
  match a.tryGetZone device.zoneID with
  | none => (a, some (Apartment.zoneNotFound device.zoneID))
  | some _ => a.removeDevice device.dsid

def removePairedDevice (rt : Runtime D) (id : D) (a : Apartment D) : Apartment D :=
  match a.tryGetDevice id with
  | none => a
  | some device =>
    match removeDeviceFromDSMeter rt a device with
    | .error _ => a
    | .ok _ => (takeOut device a).1

def removePairedDevices (rt : Runtime D) : ℕ → D → Apartment D → Apartment D
  | 0, _, a => a
  | n + 1, current, a =>
    removePairedDevices rt n (rt.nextDsuid current)
      (removePairedDevice rt (rt.nextDsuid current) a)

def partnerDevice (rt : Runtime D) (device : Device D) (a : Apartment D) : Option (Device D) :=
  if device.is2WayMaster then a.tryGetDevice (rt.nextDsuid device.dsid) else none

/-- `removeDevice`. The calls of `removeDeviceFromDSMeter` for the device itself and its
partner are bus calls only, and what they throw is logged. -/
def removeDevice (rt : Runtime D) (device : Device D) (a : Apartment D) :
    Apartment D × Option Failure :=
  let partner := partnerDevice rt device a
  let a :=
    if device.isMainDevice ∧ 0 < device.pairedDevices then
      removePairedDevices rt device.pairedDevices device.dsid a
    else a
  match takeOut device a with
  | (a, some failure) => (a, some failure)
  | (a, none) =>
    match partner with
    | none => (a, none)
    | some partner => takeOut partner a

/-- `removeZoneOnDSMeter`, whose exceptions the caller logs. -/
def removeZoneOnDSMeter (rt : Runtime D) (zoneID : ℤ) (meter : D) (a : Apartment D) :
    Apartment D :=
  let removable := (rt.getInactiveDevicesInZone meter zoneID).all fun id =>
    match a.tryGetDevice id with
    | none => false
    | some device => decide (device.lastKnownDSMeterDSID ≠ meter)
  if removable then
    a.modifyZone zoneID fun zone => { zone with dsMeters := zone.dsMeters.erase meter }
  else a

def presentDevices (a : Apartment D) (zoneID : ℤ) (meter : D) : List (Device D) :=
  ((((a.tryGetZone zoneID).map Zone.devices).getD []).filterMap a.tryGetDevice).filter fun device =>
    device.dsMeterDSID = meter ∧ device.isPresent

/-- The part of `addDeviceToZone` behind the registration of the zone: the device changes its
zone, and leaves the old one. -/
def changeZone (rt : Runtime D) (device : Device D) (zoneID : ℤ) (a : Apartment D) :
    Apartment D × Option Failure :=
  let oldZoneID := device.zoneID
  let a := { a with
    devices := a.devices.map fun (other : Device D) =>
      if other.dsid = device.dsid then { other with zoneID := zoneID } else other }
  -- `Zone::addDevice` takes the device out of its zone, which is the new one by now
  let a := a.modifyZone zoneID fun zone =>
    { zone with devices := zone.devices.erase device.dsid ++ [device.dsid] }
  if oldZoneID = 0 then (a, none)
  else
    match a.removeFromZone oldZoneID device.dsid with
    | .error failure => (a, some failure)
    | .ok a =>
      if presentDevices a oldZoneID device.dsMeterDSID = [] then
        (removeZoneOnDSMeter rt oldZoneID device.dsMeterDSID a, none)
      else (a, none)

def addDeviceToZone (rt : Runtime D) (device : Device D) (zoneID : ℤ) (a : Apartment D) :
    Apartment D × Option Failure :=
  if device.isPresent = false then
    (a, some (.exception (.runtimeError "Need device to be present")))
  else
    match a.getDSMeter rt device.dsMeterDSID with
    | .error failure => (a, some failure)
    | .ok meter =>
      if (a.tryGetZone zoneID).any fun zone => meter.dsid ∈ zone.dsMeters then
        changeZone rt device zoneID a
      else if meter.isPresent = false then
        (a, some (.exception (.runtimeError "Need dsMeter to be present")))
      else
        changeZone rt device zoneID (a.modifyZone zoneID fun zone =>
          { zone with dsMeters := zone.dsMeters ++ [meter.dsid] })

/-- The first loop of `removeZoneOnDSMeters`: the zone is not registered any more. -/
def unregister (rt : Runtime D) (zoneID : ℤ) :
    List D → Apartment D → Apartment D × Option Failure
  | [], a => (a, none)
  | meter :: meters, a =>
    match a.getDSMeter rt meter with
    | .error failure => (a, some failure)
    | .ok _ =>
      unregister rt zoneID meters (a.modifyZone zoneID fun zone =>
        { zone with dsMeters := zone.dsMeters.erase meter })

/-! ## The request -/

def notEmpty : Response := .failure "Cannot delete a non-empty zone"

/-- `catch(ItemNotFoundException&)` -/
def caught : Failure → Response
  | .exception (.itemNotFound _) => .failure "Could not find zone"
  | failure => .thrown failure

/-- The loop that sorts the devices of the zone, with `toMove` and `toErase` so far. -/
def sortDevices (rt : Runtime D) (a : Apartment D) :
    List D → List D → List D → Except Response (List D × List D)
  | [], toMove, toErase => .ok (toMove, toErase)
  | id :: ids, toMove, toErase =>
    match a.getDevice rt id with
    | .error failure => .error (caught failure)
    | .ok device =>
      if device.isVisible then .error notEmpty
      else if device.isPresent then
        if device.isMainDevice then .error notEmpty
        else sortDevices rt a ids (toMove ++ [id]) toErase
      else sortDevices rt a ids toMove (toErase ++ [id])

def moveLoop (rt : Runtime D) (zoneID : ℤ) :
    List D → Apartment D → Apartment D × Option Response
  | [], a => (a, none)
  | id :: ids, a =>
    match a.getDevice rt id with
    | .error failure => (a, some (caught failure))
    | .ok device =>
      if device.dsid = device.mainDeviceDSUID then (a, some notEmpty)
      else
        match a.getDevice rt device.mainDeviceDSUID with
        | .error failure => (a, some (caught failure))
        | .ok main =>
          -- the zone of the main device is looked up, and not used
          match a.tryGetZone main.zoneID with
          | none => (a, some (caught (Apartment.zoneNotFound main.zoneID)))
          | some _ =>
            match addDeviceToZone rt device zoneID a with
            | (a, some failure) => (a, some (caught failure))
            | (a, none) => moveLoop rt zoneID ids a

def eraseLoop (rt : Runtime D) : List D → Apartment D → Apartment D × Option Response
  | [], a => (a, none)
  | id :: ids, a =>
    match a.getDevice rt id with
    | .error failure => (a, some (caught failure))
    | .ok device =>
      match removeDevice rt device a with
      | (a, some failure) => (a, some (caught failure))
      | (a, none) => eraseLoop rt ids a

def devicesOf (a : Apartment D) (zoneID : ℤ) : List D :=
  ((a.tryGetZone zoneID).map Zone.devices).getD []

def finish (rt : Runtime D) (zoneID : ℤ) (meters : List D) (a : Apartment D) :
    Apartment D × Response :=
  match unregister rt zoneID meters a with
  | (a, some failure) => (a, caught failure)
  | (a, none) => (a.removeZone zoneID, .success)

def clear (rt : Runtime D) (zoneID : ℤ) (toMove toErase : List D) (a : Apartment D) :
    Apartment D × Response :=
  let set := devicesOf a zoneID
  match moveLoop rt zoneID (set.take toMove.length) a with
  | (a, some response) => (a, response)
  | (a, none) =>
    match eraseLoop rt (set.take toErase.length) a with
    | (a, some response) => (a, response)
    | (a, none) =>
      if devicesOf a zoneID ≠ [] then (a, notEmpty)
      else finish rt zoneID (((a.tryGetZone zoneID).map Zone.dsMeters).getD []) a

/-- `StructureRequestHandler::removeZone` -/
def removeZone (rt : Runtime D) (zoneIDStr : String) (a : Apartment D) :
    Apartment D × Response :=
  let zoneID := (parseInt? zoneIDStr).getD (-1)
  if zoneID = -1 then (a, .failure "Missing parameter zoneID")
  else
    match a.tryGetZone zoneID with
    | none => (a, caught (Apartment.zoneNotFound zoneID))
    | some zone =>
      if zone.connectedDevices.any fun n => 0 < n then (a, notEmpty)
      else
        match sortDevices rt a zone.devices [] [] with
        | .error response => (a, response)
        | .ok (toMove, toErase) => clear rt zoneID toMove toErase a

end ZoneRemoval

end Dss
