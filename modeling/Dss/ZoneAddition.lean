import Dss.ZoneRemoval

/-!
# A device enters a zone

The request `zoneAddDevice` moves a device into a zone, and then others that belong to it: the
partner of a 2-way master; or else, if there are valid OEM data, the devices that are coupled by
them; or else the invisible ones of those that are paired with a main device. The bus does not fail.
-/

namespace Dss

namespace ZoneRemoval

variable {D : Type} [DecidableEq D]

/-! ## OEM data -/

structure OemInfo : Type where
  /-- `m_OemState == DEVICE_OEM_VALID` -/
  isValid : Bool := false
  /-- `m_OemIsIndependent` -/
  isIndependent : Bool := false
  /-- `m_OemEanNumber` -/
  ean : ℕ := 0
  /-- `m_OemSerialNumber` -/
  serialNumber : ℕ := 0
  deriving DecidableEq

def isOemCoupledWith (oem : D → OemInfo) (device other : Device D) : Bool :=
  (oem device.dsid).isValid && !(oem device.dsid).isIndependent &&
    decide (0 < (oem device.dsid).serialNumber) && device.isPresent && other.isPresent &&
    !(oem other.dsid).isIndependent && (oem other.dsid).isValid &&
    decide (other.dsid ≠ device.dsid) && decide (other.dsMeterDSID ≠ device.dsMeterDSID) &&
    decide ((oem other.dsid).ean = (oem device.dsid).ean) &&
    decide ((oem other.dsid).serialNumber = (oem device.dsid).serialNumber)

/-! ## The request -/

/-- How the request ends. -/
inductive Answer (D : Type) : Type where
  | ok (movedDevices : List D) : Answer D
  /-- `JSONWriter::failure` -/
  | failure (message : String) : Answer D
  | thrown (failure : Failure) : Answer D
  deriving DecidableEq

/-- `catch (ItemNotFoundException&)`, and `catch (std::runtime_error&)` around it. -/
def Answer.ofFailure : Failure → Answer D
  | .exception (.itemNotFound _) => .failure "Could not find zone"
  | .exception (.runtimeError text) => .failure text
  | other => .thrown other

/-- The branch for a 2-way master: whether the partner could be moved. -/
def addPartner (rt : Runtime D) (device : Device D) (zoneID : ℤ) (a : Apartment D) :
    Apartment D × Option String :=
  let next := rt.nextDsuid device.dsid
  let message := "Could not find partner device with dsuid '" ++ rt.dsuid2str next ++ "'"
  match a.tryGetDevice next with
  | none => (a, some message)
  | some partner =>
    match addDeviceToZone rt partner zoneID a with
    | (a, some _) => (a, some message)
    | (a, none) => (a, none)

def addCoupled (rt : Runtime D) (oem : D → OemInfo) (device : Device D) (zoneID : ℤ) :
    List D → List D → Apartment D → Apartment D × Except Failure (List D)
  | [], movedDevices, a => (a, .ok movedDevices)
  | id :: ids, movedDevices, a =>
    match a.tryGetDevice id with
    | none => addCoupled rt oem device zoneID ids movedDevices a
    | some other =>
      if isOemCoupledWith oem device other then
        match addDeviceToZone rt other zoneID a with
        | (a, some failure) => (a, .error failure)
        | (a, none) => addCoupled rt oem device zoneID ids (movedDevices ++ [id]) a
      else addCoupled rt oem device zoneID ids movedDevices a

/-- The loop over the paired devices, from behind this dSUID. What is thrown is logged. -/
def addPaired (rt : Runtime D) (zoneID : ℤ) : ℕ → D → Apartment D → Apartment D
  | 0, _, a => a
  | n + 1, current, a =>
    let next := rt.nextDsuid current
    match a.tryGetDevice next with
    | none => addPaired rt zoneID n next a
    | some partner =>
      if partner.isVisible then addPaired rt zoneID n next a
      else addPaired rt zoneID n next (addDeviceToZone rt partner zoneID a).1

def addOthers (rt : Runtime D) (oem : D → OemInfo) (device : Device D) (zoneID : ℤ)
    (a : Apartment D) : Apartment D × Answer D :=
  if device.is2WayMaster then
    match addPartner rt device zoneID a with
    | (a, some message) => (a, .failure message)
    | (a, none) => (a, .ok [device.dsid])
  else if (oem device.dsid).isValid then
    if 0 < (oem device.dsid).serialNumber ∧ (oem device.dsid).isIndependent = false then
      match addCoupled rt oem device zoneID (a.devices.map Device.dsid) [device.dsid] a with
      | (a, .error failure) => (a, .ofFailure failure)
      | (a, .ok movedDevices) => (a, .ok movedDevices)
    else (a, .ok [device.dsid])
  else if device.isMainDevice ∧ 0 < device.pairedDevices then
    (addPaired rt zoneID device.pairedDevices device.dsid a, .ok [device.dsid])
  else (a, .ok [device.dsid])

def strToInt (text : String) : Except Failure ℤ :=
  match parseInt? text with
  | some value => .ok value
  | none =>
    .error (.exception (.invalidArgument ("strToInt: Could not parse value: '" ++ text ++ "'")))

/-- `zoneAddDevice`, for the dSUID of a device. -/
def zoneAddDevice (rt : Runtime D) (oem : D → OemInfo) (dsuid : D) (zoneIDStr : String)
    (a : Apartment D) : Apartment D × Answer D :=
  match a.getDevice rt dsuid with
  | .error failure => (a, .thrown failure)
  | .ok device =>
    if device.isPresent = false then (a, .failure "cannot add nonexisting device to a zone")
    else if zoneIDStr.isEmpty then (a, .failure "Need parameter 'zone'")
    else
      match strToInt zoneIDStr with
      | .error failure => (a, .thrown failure)
      | .ok zoneID =>
        if zoneID < 1 then (a, .failure "Could not move device: invalid zone id given!")
        else if device.zoneID = zoneID then
          (a, .failure ("Device is already in zone " ++ zoneIDStr))
        else
          match a.tryGetZone zoneID with
          | none => (a, .ofFailure (Apartment.zoneNotFound zoneID))
          | some _ =>
            match addDeviceToZone rt device zoneID a with
            | (a, some failure) => (a, .ofFailure failure)
            | (a, none) => addOthers rt oem device zoneID a

end ZoneRemoval

end Dss
