import Dss.JokerGroupSteps
import Dss.SkippingLoop

/-!
# A device enters a cluster

The request `groupAddDevice` makes a device a member of a group. Devices with inputs only leave
the clusters they are in first; the partner of a 2-way master and the devices that are coupled
with it by their OEM data follow. A loop that leaves the clusters goes through the indices of a
list that gets shorter, so a cluster directly behind one that was left is passed over.

The bus does not fail here; the events and the pause at the end are left out.
-/

namespace Dss

namespace ClusterMembership

open JokerGroup Interruptible Program

/-! ## Devices -/

/-- What does not change of a device. The only change to the button mode that is made here is
made to a KM, which is no 2-way master. -/
structure DeviceInfo (D : Type) : Type where
  dsid : D
  dsMeterDSID : D
  isPresent : Bool
  is2WayMaster : Bool := false
  /-- `m_OemState == DEVICE_OEM_VALID` -/
  isOemValid : Bool := false
  oemIsIndependent : Bool := false
  /-- `m_OemEanNumber` -/
  oemEan : ℕ := 0
  oemSerialNumber : ℕ := 0
  deriving DecidableEq

variable {D : Type} [DecidableEq D]

def DeviceInfo.isOemCoupledWith (info other : DeviceInfo D) : Bool :=
  info.isOemValid && !info.oemIsIndependent && decide (0 < info.oemSerialNumber) &&
    info.isPresent && other.isPresent && !other.oemIsIndependent && other.isOemValid &&
    decide (other.dsid ≠ info.dsid) && decide (other.dsMeterDSID ≠ info.dsMeterDSID) &&
    decide (other.oemEan = info.oemEan) && decide (other.oemSerialNumber = info.oemSerialNumber)

/-- A device of the apartment. -/
structure Member (D : Type) : Type where
  info : DeviceInfo D
  device : Device

def Member.dsid (member : Member D) : D := member.info.dsid

def hasOutput (device : Device) : Bool :=
  device.functionID / 16 % 2 = 1 || device.functionID = 0x6001

/-- An AKM, a TKM without output, or an UMR with an input. -/
def isInputDevice (device : Device) : Bool :=
  device.getDeviceType = .akm || (device.getDeviceType = .tkm && !hasOutput device) ||
    (device.getDeviceType = .umr && device.hasInput)

structure Home (D : Type) : Type where
  /-- `m_Zones` -/
  apartment : JokerGroup.Apartment
  /-- `m_Devices` -/
  members : List (Member D)
  nodup : (members.map Member.dsid).Nodup

/-- `tryGetDeviceByDSID` -/
def Home.tryGetDevice (home : Home D) (dsid : D) : Option (Member D) :=
  home.members.find? fun member => member.dsid = dsid

def Home.setDevice (home : Home D) (dsid : D) (device : Device) : Home D where
  apartment := home.apartment
  members := KeyedList.modify Member.dsid dsid (fun member => { member with device := device })
    home.members
  nodup := by
    rw [KeyedList.map_modify]
    · exact home.nodup
    · exact fun _ => rfl

def Home.tryGetGroup (home : Home D) (id : ℕ) : Option ZoneGroup :=
  (home.apartment.tryGetZone 0).bind fun zone => zone.getGroup id

/-! ## Leaving the clusters -/

/-- `Apartment::getGroup` -/
def getGroup (a : JokerGroup.Apartment) (id : ℕ) : Request ZoneGroup := do
  let zone ← getZone a 0
  match zone.getGroup id with
  | some group => pure group
  | none => fail (.thrown (.itemNotFound (toString id)))

/-- The loops that take a device out of the clusters, from an index on. -/
def leaveClustersFrom (a : JokerGroup.Apartment) : ℕ → ℕ → Request Unit
  | 0, _ => pure ()
  | n + 1, g => do
    let device ← get
    match device.groups.ids[g]? with
    | none => pure ()
    | some id => do
      let oldGroup ← getGroup a id
      (if groupIDAppUserMin ≤ oldGroup.base.groupID ∧
          oldGroup.base.groupID ≤ groupIDAppUserMax then
        deviceRemoveFromGroup true (some oldGroup)
        else pure ())
      leaveClustersFrom a n (g + 1)

/-- These loops. They take at most as many turns as there are memberships. -/
def leaveClusters (a : JokerGroup.Apartment) : Request Unit := do
  let device ← get
  leaveClustersFrom a device.groups.ids.length 0

def enter (a : JokerGroup.Apartment) (group : ZoneGroup) : Request Unit := do
  let device ← get
  (if isInputDevice device ∧ 1 < device.groups.ids.length then leaveClusters a else pure ())
  deviceAddToGroup (some group) group.base.groupID

def follow (a : JokerGroup.Apartment) (group : ZoneGroup) : Request Unit := do
  leaveClusters a
  deviceAddToGroup (some group) group.base.groupID

/-! ## The request -/

/-- How the request ends. -/
inductive Answer (D : Type) : Type where
  | ok (modifiedDevices : List D) : Answer D
  /-- `JSONWriter::failure` -/
  | failure (message : String) : Answer D
  | thrown (e : Exception) : Answer D
  | nullPointer : Answer D
  deriving DecidableEq

/-- `DSSException::what` -/
def what : Exception → String
  | .itemNotFound name => "Could not find item " ++ name
  | .runtimeError text => text
  | _ => ""

/-- The answer to a program that fails by itself, if its exceptions are caught. -/
def Answer.ofError : Error → Answer D
  | .thrown e => .failure (what e)
  | .noGroup => .nullPointer

def run (x : Request Unit) (dsid : D) (home : Home D) : Home D × Except Error Unit :=
  match home.tryGetDevice dsid with
  | none => (home, .ok ())
  | some member =>
    (home.setDevice dsid (x member.device).state, (x member.device).result)

/-- What lies outside: libdsuid. -/
structure Runtime (D : Type) : Type where
  /-- `dsuid_get_next_dsuid` -/
  nextDsuid : D → D
  dsuid2str : D → String

def followPartner (rt : Runtime D) (info : DeviceInfo D) (group : ZoneGroup) (home : Home D) :
    Home D × Except Error Unit :=
  if info.is2WayMaster then
    match home.tryGetDevice (rt.nextDsuid info.dsid) with
    | none => (home, .error (.thrown (.itemNotFound (rt.dsuid2str (rt.nextDsuid info.dsid)))))
    | some _ => run (follow home.apartment group) (rt.nextDsuid info.dsid) home
  else (home, .ok ())

def followCoupled (info : DeviceInfo D) (group : ZoneGroup) :
    List (DeviceInfo D) → List D → Home D → Home D × Except Error (List D)
  | [], modifiedDevices, home => (home, .ok modifiedDevices)
  | other :: others, modifiedDevices, home =>
    if info.isOemCoupledWith other then
      match run (follow home.apartment group) other.dsid home with
      | (home, .error e) => (home, .error e)
      | (home, .ok _) =>
        followCoupled info group others (modifiedDevices ++ [other.dsid]) home
    else followCoupled info group others modifiedDevices home

def addToGroup (rt : Runtime D) (info : DeviceInfo D) (group : ZoneGroup) (home : Home D) :
    Home D × Answer D :=
  match run (enter home.apartment group) info.dsid home with
  | (home, .error e) => (home, .ofError e)
  | (home, .ok _) =>
    match followPartner rt info group home with
    | (home, .error e) => (home, .ofError e)
    | (home, .ok _) =>
      if info.isOemValid ∧ 0 < info.oemSerialNumber ∧ info.oemIsIndependent = false then
        match followCoupled info group (home.members.map Member.info) [info.dsid] home with
        | (home, .error e) => (home, .ofError e)
        | (home, .ok modifiedDevices) => (home, .ok modifiedDevices)
      else (home, .ok [info.dsid])

def getCluster (home : Home D) (id : ℕ) : Option ZoneGroup :=
  match home.tryGetGroup id with
  | some (.cluster c) => some (.cluster c)
  | _ => none

def findGroup (home : Home D) (device : Device) (id : ℕ) : Except String ZoneGroup :=
  if isAppUserGroup id then
    match getCluster home id with
    | some cluster => .ok cluster
    | none => .error ("Invalid value for parameter clusterID : '" ++ toString id ++ "'")
  else if isGlobalAppGroup id then
    match home.tryGetGroup id with
    | some group => .ok group
    | none => .error ("Invalid value for parameter apartment groupID : '" ++ toString id ++ "'")
  else
    match home.apartment.tryGetZone device.zoneID with
    | none => .error "Could not get relevant zone."
    | some zone =>
      match zone.getGroup id with
      | some group => .ok group
      | none => .error ("Invalid value for parameter groupID : '" ++ toString id ++ "'")

/-- `groupAddDevice`, for a dSUID and an id that could be read. -/
def groupAddDevice (rt : Runtime D) (dsid : D) (id : ℕ) (home : Home D) : Home D × Answer D :=
  match home.tryGetDevice dsid with
  | none => (home, .thrown (.itemNotFound (rt.dsuid2str dsid)))
  | some member =>
    if member.info.isPresent = false then (home, .failure "Cannot modify inactive device")
    else
      match findGroup home member.device id with
      | .error message => (home, .failure message)
      | .ok group => addToGroup rt member.info group home

end ClusterMembership

end Dss
