import Mathlib.Algebra.Order.Ring.Int
import Mathlib.Data.List.Dedup
import Mathlib.Data.List.Sort
import Dss.DeferredScenes
import Dss.Exception
import Dss.ExactCover
import Dss.Group

/-!
# Splitting a set of devices

`SetSplitter` turns a set of devices into groups and devices to address. A zone all of whose devices
are in the set is addressed by one group, else each device not addressed yet picks the first of its
groups that has only devices of the set. If this gives more than one item, the whole set is tried
again in zone 0, and the shorter answer is taken.

A device is known by its dSUID. `none` among the items is a null pointer.
-/

namespace Dss

namespace SetSplitter

/-! ## The apartment -/

structure Apartment : Type where
  /-- `Apartment::m_Devices` -/
  devices : List Dsuid
  /-- `Device::m_ZoneID` -/
  zoneID : Dsuid → ℕ
  /-- `Device::m_groupIds` -/
  groupIds : Dsuid → List ℕ
  /-- `Device::m_IsPresent` -/
  isPresent : Dsuid → Bool
  /-- `Zone::m_Devices` of each zone -/
  zoneDevices : ℕ → List Dsuid
  /-- the ids of `Zone::m_Groups` of each zone -/
  zoneGroups : ℕ → List ℕ
  /-- the address of the `Zone` object -/
  address : ℕ → ℕ
  /-- `allocateDevice` makes no second device of a dSUID -/
  devices_nodup : devices.Nodup
  /-- `Zone::addDevice` adds no device twice -/
  zoneDevices_nodup : ∀ z, (zoneDevices z).Nodup
  /-- `allocateDevice` adds every device to zone 0 -/
  mem_zoneDevices_zero : ∀ d, d ∈ zoneDevices 0 ↔ d ∈ devices
  /-- `Zone::addDevice` keeps a device in one other zone, the one it names -/
  mem_zoneDevices : ∀ z, z ≠ 0 → ∀ d, d ∈ zoneDevices z ↔ d ∈ devices ∧ zoneID d = z
  /-- `Device::addToGroup` refuses other ids -/
  groupIds_valid : ∀ d, ∀ g ∈ groupIds d, isValidGroup g = true
  /-- `addDefaultGroupsToZone` -/
  broadcast : ∀ z, groupIDBroadcast ∈ zoneGroups z

/-- `Set`, of devices of the apartment; `Set::addDevice` adds none twice. -/
structure DeviceSet (a : Apartment) : Type where
  /-- `m_ContainedDevices` -/
  devices : List Dsuid
  nodup : devices.Nodup
  subset : devices ⊆ a.devices

/-- `AddressableModelItem`: the classes the splitter returns. -/
inductive Item : Type where
  | group (zone id : ℕ)
  | device (d : Dsuid)
  deriving DecidableEq

namespace Apartment

variable (a : Apartment)

/-- `Device::isInGroup` -/
def isInGroup (d : Dsuid) (groupID : ℕ) : Bool :=
  if groupID = 0 then true
  else if isValidGroup groupID = false then false
  else (a.groupIds d).contains groupID

/-- `Set::getByGroup` -/
def getByGroup (devices : List Dsuid) (groupID : ℕ) : List Dsuid :=
  if groupID ≠ groupIDBroadcast then devices.filter fun d => a.isInGroup d groupID else devices

/-- `Zone::getGroup` -/
def zoneGetGroup (z groupID : ℕ) : Option Item :=
  if groupID ∈ a.zoneGroups z then some (.group z groupID) else none

/-- `Apartment::getGroup`, behind `Device::getGroupByIndex`. -/
def getGroup (groupID : ℕ) : Except Exception Item :=
  match a.zoneGetGroup 0 groupID with
  | some g => .ok g
  | none => .error (.itemNotFound (toString groupID))

/-! ## One zone -/

/-- `std::set_intersection` of sorted ranges. -/
def setIntersection : List ℕ → List ℕ → List ℕ
  | [], _ => []
  | _ :: _, [] => []
  | x :: xs, y :: ys =>
    if x < y then setIntersection xs (y :: ys)
    else if y < x then setIntersection (x :: xs) ys
    else x :: setIntersection xs ys
termination_by xs ys => xs.length + ys.length

/-- The loop of `findGroupContainingAllDevices` over the devices but the first. -/
def commonGroups (intersection : List ℕ) : List Dsuid → List ℕ
  | [] => intersection
  | d :: rest =>
    let intersection := setIntersection intersection ((a.groupIds d).insertionSort (· ≤ ·))
    if intersection.length = 0 then intersection else commonGroups intersection rest

/-- The group `findGroupContainingAllDevices` looks for in the zone. -/
def commonGroup (devices : List Dsuid) : ℕ :=
  let intersection := match devices with
    | [] => []
    | d :: rest => a.commonGroups ((a.groupIds d).insertionSort (· ≤ ·)) rest
  match intersection with
  | front :: _ => front
  | [] => groupIDBroadcast

def findGroupContainingAllDevices (devices : List Dsuid) (z : ℕ) : Option Item :=
  a.zoneGetGroup z (a.commonGroup devices)

/-- The loop of `bestFit` over the groups of one device: the fitting group with its
devices, if there is one, and the groups found unsuitable. -/
def findFit (z : ℕ) (set : List Dsuid) (unsuitableGroups : List Item) :
    List ℕ → Except Exception (Option (Item × List Dsuid) × List Item)
  | [] => .ok (none, unsuitableGroups)
  | groupID :: rest =>
    match a.getGroup groupID with
    | .error e => .error e
    | .ok g =>
      let g := (a.zoneGetGroup z groupID).getD g
      if g ∈ unsuitableGroups then findFit z set unsuitableGroups rest
      else
        let devicesInGroup := a.getByGroup (a.zoneDevices z) groupID
        if devicesInGroup.all fun d => set.contains d then
          .ok (some (g, devicesInGroup), unsuitableGroups)
        else findFit z set (unsuitableGroups ++ [g]) rest

/-- The loop of `bestFit` over the working copy of the set. -/
def bestFitLoop (z : ℕ) (set : List Dsuid) (unsuitableGroups : List Item) :
    List Dsuid → Except Exception (List (Option Item))
  | [] => .ok []
  | ref :: workingCopy =>
    match a.findFit z set unsuitableGroups (a.groupIds ref) with
    | .error e => .error e
    | .ok (some (g, devicesInGroup), unsuitableGroups) =>
      (bestFitLoop z set unsuitableGroups (workingCopy.diff devicesInGroup)).map (some g :: ·)
    | .ok (none, unsuitableGroups) =>
      (bestFitLoop z set unsuitableGroups workingCopy).map (some (.device ref) :: ·)
termination_by workingCopy => workingCopy.length
decreasing_by
  · exact Nat.lt_succ_of_le (List.diff_sublist _ _).length_le
  · exact Nat.lt_succ_self _

/-- `bestFit` of one zone -/
def bestFitZone (z : ℕ) (set : List Dsuid) : Except Exception (List (Option Item)) :=
  if (a.zoneDevices z).length = set.length then
    .ok [a.findGroupContainingAllDevices set z]
  else a.bestFitLoop z set [] set

/-! ## All zones -/

/-- `splitByZone`. The map orders the zones by their addresses. -/
def splitByZone (set : List Dsuid) : List (ℕ × List Dsuid) :=
  ((set.map a.zoneID).dedup.insertionSort fun y z => a.address y ≤ a.address z).map fun z =>
    (z, set.filter fun d => a.zoneID d = z)

/-- The loop of `bestFit` over the zones. -/
def bestFitParts : List (ℕ × List Dsuid) → Except Exception (List (Option Item))
  | [] => .ok []
  | (z, set) :: parts =>
    match a.bestFitZone z set with
    | .error e => .error e
    | .ok resultPart => (bestFitParts parts).map (resultPart ++ ·)

def bestFit (set : List Dsuid) : Except Exception (List (Option Item)) :=
  match a.bestFitParts (a.splitByZone set) with
  | .error e => .error e
  | .ok result =>
    if 1 < result.length then
      match a.bestFitZone 0 set with
      | .error e => .error e
      | .ok partZoneZero =>
        if partZoneZero.length < result.length then .ok partZoneZero else .ok result
    else .ok result

def splitUp (s : DeviceSet a) : Except Exception (List (Option Item)) :=
  if 0 < s.devices.length then
    if s.devices.length = a.devices.length then
      .ok [a.zoneGetGroup 0 groupIDBroadcast]
    else a.bestFit s.devices
  else .ok []

/-! ## What is addressed -/

/-- The devices an item addresses: a group of zone 0 its present members in the whole
apartment, a group of another zone those in the zone. -/
def addressed : Option Item → List Dsuid
  | some (.group z g) =>
    a.devices.filter fun d =>
      a.isPresent d && (decide (z = 0) || decide (a.zoneID d = z)) && a.isInGroup d g
  | some (.device d) => [d]
  | none => []

/-- `items` address every present device of `set` exactly once, and no others. -/
structure Addresses (items : List (Option Item)) (set : List Dsuid) : Prop where
  valid : none ∉ items
  once : ∀ d ∈ set, a.isPresent d = true → (items.flatMap a.addressed).count d = 1
  inside : ∀ d ∈ items.flatMap a.addressed, d ∈ set

/-- The set is split without exception into items that address it. -/
def Exact (s : DeviceSet a) : Prop :=
  ∃ items, a.splitUp s = .ok items ∧ a.Addresses items s.devices

end Apartment

end SetSplitter

end Dss
