import Dss.JokerGroup

/-!
# Automatic clusters

The shades of an apartment are kept in clusters of one direction and one class of wind protection
each. A device leaves the clusters that do not fit it, and enters one that does, which is made
out of an unused one if need be; clusters that fit the same devices are joined. Whenever a device
has left a cluster, all automatic clusters without devices are reset, unless they are locked.

The requests to the meters are recorded; an exception of the bus is caught and logged.
-/

namespace Dss

namespace AutoCluster

open JokerGroup

/-! ## Configurations -/

def cdNone : ℕ := 0
def wpcNone : ℕ := 0

/-- `toUIString(CardinalDirection_t)` -/
def directionToUIString (direction : ℕ) : String :=
  match direction with
  | 1 => "North"
  | 2 => "North-East"
  | 3 => "East"
  | 4 => "South-East"
  | 5 => "South"
  | 6 => "South-West"
  | 7 => "West"
  | 8 => "North-West"
  | _ => "none"

/-- `toUIString(WindProtectionClass_t)` -/
def classToUIString (wpClass : ℕ) : String :=
  match wpClass with
  | 1 => "Class 1 - 7.8m/s"
  | 2 => "Class 2 - 10.6m/s"
  | 3 => "Class 3 - 13.6m/s"
  | 4 => "Class 1 - 9.0m/s"
  | 5 => "Class 2 - 10.7m/s"
  | 6 => "Class 3 - 12.8m/s"
  | 7 => "Class 4 - 16.7/s"
  | 8 => "Class 5 - 21.0m/s"
  | 9 => "Class 6 - 25.6m/s"
  | _ => "none"

/-- `Cluster::reset` -/
def reset (c : Cluster) : Cluster :=
  let c := { c with
    location := cdNone
    protectionClass := wpcNone
    floor := 0
    lockedScenes := []
    configurationLocked := false
    automatic := false }
  { c with
    toGroup := { c.toGroup.setApplicationType (some .none) with
      name := ""
      applicationConfiguration := 0 } }

/-- What `findOrCreateCluster` makes of an unused cluster. -/
def configure (c : Cluster) (direction protection : ℕ) : Cluster :=
  let c := { c with location := direction, protectionClass := protection }
  { c with
    toGroup := { c.toGroup.setApplicationType (some .blinds) with
      name :=
        if direction = cdNone then classToUIString protection
        else directionToUIString direction ++ " - " ++ classToUIString protection }
    automatic := true }

/-! ## Apartments -/

/-- What stays the same: the devices and the clusters of zone 0. The clusters are there from the
start. -/
structure House (D : Type) : Type where
  devices : List D
  devices_nodup : devices.Nodup
  clusters : List ℕ
  nodup : clusters.Nodup
  nonempty : clusters ≠ []
  isCluster : ∀ id ∈ clusters, isAppUserGroup id = true

structure ShadeDevice : Type where
  cardinalDirection : ℕ
  windProtectionClass : ℕ
  /-- `m_groupIds` -/
  groups : Memberships

def ShadeDevice.isInGroup (device : ShadeDevice) (groupID : ℕ) : Bool :=
  if groupID = 0 then true
  else if !isValidGroup groupID then false
  else decide (groupID ∈ device.groups)

/-- What is asked of the meters. -/
inductive Request (D : Type) : Type where
  /-- `busAddToGroup` -/
  | addToGroup (device : D) (groupID : ℕ)
  /-- `busRemoveFromGroup` -/
  | removeFromGroup (device : D) (groupID : ℕ)
  /-- `busUpdateCluster` -/
  | updateCluster (cluster : Cluster)

/-- The devices and clusters, by their ids, with what was asked of the meters. -/
structure Apartment (D : Type) : Type where
  device : D → ShadeDevice
  cluster : ℕ → Cluster
  groupID : ∀ id, (cluster id).groupID = id
  requests : List (Request D) := []

section operations

variable {D : Type}

theorem groupID_update {a : Apartment D} {id : ℕ} {c : Cluster} (h : c.groupID = id) (other : ℕ) :
    (Function.update a.cluster id c other).groupID = other := by
  by_cases hother : other = id
  · rw [hother, Function.update_self]
    exact h
  · rw [Function.update_of_ne hother]
    exact a.groupID other

def Apartment.setCluster (a : Apartment D) (id : ℕ) (c : Cluster) (h : c.groupID = id) :
    Apartment D :=
  { a with
    cluster := Function.update a.cluster id c
    groupID := groupID_update h
    requests := a.requests ++ [.updateCluster c] }

theorem groupID_setApplicationType (g : Group) (t : Option ApplicationType) :
    (g.setApplicationType t).groupID = g.groupID := by
  rw [Group.setApplicationType]
  split_ifs <;> rfl

theorem groupID_reset (a : Apartment D) (id : ℕ) : (reset (a.cluster id)).groupID = id :=
  (groupID_setApplicationType _ _).trans (a.groupID id)

theorem groupID_configure (a : Apartment D) (id direction protection : ℕ) :
    (configure (a.cluster id) direction protection).groupID = id :=
  (groupID_setApplicationType _ _).trans (a.groupID id)

def Apartment.setGroups [DecidableEq D] (a : Apartment D) (d : D) (groups : Memberships)
    (request : Request D) : Apartment D :=
  { a with
    device := Function.update a.device d { a.device d with groups := groups }
    requests := a.requests ++ [request] }

variable [DecidableEq D] (h : House D) (a : Apartment D)

/-- `Cluster::getDevices` -/
def getDevices (id : ℕ) : List D := h.devices.filter fun d => (a.device d).isInGroup id

/-- `isAutomatic` and not `isConfigurationLocked` -/
def isOpen (id : ℕ) : Bool := (a.cluster id).automatic && !(a.cluster id).configurationLocked

/-- `releaseCluster`, and `busUpdateCluster` if it was reset. -/
def releaseCluster (id : ℕ) : Apartment D :=
  if (getDevices h a id).isEmpty then a.setCluster id (reset (a.cluster id)) (groupID_reset a id)
  else a

def removeEmptyAutomaticCluster : Apartment D :=
  h.clusters.foldl (fun a id => if isOpen a id then releaseCluster h a id else a) a

def removeDeviceFromCluster (d : D) (id : ℕ) : Apartment D :=
  removeEmptyAutomaticCluster h
    (a.setGroups d ((a.device d).groups.remove id) (.removeFromGroup d id))

def assignDeviceToCluster (d : D) (id : ℕ) : Apartment D :=
  a.setGroups d ((a.device d).groups.add id) (.addToGroup d id)

/-- A cluster has the direction and the class of a device. -/
def fits (d : D) (id : ℕ) : Bool :=
  (a.cluster id).location == (a.device d).cardinalDirection &&
    (a.cluster id).protectionClass == (a.device d).windProtectionClass

/-- A device has neither a direction nor a class. -/
def isUnconfigured (d : D) : Bool :=
  (a.device d).cardinalDirection == cdNone && (a.device d).windProtectionClass == wpcNone

/-- One turn of `removeInvalidAssignments`. -/
def removeInvalidAssignment (d : D) (id : ℕ) : Apartment D :=
  if isOpen a id then
    let a := if !fits a d id then removeDeviceFromCluster h a d id else a
    if isUnconfigured a d && fits a d id then removeDeviceFromCluster h a d id else a
  else a

def removeInvalidAssignments (d : D) : Apartment D :=
  h.clusters.foldl (fun a id => removeInvalidAssignment h a d id) a

def getUnlockedClusterAssignment (d : D) : List ℕ :=
  h.clusters.filter fun id => isOpen a id && fits a d id && (a.device d).isInGroup id

def getFirstLockedClusterAssignment (d : D) : ℕ :=
  (h.clusters.find? fun id =>
    (a.cluster id).configurationLocked && (a.cluster id).automatic && fits a d id &&
      (a.device d).isInGroup id).getD 0

def getEmptyCluster : Option ℕ :=
  h.clusters.find? fun id => (a.cluster id).applicationType = .none

/-- The loop of `findOrCreateCluster`. -/
def findCluster (direction protection : ℕ) : Option ℕ :=
  h.clusters.find? fun id =>
    decide ((a.cluster id).applicationType ≠ .none) &&
      (a.cluster id).protectionClass == protection && (a.cluster id).location == direction &&
      (a.cluster id).automatic

def findOrCreateCluster (direction protection : ℕ) : Apartment D × Option ℕ :=
  match findCluster h a direction protection with
  | some id => (a, some id)
  | none =>
    match getEmptyCluster h a with
    | some id =>
      (a.setCluster id (configure (a.cluster id) direction protection)
        (groupID_configure a id direction protection), some id)
    | none => (a, none)

/-- `consistencyCheck` behind `removeInvalidAssignments`. -/
def assignToOneCluster (d : D) : Apartment D :=
  let validClusters := getUnlockedClusterAssignment h a d
  if getFirstLockedClusterAssignment h a d ≠ 0 then
    validClusters.foldl (fun a id => removeDeviceFromCluster h a d id) a
  else
    match validClusters with
    | first :: rest =>
      if isUnconfigured a d then
        (first :: rest).foldl (fun a id => removeDeviceFromCluster h a d id) a
      else
        (first :: rest).foldl
          (fun a id => if id = first then a else removeDeviceFromCluster h a d id) a
    | [] =>
      if isUnconfigured a d then a
      else
        match findOrCreateCluster h a (a.device d).cardinalDirection
          (a.device d).windProtectionClass with
        | (a, none) => a
        | (a, some id) =>
          if (a.cluster id).configurationLocked then a else assignDeviceToCluster a d id

def consistencyCheck (d : D) : Apartment D :=
  assignToOneCluster h (removeInvalidAssignments h a d) d

def moveClusterDevices (source destination : ℕ) : Apartment D :=
  (getDevices h a source).foldl
    (fun a d => assignDeviceToCluster (removeDeviceFromCluster h a d source) d destination) a

/-- One turn of the inner loop of `joinIdenticalClusters`. -/
def joinCluster (destination : ℕ) (a : Apartment D) (index : ℕ) : Apartment D :=
  if !isOpen a index then a
  else if (a.cluster destination).location = (a.cluster index).location ∧
      (a.cluster destination).protectionClass = (a.cluster index).protectionClass then
    moveClusterDevices h a index destination
  else a

def joinClusters (a : Apartment D) : List ℕ → Apartment D
  | [] => a
  | id :: rest => joinClusters (if isOpen a id then rest.foldl (joinCluster h id) a else a) rest

def joinIdenticalClusters : Apartment D := joinClusters h a h.clusters

end operations

end AutoCluster

end Dss
