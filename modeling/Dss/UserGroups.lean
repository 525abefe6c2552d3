import Dss.AutoClusters
import Dss.GroupCreation
import Dss.Throwing

/-!
# User groups come and go

The structure manipulator creates and removes the groups of three ranges of ids: the clusters of
zone 0, which are always there; the user groups of a zone; and the user groups of the whole
apartment, which are groups of zone 0. Its `catch` clauses expect `Zone::getGroup` to throw when
there is no group. That function answers with null.

Each function makes one bus call. Of the property tree there are the nodes of the groups.
-/

namespace Dss

open Throwing Throwing.Statement

namespace UserGroups

open JokerGroup

/-! ## The model -/

/-- How a function may end. -/
inductive Failure : Type where
  | dssException (text : String) : Failure
  /-- `ItemNotFoundException` -/
  | itemNotFound (text : String) : Failure
  /-- `BusApiError`, which only bus calls throw -/
  | busApiError (text : String) : Failure
  | otherBusError (text : String) : Failure
  | nullDereference : Failure
  deriving DecidableEq

inductive BusError : Type where
  | busApiError (text : String) : BusError
  /-- anything else -/
  | other (text : String) : BusError
  deriving DecidableEq

def BusError.failure : BusError → Failure
  | busApiError text => .busApiError text
  | other text => .otherBusError text

/-- `catch (ItemNotFoundException&)` -/
def Failure.isItemNotFound : Failure → Bool
  | itemNotFound _ => true
  | dssException _ | busApiError _ | otherBusError _ | nullDereference => false

/-- `catch (BusApiError&)` -/
def Failure.isBusApiError : Failure → Bool
  | busApiError _ => true
  | dssException _ | itemNotFound _ | otherBusError _ | nullDereference => false

/-- `Zone`, as far as it is looked at here. -/
structure Zone : Type where
  /-- `getID` -/
  id : ℕ
  groups : List ZoneGroup
  /-- the ids of the groups with a node under `m_pPropertyNode`, if there is that node -/
  groupNodes : Option (List ℕ) := none
  deriving DecidableEq

/-- What is done with a zone; it may fail. -/
abbrev Action : Type := Statement Zone Failure

def Zone.getGroup (zone : Zone) (id : ℕ) : Option ZoneGroup :=
  zone.groups.find? fun group => group.base.groupID = id

def call (bus : Option BusError) : Action :=
  match bus with
  | none => skip
  | some e => raise e.failure

/-- `Zone::addGroup`, for a group of the zone. The groups behind the ventilation of the
apartment are not added. -/
def addGroup (group : ZoneGroup) : Action :=
  change fun zone =>
    if groupIDGlobalAppDsVentilation < group.base.groupID then zone
    else { zone with
      groups := zone.groups ++ [group]
      groupNodes := zone.groupNodes.map fun nodes => nodes.insert group.base.groupID }

/-- `Zone::removeGroup`, for a group that is found, or null. -/
def zoneRemoveGroup (group : Option ZoneGroup) : Action :=
  (change fun zone => { zone with groups :=
    match group with
    | none => zone.groups
    | some g => zone.groups.erase g }).andThen <|
  inspect Zone.groupNodes fun
    | none => skip
    | some nodes =>
      match group with
      | none => raise .nullDereference
      | some g => change fun zone => { zone with groupNodes := some (nodes.erase g.base.groupID) }

/-- `Apartment::getCluster`, which looks in zone 0. -/
def withCluster (id : ℕ) (x : Cluster → Action) : Action :=
  inspect (fun zone => zone.getGroup id) fun
    | some (.cluster c) => x c
    | _ => raise (.itemNotFound (toString id))

def modifyGroup (id : ℕ) (f : ZoneGroup → ZoneGroup) : Action :=
  change fun zone => { zone with
    groups := KeyedList.modify (fun group => group.base.groupID) id f zone.groups }

/-- `Cluster::reset` -/
def resetCluster : ZoneGroup → ZoneGroup
  | .group g => .group g
  | .cluster c => .cluster (AutoCluster.reset c)

/-! ## The structure manipulator -/

def reserved (id : ℕ) : Failure :=
  .dssException ("Group with id " ++ toString id ++ " is reserved")

def onlyInZone0 (id : ℕ) : Failure :=
  .dssException ("Group with id " ++ toString id ++ " only allowed in Zone 0")

/-- What `createGroup` says of a group that exists. -/
def alreadyExists (id : ℕ) : Failure :=
  .dssException ("Group id " ++ toString id ++ " already exists")

/-- What `removeGroup` says of a group that does not exist. -/
def doesNotExist (id : ℕ) : Failure :=
  .dssException ("Group id " ++ toString id ++ " does not exist")

def clusterDoesNotExist (id : ℕ) : Failure :=
  .dssException ("Remove group: id " ++ toString id ++ " does not exist")

def locked : Failure := .dssException "The group is locked and cannot be modified"

/-- The lookup of `createGroup`, and what is done if it throws that there is no group. -/
def createUnlessFound (id : ℕ) (group : ZoneGroup) (bus : Option BusError) : Action :=
  handling Failure.isItemNotFound (raise (alreadyExists id))
    ((addGroup group).andThen (call bus))

/-- The lookup of `removeGroup`, which does not throw, and what is done with its result. -/
def removeFound (id : ℕ) (bus : Option BusError) : Action :=
  (handling Failure.isItemNotFound skip (raise (doesNotExist id))).andThen <|
  inspect (fun zone => zone.getGroup id) fun pGroup =>
    catching Failure.isBusApiError ((zoneRemoveGroup pGroup).andThen (call bus))

/-- `createGroup`. `Zone::getGroup` does not throw, so that its `try` block goes on to the
exception behind it. -/
def createGroup (id : ℕ) (t : Option ApplicationType) (name : String) (bus : Option BusError) :
    Action :=
  inspect Zone.id fun zoneID =>
    if isDefaultGroup id || isGlobalAppDsGroup id then raise (reserved id)
    else if isAppUserGroup id then
      if zoneID ≠ 0 then raise (onlyInZone0 id)
      else
        catching (fun e => e.isItemNotFound || e.isBusApiError) <| withCluster id fun _ =>
          (modifyGroup id (GroupCreation.setNameAndType name t)).andThen (call bus)
    else if isZoneUserGroup id then
      createUnlessFound id (.group { groupID := id }) bus
    else if isGlobalAppUserGroup id then
      if zoneID ≠ 0 then raise (onlyInZone0 id)
      else
        createUnlessFound id
          (.group (({ groupID := id, name := name } : Group).setApplicationType t)) bus
    else raise (.dssException ("Create group: id " ++ toString id ++ " too large"))

def removeGroup (id : ℕ) (bus : Option BusError) : Action :=
  inspect Zone.id fun zoneID =>
    if isDefaultGroup id || isGlobalAppDsGroup id then raise (reserved id)
    else if isAppUserGroup id then
      if zoneID ≠ 0 then raise (onlyInZone0 id)
      else
        handling Failure.isItemNotFound
          (withCluster id fun cluster =>
            if cluster.configurationLocked then raise locked
            else
              catching (fun e => e.isItemNotFound || e.isBusApiError) <|
                (modifyGroup id resetCluster).andThen (call bus))
          (raise (clusterDoesNotExist id))
    else if isZoneUserGroup id then removeFound id bus
    else if isGlobalAppUserGroup id then
      if zoneID ≠ 0 then raise (onlyInZone0 id) else removeFound id bus
    else raise (.dssException ("Remove group: id " ++ toString id ++ " not found"))

end UserGroups

end Dss
