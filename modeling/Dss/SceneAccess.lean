import Dss.DeferredScenes
import Dss.Exception
import Dss.Group
import Dss.Guards

/-!
# Scene access

Scene calls that nobody makes by hand are blocked while an alarm protects their target. A fire or
wind alarm protects everything that is shade; the wind alarm of a shade cluster protects the
cluster, its devices, and the shade groups of the zones with such a device. A call from the web
service is blocked, too, if it would raise an alarm that is raised already.

A missing state of a cluster is passed over; a missing state for fire or wind is an exception.
-/

namespace Dss

namespace SceneAccess

open Guards

/-! ## The apartment -/

def groupIDGray : ℕ := 2
def stateActive : ℕ := 1
def stateInactive : ℕ := 2

inductive SceneAccessCategory : Type where
  | manual | timer | algorithm | unknown
  deriving DecidableEq

structure Device : Type where
  groupIds : List ℕ
  deriving DecidableEq

def Device.isInGroup (device : Device) (groupID : ℕ) : Bool :=
  if groupID = 0 then true
  else if !isValidGroup groupID then false
  else decide (groupID ∈ device.groupIds)

/-- `Group`, as a group of a zone. -/
structure ZoneGroup : Type extends Group where
  zoneID : ℕ
  /-- whether it is a `Cluster` -/
  isCluster : Bool := false
  lastCalledScene : ℕ := sceneOff
  lastButOneCalledScene : ℕ := sceneOff
  deriving DecidableEq

/-- `Group::isValid` -/
def ZoneGroup.valid (group : ZoneGroup) : Bool :=
  if isDefaultGroup group.groupID || isAppUserGroup group.groupID then
    group.isValid && !decide (group.applicationType = .none)
  else group.isValid

structure Zone : Type where
  zoneID : ℕ
  devices : List Device
  groups : List ZoneGroup
  heatingOperationMode : ℕ
  deriving DecidableEq

structure State : Type where
  name : String
  /-- whether `m_type` is `StateType_Script` -/
  isScript : Bool := false
  state : ℕ
  callOrigin : CallOrigin := .coUnknown
  deriving DecidableEq

/-- The zones and the states that are asked about. -/
structure Apartment : Type where
  zones : List Zone
  states : List State
  deriving DecidableEq

/-- What a call is addressed to: an `AddressableModelItem`. -/
inductive Target : Type where
  | group (group : ZoneGroup)
  | device (device : Device)
  deriving DecidableEq

/-- How a call ends that is not made. -/
inductive Error : Type where
  /-- `SceneAccessException` -/
  | sceneAccess (message : String)
  | exception (e : Exception)
  | assertion
  deriving DecidableEq

/-- Whether it is a `SceneAccessException`. -/
def Error.IsSceneAccess : Error → Prop
  | .sceneAccess _ => True
  | _ => False

namespace Apartment

def getZone (a : Apartment) (id : ℕ) : Except Error Zone :=
  match a.zones.find? fun zone => zone.zoneID = id with
  | some zone => .ok zone
  | none => .error (.exception (.itemNotFound (toString id)))

/-- The lookup of `Apartment::getNonScriptState`. -/
def nonScriptState? (a : Apartment) (name : String) : Option State :=
  a.states.find? fun state => !state.isScript && decide (state.name = name)

def getNonScriptState (a : Apartment) (name : String) : Except Error State :=
  match a.nonScriptState? name with
  | some state => .ok state
  | none => .error (.exception (.itemNotFound name))

/-- The lookup of `Apartment::getCluster`. -/
def cluster? (a : Apartment) (id : ℕ) : Option ZoneGroup :=
  if isAppUserGroup id then
    match a.zones.find? fun zone => zone.zoneID = 0 with
    | some zone => (zone.groups.find? fun group => group.groupID = id).filter (·.isCluster)
    | none => none
  else none

end Apartment

/-- `Group::getDevices` -/
def ZoneGroup.getDevices (a : Apartment) (group : ZoneGroup) : Except Error (List Device) := do
  let zone ← a.getZone group.zoneID
  pure (zone.devices.filter (·.isInGroup group.groupID))

/-! ## `checkAccess` -/

def protectionMessage (fireActive windActive : Bool) : String :=
  "Execution blocked: " ++
    if fireActive && windActive then "fire and wind alarms are active"
    else if fireActive then "fire is active"
    else if windActive then "wind is active"
    else ""

def Target.isShade : Target → Bool
  | .group g => decide (g.applicationType = .blinds)
  | .device d => d.isInGroup groupIDGray

def checkFireAndWind (a : Apartment) (target : Target) : Except Error Unit := do
  let fire ← a.getNonScriptState "fire"
  let wind ← a.getNonScriptState "wind"
  let windActive := decide (wind.state = stateActive)
  let fireActive := decide (fire.state = stateActive)
  if (windActive || fireActive) && target.isShade then
    .error (.sceneAccess (protectionMessage fireActive windActive))
  else pure ()

def clusterWind (i : ℕ) : String := "wind.group" ++ toString i

def windInCluster (a : Apartment) (i : ℕ) : Bool :=
  match a.cluster? i with
  | none => false
  | some cluster =>
    cluster.valid && decide (cluster.applicationType = .blinds) &&
      match a.nonScriptState? (clusterWind i) with
      | none => false
      | some wind => decide (wind.state = stateActive)

def checkInCluster (a : Apartment) (i : ℕ) : Target → Except Error Unit
  | .group group => do
    if group.groupID = i then .error (.sceneAccess "Execution blocked: wind is active")
    else if group.groupID = groupIDGray then do
      let devices ← group.getDevices a
      if 0 < (devices.filter (·.isInGroup i)).length then
        .error (.sceneAccess "Execution blocked: wind is active")
      else pure ()
    else pure ()
  | .device device =>
    if device.isInGroup i then .error (.sceneAccess "Execution blocked: wind is active")
    else pure ()

/-- The ids of the clusters: from `GroupIDAppUserMin` to `GroupIDAppUserMax`. -/
def clusterIDs : List ℕ :=
  List.range' groupIDAppUserMin (groupIDAppUserMax + 1 - groupIDAppUserMin)

def checkClusters (a : Apartment) (target : Target) : Except Error Unit :=
  clusterIDs.forM fun i => if windInCluster a i then checkInCluster a i target else pure ()

def checkAccess (a : Apartment) (target : Target) (category : SceneAccessCategory) :
    Except Error Unit :=
  if category = .manual then pure ()
  else do
    checkFireAndWind a target
    checkClusters a target

/-! ## `checkStates` -/

def stateName (scene : ℕ) : Option String :=
  if scene = SceneHelper.sceneWindActive then some "wind"
  else if scene = SceneHelper.sceneRainActive then some "rain"
  else if scene = SceneHelper.sceneHailActive then some "hail"
  else if scene = SceneHelper.sceneFire then some "fire"
  else if scene = SceneHelper.sceneAlarm then some "alarm"
  else if scene = SceneHelper.sceneAlarm2 then some "alarm2"
  else if scene = SceneHelper.sceneAlarm3 then some "alarm3"
  else if scene = SceneHelper.sceneAlarm4 then some "alarm4"
  else none

def checkStates (a : Apartment) (scene : ℕ) : Except Error Unit :=
  match stateName scene with
  | none => pure ()
  | some name => do
    let s ← a.getNonScriptState name
    if s.state = stateActive then
      .error (.sceneAccess ("Execution blocked: state " ++ name ++ " is already active"))
    else pure ()

/-! ## Protection -/

def Active (a : Apartment) (name : String) : Prop :=
  ∃ state, a.nonScriptState? name = some state ∧ state.state = stateActive

def WindyCluster (a : Apartment) (i : ℕ) : Prop :=
  ∃ cluster, a.cluster? i = some cluster ∧ cluster.valid = true ∧
    cluster.applicationType = .blinds ∧ Active a (clusterWind i)

/-- What a cluster covers: the cluster, its devices, and the shade group of a zone with a shade
device in the cluster. -/
def Covers (a : Apartment) (i : ℕ) : Target → Prop
  | .group group => group.groupID = i ∨ group.groupID = groupIDGray ∧
      ∃ zone, a.getZone group.zoneID = .ok zone ∧
        ∃ device ∈ zone.devices, device.isInGroup groupIDGray = true ∧ device.isInGroup i = true
  | .device device => device.isInGroup i = true

def Protected (a : Apartment) (target : Target) : Prop :=
  (Active a "fire" ∨ Active a "wind") ∧ target.isShade = true ∨
    ∃ i ∈ clusterIDs, WindyCluster a i ∧ Covers a i target

def HasZone (a : Apartment) : Target → Prop
  | .group group => ∃ zone ∈ a.zones, zone.zoneID = group.zoneID
  | .device _ => True

def Registered (a : Apartment) (name : String) : Prop := (a.nonScriptState? name).isSome = true

variable {a : Apartment} {target : Target} {i : ℕ}

theorem getNonScriptState_of_some {name : String} {state : State}
    (h : a.nonScriptState? name = some state) : a.getNonScriptState name = .ok state := by
  rw [Apartment.getNonScriptState, h]

theorem getNonScriptState_of_none {name : String} (h : a.nonScriptState? name = none) :
    a.getNonScriptState name = .error (.exception (.itemNotFound name)) := by
  rw [Apartment.getNonScriptState, h]

theorem active_iff {name : String} {state : State} (h : a.nonScriptState? name = some state) :
    Active a name ↔ state.state = stateActive := by
  constructor
  · rintro ⟨state', hstate, hactive⟩
    rw [h] at hstate
    cases hstate
    exact hactive
  · exact fun hactive => ⟨state, h, hactive⟩

theorem exists_of_registered {name : String} (h : Registered a name) :
    ∃ state, a.nonScriptState? name = some state :=
  Option.isSome_iff_exists.mp h

/-! ### Fire and wind -/

theorem protected_of_checkFireAndWind
    (h : FailsBy Error.IsSceneAccess (checkFireAndWind a target)) :
    (Active a "fire" ∨ Active a "wind") ∧ target.isShade = true := by
  rcases hfire : a.nonScriptState? "fire" with - | fire
  · obtain ⟨e, he, hP⟩ := h
    rw [checkFireAndWind, getNonScriptState_of_none hfire] at he
    cases he
    exact hP.elim
  rcases hwind : a.nonScriptState? "wind" with - | wind
  · obtain ⟨e, he, hP⟩ := h
    rw [checkFireAndWind, getNonScriptState_of_some hfire, getNonScriptState_of_none hwind] at he
    cases he
    exact hP.elim
  rw [checkFireAndWind, getNonScriptState_of_some hfire, getNonScriptState_of_some hwind] at h
  have hblocked := (failsBy_ite trivial).mp h
  simp only [Bool.and_eq_true, Bool.or_eq_true, decide_eq_true_iff] at hblocked
  rw [active_iff hfire, active_iff hwind]
  exact ⟨hblocked.1.symm, hblocked.2⟩

theorem checkFireAndWind_iff (hfire : Registered a "fire") (hwind : Registered a "wind") :
    FailsOnlyBy Error.IsSceneAccess (checkFireAndWind a target) ∧
      (FailsBy Error.IsSceneAccess (checkFireAndWind a target) ↔
        (Active a "fire" ∨ Active a "wind") ∧ target.isShade = true) := by
  obtain ⟨fire, hfire⟩ := exists_of_registered hfire
  obtain ⟨wind, hwind⟩ := exists_of_registered hwind
  rw [checkFireAndWind, getNonScriptState_of_some hfire, getNonScriptState_of_some hwind]
  refine ⟨failsOnlyBy_ite (failsOnlyBy_error trivial) failsOnlyBy_ok,
    (failsBy_ite trivial).trans ?_⟩
  simp only [Bool.and_eq_true, Bool.or_eq_true, decide_eq_true_iff]
  rw [active_iff hfire, active_iff hwind, or_comm]

/-! ### Clusters -/

theorem windInCluster_iff : windInCluster a i = true ↔ WindyCluster a i := by
  rcases hcluster : a.cluster? i with - | cluster
  · refine iff_of_false (by simp [windInCluster, hcluster]) ?_
    rintro ⟨cluster, h, -⟩
    rw [hcluster] at h
    cases h
  · rcases hwind : a.nonScriptState? (clusterWind i) with - | wind
    · refine iff_of_false (by simp [windInCluster, hcluster, hwind]) ?_
      rintro ⟨-, -, -, -, state, h, -⟩
      rw [hwind] at h
      cases h
    · simp only [windInCluster, hcluster, hwind, Bool.and_eq_true, decide_eq_true_iff]
      constructor
      · exact fun ⟨⟨hvalid, htype⟩, hactive⟩ =>
          ⟨cluster, hcluster, hvalid, htype, wind, hwind, hactive⟩
      · rintro ⟨cluster', h, hvalid, htype, hactive⟩
        rw [hcluster] at h
        cases h
        exact ⟨⟨hvalid, htype⟩, (active_iff hwind).mp hactive⟩

theorem covers_of_checkInCluster
    (h : FailsBy Error.IsSceneAccess (checkInCluster a i target)) : Covers a i target := by
  cases target with
  | device device =>
    have hmember : device.isInGroup i = true := (failsBy_ite trivial).mp h
    exact hmember
  | group group =>
    rw [checkInCluster] at h
    split_ifs at h with hid hgray
    · exact Or.inl hid
    · rcases hzone : a.getZone group.zoneID with e | zone
      · obtain ⟨e', he, hP⟩ := h
        rw [ZoneGroup.getDevices, hzone] at he
        cases he
        rw [Apartment.getZone] at hzone
        split at hzone <;> cases hzone
        exact hP.elim
      · rw [ZoneGroup.getDevices, hzone] at h
        obtain ⟨device, hdevice⟩ := List.exists_mem_of_length_pos ((failsBy_ite trivial).mp h)
        obtain ⟨hdevice, hcluster⟩ := List.mem_filter.mp hdevice
        obtain ⟨hdevice, hgroup⟩ := List.mem_filter.mp hdevice
        exact Or.inr ⟨hgray, zone, hzone, device, hdevice, hgray ▸ hgroup, hcluster⟩
    · exact absurd h not_failsBy_ok

theorem getZone_of_hasZone {group : ZoneGroup} (h : HasZone a (.group group)) :
    ∃ zone, a.getZone group.zoneID = .ok zone := by
  obtain ⟨zone, hzone, hid⟩ := h
  rcases hfind : a.zones.find? fun zone => zone.zoneID = group.zoneID with - | found
  · exact absurd (decide_eq_true hid) (List.find?_eq_none.mp hfind zone hzone)
  · exact ⟨found, by rw [Apartment.getZone, hfind]⟩

theorem checkInCluster_iff (hzone : HasZone a target) :
    FailsOnlyBy Error.IsSceneAccess (checkInCluster a i target) ∧
      (FailsBy Error.IsSceneAccess (checkInCluster a i target) ↔ Covers a i target) := by
  cases target with
  | device device =>
    exact ⟨failsOnlyBy_ite (failsOnlyBy_error trivial) failsOnlyBy_ok, failsBy_ite trivial⟩
  | group group =>
    obtain ⟨zone, hzone⟩ := getZone_of_hasZone hzone
    refine ⟨?_, covers_of_checkInCluster, ?_⟩
    · rw [checkInCluster, ZoneGroup.getDevices, hzone]
      exact failsOnlyBy_ite (failsOnlyBy_error trivial)
        (failsOnlyBy_ite (failsOnlyBy_ite (failsOnlyBy_error trivial) failsOnlyBy_ok)
          failsOnlyBy_ok)
    · rw [checkInCluster]
      rintro (hid | ⟨hgray, zone', hzone', device, hdevice, hgroup, hcluster⟩)
      · rw [if_pos hid]
        exact failsBy_error.mpr trivial
      · split_ifs with hid
        · exact failsBy_error.mpr trivial
        · rw [ZoneGroup.getDevices, hzone', hgray]
          refine (failsBy_ite trivial).mpr (List.length_pos_of_mem (a := device) ?_)
          exact List.mem_filter.mpr ⟨List.mem_filter.mpr ⟨hdevice, hgroup⟩, hcluster⟩

theorem failsBy_cluster (h : FailsBy Error.IsSceneAccess
      (if windInCluster a i then checkInCluster a i target else pure ())) :
    WindyCluster a i ∧ FailsBy Error.IsSceneAccess (checkInCluster a i target) := by
  split_ifs at h with hwind
  · exact ⟨windInCluster_iff.1 hwind, h⟩
  · exact absurd h not_failsBy_ok

theorem protected_of_checkClusters (h : FailsBy Error.IsSceneAccess (checkClusters a target)) :
    ∃ i ∈ clusterIDs, WindyCluster a i ∧ Covers a i target := by
  obtain ⟨i, hi, hfails⟩ := exists_of_failsBy_forM h
  obtain ⟨hwindy, hfails⟩ := failsBy_cluster hfails
  exact ⟨i, hi, hwindy, covers_of_checkInCluster hfails⟩

theorem checkClusters_iff (hzone : HasZone a target) :
    FailsOnlyBy Error.IsSceneAccess (checkClusters a target) ∧
      (FailsBy Error.IsSceneAccess (checkClusters a target) ↔
        ∃ i ∈ clusterIDs, WindyCluster a i ∧ Covers a i target) := by
  have honly : ∀ i ∈ clusterIDs, FailsOnlyBy Error.IsSceneAccess
      (if windInCluster a i then checkInCluster a i target else pure ()) := fun i _ =>
    failsOnlyBy_ite (checkInCluster_iff hzone).1 failsOnlyBy_ok
  refine ⟨FailsOnlyBy.forM honly, protected_of_checkClusters, ?_⟩
  rintro ⟨i, hi, hwindy, hcovers⟩
  refine (failsBy_forM honly).mpr ⟨i, hi, ?_⟩
  rw [if_pos (windInCluster_iff.2 hwindy)]
  exact (checkInCluster_iff hzone).2.mpr hcovers

/-! ### Both checks -/

theorem protected_of_checkAccess {category : SceneAccessCategory}
    (h : FailsBy Error.IsSceneAccess (checkAccess a target category)) : Protected a target := by
  rw [checkAccess] at h
  split_ifs at h
  · exact absurd h not_failsBy_ok
  · rcases failsBy_bind.mp h with h | ⟨-, -, h⟩
    · exact Or.inl (protected_of_checkFireAndWind h)
    · exact Or.inr (protected_of_checkClusters h)

theorem checkAccess_iff {category : SceneAccessCategory} (hcategory : category ≠ .manual)
    (hfire : Registered a "fire") (hwind : Registered a "wind") (hzone : HasZone a target) :
    FailsOnlyBy Error.IsSceneAccess (checkAccess a target category) ∧
      (FailsBy Error.IsSceneAccess (checkAccess a target category) ↔ Protected a target) := by
  obtain ⟨honly, hfails⟩ := @checkFireAndWind_iff a target hfire hwind
  obtain ⟨honly', hfails'⟩ := checkClusters_iff hzone
  rw [checkAccess, if_neg hcategory]
  exact ⟨honly.bind fun _ => honly',
    (failsBy_andThen honly).trans (or_congr hfails hfails')⟩

def AlreadyActive (a : Apartment) (scene : ℕ) : Prop :=
  ∃ name, stateName scene = some name ∧ Active a name

theorem checkStates_iff {scene : ℕ} :
    FailsBy Error.IsSceneAccess (checkStates a scene) ↔ AlreadyActive a scene := by
  rcases hname : stateName scene with - | name
  · rw [checkStates, hname]
    refine iff_of_false not_failsBy_ok ?_
    rintro ⟨name, h, -⟩
    rw [hname] at h
    cases h
  · have hactive : AlreadyActive a scene ↔ Active a name := by
      rw [AlreadyActive, hname]
      simp
    rw [hactive, checkStates, hname]
    rcases hstate : a.nonScriptState? name with - | state
    · simp only [getNonScriptState_of_none hstate]
      refine iff_of_false (fun h => failsBy_error.mp h) ?_
      rintro ⟨state, h, -⟩
      rw [hstate] at h
      cases h
    · simp only [getNonScriptState_of_some hstate]
      exact (failsBy_ite trivial).trans (active_iff hstate).symm

end SceneAccess

end Dss
