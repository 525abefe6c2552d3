import Mathlib.Data.Int.Notation
import Mathlib.Data.Nat.Notation
import Mathlib.Tactic.SplitIfs

/-!
# Groups and clusters

The configuration of groups and clusters, and how it is set from and compared with what a meter
reports. A default group and a system-wide application group refuse to change their application
type once it is set; a type outside the enumeration is stored as `None`; and the floor of a
cluster is compared but not taken over.
-/

namespace Dss

inductive ApplicationType : Type where
  | none | lights | blinds | heating | audio | video | joker | cooling | ventilation
  | window | recirculation | controlTemperature | apartmentVentilation
  | apartmentRecirculation
  deriving DecidableEq

/-! ## Group ids -/

def groupIDBroadcast : ℕ := 0
def groupIDYellow : ℕ := 1
def groupIDStandardMax : ℕ := 15
def groupIDAppUserMin : ℕ := 16
def groupIDAppUserMax : ℕ := 39
def groupIDUserGroupStart : ℕ := 40
def groupIDUserGroupEnd : ℕ := 47
def groupIDControlGroupMin : ℕ := 48
def groupIDControlTemperature : ℕ := 48
def groupIDControlGroupMax : ℕ := 55
def groupIDGlobalAppDsMin : ℕ := 64
def groupIDGlobalAppDsVentilation : ℕ := 64
def groupIDGlobalAppDsMax : ℕ := 187
def groupIDGlobalAppUserMin : ℕ := 188
def groupIDGlobalAppUserMax : ℕ := 249

def isDefaultGroup (groupID : ℕ) : Bool :=
  (decide (groupIDYellow ≤ groupID) && decide (groupID ≤ groupIDStandardMax)) ||
    decide (groupID = groupIDControlTemperature)

/-- `isAppUserGroup`: the clusters. -/
def isAppUserGroup (groupID : ℕ) : Bool :=
  decide (groupIDAppUserMin ≤ groupID) && decide (groupID ≤ groupIDAppUserMax)

def isGlobalAppDsGroup (groupID : ℕ) : Bool :=
  decide (groupIDGlobalAppDsMin ≤ groupID) && decide (groupID ≤ groupIDGlobalAppDsMax)

def isGlobalAppUserGroup (groupID : ℕ) : Bool :=
  decide (groupIDGlobalAppUserMin ≤ groupID) && decide (groupID ≤ groupIDGlobalAppUserMax)

def isGlobalAppGroup (groupID : ℕ) : Bool :=
  isGlobalAppDsGroup groupID || isGlobalAppUserGroup groupID

def isZoneUserGroup (groupID : ℕ) : Bool :=
  decide (groupIDUserGroupStart ≤ groupID) && decide (groupID ≤ groupIDUserGroupEnd)

def isControlGroup (groupID : ℕ) : Bool :=
  decide (groupIDControlGroupMin ≤ groupID) && decide (groupID ≤ groupIDControlGroupMax)

def isValidGroup (groupID : ℕ) : Bool :=
  isDefaultGroup groupID || isAppUserGroup groupID || isZoneUserGroup groupID ||
    isControlGroup groupID || isGlobalAppGroup groupID

variable {id : ℕ}

theorem isZoneUserGroup_iff : isZoneUserGroup id = true ↔ 40 ≤ id ∧ id ≤ 47 := by
  rw [isZoneUserGroup, Bool.and_eq_true, decide_eq_true_iff, decide_eq_true_iff]
  rfl

theorem isValidGroup_of_isZoneUserGroup (h : isZoneUserGroup id = true) :
    isValidGroup id = true := by
  simp [isValidGroup, h]

theorem isGlobalAppUserGroup_iff : isGlobalAppUserGroup id = true ↔ 188 ≤ id ∧ id ≤ 249 := by
  rw [isGlobalAppUserGroup, Bool.and_eq_true, decide_eq_true_iff, decide_eq_true_iff]
  rfl

theorem isAppUserGroup_iff : isAppUserGroup id = true ↔ 16 ≤ id ∧ id ≤ 39 := by
  rw [isAppUserGroup, Bool.and_eq_true, decide_eq_true_iff, decide_eq_true_iff]
  rfl

theorem isValidGroup_of_isAppUserGroup (h : isAppUserGroup id = true) :
    isValidGroup id = true := by
  simp [isValidGroup, h]

theorem isReserved_iff : (isDefaultGroup id || isGlobalAppDsGroup id) = true ↔
    (1 ≤ id ∧ id ≤ 15) ∨ id = 48 ∨ (64 ≤ id ∧ id ≤ 187) := by
  simp only [isDefaultGroup, isGlobalAppDsGroup, Bool.or_eq_true, Bool.and_eq_true,
    decide_eq_true_iff]
  simp only [groupIDYellow, groupIDStandardMax, groupIDControlTemperature, groupIDGlobalAppDsMin,
    groupIDGlobalAppDsMax]
  omega

theorem isDefaultGroup_eq_false (h : isAppUserGroup id = true) :
    (isDefaultGroup id || isGlobalAppDsGroup id) = false := by
  rw [isAppUserGroup_iff] at h
  rw [Bool.eq_false_iff, ne_eq, isReserved_iff]
  omega

/-! ## What a meter reports -/

/-- `GroupSpec_t`. The application type is a byte cast to the enumeration: `none`
for a byte that is none of its values. -/
structure GroupSpec : Type where
  groupID : ℕ
  applicationType : Option ApplicationType
  name : String
  applicationConfiguration : ℕ
  deriving DecidableEq

/-- `ClusterSpec_t`, as `getClusters` fills it: one for each cluster id. -/
structure ClusterSpec : Type extends GroupSpec where
  protectionClass : ℕ
  location : ℕ
  floor : ℕ
  configurationLocked : Bool
  lockedScenes : List ℤ
  /-- the loop of `getClusters` runs over the cluster ids -/
  isCluster : isAppUserGroup groupID = true
  deriving DecidableEq

/-! ## Groups -/

structure Group : Type where
  groupID : ℕ
  name : String := ""
  applicationType : ApplicationType := .none
  /-- the configuration of `m_pApplicationBehavior` -/
  applicationConfiguration : ℕ := 0
  isValid : Bool := false
  isPresent : Bool := false
  isConnected : Bool := false
  syncPending : Bool := false
  readFromDsm : Bool := false
  deriving DecidableEq

namespace Group

def typeIsFixed (g : Group) : Bool :=
  (isDefaultGroup g.groupID || isGlobalAppDsGroup g.groupID) &&
    !decide (g.applicationType = .none)

/-- `Group::setApplicationType`. A new behaviour starts with configuration 0. -/
def setApplicationType (g : Group) (t : Option ApplicationType) : Group :=
  if some g.applicationType = t then g
  else if g.typeIsFixed then g
  else { g with applicationType := t.getD .none, applicationConfiguration := 0 }

def setFromSpec (g : Group) (spec : GroupSpec) : Group :=
  { ({ g with name := spec.name } : Group).setApplicationType spec.applicationType with
    applicationConfiguration := spec.applicationConfiguration }

def isConfigEqual (g : Group) (spec : GroupSpec) : Bool :=
  decide (g.name = spec.name) && decide (some g.applicationType = spec.applicationType) &&
    decide (g.applicationConfiguration = spec.applicationConfiguration)

def make (spec : GroupSpec) : Group := ({ groupID := spec.groupID } : Group).setFromSpec spec

def seen (g : Group) : Group := { g with isPresent := true, isConnected := true, isValid := true }

/-- The application type after it has been set to `t`. -/
def takenType (g : Group) (t : Option ApplicationType) : ApplicationType :=
  if some g.applicationType = t then g.applicationType
  else if g.typeIsFixed then g.applicationType
  else t.getD .none

theorem setFromSpec_eq (g : Group) (spec : GroupSpec) :
    g.setFromSpec spec = { g with
      name := spec.name
      applicationType := g.takenType spec.applicationType
      applicationConfiguration := spec.applicationConfiguration } := by
  have hfixed : ({ g with name := spec.name } : Group).typeIsFixed = g.typeIsFixed := rfl
  rw [setFromSpec, setApplicationType, takenType, hfixed]
  split_ifs <;> rfl

theorem isConfigEqual_iff {g : Group} {spec : GroupSpec} :
    g.isConfigEqual spec = true ↔ g.name = spec.name ∧
      some g.applicationType = spec.applicationType ∧
      g.applicationConfiguration = spec.applicationConfiguration := by
  simp only [isConfigEqual, Bool.and_eq_true, decide_eq_true_iff, and_assoc]

def SameConfig (g g' : Group) : Prop :=
  g.name = g'.name ∧ g.applicationType = g'.applicationType ∧
    g.applicationConfiguration = g'.applicationConfiguration

theorem SameConfig.isConfigEqual {g g' : Group} (h : SameConfig g g') (spec : GroupSpec) :
    g.isConfigEqual spec = g'.isConfigEqual spec := by
  rw [Group.isConfigEqual, Group.isConfigEqual, h.1, h.2.1, h.2.2]

theorem sameConfig_of_isConfigEqual {g g' : Group} {spec : GroupSpec}
    (h : g.isConfigEqual spec = true) (h' : g'.isConfigEqual spec = true) :
    SameConfig g g' := by
  obtain ⟨hname, htype, hconf⟩ := isConfigEqual_iff.1 h
  obtain ⟨hname', htype', hconf'⟩ := isConfigEqual_iff.1 h'
  exact ⟨hname.trans hname'.symm, Option.some.inj (htype.trans htype'.symm),
    hconf.trans hconf'.symm⟩

/-- A group that was set from a specification has its configuration if it could
take the application type. -/
theorem isConfigEqual_setFromSpec (g : Group) (spec : GroupSpec) :
    (g.setFromSpec spec).isConfigEqual spec = true ↔
      some (g.takenType spec.applicationType) = spec.applicationType := by
  rw [setFromSpec_eq, isConfigEqual_iff]
  exact ⟨fun h => h.2.1, fun h => ⟨rfl, h, rfl⟩⟩

end Group

/-! ## Clusters -/

structure Cluster : Type extends Group where
  location : ℕ := 0
  protectionClass : ℕ := 0
  floor : ℤ := 0
  lockedScenes : List ℤ := []
  configurationLocked : Bool := false
  automatic : Bool := false
  deriving DecidableEq

namespace Cluster

def setFromSpec (c : Cluster) (spec : ClusterSpec) : Cluster :=
  { c with
    toGroup := c.toGroup.setFromSpec spec.toGroupSpec
    location := spec.location
    protectionClass := spec.protectionClass
    configurationLocked := spec.configurationLocked
    lockedScenes := spec.lockedScenes }

def isConfigEqual (c : Cluster) (spec : ClusterSpec) : Bool :=
  decide (c.lockedScenes = spec.lockedScenes) &&
    (c.toGroup.isConfigEqual spec.toGroupSpec && decide (c.location = spec.location) &&
      decide (c.protectionClass = spec.protectionClass) && decide (c.floor = spec.floor) &&
      decide (c.configurationLocked = spec.configurationLocked))

/-- A specification and a cluster agree in everything but the application type and
the floor. -/
def Follows (c : Cluster) (spec : ClusterSpec) : Prop :=
  c.name = spec.name ∧ c.applicationConfiguration = spec.applicationConfiguration ∧
    c.location = spec.location ∧ c.protectionClass = spec.protectionClass ∧
    c.configurationLocked = spec.configurationLocked ∧ c.lockedScenes = spec.lockedScenes

theorem isConfigEqual_iff {c : Cluster} {spec : ClusterSpec} :
    c.isConfigEqual spec = true ↔ Follows c spec ∧
      some c.applicationType = spec.applicationType ∧ c.floor = spec.floor := by
  simp only [isConfigEqual, Follows, Bool.and_eq_true, decide_eq_true_iff,
    Group.isConfigEqual_iff]
  constructor
  · rintro ⟨hs, ⟨⟨⟨⟨hname, htype, hconf⟩, hl⟩, hp⟩, hf⟩, hc⟩
    exact ⟨⟨hname, hconf, hl, hp, hc, hs⟩, htype, hf⟩
  · rintro ⟨⟨hname, hconf, hl, hp, hc, hs⟩, htype, hf⟩
    exact ⟨hs, ⟨⟨⟨⟨hname, htype, hconf⟩, hl⟩, hp⟩, hf⟩, hc⟩

def SameConfig (c c' : Cluster) : Prop :=
  c.toGroup.SameConfig c'.toGroup ∧ c.location = c'.location ∧
    c.protectionClass = c'.protectionClass ∧ c.floor = c'.floor ∧
    c.configurationLocked = c'.configurationLocked ∧ c.lockedScenes = c'.lockedScenes

theorem SameConfig.refl (c : Cluster) : SameConfig c c :=
  ⟨⟨rfl, rfl, rfl⟩, rfl, rfl, rfl, rfl, rfl⟩

theorem SameConfig.trans {c c' c'' : Cluster} (h : SameConfig c c') (h' : SameConfig c' c'') :
    SameConfig c c'' := by
  obtain ⟨⟨h1, h2, h3⟩, h4, h5, h6, h7, h8⟩ := h
  obtain ⟨⟨k1, k2, k3⟩, k4, k5, k6, k7, k8⟩ := h'
  exact ⟨⟨h1.trans k1, h2.trans k2, h3.trans k3⟩, h4.trans k4, h5.trans k5, h6.trans k6,
    h7.trans k7, h8.trans k8⟩

theorem SameConfig.isConfigEqual {c c' : Cluster} (h : SameConfig c c') (spec : ClusterSpec) :
    c.isConfigEqual spec = c'.isConfigEqual spec := by
  obtain ⟨hg, hl, hp, hf, hc, hs⟩ := h
  rw [Cluster.isConfigEqual, Cluster.isConfigEqual, hg.isConfigEqual, hl, hp, hf, hc, hs]

/-- What `setFromSpec` does to a cluster, whose type is never fixed: everything
follows the specification, but for the floor. -/
theorem setFromSpec_spec {c : Cluster} (spec : ClusterSpec) (h : c.typeIsFixed = false) :
    Follows (c.setFromSpec spec) spec ∧
      (c.setFromSpec spec).applicationType = spec.applicationType.getD .none ∧
      (c.setFromSpec spec).floor = c.floor ∧ (c.setFromSpec spec).groupID = c.groupID ∧
      (c.setFromSpec spec).syncPending = c.syncPending := by
  have htype : c.toGroup.takenType spec.applicationType = spec.applicationType.getD .none := by
    rw [Group.takenType, h, if_neg Bool.false_ne_true]
    split_ifs with ht
    · rw [← ht]
      rfl
    · rfl
  rw [setFromSpec, Group.setFromSpec_eq, htype]
  exact ⟨⟨rfl, rfl, rfl, rfl, rfl, rfl⟩, rfl, rfl, rfl, rfl⟩

theorem setFromSpec_of_isConfigEqual {c : Cluster} {spec : ClusterSpec}
    (h : c.isConfigEqual spec = true) : c.setFromSpec spec = c := by
  obtain ⟨⟨hname, hconf, hl, hp, hc, hs⟩, htype, -⟩ := isConfigEqual_iff.1 h
  have htaken : c.toGroup.takenType spec.applicationType = c.applicationType := by
    rw [Group.takenType, if_pos htype]
  rw [setFromSpec, Group.setFromSpec_eq, htaken, ← hname, ← hconf, ← hl, ← hp, ← hc, ← hs]

end Cluster

end Dss
