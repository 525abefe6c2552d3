import Mathlib.Logic.Function.Basic
import Dss.Group

/-!
# Scanning the groups of a meter

What `BusScanner` does with the groups and clusters that a meter reports: those of each zone and,
apart from the other groups of zone 0, the clusters. What a report does to one group does not
depend on the others: `globalApp_scan` and `cluster_scan` reduce a whole scan to the
specifications with one id.
-/

namespace Dss

open Function

/-- The groups of each zone, and the clusters. -/
structure Apartment : Type where
  zones : ℕ → ℕ → Option Group
  clusters : ℕ → Option Cluster

/-- The answer of a meter: `none` where the bus raised an error. -/
inductive Report : Type where
  /-- `getGroups` for a zone, on a meter with this API version -/
  | groups (apiVersion zoneID : ℕ) (specs : Option (List GroupSpec))
  /-- `getClusters` -/
  | clusters (apiVersion : ℕ) (specs : Option (List ClusterSpec))
  deriving DecidableEq

def configuredSince : ℕ := 0x303

def GroupSpec.read (apiVersion : ℕ) (spec : GroupSpec) : GroupSpec :=
  if apiVersion < configuredSince then { spec with applicationConfiguration := 0 } else spec

def ClusterSpec.read (apiVersion : ℕ) (spec : ClusterSpec) : ClusterSpec :=
  if apiVersion < configuredSince then { spec with applicationConfiguration := 0 } else spec

/-- A known application group meets a report: the first meter that differs owns
it, the others have to be overwritten. -/
def Group.meetGlobalApp (g : Group) (spec : GroupSpec) : Group :=
  (if !g.isConfigEqual spec then
      if !g.readFromDsm then { g.setFromSpec spec with readFromDsm := true }
      else { g with syncPending := true }
    else g).seen

def Group.meetUserGroup (g : Group) (spec : GroupSpec) : Group :=
  (if !g.isConfigEqual spec then { g with syncPending := true } else g).seen

def Cluster.meet (c : Cluster) (spec : ClusterSpec) : Cluster :=
  let c := if !c.isConfigEqual spec then { c with syncPending := true } else c
  let c :=
    if c.applicationType = .none ∨ (c.applicationType ≠ .none ∧ c.readFromDsm = false) then
      { c.setFromSpec spec with readFromDsm := true }
    else c
  { c with toGroup := c.toGroup.seen }

namespace Apartment

def setGroup (a : Apartment) (zoneID groupID : ℕ) (g : Group) : Apartment :=
  { a with
    zones := Function.update a.zones zoneID
      (Function.update (a.zones zoneID) groupID (some g)) }

/-- `Zone::addGroup`, which ignores all ids beyond apartment ventilation. -/
def addGroup (a : Apartment) (zoneID : ℕ) (g : Group) : Apartment :=
  if groupIDGlobalAppDsVentilation < g.groupID then a else a.setGroup zoneID g.groupID g

/-- A report on a group: what `known` makes of it if the zone has it, else a new
group. -/
def meetGroup (a : Apartment) (zoneID : ℕ) (spec : GroupSpec) (known : Group → Group)
    (fresh : Group) : Apartment :=
  match a.zones zoneID spec.groupID with
  | some g => a.setGroup zoneID spec.groupID (known g)
  | none => a.addGroup zoneID fresh.seen

/-- The loop body of `BusScanner::scanGroupsOfZone`. -/
def scanGroup (a : Apartment) (zoneID : ℕ) (spec : GroupSpec) : Apartment :=
  if spec.groupID = 0 ∨ isAppUserGroup spec.groupID = true then a
  else if isDefaultGroup spec.groupID then
    (a.meetGroup zoneID spec Group.seen (Group.make spec)).meetGroup 0 spec Group.seen
      (Group.make spec)
  else if isGlobalAppGroup spec.groupID then
    a.meetGroup 0 spec (·.meetGlobalApp spec) { Group.make spec with readFromDsm := true }
  else a.meetGroup zoneID spec (·.meetUserGroup spec) (Group.make spec)

/-- The loop body of `BusScanner::scanClusters`. -/
def scanCluster (a : Apartment) (spec : ClusterSpec) : Apartment :=
  let c := (a.clusters spec.groupID).getD { groupID := spec.groupID }
  { a with clusters := Function.update a.clusters spec.groupID (some (c.meet spec)) }

/-- `BusScanner::scanGroupsOfZone` and `BusScanner::scanClusters`. -/
def scan (a : Apartment) : Report → Apartment
  | .groups _ _ none => a
  | .groups apiVersion zoneID (some specs) =>
    (specs.map (GroupSpec.read apiVersion)).foldl (fun a spec => a.scanGroup zoneID spec) a
  | .clusters _ none => a
  | .clusters apiVersion (some specs) =>
    (specs.map (ClusterSpec.read apiVersion)).foldl scanCluster a

def scanAll (a : Apartment) (reports : List Report) : Apartment := reports.foldl scan a

end Apartment

def Report.groupSpecs (groupID : ℕ) : Report → List GroupSpec
  | .groups apiVersion _ (some specs) =>
    (specs.map (GroupSpec.read apiVersion)).filter (·.groupID = groupID)
  | _ => []

def Report.clusterSpecs (groupID : ℕ) : Report → List ClusterSpec
  | .clusters apiVersion (some specs) =>
    (specs.map (ClusterSpec.read apiVersion)).filter (·.groupID = groupID)
  | _ => []

def groupSpecs (groupID : ℕ) (reports : List Report) : List GroupSpec :=
  reports.flatMap (Report.groupSpecs groupID)

def clusterSpecs (groupID : ℕ) (reports : List Report) : List ClusterSpec :=
  reports.flatMap (Report.clusterSpecs groupID)

/-! ## One group at a time -/

/-- A fold over an indexed state, seen at one index: if each step changes the value
there by `f` or leaves it, according to `p`, the fold changes it by the fold of `f`
over the steps with `p`. -/
theorem foldl_at {σ τ β : Type} (look : σ → Option τ) (step : σ → β → σ) (f : τ → β → τ)
    (p : β → Bool)
    (hstep : ∀ s b v, look s = some v →
      look (step s b) = some (if p b then f v b else v)) :
    ∀ (l : List β) (s : σ) (v : τ), look s = some v →
      look (l.foldl step s) = some ((l.filter p).foldl f v) := by
  intro l
  induction l with
  | nil => exact fun s v h => h
  | cons b rest ih =>
    intro s v h
    have hb := hstep s b v h
    by_cases hp : p b = true
    · rw [if_pos hp] at hb
      rw [List.filter_cons_of_pos hp]
      exact ih _ _ hb
    · rw [if_neg hp] at hb
      rw [List.filter_cons_of_neg hp]
      exact ih _ _ hb

namespace Apartment

@[simp] theorem setGroup_zones_self (a : Apartment) (zoneID id : ℕ) (g : Group) :
    (a.setGroup zoneID id g).zones zoneID id = some g := by
  rw [setGroup]
  simp only [update_self]

theorem setGroup_zones_of_ne (a : Apartment) (zoneID zoneID' : ℕ) {id id' : ℕ} (g : Group)
    (h : id' ≠ id) : (a.setGroup zoneID id g).zones zoneID' id' = a.zones zoneID' id' := by
  rw [setGroup]
  by_cases hz : zoneID' = zoneID
  · subst hz
    simp only [update_self]
    rw [update_of_ne h]
  · simp only
    rw [update_of_ne hz]

theorem meetGroup_zones_of_ne (a : Apartment) (zoneID zoneID' : ℕ) {id : ℕ}
    {spec : GroupSpec} (known : Group → Group) {fresh : Group}
    (hfresh : fresh.groupID = spec.groupID) (h : id ≠ spec.groupID) :
    (a.meetGroup zoneID spec known fresh).zones zoneID' id = a.zones zoneID' id := by
  rw [meetGroup]
  rcases a.zones zoneID spec.groupID with - | g
  · have hid : id ≠ fresh.seen.groupID := by
      rw [Group.seen, hfresh]
      exact h
    simp only [addGroup]
    split_ifs
    · rfl
    · exact setGroup_zones_of_ne a zoneID zoneID' _ hid
  · exact setGroup_zones_of_ne a zoneID zoneID' _ h

theorem meetGroup_clusters (a : Apartment) (zoneID : ℕ) (spec : GroupSpec)
    (known : Group → Group) (fresh : Group) :
    (a.meetGroup zoneID spec known fresh).clusters = a.clusters := by
  rw [meetGroup]
  rcases a.zones zoneID spec.groupID with - | g
  · simp only [addGroup]
    split_ifs <;> rfl
  · rfl

theorem scanGroup_clusters (a : Apartment) (zoneID : ℕ) (spec : GroupSpec) :
    (a.scanGroup zoneID spec).clusters = a.clusters := by
  rw [scanGroup]
  split_ifs <;> simp only [meetGroup_clusters]

end Apartment

theorem Group.make_groupID (spec : GroupSpec) : (Group.make spec).groupID = spec.groupID := by
  rw [Group.make, Group.setFromSpec_eq]

theorem not_default_of_isGlobalAppGroup {id : ℕ} (h : isGlobalAppGroup id = true) :
    ¬ (id = 0 ∨ isAppUserGroup id = true) ∧ ¬ isDefaultGroup id = true := by
  simp only [isGlobalAppGroup, isGlobalAppDsGroup, isGlobalAppUserGroup, isAppUserGroup,
    isDefaultGroup, Bool.or_eq_true, Bool.and_eq_true, decide_eq_true_eq] at h ⊢
  simp only [groupIDGlobalAppDsMin, groupIDGlobalAppDsMax, groupIDGlobalAppUserMin,
    groupIDGlobalAppUserMax, groupIDAppUserMin, groupIDAppUserMax, groupIDYellow,
    groupIDStandardMax, groupIDControlTemperature] at h ⊢
  omega

namespace Apartment

theorem scanGroup_globalApp (a : Apartment) (zoneID : ℕ) (spec : GroupSpec) {id : ℕ}
    (hid : isGlobalAppGroup id = true) {g : Group} (hg : a.zones 0 id = some g) :
    (a.scanGroup zoneID spec).zones 0 id =
      some (if decide (spec.groupID = id) then g.meetGlobalApp spec else g) := by
  by_cases he : spec.groupID = id
  · subst he
    obtain ⟨hskip, hdefault⟩ := not_default_of_isGlobalAppGroup hid
    rw [scanGroup, if_neg hskip, if_neg hdefault, if_pos hid, meetGroup, hg,
      decide_eq_true rfl]
    exact setGroup_zones_self a 0 spec.groupID _
  · rw [decide_eq_false he, if_neg Bool.false_ne_true, ← hg, scanGroup]
    have hne : id ≠ spec.groupID := Ne.symm he
    have hmake := Group.make_groupID spec
    split_ifs
    · rfl
    · rw [meetGroup_zones_of_ne _ 0 0 _ hmake hne, meetGroup_zones_of_ne _ zoneID 0 _ hmake hne]
    · exact meetGroup_zones_of_ne _ 0 0 _ hmake hne
    · exact meetGroup_zones_of_ne _ zoneID 0 _ hmake hne

theorem scanCluster_cluster (a : Apartment) (spec : ClusterSpec) {id : ℕ} {c : Cluster}
    (hc : a.clusters id = some c) :
    (a.scanCluster spec).clusters id =
      some (if decide (spec.groupID = id) then c.meet spec else c) := by
  rw [scanCluster]
  by_cases he : spec.groupID = id
  · subst he
    simp only [hc, update_self, Option.getD_some, decide_true, if_true]
  · simp only [decide_eq_false he]
    rw [update_of_ne (Ne.symm he), hc]
    rfl

theorem globalApp_scan (reports : List Report) {id : ℕ} (hid : isGlobalAppGroup id = true) :
    ∀ {a : Apartment} {g : Group}, a.zones 0 id = some g →
      (a.scanAll reports).zones 0 id =
        some ((groupSpecs id reports).foldl Group.meetGlobalApp g) := by
  induction reports with
  | nil => exact fun h => h
  | cons r rest ih =>
    intro a g hg
    rw [groupSpecs, List.flatMap_cons, List.foldl_append]
    refine ih ?_
    cases r with
    | groups apiVersion zoneID specs =>
      cases specs with
      | none => exact hg
      | some specs =>
        exact foldl_at (fun a : Apartment => a.zones 0 id)
          (fun a spec => a.scanGroup zoneID spec) Group.meetGlobalApp
          (fun spec => decide (spec.groupID = id))
          (fun a spec g hg => scanGroup_globalApp a zoneID spec hid hg) _ _ _ hg
    | clusters apiVersion specs =>
      cases specs with
      | none => exact hg
      | some specs =>
        have hzones : ∀ (l : List ClusterSpec) (a : Apartment),
            (l.foldl scanCluster a).zones = a.zones := by
          intro l
          induction l with
          | nil => exact fun _ => rfl
          | cons spec l ihl => exact fun a => ihl (a.scanCluster spec)
        change (List.foldl scanCluster a _).zones 0 id = _
        rw [hzones]
        exact hg

theorem cluster_scan (reports : List Report) {id : ℕ} :
    ∀ {a : Apartment} {c : Cluster}, a.clusters id = some c →
      (a.scanAll reports).clusters id =
        some ((clusterSpecs id reports).foldl Cluster.meet c) := by
  induction reports with
  | nil => exact fun h => h
  | cons r rest ih =>
    intro a c hc
    rw [clusterSpecs, List.flatMap_cons, List.foldl_append]
    refine ih ?_
    cases r with
    | groups apiVersion zoneID specs =>
      cases specs with
      | none => exact hc
      | some specs =>
        have hclusters : ∀ (l : List GroupSpec) (a : Apartment),
            (l.foldl (fun a spec => a.scanGroup zoneID spec) a).clusters = a.clusters := by
          intro l
          induction l with
          | nil => exact fun _ => rfl
          | cons spec l ihl => exact fun a => (ihl _).trans (scanGroup_clusters a zoneID spec)
        change (List.foldl _ a _).clusters id = _
        rw [hclusters]
        exact hc
    | clusters apiVersion specs =>
      cases specs with
      | none => exact hc
      | some specs =>
        exact foldl_at (fun a : Apartment => a.clusters id) scanCluster Cluster.meet
          (fun spec => decide (spec.groupID = id))
          (fun a spec c hc => scanCluster_cluster a spec hc) _ _ _ hc

end Apartment

end Dss
