import Mathlib.Data.List.Nodup
import Dss.Group

/-!
# Synchronising groups

`synchronizeGroups` of `util.cpp`. The brace that should close the loop over the clusters stands at
the end of the function, so that the other loops run inside of it, once for each cluster. A bus
interface decides for each call, by the calls before it, whether it raises `BusApiError`.
-/

namespace Dss

open List

namespace Synchronize

/-! ## The apartment and the bus -/

structure Zone : Type where
  /-- `getID` -/
  id : ℕ
  isConnected : Bool
  /-- `getGroups` -/
  groups : List Group
  deriving DecidableEq

structure Apartment : Type where
  /-- `getClusters` -/
  clusters : List Cluster
  /-- `getGlobalApps` -/
  globalApps : List Group
  /-- `getZones` -/
  zones : List Zone
  deriving DecidableEq

/-- The calls of `StructureModifyingBusInterface`. -/
inductive BusCall : Type where
  | clusterSetName (clusterID : ℕ) (name : String)
  | clusterSetApplication (clusterID : ℕ) (type : ApplicationType) (configuration : ℕ)
  | clusterSetProperties (clusterID location : ℕ) (floor : ℤ) (protectionClass : ℕ)
  | clusterSetLockedScenes (clusterID : ℕ) (lockedScenes : List ℤ)
  | createGroup (zoneID groupID : ℕ) (type : ApplicationType) (configuration : ℕ) (name : String)
  | groupSetApplication (zoneID groupID : ℕ) (type : ApplicationType) (configuration : ℕ)
  deriving DecidableEq

/-- Whether a call raises `BusApiError`, by the calls that were made before it. -/
abbrev Bus : Type := List BusCall → BusCall → Bool

/-- One of the groups, by its position. -/
inductive Item : Type where
  | cluster : ℕ → Item
  | globalApp : ℕ → Item
  | group : ℕ → ℕ → Item
  deriving DecidableEq

namespace Apartment

/-- The configuration of a cluster, a global application group or a user group, as it
is sent. -/
def calls (a : Apartment) : Item → List BusCall
  | .cluster i =>
    match a.clusters[i]? with
    | none => []
    | some c =>
      [.clusterSetName c.groupID c.name,
        .clusterSetApplication c.groupID c.applicationType c.applicationConfiguration,
        .clusterSetProperties c.groupID c.location c.floor c.protectionClass,
        .clusterSetLockedScenes c.groupID c.lockedScenes]
  | .globalApp i =>
    match a.globalApps[i]? with
    | none => []
    | some g => [.groupSetApplication 0 g.groupID g.applicationType g.applicationConfiguration]
  | .group z i =>
    match a.zones[z]? with
    | none => []
    | some zone =>
      match zone.groups[i]? with
      | none => []
      | some g =>
        [.createGroup zone.id g.groupID g.applicationType g.applicationConfiguration g.name,
          .groupSetApplication zone.id g.groupID g.applicationType g.applicationConfiguration]

def globalAppItems (a : Apartment) : List Item :=
  (List.range a.globalApps.length).map .globalApp

/-- `m_SyncPending` of a group, when the function is called. -/
def syncPending (a : Apartment) : Item → Bool
  | .cluster i => (a.clusters[i]?.map fun c => c.syncPending).getD false
  | .globalApp i => (a.globalApps[i]?.map Group.syncPending).getD false
  | .group z i => ((a.zones[z]?.bind fun zone => zone.groups[i]?).map Group.syncPending).getD false

end Apartment

/-! ## The function -/

/-- The calls made for a group, and whether all went through. -/
structure Attempt : Type where
  item : Item
  /-- the calls made, the one that raised an error included -/
  sent : List BusCall
  ok : Bool
  deriving DecidableEq

/-- What has been sent, and which groups are marked. Nothing else of the apartment
changes. -/
structure State : Type where
  syncPending : Item → Bool
  attempts : List Attempt := []

def State.sentItems (s : State) : List Item := s.attempts.map Attempt.item

def State.sent (s : State) : List BusCall := s.attempts.flatMap Attempt.sent

def send (bus : Bus) (before : List BusCall) : List BusCall → List BusCall × Bool
  | [] => ([], true)
  | call :: calls =>
    if bus before call then ([call], false)
    else
      let r := send bus (before ++ [call]) calls
      (call :: r.1, r.2)

section

variable (bus : Bus) (a : Apartment)

/-- The `try` block: send, and mark as synchronised. -/
def attempt (s : State) (item : Item) : State :=
  let r := send bus s.sent (a.calls item)
  { syncPending := if r.2 then Function.update s.syncPending item false else s.syncPending
    attempts := s.attempts ++ [{ item := item, sent := r.1, ok := r.2 }] }

/-- A cluster or a global application group is sent if it is not synchronised. -/
def synchronize (s : State) (item : Item) : State :=
  if s.syncPending item then attempt bus a s item else s

def synchronizeGlobalApps (s : State) : State :=
  a.globalAppItems.foldl (synchronize bus a) s

def synchronizeZone (s : State) (z : ℕ) : State :=
  match a.zones[z]? with
  | none => s
  | some zone =>
    if zone.id = 0 ∨ zone.isConnected = false then s
    else (List.range zone.groups.length).foldl (fun s i =>
      if zone.groups[i]?.any fun g => isZoneUserGroup g.groupID then attempt bus a s (.group z i)
      else s) s

def synchronizeZones (s : State) : State :=
  (List.range a.zones.length).foldl (synchronizeZone bus a) s

def pass (s : State) (i : ℕ) : State :=
  synchronizeZones bus a (synchronizeGlobalApps bus a (synchronize bus a s (.cluster i)))

def synchronizeGroups : State :=
  (List.range a.clusters.length).foldl (pass bus a) { syncPending := a.syncPending }

end

/-! ## What is to be sent -/

namespace Apartment

variable (a : Apartment)

def zoneUserGroups (z : ℕ) : List Item :=
  match a.zones[z]? with
  | none => []
  | some zone =>
    if zone.id = 0 ∨ zone.isConnected = false then []
    else ((List.range zone.groups.length).filter fun i =>
      zone.groups[i]?.any fun g => isZoneUserGroup g.groupID).map (.group z)

def userGroups : List Item := (List.range a.zones.length).flatMap a.zoneUserGroups

def pendingGlobalApps : List Item :=
  a.globalAppItems.filter a.syncPending

def pendingClusters : List Item :=
  ((List.range a.clusters.length).map .cluster).filter a.syncPending

def wanted : List Item := a.pendingClusters ++ a.pendingGlobalApps ++ a.userGroups

end Apartment

/-- Each of them is sent exactly once and nothing else is; what went through is marked
and nothing else is. -/
structure Law (bus : Bus) (a : Apartment) (s : State) : Prop where
  once : s.sentItems.Perm a.wanted
  /-- what went through was sent as a whole, and what did not up to the error -/
  sent : ∀ attempt ∈ s.attempts, if attempt.ok then attempt.sent = a.calls attempt.item
    else ∃ before, attempt.sent <+: a.calls attempt.item ∧
      attempt.sent.getLast?.any (bus before) = true
  /-- exactly what went through is newly marked -/
  marked : ∀ item, s.syncPending item = true ↔ a.syncPending item = true ∧
    ∀ attempt ∈ s.attempts, attempt.item = item → attempt.ok = false
  /-- without errors, everything is marked -/
  complete : (∀ before call, bus before call = false) →
    ∀ item ∈ a.wanted, s.syncPending item = false

/-! ## Sending -/

variable {bus : Bus} {a : Apartment} {s : State} {item item' : Item} {before : List BusCall}
  {calls : List BusCall} {items : List Item}

theorem send_ok (h : (send bus before calls).2 = true) : (send bus before calls).1 = calls := by
  induction calls generalizing before with
  | nil => rfl
  | cons call calls ih =>
    rw [send] at h ⊢
    by_cases hraises : bus before call = true
    · rw [if_pos hraises] at h
      cases h
    · rw [if_neg hraises] at h ⊢
      exact congrArg (call :: ·) (ih h)

theorem send_error (h : (send bus before calls).2 = false) :
    (send bus before calls).1 <+: calls ∧
      ∃ before', (send bus before calls).1.getLast?.any (bus before') = true := by
  induction calls generalizing before with
  | nil => cases h
  | cons call calls ih =>
    rw [send] at h ⊢
    by_cases hraises : bus before call = true
    · rw [if_pos hraises]
      exact ⟨⟨calls, rfl⟩, before, hraises⟩
    · rw [if_neg hraises] at h ⊢
      obtain ⟨⟨rest, hrest⟩, before', hlast⟩ := ih h
      refine ⟨⟨rest, congrArg (call :: ·) hrest⟩, before', ?_⟩
      rw [getLast?_cons]
      rcases hsome : (send bus (before ++ [call]) calls).1.getLast? with - | last
      · rw [hsome] at hlast
        cases hlast
      · rw [hsome] at hlast
        exact hlast

theorem send_of_no_error (h : ∀ before call, bus before call = false) :
    (send bus before calls).2 = true := by
  induction calls generalizing before with
  | nil => rfl
  | cons call calls ih =>
    rw [send, if_neg (by rw [h]; exact Bool.false_ne_true)]
    exact ih

/-! ## What every attempt keeps -/

structure Sound (bus : Bus) (a : Apartment) (s : State) : Prop where
  sent : ∀ attempt ∈ s.attempts, if attempt.ok then attempt.sent = a.calls attempt.item
    else ∃ before, attempt.sent <+: a.calls attempt.item ∧
      attempt.sent.getLast?.any (bus before) = true
  marked : ∀ item, s.syncPending item = true ↔ a.syncPending item = true ∧
    ∀ attempt ∈ s.attempts, attempt.item = item → attempt.ok = false
  /-- without errors, everything goes through -/
  ok : (∀ before call, bus before call = false) → ∀ attempt ∈ s.attempts, attempt.ok = true

theorem Sound.start : Sound bus a { syncPending := a.syncPending } := by
  refine ⟨?_, fun item => ?_, ?_⟩
  · exact fun _ h => absurd h not_mem_nil
  · exact ⟨fun h => ⟨h, fun _ hmem => absurd hmem not_mem_nil⟩, fun h => h.1⟩
  · exact fun _ _ h => absurd h not_mem_nil

theorem Sound.attempt (h : Sound bus a s) (item : Item) : Sound bus a (attempt bus a s item) := by
  refine ⟨fun attempt hmem => ?_, fun item' => ?_, fun hbus attempt hmem => ?_⟩
  · rcases mem_append.mp hmem with hmem | hmem
    · exact h.sent attempt hmem
    · obtain rfl := mem_singleton.mp hmem
      rcases hok : (send bus s.sent (a.calls item)).2 with _ | _
      · obtain ⟨hpart, before, hlast⟩ := send_error hok
        exact ⟨before, hpart, hlast⟩
      · exact send_ok hok
  · have hsplit : (∀ attempt ∈ (Synchronize.attempt bus a s item).attempts,
        attempt.item = item' → attempt.ok = false) ↔
        (∀ attempt ∈ s.attempts, attempt.item = item' → attempt.ok = false) ∧
          (item = item' → (send bus s.sent (a.calls item)).2 = false) := by
      simp only [Synchronize.attempt, mem_append, mem_singleton, or_imp,
        forall_and, forall_eq]
    rw [hsplit, ← and_assoc, ← h.marked]
    rcases hok : (send bus s.sent (a.calls item)).2 with _ | _
    · simp [Synchronize.attempt, hok]
    · by_cases heq : item = item'
      · subst heq
        simp [Synchronize.attempt, hok]
      · simp [Synchronize.attempt, hok, heq, Function.update_of_ne (Ne.symm heq)]
  · rcases mem_append.mp hmem with hmem | hmem
    · exact h.ok hbus attempt hmem
    · obtain rfl := mem_singleton.mp hmem
      exact send_of_no_error hbus

theorem Sound.synchronize (h : Sound bus a s) (item : Item) :
    Sound bus a (synchronize bus a s item) := by
  rw [Synchronize.synchronize]
  split_ifs
  · exact h.attempt item
  · exact h

theorem Sound.foldl {β : Type} {f : State → β → State}
    (hf : ∀ s x, Sound bus a s → Sound bus a (f s x)) (h : Sound bus a s) (l : List β) :
    Sound bus a (l.foldl f s) := by
  induction l generalizing s with
  | nil => exact h
  | cons x l ih => exact ih (hf s x h)

theorem Sound.synchronizeZone (h : Sound bus a s) (z : ℕ) :
    Sound bus a (synchronizeZone bus a s z) := by
  rw [Synchronize.synchronizeZone]
  split
  · exact h
  · split_ifs
    · exact h
    · refine h.foldl (fun s i hs => ?_) _
      split_ifs
      · exact hs.attempt _
      · exact hs

theorem Sound.synchronizeGlobalApps (h : Sound bus a s) :
    Sound bus a (synchronizeGlobalApps bus a s) :=
  h.foldl (fun _ item hs => hs.synchronize item) _

theorem Sound.synchronizeZones (h : Sound bus a s) : Sound bus a (synchronizeZones bus a s) :=
  h.foldl (fun _ z hs => hs.synchronizeZone z) _

theorem sound_synchronizeGroups (bus : Bus) (a : Apartment) :
    Sound bus a (synchronizeGroups bus a) :=
  Sound.start.foldl (fun _ i hs =>
    (hs.synchronize (.cluster i)).synchronizeGlobalApps.synchronizeZones) _

/-! ## Which groups are sent -/

theorem items_attempt : (attempt bus a s item).sentItems = s.sentItems ++ [item] := by
  rw [State.sentItems, attempt, map_append]
  rfl

theorem items_synchronize :
    (synchronize bus a s item).sentItems = s.sentItems ++ [item].filter s.syncPending := by
  rw [synchronize]
  split_ifs with hpending
  · rw [items_attempt, filter_cons_of_pos hpending, filter_nil]
  · rw [filter_cons_of_neg hpending, filter_nil, append_nil]

theorem syncPending_attempt_of_ne (hne : item' ≠ item) :
    (attempt bus a s item).syncPending item' = s.syncPending item' := by
  dsimp only [attempt]
  split_ifs
  · exact Function.update_of_ne hne _ _
  · rfl

theorem syncPending_synchronize_of_ne (hne : item' ≠ item) :
    (synchronize bus a s item).syncPending item' = s.syncPending item' := by
  rw [synchronize]
  split_ifs
  · exact syncPending_attempt_of_ne hne
  · rfl

theorem filter_synchronize (h : item ∉ items) :
    items.filter (synchronize bus a s item).syncPending = items.filter s.syncPending :=
  filter_congr fun _ hmem =>
    syncPending_synchronize_of_ne fun heq => h (heq ▸ hmem)

theorem items_foldl_synchronize (hnodup : items.Nodup) :
    (items.foldl (synchronize bus a) s).sentItems = s.sentItems ++ items.filter s.syncPending := by
  induction items generalizing s with
  | nil => exact (append_nil _).symm
  | cons item items ih =>
    obtain ⟨hnew, hnodup⟩ := nodup_cons.mp hnodup
    rw [foldl_cons, ih hnodup, items_synchronize, filter_synchronize hnew,
      append_assoc, ← filter_append]
    rfl

theorem syncPending_foldl_synchronize (h : item ∉ items) :
    (items.foldl (synchronize bus a) s).syncPending item = s.syncPending item := by
  induction items generalizing s with
  | nil => rfl
  | cons item' items ih =>
    obtain ⟨hne, hnew⟩ := not_or.mp (mem_cons.not.mp h)
    rw [foldl_cons, ih hnew, syncPending_synchronize_of_ne hne]

theorem synchronizeZone_eq (z : ℕ) :
    synchronizeZone bus a s z = (a.zoneUserGroups z).foldl (attempt bus a) s := by
  rw [synchronizeZone, Apartment.zoneUserGroups]
  split
  · rfl
  · split_ifs
    · rfl
    · rw [foldl_map, foldl_filter]

theorem synchronizeZones_eq :
    synchronizeZones bus a s = a.userGroups.foldl (attempt bus a) s := by
  have hzone : synchronizeZone bus a = fun s z => (a.zoneUserGroups z).foldl (attempt bus a) s := by
    funext s z
    exact synchronizeZone_eq z
  rw [synchronizeZones, Apartment.userGroups, hzone, foldl_flatMap]

theorem items_synchronizeZones :
    (synchronizeZones bus a s).sentItems = s.sentItems ++ a.userGroups := by
  rw [synchronizeZones_eq]
  induction a.userGroups generalizing s with
  | nil => exact (append_nil _).symm
  | cons item items ih => rw [foldl_cons, ih, items_attempt, append_assoc]; rfl

theorem mem_userGroups (h : item ∈ a.userGroups) : ∃ z i, item = .group z i := by
  obtain ⟨z, -, hz⟩ := mem_flatMap.mp h
  rw [Apartment.zoneUserGroups] at hz
  split at hz
  · cases hz
  · split_ifs at hz
    · cases hz
    · obtain ⟨i, -, rfl⟩ := mem_map.mp hz
      exact ⟨z, i, rfl⟩

theorem syncPending_synchronizeZones (h : item ∉ a.userGroups) :
    (synchronizeZones bus a s).syncPending item = s.syncPending item := by
  rw [synchronizeZones_eq]
  generalize a.userGroups = items at h
  induction items generalizing s with
  | nil => rfl
  | cons item' items ih =>
    obtain ⟨hne, hnew⟩ := not_or.mp (mem_cons.not.mp h)
    rw [foldl_cons, ih hnew, syncPending_attempt_of_ne hne]

/-! ## One pass of the loop over the clusters -/

theorem nodup_globalAppItems : a.globalAppItems.Nodup :=
  nodup_range.map fun _ _ h => Item.globalApp.inj h

theorem cluster_not_mem_globalAppItems {i : ℕ} : Item.cluster i ∉ a.globalAppItems := by
  intro h
  obtain ⟨_, -, heq⟩ := mem_map.mp h
  cases heq

theorem cluster_not_mem_userGroups {i : ℕ} : Item.cluster i ∉ a.userGroups := by
  intro h
  obtain ⟨_, _, heq⟩ := mem_userGroups h
  cases heq

theorem not_mem_userGroups_of_mem (h : item ∈ a.globalAppItems) : item ∉ a.userGroups := by
  intro huser
  obtain ⟨_, _, rfl⟩ := mem_userGroups huser
  obtain ⟨_, -, heq⟩ := mem_map.mp h
  cases heq

/-- A pass sends the cluster and the global application groups that are not synchronised,
and all user groups. -/
theorem sentItems_pass (i : ℕ) :
    (pass bus a s i).sentItems = s.sentItems ++ [Item.cluster i].filter s.syncPending ++
      a.globalAppItems.filter s.syncPending ++ a.userGroups := by
  rw [pass, items_synchronizeZones, synchronizeGlobalApps,
    items_foldl_synchronize nodup_globalAppItems, items_synchronize,
    filter_synchronize cluster_not_mem_globalAppItems]

theorem syncPending_pass_cluster {i j : ℕ} (hne : j ≠ i) :
    (pass bus a s i).syncPending (.cluster j) = s.syncPending (.cluster j) := by
  rw [pass, syncPending_synchronizeZones cluster_not_mem_userGroups, synchronizeGlobalApps,
    syncPending_foldl_synchronize cluster_not_mem_globalAppItems,
    syncPending_synchronize_of_ne fun heq => hne (Item.cluster.inj heq)]

/-- A pass without user groups changes the global application groups as their loop
does. -/
theorem syncPending_pass_globalApp {i : ℕ} (h : item ∈ a.globalAppItems) :
    (pass bus a s i).syncPending item =
      (synchronizeGlobalApps bus a (synchronize bus a s (.cluster i))).syncPending item := by
  rw [pass, syncPending_synchronizeZones (not_mem_userGroups_of_mem h)]

/-! ## What the bus accepts -/

/-- Whether the bus raises no error when these are sent one after the other. -/
def accepts (bus : Bus) : List BusCall → List (List BusCall) → Bool
  | _, [] => true
  | before, calls :: rest =>
    (send bus before calls).2 && accepts bus (before ++ (send bus before calls).1) rest

theorem sent_attempt :
    (attempt bus a s item).sent = s.sent ++ (send bus s.sent (a.calls item)).1 := by
  rw [attempt]
  simp [State.sent]

theorem syncPending_attempt :
    (attempt bus a s item).syncPending item =
      if (send bus s.sent (a.calls item)).2 then false else s.syncPending item := by
  dsimp only [attempt]
  split_ifs
  · exact Function.update_self _ _ _
  · rfl

theorem foldl_synchronize_marks_iff (bus : Bus) (a : Apartment) (s : State)
    (hnodup : items.Nodup) :
    (∀ item ∈ items, (items.foldl (synchronize bus a) s).syncPending item = false) ↔
      accepts bus s.sent ((items.filter s.syncPending).map a.calls) = true := by
  induction items generalizing s with
  | nil => exact iff_of_true (fun _ h => absurd h not_mem_nil) rfl
  | cons item items ih =>
    obtain ⟨hnew, hnodup⟩ := nodup_cons.mp hnodup
    rw [forall_mem_cons, foldl_cons, syncPending_foldl_synchronize hnew, ih _ hnodup,
      filter_synchronize hnew, synchronize]
    rcases hpending : s.syncPending item with _ | _
    · simp [hpending]
    · rw [filter_cons_of_pos hpending, if_pos rfl, syncPending_attempt, sent_attempt,
        map_cons, accepts, hpending]
      rcases hok : (send bus s.sent (a.calls item)).2 with _ | _ <;> simp

def firstCalls (bus : Bus) (a : Apartment) : List BusCall :=
  if a.syncPending (.cluster 0) then (send bus [] (a.calls (.cluster 0))).1 else []

theorem sent_synchronize_cluster :
    (synchronize bus a { syncPending := a.syncPending } (.cluster 0)).sent = firstCalls bus a := by
  rw [synchronize, firstCalls]
  split_ifs
  · rw [sent_attempt]
    rfl
  · rfl

/-! ## The law -/

/-- One cluster; or no cluster and nothing else to be sent; or more clusters, no user
groups, and the bus accepts the global application groups behind the first cluster. -/
def BraceFits (bus : Bus) (a : Apartment) : Prop :=
  a.clusters.length = 1 ∨
    (a.clusters = [] ∧ a.pendingGlobalApps = [] ∧ a.userGroups = []) ∨
    (2 ≤ a.clusters.length ∧ a.userGroups = [] ∧
      accepts bus (firstCalls bus a) (a.pendingGlobalApps.map a.calls) = true)

theorem syncPending_pass_of_false {i : ℕ} (h : item ∈ a.globalAppItems)
    (hfalse : s.syncPending item = false) : (pass bus a s i).syncPending item = false := by
  have hattempt : ∀ {s : State} {item'}, s.syncPending item = false →
      (synchronize bus a s item').syncPending item = false := by
    intro s item' hs
    by_cases heq : item = item'
    · subst heq
      rw [synchronize, if_neg (by rw [hs]; exact Bool.false_ne_true)]
      exact hs
    · rw [syncPending_synchronize_of_ne heq]
      exact hs
  have hfold : ∀ {items : List Item} {s : State}, s.syncPending item = false →
      (items.foldl (synchronize bus a) s).syncPending item = false := by
    intro items
    induction items with
    | nil => exact fun hs => hs
    | cons item' items ih => exact fun hs => ih (hattempt hs)
  rw [syncPending_pass_globalApp h]
  exact hfold (hattempt hfalse)

theorem count_foldl_pass (h : item ∈ a.userGroups) (clusters : List ℕ) :
    (clusters.foldl (pass bus a) s).sentItems.count item =
      s.sentItems.count item + clusters.length * a.userGroups.count item := by
  have hcluster : ∀ i (s : State), ([Item.cluster i].filter s.syncPending).count item = 0 := by
    intro i s
    refine count_eq_zero.mpr fun hmem => cluster_not_mem_userGroups (i := i) (a := a) ?_
    rw [← mem_singleton.mp (mem_filter.mp hmem).1]
    exact h
  have hglobal : ∀ s : State, (a.globalAppItems.filter s.syncPending).count item = 0 :=
    fun s => count_eq_zero.mpr fun hmem =>
      not_mem_userGroups_of_mem (mem_filter.mp hmem).1 h
  induction clusters generalizing s with
  | nil => simp
  | cons i clusters ih =>
    rw [foldl_cons, ih, sentItems_pass, count_append, count_append,
      count_append, hcluster, hglobal, length_cons, Nat.succ_mul]
    omega

theorem sentItems_prefix_foldl_pass (bus : Bus) (a : Apartment) (s : State)
    (clusters : List ℕ) :
    s.sentItems <+: (clusters.foldl (pass bus a) s).sentItems := by
  induction clusters generalizing s with
  | nil => exact prefix_refl _
  | cons i clusters ih =>
    refine List.IsPrefix.trans ?_ (ih _)
    rw [sentItems_pass, append_assoc, append_assoc]
    exact prefix_append _ _

/-- Once the application groups are marked, and without user groups, only the clusters
are sent. -/
theorem sentItems_foldl_pass_of_marked (huser : a.userGroups = []) {clusters : List ℕ}
    (hnodup : clusters.Nodup) (hmarked : ∀ item ∈ a.globalAppItems, s.syncPending item = false) :
    (clusters.foldl (pass bus a) s).sentItems =
      s.sentItems ++ (clusters.map .cluster).filter s.syncPending := by
  induction clusters generalizing s with
  | nil => exact (append_nil _).symm
  | cons i clusters ih =>
    obtain ⟨hnew, hnodup⟩ := nodup_cons.mp hnodup
    have hglobal : a.globalAppItems.filter s.syncPending = [] :=
      filter_eq_nil_iff.mpr fun item hmem => by
        rw [hmarked item hmem]
        exact Bool.false_ne_true
    have hrest : (clusters.map Item.cluster).filter (pass bus a s i).syncPending =
        (clusters.map Item.cluster).filter s.syncPending := by
      refine filter_congr fun item hmem => ?_
      obtain ⟨j, hj, rfl⟩ := mem_map.mp hmem
      exact syncPending_pass_cluster fun heq => hnew (heq ▸ hj)
    rw [foldl_cons, ih hnodup fun item hmem => syncPending_pass_of_false hmem
      (hmarked item hmem), sentItems_pass, hglobal, huser, hrest, append_nil,
      append_nil, append_assoc, ← filter_append]
    rfl

theorem synchronizeGroups_eq {n : ℕ} (h : a.clusters.length = n + 1) :
    synchronizeGroups bus a =
      (List.range' 1 n).foldl (pass bus a) (pass bus a { syncPending := a.syncPending } 0) := by
  rw [synchronizeGroups, h, range_eq_range', range'_succ, foldl_cons]

theorem pendingClusters_eq {n : ℕ} (h : a.clusters.length = n + 1) :
    a.pendingClusters = [Item.cluster 0].filter a.syncPending ++
      ((List.range' 1 n).map .cluster).filter a.syncPending := by
  rw [Apartment.pendingClusters, h, range_eq_range', ← filter_append]
  rfl

/-- The application groups are marked after the first pass exactly if the bus accepts
them. -/
theorem marked_first_iff :
    (∀ item ∈ a.globalAppItems,
      (pass bus a { syncPending := a.syncPending } 0).syncPending item = false) ↔
      accepts bus (firstCalls bus a) (a.pendingGlobalApps.map a.calls) = true := by
  have hiff := foldl_synchronize_marks_iff bus a
    (synchronize bus a { syncPending := a.syncPending } (.cluster 0))
    (nodup_globalAppItems (a := a))
  rw [sent_synchronize_cluster, filter_synchronize cluster_not_mem_globalAppItems] at hiff
  rw [Apartment.pendingGlobalApps, ← hiff]
  refine forall₂_congr fun item hmem => ?_
  rw [syncPending_pass_globalApp hmem]
  rfl

theorem once_of_braceFits (h : BraceFits bus a) :
    (synchronizeGroups bus a).sentItems.Perm a.wanted := by
  rcases h with hone | ⟨hnone, hglobal, huser⟩ | ⟨htwo, huser, haccepts⟩
  · rw [synchronizeGroups_eq hone, Apartment.wanted, pendingClusters_eq hone, range'_zero,
      foldl_nil, sentItems_pass, map_nil, filter_nil, append_nil]
    exact List.Perm.refl _
  · have hclusters : a.pendingClusters = [] := by
      rw [Apartment.pendingClusters, hnone]
      rfl
    rw [synchronizeGroups, hnone, Apartment.wanted, hclusters, hglobal, huser]
    exact List.Perm.refl _
  · obtain ⟨n, hn⟩ : ∃ n, a.clusters.length = n + 1 := ⟨a.clusters.length - 1, by omega⟩
    have hrest : ((range' 1 n).map Item.cluster).filter
        (pass bus a { syncPending := a.syncPending } 0).syncPending =
        ((range' 1 n).map Item.cluster).filter a.syncPending := by
      refine filter_congr fun item hmem => ?_
      obtain ⟨j, hj, rfl⟩ := mem_map.mp hmem
      have hj1 := (mem_range'_1.mp hj).1
      exact syncPending_pass_cluster (by omega)
    rw [synchronizeGroups_eq hn, sentItems_foldl_pass_of_marked huser nodup_range'
      (marked_first_iff.2 haccepts), hrest, sentItems_pass, Apartment.wanted,
      pendingClusters_eq hn, huser, append_nil, append_nil]
    have hcomm : (a.pendingGlobalApps ++
        ((range' 1 n).map Item.cluster).filter a.syncPending).Perm
        (((range' 1 n).map Item.cluster).filter a.syncPending ++ a.pendingGlobalApps) :=
      perm_append_comm
    have hleft := hcomm.append_left ([Item.cluster 0].filter a.syncPending)
    rw [← append_assoc, ← append_assoc] at hleft
    exact hleft

theorem braceFits_of_once (h : (synchronizeGroups bus a).sentItems.Perm a.wanted) :
    BraceFits bus a := by
  by_cases hone : a.clusters.length = 1
  · exact Or.inl hone
  have huser : a.userGroups = [] := by
    refine eq_nil_iff_forall_not_mem.mpr fun item hmem => hone ?_
    have hcount := h.count_eq item
    have hclusters : a.pendingClusters.count item = 0 :=
      count_eq_zero.mpr fun hcluster => by
        obtain ⟨i, -, rfl⟩ := mem_map.mp (mem_filter.mp hcluster).1
        exact cluster_not_mem_userGroups hmem
    have hglobal : a.pendingGlobalApps.count item = 0 :=
      count_eq_zero.mpr fun hglobal =>
        not_mem_userGroups_of_mem (mem_filter.mp hglobal).1 hmem
    have hpos := count_pos_iff.mpr hmem
    rw [synchronizeGroups, count_foldl_pass hmem, Apartment.wanted, count_append,
      count_append, hclusters, hglobal, length_range] at hcount
    simp only [State.sentItems, map_nil, count_nil, Nat.zero_add] at hcount
    exact Nat.eq_of_mul_eq_mul_right hpos (hcount.trans (Nat.one_mul _).symm)
  rcases hclusters : a.clusters with - | ⟨c, cs⟩
  · refine Or.inr (Or.inl ⟨hclusters, ?_, huser⟩)
    rw [synchronizeGroups, hclusters] at h
    have hwanted := h.symm.eq_nil
    exact (append_eq_nil_iff.mp (append_eq_nil_iff.mp hwanted).1).2
  · have hlength : a.clusters.length = cs.length + 1 := by rw [hclusters, length_cons]
    refine Or.inr (Or.inr ⟨by omega, huser, marked_first_iff.1 fun item hmem => ?_⟩)
    by_contra hpending
    rw [Bool.not_eq_false] at hpending
    have hfirst : a.syncPending item = true := by
      by_contra hfalse
      rw [Bool.not_eq_true] at hfalse
      rw [syncPending_pass_of_false hmem hfalse] at hpending
      cases hpending
    -- the second pass sends it once more
    obtain ⟨n, hn⟩ : ∃ n, cs.length = n + 1 := ⟨cs.length - 1, by omega⟩
    rw [synchronizeGroups_eq hlength, hn, range'_succ, foldl_cons] at h
    have htwice := (sentItems_prefix_foldl_pass bus a
      (pass bus a (pass bus a { syncPending := a.syncPending } 0) 1)
      (range' (1 + 1) n)).sublist.count_le item
    rw [h.count_eq, sentItems_pass, sentItems_pass] at htwice
    have hone' := count_pos_iff.mpr (mem_filter.mpr ⟨hmem, hfirst⟩)
    have htwo' := count_pos_iff.mpr (mem_filter.mpr ⟨hmem, hpending⟩)
    have hle : a.pendingGlobalApps.count item ≤ 1 :=
      nodup_iff_count_le_one.mp (nodup_globalAppItems.filter _) item
    have hcluster : a.pendingClusters.count item = 0 :=
      count_eq_zero.mpr fun hcluster => by
        obtain ⟨i, -, rfl⟩ := mem_map.mp (mem_filter.mp hcluster).1
        exact cluster_not_mem_globalAppItems hmem
    rw [Apartment.wanted] at htwice
    simp only [count_append, hcluster] at htwice
    omega

/-- **Group synchronisation.** For every apartment and every bus, each configuration is
sent exactly once, and what went through is marked, exactly when the brace fits. -/
theorem law_iff_braceFits (bus : Bus) (a : Apartment) :
    Law bus a (synchronizeGroups bus a) ↔ BraceFits bus a := by
  constructor
  · exact fun h => braceFits_of_once h.once
  · intro h
    have hsound := sound_synchronizeGroups bus a
    have honce := once_of_braceFits h
    refine ⟨honce, hsound.sent, hsound.marked, fun hbus item hmem => ?_⟩
    obtain ⟨attempt, hattempt, rfl⟩ := mem_map.mp (honce.mem_iff.mpr hmem)
    by_contra hpending
    rw [Bool.not_eq_false, hsound.marked] at hpending
    have hok := hsound.ok hbus attempt hattempt
    rw [hpending.2 attempt hattempt rfl] at hok
    cases hok

def connectedZone : Zone := { id := 1, isConnected := true, groups := [{ groupID := 40 }] }

/-- Without clusters the user group is not sent. -/
theorem law_fails_without_clusters :
    ¬ ∀ (bus : Bus) (a : Apartment), Law bus a (synchronizeGroups bus a) := by
  intro h
  have honce := (h (fun _ _ => false)
    { clusters := [], globalApps := [], zones := [connectedZone] }).once
  exact absurd honce.length_eq (by decide)

end Synchronize

end Dss
