import Dss.UserGroups

/-!
# The life cycle of user groups

A group should be created exactly if there is none, and removed exactly if there is one. As a group
that is looked for is always taken to be found, no group is ever created; and one that does not
exist is removed like one that does.
-/

namespace Dss

open Throwing Throwing.Statement

namespace UserGroups

open JokerGroup

/-- The ids of the groups that a user may have: of a zone, of the apartment as a cluster, and of
the apartment as a global application. -/
def isUserGroup (id : ℕ) : Bool :=
  isZoneUserGroup id || isAppUserGroup id || isGlobalAppUserGroup id

structure CreateLaw (zone : Zone) (id : ℕ) (result : Zone × Option Failure) : Prop where
  adds : zone.getGroup id = none → result.2 = none ∧
    ∃ group : ZoneGroup, group.base.groupID = id ∧ result.1.groups = zone.groups ++ [group]
  /-- one that is present is complained about -/
  refuses : zone.getGroup id ≠ none → result.2 = some (alreadyExists id)
  atomic : result.2 ≠ none → result.1.groups = zone.groups

structure RemoveLaw (zone : Zone) (id : ℕ) (result : Zone × Option Failure) : Prop where
  removes : ∀ group, zone.getGroup id = some group →
    result.2 = none ∧ result.1.groups = zone.groups.erase group
  /-- one that is absent is complained about -/
  refuses : zone.getGroup id = none →
    result.2 = some (doesNotExist id) ∨ result.2 = some (clusterDoesNotExist id)
  atomic : result.2 ≠ none → result.1.groups = zone.groups

/-- When creating a group ends as it should: there is one already, of a zone or among the global
applications of zone 0. -/
def CreateFits (zone : Zone) (id : ℕ) : Prop :=
  zone.getGroup id ≠ none ∧
    (isZoneUserGroup id = true ∨ isGlobalAppUserGroup id = true ∧ zone.id = 0)

/-- When removing a group ends as it should: there is one, of a zone or among the global
applications of zone 0, and the bus throws nothing but its own errors; or it is a cluster that
zone 0 does not have. -/
def RemoveFits (zone : Zone) (id : ℕ) (bus : Option BusError) : Prop :=
  if isAppUserGroup id then zone.id = 0 ∧ zone.getGroup id = none
  else (isGlobalAppUserGroup id = true → zone.id = 0) ∧ zone.getGroup id ≠ none ∧
    ∀ text, bus ≠ some (.other text)

variable {id : ℕ} {zone : Zone} {t : Option ApplicationType} {name : String}
  {bus : Option BusError}

/-! ## The texts differ -/

theorem text_ne {p q : String} (h : ∀ x y : List Char, p.toList ++ x ≠ q.toList ++ y)
    {x y : String} : Failure.dssException (p ++ x) ≠ .dssException (q ++ y) := by
  intro heq
  have htext := congrArg String.toList (Failure.dssException.inj heq)
  rw [String.toList_append, String.toList_append] at htext
  exact h _ _ htext

theorem onlyInZone0_ne : onlyInZone0 id ≠ alreadyExists id ∧ onlyInZone0 id ≠ doesNotExist id ∧
    onlyInZone0 id ≠ clusterDoesNotExist id := by
  rw [onlyInZone0, alreadyExists, doesNotExist, clusterDoesNotExist]
  simp only [String.append_assoc]
  refine ⟨text_ne fun x y h => ?_, text_ne fun x y h => ?_, text_ne fun x y h => ?_⟩
  · cases h
  · cases h
  · cases h

/-! ## What the functions do -/

theorem not_reserved (h : isUserGroup id = true) :
    (isDefaultGroup id || isGlobalAppDsGroup id) = false := by
  rw [isUserGroup, Bool.or_eq_true, Bool.or_eq_true, isZoneUserGroup_iff, isAppUserGroup_iff,
    isGlobalAppUserGroup_iff] at h
  rw [Bool.eq_false_iff, ne_eq, isReserved_iff]
  omega

theorem range_cases (h : isUserGroup id = true) :
    (isAppUserGroup id = true ∧ isZoneUserGroup id = false ∧ isGlobalAppUserGroup id = false) ∨
    (isAppUserGroup id = false ∧ isZoneUserGroup id = true ∧ isGlobalAppUserGroup id = false) ∨
    (isAppUserGroup id = false ∧ isZoneUserGroup id = false ∧ isGlobalAppUserGroup id = true) := by
  simp only [isUserGroup, Bool.or_eq_true, Bool.eq_false_iff, ne_eq, isZoneUserGroup_iff,
    isAppUserGroup_iff, isGlobalAppUserGroup_iff] at h ⊢
  omega

/-- What a bus call throws that is not a `BusApiError`. -/
def passed : Option BusError → Option Failure
  | some (.other text) => some (.otherBusError text)
  | some (.busApiError _) | none => none

theorem passed_eq_none : passed bus = none ↔ ∀ text, bus ≠ some (.other text) := by
  rcases bus with - | e
  · simp [passed]
  · cases e with
    | busApiError text => simp [passed]
    | other text => simp [passed]

theorem catching_call : catching Failure.isBusApiError (call bus) zone = (zone, passed bus) := by
  rcases bus with - | e
  · rfl
  · cases e with
    | busApiError text => rfl
    | other text => rfl

theorem removeFound_of_some {group : ZoneGroup} (h : zone.getGroup id = some group) :
    (removeFound id bus zone).1.groups = zone.groups.erase group ∧
      (removeFound id bus zone).2 = passed bus := by
  have hskip : handling Failure.isItemNotFound skip (raise (doesNotExist id)) zone =
      (zone, none) := rfl
  rw [removeFound, andThen_of_ok hskip, inspect_apply, h]
  have hremove : ∃ after : Zone, zoneRemoveGroup (some group) zone = (after, none) ∧
      after.groups = zone.groups.erase group := by
    rcases hnodes : zone.groupNodes with - | nodes
    · refine ⟨{ zone with groups := zone.groups.erase group }, ?_, rfl⟩
      rw [zoneRemoveGroup, andThen_of_ok (change_apply ..), hnodes]
      rfl
    · refine ⟨{ zone with
        groups := zone.groups.erase group
        groupNodes := some (nodes.erase group.base.groupID) }, ?_, rfl⟩
      rw [zoneRemoveGroup, andThen_of_ok (change_apply ..), hnodes]
      rfl
  obtain ⟨after, hafter, hgroups⟩ := hremove
  have hcall : catching Failure.isBusApiError
      (andThen (zoneRemoveGroup (some group)) (call bus)) zone = (after, passed bus) := by
    rw [← catching_call, catching, catching, andThen_of_ok hafter]
  rw [hcall]
  exact ⟨hgroups, rfl⟩

theorem removeFound_of_none (h : zone.getGroup id = none) :
    (removeFound id bus zone).2 =
      if zone.groupNodes = none then passed bus else some .nullDereference := by
  have hskip : handling Failure.isItemNotFound skip (raise (doesNotExist id)) zone =
      (zone, none) := rfl
  rw [removeFound, andThen_of_ok hskip, inspect_apply, h]
  obtain ⟨zoneID, groups, nodes⟩ := zone
  rcases nodes with - | nodes
  · have hremove : zoneRemoveGroup none ⟨zoneID, groups, none⟩ =
        (⟨zoneID, groups, none⟩, none) := rfl
    rw [if_pos rfl, catching, andThen_of_ok hremove, ← catching, catching_call]
  · rfl

theorem passed_ne {text : String} : passed bus ≠ some (.dssException text) := by
  rcases bus with - | e
  · simp [passed]
  · cases e with
    | busApiError text => simp [passed]
    | other text => simp [passed]

theorem removeFound_ne {text : String} (h : zone.getGroup id = none) :
    (removeFound id bus zone).2 ≠ some (.dssException text) := by
  rw [removeFound_of_none h]
  split_ifs
  · exact passed_ne
  · simp

theorem catching_modifyGroup {f : ZoneGroup → ZoneGroup} :
    catching (fun e => e.isItemNotFound || e.isBusApiError)
        ((modifyGroup id f).andThen (call bus)) zone =
      ((modifyGroup id f zone).1, passed bus) := by
  rcases bus with - | e
  · rfl
  · cases e with
    | busApiError text => rfl
    | other text => rfl

theorem withCluster_of_cluster {x : Cluster → Action} {c : Cluster}
    (h : zone.getGroup id = some (.cluster c)) : withCluster id x zone = x c zone := by
  rw [withCluster, inspect_apply, h]

theorem withCluster_of_others {x : Cluster → Action}
    (h : ∀ c, zone.getGroup id ≠ some (.cluster c)) :
    withCluster id x zone = (zone, some (.itemNotFound (toString id))) := by
  rw [withCluster, inspect_apply]
  rcases hgroup : zone.getGroup id with - | g | c
  · rfl
  · rfl
  · exact absurd hgroup (h c)

/-! ## The laws -/

theorem createLaw_createUnlessFound {group : ZoneGroup} :
    CreateLaw zone id (createUnlessFound id group bus zone) ↔ zone.getGroup id ≠ none := by
  constructor
  · intro h hnone
    cases (h.adds hnone).1
  · intro h
    exact ⟨fun hnone => absurd hnone h, fun _ => rfl, fun _ => rfl⟩

theorem removeLaw_removeFound : RemoveLaw zone id (removeFound id bus zone) ↔
    zone.getGroup id ≠ none ∧ ∀ text, bus ≠ some (.other text) := by
  rcases hgroup : zone.getGroup id with - | group
  · constructor
    · intro h
      obtain hend | hend := h.refuses hgroup
      · exact absurd hend (removeFound_ne hgroup)
      · exact absurd hend (removeFound_ne hgroup)
    · rintro ⟨hnone, -⟩
      exact absurd rfl hnone
  · obtain ⟨hgroups, hend⟩ : (removeFound id bus zone).1.groups = zone.groups.erase group ∧
        (removeFound id bus zone).2 = passed bus := removeFound_of_some hgroup
    constructor
    · intro h
      refine ⟨Option.some_ne_none _, passed_eq_none.1 ?_⟩
      rw [← hend]
      exact (h.removes group hgroup).1
    · rintro ⟨-, hbus⟩
      rw [passed_eq_none.2 hbus] at hend
      refine ⟨fun other hother => ?_, fun hnone => ?_, fun hthrow => absurd hend hthrow⟩
      · rw [hgroup] at hother
        rw [← Option.some.inj hother]
        exact ⟨hend, hgroups⟩
      · rw [hgroup] at hnone
        cases hnone

theorem not_createLaw_onlyInZone0 : ¬ CreateLaw zone id (zone, some (onlyInZone0 id)) := by
  intro h
  by_cases hnone : zone.getGroup id = none
  · cases (h.adds hnone).1
  · exact onlyInZone0_ne.1 (Option.some.inj (h.refuses hnone))

theorem not_removeLaw_onlyInZone0 : ¬ RemoveLaw zone id (zone, some (onlyInZone0 id)) := by
  intro h
  rcases hgroup : zone.getGroup id with - | group
  · obtain hend | hend := h.refuses hgroup
    · exact onlyInZone0_ne.2.1 (Option.some.inj hend)
    · exact onlyInZone0_ne.2.2 (Option.some.inj hend)
  · cases (h.removes group hgroup).1

/-! ## Clusters -/

/-- The cluster branch of `createGroup` in zone 0. -/
def configureCluster (id : ℕ) (f : ZoneGroup → ZoneGroup) (bus : Option BusError) : Action :=
  catching (fun e => e.isItemNotFound || e.isBusApiError) <| withCluster id fun _ =>
    (modifyGroup id f).andThen (call bus)

/-- The cluster branch of `removeGroup` in zone 0. -/
def releaseCluster (id : ℕ) (bus : Option BusError) : Action :=
  handling Failure.isItemNotFound
    (withCluster id fun cluster =>
      if cluster.configurationLocked then raise locked
      else
        catching (fun e => e.isItemNotFound || e.isBusApiError) <|
          (modifyGroup id resetCluster).andThen (call bus))
    (raise (clusterDoesNotExist id))

theorem not_createLaw_configureCluster {f : ZoneGroup → ZoneGroup} :
    ¬ CreateLaw zone id (configureCluster id f bus zone) := by
  intro h
  by_cases hcluster : ∃ c, zone.getGroup id = some (.cluster c)
  · obtain ⟨c, hc⟩ := hcluster
    have hend := h.refuses (by rw [hc]; exact Option.some_ne_none _)
    rw [configureCluster, catching, withCluster_of_cluster hc, ← catching,
      catching_modifyGroup] at hend
    exact passed_ne hend
  · have hend : configureCluster id f bus zone = (zone, none) := by
      rw [configureCluster, catching,
        withCluster_of_others fun c hc => hcluster ⟨c, hc⟩]
      rfl
    rw [hend] at h
    by_cases hnone : zone.getGroup id = none
    · obtain ⟨-, group, -, hgroups⟩ := h.adds hnone
      exact absurd hgroups.symm (by simp)
    · cases h.refuses hnone

theorem length_modifyGroup {f : ZoneGroup → ZoneGroup} :
    (modifyGroup id f zone).1.groups.length = zone.groups.length :=
  List.length_map ..

theorem releaseCluster_of_unlocked {c : Cluster} (h : zone.getGroup id = some (.cluster c))
    (hlocked : ¬ c.configurationLocked = true) :
    releaseCluster id bus zone = ((modifyGroup id resetCluster zone).1, passed bus) := by
  rw [releaseCluster, handling, withCluster_of_cluster h, if_neg hlocked]
  rcases bus with - | e
  · rfl
  · cases e with
    | busApiError text => rfl
    | other text => rfl

theorem removeLaw_releaseCluster :
    RemoveLaw zone id (releaseCluster id bus zone) ↔ zone.getGroup id = none := by
  constructor
  · intro h
    rcases hgroup : zone.getGroup id with - | g | c
    · rfl
    · have hend : (releaseCluster id bus zone).2 = some (clusterDoesNotExist id) := by
        rw [releaseCluster, handling_of_throw (withCluster_of_others fun c hc => by
          rw [hgroup] at hc
          cases hc)]
        rfl
      rw [(h.removes _ hgroup).1] at hend
      cases hend
    · obtain ⟨hend, hgroups⟩ := h.removes _ hgroup
      by_cases hlocked : c.configurationLocked = true
      · rw [releaseCluster, handling, withCluster_of_cluster hgroup, if_pos hlocked] at hend
        cases hend
      · rw [releaseCluster_of_unlocked hgroup hlocked] at hgroups
        -- a reset cluster is still one of the groups
        have hlength := congrArg List.length hgroups
        have hmem := (KeyedList.key_of_find? hgroup).1
        have hpos := List.length_pos_of_mem hmem
        rw [List.length_erase_of_mem hmem, length_modifyGroup] at hlength
        omega
  · intro hnone
    have hend : releaseCluster id bus zone = (zone, some (clusterDoesNotExist id)) := by
      rw [releaseCluster, handling_of_throw (withCluster_of_others fun c hc => by
        rw [hnone] at hc
        cases hc)]
      rfl
    rw [hend]
    refine ⟨fun group hgroup => ?_, fun _ => Or.inr rfl, fun _ => rfl⟩
    rw [hnone] at hgroup
    cases hgroup

/-! ## The life cycle -/

theorem createLaw_iff (h : isUserGroup id = true) :
    CreateLaw zone id (createGroup id t name bus zone) ↔ CreateFits zone id := by
  rw [createGroup, inspect_apply, not_reserved h, if_neg Bool.false_ne_true, CreateFits]
  rcases range_cases h with ⟨hcluster, huser, hglobal⟩ | ⟨hcluster, huser, hglobal⟩ |
      ⟨hcluster, huser, hglobal⟩
  · rw [huser, hglobal]
    refine iff_of_false ?_ fun hfits => ?_
    · split_ifs with hzone
      · exact not_createLaw_onlyInZone0
      · exact not_createLaw_configureCluster
    · obtain ⟨-, hrange | hrange⟩ := hfits
      · cases hrange
      · cases hrange.1
  · rw [if_neg (Bool.eq_false_iff.mp hcluster), if_pos huser, createLaw_createUnlessFound]
    exact ⟨fun hfound => ⟨hfound, Or.inl huser⟩, fun hfits => hfits.1⟩
  · rw [if_neg (Bool.eq_false_iff.mp hcluster), if_neg (Bool.eq_false_iff.mp huser),
      if_pos hglobal]
    by_cases hzone : zone.id = 0
    · rw [if_neg (not_not_intro hzone), createLaw_createUnlessFound]
      exact ⟨fun hfound => ⟨hfound, Or.inr ⟨hglobal, hzone⟩⟩, fun hfits => hfits.1⟩
    · rw [if_pos hzone]
      refine iff_of_false not_createLaw_onlyInZone0 fun hfits => ?_
      obtain ⟨-, hrange | hrange⟩ := hfits
      · rw [huser] at hrange
        cases hrange
      · exact hzone hrange.2

theorem removeLaw_iff (h : isUserGroup id = true) :
    RemoveLaw zone id (removeGroup id bus zone) ↔ RemoveFits zone id bus := by
  rw [removeGroup, inspect_apply, not_reserved h, if_neg Bool.false_ne_true, RemoveFits]
  rcases range_cases h with ⟨hcluster, huser, hglobal⟩ | ⟨hcluster, huser, hglobal⟩ |
      ⟨hcluster, huser, hglobal⟩
  · rw [if_pos hcluster, if_pos hcluster]
    by_cases hzone : zone.id = 0
    · rw [if_neg (not_not_intro hzone)]
      exact removeLaw_releaseCluster.trans (and_iff_right hzone).symm
    · rw [if_pos hzone]
      exact iff_of_false not_removeLaw_onlyInZone0 fun hfits => hzone hfits.1
  · have hnot := Bool.eq_false_iff.mp hcluster
    rw [if_neg hnot, if_pos huser, if_neg hnot, removeLaw_removeFound, hglobal]
    exact (and_iff_right fun hrange => nomatch hrange).symm
  · have hnot := Bool.eq_false_iff.mp hcluster
    rw [if_neg hnot, if_neg (Bool.eq_false_iff.mp huser), if_pos hglobal]
    by_cases hzone : zone.id = 0
    · rw [if_neg (not_not_intro hzone), if_neg hnot, removeLaw_removeFound]
      exact (and_iff_right fun _ => hzone).symm
    · rw [if_pos hzone, if_neg hnot]
      exact iff_of_false not_removeLaw_onlyInZone0 fun hfits => hzone (hfits.1 hglobal)

/-- **The life cycle of user groups.** A group is created and removed as it should be exactly in
these cases. -/
theorem life_cycle_iff (zone : Zone) (id : ℕ) (t : Option ApplicationType) (name : String)
    (bus bus' : Option BusError) (h : isUserGroup id = true) :
    (CreateLaw zone id (createGroup id t name bus zone) ↔ CreateFits zone id) ∧
      (RemoveLaw zone id (removeGroup id bus' zone) ↔ RemoveFits zone id bus') :=
  ⟨createLaw_iff h, removeLaw_iff h⟩

def kitchen : Zone where
  id := 5
  groups := [.group { groupID := 40, name := "lamps" }]
  groupNodes := some [40]

/-- There, the group cannot be created again, and can be removed. -/
theorem life_cycle_iff_kitchen :
    CreateLaw kitchen 40 (createGroup 40 none "lamps" none kitchen) ∧
      RemoveLaw kitchen 40 (removeGroup 40 none kitchen) := by
  have h := life_cycle_iff kitchen 40 none "lamps" none none (by decide)
  exact ⟨h.1.mpr ⟨by decide, Or.inl rfl⟩, h.2.mpr (by
    exact ⟨by decide, by decide, fun _ => nofun⟩)⟩

def attic : Zone where
  id := 6
  groups := []
  groupNodes := some []

/-- There, a group cannot be created, and removing it dereferences a null pointer. -/
theorem life_cycle_fails :
    (createGroup 40 none "lamps" none attic = (attic, some (alreadyExists 40)) ∧
      removeGroup 40 none attic = (attic, some .nullDereference)) ∧
    ¬ ∀ (zone : Zone) (id : ℕ) (t : Option ApplicationType) (name : String)
      (bus bus' : Option BusError), isUserGroup id = true →
        CreateLaw zone id (createGroup id t name bus zone) ∧
          RemoveLaw zone id (removeGroup id bus' zone) := by
  have hcreate : createGroup 40 none "lamps" none attic =
      (attic, some (alreadyExists 40)) := rfl
  refine ⟨⟨hcreate, rfl⟩, fun h => ?_⟩
  have hend := ((h attic 40 none "lamps" none none (by decide)).1.adds rfl).1
  cases hend

end UserGroups

end Dss
