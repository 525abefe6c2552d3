import Dss.JokerGroup
import Dss.KeyedList
import Dss.SystemTrigger

/-!
# Creation of a group

The request `addGroup` looks for a group id in one of three ranges, or is given one, and hands it on
together with a group. For the clusters of zone 0 it looks for one without an application type. For
the user groups and the user global applications it finds the first group there is, and the loop
increments the id once more behind it. Without a group the request fails; with one, `createGroup`
finds that the group exists.

The bus is left out: what it throws when a cluster is created is logged.
-/

namespace Dss

namespace GroupCreation

open JokerGroup

/-! ## The apartment -/

def escapeHTML (input : String) : String :=
  String.ofList (input.toList.flatMap fun
    | '&' => "&amp;".toList
    | '"' => "&quot;".toList
    | '\'' => "&#039;".toList
    | '<' => "&lt;".toList
    | '>' => "&gt;".toList
    | c => [c])

/-- `Apartment::getZone` -/
def getZone (a : JokerGroup.Apartment) (id : ℤ) : Except Exception Zone :=
  match if 0 ≤ id then a.tryGetZone id.toNat else none with
  | some zone => .ok zone
  | none => .error (.itemNotFound (toString id))

/-- `Zone::getGroup`, as something that might throw. -/
def getGroup (zone : Zone) (id : ℕ) : Except Exception (Option ZoneGroup) := .ok (zone.getGroup id)

/-- `Zone::addGroup`. The groups behind the ventilation of the apartment are not added. -/
def addGroup (group : ZoneGroup) (zone : Zone) : Zone :=
  if groupIDGlobalAppDsVentilation < group.base.groupID then zone
  else { zone with groups := zone.groups ++ [group] }

def modifyZone (id : ℕ) (f : Zone → Zone) (a : JokerGroup.Apartment) : JokerGroup.Apartment :=
  { a with zones := KeyedList.modify Zone.id id f a.zones }

/-- `setName` and `setApplicationType` -/
def setNameAndType (name : String) (t : Option ApplicationType) : ZoneGroup → ZoneGroup
  | .group g => .group ({ g with name := name }.setApplicationType t)
  | .cluster c =>
    .cluster { c with toGroup := { c.toGroup with name := name }.setApplicationType t }

def setGroup (id : ℕ) (name : String) (t : Option ApplicationType) (zone : Zone) : Zone :=
  { zone with
    groups := KeyedList.modify (fun group => group.base.groupID) id (setNameAndType name t)
      zone.groups }

def getCluster (a : JokerGroup.Apartment) (id : ℕ) : Except Exception Cluster :=
  if isAppUserGroup id then
    match getZone a 0 with
    | .error e => .error e
    | .ok zone =>
      match zone.getGroup id with
      | some (.cluster c) => .ok c
      | _ => .error (.itemNotFound (toString id))
  else .error (.itemNotFound (toString id))

/-! ## The structure manipulator -/

/-- What `createGroup` says of a group that exists. -/
def alreadyExists (id : ℕ) : Exception :=
  .runtimeError ("Group id " ++ toString id ++ " already exists")

def onlyInZone0 (id : ℕ) : Exception :=
  .runtimeError ("Group with id " ++ toString id ++ " only allowed in Zone 0")

def createGroup (zone : Zone) (id : ℕ) (t : Option ApplicationType) (name : String)
    (a : JokerGroup.Apartment) : Except Exception JokerGroup.Apartment :=
  if isDefaultGroup id || isGlobalAppDsGroup id then
    .error (.runtimeError ("Group with id " ++ toString id ++ " is reserved"))
  else if isAppUserGroup id then
    if zone.id ≠ 0 then .error (onlyInZone0 id)
    else
      match getCluster a id with
      | .ok _ => .ok (modifyZone 0 (setGroup id name t) a)
      -- a cluster that is not found is logged
      | .error _ => .ok a
  else if isZoneUserGroup id then
    match getGroup zone id with
    | .ok _ => .error (alreadyExists id)
    | .error _ => .ok (modifyZone zone.id (addGroup (.group { groupID := id })) a)
  else if isGlobalAppUserGroup id then
    if zone.id ≠ 0 then .error (onlyInZone0 id)
    else
      match getGroup zone id with
      | .ok _ => .error (alreadyExists id)
      | .error _ =>
        .ok (modifyZone 0 (addGroup (.group
          (({ groupID := id, name := name } : Group).setApplicationType t))) a)
  else .error (.runtimeError ("Create group: id " ++ toString id ++ " too large"))

/-! ## The request -/

/-- The parameters of `addGroup`. -/
structure Request : Type where
  zoneID : Option String := none
  groupID : Option String := none
  groupAutoSelect : Option String := none
  groupName : Option String := none
  groupColor : Option String := none

/-- How the request ends. -/
inductive Answer : Type where
  | ok (groupID : ℕ) (zoneID : ℕ) (groupName : String) (groupColor : ℤ) : Answer
  /-- `JSONWriter::failure` -/
  | failure (message : String) : Answer
  | thrown (e : Exception) : Answer
  | nullPointer : Answer
  deriving DecidableEq

namespace Request

def name (r : Request) : String := (r.groupName.map escapeHTML).getD ""

/-- `groupColor` -/
def color (r : Request) : ℤ := (r.groupColor.map fun text => strToIntDef text 0).getD 0

def applicationType (r : Request) : Option ApplicationType := castApplicationType r.color

end Request

/-- The loops for the user groups and the user global applications, from an id on for so many
ids: the group that ends it, and the id behind it. -/
def firstGroup (zone : Zone) : ℕ → ℕ → ℕ × Option ZoneGroup
  | id, 0 => (id, none)
  | id, n + 1 =>
    match zone.getGroup id with
    | some group => (id + 1, some group)
    | none => firstGroup zone (id + 1) n

def firstWithoutType (zone : Zone) : ℕ → ℕ → Option ZoneGroup →
    Except Answer (ℕ × Option ZoneGroup)
  | id, 0, group => .ok (id, group)
  | id, n + 1, _ =>
    match zone.getGroup id with
    | none => .error .nullPointer
    | some group =>
      if group.base.applicationType = .none then .ok (id, some group)
      else firstWithoutType zone (id + 1) n (some group)

/-- What is to be created: one of the ranges, or an id. -/
inductive Selection : Type where
  /-- `user`, and any other text -/
  | user : Selection
  | global : Selection
  | globalApp : Selection
  /-- `groupID` -/
  | explicit (id : ℕ) : Selection
  deriving DecidableEq

def select (zone : Zone) (r : Request) : Except Answer Selection :=
  match r.groupID, r.groupAutoSelect with
  | some text, _ =>
    let id := strToIntDef text (-1)
    if id < 0 then .error (.failure ("Parameter GroupID '" ++ text ++ "' is not valid"))
    else if (zone.getGroup id.toNat).isSome then
      .error (.failure ("Group with ID " ++ text ++ " already exists"))
    else .ok (.explicit id.toNat)
  | none, some text =>
    .ok (if text = "global" then .global else if text = "globalApp" then .globalApp else .user)
  | none, none => .error (.failure "Parameter groupID or groupAutoSelect missing")

def search (zone : Zone) : Selection → Except Answer (ℕ × Option ZoneGroup)
  | .explicit id => .ok (id, none)
  | .user =>
    .ok (firstGroup zone groupIDUserGroupStart (groupIDUserGroupEnd - groupIDUserGroupStart))
  | .global =>
    if zone.id ≠ 0 then .error (.failure "Apartment user groups only allowed in Zone 0")
    else
      match firstWithoutType zone groupIDAppUserMin
          (groupIDAppUserMax + 1 - groupIDAppUserMin) none with
      | .error answer => .error answer
      | .ok (id, group) =>
        match group with
        | none => .error .nullPointer
        | some group =>
          .ok (id, if group.base.applicationType ≠ .none then none else some group)
  | .globalApp =>
    if zone.id ≠ 0 then .error (.failure "Global application groups only allowed in Zone 0")
    else .ok (firstGroup zone groupIDGlobalAppUserMin
      (groupIDGlobalAppUserMax - groupIDGlobalAppUserMin))

def create (zone : Zone) (r : Request) (a : JokerGroup.Apartment) :
    Except Answer (ℕ × Option ZoneGroup) → Answer × JokerGroup.Apartment
  | .error answer => (answer, a)
  | .ok (_, none) => (.failure "No free user groups", a)
  | .ok (id, some _) =>
    match createGroup zone id r.applicationType r.name a with
    | .error e => (.thrown e, a)
    | .ok a => (.ok id zone.id r.name r.color, a)

/-- `addGroup` in a zone -/
def addGroupInZone (zone : Zone) (r : Request) (a : JokerGroup.Apartment) :
    Answer × JokerGroup.Apartment :=
  match select zone r with
  | .error answer => (answer, a)
  | .ok selection => create zone r a (search zone selection)

def zoneOf (r : Request) (a : JokerGroup.Apartment) : Except Answer Zone :=
  match r.zoneID with
  | none => .error (.failure "Parameter zoneID missing or empty: ''")
  | some text =>
    match getZone a (strToIntDef text (-1)) with
    | .error e => .error (.thrown e)
    | .ok zone => .ok zone

/-- `StructureRequestHandler::addGroup` -/
def handleAddGroup (r : Request) (a : JokerGroup.Apartment) : Answer × JokerGroup.Apartment :=
  match zoneOf r a with
  | .error answer => (answer, a)
  | .ok zone => addGroupInZone zone r a

/-! ## What is promised -/

def range : Selection → List ℕ
  | .user => List.range' groupIDUserGroupStart (groupIDUserGroupEnd + 1 - groupIDUserGroupStart)
  | .global => List.range' groupIDAppUserMin (groupIDAppUserMax + 1 - groupIDAppUserMin)
  | .globalApp =>
    List.range' groupIDGlobalAppUserMin (groupIDGlobalAppUserMax + 1 - groupIDGlobalAppUserMin)
  | .explicit id => [id]

def isCreatable (zone : Zone) (id : ℕ) : Bool :=
  isZoneUserGroup id || (decide (zone.id = 0) && (isAppUserGroup id || isGlobalAppUserGroup id))

def IsFree (zone : Zone) : Selection → ℕ → Prop
  | .user, id | .globalApp, id => zone.getGroup id = none
  | .global, id => ∃ c, zone.getGroup id = some (.cluster c) ∧ c.applicationType = .none
  | .explicit _, id => isCreatable zone id = true ∧ zone.getGroup id = none

def Denotes (a : JokerGroup.Apartment) (zoneID id : ℕ) (name : String)
    (t : Option ApplicationType) : Prop :=
  ∃ zone group, a.tryGetZone zoneID = some zone ∧ zone.getGroup id = some group ∧
    group.base.name = name ∧ some group.base.applicationType = t

def IsOk (answer : Answer) : Prop := ∃ id zoneID name color, answer = .ok id zoneID name color

structure Selects (zone : Zone) (r : Request) (selection : Selection) (a : JokerGroup.Apartment)
    (result : Answer × JokerGroup.Apartment) : Prop where
  succeeds : IsOk result.1 ↔ ∃ id ∈ range selection, IsFree zone selection id
  reported : ∀ id zoneID name color, result.1 = .ok id zoneID name color →
    (id ∈ range selection ∧ IsFree zone selection id) ∧
      Denotes result.2 zone.id id r.name r.applicationType
  unchanged : ¬ IsOk result.1 → result.1 ≠ .nullPointer ∧ result.2 = a

def HasType (zone : Zone) (id : ℕ) : Prop :=
  ∃ group, zone.getGroup id = some group ∧ group.base.applicationType ≠ .none

/-- When the promise is kept: there is nothing free, or the selection is `global` in zone 0, all
clusters below the first free one have types, and the one that is asked for exists. -/
def Fits (zone : Zone) (r : Request) (selection : Selection) : Prop :=
  if selection = .global ∧ zone.id = 0 then
    (∀ id ∈ range .global, HasType zone id) ∨
      ∃ id ∈ range .global, IsFree zone .global id ∧
        (∀ below ∈ range .global, below < id → HasType zone below) ∧
        r.applicationType.isSome = true
  else ∀ id ∈ range selection, ¬ IsFree zone selection id

/-! ## Creating -/

variable {a : JokerGroup.Apartment} {zone : Zone} {r : Request} {id n : ℕ} {selection : Selection}
  {name : String} {t : Option ApplicationType}

theorem createGroup_of_user (h : 40 ≤ id ∧ id ≤ 47) :
    createGroup zone id t name a = .error (alreadyExists id) := by
  rw [createGroup, if_neg (by rw [isReserved_iff]; omega),
    if_neg (by rw [isAppUserGroup_iff]; omega), if_pos (isZoneUserGroup_iff.mpr h)]
  rfl

theorem createGroup_of_globalApp (h : 188 ≤ id ∧ id ≤ 249) (hzone : zone.id = 0) :
    createGroup zone id t name a = .error (alreadyExists id) := by
  rw [createGroup, if_neg (by rw [isReserved_iff]; omega),
    if_neg (by rw [isAppUserGroup_iff]; omega), if_neg (by rw [isZoneUserGroup_iff]; omega),
    if_pos (isGlobalAppUserGroup_iff.mpr h), if_neg (by rw [hzone]; simp)]
  rfl

theorem getCluster_eq (h : a.tryGetZone 0 = some zone) (hid : isAppUserGroup id = true) :
    getCluster a id = match zone.getGroup id with
      | some (.cluster c) => .ok c
      | _ => .error (.itemNotFound (toString id)) := by
  have hzone : getZone a 0 = .ok zone := by
    show (match a.tryGetZone 0 with | some zone => _ | none => _) = _
    rw [h]
  rw [getCluster, if_pos hid, hzone]

theorem createGroup_of_cluster (h : 16 ≤ id ∧ id ≤ 39) (hzone : zone.id = 0)
    (ha : a.tryGetZone 0 = some zone) : createGroup zone id t name a =
      match zone.getGroup id with
      | some (.cluster _) => .ok (modifyZone 0 (setGroup id name t) a)
      | _ => .ok a := by
  have hid := isAppUserGroup_iff.mpr h
  rw [createGroup, if_neg (by rw [isDefaultGroup_eq_false hid]; simp), if_pos hid,
    if_neg (by rw [hzone]; simp), getCluster_eq ha hid]
  rcases zone.getGroup id with - | group
  · rfl
  · cases group <;> rfl

/-! ## Searching -/

theorem firstGroup_cases (zone : Zone) (id n : ℕ) :
    firstGroup zone id n = (id + n, none) ∨
      ∃ k group, id ≤ k ∧ k < id + n ∧ firstGroup zone id n = (k + 1, some group) := by
  induction n generalizing id with
  | zero => exact Or.inl rfl
  | succ n ih =>
    rw [firstGroup]
    rcases zone.getGroup id with - | group
    · rcases ih (id + 1) with hnone | ⟨k, group, hle, hlt, hsome⟩
      · exact Or.inl (hnone.trans (by rw [Nat.add_right_comm, Nat.add_assoc]))
      · exact Or.inr ⟨k, group, by omega, by omega, hsome⟩
    · exact Or.inr ⟨id, group, le_rfl, by omega, rfl⟩

theorem firstWithoutType_cases (zone : Zone) (id n : ℕ) (last : Option ZoneGroup) :
    ((∀ k, id ≤ k → k < id + n → HasType zone k) ∧
      ∃ group, firstWithoutType zone id n last = .ok (id + n, group) ∧ (n = 0 → group = last) ∧
        (n ≠ 0 → ∃ g, group = some g ∧ g.base.applicationType ≠ .none)) ∨
    ∃ k, id ≤ k ∧ k < id + n ∧ (∀ j, id ≤ j → j < k → HasType zone j) ∧
      ((zone.getGroup k = none ∧ firstWithoutType zone id n last = .error .nullPointer) ∨
        ∃ group, zone.getGroup k = some group ∧ group.base.applicationType = .none ∧
          firstWithoutType zone id n last = .ok (k, some group)) := by
  induction n generalizing id last with
  | zero => exact Or.inl ⟨fun k hle hlt => by omega, last, rfl, fun _ => rfl, by simp⟩
  | succ n ih =>
    rw [firstWithoutType]
    rcases hgroup : zone.getGroup id with - | group
    · exact Or.inr ⟨id, le_rfl, by omega, fun j hle hlt => by omega, Or.inl ⟨hgroup, rfl⟩⟩
    simp only
    by_cases htype : group.base.applicationType = .none
    · rw [if_pos htype]
      exact Or.inr ⟨id, le_rfl, by omega, fun j hle hlt => by omega,
        Or.inr ⟨group, hgroup, htype, rfl⟩⟩
    · rw [if_neg htype]
      -- the group of this id has a type
      have hfirst : ∀ {k : ℕ}, (∀ j, id + 1 ≤ j → j < k → HasType zone j) →
          ∀ j, id ≤ j → j < k → HasType zone j := by
        intro k hrest j hle hlt
        rcases Nat.eq_or_lt_of_le hle with rfl | hgt
        · exact ⟨group, hgroup, htype⟩
        · exact hrest j hgt hlt
      rcases ih (id + 1) (some group) with
          ⟨hall, last', hok, hzero, hsucc⟩ | ⟨k, hle, hlt, hbelow, hk⟩
      · refine Or.inl ⟨fun k hle hlt => hfirst (k := id + 1 + n) hall k hle (by omega), last', ?_,
            by simp,
          fun _ => ?_⟩
        · rw [hok, Nat.add_right_comm, Nat.add_assoc]
        · rcases Nat.eq_zero_or_pos n with hn | hn
          · exact ⟨group, hzero hn, htype⟩
          · exact hsucc (Nat.pos_iff_ne_zero.mp hn)
      · exact Or.inr ⟨k, by omega, by omega, hfirst hbelow, hk⟩

/-! ## What the requests do -/

theorem selects_iff_of_refused {answer : Answer} (h : ¬ IsOk answer)
    (hnull : answer ≠ .nullPointer) : Selects zone r selection a (answer, a) ↔
      ∀ id ∈ range selection, ¬ IsFree zone selection id := by
  constructor
  · exact fun hselects id hid hfree => h (hselects.succeeds.mpr ⟨id, hid, hfree⟩)
  · intro hnone
    refine ⟨⟨fun hok => absurd hok h, fun ⟨id, hid, hfree⟩ => absurd hfree (hnone id hid)⟩,
      fun id zoneID name color hok => absurd ⟨id, zoneID, name, color, hok⟩ h,
      fun _ => ⟨hnull, rfl⟩⟩

theorem not_isOk_failure {message : String} : ¬ IsOk (.failure message) := by
  rintro ⟨id, zoneID, name, color, h⟩
  cases h

theorem not_isOk_thrown {e : Exception} : ¬ IsOk (.thrown e) := by
  rintro ⟨id, zoneID, name, color, h⟩
  cases h

theorem create_firstGroup {start n : ℕ}
    (h : ∀ id, start < id → id ≤ start + n →
      createGroup zone id r.applicationType r.name a = .error (alreadyExists id)) :
    ∃ answer, create zone r a (.ok (firstGroup zone start n)) = (answer, a) ∧ ¬ IsOk answer ∧
      answer ≠ .nullPointer := by
  rcases firstGroup_cases zone start n with hnone | ⟨k, group, hle, hlt, hsome⟩
  · rw [hnone]
    exact ⟨_, rfl, not_isOk_failure, by simp⟩
  · rw [hsome, create, h (k + 1) (by omega) (by omega)]
    exact ⟨_, rfl, not_isOk_thrown, by simp⟩

theorem create_of_others (h : ¬ (selection = .global ∧ zone.id = 0)) :
    ∃ answer, create zone r a (search zone selection) = (answer, a) ∧ ¬ IsOk answer ∧
      answer ≠ .nullPointer := by
  cases selection with
  | explicit id => exact ⟨_, rfl, not_isOk_failure, by simp⟩
  | user =>
    refine create_firstGroup fun id hlt hle => createGroup_of_user ?_
    simp only [groupIDUserGroupStart, groupIDUserGroupEnd] at hlt hle
    omega
  | global =>
    have hzone : zone.id ≠ 0 := fun heq => h ⟨rfl, heq⟩
    rw [search, if_pos hzone]
    exact ⟨_, rfl, not_isOk_failure, by simp⟩
  | globalApp =>
    rw [search]
    split_ifs with hzone
    · exact ⟨_, rfl, not_isOk_failure, by simp⟩
    · refine create_firstGroup fun id hlt hle => createGroup_of_globalApp ?_ (by simpa using hzone)
      simp only [groupIDGlobalAppUserMin, groupIDGlobalAppUserMax] at hlt hle
      omega

theorem mem_range_global : id ∈ range .global ↔ 16 ≤ id ∧ id < 16 + 24 := by
  rw [range, List.mem_range'_1]
  rfl

theorem HasType.not_isFree (h : HasType zone id) : ¬ IsFree zone .global id := by
  rintro ⟨c, hc, hnone⟩
  obtain ⟨group, hgroup, htype⟩ := h
  obtain rfl := Option.some.inj (hc.symm.trans hgroup)
  exact htype hnone

theorem base_setNameAndType (group : ZoneGroup) (htype : group.base.applicationType = .none) :
    (setNameAndType name t group).base.name = name ∧
      (setNameAndType name t group).base.applicationType = t.getD .none := by
  have key : ∀ g : Group, g.applicationType = .none →
      (g.setApplicationType t).name = g.name ∧
        (g.setApplicationType t).applicationType = t.getD .none := by
    intro g hg
    rw [Group.setApplicationType]
    split_ifs with hsame hfixed
    · rw [← hsame]
      exact ⟨rfl, rfl⟩
    · simp [Group.typeIsFixed, hg] at hfixed
    · exact ⟨rfl, rfl⟩
  cases group with
  | group g => exact key { g with name := name } htype
  | cluster c => exact key { c.toGroup with name := name } htype

theorem groupID_setNameAndType (group : ZoneGroup) :
    (setNameAndType name t group).base.groupID = group.base.groupID := by
  have key : ∀ g : Group, (g.setApplicationType t).groupID = g.groupID := by
    intro g
    rw [Group.setApplicationType]
    split_ifs <;> rfl
  cases group with
  | group g => exact key { g with name := name }
  | cluster c => exact key { c.toGroup with name := name }

theorem denotes_setGroup (ha : a.tryGetZone 0 = some zone)
    {group : ZoneGroup} (hgroup : zone.getGroup id = some group)
    (htype : group.base.applicationType = .none) :
    Denotes (modifyZone 0 (setGroup id name t) a) 0 id name t ↔ t.isSome = true := by
  have hzoneSet : (modifyZone 0 (setGroup id name t) a).tryGetZone 0 =
      some (setGroup id name t zone) :=
    (KeyedList.find?_modify_self (f := Zone.id) (g := setGroup id name t) fun zone h => h).trans
      (congrArg (Option.map (setGroup id name t)) ha)
  have hgroupSet : (setGroup id name t zone).getGroup id = some (setNameAndType name t group) :=
    (KeyedList.find?_modify_self (f := fun group : ZoneGroup => group.base.groupID)
      fun other hother => (groupID_setNameAndType other).trans hother).trans
      (congrArg (Option.map (setNameAndType name t)) hgroup)
  obtain ⟨hname, htaken⟩ := @base_setNameAndType name t group htype
  constructor
  · rintro ⟨zone', group', hzone', hgroup', -, heq⟩
    rw [← heq]
    rfl
  · intro hsome
    refine ⟨_, _, hzoneSet, hgroupSet, hname, ?_⟩
    obtain ⟨u, rfl⟩ := Option.isSome_iff_exists.mp hsome
    rw [htaken]
    rfl

theorem selects_global (ha : a.tryGetZone 0 = some zone) (hzone : zone.id = 0) :
    Selects zone r .global a (create zone r a (search zone .global)) ↔ Fits zone r .global := by
  rw [Fits, if_pos ⟨rfl, hzone⟩, search, if_neg (by rw [hzone]; simp)]
  rcases firstWithoutType_cases zone 16 24 none with
    ⟨hall, group, hok, -, hlast⟩ | ⟨k, hle, hlt, hbelow, hk⟩
  · -- all clusters have a type
    obtain ⟨g, rfl, htype⟩ := hlast (by decide)
    have hall' : ∀ id ∈ range .global, HasType zone id := fun id hid =>
      hall id (mem_range_global.1 hid).1 (mem_range_global.1 hid).2
    replace hok : firstWithoutType zone groupIDAppUserMin
      (groupIDAppUserMax + 1 - groupIDAppUserMin) none = .ok (16 + 24, some g) := hok
    rw [hok]
    simp only
    rw [if_pos htype]
    refine (selects_iff_of_refused not_isOk_failure (by simp)).trans ?_
    exact iff_of_true (fun id hid => (hall' id hid).not_isFree) (Or.inl hall')
  -- the first one that has no type, or is missing
  have hmem : k ∈ range .global := mem_range_global.2 ⟨hle, hlt⟩
  have hbelow' : ∀ below ∈ range .global, below < k → HasType zone below := fun below hin hbelowk =>
    hbelow below (mem_range_global.1 hin).1 hbelowk
  have hfirst : ¬ HasType zone k → ∀ id ∈ range .global, IsFree zone .global id →
      (∀ below ∈ range .global, below < id → HasType zone below) → id = k := by
    intro hnot id hid hfree hunder
    rcases Nat.lt_trichotomy id k with hless | heq | hmore
    · exact absurd hfree (hbelow' id hid hless).not_isFree
    · exact heq
    · exact absurd (hunder k hmem hmore) hnot
  rcases hk with ⟨hnone, herror⟩ | ⟨group, hgroup, htype, hok⟩
  · -- the null pointer
    have hnot : ¬ HasType zone k := by
      rintro ⟨group, hgroup, -⟩
      rw [hnone] at hgroup
      cases hgroup
    replace herror : firstWithoutType zone groupIDAppUserMin
      (groupIDAppUserMax + 1 - groupIDAppUserMin) none = .error .nullPointer := herror
    rw [herror]
    refine iff_of_false (fun hselects => ?_) (fun hfits => ?_)
    · refine (hselects.unchanged fun hisok => ?_).1 rfl
      obtain ⟨id, zoneID, name, color, h⟩ := hisok
      cases h
    · rcases hfits with hall | ⟨id, hid, hfree, hunder, -⟩
      · exact hnot (hall k hmem)
      · obtain rfl := hfirst hnot id hid hfree hunder
        obtain ⟨c, hc, -⟩ := hfree
        rw [hnone] at hc
        cases hc
  · have hnot : ¬ HasType zone k := by
      rintro ⟨other, hother, hsome⟩
      obtain rfl := Option.some.inj (hgroup.symm.trans hother)
      exact hsome htype
    replace hok : firstWithoutType zone groupIDAppUserMin
      (groupIDAppUserMax + 1 - groupIDAppUserMin) none = .ok (k, some group) := hok
    rw [hok]
    simp only
    rw [if_neg (by rw [htype]; simp), create, createGroup_of_cluster ⟨hle, by omega⟩ hzone ha,
      hgroup]
    cases group with
    | group g =>
      -- not a cluster
      refine iff_of_false (fun hselects => ?_) (fun hfits => ?_)
      · obtain ⟨⟨-, c, hc, -⟩, -⟩ := hselects.reported _ _ _ _ rfl
        rw [hgroup] at hc
        cases hc
      · rcases hfits with hall | ⟨id, hid, hfree, hunder, -⟩
        · exact hnot (hall k hmem)
        · obtain rfl := hfirst hnot id hid hfree hunder
          obtain ⟨c, hc, -⟩ := hfree
          rw [hgroup] at hc
          cases hc
    | cluster c =>
      have hfree : IsFree zone .global k := ⟨c, hgroup, htype⟩
      have hdenotes := @denotes_setGroup a zone k r.name r.applicationType ha _ hgroup htype
      constructor
      · intro hselects
        obtain ⟨-, hden⟩ := hselects.reported _ _ _ _ rfl
        rw [hzone] at hden
        exact Or.inr ⟨k, hmem, hfree, hbelow', hdenotes.mp hden⟩
      · rintro (hall | ⟨id, hid, hfree', hunder, htypeSome⟩)
        · exact absurd (hall k hmem) hnot
        · refine ⟨iff_of_true ⟨_, _, _, _, rfl⟩ ⟨k, hmem, hfree⟩, ?_, fun h => ?_⟩
          · rintro id' zoneID name color h
            cases h
            rw [hzone]
            exact ⟨⟨hmem, hfree⟩, hdenotes.mpr htypeSome⟩
          · exact absurd ⟨_, _, _, _, rfl⟩ h

/-! ## The request -/

/-- **Free group selection.** A request for an id, or for one of the three ranges, does what is
promised exactly if there is nothing to be created, or it is for a cluster of zone 0, the
clusters below the first free one have types, and the type that is asked for exists. -/
theorem addGroup_iff (hzone : zoneOf r a = .ok zone) (hfound : a.tryGetZone zone.id = some zone)
    (hselect : select zone r = .ok selection) :
    Selects zone r selection a (handleAddGroup r a) ↔ Fits zone r selection := by
  rw [handleAddGroup, hzone]
  simp only
  rw [addGroupInZone, hselect]
  simp only
  by_cases hglobal : selection = .global ∧ zone.id = 0
  · obtain ⟨rfl, hid⟩ := hglobal
    exact selects_global (hid ▸ hfound) hid
  · obtain ⟨answer, hanswer, hnot, hnull⟩ : ∃ answer,
        create zone r a (search zone selection) = (answer, a) ∧ ¬ IsOk answer ∧
          answer ≠ .nullPointer := create_of_others hglobal
    rw [hanswer, Fits, if_neg hglobal]
    exact selects_iff_of_refused hnot hnull

/-! ## A house -/

def house : JokerGroup.Apartment where
  zones :=
    [{ id := 0
       groups := (List.range' 16 24).map fun id => .cluster { groupID := id } },
      { id := 5, groups := [.group { groupID := 1, applicationType := .lights }] }]

def houseZone : Zone where
  id := 0
  groups := (List.range' 16 24).map fun id => .cluster { groupID := id }

def clusterRequest : Request where
  zoneID := some "0"
  groupAutoSelect := some "global"
  groupName := some "A & B"
  groupColor := some "2"

/-- A cluster is taken at the first id that is free. -/
theorem addGroup_cluster : Selects houseZone clusterRequest .global house
    (handleAddGroup clusterRequest house) := by
  refine (addGroup_iff (by rfl) (by rfl) (by decide +kernel)).mpr ?_
  refine Or.inr ⟨16, by decide, ⟨{ groupID := 16 }, by decide +kernel, rfl⟩, ?_, by decide +kernel⟩
  intro below hbelow hlt
  rw [mem_range_global] at hbelow
  omega

def userRequest : Request where
  zoneID := some "5"
  groupAutoSelect := some "user"

/-- There is a user group to take, and the search stops at the first group that exists. -/
theorem addGroup_fails : ¬ ∀ (a : JokerGroup.Apartment) (zone : Zone) (r : Request)
    (selection : Selection),
    zoneOf r a = .ok zone → a.tryGetZone zone.id = some zone → select zone r = .ok selection →
    Selects zone r selection a (handleAddGroup r a) := by
  intro hall
  have hselects := hall house
    { id := 5, groups := [.group { groupID := 1, applicationType := .lights }] } userRequest .user
    (by rfl) (by rfl) (by decide +kernel)
  obtain ⟨id, zoneID, name, color, hok⟩ := hselects.succeeds.mpr ⟨40, by decide, rfl⟩
  cases hok

end GroupCreation

end Dss
