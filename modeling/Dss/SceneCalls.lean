import Dss.Interruptible
import Dss.SceneAccess

/-!
# Scene calls

A scene call is checked, sent to the bus, and then the model follows: the heating operation mode
of the zone, or the on-state for a light or a heating group. A call that is refused or that the bus
answers with an exception does not get as far as that. But the scene a group remembers is recorded
before the call is checked.
-/

namespace Dss

open List

namespace SceneAccess

open Guards Interruptible Program SceneHelper

/-! ## Changes -/

def heatingOperationModeIDMax : ℕ := 11

/-- `Group::setLastCalledScene` -/
def ZoneGroup.setLastCalledScene (group : ZoneGroup) (value : ℕ) : ZoneGroup :=
  if group.groupID = groupIDControlTemperature ∧ 16 ≤ value then group
  else if value ≠ group.lastCalledScene then
    { group with lastButOneCalledScene := group.lastCalledScene, lastCalledScene := value }
  else group

def State.setState (state : State) (origin : CallOrigin) (value : ℕ) : State :=
  if value ≠ state.state then { state with state := value, callOrigin := origin } else state

def setNonScriptState (name : String) (origin : CallOrigin) (value : ℕ) :
    List State → List State
  | [] => []
  | state :: states =>
    if !state.isScript && decide (state.name = name) then state.setState origin value :: states
    else state :: setNonScriptState name origin value states

namespace Apartment

def modifyZone (a : Apartment) (zoneID : ℕ) (f : Zone → Zone) : Apartment :=
  { a with zones := a.zones.map fun zone => if zone.zoneID = zoneID then f zone else zone }

def modifyGroup (a : Apartment) (zoneID groupID : ℕ) (f : ZoneGroup → ZoneGroup) : Apartment :=
  a.modifyZone zoneID fun zone =>
    { zone with
      groups := zone.groups.map fun group => if group.groupID = groupID then f group else group }

def heatingOperationModes (a : Apartment) : List (ℕ × ℕ) :=
  a.zones.map fun zone => (zone.zoneID, zone.heatingOperationMode)

end Apartment

def Zone.setHeatingOperationMode (zone : Zone) (operationMode : ℕ) : Zone :=
  if heatingOperationModeIDMax < operationMode then zone
  else { zone with heatingOperationMode := operationMode }

/-- `State::makeGroupName` -/
def makeGroupName (group : ZoneGroup) : String :=
  "zone." ++ toString group.zoneID ++ "." ++
    match group.applicationType with
    | .lights => "light"
    | .heating => "heating"
    | _ => "unknown"

/-! ## Calls -/

/-- `ActionRequestInterface::callScene`. The scene has sixteen bits. -/
structure BusCall : Type where
  /-- `pTarget` -/
  target : Target
  origin : CallOrigin
  category : SceneAccessCategory
  scene : ℕ
  token : String
  force : Bool
  deriving DecidableEq

/-- What is done with the apartment; it makes calls on the bus and may throw. -/
abbrev Action : Type := Program Apartment BusCall Error Unit

def check (x : Apartment → Except Error Unit) : Action := fun a => ⟨[], a, x a⟩

/-- `AddressableModelItem::callScene` -/
def callItem (target : Target) (origin : CallOrigin) (category : SceneAccessCategory)
    (scene : ℕ) (token : String) (force : Bool) : Action := do
  check fun a => checkAccess a target category
  (if origin = .coJSON ∧ force = false then check fun a => checkStates a scene else pure ())
  call ⟨target, origin, category, scene % 65536, token, force⟩

/-- The on-state of a light or heating group. The assertion is about `applicationType`; a state
that is missing is passed over. -/
def setOnStateOf (group : ZoneGroup) (applicationType : ApplicationType) (origin : CallOrigin)
    (scene : ℕ) : Action :=
  match isOnScene group.groupID scene with
  | .dontCare => pure ()
  | isOn =>
    if group.applicationType ≠ applicationType then fail .assertion
    else modify fun a => { a with
      states := setNonScriptState (makeGroupName group) origin
        (if isOn = .true then stateActive else stateInactive) a.states }

/-- `Group::setOnState` -/
def setOnState (group : ZoneGroup) (origin : CallOrigin) (scene : ℕ) : Action :=
  if group.zoneID = 0 then pure ()
  else if group.groupID = groupIDYellow then setOnStateOf group .lights origin scene
  else if group.groupID = groupIDHeating then setOnStateOf group .heating origin scene
  else pure ()

/-- The part of `Group::callScene` behind the call. -/
def follow (group : ZoneGroup) (origin : CallOrigin) (scene : ℕ) : Action :=
  if group.groupID = groupIDControlTemperature then do
    check fun a => (a.getZone group.zoneID).map fun _ => ()
    (if scene ≤ heatingOperationModeIDMax then
      modify fun a => a.modifyZone group.zoneID (·.setHeatingOperationMode scene)
    else pure ())
  else setOnState group origin scene

/-- `Group::callScene` -/
def callGroup (group : ZoneGroup) (origin : CallOrigin) (category : SceneAccessCategory)
    (scene : ℕ) (token : String) (force : Bool) : Action := do
  (if rememberScene (scene % 256) then
    modify fun a => a.modifyGroup group.zoneID group.groupID (·.setLastCalledScene (scene % 256))
  else pure ())
  callItem (.group group) origin category scene token force
  follow group origin scene

/-- `callScene`: a device has none of its own. -/
def callScene (target : Target) (origin : CallOrigin) (category : SceneAccessCategory)
    (scene : ℕ) (token : String) (force : Bool) : Action :=
  match target with
  | .group group => callGroup group origin category scene token force
  | .device device => callItem (.device device) origin category scene token force

/-! ## Recording a scene -/

variable {a : Apartment} {group : ZoneGroup} {target : Target} {origin : CallOrigin}
  {category : SceneAccessCategory} {scene : ℕ} {token : String} {force : Bool}

def recorded (a : Apartment) (group : ZoneGroup) (scene : ℕ) : Apartment :=
  if rememberScene (scene % 256) then
    a.modifyGroup group.zoneID group.groupID (·.setLastCalledScene (scene % 256))
  else a

theorem setLastCalledScene_eq (group : ZoneGroup) (value : ℕ) :
    ∃ last lastButOne, group.setLastCalledScene value =
      { group with lastCalledScene := last, lastButOneCalledScene := lastButOne } := by
  rw [ZoneGroup.setLastCalledScene]
  split_ifs
  · exact ⟨group.lastCalledScene, group.lastButOneCalledScene, rfl⟩
  · exact ⟨value, group.lastCalledScene, rfl⟩
  · exact ⟨group.lastCalledScene, group.lastButOneCalledScene, rfl⟩

/-- Two zones that differ in the last called scenes of their groups only. -/
structure SameZone (zone zone' : Zone) : Prop where
  zoneID : zone'.zoneID = zone.zoneID
  devices : zone'.devices = zone.devices
  heatingOperationMode : zone'.heatingOperationMode = zone.heatingOperationMode
  groups : ∃ f : ZoneGroup → ZoneGroup, zone'.groups = zone.groups.map f ∧
    ∀ group, ∃ last lastButOne, f group =
      { group with lastCalledScene := last, lastButOneCalledScene := lastButOne }

theorem exists_recorded (a : Apartment) (group : ZoneGroup) (scene : ℕ) :
    ∃ f : Zone → Zone, recorded a group scene = { a with zones := a.zones.map f } ∧
      ∀ zone, SameZone zone (f zone) := by
  have hsame : ∀ zone : Zone, SameZone zone zone := fun zone =>
    ⟨rfl, rfl, rfl, id, (map_id _).symm, fun group =>
      ⟨group.lastCalledScene, group.lastButOneCalledScene, rfl⟩⟩
  rw [recorded]
  split_ifs
  · refine ⟨_, rfl, fun zone => ?_⟩
    split_ifs
    · refine ⟨rfl, rfl, rfl, _, rfl, fun other => ?_⟩
      split_ifs
      · exact setLastCalledScene_eq other (scene % 256)
      · exact ⟨other.lastCalledScene, other.lastButOneCalledScene, rfl⟩
    · exact hsame zone
  · exact ⟨id, by rw [map_id], hsame⟩

theorem recorded_keeps : (recorded a group scene).states = a.states ∧
    (recorded a group scene).heatingOperationModes = a.heatingOperationModes := by
  obtain ⟨f, hrecorded, hsame⟩ := exists_recorded a group scene
  rw [hrecorded]
  refine ⟨rfl, ?_⟩
  simp only [Apartment.heatingOperationModes, map_map]
  exact map_congr_left fun zone _ => by
    rw [Function.comp_apply, (hsame zone).zoneID, (hsame zone).heatingOperationMode]

theorem find?_zones {f : Zone → Zone} (hsame : ∀ zone, SameZone zone (f zone)) (id : ℕ) :
    ((a.zones.map f).find? fun zone => zone.zoneID = id) =
      (a.zones.find? fun zone => zone.zoneID = id).map f := by
  rw [find?_map]
  congr 2
  funext zone
  rw [Function.comp_apply, (hsame zone).zoneID]

theorem find?_groups {zone zone' : Zone} (hsame : SameZone zone zone') (id : ℕ) :
    ∃ f : ZoneGroup → ZoneGroup,
      (zone'.groups.find? fun group => group.groupID = id).filter (·.isCluster) =
        ((zone.groups.find? fun group => group.groupID = id).filter (·.isCluster)).map f ∧
      ∀ group, (f group).valid = group.valid ∧
        (f group).applicationType = group.applicationType := by
  obtain ⟨f, hgroups, hf⟩ := hsame.groups
  have hfields : ∀ group, (f group).groupID = group.groupID ∧
      (f group).isCluster = group.isCluster ∧ (f group).valid = group.valid ∧
      (f group).applicationType = group.applicationType := by
    intro group
    obtain ⟨last, lastButOne, hgroup⟩ := hf group
    rw [hgroup]
    exact ⟨rfl, rfl, rfl, rfl⟩
  refine ⟨f, ?_, fun group => ⟨(hfields group).2.2.1, (hfields group).2.2.2⟩⟩
  have hid : (fun group : ZoneGroup => decide (group.groupID = id)) ∘ f =
      fun group => decide (group.groupID = id) := by
    funext group
    rw [Function.comp_apply, (hfields group).1]
  rw [hgroups, find?_map, hid]
  cases zone.groups.find? fun group => decide (group.groupID = id) with
  | none => rfl
  | some found =>
    simp only [Option.map_some, Option.filter_some, (hfields found).2.1]
    split_ifs <;> rfl

theorem cluster?_recorded (i : ℕ) : ∃ f : ZoneGroup → ZoneGroup,
    (recorded a group scene).cluster? i = (a.cluster? i).map f ∧
      ∀ group, (f group).valid = group.valid ∧
        (f group).applicationType = group.applicationType := by
  obtain ⟨f, hrecorded, hsame⟩ := exists_recorded a group scene
  rw [hrecorded, Apartment.cluster?, Apartment.cluster?, find?_zones hsame 0]
  split_ifs
  · cases a.zones.find? fun zone => decide (zone.zoneID = 0) with
    | none => exact ⟨id, rfl, fun _ => ⟨rfl, rfl⟩⟩
    | some zone => exact find?_groups (hsame zone) i
  · exact ⟨id, rfl, fun _ => ⟨rfl, rfl⟩⟩

theorem active_recorded {name : String} :
    Active (recorded a group scene) name ↔ Active a name := by
  rw [Active, Apartment.nonScriptState?, recorded_keeps.1]
  rfl

theorem windyCluster_recorded {i : ℕ} :
    WindyCluster (recorded a group scene) i ↔ WindyCluster a i := by
  obtain ⟨f, hcluster, hf⟩ := @cluster?_recorded a group scene i
  constructor
  · rintro ⟨cluster, h, hvalid, htype, hactive⟩
    rw [hcluster] at h
    obtain ⟨cluster', hsome, rfl⟩ := Option.map_eq_some_iff.mp h
    exact ⟨cluster', hsome, (hf cluster').1 ▸ hvalid, (hf cluster').2 ▸ htype,
      active_recorded.1 hactive⟩
  · rintro ⟨cluster, h, hvalid, htype, hactive⟩
    refine ⟨f cluster, ?_, (hf cluster).1.trans hvalid, (hf cluster).2.trans htype,
      active_recorded.2 hactive⟩
    rw [hcluster, h]
    rfl

theorem getZone_recorded {id : ℕ} {devices : List Device} :
    (∃ zone, (recorded a group scene).getZone id = .ok zone ∧ zone.devices = devices) ↔
      ∃ zone, a.getZone id = .ok zone ∧ zone.devices = devices := by
  obtain ⟨f, hrecorded, hsame⟩ := exists_recorded a group scene
  rw [hrecorded, Apartment.getZone, Apartment.getZone, find?_zones hsame id]
  cases a.zones.find? fun zone => decide (zone.zoneID = id) with
  | none => exact Iff.rfl
  | some zone =>
    constructor
    · rintro ⟨zone', hzone, rfl⟩
      cases hzone
      exact ⟨zone, rfl, (hsame zone).devices.symm⟩
    · rintro ⟨zone', hzone, rfl⟩
      cases hzone
      exact ⟨f zone, rfl, (hsame zone).devices⟩

theorem covers_recorded {i : ℕ} :
    Covers (recorded a group scene) i target ↔ Covers a i target := by
  cases target with
  | device device => exact Iff.rfl
  | group other =>
    refine or_congr_right (and_congr_right fun _ => ?_)
    constructor
    · rintro ⟨zone, hzone, device, hdevice, h⟩
      obtain ⟨zone', hzone', hdevices⟩ := getZone_recorded.1 ⟨zone, hzone, rfl⟩
      exact ⟨zone', hzone', device, hdevices ▸ hdevice, h⟩
    · rintro ⟨zone, hzone, device, hdevice, h⟩
      obtain ⟨zone', hzone', hdevices⟩ := getZone_recorded.2 ⟨zone, hzone, rfl⟩
      exact ⟨zone', hzone', device, hdevices ▸ hdevice, h⟩

theorem protected_recorded : Protected (recorded a group scene) target ↔ Protected a target := by
  rw [Protected, active_recorded, active_recorded]
  refine or_congr_right (exists_congr fun i => and_congr_right fun _ => ?_)
  rw [windyCluster_recorded, covers_recorded]

theorem hasZone_recorded : HasZone (recorded a group scene) target ↔ HasZone a target := by
  obtain ⟨f, hrecorded, hsame⟩ := exists_recorded a group scene
  cases target with
  | device device => exact Iff.rfl
  | group other =>
    rw [hrecorded]
    constructor
    · rintro ⟨zone, hzone, hid⟩
      obtain ⟨zone, hmem, rfl⟩ := mem_map.mp hzone
      exact ⟨zone, hmem, (hsame zone).zoneID ▸ hid⟩
    · rintro ⟨zone, hzone, hid⟩
      exact ⟨f zone, mem_map_of_mem hzone, (hsame zone).zoneID.trans hid⟩

/-! ## Calls that are refused -/

def verdict (a : Apartment) (target : Target) (origin : CallOrigin)
    (category : SceneAccessCategory) (scene : ℕ) (force : Bool) : Except Error Unit :=
  checkAccess a target category >>= fun _ =>
    if origin = .coJSON ∧ force = false then checkStates a scene else pure ()

theorem check_of_error {x : Apartment → Except Error Unit} {f : Unit → Action} {e : Error}
    (h : x a = .error e) : (check x >>= f) a = ⟨[], a, .error e⟩ :=
  bind_of_error (by exact h)

theorem check_of_ok {x : Apartment → Except Error Unit} {f : Unit → Action}
    (h : x a = .ok ()) : (check x >>= f) a = f () a :=
  bind_of_ok (by exact h)

theorem callItem_of_error {e : Error}
    (h : verdict a target origin category scene force = .error e) :
    callItem target origin category scene token force a = ⟨[], a, .error e⟩ := by
  rw [verdict] at h
  rw [callItem]
  rcases haccess : checkAccess a target category with e' | u
  · rw [haccess] at h
    cases h
    exact check_of_error haccess
  · rw [haccess] at h
    rw [check_of_ok (by exact haccess)]
    change (if origin = .coJSON ∧ force = false then checkStates a scene else pure ()) = _ at h
    split_ifs at h ⊢ with hjson
    · exact check_of_error h
    · cases h

theorem callItem_of_ok (h : verdict a target origin category scene force = .ok ()) :
    callItem target origin category scene token force a =
      ⟨[(⟨target, origin, category, scene % 65536, token, force⟩, a)], a, .ok ()⟩ := by
  rw [verdict] at h
  rw [callItem]
  rcases haccess : checkAccess a target category with e | u
  · rw [haccess] at h
    cases h
  · rw [haccess] at h
    rw [check_of_ok (by exact haccess)]
    change (if origin = .coJSON ∧ force = false then checkStates a scene else pure ()) = _ at h
    split_ifs at h ⊢ with hjson
    · exact check_of_ok h
    · rfl

theorem failsBy_verdict (h : FailsBy Error.IsSceneAccess
      (verdict a target origin category scene force)) :
    Protected a target ∨ (origin = .coJSON ∧ force = false) ∧ AlreadyActive a scene := by
  rcases failsBy_bind.mp h with h | ⟨-, -, h⟩
  · exact Or.inl (protected_of_checkAccess h)
  · split_ifs at h with hjson
    · exact Or.inr ⟨hjson, checkStates_iff.mp h⟩
    · exact absurd h not_failsBy_ok

theorem verdict_iff (hcategory : category ≠ .manual) (hfire : Registered a "fire")
    (hwind : Registered a "wind") (hzone : HasZone a target) :
    FailsBy Error.IsSceneAccess (verdict a target origin category scene force) ↔
      Protected a target ∨ (origin = .coJSON ∧ force = false) ∧ AlreadyActive a scene := by
  obtain ⟨honly, haccess⟩ := checkAccess_iff hcategory hfire hwind hzone
  refine ⟨failsBy_verdict, fun h => (failsBy_andThen honly).mpr (h.imp haccess.mpr ?_)⟩
  rintro ⟨hjson, hactive⟩
  rw [if_pos hjson]
  exact checkStates_iff.mpr hactive

/-! ## What follows a call -/

/-- Makes no call, and is not refused. -/
def Quiet (x : Action) : Prop :=
  ∀ a, (x a).calls = [] ∧ ¬ FailsBy Error.IsSceneAccess (x a).result

theorem quiet_pure : Quiet (pure ()) := fun _ => ⟨rfl, not_failsBy_ok⟩

theorem quiet_modify (f : Apartment → Apartment) : Quiet (modify f) :=
  fun _ => ⟨rfl, not_failsBy_ok⟩

theorem quiet_fail {e : Error} (h : ¬ e.IsSceneAccess) : Quiet (fail e) :=
  fun _ => ⟨rfl, fun hfails => h (failsBy_error.mp hfails)⟩

theorem quiet_check {x : Apartment → Except Error Unit} {y : Action}
    (hx : ∀ a, ¬ FailsBy Error.IsSceneAccess (x a)) (hy : Quiet y) :
    Quiet (check x >>= fun _ => y) := by
  intro a
  rcases hresult : x a with e | u
  · rw [check_of_error hresult]
    exact ⟨rfl, hresult ▸ hx a⟩
  · rw [check_of_ok (by exact hresult)]
    exact hy a

theorem quiet_ite {c : Prop} [Decidable c] {x y : Action} (hx : Quiet x) (hy : Quiet y) :
    Quiet (if c then x else y) := by
  split_ifs
  · exact hx
  · exact hy

theorem quiet_setOnStateOf (applicationType : ApplicationType) :
    Quiet (setOnStateOf group applicationType origin scene) := by
  rw [setOnStateOf]
  split
  · exact quiet_pure
  · exact quiet_ite (quiet_fail id) (quiet_modify _)

theorem quiet_follow : Quiet (follow group origin scene) := by
  refine quiet_ite (quiet_check (fun a => ?_) (quiet_ite (quiet_modify _) quiet_pure)) ?_
  · rw [Apartment.getZone]
    split
    · exact not_failsBy_ok
    · exact fun h => failsBy_error.mp h
  · exact quiet_ite quiet_pure (quiet_ite (quiet_setOnStateOf .lights)
      (quiet_ite (quiet_setOnStateOf .heating) quiet_pure))

/-! ## Runs -/

/-- The call was refused by a `SceneAccessException`. -/
def Refused (outcome : Outcome Apartment Error Unit) : Prop :=
  ∃ state result, outcome = .ended state result ∧ FailsBy Error.IsSceneAccess result

def BusThrew (outcome : Outcome Apartment Error Unit) : Prop :=
  ∃ n state, outcome = .interrupted n state

def atCheck (a : Apartment) (target : Target) (scene : ℕ) : Apartment :=
  match target with
  | .group group => recorded a group scene
  | .device _ => a

def behind (target : Target) (origin : CallOrigin) (scene : ℕ) : Action :=
  match target with
  | .group group => follow group origin scene
  | .device _ => pure ()

theorem quiet_behind : Quiet (behind target origin scene) := by
  cases target with
  | group group => exact quiet_follow
  | device device => exact quiet_pure

theorem callScene_eq : callScene target origin category scene token force a =
    (callItem target origin category scene token force >>= fun _ => behind target origin scene)
      (atCheck a target scene) := by
  cases target with
  | group group =>
    rw [callScene, callGroup, atCheck, recorded]
    split_ifs <;> rfl
  | device device =>
    exact bind_pure'.symm

theorem run_callScene (throws : ℕ → BusCall → Bool) :
    (∃ e, verdict (atCheck a target scene) target origin category scene force = .error e ∧
      (callScene target origin category scene token force a).run throws =
        .ended (atCheck a target scene) (.error e)) ∨
    verdict (atCheck a target scene) target origin category scene force = .ok () ∧
      ((callScene target origin category scene token force a).run throws =
          .interrupted 0 (atCheck a target scene) ∨
        (callScene target origin category scene token force a).run throws =
          .ended (behind target origin scene (atCheck a target scene)).state
            (behind target origin scene (atCheck a target scene)).result) := by
  rw [callScene_eq]
  rcases hverdict : verdict (atCheck a target scene) target origin category scene force with e | u
  · refine Or.inl ⟨e, rfl, ?_⟩
    rw [bind_of_error (by rw [callItem_of_error hverdict]), callItem_of_error hverdict]
    exact Script.run_of_nil rfl
  · refine Or.inr ⟨rfl, ?_⟩
    rw [bind_of_ok (by rw [callItem_of_ok hverdict]), callItem_of_ok hverdict]
    rw [(quiet_behind _).1, append_nil, Script.run, interruption]
    split_ifs
    · exact Or.inl rfl
    · exact Or.inr rfl

theorem atCheck_keeps : (atCheck a target scene).states = a.states ∧
    (atCheck a target scene).heatingOperationModes = a.heatingOperationModes := by
  cases target with
  | group group => exact recorded_keeps
  | device device => exact ⟨rfl, rfl⟩

theorem atCheck_eq (h : ∀ group, target = .group group → rememberScene (scene % 256) = false) :
    atCheck a target scene = a := by
  cases target with
  | group group =>
    rw [atCheck, recorded, if_neg (ne_true_of_eq_false (h group rfl))]
  | device device => rfl

theorem protected_atCheck : Protected (atCheck a target scene) target ↔ Protected a target := by
  cases target with
  | group group => exact protected_recorded
  | device device => exact Iff.rfl

theorem alreadyActive_atCheck :
    AlreadyActive (atCheck a target scene) scene ↔ AlreadyActive a scene := by
  refine exists_congr fun name => and_congr_right fun _ => ?_
  rw [Active, Apartment.nonScriptState?, atCheck_keeps.1]
  rfl

theorem registered_atCheck {name : String} :
    Registered (atCheck a target scene) name ↔ Registered a name := by
  rw [Registered, Apartment.nonScriptState?, atCheck_keeps.1]
  rfl

theorem hasZone_atCheck : HasZone (atCheck a target scene) target ↔ HasZone a target := by
  cases target with
  | group group => exact hasZone_recorded
  | device device => exact Iff.rfl

theorem refused_iff {throws : ℕ → BusCall → Bool} :
    Refused ((callScene target origin category scene token force a).run throws) ↔
      FailsBy Error.IsSceneAccess
        (verdict (atCheck a target scene) target origin category scene force) := by
  rcases @run_callScene a target origin category scene token force throws with
    ⟨e, hverdict, hrun⟩ | ⟨hverdict, hrun | hrun⟩
  · rw [hrun, hverdict]
    constructor
    · rintro ⟨state, result, h, hfails⟩
      cases h
      exact hfails
    · exact fun hfails => ⟨_, _, rfl, hfails⟩
  · rw [hrun, hverdict]
    refine iff_of_false ?_ not_failsBy_ok
    rintro ⟨state, result, h, -⟩
    cases h
  · rw [hrun, hverdict]
    refine iff_of_false ?_ not_failsBy_ok
    rintro ⟨state, result, h, hfails⟩
    cases h
    exact (quiet_behind _).2 hfails

theorem state_of_refused {throws : ℕ → BusCall → Bool}
    (h : Refused ((callScene target origin category scene token force a).run throws) ∨
      BusThrew ((callScene target origin category scene token force a).run throws)) :
    ((callScene target origin category scene token force a).run throws).state =
      atCheck a target scene := by
  rcases @run_callScene a target origin category scene token force throws with
    ⟨e, hverdict, hrun⟩ | ⟨hverdict, hrun | hrun⟩
  · rw [hrun]
    rfl
  · rw [hrun]
    rfl
  · rcases h with h | ⟨n, state, h⟩
    · rw [refused_iff, hverdict] at h
      exact absurd h not_failsBy_ok
    · rw [hrun] at h
      cases h

/-- **Scene access.** A call is refused only if its target is protected, or if it comes from the
web service and would raise an alarm that is raised; one that is not made by hand, in a zone that
is there, is refused then if the states for fire and wind are registered. A call that is refused or
that the bus answers with an exception leaves the heating operation modes and the states, and if
there is no scene to remember, everything. -/
theorem callScene_refused (a : Apartment) (target : Target) (origin : CallOrigin)
    (category : SceneAccessCategory) (scene : ℕ) (token : String) (force : Bool)
    (throws : ℕ → BusCall → Bool) :
    let run := (callScene target origin category scene token force a).run throws
    (Refused run →
      Protected a target ∨ (origin = .coJSON ∧ force = false) ∧ AlreadyActive a scene) ∧
    (category ≠ .manual → HasZone a target → Registered a "fire" → Registered a "wind" →
      Protected a target ∨ (origin = .coJSON ∧ force = false) ∧ AlreadyActive a scene →
        Refused run) ∧
    (Refused run ∨ BusThrew run →
      run.state.heatingOperationModes = a.heatingOperationModes ∧
      run.state.states = a.states ∧
      ((∀ group, target = .group group → rememberScene (scene % 256) = false) →
        run.state = a)) := by
  refine ⟨fun hrefused => ?_, fun hcategory hzone hfire hwind h => ?_, fun h => ?_⟩
  · exact (failsBy_verdict (refused_iff.1 hrefused)).imp protected_atCheck.1
      fun ⟨hjson, hraised⟩ => ⟨hjson, alreadyActive_atCheck.1 hraised⟩
  · refine refused_iff.2 ((verdict_iff hcategory (registered_atCheck.2 hfire)
      (registered_atCheck.2 hwind) (hasZone_atCheck.2 hzone)).mpr ?_)
    exact h.imp protected_atCheck.2
      fun ⟨hjson, hraised⟩ => ⟨hjson, alreadyActive_atCheck.2 hraised⟩
  · rw [state_of_refused h]
    exact ⟨atCheck_keeps.2, atCheck_keeps.1, atCheck_eq⟩

/-! ## A house -/

/-- Zone 2 has a light group and a shade group; nobody has raised an alarm but the one that the
state `alarm` stands for, and the wind blows in a cluster of shades. -/
def house : Apartment where
  zones :=
    [{ zoneID := 0, devices := [⟨[2, 16]⟩], heatingOperationMode := 0,
       groups := [{ groupID := 16, zoneID := 0, applicationType := .blinds, isValid := true,
                    isCluster := true }] },
     { zoneID := 2, devices := [⟨[2, 16]⟩], heatingOperationMode := 0,
       groups := [{ groupID := 1, zoneID := 2, applicationType := .lights, isValid := true },
                  { groupID := 2, zoneID := 2, applicationType := .blinds, isValid := true }] }]
  states :=
    [{ name := "fire", state := stateInactive }, { name := "wind", state := stateInactive },
     { name := "alarm", state := stateActive }, { name := "wind.group16", state := stateActive }]

def houseLight : Target :=
  .group { groupID := 1, zoneID := 2, applicationType := .lights, isValid := true }

def houseShade : Target :=
  .group { groupID := 2, zoneID := 2, applicationType := .blinds, isValid := true }

/-- The shade group is covered by the cluster: a call is refused, and nothing changes if it is no
scene to remember. -/
theorem callScene_house :
    let run := (callScene houseShade .coUnknown .timer sceneInc "" false house).run fun _ _ => true
    Refused run ∧ run.state = house := by
  have hwindy : WindyCluster house 16 := ⟨_, rfl, rfl, rfl, _, rfl, rfl⟩
  have hcovers : Covers house 16 houseShade :=
    Or.inr ⟨rfl, _, rfl, _, mem_cons_self, by decide, by decide⟩
  have h := callScene_refused house houseShade .coUnknown .timer sceneInc "" false
    (fun _ _ => true)
  have hrefused := h.2.1 (by decide) ⟨_, mem_cons_of_mem _ mem_cons_self, rfl⟩ rfl rfl
    (Or.inl (Or.inr ⟨16, by decide, hwindy, hcovers⟩))
  exact ⟨hrefused, (h.2.2 (Or.inl hrefused)).2.2 fun _ _ => by decide⟩

/-- The alarm scene for the light group comes from the web service: it is refused, though nothing
protects the group, and the scene has been recorded. -/
theorem callScene_unprotected :
    let run := (callScene houseLight .coJSON .timer sceneAlarm "" false house).run fun _ _ => false
    Refused run ∧ ¬ Protected house houseLight ∧ run.state ≠ house := by
  refine ⟨⟨_, _, rfl, .sceneAccess _, rfl, trivial⟩, ?_, by decide⟩
  rintro (⟨-, hshade⟩ | ⟨i, hi, -, hid | ⟨hgray, -⟩⟩)
  · cases hshade
  · cases hid
    exact absurd hi (by decide)
  · cases hgray

end SceneAccess

end Dss
