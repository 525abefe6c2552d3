import Mathlib.Data.List.Sublists
import Dss.BehaviorConfiguration
import Dss.BehaviorScenes
import Dss.JokerGroup
import Dss.SystemTrigger

/-!
# Setting the configuration of a group

Three requests set the application type and the configuration of a group. The text of the
configuration is read by the behaviour the group has at that time; then the type changes, and with
it possibly the class of the behaviour. How a text is parsed is left to the JSON library.
-/

namespace Dss

namespace GroupBehavior

/-! ## Requests -/

structure JsonLibrary : Type where
  /-- `Document::Parse` -/
  parse : String → JsonDocument
  /-- the text of a `JSONWriter` -/
  write : JsonDocument → String

/-- A group or a cluster. -/
structure Entry : Type where
  /-- `getZoneID` -/
  zoneID : ℕ
  group : Group
  /-- `isConfigurationLocked`, for a cluster -/
  configurationLocked : Bool := false

inductive Method : Type where
  | groupSetConfiguration : Method
  | groupSetColor : Method
  | clusterSetColor : Method
  deriving DecidableEq

structure Parameters : Type where
  /-- `groupID`, as it was given -/
  groupID : String := ""
  applicationType : Option String := none
  newColor : Option String := none
  configuration : Option String := none

/-- How a request ends. -/
inductive Answer : Type where
  /-- `JSONWriter::success` -/
  | success : Answer
  /-- `JSONWriter::failure` -/
  | failure (message : String) : Answer
  | thrown (e : Exception) : Answer
  | assertion : Answer
  deriving DecidableEq

/-- The part of `groupSetConfiguration` that decides about the type. -/
def typeForConfiguration (entry : Entry) (p : Parameters) :
    Except Answer (Option ApplicationType) :=
  if entry.zoneID = 0 ∧ isDefaultGroup entry.group.groupID = true then
    .error (.failure ("Configuration for group : '" ++ p.groupID ++ "' in zone 0 is not defined"))
  else
    let applicationType := (p.applicationType.map fun text => strToIntDef text (-1)).getD (-1)
    if applicationType < 0 then
      if isDefaultGroup entry.group.groupID || isGlobalAppDsGroup entry.group.groupID then
        .ok (some entry.group.applicationType)
      else
        .error (.failure ("Invalid application Type: '" ++ p.applicationType.getD "" ++ "'"))
    else .ok (castApplicationType applicationType)

/-- What `groupSetColor` and `clusterSetColor` make of a number. -/
def typeForColor (p : Parameters) (newColor : ℤ) : Except Answer (Option ApplicationType) :=
  if newColor < 0 then
    .error (.failure ("Invalid value for parameter newColor: '" ++ p.newColor.getD "" ++ "'"))
  else .ok (castApplicationType newColor)

/-- The type a request asks for, if it gets as far as the configuration. `getCluster` throws
where there is no cluster. -/
def Method.typeFor (method : Method) (entry : Entry) (p : Parameters) :
    Except Answer (Option ApplicationType) :=
  match method with
  | .groupSetConfiguration => typeForConfiguration entry p
  | .groupSetColor =>
    match p.newColor with
    | none => .error (.failure "missing parameter 'newColor'")
    | some text => typeForColor p (strToIntDef text (-1))
  | .clusterSetColor =>
    if isAppUserGroup entry.group.groupID = false then
      .error (.thrown (.itemNotFound (toString entry.group.groupID)))
    else
      match p.newColor.bind parseInt? with
      | none => .error (.failure "missing parameter 'newColor'")
      | some newColor => typeForColor p newColor

/-! ## The structure manipulator -/

def setOnBus (bus : Option Exception) (entry : Entry) (t : Option ApplicationType)
    (configuration : ℕ) : Option Exception × Entry :=
  (bus, { entry with
    group := (entry.group.setApplicationType t).setApplicationConfiguration configuration })

/-- `clusterSetApplication`: what it throws. -/
def clusterSetApplication (bus : Option Exception) (entry : Entry) (t : Option ApplicationType)
    (configuration : ℕ) : Option Exception × Entry :=
  if isAppUserGroup entry.group.groupID then
    if entry.configurationLocked then
      (some (.runtimeError "The group is locked and cannot be modified"), entry)
    else setOnBus bus entry t configuration
  else
    (some (.runtimeError ("clusterSetApplication cluster: id " ++
      toString entry.group.groupID ++ " not a cluster")), entry)

/-- `groupSetApplication`: what it throws. A cluster id belongs to a cluster of zone 0. -/
def groupSetApplication (bus : Option Exception) (entry : Entry) (t : Option ApplicationType)
    (configuration : ℕ) : Option Exception × Entry :=
  if (isDefaultGroup entry.group.groupID || isGlobalAppDsGroup entry.group.groupID) ∧
      some entry.group.applicationType ≠ t then
    (some (.runtimeError ("Group with id " ++ toString entry.group.groupID ++
      " cannot be modified")), entry)
  else if isAppUserGroup entry.group.groupID then clusterSetApplication bus entry t configuration
  else if isValidGroup entry.group.groupID then setOnBus bus entry t configuration
  else
    (some (.runtimeError ("groupSetApplication group: id " ++ toString entry.group.groupID ++
      " not valid")), entry)

def Method.setApplication : Method → Option Exception → Entry → Option ApplicationType → ℕ →
    Option Exception × Entry
  | .groupSetConfiguration | .groupSetColor => groupSetApplication
  | .clusterSetColor => clusterSetApplication

/-- The end of a request: the text is read by the behaviour of the group, as it is. -/
def Method.configure (method : Method) (lib : JsonLibrary) (bus : Option Exception)
    (entry : Entry) (t : Option ApplicationType) (text : String) : Answer × Entry :=
  match deserializeConfiguration entry.group.behavior.kind (lib.parse text) with
  | .error (.thrown e) => (.thrown e, entry)
  | .error .assertion => (.assertion, entry)
  | .ok configuration =>
    match method.setApplication bus entry t configuration with
    | (some e, entry) => (.thrown e, entry)
    | (none, entry) => (.success, entry)

def Method.handle (method : Method) (lib : JsonLibrary) (bus : Option Exception)
    (entry : Entry) (p : Parameters) : Answer × Entry :=
  match method.typeFor entry p with
  | .error answer => (answer, entry)
  | .ok t => method.configure lib bus entry t (p.configuration.getD "{}")

/-! ## The round trip -/

/-- `serializeApplicationConfiguration(getApplicationConfiguration())` -/
def Entry.serialized (lib : JsonLibrary) (entry : Entry) : String :=
  lib.write (entry.group.behavior.serializeConfiguration entry.group.behavior.configuration)

structure RoundTrip (lib : JsonLibrary) (entry : Entry) (t : ApplicationType) (text : String)
    (result : Answer × Entry) : Prop where
  type : result.1 = .success → result.2.group.applicationType = t
  meaning : result.1 = .success → t.behaviorKind = .ventilation → ∀ scene,
    Lists (lib.parse (result.2.serialized lib)) scene ↔ Lists (lib.parse text) scene
  /-- what is written is read as the configuration -/
  bits : result.1 = .success →
    deserializeConfiguration result.2.group.behavior.kind (lib.parse (result.2.serialized lib)) =
      .ok result.2.group.behavior.configuration
  refusal : ¬ IsConfiguration t.behaviorKind (lib.parse text) →
    (∃ e, result.1 = .thrown e) ∧ result.2 = entry

/-- What the behaviours write is parsed as it was written. -/
def ReadsBack (lib : JsonLibrary) : Prop :=
  ∀ (b : Behavior) (written : ℕ),
    lib.parse (lib.write (b.serializeConfiguration written)) = b.serializeConfiguration written

/-- Whether the manipulator lets the group have the type. -/
def Entry.accepts (entry : Entry) (t : ApplicationType) : Bool :=
  !((isDefaultGroup entry.group.groupID || isGlobalAppDsGroup entry.group.groupID) &&
      !decide (entry.group.applicationType = t)) &&
    if isAppUserGroup entry.group.groupID then !entry.configurationLocked
    else isValidGroup entry.group.groupID

/-- Every basic scene is active according to a text. -/
def ListsAll (d : JsonDocument) : Prop := ∀ scene ∈ offsetToSceneId, Lists d scene

/-- When the round trip succeeds. Between two ventilations the list has to be readable. Where
the class of the behaviour changes, only a text that makes all scenes active is read right,
unless the request is refused anyway. -/
def ConfigurationFits (bus : Option Exception) (entry : Entry) (t : ApplicationType)
    (d : JsonDocument) : Prop :=
  match entry.group.applicationType.behaviorKind, t.behaviorKind with
  | .default, .default => True
  | .ventilation, .ventilation => ¬ IsUnreadable d
  | .default, .ventilation => entry.accepts t = true → d.isObject = true →
    IsConfiguration .ventilation d ∧ (bus = none → ListsAll d)
  | .ventilation, .default => entry.accepts t = true → bus = none →
    IsConfiguration .ventilation d → ListsAll d

/-! ## The manipulator, by what it accepts -/

variable {lib : JsonLibrary} {bus : Option Exception} {entry : Entry} {t : ApplicationType}
  {method : Method} {text : String} {configuration : ℕ}

theorem clusterSetApplication_eq (h : isAppUserGroup entry.group.groupID = true)
    (t : Option ApplicationType) :
    clusterSetApplication bus entry t configuration =
      groupSetApplication bus entry t configuration := by
  rw [groupSetApplication, if_neg (by rw [isDefaultGroup_eq_false h]; simp), if_pos h]

theorem groupSetApplication_of_accepts (h : entry.accepts t = true) :
    groupSetApplication bus entry (some t) configuration =
      setOnBus bus entry (some t) configuration := by
  simp only [Entry.accepts, Bool.and_eq_true, Bool.not_eq_true', Bool.and_eq_false_iff,
    Bool.not_eq_false', decide_eq_true_iff] at h
  obtain ⟨htype, hrest⟩ := h
  have hmodified : ¬ ((isDefaultGroup entry.group.groupID ||
      isGlobalAppDsGroup entry.group.groupID) = true ∧
      some entry.group.applicationType ≠ some t) := by
    rintro ⟨hfixed, hne⟩
    rcases htype with hfree | hsame
    · rw [hfixed] at hfree
      cases hfree
    · exact hne (congrArg some hsame)
  rw [groupSetApplication]
  split_ifs at hrest ⊢ with hcluster
  · rw [clusterSetApplication, if_pos hcluster, if_neg (by simpa using hrest)]
  · rfl

theorem groupSetApplication_of_not_accepts (h : entry.accepts t = false) :
    ∃ e, groupSetApplication bus entry (some t) configuration = (some e, entry) := by
  rw [groupSetApplication]
  split_ifs with hmodified hcluster hvalid
  · exact ⟨_, rfl⟩
  · rw [clusterSetApplication, if_pos hcluster]
    by_cases hlocked : entry.configurationLocked = true
    · exact ⟨_, if_pos hlocked⟩
    · simp [Entry.accepts, hcluster, isDefaultGroup_eq_false hcluster, hlocked] at h
  · have haccepts : entry.accepts t = true := by
      simp only [Entry.accepts, if_neg hcluster, hvalid, Bool.and_true, Bool.not_eq_true',
        Bool.and_eq_false_iff, Bool.not_eq_false', decide_eq_true_iff]
      by_contra hor
      rw [not_or, Bool.not_eq_false] at hor
      exact hmodified ⟨hor.1, fun heq => hor.2 (Option.some.inj heq)⟩
    rw [haccepts] at h
    cases h
  · exact ⟨_, rfl⟩

theorem applicationType_of_accepts (h : entry.accepts t = true) :
    (entry.group.setApplicationType (some t)).applicationType = t := by
  rw [Group.setApplicationType]
  split_ifs with hsame hfixed
  · exact Option.some.inj hsame
  · simp only [Entry.accepts, Bool.and_eq_true, Bool.not_eq_true', Bool.and_eq_false_iff,
      Bool.not_eq_false', decide_eq_true_iff] at h
    simp only [Group.typeIsFixed, Bool.and_eq_true] at hfixed
    rcases h.1 with hfree | hsame'
    · rw [hfixed.1] at hfree
      cases hfree
    · exact absurd (congrArg some hsame') hsame
  · rfl

/-! ## The cases of the round trip -/

theorem roundTrip_of_thrown {e : Exception} : RoundTrip lib entry t text (.thrown e, entry) := by
  refine ⟨fun h => ?_, fun h => ?_, fun h => ?_, fun _ => ⟨⟨e, rfl⟩, rfl⟩⟩
  all_goals cases h

theorem roundTrip_of_assertion_iff : RoundTrip lib entry t text (.assertion, entry) ↔
    IsConfiguration t.behaviorKind (lib.parse text) := by
  constructor
  · intro h
    by_contra hnot
    obtain ⟨⟨e, he⟩, -⟩ := h.refusal hnot
    cases he
  · intro h
    refine ⟨fun h => ?_, fun h => ?_, fun h => ?_, fun hnot => absurd h hnot⟩
    all_goals cases h

theorem roundTrip_of_changed_iff {e : Exception} {entry' : Entry} (h : entry' ≠ entry ∨
    IsConfiguration t.behaviorKind (lib.parse text)) :
    RoundTrip lib entry t text (.thrown e, entry') ↔
      IsConfiguration t.behaviorKind (lib.parse text) := by
  constructor
  · intro htrip
    by_contra hnot
    rcases h with hne | hconf
    · exact hne (htrip.refusal hnot).2
    · exact hnot hconf
  · intro hconf
    refine ⟨fun h => ?_, fun h => ?_, fun h => ?_, fun hnot => absurd hconf hnot⟩
    all_goals cases h

def Entry.set (entry : Entry) (t : ApplicationType) (configuration : ℕ) : Entry :=
  { entry with
    group := (entry.group.setApplicationType (some t)).setApplicationConfiguration configuration }

theorem kind_set (h : entry.accepts t = true) :
    (entry.set t configuration).group.behavior.kind = t.behaviorKind := by
  refine (entry.set t configuration).group.kind_behavior.trans ?_
  exact congrArg ApplicationType.behaviorKind (applicationType_of_accepts h)

theorem roundTrip_of_success_iff (hlib : ReadsBack lib) (h : entry.accepts t = true) :
    RoundTrip lib entry t text (.success, entry.set t configuration) ↔
      IsConfiguration t.behaviorKind (lib.parse text) ∧
      (t.behaviorKind = .ventilation → ∀ scene,
        scene ∈ activeScenes configuration ↔ Lists (lib.parse text) scene) ∧
      deserializeConfiguration t.behaviorKind
        ((entry.set t configuration).group.behavior.serializeConfiguration configuration) =
          .ok configuration := by
  have hread : lib.parse ((entry.set t configuration).serialized lib) =
      (entry.set t configuration).group.behavior.serializeConfiguration configuration :=
    hlib _ _
  constructor
  · intro htrip
    refine ⟨?_, fun hkind scene => ?_, ?_⟩
    · by_contra hnot
      obtain ⟨⟨e, he⟩, -⟩ := htrip.refusal hnot
      cases he
    · have hmeaning := htrip.meaning rfl hkind scene
      rw [hread, lists_serialize ((kind_set h).trans hkind)] at hmeaning
      exact hmeaning
    · have hbits := htrip.bits rfl
      rw [hread, kind_set h] at hbits
      exact hbits
  · rintro ⟨hconf, hmeaning, hbits⟩
    refine ⟨fun _ => applicationType_of_accepts h, fun _ hkind scene => ?_, fun _ => ?_,
      fun hnot => absurd hconf hnot⟩
    · rw [hread, lists_serialize ((kind_set h).trans hkind)]
      exact hmeaning hkind scene
    · rw [hread, kind_set h]
      exact hbits

theorem eq_zero_iff {d : JsonDocument} (h : Decoded d configuration) :
    configuration = 0 ↔ ListsAll d := by
  have hzero : ∀ scene, scene ∈ activeScenes 0 ↔ scene ∈ offsetToSceneId := by
    have heq : activeScenes 0 = offsetToSceneId := by decide
    intro scene
    rw [heq]
  constructor
  · rintro rfl scene hscene
    exact (h.active scene).mp ((hzero scene).mpr hscene)
  · intro hall
    refine eq_of_activeScenes h.bound (by decide) fun scene => ?_
    rw [h.active]
    exact ⟨fun hlists => hlists.1, hall scene⟩

theorem deserialize_default_serialize {b : Behavior} (h : b.kind = .default) (written : ℕ) :
    deserializeConfiguration .default (b.serializeConfiguration written) = .ok 0 := by
  rw [Behavior.serializeConfiguration, h]
  rfl

theorem set_ne (h : entry.accepts t = true)
    (hkind : entry.group.applicationType.behaviorKind ≠ t.behaviorKind) :
    entry.set t configuration ≠ entry := by
  intro heq
  have htype : (entry.set t configuration).group.applicationType = t := applicationType_of_accepts h
  rw [heq] at htype
  exact hkind (congrArg ApplicationType.behaviorKind htype)

theorem mem_activeScenes_zero {scene : ℕ} : scene ∈ activeScenes 0 ↔ scene ∈ offsetToSceneId := by
  have heq : activeScenes 0 = offsetToSceneId := by decide
  rw [heq]

theorem roundTrip_configure_iff (hlib : ReadsBack lib)
    (hset : method.setApplication bus entry (some t) configuration =
      groupSetApplication bus entry (some t) configuration)
    (hdecode : deserializeConfiguration entry.group.behavior.kind (lib.parse text) =
      .ok configuration)
    (hkind : entry.group.applicationType.behaviorKind ≠ t.behaviorKind ∨
      IsConfiguration t.behaviorKind (lib.parse text)) :
    RoundTrip lib entry t text (method.configure lib bus entry (some t) text) ↔
      (entry.accepts t = true → IsConfiguration t.behaviorKind (lib.parse text) ∧
        (bus = none → (t.behaviorKind = .ventilation → ∀ scene,
            scene ∈ activeScenes configuration ↔ Lists (lib.parse text) scene) ∧
          deserializeConfiguration t.behaviorKind
            ((entry.set t configuration).group.behavior.serializeConfiguration configuration) =
              .ok configuration)) := by
  rw [Method.configure, hdecode]
  simp only
  rw [hset]
  rcases haccepts : entry.accepts t with - | -
  · obtain ⟨e, he⟩ : ∃ e, groupSetApplication bus entry (some t) configuration =
        (some e, entry) := groupSetApplication_of_not_accepts haccepts
    rw [he]
    exact ⟨fun _ h => absurd h Bool.false_ne_true, fun _ => roundTrip_of_thrown⟩
  · rw [groupSetApplication_of_accepts haccepts]
    rcases bus with - | e
    · refine (roundTrip_of_success_iff hlib haccepts).trans ?_
      exact ⟨fun h _ => ⟨h.1, fun _ => h.2⟩, fun h => ⟨(h rfl).1, (h rfl).2 rfl⟩⟩
    · refine (roundTrip_of_changed_iff ?_).trans ?_
      · exact hkind.imp_left fun hne => set_ne haccepts hne
      · exact ⟨fun h _ => ⟨h, nofun⟩, fun h => (h rfl).1⟩

theorem not_isUnreadable {d : JsonDocument} (h : IsConfiguration .ventilation d) :
    ¬ IsUnreadable d := by
  rintro ⟨items, hmember, hread⟩
  obtain ⟨others, hsame, hall⟩ := h.2 rfl _ hmember
  obtain rfl := JsonDocument.array.inj hsame
  rw [readable, List.find?_eq_none.mpr fun item hitem => by
    simpa [Option.isNone_iff_eq_none, Option.isSome_iff_ne_none] using hall item hitem] at hread
  cases hread

theorem setApplication_eq {p : Parameters} (h : method.typeFor entry p = .ok (some t)) :
    method.setApplication bus entry (some t) configuration =
      groupSetApplication bus entry (some t) configuration := by
  cases method with
  | groupSetConfiguration => rfl
  | groupSetColor => rfl
  | clusterSetColor =>
    rcases hcluster : isAppUserGroup entry.group.groupID with - | -
    · rw [Method.typeFor] at h
      simp only [hcluster, if_true] at h
      cases h
    · exact clusterSetApplication_eq hcluster _

theorem roundTrip_of_default (hlib : ReadsBack lib)
    (hset : ∀ configuration, method.setApplication bus entry (some t) configuration =
      groupSetApplication bus entry (some t) configuration)
    (hold : entry.group.applicationType.behaviorKind = .default) :
    RoundTrip lib entry t text (method.configure lib bus entry (some t) text) ↔
      ConfigurationFits bus entry t (lib.parse text) := by
  have hkind : entry.group.behavior.kind = .default := entry.group.kind_behavior.trans hold
  rcases hobject : (lib.parse text).isObject with - | -
  · -- both behaviours refuse the text
    have hthrown : RoundTrip lib entry t text (method.configure lib bus entry (some t) text) := by
      rw [Method.configure, hkind, deserialize_default, if_pos hobject]
      exact roundTrip_of_thrown
    refine iff_of_true hthrown ?_
    rw [ConfigurationFits, hold]
    cases t.behaviorKind with
    | default => exact trivial
    | ventilation => exact fun _ h => absurd (hobject.symm.trans h) Bool.false_ne_true
  · have hdecode : deserializeConfiguration entry.group.behavior.kind (lib.parse text) = .ok 0 := by
      rw [hkind, deserialize_default, if_neg (by rw [hobject]; simp)]
    rw [ConfigurationFits, hold]
    rcases hnew : t.behaviorKind with - | -
    · have hconf : IsConfiguration t.behaviorKind (lib.parse text) := by
        rw [hnew]
        exact isConfiguration_default.mpr hobject
      rw [roundTrip_configure_iff hlib (hset 0) hdecode (Or.inr hconf), hnew]
      refine iff_of_true (fun haccepts => ⟨hnew ▸ hconf, fun _ => ⟨nofun, ?_⟩⟩) trivial
      exact deserialize_default_serialize ((kind_set haccepts).trans hnew) 0
    · rw [roundTrip_configure_iff hlib (hset 0) hdecode
        (Or.inl (by rw [hold, hnew]; exact nofun)), hnew]
      refine forall_congr' fun haccepts => ?_
      refine ⟨fun h _ => ⟨h.1, fun hbus scene hscene => ?_⟩,
        fun h => ⟨(h hobject).1, fun hbus => ?_⟩⟩
      · exact ((h.2 hbus).1 rfl scene).mp (mem_activeScenes_zero.2 hscene)
      · refine ⟨fun _ scene => ?_, ?_⟩
        · exact ⟨fun hscene => (h hobject).2 hbus scene hscene, fun hlists => hlists.1⟩
        · exact deserialize_serialize (b := (entry.set t 0).group.behavior)
            ((kind_set haccepts).trans hnew) (show 0 < 2 ^ 6 by decide) 0

theorem roundTrip_of_ventilation (hlib : ReadsBack lib)
    (hset : ∀ configuration, method.setApplication bus entry (some t) configuration =
      groupSetApplication bus entry (some t) configuration)
    (hold : entry.group.applicationType.behaviorKind = .ventilation) :
    RoundTrip lib entry t text (method.configure lib bus entry (some t) text) ↔
      ConfigurationFits bus entry t (lib.parse text) := by
  have hkind : entry.group.behavior.kind = .ventilation := entry.group.kind_behavior.trans hold
  rw [ConfigurationFits, hold]
  rcases deserialize_ventilation (lib.parse text) with
    ⟨hconf, c, hc, hdecoded⟩ | ⟨hconf, hread, e, he⟩ | ⟨hconf, hread, he⟩
  · -- the text lists basic scenes
    have hdecode : deserializeConfiguration entry.group.behavior.kind (lib.parse text) = .ok c := by
      rw [hkind, hc]
    rcases hnew : t.behaviorKind with - | -
    · rw [roundTrip_configure_iff hlib (hset c) hdecode
        (Or.inl (by rw [hold, hnew]; exact nofun)), hnew]
      refine forall_congr' fun haccepts => ?_
      rw [deserialize_default_serialize (b := (entry.set t c).group.behavior)
        ((kind_set haccepts).trans hnew) c]
      refine ⟨fun h hbus _ => ?_, fun h => ⟨isConfiguration_default.mpr hconf.1, fun hbus => ?_⟩⟩
      · exact (eq_zero_iff hdecoded).mp (Except.ok.inj (h.2 hbus).2).symm
      · exact ⟨nofun, congrArg Except.ok ((eq_zero_iff hdecoded).mpr (h hbus hconf)).symm⟩
    · rw [roundTrip_configure_iff hlib (hset c) hdecode (Or.inr (by rw [hnew]; exact hconf)), hnew]
      refine iff_of_true (fun haccepts => ⟨hconf, fun _ => ⟨fun _ => hdecoded.active, ?_⟩⟩)
        (not_isUnreadable hconf)
      exact deserialize_serialize (b := (entry.set t c).group.behavior)
        ((kind_set haccepts).trans hnew) hdecoded.bound c
  · -- the text is refused
    have hthrown : RoundTrip lib entry t text (method.configure lib bus entry (some t) text) := by
      rw [Method.configure, hkind, he]
      exact roundTrip_of_thrown
    refine iff_of_true hthrown ?_
    cases t.behaviorKind with
    | default => exact fun _ _ h => absurd h hconf
    | ventilation => exact hread
  · -- reading the text fails an assertion
    rw [Method.configure, hkind, he]
    refine roundTrip_of_assertion_iff.trans ?_
    cases t.behaviorKind with
    | default =>
      obtain ⟨items, hmember, -⟩ := hread
      exact iff_of_true (isConfiguration_default.mpr (isObject_of_member hmember))
        fun _ _ h => absurd h hconf
    | ventilation => exact iff_of_false hconf fun h => h hread

/-- **The configuration of a group.** A request that succeeds leaves the type and the
configuration of its text, and refuses any other text with an exception, exactly if the old and
the new type have the same class of behaviour and a list of scenes is readable, or if nothing
is lost between the classes. -/
theorem configuration_iff (hlib : ReadsBack lib) {p : Parameters}
    (h : method.typeFor entry p = .ok (some t)) (bus : Option Exception) :
    RoundTrip lib entry t (p.configuration.getD "{}") (method.handle lib bus entry p) ↔
      ConfigurationFits bus entry t (lib.parse (p.configuration.getD "{}")) := by
  rw [Method.handle, h]
  rcases hold : entry.group.applicationType.behaviorKind with - | -
  · exact roundTrip_of_default hlib (fun _ => setApplication_eq h) hold
  · exact roundTrip_of_ventilation hlib (fun _ => setApplication_eq h) hold

/-! ## A request for a cluster -/

def openingText : List Char := "\x7b\"activeBasicScenes\":[".toList
def closingText : List Char := "]\x7d".toList

def scenesText (scenes : List ℕ) : List Char :=
  openingText ++ List.intercalate [','] (scenes.map (Nat.toDigits 10)) ++ closingText

def readScenes (text : List Char) : List ℕ :=
  let inner := (text.drop openingText.length).take
    (text.length - openingText.length - closingText.length)
  if inner = [] then []
  else (inner.splitOn ',').map fun digits =>
    digits.foldl (fun n c => n * 10 + (c.toNat - '0'.toNat)) 0

/-- The library, on the texts that list scenes and on `{}`. -/
def sceneLibrary : JsonLibrary where
  parse text :=
    if text.toList = scenesText (readScenes text.toList) then
      .object [(activeBasicScenesMember,
        .array ((readScenes text.toList).map fun scene : ℕ => .int scene))]
    else if text = "{}" then .object []
    else .null
  write
    | .object [(_, .array items)] => String.ofList (scenesText (items.map fun
        | .int scene => scene.toNat
        | _ => 0))
    | _ => "{}"

theorem activeScenes_sublist (configuration : ℕ) :
    (activeScenes configuration).Sublist offsetToSceneId := by
  have h : (offsetToSceneId.zipIdx.filter fun entry => !configuration.testBit entry.2).Sublist
      offsetToSceneId.zipIdx := List.filter_sublist
  have hmap := h.map Prod.fst
  rwa [List.zipIdx_map_fst] at hmap

theorem readScenes_scenesText :
    ∀ scenes ∈ offsetToSceneId.sublists, readScenes (scenesText scenes) = scenes := by
  decide +kernel

theorem parse_scenesText {scenes : List ℕ} (h : scenes.Sublist offsetToSceneId) :
    sceneLibrary.parse (String.ofList (scenesText scenes)) =
      .object [(activeBasicScenesMember, .array (scenes.map fun scene : ℕ => .int scene))] := by
  have hread := readScenes_scenesText scenes (List.mem_sublists.mpr h)
  rw [sceneLibrary]
  simp only [String.toList_ofList, hread, if_true]

theorem readsBack_sceneLibrary : ReadsBack sceneLibrary := by
  intro b written
  rw [Behavior.serializeConfiguration]
  rcases b.kind with - | -
  · rw [sceneLibrary]
    simp only
    rw [if_neg (by decide), if_pos trivial]
  · have hmap : (b.getActiveBasicScenes.map fun scene : ℕ => JsonDocument.int scene).map
        (fun | .int scene => scene.toNat | _ => 0) = b.getActiveBasicScenes := by
      simp [Function.comp_def]
    have hparse := parse_scenesText (activeScenes_sublist b.configuration)
    show sceneLibrary.parse (String.ofList (scenesText (List.map _ (List.map _ _)))) = _
    rw [hmap]
    exact hparse

def ventilationCluster : Entry where
  zoneID := 0
  group := (Group.make groupIDAppUserMin).setApplicationType (some .ventilation)

def recirculationParameters : Parameters where
  newColor := some "12"
  configuration := some (String.ofList (scenesText [scene1, scene2]))

theorem reaches_cluster : Method.clusterSetColor.typeFor ventilationCluster
    recirculationParameters = .ok (some .recirculation) := by
  decide +kernel

/-- The cluster has the type and the scenes. -/
theorem configuration_cluster :
    RoundTrip sceneLibrary ventilationCluster .recirculation
      (recirculationParameters.configuration.getD "{}")
      (Method.clusterSetColor.handle sceneLibrary none ventilationCluster
        recirculationParameters) := by
  refine (configuration_iff readsBack_sceneLibrary reaches_cluster none).mpr ?_
  refine not_isUnreadable ?_
  show IsConfiguration .ventilation
    (sceneLibrary.parse (String.ofList (scenesText [scene1, scene2])))
  rw [parse_scenesText (by decide), isConfiguration_iff_of_items rfl]
  simp [documentBit, sceneBit_natCast_isSome, offsetToSceneId]

/-- A cluster without a type that becomes one for recirculation: the scenes are lost, and all
are active. -/
theorem configuration_fails : ¬ ∀ lib, ReadsBack lib → ∀ (method : Method) (entry : Entry)
    (p : Parameters) (t : ApplicationType), method.typeFor entry p = .ok (some t) →
    RoundTrip lib entry t (p.configuration.getD "{}") (method.handle lib none entry p) := by
  intro hall
  let entry : Entry := { zoneID := 0, group := .make groupIDAppUserMin }
  have hreach : Method.clusterSetColor.typeFor entry recirculationParameters =
      .ok (some .recirculation) := by decide +kernel
  have htrip := hall sceneLibrary readsBack_sceneLibrary .clusterSetColor entry
    recirculationParameters .recirculation hreach
  rw [Method.handle] at htrip
  have hfits := (roundTrip_of_default readsBack_sceneLibrary
    (fun _ => setApplication_eq hreach) rfl).mp htrip
  have hparse := parse_scenesText (show [scene1, scene2].Sublist offsetToSceneId by decide)
  have hobject : (sceneLibrary.parse (String.ofList (scenesText [scene1, scene2]))).isObject =
      true := by
    rw [hparse]
    rfl
  have hlists : ListsAll (sceneLibrary.parse (String.ofList (scenesText [scene1, scene2]))) :=
    (hfits rfl hobject).2 rfl
  rw [hparse] at hlists
  obtain ⟨-, hlisted⟩ := hlists sceneOff (by decide)
  obtain ⟨items, hsame, hitem⟩ := hlisted _ rfl
  obtain rfl := JsonDocument.array.inj hsame
  simp [sceneOff, scene1, scene2] at hitem

end GroupBehavior

end Dss
