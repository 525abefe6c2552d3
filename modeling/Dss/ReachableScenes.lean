import Dss.BehaviorScenes
import Dss.SortedRanges

/-!
# The reachable scenes of a group

`getReachableScenes` collects the scenes of all buttons that are assigned to a group, and keeps
those that the behaviour of the group has available. Both ranges that are intersected are sorted.
For button 12 the table names scene 33 twice, where the comment above it goes on to scene 34.
-/

namespace Dss

namespace SceneHelper

def sceneMin : ℕ := 0x0D
def sceneMax : ℕ := 0x0E
def sceneSunProtection : ℕ := 0x38
def sceneWakeUp : ℕ := 0x46
def scenePresent : ℕ := 0x47
def sceneRoomActivate : ℕ := 0x4B
def sceneWater : ℕ := 0x4E
def sceneBell2 : ℕ := 0x50
def sceneBell3 : ℕ := 0x51
def sceneBell4 : ℕ := 0x52
def sceneWindInactive : ℕ := 0x57
def sceneRainInactive : ℕ := 0x59
def sceneHailInactive : ℕ := 0x5b
def groupIDBlack : ℕ := 8
def groupIDVentilation : ℕ := 10

/-- `getAvailableScenes` -/
def getAvailableScenes : List ℕ :=
  [sceneOff, sceneOffA1, sceneOffA2, sceneOffA3, sceneOffA4, scene1, sceneA11, sceneA21, sceneA31,
    sceneA41, sceneDimArea, sceneDec, sceneInc, sceneMin, sceneMax, sceneStop, scene2, scene3,
    scene4, scene12, scene13, scene14, scene22, scene23, scene24, scene32, scene33, scene34,
    scene42, scene43, scene44, sceneOffE1, sceneOnE1, sceneOffE2, sceneOnE2, sceneOffE3,
    sceneBoost, sceneOnE3, sceneOffE4, sceneOnE4, sceneAutoOff, sceneImpulse, sceneDecA1,
    sceneIncA1, sceneDecA2, sceneIncA2, sceneDecA3, sceneIncA3, sceneDecA4, sceneIncA4,
    sceneLocalOff, sceneLocalOn, sceneStopA1, sceneStopA2, sceneStopA3, sceneStopA4,
    sceneSunProtection,
    -- the scenes of the apartment
    sceneAutoStandBy, scenePanic, sceneEnergyOverload, sceneStandBy, sceneDeepOff, sceneSleeping,
    sceneWakeUp, scenePresent, sceneAbsent, sceneBell, sceneAlarm, sceneRoomActivate, sceneFire,
    sceneSmoke, sceneWater, sceneGas, sceneBell2, sceneBell3, sceneBell4, sceneAlarm2, sceneAlarm3,
    sceneAlarm4, sceneWindActive, sceneWindInactive, sceneRainActive, sceneRainInactive,
    sceneHailActive, sceneHailInactive]

def defaultReachableScenes : List (ℤ × List ℕ) :=
  [(0, [sceneOff, scene2, scene3, scene4]),
    (1, [sceneOff, sceneOffA1, sceneA11, scene2, scene3, scene4]),
    (2, [sceneOff, sceneOffA2, sceneA21, scene2, scene3, scene4]),
    (3, [sceneOff, sceneOffA3, sceneA31, scene2, scene3, scene4]),
    (4, [sceneOff, sceneOffA4, sceneA41, scene2, scene3, scene4]),
    (5, [sceneOff, scene1, scene2, scene3, scene4]),
    (6, [sceneOff, sceneOffE1, sceneOnE1, scene12, scene13, scene14]),
    (7, [sceneOff, sceneOffE2, sceneOnE2, scene22, scene23, scene24]),
    (8, [sceneOff, sceneOffE3, sceneOnE3, scene32, scene33, scene34]),
    (9, [sceneOff, sceneOffE4, sceneOnE4, scene42, scene43, scene44]),
    (10, [sceneOff, sceneOffA1, sceneA11, scene12, scene13, scene14]),
    (11, [sceneOff, sceneOffA2, sceneA21, scene22, scene23, scene24]),
    (12, [sceneOff, sceneOffA3, sceneA31, scene32, scene33, scene33]),
    (13, [sceneOff, sceneOffA4, sceneA41, scene42, scene43, scene44])]

def jokerReachableScenes : List (ℤ × List ℕ) :=
  [(1, [sceneAlarm]), (2, [scenePanic]), (3, [sceneAbsent]), (5, [sceneBell])]

def ventilationReachableScenes : List (ℤ × List ℕ) :=
  [(5, [sceneOff, scene1, scene2, scene3, scene4, sceneBoost])]

def reachableTable (group : ℕ) : List (ℤ × List ℕ) :=
  if group = groupIDBlack then jokerReachableScenes
  else if group = groupIDVentilation ∨ group = groupIDGlobalAppDsVentilation then
    ventilationReachableScenes
  else defaultReachableScenes

def getReachableScenes (buttonId : ℤ) (group : ℕ) : List ℕ :=
  ((reachableTable group).lookup buttonId).getD []

/-- What the comment above the tables says of a button: the scenes of the table, and for button 12
the scenes 32 to 34. -/
def Reaches (buttonId : ℤ) (group scene : ℕ) : Prop :=
  scene ∈ getReachableScenes buttonId group ∨
    reachableTable group = defaultReachableScenes ∧ buttonId = 12 ∧ scene = scene34

theorem mem_getReachableScenes_scene34 {buttonId : ℤ} {group : ℕ} :
    scene34 ∈ getReachableScenes buttonId group ↔
      reachableTable group = defaultReachableScenes ∧ buttonId = 8 := by
  have hrow : ∀ table ∈ [defaultReachableScenes, jokerReachableScenes,
      ventilationReachableScenes], ∀ row ∈ table, scene34 ∈ row.2 →
      table = defaultReachableScenes ∧ row.1 = 8 := by decide
  have htable : reachableTable group ∈ [defaultReachableScenes, jokerReachableScenes,
      ventilationReachableScenes] := by
    unfold reachableTable
    split_ifs <;> simp
  constructor
  · intro hmem
    rw [getReachableScenes] at hmem
    cases hlookup : (reachableTable group).lookup buttonId with
    | none =>
      rw [hlookup] at hmem
      cases hmem
    | some scenes =>
      rw [hlookup] at hmem
      obtain ⟨before, behind, heq, -⟩ := List.lookup_eq_some_iff.mp hlookup
      refine hrow _ htable (buttonId, scenes) ?_ hmem
      rw [heq]
      simp
  · rintro ⟨htable, rfl⟩
    rw [getReachableScenes, htable]
    decide

end SceneHelper

namespace GroupBehavior

open SceneHelper SortedRanges

/-! ## The code -/

/-- `getAvailableScenes` of a behaviour. -/
def Behavior.getAvailableScenes (b : Behavior) : List ℕ :=
  match b.kind with
  | .default => SceneHelper.getAvailableScenes
  | .ventilation => b.getActiveBasicScenes

structure ButtonDevice : Type where
  buttonInputCount : ℕ
  buttonID : ℤ
  buttonActiveGroup : ℤ
  activeGroup : ℤ
  deriving DecidableEq

def ButtonDevice.IsAssigned (group : Group) (d : ButtonDevice) : Prop :=
  0 < d.buttonInputCount ∧ (d.buttonActiveGroup = group.groupID ∨
    d.buttonActiveGroup = 255 ∧ d.activeGroup = group.groupID)

instance (group : Group) (d : ButtonDevice) : Decidable (d.IsAssigned group) :=
  inferInstanceAs (Decidable (_ ∧ _))

/-- `filteredGroupScenes` -/
def filteredGroupScenes (group : Group) (devicesInGroup : List ButtonDevice) : List ℕ :=
  let groupReachableScenes := (devicesInGroup.filter fun d => d.IsAssigned group).flatMap fun d =>
    SceneHelper.getReachableScenes d.buttonID group.groupID
  setIntersection (sortedUnique groupReachableScenes)
    (Behavior.getAvailableScenes group.behavior)

inductive SceneAnswer : Type where
  | failure (message : String) : SceneAnswer
  | success (reachableScenes : List ℕ) (userSceneNames : List (ℕ × String)) : SceneAnswer
  deriving DecidableEq

def getReachableScenes (pGroup : Option Group) (devicesInGroup : List ButtonDevice)
    (getSceneName : ℕ → String) : SceneAnswer :=
  match pGroup with
  | none => .failure "Need group to work"
  | some group =>
    let scenes := filteredGroupScenes group devicesInGroup
    .success scenes ((scenes.map fun scene => (scene, getSceneName scene)).filter
      fun entry => entry.2 ≠ "")

/-! ## The law -/

/-- A button that is assigned to the group reaches the scene. -/
def Reachable (group : Group) (devices : List ButtonDevice) (scene : ℕ) : Prop :=
  ∃ d ∈ devices, d.IsAssigned group ∧ Reaches d.buttonID group.groupID scene

structure ReachableLaw (group : Group) (devices : List ButtonDevice) (scenes : List ℕ) :
    Prop where
  ascending : scenes.Pairwise (· < ·)
  mem_iff : ∀ scene, scene ∈ scenes ↔
    Reachable group devices scene ∧ scene ∈ Behavior.getAvailableScenes group.behavior

/-- The request answers with the scenes that can be reached, and their names. -/
def Lawful (group : Group) (devices : List ButtonDevice) (getSceneName : ℕ → String) : Prop :=
  ∃ scenes names, getReachableScenes (some group) devices getSceneName = .success scenes names ∧
    ReachableLaw group devices scenes

/-- No button 12 is assigned, unless the group has tables of its own or does not have scene 34
available, or there is a button 8, too. -/
def ButtonsFit (group : Group) (devices : List ButtonDevice) : Prop :=
  reachableTable group.groupID = defaultReachableScenes →
    scene34 ∈ Behavior.getAvailableScenes group.behavior →
      (∃ d ∈ devices, d.IsAssigned group ∧ d.buttonID = 12) →
        ∃ d ∈ devices, d.IsAssigned group ∧ d.buttonID = 8

variable {group : Group} {devices : List ButtonDevice} {getSceneName : ℕ → String}

theorem pairwise_getAvailableScenes (b : Behavior) :
    (Behavior.getAvailableScenes b).Pairwise (· ≤ ·) := by
  rw [Behavior.getAvailableScenes]
  cases b.kind with
  | default => exact (by decide : SceneHelper.getAvailableScenes.Pairwise (· ≤ ·))
  | ventilation =>
    have hsorted : offsetToSceneId.Pairwise (· ≤ ·) := by decide
    refine hsorted.sublist ?_
    have hsublist := (List.filter_sublist (l := offsetToSceneId.zipIdx)
      (p := fun entry => !b.configuration.testBit entry.2)).map Prod.fst
    rwa [List.zipIdx_map_fst] at hsublist

theorem mem_filteredGroupScenes (scene : ℕ) :
    scene ∈ filteredGroupScenes group devices ↔
      (∃ d ∈ devices, d.IsAssigned group ∧
        scene ∈ SceneHelper.getReachableScenes d.buttonID group.groupID) ∧
      scene ∈ Behavior.getAvailableScenes group.behavior := by
  rw [filteredGroupScenes, mem_setIntersection (pairwise_sortedUnique.imp le_of_lt)
    (pairwise_getAvailableScenes _), mem_sortedUnique, List.mem_flatMap]
  simp only [List.mem_filter, decide_eq_true_eq, and_assoc]

theorem pairwise_filteredGroupScenes : (filteredGroupScenes group devices).Pairwise (· < ·) :=
  pairwise_sortedUnique.sublist sublist_setIntersection

theorem reachableLaw_iff :
    ReachableLaw group devices (filteredGroupScenes group devices) ↔
      ButtonsFit group devices := by
  constructor
  · rintro ⟨-, hmem⟩ htable havailable ⟨d, hd, hassigned, hbutton⟩
    obtain ⟨⟨d', hd', hassigned', hscene⟩, -⟩ := (mem_filteredGroupScenes _).mp
      ((hmem scene34).mpr ⟨⟨d, hd, hassigned, Or.inr ⟨htable, hbutton, rfl⟩⟩, havailable⟩)
    exact ⟨d', hd', hassigned', (mem_getReachableScenes_scene34.1 hscene).2⟩
  · intro hfits
    refine ⟨pairwise_filteredGroupScenes, fun scene => ?_⟩
    rw [mem_filteredGroupScenes]
    refine and_congr_left fun havailable => ⟨?_, ?_⟩
    · rintro ⟨d, hd, hassigned, hscene⟩
      exact ⟨d, hd, hassigned, Or.inl hscene⟩
    · rintro ⟨d, hd, hassigned, hscene | ⟨htable, hbutton, rfl⟩⟩
      · exact ⟨d, hd, hassigned, hscene⟩
      · obtain ⟨d', hd', hassigned', hbutton'⟩ :=
          hfits htable havailable ⟨d, hd, hassigned, hbutton⟩
        exact ⟨d', hd', hassigned', mem_getReachableScenes_scene34.2 ⟨htable, hbutton'⟩⟩

theorem lawful_iff_reachableLaw : Lawful group devices getSceneName ↔
    ReachableLaw group devices (filteredGroupScenes group devices) := by
  constructor
  · rintro ⟨scenes, names, hanswer, hlaw⟩
    cases hanswer
    exact hlaw
  · intro hlaw
    exact ⟨_, _, rfl, hlaw⟩

/-- **The reachable scenes of a group** are answered iff its buttons fit. -/
theorem getReachableScenes_lawful_iff (group : Group) (devices : List ButtonDevice)
    (getSceneName : ℕ → String) :
    Lawful group devices getSceneName ↔ ButtonsFit group devices :=
  lawful_iff_reachableLaw.trans reachableLaw_iff

/-- A button 12 in the lights does not reach scene 34. -/
theorem getReachableScenes_fails : ¬ Lawful (.make 1) [⟨1, 12, 1, 1⟩] fun _ => "" := by
  rw [lawful_iff_reachableLaw, reachableLaw_iff]
  intro h
  obtain ⟨d, hd, -, hbutton⟩ := h (by decide) (by decide) ⟨_, List.mem_cons_self, by decide, rfl⟩
  cases List.mem_singleton.mp hd
  cases hbutton

end GroupBehavior

end Dss
