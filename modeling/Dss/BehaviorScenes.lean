import Dss.Behavior
import Dss.Transition

/-!
# Next and previous scenes

A group remembers the last called scene, and so does its behaviour. A call changes both; an undo
changes only the group, and a default behaviour goes on from the scene that was undone. A device
remembers its scene once, and has one answer for both directions.
-/

namespace Dss

namespace GroupBehavior

/-! ## The group -/

/-- `Group`, with its behaviour. -/
structure Group : Type where
  groupID : ℕ
  applicationType : ApplicationType
  /-- `m_pApplicationBehavior` -/
  behavior : Behavior
  lastCalledScene : ℕ
  lastButOneCalledScene : ℕ
  kind_behavior : behavior.kind = applicationType.behaviorKind

namespace Group

def make (groupID : ℕ) : Group where
  groupID := groupID
  applicationType := .none
  behavior := .make .default sceneOff
  lastCalledScene := sceneOff
  lastButOneCalledScene := sceneOff
  kind_behavior := rfl

def typeIsFixed (g : Group) : Bool :=
  (isDefaultGroup g.groupID || isGlobalAppDsGroup g.groupID) &&
    !decide (g.applicationType = .none)

/-- `setApplicationType`. What is none of the types becomes `None`. -/
def setApplicationType (g : Group) (t : Option ApplicationType) : Group :=
  if some g.applicationType = t then g
  else if g.typeIsFixed then g
  else
    { g with
      applicationType := t.getD .none
      behavior := .make (t.getD .none).behaviorKind g.lastCalledScene
      kind_behavior := Behavior.kind_make _ _ }

def setApplicationConfiguration (g : Group) (configuration : ℕ) : Group :=
  { g with behavior := { g.behavior with configuration := configuration } }

def setLastCalledScene (g : Group) (value : ℕ) : Group :=
  if g.groupID = groupIDControlTemperature ∧ 16 ≤ value then g
  else if value ≠ g.lastCalledScene then
    { g with
      lastButOneCalledScene := g.lastCalledScene
      lastCalledScene := value
      behavior := g.behavior.setCurrentScene value
      kind_behavior := (Behavior.kind_setCurrentScene _ _).trans g.kind_behavior }
  else g

/-- Whether `setLastButOneCalledScene` has an effect. Of its two forms one is given the scene
that is undone. -/
def isUndone (g : Group) (value : Option ℕ) : Bool := value = none ∨ value = some g.lastCalledScene

def setLastButOneCalledScene (g : Group) (value : Option ℕ) : Group :=
  if g.isUndone value then { g with lastCalledScene := g.lastButOneCalledScene } else g

/-- `callScene`, as far as the group itself goes. -/
def callScene (g : Group) (scene : ℕ) : Group :=
  if SceneHelper.rememberScene (scene % 256) then g.setLastCalledScene (scene % 256) else g

/-- `nextScene`: the scene that is called, and the group then. -/
def nextScene (g : Group) : Except Exception (ℕ × Group) :=
  g.behavior.getNextScene.map fun scene => (scene, g.callScene scene)

def previousScene (g : Group) : Except Exception (ℕ × Group) :=
  g.behavior.getPreviousScene.map fun scene => (scene, g.callScene scene)

end Group

/-! ## Calls -/

/-- What happens to a group. -/
inductive Call : Type where
  | setLastCalledScene (value : ℕ) : Call
  /-- `setLastButOneCalledScene`, with or without the scene -/
  | setLastButOneCalledScene (value : Option ℕ) : Call
  | callScene (scene : ℕ) : Call
  | setApplicationConfiguration (configuration : ℕ) : Call
  | setApplicationType (t : Option ApplicationType) : Call
  | nextScene : Call
  | previousScene : Call
  deriving DecidableEq

def left (g : Group) : Except Exception (ℕ × Group) → Group
  | .ok (_, g') => g'
  | .error _ => g

/-- One call. -/
def step (g : Group) : Call → Group
  | .setLastCalledScene value => g.setLastCalledScene value
  | .setLastButOneCalledScene value => g.setLastButOneCalledScene value
  | .callScene scene => g.callScene scene
  | .setApplicationConfiguration configuration => g.setApplicationConfiguration configuration
  | .setApplicationType t => g.setApplicationType t
  | .nextScene => left g g.nextScene
  | .previousScene => left g g.previousScene

def called (result : Except Exception (ℕ × Group)) : Except Exception ℕ := result.map Prod.fst

def neighbours (scene : ℕ) : ℕ × ℕ :=
  (SceneHelper.getNextScene scene, SceneHelper.getPreviousScene scene)

/-- What `nextScene` and `previousScene` should call. -/
def Law (g : Group) : Prop :=
  match g.applicationType.behaviorKind with
  | .default =>
    called g.nextScene = .ok (SceneHelper.getNextScene g.lastCalledScene) ∧
      called g.previousScene = .ok (SceneHelper.getPreviousScene g.lastCalledScene)
  | .ventilation =>
    Behavior.CallsActive (activeScenes g.behavior.configuration) (called g.nextScene) ∧
      Behavior.CallsActive (activeScenes g.behavior.configuration) (called g.previousScene)

/-- No undo under a default behaviour, unless the scene that comes back has the same neighbours
as the one that is undone. -/
def Fits (g : Group) : Call → Prop
  | .setLastButOneCalledScene value =>
    g.applicationType.behaviorKind = .default → g.isUndone value = true →
      neighbours g.lastButOneCalledScene = neighbours g.lastCalledScene
  | _ => True

/-! ## One call -/

variable {g : Group}

theorem called_nextScene (g : Group) : called g.nextScene = g.behavior.getNextScene := by
  rw [Group.nextScene]
  cases g.behavior.getNextScene <;> rfl

theorem called_previousScene (g : Group) :
    called g.previousScene = g.behavior.getPreviousScene := by
  rw [Group.previousScene]
  cases g.behavior.getPreviousScene <;> rfl

theorem law_iff_of_default (h : g.applicationType.behaviorKind = .default) :
    Law g ↔ neighbours g.behavior.currentScene = neighbours g.lastCalledScene := by
  rw [Law, called_nextScene, called_previousScene, Behavior.getNextScene,
    Behavior.getPreviousScene, g.kind_behavior, h, neighbours, neighbours, Prod.mk.injEq]
  simp only [Except.ok.injEq]

theorem law_of_ventilation (h : g.applicationType.behaviorKind = .ventilation) : Law g := by
  have hkind : g.behavior.kind = .ventilation := g.kind_behavior.trans h
  rw [Law, h, called_nextScene, called_previousScene]
  exact ⟨Behavior.callsActive_getNextScene hkind, Behavior.callsActive_getPreviousScene hkind⟩

theorem law_of_current (h : g.applicationType.behaviorKind = .default →
    g.behavior.currentScene = g.lastCalledScene) : Law g := by
  rcases hkind : g.applicationType.behaviorKind with - | -
  · rw [law_iff_of_default hkind, h hkind]
  · exact law_of_ventilation hkind

theorem law_make (groupID : ℕ) : Law (.make groupID) :=
  law_of_current fun _ => rfl

theorem law_setLastCalledScene (h : Law g) (value : ℕ) : Law (g.setLastCalledScene value) := by
  rw [Group.setLastCalledScene]
  split_ifs
  · exact h
  · refine law_of_current fun hkind => ?_
    have hdefault : g.behavior.kind = .default := g.kind_behavior.trans hkind
    simp only [Behavior.setCurrentScene_of_default hdefault]
  · exact h

theorem law_callScene (h : Law g) (scene : ℕ) : Law (g.callScene scene) := by
  rw [Group.callScene]
  split_ifs
  · exact law_setLastCalledScene h _
  · exact h

theorem law_setApplicationType (h : Law g) (t : Option ApplicationType) :
    Law (g.setApplicationType t) := by
  rw [Group.setApplicationType]
  split_ifs
  · exact h
  · exact h
  · refine law_of_current fun hkind => ?_
    simp only at hkind ⊢
    rw [hkind, Behavior.make]

theorem law_setApplicationConfiguration (h : Law g) (configuration : ℕ) :
    Law (g.setApplicationConfiguration configuration) := by
  rcases hkind : g.applicationType.behaviorKind with - | -
  · exact (law_iff_of_default (by exact hkind)).mpr ((law_iff_of_default hkind).mp h)
  · exact law_of_ventilation hkind

theorem law_left (h : Law g) {result : Except Exception ℕ} :
    Law (left g (result.map fun scene => (scene, g.callScene scene))) := by
  cases result with
  | error e => exact h
  | ok scene => exact law_callScene h scene

theorem law_setLastButOneCalledScene_iff (h : Law g) (value : Option ℕ) :
    Law (g.setLastButOneCalledScene value) ↔ Fits g (.setLastButOneCalledScene value) := by
  rw [Fits, Group.setLastButOneCalledScene]
  rcases hkind : g.applicationType.behaviorKind with - | -
  · have hsame := (law_iff_of_default hkind).mp h
    by_cases hundone : g.isUndone value = true
    · rw [if_pos hundone, law_iff_of_default (by exact hkind)]
      simp only
      rw [hsame]
      exact ⟨fun heq _ _ => heq.symm, fun hfits => (hfits trivial hundone).symm⟩
    · rw [if_neg hundone]
      exact ⟨fun _ _ htrue => absurd htrue hundone, fun _ => h⟩
  · refine ⟨fun _ hdefault => (by cases hdefault), fun _ => ?_⟩
    split_ifs
    · exact law_of_ventilation hkind
    · exact h

theorem law_step (h : Law g) {call : Call} (hfits : Fits g call) : Law (step g call) := by
  cases call with
  | setLastCalledScene value => exact law_setLastCalledScene h value
  | setLastButOneCalledScene value => exact (law_setLastButOneCalledScene_iff h value).mpr hfits
  | callScene scene => exact law_callScene h scene
  | setApplicationConfiguration c => exact law_setApplicationConfiguration h c
  | setApplicationType t => exact law_setApplicationType h t
  | nextScene => exact law_left h
  | previousScene => exact law_left h

theorem not_law_step (h : Law g) {call : Call} (hfits : ¬ Fits g call) :
    ¬ Law (step g call) := by
  cases call with
  | setLastButOneCalledScene value =>
    exact fun hlaw => hfits ((law_setLastButOneCalledScene_iff h value).mp hlaw)
  | _ => exact absurd trivial hfits

/-! ## Devices -/

/-- `Device`, as far as its scenes go. -/
structure Device : Type where
  lastCalledScene : ℕ

namespace Device

/-- `nextScene`: the scene that is called. -/
def nextScene (d : Device) : ℕ := SceneHelper.getNextScene d.lastCalledScene

/-- `previousScene`: it calls what `nextScene` calls. -/
def previousScene (d : Device) : ℕ := SceneHelper.getNextScene d.lastCalledScene

/-- What both should call. -/
def Law (d : Device) : Prop :=
  d.nextScene = SceneHelper.getNextScene d.lastCalledScene ∧
    d.previousScene = SceneHelper.getPreviousScene d.lastCalledScene

end Device

theorem getNextScene_ne {scene : ℕ} (h : SceneHelper.hasNextScene scene = true) :
    SceneHelper.getNextScene scene ≠ SceneHelper.getPreviousScene scene := by
  have all : ∀ scene ∈ [sceneOff, scene1, scene2, scene3, scene4, sceneOnE1, scene12, scene13,
      scene14, sceneOnE2, scene22, scene23, scene24, sceneOnE3, scene32, scene33, scene34,
      sceneOnE4, scene42, scene43, scene44],
      SceneHelper.getNextScene scene ≠ SceneHelper.getPreviousScene scene := by decide
  exact all scene (of_decide_eq_true h)

theorem getPreviousScene_of_not_has {scene : ℕ} (h : SceneHelper.hasNextScene scene = false) :
    SceneHelper.getPreviousScene scene = sceneOff := by
  unfold SceneHelper.getPreviousScene
  split <;> first | rfl | cases h

theorem device_law_iff (d : Device) :
    d.Law ↔ SceneHelper.hasNextScene d.lastCalledScene = false := by
  rw [Device.Law, Device.nextScene, Device.previousScene]
  rcases h : SceneHelper.hasNextScene d.lastCalledScene with - | -
  · simp [SceneHelper.getNextScene_of_not_has h, getPreviousScene_of_not_has h]
  · simp [getNextScene_ne h]

/-! ## Runs -/

/-- **The behaviour follows the last called scene.** In a run of calls on a new group, its next
and previous scene are always the ones next to the last called scene, and under a ventilation
behaviour active ones, exactly if no undo under a default behaviour brings back a scene with
other neighbours than the undone one has. The previous scene of a device is the one before its
last called scene exactly if that scene is in no row. -/
theorem behavior_follows_iff (groupID : ℕ) (calls : List Call) (d : Device) :
    (Transition.Always step Law (.make groupID) calls ↔
      Transition.Meets step Fits (.make groupID) calls) ∧
    (d.Law ↔ SceneHelper.hasNextScene d.lastCalledScene = false) := by
  refine ⟨?_, device_law_iff d⟩
  exact Transition.always_iff_meets (fun _ h => h) (fun _ _ h hfits => law_step h hfits)
    (fun _ _ h hfits => not_law_step h hfits) (law_make groupID)

/-- A scene is called and undone. The group goes on from the one that was undone, and a device
that was switched off goes up instead of down. -/
theorem behavior_follows_fails :
    ¬ Transition.Always step Law (.make groupIDYellow)
      [.callScene scene2, .setLastButOneCalledScene none] ∧ ¬ Device.Law ⟨sceneOff⟩ := by
  constructor
  · rintro ⟨-, -, hlaw⟩
    exact absurd ((law_iff_of_default rfl).mp hlaw) (by decide)
  · rw [device_law_iff]
    decide

end GroupBehavior

end Dss
