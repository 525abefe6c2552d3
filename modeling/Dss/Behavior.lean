import Mathlib.Data.List.Basic
import Dss.Exception
import Dss.Group
import Dss.Scene

/-!
# The behaviour of a group

What a group does beyond passing calls on is left to a behaviour object, which is replaced when
the application type changes. The default behaviour walks the rows of scenes; the one of the
ventilation types knows six basic scenes, some of which the configuration switches off.
-/

namespace Dss

/-! ## The behaviour object -/

def sceneBoost : ℕ := 0x24
def sceneSmoke : ℕ := 0x4D
def sceneGas : ℕ := 0x4F

/-- `offsetToSceneId`: the bits of the configuration, lowest first. -/
def offsetToSceneId : List ℕ := [sceneOff, scene1, scene2, scene3, scene4, sceneBoost]

/-- The subclasses of `Behavior`. -/
inductive BehaviorKind : Type where
  /-- `DefaultBehavior` -/
  | default : BehaviorKind
  /-- `VentilationBehavior` -/
  | ventilation : BehaviorKind
  deriving DecidableEq

/-- The class `setApplicationType` makes an object of. -/
def ApplicationType.behaviorKind : ApplicationType → BehaviorKind
  | .ventilation | .apartmentVentilation | .recirculation | .apartmentRecirculation =>
    .ventilation
  | .none | .lights | .blinds | .heating | .audio | .video | .joker | .cooling | .window
  | .controlTemperature => .default

structure Behavior : Type where
  kind : BehaviorKind
  currentScene : ℕ
  configuration : ℕ
  deriving DecidableEq

def activeScenes (configuration : ℕ) : List ℕ :=
  (offsetToSceneId.zipIdx.filter fun entry => !configuration.testBit entry.2).map Prod.fst

namespace Behavior

def getActiveBasicScenes (b : Behavior) : List ℕ := activeScenes b.configuration

def setCurrentScene (b : Behavior) (scene : ℕ) : Behavior :=
  match b.kind with
  | .default => { b with currentScene := scene }
  | .ventilation =>
    match b.getActiveBasicScenes with
    | [] => { b with currentScene := sceneOff }
    | lowest :: others =>
      if scene ∈ lowest :: others then { b with currentScene := scene }
      else if scene = SceneHelper.sceneFire ∨ scene = sceneSmoke ∨ scene = sceneGas then
        { b with currentScene := lowest }
      -- all other scenes do not change the ventilation level
      else b

def make (kind : BehaviorKind) (currentScene : ℕ) : Behavior :=
  match kind with
  | .default => ⟨.default, currentScene, 0⟩
  | .ventilation => setCurrentScene ⟨.ventilation, sceneOff, 0⟩ currentScene

def getNextScene (b : Behavior) : Except Exception ℕ :=
  match b.kind with
  | .default => .ok (SceneHelper.getNextScene b.currentScene)
  | .ventilation =>
    match b.getActiveBasicScenes.getLast? with
    | none => .error (.runtimeError "Could not find next active scene")
    | some back =>
      let active := b.getActiveBasicScenes
      if b.currentScene ∉ active ∨ b.currentScene = back then .ok back
      -- the current scene is in front of the last one
      else .ok (active.getD (active.idxOf b.currentScene + 1) back)

def getPreviousScene (b : Behavior) : Except Exception ℕ :=
  match b.kind with
  | .default => .ok (SceneHelper.getPreviousScene b.currentScene)
  | .ventilation =>
    match b.getActiveBasicScenes.head? with
    | none => .error (.runtimeError "Could not find previous active scene")
    | some front =>
      let active := b.getActiveBasicScenes
      if b.currentScene ∉ active ∨ b.currentScene = front then .ok front
      else .ok (active.getD (active.idxOf b.currentScene - 1) front)

/-! ## What the behaviour keeps -/

variable {b : Behavior} {kind : BehaviorKind} {scene : ℕ}

theorem setCurrentScene_eq (b : Behavior) (scene : ℕ) :
    ∃ current, b.setCurrentScene scene = { b with currentScene := current } := by
  rw [setCurrentScene]
  split
  · exact ⟨scene, rfl⟩
  · split
    · exact ⟨sceneOff, rfl⟩
    · split_ifs
      · exact ⟨scene, rfl⟩
      · exact ⟨_, rfl⟩
      · exact ⟨b.currentScene, rfl⟩

@[simp]
theorem kind_setCurrentScene (b : Behavior) (scene : ℕ) :
    (b.setCurrentScene scene).kind = b.kind := by
  obtain ⟨current, h⟩ := setCurrentScene_eq b scene
  rw [h]

theorem setCurrentScene_of_default (h : b.kind = .default) :
    b.setCurrentScene scene = { b with currentScene := scene } := by
  rw [setCurrentScene, h]

@[simp]
theorem kind_make (kind : BehaviorKind) (scene : ℕ) : (make kind scene).kind = kind := by
  cases kind with
  | default => rfl
  | ventilation => rw [make, kind_setCurrentScene]

/-! ## The scenes of a ventilation -/

def CallsActive (active : List ℕ) (result : Except Exception ℕ) : Prop :=
  (∀ scene, result = .ok scene → scene ∈ active) ∧
    ((∃ e, result = .error e) ↔ active = [])

theorem callsActive_ok {active : List ℕ} (h : scene ∈ active) : CallsActive active (.ok scene) := by
  refine ⟨fun other hother => Except.ok.inj hother ▸ h, fun herror => ?_, fun hnil => ?_⟩
  · obtain ⟨e, he⟩ := herror
    cases he
  · rw [hnil] at h
    cases h

theorem callsActive_error {e : Exception} : CallsActive [] (.error e) := by
  refine ⟨fun scene h => ?_, fun _ => rfl, fun _ => ⟨e, rfl⟩⟩
  cases h

theorem getD_mem {active : List ℕ} {i default : ℕ} (h : default ∈ active) :
    active.getD i default ∈ active := by
  rw [List.getD_eq_getElem?_getD]
  rcases hi : active[i]? with - | scene
  · exact h
  · exact List.mem_of_getElem? hi

theorem callsActive_getNextScene (h : b.kind = .ventilation) :
    CallsActive b.getActiveBasicScenes b.getNextScene := by
  rw [getNextScene, h]
  rcases hlast : b.getActiveBasicScenes.getLast? with - | back
  · rw [List.getLast?_eq_none_iff.mp hlast]
    exact callsActive_error
  · have hback : back ∈ b.getActiveBasicScenes := List.mem_of_getLast? hlast
    simp only
    split_ifs
    · exact callsActive_ok hback
    · exact callsActive_ok (getD_mem hback)

theorem callsActive_getPreviousScene (h : b.kind = .ventilation) :
    CallsActive b.getActiveBasicScenes b.getPreviousScene := by
  rw [getPreviousScene, h]
  rcases hhead : b.getActiveBasicScenes.head? with - | front
  · rw [List.head?_eq_none_iff.mp hhead]
    exact callsActive_error
  · have hfront : front ∈ b.getActiveBasicScenes := List.mem_of_head? hhead
    simp only
    split_ifs
    · exact callsActive_ok hfront
    · exact callsActive_ok (getD_mem hfront)

end Behavior

end Dss
