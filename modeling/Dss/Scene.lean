import Mathlib.Data.List.Defs

/-!
# Scene numbers and the sequences they belong to

The scene constants and the tables of `SceneHelper`. A button that is tipped several times calls the
scenes of one row of `tipRows` one after another, an area button goes on to the second step of a
row, and a held button repeats one dim scene. For every scene that is in no row `getNextScene` and
`getPreviousScene` answer `SceneOff`, which is itself the start of a row.
-/

namespace Dss

/-! ## Constants -/

@[match_pattern] def sceneOff : ℕ := 0x00
@[match_pattern] def sceneOffA1 : ℕ := 0x01
@[match_pattern] def sceneOffA2 : ℕ := 0x02
@[match_pattern] def sceneOffA3 : ℕ := 0x03
@[match_pattern] def sceneOffA4 : ℕ := 0x04
@[match_pattern] def scene1 : ℕ := 0x05
@[match_pattern] def sceneA11 : ℕ := 0x06
@[match_pattern] def sceneA21 : ℕ := 0x07
@[match_pattern] def sceneA31 : ℕ := 0x08
@[match_pattern] def sceneA41 : ℕ := 0x09
@[match_pattern] def sceneDimArea : ℕ := 0x0A
@[match_pattern] def sceneDec : ℕ := 0x0B
@[match_pattern] def sceneInc : ℕ := 0x0C
@[match_pattern] def scene2 : ℕ := 0x11
@[match_pattern] def scene3 : ℕ := 0x12
@[match_pattern] def scene4 : ℕ := 0x13
@[match_pattern] def scene12 : ℕ := 0x14
@[match_pattern] def scene13 : ℕ := 0x15
@[match_pattern] def scene14 : ℕ := 0x16
@[match_pattern] def scene22 : ℕ := 0x17
@[match_pattern] def scene23 : ℕ := 0x18
@[match_pattern] def scene24 : ℕ := 0x19
@[match_pattern] def scene32 : ℕ := 0x1A
@[match_pattern] def scene33 : ℕ := 0x1B
@[match_pattern] def scene34 : ℕ := 0x1C
@[match_pattern] def scene42 : ℕ := 0x1D
@[match_pattern] def scene43 : ℕ := 0x1E
@[match_pattern] def scene44 : ℕ := 0x1F
@[match_pattern] def sceneOffE1 : ℕ := 0x20
@[match_pattern] def sceneOnE1 : ℕ := 0x21
@[match_pattern] def sceneOffE2 : ℕ := 0x22
@[match_pattern] def sceneOnE2 : ℕ := 0x23
@[match_pattern] def sceneOffE3 : ℕ := 0x24
@[match_pattern] def sceneOnE3 : ℕ := 0x25
@[match_pattern] def sceneOffE4 : ℕ := 0x26
@[match_pattern] def sceneOnE4 : ℕ := 0x27
@[match_pattern] def sceneDecA1 : ℕ := 0x2A
@[match_pattern] def sceneIncA1 : ℕ := 0x2B
@[match_pattern] def sceneDecA2 : ℕ := 0x2C
@[match_pattern] def sceneIncA2 : ℕ := 0x2D
@[match_pattern] def sceneDecA3 : ℕ := 0x2E
@[match_pattern] def sceneIncA3 : ℕ := 0x2F
@[match_pattern] def sceneDecA4 : ℕ := 0x30
@[match_pattern] def sceneIncA4 : ℕ := 0x32

namespace SceneHelper

/-! ## The tables of the source -/

def getNextScene : ℕ → ℕ
  | sceneOff => scene1
  | scene1 => scene2
  | scene2 => scene3
  | scene3 => scene4
  | scene4 => scene2
  | sceneOnE1 => scene12
  | scene12 => scene13
  | scene13 => scene14
  | scene14 => scene12
  | sceneOnE2 => scene22
  | scene22 => scene23
  | scene23 => scene24
  | scene24 => scene22
  | sceneOnE3 => scene32
  | scene32 => scene33
  | scene33 => scene34
  | scene34 => scene32
  | sceneOnE4 => scene42
  | scene42 => scene43
  | scene43 => scene44
  | scene44 => scene42
  | _ => sceneOff

def getPreviousScene : ℕ → ℕ
  | scene1 => scene4
  | scene2 => scene1
  | scene3 => scene2
  | scene4 => scene3
  | sceneOnE1 => scene14
  | scene12 => sceneOnE1
  | scene13 => scene12
  | scene14 => scene13
  | sceneOnE2 => scene24
  | scene22 => sceneOnE2
  | scene23 => scene22
  | scene24 => scene23
  | sceneOnE3 => scene34
  | scene32 => sceneOnE3
  | scene33 => scene32
  | scene34 => scene33
  | sceneOnE4 => scene44
  | scene42 => sceneOnE4
  | scene43 => scene42
  | scene44 => scene43
  | _ => sceneOff

def isMultiTipSequence (scene : ℕ) : Bool :=
  scene ∈ [scene1, sceneA11, sceneA21, sceneA31, sceneA41, scene2, scene3, scene4,
    sceneOnE1, scene12, scene13, scene14, sceneOnE2, scene22, scene23, scene24,
    sceneOnE3, scene32, scene33, scene34, sceneOnE4, scene42, scene43, scene44,
    sceneOff, sceneOffA1, sceneOffA2, sceneOffA3, sceneOffA4,
    sceneOffE1, sceneOffE2, sceneOffE3, sceneOffE4]

def isDimSequence (scene : ℕ) : Bool :=
  scene ∈ [sceneInc, sceneDec, sceneDimArea, sceneDecA1, sceneIncA1, sceneDecA2,
    sceneIncA2, sceneDecA3, sceneIncA3, sceneDecA4, sceneIncA4]

/-! ## Sequences -/

def tipRows : List (List ℕ) :=
  [[sceneOff, scene1, scene2, scene3, scene4],
   [sceneOffE1, sceneOnE1, scene12, scene13, scene14],
   [sceneOffE2, sceneOnE2, scene22, scene23, scene24],
   [sceneOffE3, sceneOnE3, scene32, scene33, scene34],
   [sceneOffE4, sceneOnE4, scene42, scene43, scene44]]

def areaScenes : List ℕ :=
  [sceneA11, sceneA21, sceneA31, sceneA41, sceneOffA1, sceneOffA2, sceneOffA3, sceneOffA4]

def TipStep (p s : ℕ) : Prop :=
  (∃ row ∈ tipRows, p ∈ row ∧ s ∈ row) ∨ (p ∈ areaScenes ∧ scene2 ≤ s ∧ s ≤ scene44)

instance (p s : ℕ) : Decidable (TipStep p s) :=
  inferInstanceAs (Decidable (_ ∨ _))

/-- The scenes in whose case `getNextScene` has an answer of its own. -/
def hasNextScene (scene : ℕ) : Bool :=
  scene ∈ [sceneOff, scene1, scene2, scene3, scene4, sceneOnE1, scene12, scene13, scene14,
    sceneOnE2, scene22, scene23, scene24, sceneOnE3, scene32, scene33, scene34,
    sceneOnE4, scene42, scene43, scene44]

theorem getNextScene_of_not_has {p : ℕ} (h : hasNextScene p = false) :
    getNextScene p = sceneOff := by
  unfold getNextScene
  split <;> first | rfl | cases h

theorem tipStep_getNextScene {p : ℕ} (h : hasNextScene p = true) :
    TipStep p (getNextScene p) := by
  have all : ∀ q ∈ [sceneOff, scene1, scene2, scene3, scene4, sceneOnE1, scene12, scene13,
      scene14, sceneOnE2, scene22, scene23, scene24, sceneOnE3, scene32, scene33, scene34,
      sceneOnE4, scene42, scene43, scene44], TipStep q (getNextScene q) := by decide
  exact all p (of_decide_eq_true h)

theorem tipStep_getPreviousScene {s : ℕ} (h : getPreviousScene s ≠ sceneOff) :
    TipStep (getPreviousScene s) s := by
  revert h
  unfold getPreviousScene
  split <;> intro h <;> first | decide | exact absurd rfl h

theorem TipStep.not_isDimSequence {p s : ℕ} (h : TipStep p s) :
    isDimSequence p = false ∧ isDimSequence s = false := by
  have rows : ∀ row ∈ tipRows, ∀ q ∈ row, isDimSequence q = false := by decide
  have areas : ∀ q ∈ areaScenes, isDimSequence q = false := by decide
  have dims : ∀ q ∈ [sceneInc, sceneDec, sceneDimArea, sceneDecA1, sceneIncA1, sceneDecA2,
      sceneIncA2, sceneDecA3, sceneIncA3, sceneDecA4, sceneIncA4],
      ¬ (scene2 ≤ q ∧ q ≤ scene44) := by decide
  rcases h with ⟨row, hrow, hp, hs⟩ | ⟨hp, hs⟩
  · exact ⟨rows row hrow p hp, rows row hrow s hs⟩
  · refine ⟨areas p hp, ?_⟩
    rw [Bool.eq_false_iff]
    intro hdim
    exact dims s (of_decide_eq_true hdim) hs

/-! ## What a scene does to its group -/

def sceneStop : ℕ := 0x0F
def sceneAutoOff : ℕ := 0x28
def sceneImpulse : ℕ := 0x29
def sceneLocalOff : ℕ := 0x32
def sceneLocalOn : ℕ := 0x33
def sceneStopA1 : ℕ := 0x34
def sceneStopA2 : ℕ := 0x35
def sceneStopA3 : ℕ := 0x36
def sceneStopA4 : ℕ := 0x37
def sceneAutoStandBy : ℕ := 0x40
def scenePanic : ℕ := 0x41
def sceneEnergyOverload : ℕ := 0x42
def sceneStandBy : ℕ := 0x43
def sceneDeepOff : ℕ := 0x44
def sceneSleeping : ℕ := 0x45
def sceneAbsent : ℕ := 0x48
def sceneBell : ℕ := 0x49
def sceneAlarm : ℕ := 0x4A
def sceneFire : ℕ := 0x4C
def sceneAlarm2 : ℕ := 0x53
def sceneAlarm3 : ℕ := 0x54
def sceneAlarm4 : ℕ := 0x55
def sceneWindActive : ℕ := 0x56
def sceneRainActive : ℕ := 0x58
def sceneHailActive : ℕ := 0x5a
def maxSceneNumber : ℕ := 127
def groupIDHeating : ℕ := 3

def zonesToIgnore : List ℕ :=
  [sceneInc, sceneIncA1, sceneIncA2, sceneIncA3, sceneIncA4, sceneDec, sceneDecA1, sceneDecA2,
    sceneDecA3, sceneDecA4, sceneDimArea, sceneStop, sceneStopA1, sceneStopA2, sceneStopA3,
    sceneStopA4, sceneBell, sceneEnergyOverload, sceneLocalOff, sceneLocalOn, sceneImpulse]

def rememberScene (scene : ℕ) : Bool :=
  decide (scene ≤ maxSceneNumber) && decide (scene ∉ zonesToIgnore)

inductive SceneOnState : Type where
  | false | true | dontCare
  deriving DecidableEq

def offScenes : List ℕ :=
  [sceneOff, sceneDeepOff, sceneSleeping, sceneAutoOff, sceneAutoStandBy, sceneStandBy,
    sceneAbsent, sceneOffE1, sceneOffE2, sceneOffE3, sceneOffE4]

def onScenes : List ℕ :=
  [scene1, scene2, scene3, scene4, sceneOnE1, sceneOnE2, sceneOnE3, sceneOnE4, scene12, scene13,
    scene14, scene22, scene23, scene24, scene32, scene33, scene34, scene42, scene43, scene44]

/-- `SceneHelper::isOnScene`. Panic and fire switch lights on, but no heating. The id 1 is
`GroupIDYellow`. -/
def isOnScene (groupID scene : ℕ) : SceneOnState :=
  if groupID = 1 then
    if scene ∈ offScenes then .false
    else if scene ∈ onScenes ++ [scenePanic, sceneFire] then .true
    else .dontCare
  else if groupID = groupIDHeating then
    if scene ∈ offScenes then .false
    else if scene ∈ onScenes then .true
    else .dontCare
  else .dontCare

end SceneHelper

end Dss
