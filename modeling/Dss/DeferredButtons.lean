import Dss.DeferredScenes

/-!
# The button click filter

`onDeviceActionFiltered` takes a click that is reported by the bus. Only what a sequence of tips,
clicks or steps of a hold ends in should be raised: so a click either goes on with the sequence of
a deferred event of its button, or begins a new one. The main loop calls
`handleDeferredModelEvents`, which raises `DeviceButtonClick` for the events that are due.

The list here is that of the button events; the scene events next to them are left alone.
-/

namespace Dss

open FirstMatch

/-! ## Click types -/

namespace ClickType

/-- `ClickType1T` -/
def tip1 : ℤ := 0
/-- `ClickType2T` -/
def tip2 : ℤ := 1
/-- `ClickType3T` -/
def tip3 : ℤ := 2
/-- `ClickType4T` -/
def tip4 : ℤ := 3
/-- `ClickTypeHS` -/
def holdStart : ℤ := 4
/-- `ClickTypeHR` -/
def holdRepeat : ℤ := 5
/-- `ClickTypeHE` -/
def holdEnd : ℤ := 6
/-- `ClickType1C` -/
def click1 : ℤ := 7
/-- `ClickType2C` -/
def click2 : ℤ := 8
/-- `ClickType3C` -/
def click3 : ℤ := 9

end ClickType

namespace ButtonInputMode

def turbo : ℕ := 1
def switched : ℕ := 2

end ButtonInputMode

/-- The arguments of `onDeviceActionFiltered`. -/
structure ButtonClick : Type where
  /-- the meter that reported the click, or null for a click of this server -/
  source : Dsuid
  deviceID : ℤ
  buttonNr : ℤ
  clickType : ℤ
  deriving DecidableEq

structure ModelDeferredButtonEvent : Type where
  source : Dsuid
  /-- `m_Timestamp`, in seconds -/
  timestamp : ℤ
  deviceID : ℤ
  buttonIndex : ℤ
  clickType : ℤ
  /-- `m_HoldTime`, which counts -/
  holdTime : ℕ
  deriving DecidableEq

/-- The event `DeviceButtonClick`, with the values of its properties. -/
structure ButtonClickEvent : Type where
  device : Dsuid
  clickType : ℤ
  buttonIndex : ℤ
  holdCount : Option ℕ
  deriving DecidableEq

/-- The devices with a bus id on a meter, `Set::getByBusID`. -/
abbrev BusDevices : Type := ℤ → Dsuid → Option Dsuid

namespace ModelDeferredButtonEvent

open ClickType

def mk' (now : ℤ) (c : ButtonClick) : ModelDeferredButtonEvent where
  source := c.source
  timestamp := now
  deviceID := c.deviceID
  buttonIndex := c.buttonNr
  clickType := c.clickType
  holdTime := 0

def isDue (now : ℤ) (e : ModelDeferredButtonEvent) : Bool :=
  decide (ModelDeferredSceneEvent.kModelSceneTimeout ≤ now - e.timestamp)

def setTimestamp (now : ℤ) (e : ModelDeferredButtonEvent) : ModelDeferredButtonEvent :=
  { e with timestamp := now }

def clearTimestamp (e : ModelDeferredButtonEvent) : ModelDeferredButtonEvent :=
  { e with timestamp := 0 }

def setClickType (now clickType : ℤ) (e : ModelDeferredButtonEvent) : ModelDeferredButtonEvent :=
  { e with clickType := clickType, timestamp := now }

def incRepeatCount (e : ModelDeferredButtonEvent) : ModelDeferredButtonEvent :=
  { e with holdTime := e.holdTime + 1 }

/-! ## The filter -/

/-- The outer tests of the loop. -/
def sameButton (e : ModelDeferredButtonEvent) (c : ButtonClick) : Bool :=
  decide (e.deviceID = c.deviceID) && decide (e.buttonIndex = c.buttonNr) &&
    decide (e.source = c.source)

def holding (pending click : ℤ) : Bool :=
  decide (click = holdRepeat) && (decide (pending = holdStart) || decide (pending = holdRepeat))

def holdEnding (pending click : ℤ) : Bool :=
  decide (click = holdEnd) && (decide (pending = holdRepeat) || decide (pending = holdStart))

def goingThroughTips (pending click : ℤ) : Bool :=
  (decide (pending = tip1) && decide (click = tip2)) ||
    (decide (pending = tip2) && decide (click = tip3)) ||
    (decide (pending = tip3) && decide (click = tip4))

def goingThroughClicks (pending click : ℤ) : Bool :=
  (decide (pending = click1) && decide (click = click3)) ||
    (decide (pending = click2) && decide (click = click3)) ||
    (decide (pending = click1) && decide (click = tip2)) ||
    (decide (pending = click1) && decide (click = tip3)) ||
    (decide (pending = click2) && decide (click = tip3)) ||
    (decide (pending = click3) && decide (click = tip4))

def merge (now : ℤ) (c : ButtonClick) (e : ModelDeferredButtonEvent) :
    Option ModelDeferredButtonEvent :=
  if e.sameButton c then
    if holding e.clickType c.clickType then
      some (((e.setTimestamp now).incRepeatCount).setClickType now c.clickType)
    else if holdEnding e.clickType c.clickType then
      some (e.incRepeatCount.setClickType now c.clickType)
    else if goingThroughTips e.clickType c.clickType then some (e.setClickType now c.clickType)
    else if goingThroughClicks e.clickType c.clickType then some (e.setClickType now c.clickType)
    else none
  else none

/-- The first part of the filter: the clicks that are not delayed. `mode` is the button input
mode of the device, if it is found. -/
def passThrough (mode : Option ℕ) (c : ButtonClick) : Bool :=
  decide (c.source = dsuidNull) ||
    decide (mode = some ButtonInputMode.turbo ∨ mode = some ButtonInputMode.switched)

/-- `ModelMaintenance::onDeviceActionFiltered` on the deferred button events. -/
def onDeviceActionFiltered (now : ℤ) (mode : Option ℕ) (c : ButtonClick)
    (deferred : List ModelDeferredButtonEvent) : List ModelDeferredButtonEvent :=
  if passThrough mode c then deferred ++ [(mk' now c).clearTimestamp]
  else
    match mergeFirst (merge now c) deferred with
    | some deferred' => deferred'
    | none => deferred ++ [mk' now c]

/-! ## The handling -/

def createButtonClickEvent (device : Dsuid) (e : ModelDeferredButtonEvent) : ButtonClickEvent where
  device := device
  clickType := e.clickType
  buttonIndex := e.buttonIndex
  holdCount := if 0 < e.holdTime then some e.holdTime else none

def isReady (now : ℤ) (e : ModelDeferredButtonEvent) : Bool :=
  e.isDue now || decide (e.clickType = holdEnd)

/-- The loop body: whether the event is kept, and what is raised. An event whose device is not
found is logged and dropped. -/
def handle (d : BusDevices) (now : ℤ) (e : ModelDeferredButtonEvent) :
    Option ModelDeferredButtonEvent × List ButtonClickEvent :=
  match d e.deviceID e.source with
  | none => (none, [])
  | some device =>
    if e.isReady now then (none, [e.createButtonClickEvent device])
    else (some e, [])

/-- `ModelMaintenance::handleDeferredModelEvents` on the button events: the list of those kept,
and the events raised. -/
def handleDeferredModelEvents (d : BusDevices) (now : ℤ)
    (deferred : List ModelDeferredButtonEvent) :
    List ModelDeferredButtonEvent × List ButtonClickEvent :=
  (deferred.filterMap fun e => (e.handle d now).1, deferred.flatMap fun e => (e.handle d now).2)

/-! ## Sequences -/

def presses (clickType : ℤ) : ℕ :=
  if clickType = tip1 ∨ clickType = click1 then 1
  else if clickType = tip2 ∨ clickType = click2 then 2
  else if clickType = tip3 ∨ clickType = click3 then 3
  else if clickType = tip4 then 4
  else 0

def IsTip (clickType : ℤ) : Prop := tip1 ≤ clickType ∧ clickType ≤ tip4

/-- A hold that goes on. -/
def IsHeld (clickType : ℤ) : Prop := clickType = holdStart ∨ clickType = holdRepeat

def IsHoldStep (clickType : ℤ) : Prop := clickType = holdRepeat ∨ clickType = holdEnd

instance (clickType : ℤ) : Decidable (IsTip clickType) := inferInstanceAs (Decidable (_ ∧ _))

instance (clickType : ℤ) : Decidable (IsHoldStep clickType) := inferInstanceAs (Decidable (_ ∨ _))

/-- One click type comes before another one: there are more presses, and tips are followed by tips
only; or a hold goes on or ends. -/
def Precedes (pending click : ℤ) : Prop :=
  (0 < presses pending ∧ presses pending < presses click ∧ (IsTip pending → IsTip click)) ∨
    (IsHeld pending ∧ IsHoldStep click)

def holdSteps (click : ℤ) : ℕ := if IsHoldStep click then 1 else 0

theorem sameButton_iff {e : ModelDeferredButtonEvent} {c : ButtonClick} :
    e.sameButton c = true ↔
      e.deviceID = c.deviceID ∧ e.buttonIndex = c.buttonNr ∧ e.source = c.source := by
  simp only [sameButton, Bool.and_eq_true, decide_eq_true_iff, and_assoc]

theorem precedes_of_goingThroughTips {pending click : ℤ}
    (h : goingThroughTips pending click = true) :
    Precedes pending click ∧ ¬ IsHoldStep click := by
  simp only [goingThroughTips, Bool.or_eq_true, Bool.and_eq_true, decide_eq_true_iff] at h
  rcases h with (⟨rfl, rfl⟩ | ⟨rfl, rfl⟩) | ⟨rfl, rfl⟩
  all_goals exact ⟨.inl (by decide), by decide⟩

theorem precedes_of_goingThroughClicks {pending click : ℤ}
    (h : goingThroughClicks pending click = true) :
    Precedes pending click ∧ ¬ IsHoldStep click := by
  simp only [goingThroughClicks, Bool.or_eq_true, Bool.and_eq_true, decide_eq_true_iff] at h
  rcases h with ((((⟨rfl, rfl⟩ | ⟨rfl, rfl⟩) | ⟨rfl, rfl⟩) | ⟨rfl, rfl⟩) | ⟨rfl, rfl⟩) | ⟨rfl, rfl⟩
  all_goals exact ⟨.inl (by decide), by decide⟩

/-- **How an event takes a click:** it is one of the same button, the click goes on with its
sequence, and the steps of a hold are counted. -/
theorem merge_eq_some {now : ℤ} {c : ButtonClick} {e e' : ModelDeferredButtonEvent}
    (h : e.merge now c = some e') :
    e.sameButton c = true ∧ Precedes e.clickType c.clickType ∧
      e' = { e with
        timestamp := now
        clickType := c.clickType
        holdTime := e.holdTime + holdSteps c.clickType } := by
  rw [merge] at h
  split_ifs at h with hsame hholding hending htips hclicks
  · simp only [holding, Bool.and_eq_true, Bool.or_eq_true, decide_eq_true_iff] at hholding
    have hstep : IsHoldStep c.clickType := .inl hholding.1
    refine ⟨hsame, .inr ⟨hholding.2, hstep⟩, (Option.some.inj h).symm.trans ?_⟩
    rw [holdSteps, if_pos hstep]
    rfl
  · simp only [holdEnding, Bool.and_eq_true, Bool.or_eq_true, decide_eq_true_iff] at hending
    have hstep : IsHoldStep c.clickType := .inr hending.1
    refine ⟨hsame, .inr ⟨hending.2.symm, hstep⟩, (Option.some.inj h).symm.trans ?_⟩
    rw [holdSteps, if_pos hstep]
    rfl
  · obtain ⟨hprecedes, hstep⟩ := precedes_of_goingThroughTips htips
    refine ⟨hsame, hprecedes, (Option.some.inj h).symm.trans ?_⟩
    rw [holdSteps, if_neg hstep]
    rfl
  · obtain ⟨hprecedes, hstep⟩ := precedes_of_goingThroughClicks hclicks
    refine ⟨hsame, hprecedes, (Option.some.inj h).symm.trans ?_⟩
    rw [holdSteps, if_neg hstep]
    rfl

end ModelDeferredButtonEvent

end Dss
