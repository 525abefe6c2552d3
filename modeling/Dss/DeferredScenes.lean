import Mathlib.Data.Int.Notation
import Dss.FirstMatch
import Dss.Scene

/-!
# The scene call filter

`onGroupCallSceneFiltered` takes a scene call reported by the bus, and either merges it into a
deferred event, or appends a new one. The main loop calls `handleDeferredModelEvents`, which raises
`CallScene` events for those that are due or are dim calls.

`m_DeferredEvents` also holds button events, which neither routine looks at; they are left out.
-/

namespace Dss

open FirstMatch SceneHelper

/-- `dsuid_t`: seventeen bytes. -/
abbrev Dsuid : Type := BitVec 136

def dsuidNull : Dsuid := 0

/-- `callOrigin_t`. -/
inductive CallOrigin : Type where
  | coUnknown | coJSScripting | coJSON | coSubscription | coTest | coSystem
  | coSystemBinaryInput | coDsmApi | coSystemStartup
  deriving DecidableEq

/-- The arguments of `onGroupCallSceneFiltered`. -/
structure SceneCall : Type where
  /-- the meter that reported the call, or null for a call of this server -/
  source : Dsuid
  zoneID : ℕ
  groupID : ℕ
  originDeviceID : ℕ
  sceneID : ℕ
  origin : CallOrigin
  forced : Bool
  token : String
  deriving DecidableEq

structure ModelDeferredSceneEvent : Type where
  source : Dsuid
  /-- `m_Timestamp`, in seconds -/
  timestamp : ℤ
  /-- `m_IsCalled`: already raised, kept to absorb repetitions -/
  isCalled : Bool
  zoneID : ℕ
  groupID : ℕ
  originDeviceID : ℕ
  sceneID : ℕ
  /-- `m_Origin` -/
  callOrigin : CallOrigin
  forcedFlag : Bool
  originToken : String
  deriving DecidableEq

/-- The event of `createGroupCallSceneEvent`, with the values of its properties. -/
structure CallSceneEvent : Type where
  sceneID : ℕ
  groupID : ℕ
  zoneID : ℕ
  originDSUID : Dsuid
  callOrigin : CallOrigin
  originToken : String
  forced : Bool
  deriving DecidableEq

/-- What the handling of deferred events looks up in the apartment. -/
structure Directory : Type where
  /-- `Apartment::getZone` finds the zone -/
  hasZone : ℕ → Bool
  /-- the dsuid of the device with a bus id on a meter, `Set::getByBusID` -/
  getByBusID : ℕ → Dsuid → Option Dsuid

namespace ModelDeferredSceneEvent

def kModelSceneTimeout : ℤ := 2

def mk' (now : ℤ) (c : SceneCall) : ModelDeferredSceneEvent where
  source := c.source
  timestamp := now
  isCalled := false
  zoneID := c.zoneID
  groupID := c.groupID
  originDeviceID := c.originDeviceID
  sceneID := c.sceneID
  callOrigin := c.origin
  forcedFlag := c.forced
  originToken := c.token

def isDue (now : ℤ) (e : ModelDeferredSceneEvent) : Bool :=
  decide (kModelSceneTimeout ≤ now - e.timestamp)

def setTimestamp (now : ℤ) (e : ModelDeferredSceneEvent) : ModelDeferredSceneEvent :=
  { e with timestamp := now }

def clearTimestamp (e : ModelDeferredSceneEvent) : ModelDeferredSceneEvent :=
  { e with timestamp := 0 }

def setCalled (e : ModelDeferredSceneEvent) : ModelDeferredSceneEvent :=
  { e with isCalled := true }

def setScene (now : ℤ) (scene : ℕ) (e : ModelDeferredSceneEvent) :
    ModelDeferredSceneEvent :=
  { e with sceneID := scene, timestamp := now }

/-! ## The filter -/

/-- The outer tests of the loop: the same zone, group and source, and the same
origin device unless the call names none. -/
def sameTarget (e : ModelDeferredSceneEvent) (c : SceneCall) : Bool :=
  decide (e.zoneID = c.zoneID) && decide (e.groupID = c.groupID) &&
    (decide (e.source = c.source) &&
      (decide (e.originDeviceID = c.originDeviceID) || decide (c.originDeviceID = 0)))

def goingThroughOff (pending scene : ℕ) : Bool :=
  (decide (pending = sceneOff) && decide (scene = scene2)) ||
    (decide (pending = sceneOffE1) && decide (scene = scene12)) ||
    (decide (pending = sceneOffE2) && decide (scene = scene22)) ||
    (decide (pending = sceneOffE3) && decide (scene = scene32)) ||
    (decide (pending = sceneOffE4) && decide (scene = scene42))

def areaOnSequence (pending scene : ℕ) : Bool :=
  (decide (pending = sceneA11) || decide (pending = sceneA21) ||
      decide (pending = sceneA31) || decide (pending = sceneA41)) &&
    (decide (scene = scene2) || decide (scene = scene12) || decide (scene = scene22) ||
      decide (scene = scene32) || decide (scene = scene42))

def areaOffSequence (pending scene : ℕ) : Bool :=
  (decide (pending = sceneOffA1) || decide (pending = sceneOffA2) ||
      decide (pending = sceneOffA3) || decide (pending = sceneOffA4)) &&
    decide (scene2 ≤ scene) && decide (scene ≤ scene44)

def followsScene (pending scene : ℕ) : Bool :=
  goingThroughOff pending scene || areaOnSequence pending scene ||
    areaOffSequence pending scene ||
    decide (getPreviousScene scene = pending) || decide (getNextScene pending = scene)

def merge (now : ℤ) (c : SceneCall) (e : ModelDeferredSceneEvent) :
    Option ModelDeferredSceneEvent :=
  if e.sameTarget c then
    if isDimSequence c.sceneID ∧ (e.sceneID = c.sceneID ∨ c.sceneID = sceneDimArea) then
      some (e.setTimestamp now)
    else if followsScene e.sceneID c.sceneID then some (e.setScene now c.sceneID)
    else none
  else none

/-- The first part of the filter: which calls are not delayed. -/
def passThrough (c : SceneCall) : Bool :=
  if isMultiTipSequence c.sceneID then
    if c.source = dsuidNull then true
    else if c.groupID = 0 then true
    else false
  else if isDimSequence c.sceneID then false
  else true

def flush (c : SceneCall) (e : ModelDeferredSceneEvent) : ModelDeferredSceneEvent :=
  if e.source = c.source ∧ e.originDeviceID = c.originDeviceID then e.clearTimestamp
  else e

/-- `ModelMaintenance::onGroupCallSceneFiltered` on the deferred scene events. -/
def onGroupCallSceneFiltered (now : ℤ) (c : SceneCall)
    (deferred : List ModelDeferredSceneEvent) : List ModelDeferredSceneEvent :=
  if passThrough c then deferred.map (flush c) ++ [(mk' now c).clearTimestamp]
  else
    match mergeFirst (merge now c) deferred with
    | some deferred' => deferred'
    | none => deferred ++ [mk' now c]

/-! ## The handling -/

/-- The look-ups of the loop body: `none` for an `ItemNotFoundException`. -/
def originDSUID (d : Directory) (e : ModelDeferredSceneEvent) : Option Dsuid :=
  if d.hasZone e.zoneID then
    if e.source ≠ dsuidNull ∧ e.originDeviceID ≠ 0 then
      d.getByBusID e.originDeviceID e.source
    else some e.source
  else none

def createGroupCallSceneEvent (originDSUID : Dsuid) (e : ModelDeferredSceneEvent) :
    CallSceneEvent where
  sceneID := e.sceneID
  groupID := e.groupID
  zoneID := e.zoneID
  originDSUID := originDSUID
  callOrigin := e.callOrigin
  originToken := e.originToken
  forced := e.forcedFlag

/-- The loop body: whether the event is kept, and what is raised. An event whose
zone or origin device is not found is logged and dropped. -/
def handle (d : Directory) (now : ℤ) (e : ModelDeferredSceneEvent) :
    Option ModelDeferredSceneEvent × List CallSceneEvent :=
  match e.originDSUID d with
  | none => (none, [])
  | some origin =>
    let raised := if e.isCalled then [] else [e.createGroupCallSceneEvent origin]
    if e.isDue now then (none, raised)
    else if isDimSequence e.sceneID then (some e.setCalled, raised)
    else (some e, [])

/-- `ModelMaintenance::handleDeferredModelEvents` on the scene events: the list
of those kept, and the events raised. -/
def handleDeferredModelEvents (d : Directory) (now : ℤ)
    (deferred : List ModelDeferredSceneEvent) :
    List ModelDeferredSceneEvent × List CallSceneEvent :=
  (deferred.filterMap fun e => (e.handle d now).1, deferred.flatMap fun e => (e.handle d now).2)

/-! ## What the filter does to one event -/

/-- The case in which a call is taken through the catch-all answer of one of the
scene tables, or through the rule for `SceneDimArea`, which asks nothing of the
pending event. -/
def CatchAll (pending scene : ℕ) : Prop :=
  (scene = sceneOff ∧ hasNextScene pending = false) ∨
    (pending = sceneOff ∧ scene ≠ sceneOff ∧ getPreviousScene scene = sceneOff) ∨
    (scene = sceneDimArea ∧ isDimSequence pending = false)

instance (pending scene : ℕ) : Decidable (CatchAll pending scene) :=
  inferInstanceAs (Decidable (_ ∨ _ ∨ _))

/-- The rules that change the scene follow a tip sequence, the catch-all answers
apart. -/
theorem tipStep_of_followsScene {p s : ℕ} (h : followsScene p s = true)
    (hc : ¬ CatchAll p s) : TipStep p s := by
  rw [followsScene, Bool.or_eq_true, Bool.or_eq_true, Bool.or_eq_true, Bool.or_eq_true,
    decide_eq_true_iff, decide_eq_true_iff] at h
  rcases h with (((hoff | hon) | hareaoff) | hprev) | hnext
  · simp only [goingThroughOff, Bool.or_eq_true, Bool.and_eq_true, decide_eq_true_iff] at hoff
    rcases hoff with (((⟨rfl, rfl⟩ | ⟨rfl, rfl⟩) | ⟨rfl, rfl⟩) | ⟨rfl, rfl⟩) | ⟨rfl, rfl⟩ <;>
      decide
  · simp only [areaOnSequence, Bool.or_eq_true, Bool.and_eq_true, decide_eq_true_iff] at hon
    obtain ⟨hp, hs⟩ := hon
    right
    refine ⟨?_, ?_⟩
    · rcases hp with ((rfl | rfl) | rfl) | rfl <;> decide
    · rcases hs with (((rfl | rfl) | rfl) | rfl) | rfl <;> decide
  · simp only [areaOffSequence, Bool.or_eq_true, Bool.and_eq_true, decide_eq_true_iff]
      at hareaoff
    obtain ⟨⟨hp, hge⟩, hle⟩ := hareaoff
    right
    refine ⟨?_, hge, hle⟩
    rcases hp with ((rfl | rfl) | rfl) | rfl <;> decide
  · by_cases hoff : getPreviousScene s = sceneOff
    · by_cases hs : s = sceneOff
      · rw [← hprev, hs]
        decide
      · exact absurd (.inr (.inl ⟨hprev.symm.trans hoff, hs, hoff⟩)) hc
    · rw [← hprev]
      exact tipStep_getPreviousScene hoff
  · by_cases hp : hasNextScene p = true
    · rw [← hnext]
      exact tipStep_getNextScene hp
    · rw [Bool.not_eq_true] at hp
      exact absurd (.inl ⟨hnext.symm.trans (getNextScene_of_not_has hp), hp⟩) hc

theorem merge_eq_some {now : ℤ} {c : SceneCall} {e e' : ModelDeferredSceneEvent}
    (h : e.merge now c = some e') :
    e.sameTarget c = true ∧
      ((isDimSequence c.sceneID = true ∧
          (e.sceneID = c.sceneID ∨ c.sceneID = sceneDimArea) ∧ e' = e.setTimestamp now) ∨
        (followsScene e.sceneID c.sceneID = true ∧ e' = e.setScene now c.sceneID)) := by
  rw [merge] at h
  split_ifs at h with ht hd hf
  · exact ⟨ht, .inl ⟨hd.1, hd.2, (Option.some.inj h).symm⟩⟩
  · exact ⟨ht, .inr ⟨hf, (Option.some.inj h).symm⟩⟩

theorem sameTarget_iff {e : ModelDeferredSceneEvent} {c : SceneCall} :
    e.sameTarget c = true ↔ e.zoneID = c.zoneID ∧ e.groupID = c.groupID ∧
      e.source = c.source ∧ (e.originDeviceID = c.originDeviceID ∨ c.originDeviceID = 0) := by
  simp only [sameTarget, Bool.and_eq_true, Bool.or_eq_true, decide_eq_true_iff, and_assoc]

end ModelDeferredSceneEvent

end Dss
