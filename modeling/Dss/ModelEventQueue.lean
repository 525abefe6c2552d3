import Dss.Counter
import Dss.Transition

/-!
# The model event queue

`ModelMaintenance` takes model events from any thread into one queue and handles them one at a
time, counting those taken out in `m_processedEvents`, which wraps around. `pendingChangesBarrier`
computes from a snapshot at which count the last `etModelDirty` will have been taken out; the
handling of `etModelDirty` notifies observers unless the count is masked.

The consumer counts an event before it handles it, so there is a state in between (`current`).
`Step` lets every thread act at that grain; the mutexes only remove interleavings.
-/

namespace Dss

open Transition

/-- `ModelEvent::EventType`. -/
inductive EventType : Type where
  | etCallSceneGroup | etUndoSceneGroup | etBlinkGroup | etCallSceneDevice
  | etUndoSceneDevice | etBlinkDevice | etCallSceneDeviceLocal | etButtonClickDevice
  | etButtonDirectActionDevice | etNewDevice | etLostDevice | etDeviceChanged
  | etDeviceConfigChanged | etModelDirty | etLostDSMeter | etDSMeterReady | etBusReady
  | etBusDown | etMeteringValues | etDS485DeviceDiscovered | etZoneSensorValue
  | etDeviceSensorEvent | etDeviceSensorValue | etDeviceSensorValueEx
  | etDeviceBinaryStateEvent | etDeviceEANReady | etDeviceOEMDataReady
  | etControllerState | etControllerConfig | etControllerValues
  | etModelOperationModeChanged | etClusterConfigLock | etClusterLockedScenes
  | etGenericEvent | etOperationLock | etDeviceDirty | etClusterCleanup | etMeterReady
  | etDummyEvent | etDeviceDataReady | etDsmStateChange
  | etDeviceOEMDataUpdateProductInfoState | etCircuitPowerStateChange | etVdceEvent
  deriving DecidableEq

/-- The event machinery of `ModelMaintenance`. An event is its type here: the
parameters only matter to the handlers of the other types. -/
structure ModelMaintenance : Type where
  isInitializing : Bool := true
  /-- `m_IsDirty`: a dirty event was held back during initialisation -/
  isDirty : Bool := false
  pendingSaveRequest : Bool := false
  processedEvents : BitVec 32
  suppressSaveRequestNotify : BitVec 32 := processedEvents
  modelEvents : List EventType := []
  /-- the event taken out of the queue and not yet handled -/
  current : Option EventType := none
  /-- the property `pp_websvc_enabled` -/
  websvcEnabled : Bool
  deriving DecidableEq

namespace ModelMaintenance

def addModelEvent (m : ModelMaintenance) (e : EventType) : ModelMaintenance :=
  if m.isInitializing ∧ e = .etModelDirty then { m with isDirty := true }
  else { m with modelEvents := m.modelEvents ++ [e] }

/-- The locked first part of `ModelMaintenance::handleModelEvents`: take the
event at the head and count it. -/
def popModelEvent (m : ModelMaintenance) : Option ModelMaintenance :=
  match m.modelEvents with
  | [] => none
  | e :: rest =>
    some { m with
      modelEvents := rest
      processedEvents := m.processedEvents + 1
      current := some e }

/-- `ModelMaintenance::onMeterReady`: release the dirty event held back. -/
def onMeterReady (m : ModelMaintenance) : ModelMaintenance :=
  if m.isInitializing then
    let m := { m with isInitializing := false }
    if m.isDirty then addModelEvent { m with isDirty := false } .etModelDirty else m
  else m

/-- Whether the handling of an `etModelDirty` event raises a notification:
the signed test against the mask. -/
def notifies (m : ModelMaintenance) : Bool :=
  m.websvcEnabled && decide (0 < (m.processedEvents - m.suppressSaveRequestNotify).toInt)

/-- The `switch` of `ModelMaintenance::handleModelEvents` on an event taken out
of the queue, with a flag for a raised `ModelChangedEvent`. The handlers of the
other types touch none of this state; the events they add are steps of their
own. -/
def handleEvent (m : ModelMaintenance) : EventType → ModelMaintenance × Bool
  | .etModelDirty =>
    if m.notifies then
      ({ m with
          suppressSaveRequestNotify := m.processedEvents
          pendingSaveRequest := true }, true)
    else ({ m with pendingSaveRequest := true }, false)
  | .etModelOperationModeChanged => ({ m with pendingSaveRequest := true }, false)
  | .etMeterReady => (m.onMeterReady, false)
  | _ => (m, false)

/-- The loop of `indexOfNextSyncState` over the queue from its end: count back
until a dirty event is met. -/
def countBack (count : BitVec 32) : List EventType → BitVec 32
  | [] => count
  | e :: rest => if e = .etModelDirty then count else countBack (count - 1) rest

def indexOfNextSyncState (m : ModelMaintenance) : BitVec 32 :=
  countBack (m.processedEvents + BitVec.ofNat 32 m.modelEvents.length)
    m.modelEvents.reverse

/-- The exit test of the loop in `pendingChangesBarrier`. -/
def reached (m : ModelMaintenance) (syncState : BitVec 32) : Bool :=
  !decide (0 < (syncState - m.processedEvents).toInt)

/-! ## The queue under the operations -/

theorem addModelEvent_modelEvents (m : ModelMaintenance) (e : EventType) :
    ∃ new, (m.addModelEvent e).modelEvents = m.modelEvents ++ new := by
  unfold addModelEvent
  split_ifs
  · exact ⟨[], (List.append_nil _).symm⟩
  · exact ⟨[e], rfl⟩

@[simp] theorem addModelEvent_processedEvents (m : ModelMaintenance) (e : EventType) :
    (m.addModelEvent e).processedEvents = m.processedEvents := by
  unfold addModelEvent
  split_ifs <;> rfl

@[simp] theorem addModelEvent_suppress (m : ModelMaintenance) (e : EventType) :
    (m.addModelEvent e).suppressSaveRequestNotify = m.suppressSaveRequestNotify := by
  unfold addModelEvent
  split_ifs <;> rfl

@[simp] theorem addModelEvent_current (m : ModelMaintenance) (e : EventType) :
    (m.addModelEvent e).current = m.current := by
  unfold addModelEvent
  split_ifs <;> rfl

@[simp] theorem addModelEvent_websvcEnabled (m : ModelMaintenance) (e : EventType) :
    (m.addModelEvent e).websvcEnabled = m.websvcEnabled := by
  unfold addModelEvent
  split_ifs <;> rfl

theorem handleEvent_spec (m : ModelMaintenance) (e : EventType) :
    (∃ new, (m.handleEvent e).1.modelEvents = m.modelEvents ++ new) ∧
      (m.handleEvent e).1.processedEvents = m.processedEvents ∧
      (m.handleEvent e).1.websvcEnabled = m.websvcEnabled ∧
      (m.handleEvent e).2 = (decide (e = .etModelDirty) && m.notifies) ∧
      (m.handleEvent e).1.suppressSaveRequestNotify =
        if (m.handleEvent e).2 then m.processedEvents else m.suppressSaveRequestNotify := by
  cases e
  case etModelDirty =>
    by_cases hn : m.notifies
    · simp [handleEvent, hn]
    · simp [handleEvent, hn]
  case etMeterReady =>
    by_cases hi : m.isInitializing
    · by_cases hd : m.isDirty
      · simp [handleEvent, onMeterReady, hi, hd, addModelEvent]
      · simp [handleEvent, onMeterReady, hi, hd]
    · simp [handleEvent, onMeterReady, hi]
  all_goals simp [handleEvent]

theorem popModelEvent_eq_some {m m' : ModelMaintenance} (h : m.popModelEvent = some m') :
    ∃ e rest, m.modelEvents = e :: rest ∧
      m' = { m with
        modelEvents := rest, processedEvents := m.processedEvents + 1, current := some e } := by
  unfold popModelEvent at h
  rcases hq : m.modelEvents with - | ⟨e, rest⟩
  · rw [hq] at h
    cases h
  · rw [hq] at h
    exact ⟨e, rest, rfl, (Option.some.inj h).symm⟩

/-! ## The target of the barrier

`countBack` walks back from the end of the queue to the last dirty event, so the
target is the count at which that event will have been taken out, or the present
count if there is none. -/

/-- Counting back from `n` over a reversed queue stops right behind its last
dirty event. -/
theorem countBack_eq (c : BitVec 32) :
    ∀ (q : List EventType) (n : ℕ), q.length ≤ n →
      ∃ t, n - q.length ≤ t ∧ t ≤ n ∧
        countBack (Counter.after c n) q = Counter.after c t ∧
        ∀ j < q.length, q[j]? = some .etModelDirty → n - j ≤ t := by
  intro q
  induction q with
  | nil =>
    intro n _
    exact ⟨n, by simp, le_refl n, rfl, by simp⟩
  | cons e rest ih =>
    intro n hn
    rw [List.length_cons] at hn
    by_cases he : e = .etModelDirty
    · refine ⟨n, by omega, le_refl n, by simp [countBack, he], ?_⟩
      omega
    · obtain ⟨t, hge, hle, ht, hdirty⟩ := ih (n - 1) (by omega)
      have hback : Counter.after c n - BitVec.ofNat 32 1 = Counter.after c (n - 1) :=
        Counter.after_sub c (by omega)
      refine ⟨t, by rw [List.length_cons]; omega, by omega, ?_, ?_⟩
      · rw [countBack, if_neg he]
        exact (congrArg (countBack · rest) hback).trans ht
      · intro j hj hje
        cases j with
        | zero => exact absurd (Option.some.inj hje) he
        | succ j =>
          have := hdirty j (by simpa using hj) (by simpa using hje)
          omega

/-- The target of a barrier whose counter has counted `n` events: a count that
no dirty event of the queue reaches beyond. -/
theorem indexOfNextSyncState_eq (c : BitVec 32) {m : ModelMaintenance} {n : ℕ}
    (hc : m.processedEvents = Counter.after c n) :
    ∃ t, n ≤ t ∧ t ≤ n + m.modelEvents.length ∧
      m.indexOfNextSyncState = Counter.after c t ∧
      ∀ j, m.modelEvents[j]? = some .etModelDirty → n + j < t := by
  obtain ⟨t, hge, hle, ht, hdirty⟩ := countBack_eq c m.modelEvents.reverse
    (n + m.modelEvents.length) (by rw [List.length_reverse]; omega)
  rw [List.length_reverse] at hge hdirty
  have hsum : m.processedEvents + BitVec.ofNat 32 m.modelEvents.length =
      Counter.after c (n + m.modelEvents.length) := by
    rw [hc, ← Counter.after_add]
    rfl
  refine ⟨t, by omega, hle, by rw [indexOfNextSyncState, hsum, ht], ?_⟩
  intro j hj
  have hlt : j < m.modelEvents.length := (List.getElem?_eq_some_iff.mp hj).1
  have hrev : m.modelEvents.reverse[m.modelEvents.length - 1 - j]? = some .etModelDirty := by
    rw [List.getElem?_reverse (by omega)]
    rw [show m.modelEvents.length - 1 - (m.modelEvents.length - 1 - j) = j by omega, hj]
  have := hdirty _ (by omega) hrev
  omega

end ModelMaintenance

end Dss
