import Dss.ModelEventQueue

/-!
# Runs of the model event queue

Any number of producers, the one consumer, and any number of callers of `pendingChangesBarrier`.
The world carries histories the program does not have, so that statements can speak about events by
their index in the order of arrival. `Tracks` ties the queue and the counter to these histories.
-/

namespace Dss

open Transition List

/-- Where a caller of `pendingChangesBarrier` stands. -/
inductive Barrier : Type where
  /-- not in the function -/
  | outside
  /-- called, before `indexOfNextSyncState` has read the queue -/
  | entered
  /-- in the loop, waiting for the count `syncState` -/
  | waiting (syncState : BitVec 32)
  | returned (consistent : Bool)
  deriving DecidableEq

/-- A raised `ModelChangedEvent`. -/
structure Raise : Type where
  event : ℕ
  enqueued : ℕ
  deriving DecidableEq

structure World : Type where
  maintenance : ModelMaintenance
  barrier : ℕ → Barrier := fun _ => .outside
  /-- history: all events ever in the queue, oldest first -/
  enqueued : List EventType
  handled : List EventType := []
  /-- history: how many events had been enqueued when a caller entered -/
  enteredAt : ℕ → ℕ := fun _ => 0
  /-- history: the notifications raised, oldest first -/
  raises : List Raise := []

inductive Action : Type where
  /-- a producer calls `addModelEvent` -/
  | add (e : EventType)
  /-- the consumer takes an event out of the queue -/
  | take
  /-- the consumer finishes the event it has taken -/
  | handle
  | enter (i : ℕ)
  /-- it reads the queue under the queue's lock -/
  | snapshot (i : ℕ)
  /-- it tests the loop condition, and returns or goes on waiting -/
  | poll (i : ℕ)
  /-- its wait times out -/
  | timeout (i : ℕ)
  deriving DecidableEq

namespace World

def start (m : ModelMaintenance) : World :=
  { maintenance := m, enqueued := m.modelEvents }

def taken (w : World) : ℕ := w.handled.length + w.maintenance.current.toList.length

/-- The world after the shared state changed, with what was appended to the
queue added to the history. -/
def observe (w : World) (m : ModelMaintenance) : World :=
  { w with
    maintenance := m
    enqueued := w.enqueued ++ m.modelEvents.drop w.maintenance.modelEvents.length }

/-- Caller `i` moves on to `b`. -/
def moveBarrier (w : World) (i : ℕ) (b : Barrier) : World :=
  { w with barrier := Function.update w.barrier i b }

/-- The consumer finishes `e`, the event it has taken. -/
def finish (w : World) (e : EventType) : World :=
  let handled := w.maintenance.handleEvent e
  let raise : Raise := ⟨w.handled.length, w.enqueued.length⟩
  { w.observe { handled.1 with current := none } with
    handled := w.handled ++ [e]
    raises := w.raises ++ if handled.2 then [raise] else [] }

/-- The actions. `none` where an action is not enabled. -/
def step (w : World) : Action → Option World
  | .add e => some (w.observe (w.maintenance.addModelEvent e))
  | .take =>
    match w.maintenance.current with
    | some _ => none
    | none => w.maintenance.popModelEvent.map fun m => { w with maintenance := m }
  | .handle =>
    match w.maintenance.current with
    | none => none
    | some e => some (w.finish e)
  | .enter i =>
    match w.barrier i with
    | .outside | .returned _ =>
      some { w.moveBarrier i .entered with
        enteredAt := Function.update w.enteredAt i w.enqueued.length }
    | _ => none
  | .snapshot i =>
    match w.barrier i with
    | .entered => some (w.moveBarrier i (.waiting w.maintenance.indexOfNextSyncState))
    | _ => none
  | .poll i =>
    match w.barrier i with
    | .waiting s =>
      some (if w.maintenance.reached s then w.moveBarrier i (.returned true) else w)
    | _ => none
  | .timeout i =>
    match w.barrier i with
    | .waiting _ => some (w.moveBarrier i (.returned false))
    | _ => none

/-- `step` as a relation. -/
def Step (a : Action) (w w' : World) : Prop := w.step a = some w'

/-! ## What each action does -/

variable {w w' : World}

theorem step_add {e : EventType} (h : Step (.add e) w w') :
    ∃ new, w'.maintenance.modelEvents = w.maintenance.modelEvents ++ new ∧
      w'.enqueued = w.enqueued ++ new ∧
      w'.maintenance.processedEvents = w.maintenance.processedEvents ∧
      w'.maintenance.suppressSaveRequestNotify =
        w.maintenance.suppressSaveRequestNotify ∧
      w'.maintenance.websvcEnabled = w.maintenance.websvcEnabled ∧
      w'.maintenance.current = w.maintenance.current ∧
      w'.handled = w.handled ∧ w'.raises = w.raises ∧
      w'.barrier = w.barrier ∧ w'.enteredAt = w.enteredAt := by
  obtain rfl := Option.some.inj h
  obtain ⟨new, hnew⟩ := w.maintenance.addModelEvent_modelEvents e
  simp [observe, hnew]

theorem step_take (h : Step .take w w') :
    ∃ e rest, w.maintenance.current = none ∧ w.maintenance.modelEvents = e :: rest ∧
      w' = { w with maintenance := { w.maintenance with
        modelEvents := rest
        processedEvents := w.maintenance.processedEvents + 1
        current := some e } } := by
  unfold Step step at h
  rcases hc : w.maintenance.current with - | e
  · rw [hc] at h
    obtain ⟨m, hm, rfl⟩ := Option.map_eq_some_iff.mp h
    obtain ⟨e, rest, hq, rfl⟩ := ModelMaintenance.popModelEvent_eq_some hm
    exact ⟨e, rest, rfl, hq, rfl⟩
  · rw [hc] at h
    cases h

/-- Handling finishes `current`: what it adds goes to the end of the queue, and
a notification is raised by a dirty event that is not masked. -/
theorem step_handle (h : Step .handle w w') :
    ∃ e new, w.maintenance.current = some e ∧ w'.maintenance.current = none ∧
      w'.maintenance.modelEvents = w.maintenance.modelEvents ++ new ∧
      w'.enqueued = w.enqueued ++ new ∧
      w'.maintenance.processedEvents = w.maintenance.processedEvents ∧
      w'.maintenance.websvcEnabled = w.maintenance.websvcEnabled ∧
      w'.handled = w.handled ++ [e] ∧
      w'.barrier = w.barrier ∧ w'.enteredAt = w.enteredAt ∧
      if e = .etModelDirty ∧ w.maintenance.notifies = true then
        w'.raises = w.raises ++ [⟨w.handled.length, w.enqueued.length⟩] ∧
          w'.maintenance.suppressSaveRequestNotify = w.maintenance.processedEvents
      else
        w'.raises = w.raises ∧ w'.maintenance.suppressSaveRequestNotify =
          w.maintenance.suppressSaveRequestNotify := by
  rcases hc : w.maintenance.current with - | e
  · simp only [Step, step, hc, reduceCtorEq] at h
  · simp only [Step, step, hc, Option.some.injEq] at h
    subst h
    obtain ⟨⟨new, hnew⟩, hcount, hweb, hraised, hmask⟩ := w.maintenance.handleEvent_spec e
    refine ⟨e, new, rfl, rfl, hnew, by simp [finish, observe, hnew], hcount, hweb, rfl, rfl,
      rfl, ?_⟩
    by_cases hr : e = .etModelDirty ∧ w.maintenance.notifies = true
    · have htrue : (w.maintenance.handleEvent e).2 = true := by
        rw [hraised, hr.2, decide_eq_true hr.1, Bool.and_self]
      rw [if_pos hr]
      rw [if_pos htrue] at hmask
      exact ⟨by simp only [finish, if_pos htrue], hmask⟩
    · have hfalse : ¬ (w.maintenance.handleEvent e).2 = true := by
        rw [hraised, Bool.and_eq_true, decide_eq_true_iff]
        exact hr
      rw [if_neg hr]
      rw [if_neg hfalse] at hmask
      exact ⟨by simp only [finish, if_neg hfalse, append_nil], hmask⟩

theorem step_enter {i : ℕ} (h : Step (.enter i) w w') :
    w' = { w.moveBarrier i .entered with
      enteredAt := Function.update w.enteredAt i w.enqueued.length } := by
  rcases hb : w.barrier i with - | - | s | r <;> simp only [Step, step, hb] at h <;>
    first | cases h; rfl | cases h

theorem step_snapshot {i : ℕ} (h : Step (.snapshot i) w w') :
    w.barrier i = .entered ∧
      w' = w.moveBarrier i (.waiting w.maintenance.indexOfNextSyncState) := by
  rcases hb : w.barrier i with - | - | s | r <;> simp only [Step, step, hb] at h <;>
    first | cases h; exact ⟨rfl, rfl⟩ | cases h

theorem step_poll {i : ℕ} (h : Step (.poll i) w w') :
    w' = w ∨ ∃ s, w.barrier i = .waiting s ∧ w.maintenance.reached s = true ∧
      w' = w.moveBarrier i (.returned true) := by
  rcases hb : w.barrier i with - | - | s | r
  case waiting =>
    simp only [Step, step, hb, Option.some.injEq] at h
    subst h
    by_cases hs : w.maintenance.reached s = true
    · right
      exact ⟨s, rfl, hs, if_pos hs⟩
    · left
      exact if_neg hs
  all_goals simp only [Step, step, hb, reduceCtorEq] at h

theorem step_timeout {i : ℕ} (h : Step (.timeout i) w w') :
    w' = w.moveBarrier i (.returned false) := by
  rcases hb : w.barrier i with - | - | s | r <;> simp only [Step, step, hb] at h <;>
    first | cases h; rfl | cases h

/-! ## The queue and the counter against the histories -/

/-- The shared state as the histories determine it, for a counter that started
at `c`. -/
structure Tracks (c : BitVec 32) (w : World) : Prop where
  taken_le : w.taken ≤ w.enqueued.length
  queue : w.maintenance.modelEvents = w.enqueued.drop w.taken
  count : w.maintenance.processedEvents = Counter.after c w.taken
  handled : w.handled = w.enqueued.take w.handled.length
  /-- the event in hand is the next one in that order -/
  current : ∀ e, w.maintenance.current = some e → w.enqueued[w.handled.length]? = some e

/-- Nothing that was enqueued, taken or handled is undone. -/
structure Grows (w w' : World) : Prop where
  enqueued : w.enqueued <+: w'.enqueued
  taken : w.taken ≤ w'.taken
  handled : w.handled.length ≤ w'.handled.length

theorem Grows.getElem? (g : Grows w w') {j : ℕ} (hj : j < w.enqueued.length) :
    w'.enqueued[j]? = w.enqueued[j]? := by
  obtain ⟨new, hnew⟩ := g.enqueued
  rw [← hnew, getElem?_append_left hj]

theorem taken_of_none (h : w.maintenance.current = none) : w.taken = w.handled.length := by
  rw [taken, h, Option.toList_none, length_nil, Nat.add_zero]

theorem taken_of_some {e : EventType} (h : w.maintenance.current = some e) :
    w.taken = w.handled.length + 1 := by
  rw [taken, h, Option.toList_some, length_singleton]

theorem tracks_start {m : ModelMaintenance} (hidle : m.current = none) :
    Tracks m.processedEvents (start m) := by
  have ht : (start m).taken = 0 := taken_of_none hidle
  refine ⟨by omega, ?_, ?_, rfl, ?_⟩
  · rw [ht]
    rfl
  · rw [ht, Counter.after_zero]
    rfl
  · intro e he
    exact absurd (hidle.symm.trans he) (by simp)

/-- The state after adding or after a caller's step is tracked: the queue and the
history grew alike, the rest is unchanged. -/
theorem Tracks.grow {c : BitVec 32} (hw : Tracks c w) (new : List EventType)
    (hq : w'.maintenance.modelEvents = w.maintenance.modelEvents ++ new)
    (he : w'.enqueued = w.enqueued ++ new)
    (hp : w'.maintenance.processedEvents = w.maintenance.processedEvents)
    (hc : w'.maintenance.current = w.maintenance.current)
    (hh : w'.handled = w.handled) : Tracks c w' ∧ Grows w w' := by
  have ht : w'.taken = w.taken := by rw [taken, taken, hc, hh]
  have hle := hw.taken_le
  have hhl : w.handled.length ≤ w.enqueued.length := le_trans (Nat.le_add_right ..) hle
  refine ⟨⟨?_, ?_, ?_, ?_, ?_⟩, ⟨⟨new, he.symm⟩, by rw [ht], by rw [hh]⟩⟩
  · rw [he, length_append]
    omega
  · rw [hq, hw.queue, ht, he, drop_append_of_le_length hle]
  · rw [hp, ht, hw.count]
  · rw [hh, he, take_append_of_le_length hhl]
    exact hw.handled
  · intro e hce
    have hcur := hw.current e (hc.symm.trans hce)
    rw [hh, he, getElem?_append_left (List.getElem?_eq_some_iff.mp hcur).1]
    exact hcur

theorem Tracks.take {c : BitVec 32} (hw : Tracks c w) (h : Step .take w w') :
    Tracks c w' ∧ Grows w w' := by
  obtain ⟨e, rest, hnone, hq, rfl⟩ := step_take h
  have ht := taken_of_none hnone
  have hhead : w.enqueued[w.handled.length]? = some e := by
    have hdrop := hw.queue
    rw [hq, ht] at hdrop
    rw [← Nat.add_zero w.handled.length, ← getElem?_drop, ← hdrop]
    rfl
  have hlt := (List.getElem?_eq_some_iff.mp hhead).1
  refine ⟨⟨hlt, ?_, ?_, hw.handled, ?_⟩, ⟨prefix_refl _, ?_, le_refl _⟩⟩
  · change rest = w.enqueued.drop (w.handled.length + 1)
    rw [← tail_drop, ← ht, ← hw.queue, hq]
    rfl
  · change w.maintenance.processedEvents + BitVec.ofNat 32 1 = _
    rw [hw.count, ht, Counter.after, BitVec.add_assoc, ← BitVec.ofNat_add]
    rfl
  · intro e' he'
    obtain rfl := Option.some.inj he'
    exact hhead
  · rw [ht]
    exact Nat.le_add_right ..

theorem Tracks.handle {c : BitVec 32} (hw : Tracks c w) (h : Step .handle w w') :
    Tracks c w' ∧ Grows w w' := by
  obtain ⟨e, new, hsome, hnone, hq, he, hp, -, hh, -⟩ := step_handle h
  have hlen : w'.handled.length = w.handled.length + 1 := by rw [hh]; simp
  have ht : w'.taken = w.taken := by
    rw [taken_of_none hnone, taken_of_some hsome, hlen]
  have hle := hw.taken_le
  have hcur := hw.current e hsome
  have hlt := (List.getElem?_eq_some_iff.mp hcur).1
  refine ⟨⟨?_, ?_, ?_, ?_, ?_⟩, ⟨⟨new, he.symm⟩, by rw [ht], by omega⟩⟩
  · rw [he, length_append]
    omega
  · rw [hq, hw.queue, ht, he, drop_append_of_le_length hle]
  · rw [hp, ht, hw.count]
  · rw [hlen, he, take_append_of_le_length hlt, take_add_one, hcur, ← hw.handled,
      hh]
    rfl
  · intro e' he'
    exact absurd (hnone.symm.trans he') (by simp)

theorem Tracks.step {c : BitVec 32} {a : Action} (hw : Tracks c w) (h : Step a w w') :
    Tracks c w' ∧ Grows w w' := by
  have same : w'.maintenance = w.maintenance → w'.enqueued = w.enqueued →
      w'.handled = w.handled → Tracks c w' ∧ Grows w w' := by
    intro hm he hh
    refine hw.grow [] ?_ ?_ ?_ ?_ hh <;> simp [hm, he]
  cases a with
  | add e =>
    obtain ⟨new, hq, he, hp, -, -, hc, hh, -⟩ := step_add h
    exact hw.grow new hq he hp hc hh
  | take => exact hw.take h
  | handle => exact hw.handle h
  | enter i =>
    obtain rfl := step_enter h
    exact same rfl rfl rfl
  | snapshot i =>
    obtain ⟨-, rfl⟩ := step_snapshot h
    exact same rfl rfl rfl
  | poll i =>
    rcases step_poll h with rfl | ⟨s, -, -, rfl⟩
    · exact same rfl rfl rfl
    · exact same rfl rfl rfl
  | timeout i =>
    obtain rfl := step_timeout h
    exact same rfl rfl rfl

end World

end Dss
