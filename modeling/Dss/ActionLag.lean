import Dss.Bursts
import Dss.EventRunnerEntries
import Dss.TriggerDamping

/-!
# Lag of actions

A trigger with a lag does not act at once: the event that it relays is scheduled in the event
runner, some seconds later. If the trigger is to reschedule and fires again in the meantime, the
pending event is removed and another one is scheduled. Its id and time are texts in the
definition of the trigger.

The runner looks once a second. An event should be executed in the second that its lag ends, for
the last of firings that follow each other sooner than the lag, and for no other.
-/

namespace Dss

namespace SystemTrigger

/-- The rest of the loop body of `run`, for a trigger that fires. -/
def onFired (rt : Runtime) (t : SystemTrigger) (relay definition : PropertyNode) :
    AbortingLoop.Outcome PropertyNode Effect Failure :=
  match checkIntervals definition with
  | .error f => ⟨[], definition, some f⟩
  | .ok () =>
    match pendingEvent rt definition with
    | .error f => ⟨[], definition, some f⟩
    | .ok (some id) => t.reschedule rt id relay definition
    | .ok none => t.dampAndRelay rt relay definition

end SystemTrigger

namespace ActionLag

open DateTime

/-! ## Runs -/

/-- What does not change in a run. -/
structure Surroundings (S : Type) : Type where
  /-- what the handler asks, apart from the time and the runner -/
  runtime : Runtime
  zone : TimeZone
  schedules : ScheduleRuntime S
  /-- the entry of `/usr/triggers` -/
  relay : PropertyNode

structure LaggedTrigger (S : Type) : Type where
  definition : PropertyNode
  runner : EventRunner S
  executed : List ℤ := []
  /-- the seconds in which the trigger has fired -/
  firings : List ℕ := []
  /-- the second of the last look of the runner -/
  polled : ℕ
  clock : ℕ

/-- What happens, in a second. -/
inductive Action : Type where
  | fire (now : ℕ) (t : SystemTrigger)
  /-- the runner raises what is due, and the queue is emptied -/
  | poll (now : ℕ)

def Action.now : Action → ℕ
  | fire now _ => now
  | poll now => now

section run

variable {S : Type} (x : Surroundings S)

/-- What the handler asks, in a second, with the runner as it is. An id is made of a counter, the
second and the name of the event, so it is known before the event is scheduled. -/
def runtimeAt (runner : EventRunner S) (now : ℕ) : Runtime :=
  { TriggerDamping.runtimeAt x.runtime x.zone (now * 1000000) with
    pushTimedEvent := fun e =>
      match (runner.pushTimedEvent x.schedules now e).2 with
      | .ok id => id
      | .error _ => "" }

def perform (now : ℕ) (runner : EventRunner S) : Effect → EventRunner S
  | .pushEvent e => (runner.pushEvent x.schedules now e).1
  | .pushTimedEvent e => (runner.pushTimedEvent x.schedules now e).1
  | .removeEvent id => runner.removeEvent id

def fire (now : ℕ) (t : SystemTrigger) (s : LaggedTrigger S) : LaggedTrigger S :=
  let o := t.onFired (runtimeAt x s.runner now) x.relay s.definition
  { s with
    definition := o.state
    runner := o.effects.foldl (perform x now) s.runner
    firings := s.firings ++ [now]
    clock := now }

def poll (now : ℕ) (s : LaggedTrigger S) : LaggedTrigger S :=
  let runner := (s.runner.raisePendingEvents x.schedules now).1
  { s with
    runner := { runner with eventQueue := [] }
    executed := s.executed ++ runner.eventQueue.map fun _ => (now : ℤ)
    polled := now
    clock := now }

/-- The trigger fires, or the runner looks. -/
def step (s : LaggedTrigger S) : Action → LaggedTrigger S
  | .fire now t => fire x now t s
  | .poll now => poll x now s

end run

/-- The time does not go back, and the runner looks in every second that goes by. -/
def Timely {S : Type} (s : LaggedTrigger S) (a : Action) : Prop :=
  s.clock ≤ a.now ∧ a.now ≤ s.polled + 1 ∧ a.now < endOfTime

/-! ## The law -/

def dueOf {S : Type} : Schedule S → Option ℤ
  | .static date => some date
  | .iCal _ => none

def dues {S : Type} (s : LaggedTrigger S) : List ℤ :=
  s.runner.scheduledEvents.filterMap fun e => dueOf e.schedule

def dueTimes (lag : ℕ) (firings : List ℕ) : List ℤ := firings.map fun last : ℕ => (last + lag : ℤ)

/-- One event at most is pending. What was executed and what is pending are the ends of the bursts,
each with the lag; and nothing is pending that was due. -/
structure Law {S : Type} (lag : ℕ) (s : LaggedTrigger S) : Prop where
  single : s.runner.scheduledEvents.length ≤ 1
  balanced : s.executed ++ dues s = dueTimes lag (Bursts.ends lag s.firings)
  punctual : ∀ due ∈ dues s, (s.polled : ℤ) < due

/-! ## The condition -/

def Pending {S : Type} (lag : ℕ) (s : LaggedTrigger S) (last : ℕ) : Prop := s.polled < last + lag

/-- When a firing does well: the time of the last firing can be read; and if the event is still
pending, then it is not due yet, and what is read is not further back than the lag, as far as an
`int` can tell. -/
def Fits {S : Type} (x : Surroundings S) (lag : ℕ) (s : LaggedTrigger S) : Action → Prop
  | .fire now _ => ∀ last, s.firings.getLast? = some last →
    ∃ read, convertTZ x.zone last 0 = some read ∧
      (Pending lag s last → now < last + lag ∧ difference now read ≤ lag)
  | .poll _ => True

/-! ## Triggers with a lag -/

structure Lagged (lag : ℕ) (definition : PropertyNode) : Prop where
  delay : ∃ node, definition.getPropertyIn "lag" "delay" = some node ∧ node.value = .integer lag
  reschedule : ∃ node, definition.getPropertyIn "lag" "reschedule" = some node ∧
    node.value = .boolean true
  /-- `damping` -/
  undamped : definition.getPropertyByName "damping" = none

/-- One that has not fired. -/
structure Fresh (lag : ℕ) (definition : PropertyNode) : Prop extends Lagged lag definition where
  unused : ∀ node, definition.getPropertyByName "lag" = some node →
    "eventid" ∉ node.childNames ∧ "last_event_scheduled_at" ∉ node.childNames

structure Scheduled (lag : ℕ) (id : String) (last : ℕ) (definition : PropertyNode) : Prop
    extends Lagged lag definition where
  eventid : ∃ node, definition.getPropertyIn "lag" "eventid" = some node ∧ node.value = .string id
  /-- `last_event_scheduled_at` -/
  stamp : ∃ node, definition.getPropertyIn "lag" "last_event_scheduled_at" = some node ∧
    node.value = .string (toISO8601 last)

structure Relays (rt : Runtime) (relay : PropertyNode) : Prop where
  /-- `triggerPath` -/
  path : ∃ node, relay.getPropertyByName "triggerPath" = some node
  /-- `relayedEventName` -/
  name : ∃ node, relay.getPropertyByName "relayedEventName" = some node ∧
    SafeName (node.getAsString rt.doubleToString)

/-- Nothing has fired yet, and nothing is scheduled or in the queue. -/
structure Start {S : Type} (lag : ℕ) (s : LaggedTrigger S) : Prop where
  fresh : Fresh lag s.definition
  runner : s.runner.Start
  queue : s.runner.eventQueue = []
  executed : s.executed = []
  firings : s.firings = []

end ActionLag

end Dss
