import Dss.EventRunner
import Dss.Transition

/-!
# Unique events

`pushEvent` looks for an event that it replaces in one critical section of the queue and puts its
own event into the queue in another one, while `addEvent` does both under the mutex of the runner,
which is held for all of `raisePendingEvents`.

An event is an object that the queue, the runner and the threads refer to: what is raised stays
in the runner, too, if it recurs. The nodes below the monitor node only matter in that an exception
may come from them.
-/

namespace Dss

open Function

namespace Event

/-- What `isReplacementFor` compares. -/
def identity (e : Event) : String × String × String :=
  (e.name, e.getPropertyByName "context", e.getPropertyByName "location")

/-- All properties have the same values. -/
def Agrees (e other : Event) : Prop :=
  ∀ name, e.getPropertyByName name = other.getPropertyByName name

/-- Whether `mergeInto` leaves no time of the event that is replaced. -/
def refreshes (e other : Event) : Bool :=
  e.hasPropertySet "time" || other.getPropertyByName "time" == ""

end Event

/-- Where a thread is in `pushEvent`. -/
inductive PushTask (S : Type) : Type where
  /-- nowhere -/
  | idle : PushTask S
  /-- before the critical section of `addEvent` -/
  | adding (event : ℕ) (schedule : Schedule S) (id : String) : PushTask S
  | checking (event : ℕ) : PushTask S
  | inserting (event : ℕ) : PushTask S

def PushTask.events {S : Type} : PushTask S → List ℕ
  | .idle => []
  | .adding event _ _ | .checking event | .inserting event => [event]

structure EventThread (S : Type) : Type where
  /-- where it is in `pushEvent` -/
  task : PushTask S := .idle
  /-- in `raisePendingEvents`, the time it has read and the position it has come to -/
  raising : Option (ℤ × ℕ) := none

/-- `ScheduledEvent`, with a reference to the event. -/
structure RunnerEntry (S : Type) : Type where
  /-- `m_EventID` -/
  id : String
  event : ℕ
  schedule : Schedule S

/-- `EventQueue` and `EventRunner`, the event objects and the threads. -/
structure PendingEvents (T S : Type) : Type where
  objects : ℕ → Event
  allocated : ℕ := 0
  /-- `m_EventQueue` -/
  queue : List ℕ := []
  /-- `m_ScheduledEvents` -/
  runner : List (RunnerEntry S) := []
  scheduledEventCounter : ℕ := 0
  /-- the thread that holds `m_EventsMutex` in `raisePendingEvents` -/
  lockedBy : Option T := none
  threads : T → EventThread S := fun _ => {}
  latestQueue : String × String × String → Option Event := fun _ => none
  /-- of each identity, the one that was added to the runner last; the schedule is taken off it
  when it is taken off the entry -/
  latestRunner : String × String × String → Option Event := fun _ => none

namespace PendingEvents

variable {T S : Type} [DecidableEq T]

/-! ## The critical sections -/

def runnerEvents (w : PendingEvents T S) : List ℕ := w.runner.map RunnerEntry.event

def identityOf (w : PendingEvents T S) (o : ℕ) : String × String × String := (w.objects o).identity

def setTask (w : PendingEvents T S) (t : T) (task : PushTask S) : PendingEvents T S :=
  { w with threads := Function.update w.threads t { w.threads t with task := task } }

def merge (w : PendingEvents T S) (o q : ℕ) : PendingEvents T S :=
  { w with objects := Function.update w.objects q ((w.objects o).mergeInto (w.objects q)) }

def recordQueue (w : PendingEvents T S) (o : ℕ) : PendingEvents T S :=
  { w with latestQueue :=
      Function.update w.latestQueue (w.identityOf o) (some (w.objects o)) }

def recordRunner (w : PendingEvents T S) (o : ℕ) : PendingEvents T S :=
  { w with latestRunner :=
      Function.update w.latestRunner (w.identityOf o) (some (w.objects o)) }

/-- `pushEvent` up to its first critical section. -/
def startPush (rt : ScheduleRuntime S) (w : PendingEvents T S) (t : T) (now : ℤ) (o : ℕ) :
    PendingEvents T S :=
  match EventRunner.scheduleFromEvent rt now (w.objects o) with
  | some schedule =>
    setTask { w with scheduledEventCounter := w.scheduledEventCounter + 1 } t
      (.adding o schedule (scheduledEventID w.scheduledEventCounter now (w.objects o).name))
  | none => w.setTask t (if (w.objects o).isUnique then .checking o else .inserting o)

def replacedInQueue (w : PendingEvents T S) (o : ℕ) : Option ℕ :=
  w.queue.find? fun q => (w.objects o).isReplacementFor (w.objects q)

/-- The first critical section of `pushEvent`, for a unique event. -/
def checkQueue (w : PendingEvents T S) (t : T) (o : ℕ) : PendingEvents T S :=
  match w.replacedInQueue o with
  | some q => ((w.recordQueue o).merge o q).setTask t .idle
  | none => w.setTask t (.inserting o)

def insertQueue (w : PendingEvents T S) (t : T) (o : ℕ) : PendingEvents T S :=
  setTask { w.recordQueue o with queue := w.queue ++ [o] } t .idle

def replacedInRunner (w : PendingEvents T S) (o : ℕ) : Option ℕ :=
  w.runnerEvents.find? fun q => (w.objects o).isReplacementFor (w.objects q)

/-- `addEvent`. If the nodes cannot be made, an exception leaves it before the entry is there. -/
def addEvent (w : PendingEvents T S) (t : T) (o : ℕ) (schedule : Schedule S) (id : String)
    (throws : Bool) : PendingEvents T S :=
  match if (w.objects o).isUnique then w.replacedInRunner o else none with
  | some q => ((w.recordRunner o).merge o q).setTask t .idle
  | none =>
    if throws then w.setTask t .idle
    else
      setTask { w.recordRunner o with
        runner := w.runner ++ [{ id := id, event := o, schedule := schedule }] } t .idle

def removeEventInternal (w : PendingEvents T S) (id : String) : PendingEvents T S :=
  { w with runner := w.runner.eraseP fun x => x.id = id }

/-- `raisePendingEvents` ends, and releases the mutex. -/
def release (w : PendingEvents T S) (t : T) : PendingEvents T S :=
  { w with
    lockedBy := none
    threads := Function.update w.threads t { w.threads t with raising := none } }

/-- The loop of `raisePendingEvents` goes on behind a position, with the schedule that this
entry has then. -/
def advance (w : PendingEvents T S) (t : T) (now : ℤ) (i : ℕ) (x : RunnerEntry S)
    (schedule : Schedule S) : PendingEvents T S :=
  { w with
    runner := w.runner.set i { x with schedule := schedule }
    threads := Function.update w.threads t { w.threads t with raising := some (now, i + 1) } }

/-- The properties `time`, `iCalStartTime` and `iCalRRule` are taken off an event. -/
def takeSchedule (w : PendingEvents T S) (o : ℕ) : PendingEvents T S :=
  { w with
    objects := Function.update w.objects o (w.objects o).withoutSchedule
    latestRunner := Function.update w.latestRunner (w.identityOf o)
      ((w.latestRunner (w.identityOf o)).map Event.withoutSchedule) }

/-- One turn of the loop of `raisePendingEvents`, up to the critical sections of `pushEvent`.
What it does with the schedule behind `pushEvent` is done here already; nobody else sees the
schedule. An exception of the monitor nodes ends the loop. -/
def visit (rt : ScheduleRuntime S) (w : PendingEvents T S) (t : T) (now : ℤ) (i : ℕ)
    (throws : Bool) : PendingEvents T S :=
  match w.runner[i]? with
  | none => w.release t
  | some x =>
    let (nextOccurence, schedule) := x.schedule.getNextOccurence rt now
    if nextOccurence = 0 then w.advance t now i x schedule
    else if throws then (w.advance t now i x schedule).release t
    else if DateTime.difference nextOccurence now ≤ 0 then
      let schedule :=
        if schedule.hasRecurrence then
          (schedule.getNextOccurence rt (now + 1)).2.leapAdjust rt (now + 1)
        else schedule
      ((w.advance t now i x schedule).takeSchedule x.event).startPush rt t now x.event
    else w.advance t now i x schedule

/-! ## Runs -/

inductive Action (T : Type) : Type where
  | create (e : Event)
  /-- a thread calls `pushEvent` -/
  | push (t : T) (now : ℤ) (o : ℕ)
  /-- the critical section of `addEvent` -/
  | add (t : T) (throws : Bool)
  /-- the critical section that looks for an event to replace -/
  | check (t : T)
  /-- the critical section that puts the event into the queue -/
  | insert (t : T)
  /-- `popEvent` -/
  | pop
  /-- the critical section of `removeEvent` -/
  | remove (id : String)
  /-- a thread calls `raisePendingEvents`, and gets the mutex -/
  | raise (t : T) (now : ℤ)
  /-- its loop makes one turn -/
  | visit (t : T) (throws : Bool)

/-- One critical section of a thread, where it can be entered. -/
def step (rt : ScheduleRuntime S) (w : PendingEvents T S) : Action T → Option (PendingEvents T S)
  | .create e =>
    some { w with objects := Function.update w.objects w.allocated e
                  allocated := w.allocated + 1 }
  | .push t now o =>
    match (w.threads t).task, (w.threads t).raising with
    | .idle, none => if o < w.allocated then some (w.startPush rt t now o) else none
    | _, _ => none
  | .add t throws =>
    match (w.threads t).task with
    | .adding o schedule id =>
      if w.lockedBy.isNone then some (w.addEvent t o schedule id throws) else none
    | _ => none
  | .check t =>
    match (w.threads t).task with
    | .checking o => some (w.checkQueue t o)
    | _ => none
  | .insert t =>
    match (w.threads t).task with
    | .inserting o => some (w.insertQueue t o)
    | _ => none
  | .pop => some { w with queue := w.queue.tail }
  | .remove id => if w.lockedBy.isNone then some (w.removeEventInternal id) else none
  | .raise t now =>
    match (w.threads t).task, (w.threads t).raising with
    | .idle, none =>
      if w.lockedBy.isNone then
        some { w with
          lockedBy := some t
          threads := Function.update w.threads t { task := .idle, raising := some (now, 0) } }
      else none
    | _, _ => none
  | .visit t throws =>
    match (w.threads t).task, (w.threads t).raising with
    | .idle, some (now, i) => some (w.visit rt t now i throws)
    | _, _ => none

def start (e : Event) : PendingEvents T S := { objects := fun _ => e }

/-- The runner is not in the middle of pushing an event of the identity. -/
def Quiet (k : String × String × String) (w : PendingEvents T S) : Prop :=
  ∀ t o, (w.threads t).raising ≠ none → o ∈ (w.threads t).task.events → w.identityOf o ≠ k

/-- What is promised of an identity: at most one entry in the queue and one in the runner, each
with the values that were pushed there last. -/
structure Law (k : String × String × String) (w : PendingEvents T S) : Prop where
  queue_le_one : (w.queue.countP fun o => w.identityOf o = k) ≤ 1
  runner_le_one : (w.runnerEvents.countP fun o => w.identityOf o = k) ≤ 1
  queue_carries : w.Quiet k → ∀ o ∈ w.queue, w.identityOf o = k →
    ∃ e, w.latestQueue k = some e ∧ (w.objects o).Agrees e
  runner_carries : ∀ o ∈ w.runnerEvents, w.identityOf o = k →
    ∃ e, w.latestRunner k = some e ∧ (w.objects o).Agrees e

def marked (k : String × String × String) (w : PendingEvents T S) : Action T → Bool
  | .push _ _ o => decide (w.identityOf o = k → (w.objects o).isUnique = true)
  | _ => true

/-- An event that is put into the queue meets none of its identity there; and what is replaced
keeps no time of its own, and is not in the other list as well, unless it is the very event that
is pushed. -/
def fits (k : String × String × String) (w : PendingEvents T S) : Action T → Bool
  | .add t _ =>
    match (w.threads t).task with
    | .adding o _ _ =>
      w.identityOf o != k || (w.replacedInRunner o).all fun q =>
        (w.objects o).refreshes (w.objects q) && (o == q || !w.queue.contains q)
    | _ => true
  | .check t =>
    match (w.threads t).task with
    | .checking o =>
      w.identityOf o != k || (w.replacedInQueue o).all fun q =>
        (w.objects o).refreshes (w.objects q) && (o == q || !w.runnerEvents.contains q)
    | _ => true
  | .insert t =>
    match (w.threads t).task with
    | .inserting o => w.identityOf o != k || w.queue.all fun q => w.identityOf q != k
    | _ => true
  | _ => true

/-- The action is one of this identity, and meets the condition. -/
def Meets (k : String × String × String) (a : Action T) (w : PendingEvents T S) : Prop :=
  marked k w a = true ∧ fits k w a = true

instance (k : String × String × String) (a : Action T) (w : PendingEvents T S) :
    Decidable (Meets k a w) :=
  inferInstanceAs (Decidable (_ ∧ _))

end PendingEvents

end Dss
