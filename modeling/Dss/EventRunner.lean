import Dss.Event
import Dss.PropertyPath
import Dss.Seconds

/-!
# Scheduled events

The event queue hands an event with a time to the event runner, which keeps it in a list and
mirrors the list in the property tree: each scheduled event has a node below the monitor node,
with the id of the event as its name and path. Removing a node removes the scheduled event with
its name, by way of a listener.

Times are whole seconds; the one of the null date is 0. They are compared by their difference.
-/

namespace Dss

/-- What lies outside: libical behind `ICalSchedule`, and the texts of times. -/
structure ScheduleRuntime (S : Type) : Type where
  /-- `DateTime::parseRFC2445`, which throws where it does not read a time -/
  parseRFC2445 : String → Option ℤ
  /-- `DateTime::toString` -/
  dateToString : ℤ → String
  /-- the constructor of `ICalSchedule`, with the time now -/
  iCalSchedule : (rRule start : String) → (now : ℤ) → S
  /-- `ICalSchedule::getNextOccurence`, which may move the schedule on -/
  getNextOccurence : S → ℤ → ℤ × S
  /-- `ICalSchedule::leapAdjust` -/
  leapAdjust : S → ℤ → S

inductive Schedule (S : Type) : Type where
  /-- `StaticSchedule` -/
  | static (when : ℤ) : Schedule S
  /-- `ICalSchedule` -/
  | iCal (schedule : S) : Schedule S

namespace Schedule

variable {S : Type}

def getNextOccurence (rt : ScheduleRuntime S) (start : ℤ) : Schedule S → ℤ × Schedule S
  | static when =>
    (if DateTime.difference start when ≤ 0 then when else start, static when)
  | iCal schedule =>
    let (next, schedule) := rt.getNextOccurence schedule start
    (next, iCal schedule)

def hasRecurrence : Schedule S → Bool
  | static _ => false
  | iCal _ => true

def leapAdjust (rt : ScheduleRuntime S) (endTime : ℤ) : Schedule S → Schedule S
  | static when => static when
  | iCal schedule => iCal (rt.leapAdjust schedule endTime)

end Schedule

namespace Event

def unsetProperty (e : Event) (name : String) : Event :=
  if name = "location" then { e with location := none }
  else if name = "context" then { e with context := none }
  else if name = "time" then { e with time := none }
  else { e with properties := e.properties.erase name }

def isReplacementFor (e other : Event) : Bool :=
  e.name == other.name && e.getPropertyByName "context" == other.getPropertyByName "context" &&
    e.getPropertyByName "location" == other.getPropertyByName "location"

/-- Whether the property `unique` has a text. -/
def isUnique (e : Event) : Bool := e.getPropertyByName "unique" != ""

/-- A unique event gives its properties to the one it replaces, and its time if it has
one. -/
def mergeInto (e other : Event) : Event :=
  { other with
    properties := e.properties
    time := if e.hasPropertySet "time" then some (e.getPropertyByName "time") else other.time }

/-- What `raisePendingEvents` does to an event before it is queued. -/
def withoutSchedule (e : Event) : Event :=
  let e := if e.hasPropertySet "time" then e.unsetProperty "time" else e
  let e := if e.hasPropertySet "iCalStartTime" then e.unsetProperty "iCalStartTime" else e
  if e.hasPropertySet "iCalRRule" then e.unsetProperty "iCalRRule" else e

variable {e : Event} {name other : String}

theorem hasPropertySet_unsetProperty (hname : name ≠ "name") :
    (e.unsetProperty name).hasPropertySet name = false := by
  simp only [unsetProperty, hasPropertySet, if_neg hname]
  split_ifs
  · rfl
  · rfl
  · rfl
  · rw [Properties.has, AList.lookup_erase]
    rfl

theorem hasPropertySet_unsetProperty_of_eq_false (h : e.hasPropertySet name = false) :
    (e.unsetProperty other).hasPropertySet name = false := by
  by_cases hother : name = other
  · subst hother
    refine hasPropertySet_unsetProperty ?_
    rintro rfl
    cases h
  · simp only [unsetProperty, hasPropertySet, Properties.has] at h ⊢
    split_ifs at h ⊢ <;> simp_all [AList.lookup_erase_ne]

theorem hasPropertySet_unsetIf (hname : name ≠ "name") :
    (if e.hasPropertySet name then e.unsetProperty name else e).hasPropertySet name = false := by
  split_ifs with h
  · exact hasPropertySet_unsetProperty hname
  · exact Bool.eq_false_iff.mpr h

theorem hasPropertySet_unsetIf_of_eq_false (h : e.hasPropertySet name = false) :
    (if e.hasPropertySet other then e.unsetProperty other else e).hasPropertySet name =
      false := by
  split_ifs
  · exact hasPropertySet_unsetProperty_of_eq_false h
  · exact h

theorem hasPropertySet_withoutSchedule :
    e.withoutSchedule.hasPropertySet "time" = false ∧
      e.withoutSchedule.hasPropertySet "iCalStartTime" = false := by
  constructor
  · exact hasPropertySet_unsetIf_of_eq_false (hasPropertySet_unsetIf_of_eq_false
      (hasPropertySet_unsetIf (by decide)))
  · exact hasPropertySet_unsetIf_of_eq_false (hasPropertySet_unsetIf (by decide))

end Event

structure ScheduledEvent (S : Type) : Type where
  /-- `m_EventID` -/
  id : String
  event : Event
  schedule : Schedule S

/-- `EventRunner` with its monitor node, and `EventQueue`. -/
structure EventRunner (S : Type) : Type where
  scheduledEvents : List (ScheduledEvent S) := []
  monitorNode : PropertyNode
  scheduledEventCounter : ℕ := 0
  eventQueue : List Event := []

/-- The id that the constructor of `ScheduledEvent` makes. -/
def scheduledEventID (counter : ℕ) (now : ℤ) (name : String) : String :=
  counter.repr ++ "-" ++ now.toNat.repr ++ "_" ++ name

def replaceFirst {α : Type} (p : α → Bool) (f : α → α) : List α → List α
  | [] => []
  | a :: as => if p a then f a :: as else a :: replaceFirst p f as

namespace EventRunner

variable {S : Type}

/-! ## The event queue -/

/-- `EventQueue::scheduleFromEvent` -/
def scheduleFromEvent (rt : ScheduleRuntime S) (now : ℤ) (e : Event) : Option (Schedule S) :=
  if e.hasPropertySet "time" then
    match (e.getPropertyByName "time").toList with
    | '+' :: c :: cs =>
      let offset := (parseInt? (String.ofList (c :: cs))).getD (-1)
      if 0 < offset then some (.static (now + offset)) else none
    | _ :: _ :: _ => (rt.parseRFC2445 (e.getPropertyByName "time")).map .static
    | _ => none
  else if e.hasPropertySet "iCalStartTime" ∧ e.hasPropertySet "iCalRRule" then
    some (.iCal (rt.iCalSchedule (e.getPropertyByName "iCalRRule")
      (e.getPropertyByName "iCalStartTime") now))
  else none

/-- The part of `pushEvent` that puts an event into the queue: a unique one only if there
is none that it replaces. -/
def enqueue (queue : List Event) (e : Event) : List Event :=
  if e.isUnique ∧ queue.any e.isReplacementFor then
    replaceFirst e.isReplacementFor e.mergeInto queue
  else queue ++ [e]

/-! ## The event runner -/

/-- Writes a text into a node; it goes through `c_str`. -/
def setText (text : String) (node : PropertyNode) : PropertyNode :=
  node.setStringValue (cString text)

/-- `EventRunner::addEvent`. An exception leaves it before the entry is made. -/
def addEvent (r : EventRunner S) (x : ScheduledEvent S) : EventRunner S × Option Failure :=
  if x.event.isUnique ∧ r.scheduledEvents.any fun y => x.event.isReplacementFor y.event then
    ({ r with
        scheduledEvents :=
          replaceFirst (fun y => x.event.isReplacementFor y.event)
            (fun y => { y with event := x.event.mergeInto y.event }) r.scheduledEvents }, none)
  else
    match r.monitorNode.createProperty (x.id ++ "/id") (setText x.id) with
    | (monitor, some failure) => ({ r with monitorNode := monitor }, some failure)
    | (monitor, none) =>
      match monitor.createProperty (x.id ++ "/name") (setText x.event.name) with
      | (monitor, some failure) => ({ r with monitorNode := monitor }, some failure)
      | (monitor, none) =>
        ({ r with monitorNode := monitor, scheduledEvents := r.scheduledEvents ++ [x] }, none)

def scheduledEvent (r : EventRunner S) (now : ℤ) (e : Event) (schedule : Schedule S) :
    ScheduledEvent S where
  id := scheduledEventID r.scheduledEventCounter now e.name
  event := e
  schedule := schedule

/-- `EventQueue::pushEvent` -/
def pushEvent (rt : ScheduleRuntime S) (r : EventRunner S) (now : ℤ) (e : Event) :
    EventRunner S × Option Failure :=
  match scheduleFromEvent rt now e with
  | some schedule =>
    { r with scheduledEventCounter := r.scheduledEventCounter + 1 }.addEvent
      (r.scheduledEvent now e schedule)
  | none => ({ r with eventQueue := enqueue r.eventQueue e }, none)

/-- `EventQueue::pushTimedEvent`, with the id it returns. -/
def pushTimedEvent (rt : ScheduleRuntime S) (r : EventRunner S) (now : ℤ) (e : Event) :
    EventRunner S × Except Failure String :=
  match scheduleFromEvent rt now e with
  | some schedule =>
    match { r with scheduledEventCounter := r.scheduledEventCounter + 1 }.addEvent
        (r.scheduledEvent now e schedule) with
    | (r', some failure) => (r', .error failure)
    | (r', none) => (r', .ok (r.scheduledEvent now e schedule).id)
  | none => (r, .ok "")

def removeEventInternal (r : EventRunner S) (id : String) : EventRunner S :=
  { r with scheduledEvents := r.scheduledEvents.eraseP fun x => x.id = id }

/-- `EventRunner::removeEvent`: the node that is found goes, if it is a child of the monitor
node, and the listener hears its name in any case. -/
def removeEvent (r : EventRunner S) (id : String) : EventRunner S :=
  match r.monitorNode.getProperty id with
  | some (place, node) =>
    { r with monitorNode := r.monitorNode.removeChild place }.removeEventInternal node.name
  | none => r.removeEventInternal id

def removeEventByName (r : EventRunner S) (name : String) : EventRunner S :=
  { r with scheduledEvents := r.scheduledEvents.filter fun x => x.event.name ≠ name }

def removeNodeAt (node : PropertyNode) : List ℕ → Option (String × PropertyNode)
  | [] => none
  | i :: place =>
    match node.children[i]? with
    | none => none
    | some child =>
      if place = [] then some (child.name, { node with children := node.children.eraseIdx i })
      else (removeNodeAt child place).map fun removed =>
        (removed.1, { node with children := node.children.set i removed.2 })

def removeNode (r : EventRunner S) (place : List ℕ) : EventRunner S :=
  match removeNodeAt r.monitorNode place with
  | some (name, monitor) => { r with monitorNode := monitor }.removeEventInternal name
  | none => r

/-- What the loop of `raisePendingEvents` has made so far. -/
structure Raised (S : Type) : Type where
  scheduledEvents : List (ScheduledEvent S) := []
  monitorNode : PropertyNode
  eventQueue : List Event
  removeIDs : List String := []
  failure : Option Failure := none

/-- The nodes `time`, if there is none, and `ticks` of an entry. -/
def showOccurence (rt : ScheduleRuntime S) (now nextOccurence : ℤ) (id : String)
    (monitor : PropertyNode) : PropertyNode × Option Failure :=
  let (monitor, failure) :=
    if (monitor.getProperty (id ++ "/time")).isNone then
      monitor.createProperty (id ++ "/time") (setText (rt.dateToString nextOccurence))
    else (monitor, none)
  match failure with
  | some failure => (monitor, some failure)
  | none =>
    monitor.createProperty (id ++ "/ticks") fun node =>
      { node with value := .integer (DateTime.difference nextOccurence now) }

/-- The loop of `EventRunner::raisePendingEvents`. -/
def raiseLoop (rt : ScheduleRuntime S) (now : ℤ) :
    List (ScheduledEvent S) → Raised S → Raised S
  | [], raised => raised
  | x :: xs, raised =>
    let (nextOccurence, schedule) := x.schedule.getNextOccurence rt now
    if nextOccurence = 0 then
      raiseLoop rt now xs { raised with
        scheduledEvents := raised.scheduledEvents ++ [{ x with schedule := schedule }]
        removeIDs := raised.removeIDs ++ [x.id] }
    else
      match showOccurence rt now nextOccurence x.id raised.monitorNode with
      | (monitor, some failure) =>
        { raised with
          monitorNode := monitor
          scheduledEvents :=
            raised.scheduledEvents ++ { x with schedule := schedule } :: xs
          failure := some failure }
      | (monitor, none) =>
        if DateTime.difference nextOccurence now ≤ 0 then
          let e := x.event.withoutSchedule
          let (last, schedule) :=
            if schedule.hasRecurrence then
              let (next, schedule) := schedule.getNextOccurence rt (now + 1)
              (decide (next = 0), schedule.leapAdjust rt (now + 1))
            else (true, schedule)
          raiseLoop rt now xs { raised with
            monitorNode := monitor
            scheduledEvents :=
              raised.scheduledEvents ++ [{ x with event := e, schedule := schedule }]
            eventQueue := enqueue raised.eventQueue e
            removeIDs := if last then raised.removeIDs ++ [x.id] else raised.removeIDs }
        else
          raiseLoop rt now xs { raised with
            monitorNode := monitor
            scheduledEvents := raised.scheduledEvents ++ [{ x with schedule := schedule }] }

def raisePendingEvents (rt : ScheduleRuntime S) (r : EventRunner S) (now : ℤ) :
    EventRunner S × Option Failure :=
  let raised := raiseLoop rt now r.scheduledEvents
    { monitorNode := r.monitorNode, eventQueue := r.eventQueue }
  let r := { r with
    scheduledEvents := raised.scheduledEvents
    monitorNode := raised.monitorNode
    eventQueue := raised.eventQueue }
  match raised.failure with
  | some failure => (r, some failure)
  | none => (raised.removeIDs.foldl removeEvent r, none)

/-! ## Calls -/

inductive Call : Type where
  | pushEvent (now : ℤ) (event : Event)
  | pushTimedEvent (now : ℤ) (event : Event)
  | removeEvent (id : String)
  | removeEventByName (name : String)
  | raisePendingEvents (now : ℤ)
  | removeNode (place : List ℕ)

/-- One call, without what it returns. -/
def step (rt : ScheduleRuntime S) (r : EventRunner S) : Call → EventRunner S
  | .pushEvent now e => (r.pushEvent rt now e).1
  | .pushTimedEvent now e => (r.pushTimedEvent rt now e).1
  | .removeEvent id => r.removeEvent id
  | .removeEventByName name => r.removeEventByName name
  | .raisePendingEvents now => (r.raisePendingEvents rt now).1
  | .removeNode place => r.removeNode place

end EventRunner

end Dss
