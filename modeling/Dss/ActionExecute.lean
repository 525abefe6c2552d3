import Mathlib.Data.List.Sort
import Dss.EventRunnerEntries
import Dss.SystemTriggerRun

/-!
# Delayed actions

The actions under a path are executed by the event `action_execute`. If some of them have a delay,
an event is pushed for each delay, which comes back so much later with the delay as a property and
executes the actions that have just this delay. The delay 0 is always among them.

An action without a delay has the delay 0 at first; the events that come back need a number. The
pauses between the actions of a step are left out.
-/

namespace Dss

/-- What lies outside. -/
structure ActionRuntime (S : Type) : Type where
  runner : ScheduleRuntime S
  conditions : ℤ → Runtime
  definition : Definitions
  /-- what is thrown by the function for a type of actions, at a time -/
  perform : ℤ → String → PropertyNode → Option Failure

namespace ActionExecute

abbrev Action : Type := PropertyNode × ℕ

open SystemTrigger

variable {S : Type}

/-! ## One step -/

def durations : List (String × ℕ) :=
  [("zone-scene", 500), ("undo-zone-scene", 1000), ("device-scene", 1000), ("device-value", 1000),
    ("device-moc-value", 1000), ("device-blink", 1000), ("device-action", 1000),
    ("zone-blink", 500), ("custom-event", 100), ("url", 100), ("change-state", 100),
    ("change-addon-state", 100), ("heating-mode", 100)]

/-- `executeOne`: the pause after it. An action without a type, or with one that is not known, is
passed over. -/
def executeOne (rt : ActionRuntime S) (now : ℤ) (action : PropertyNode) : Except Failure ℕ :=
  match action.getPropertyByName "type" with
  | none => .ok 0
  | some typeNode => do
    let type ← typeNode.getStringValue
    match durations.lookup type with
    | none => .ok 0
    | some duration =>
      match rt.perform now type action with
      | some failure => .error failure
      | none => .ok duration

/-- `executeStep`: what is executed, when and at which position. An exception ends it. -/
def executeStep (rt : ActionRuntime S) (now : ℤ) :
    List Action → List (ℤ × ℕ) × Option Failure
  | [] => ([], none)
  | action :: actions =>
    match executeOne rt now action.1 with
    | .error failure => ([(now, action.2)], some failure)
    | .ok _ =>
      ((now, action.2) :: (executeStep rt now actions).1, (executeStep rt now actions).2)

/-! ## Fragments -/

def baseActionNode (rt : ActionRuntime S) (path : String) : Option PropertyNode :=
  if path.toList.getLast? = some '/' then none
  else (rt.definition path).bind (·.getPropertyByName "actions")

def actionsOf (base : PropertyNode) : List Action := base.children.zipIdx

def intDelay (action : PropertyNode) : Option ℤ :=
  match action.getPropertyByName "delay" with
  | none => none
  | some node =>
    match node.getIntegerValue with
    | .ok delay => some delay
    | .error _ => none

/-- `std::unique`: of equal neighbours, the first one stays. -/
def unique : List ℤ → List ℤ
  | [] => []
  | [a] => [a]
  | a :: b :: l => if a = b then unique (b :: l) else a :: unique (b :: l)

/-- `oDelay`: the delays, with 0, in order and each once. -/
def oDelay (actions : List Action) : List ℤ :=
  unique ((0 :: actions.filterMap fun action => intDelay action.1).insertionSort (· ≤ ·))

def fragment (properties : Properties) (path : String) (delay : ℤ) : Event :=
  (((applyProperties { name := "action_execute" } properties).setProperty "path" path).setProperty
    "delay" (toString delay)).setProperty "time" ("+" ++ toString delay)

def pushFragments (rt : ActionRuntime S) (now : ℤ) (properties : Properties) (path : String) :
    List ℤ → EventRunner S → EventRunner S × Option Failure
  | [], r => (r, none)
  | delay :: delays, r =>
    match r.pushEvent rt.runner now (fragment properties path delay) with
    | (r, some failure) => (r, some failure)
    | (r, none) => pushFragments rt now properties path delays r

def checkConditions (rt : ActionRuntime S) (now : ℤ) (properties : Properties) (path : String) :
    Except Failure Bool :=
  if properties.has "ignoreConditions" then .ok true
  else
    match rt.definition path with
    | none => .ok true
    | some definition => checkSystemCondition (rt.conditions now) path definition

/-! ## The event -/

structure Run (S : Type) : Type where
  eventRunner : EventRunner S
  executed : List (ℤ × ℕ) := []
  /-- the time that is written to `lastExecuted` -/
  lastExecuted : Option ℤ := none
  failure : Option Failure := none

def execute (rt : ActionRuntime S) (now : ℤ) (properties : Properties) (path : String)
    (r : EventRunner S) : Run S :=
  if path = "" then { eventRunner := r }
  else
    match baseActionNode rt path with
    | none => { eventRunner := r }
    | some base =>
      let actions := actionsOf base
      if actions.length = 0 then { eventRunner := r }
      else if 1 < (oDelay actions).length then
        let (r, failure) := pushFragments rt now properties path (oDelay actions) r
        { eventRunner := r, failure := failure }
      else
        match checkConditions rt now properties path with
        | .error failure => { eventRunner := r, failure := some failure }
        | .ok false => { eventRunner := r }
        | .ok true =>
          let (executed, failure) := executeStep rt now actions
          { eventRunner := r
            executed := executed
            lastExecuted := if failure.isSome then none else some now
            failure := failure }

def filterActionsWithDelay (actions : List Action) (delayValue : ℤ) : List Action :=
  actions.filter fun action => intDelay action.1 = some delayValue

def executeWithDelay (rt : ActionRuntime S) (now : ℤ) (properties : Properties)
    (path delay : String) (r : EventRunner S) : Run S :=
  match baseActionNode rt path with
  | none => { eventRunner := r }
  | some base =>
    let actions := actionsOf base
    if actions.length = 0 then { eventRunner := r }
    else
      match checkConditions rt now properties path with
      | .error failure => { eventRunner := r, failure := some failure }
      | .ok false => { eventRunner := r }
      | .ok true =>
        match strToInt delay with
        | .error failure => { eventRunner := r, failure := some failure }
        | .ok delayValue =>
          let (executed, failure) :=
            executeStep rt now (filterActionsWithDelay actions delayValue)
          { eventRunner := r, executed := executed, failure := failure }

/-- `SystemEventActionExecute::run`. Without a path the event is ignored. -/
def run (rt : ActionRuntime S) (now : ℤ) (e : Event) (r : EventRunner S) : Run S :=
  if e.hasPropertySet "path" then
    let path := e.getPropertyByName "path"
    let delay := if e.hasPropertySet "delay" then e.getPropertyByName "delay" else ""
    if delay ≠ "" then executeWithDelay rt now e.properties path delay r
    else execute rt now e.properties path r
  else { eventRunner := r }

/-! ## What comes back -/

/-- The events that a run has added to an event runner, with the times at which they are
delivered: what is queued at once, what is scheduled when it is due. -/
def deliveries (start : ℤ) (r r' : EventRunner S) : List (ℤ × Event) :=
  (r'.eventQueue.drop r.eventQueue.length).map (fun e => (start, e)) ++
    (r'.scheduledEvents.drop r.scheduledEvents.length).filterMap fun x =>
      match x.schedule with
      | .static due => some (due, x.event.withoutSchedule)
      | .iCal _ => none

def executions (rt : ActionRuntime S) (start : ℤ) (e : Event) (r : EventRunner S) :
    List (ℤ × ℕ) :=
  (run rt start e r).executed ++
    (deliveries start r (run rt start e r).eventRunner).flatMap fun delivery =>
      (run rt delivery.1 delivery.2 (run rt start e r).eventRunner).executed

/-! ## The law -/

def delayOf (action : Action) : ℤ := (intDelay action.1).getD 0

/-- At each time just the actions that are due are executed, in the order of the list: so each
action is executed once, at its time. -/
def Law (start : ℤ) (actions : List Action) (executed : List (ℤ × ℕ)) : Prop :=
  ∀ t, executed.filter (fun entry => entry.1 = t) =
    (actions.filter fun action => start + delayOf action = t).map fun action => (t, action.2)

def throws (rt : ActionRuntime S) (now : ℤ) (action : Action) : Bool :=
  match executeOne rt now action.1 with
  | .error _ => true
  | .ok _ => false

def Delayed (actions : List Action) : Prop :=
  ∃ action ∈ actions, delayOf action ≠ 0

/-- When the law holds: where there are delays, every action has one, and if the event is
unique, all but 0 are equal; and no action throws with another one of its delay behind it. -/
structure Fits (rt : ActionRuntime S) (start : ℤ) (properties : Properties)
    (actions : List Action) : Prop where
  isSome : Delayed actions → ∀ action ∈ actions, (intDelay action.1).isSome = true
  unique : properties.getD "unique" "" ≠ "" → ∀ action ∈ actions, ∀ other ∈ actions,
    delayOf action ≠ 0 → delayOf other ≠ 0 → delayOf action = delayOf other
  pairwise : actions.Pairwise fun action other =>
    delayOf action = delayOf other → throws rt (start + delayOf action) action = false

end ActionExecute

end Dss
