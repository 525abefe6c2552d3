import Mathlib.Data.String.Defs
import Dss.AbortingLoop
import Dss.Seconds
import Dss.SystemCondition

/-!
# Running the triggers

`SystemTrigger::run` with what it does for a trigger that fires: `rescheduleAction` moves an event
that is still pending, `damping` limits the rate, `relayTrigger` pushes the relayed event. The time
stamps and ids the three keep are nodes of the definition, which is read and written back. The
handlers for exceptions stand around the loop, not in it.
-/

namespace Dss

inductive Effect : Type where
  /-- `EventQueue::pushEvent` -/
  | pushEvent : Event → Effect
  /-- `EventQueue::pushTimedEvent` -/
  | pushTimedEvent : Event → Effect
  /-- `EventRunner::removeEvent`, by id -/
  | removeEvent : String → Effect

abbrev Definitions : Type := String → Option PropertyNode

/-- `DateTime::parseISO8601`, in seconds. -/
def parseISO8601 (rt : Runtime) (text : String) : Except Failure ℤ :=
  if text.length ∉ [25, 24, 23, 22, 20] then
    .error (.exception (.invalidArgument ("ISO8601: invalid length " ++ text)))
  else
    match rt.strptime text with
    | some time => .ok time
    | none => .error (.exception (.invalidArgument ("ISO8601: invalid format " ++ text)))

namespace SystemTrigger

variable (rt : Runtime) (t : SystemTrigger)

/-! ## Relaying -/

/-- `Event::applyProperties`. -/
def applyProperties (e : Event) (p : Properties) : Event :=
  p.entries.foldl (fun e entry => e.setProperty entry.1 entry.2) e

/-- The parameters added at the end of a relayed event: empty keys and values
are left out. -/
def applyParameters (e : Event) (parameters : List String) : Event :=
  parameters.foldl (fun e parameter =>
    let kv := splitIntoKeyValue parameter
    if kv.1 = "" || kv.2 = "" then e else e.setProperty kv.1 kv.2) e

/-- The event `relayTrigger` builds, for an entry of `/usr/triggers` that has a
path and an event name. -/
def relayedEvent (relay : PropertyNode) : Option Event :=
  let text := PropertyNode.getAsString rt.doubleToString
  match relay.getPropertyByName "triggerPath", relay.getPropertyByName "relayedEventName" with
  | some triggerPath, some relayedEventName =>
    let additionalParameter :=
      ((relay.getPropertyByName "additionalRelayingParameter").map text).getD ""
    let evt := applyProperties { name := text relayedEventName } t.properties
    some (applyParameters (evt.setProperty "path" (text triggerPath))
      (splitString additionalParameter ';'))
  | _, _ => none

/-- The note `relayTrigger` takes of an event it has scheduled. -/
def noteScheduled (id : String) (definition : PropertyNode) : PropertyNode :=
  definition.modifyByName "lag" fun lagNode =>
    (lagNode.createStringProperty "eventid" id).createStringProperty
      "last_event_scheduled_at" rt.nowISO8601

/-- `relayTrigger`: the calls it makes and the definition it leaves. When it
throws it has done neither. -/
def relayTrigger (relay definition : PropertyNode) : Except Failure (List Effect × PropertyNode) :=
  match t.relayedEvent rt relay with
  | none => .ok ([], definition)
  | some evt =>
    let push : Except Failure (List Effect × PropertyNode) :=
      match rt.pushEvent evt with
      | some e => .error (.exception e)
      | none => .ok ([.pushEvent evt], definition)
    match definition.getPropertyIn "lag" "delay" with
    | none => push
    | some node =>
      match node.getIntegerValue with
      | .error f => .error f
      | .ok delay =>
        if delay = 0 then push
        else if delay < 0 then .ok ([], definition)
        else
          let evt := evt.setProperty "time" ("+" ++ node.getAsString rt.doubleToString)
          let id := rt.pushTimedEvent evt
          if id = "" then .ok ([], definition)
          else .ok ([.pushTimedEvent evt], noteScheduled rt id definition)

/-! ## Damping and rescheduling -/

/-- `damping`: whether the event is damped, and the definition it leaves. When
it throws it has written nothing. -/
def damping (definition : PropertyNode) : Except Failure (Bool × PropertyNode) := do
  let some intervalNode := definition.getPropertyIn "damping" "interval"
    | return (false, definition)
  let some lastTsNode := definition.getPropertyIn "damping" "lastTrigger"
    | return (false, definition.modifyByName "damping"
        (·.createStringProperty "lastTrigger" rt.nowISO8601))
  let interval ← intervalNode.getIntegerValue
  if interval < 0 then return (false, definition)
  let lastTS ← parseISO8601 rt (lastTsNode.getAsString rt.doubleToString)
  let stamped := definition.modifyByName "damping"
    (·.modifyByName "lastTrigger" (·.setStringValue rt.nowISO8601))
  let rewind ← match definition.getPropertyIn "damping" "rewindTimer" with
    | none => .ok false
    | some rewindNode => rewindNode.getBoolValue
  if DateTime.difference rt.now lastTS < interval then
    return (true, if rewind then stamped else definition)
  return (false, stamped)

/-- The first half of `rescheduleAction`: the id of the event that is still
pending, if rescheduling is on and there is one. The node with the time it was
scheduled is not tested for null. -/
def pendingEvent (definition : PropertyNode) : Except Failure (Option String) := do
  let some rescheduleNode := definition.getPropertyIn "lag" "reschedule" | return none
  if !(← rescheduleNode.getBoolValue) then return none
  let some delayNode := definition.getPropertyIn "lag" "delay" | return none
  let some eventidNode := definition.getPropertyIn "lag" "eventid" | return none
  let delay ← delayNode.getIntegerValue
  let some lastTsNode := definition.getPropertyIn "lag" "last_event_scheduled_at"
    | throw .nullPointer
  let lastTS ← parseISO8601 rt (lastTsNode.getAsString rt.doubleToString)
  if DateTime.difference rt.now lastTS > delay then return none
  return some (← eventidNode.getStringValue)

/-- The stamp `rescheduleAction` sets before it relays again. -/
def stampScheduled (definition : PropertyNode) : PropertyNode :=
  definition.modifyByName "lag"
    (·.modifyByName "last_event_scheduled_at" (·.setStringValue rt.nowISO8601))

/-- What `run` reads to warn about a lag longer than the damping interval; the
name of the node under `lag` is `lag` again. -/
def checkIntervals (definition : PropertyNode) : Except Failure Unit :=
  match definition.getPropertyIn "lag" "lag", definition.getPropertyIn "damping" "interval" with
  | some lagNode, some intervalNode => do
    let _ ← intervalNode.getIntegerValue
    let _ ← lagNode.getIntegerValue
    return ()
  | _, _ => .ok ()

/-! ## The loop -/

def fires (path : String) (definition : PropertyNode) : Except Failure Bool := do
  if !(← t.checkTrigger rt definition) then return false
  checkSystemCondition rt path definition

def dampAndRelay (relay definition : PropertyNode) :
    AbortingLoop.Outcome PropertyNode Effect Failure :=
  match damping rt definition with
  | .error f => ⟨[], definition, some f⟩
  | .ok (true, definition) => ⟨[], definition, none⟩
  | .ok (false, definition) =>
    match t.relayTrigger rt relay definition with
    | .error f => ⟨[], definition, some f⟩
    | .ok (effects, definition) => ⟨effects, definition, none⟩

/-- The second half of `rescheduleAction`: the pending event goes and the
trigger is relayed again, with no damping. -/
def reschedule (id : String) (relay definition : PropertyNode) :
    AbortingLoop.Outcome PropertyNode Effect Failure :=
  match t.relayTrigger rt relay (stampScheduled rt definition) with
  | .error f => ⟨[.removeEvent id], stampScheduled rt definition, some f⟩
  | .ok (effects, definition) => ⟨.removeEvent id :: effects, definition, none⟩

def handle (path : String) (relay definition : PropertyNode) :
    AbortingLoop.Outcome PropertyNode Effect Failure :=
  match t.fires rt path definition with
  | .error f => ⟨[], definition, some f⟩
  | .ok false => ⟨[], definition, none⟩
  | .ok true =>
    match checkIntervals definition with
    | .error f => ⟨[], definition, some f⟩
    | .ok () =>
      match pendingEvent rt definition with
      | .error f => ⟨[], definition, some f⟩
      | .ok (some id) => t.reschedule rt id relay definition
      | .ok none => t.dampAndRelay rt relay definition

/-- The loop body of `run`, for one entry of `/usr/triggers`. -/
def step (definitions : Definitions) (relay : PropertyNode) :
    AbortingLoop.Outcome Definitions Effect Failure :=
  match relay.getPropertyByName "triggerPath" with
  | none => ⟨[], definitions, none⟩
  | some triggerPathNode =>
    match triggerPathNode.getStringValue with
    | .error f => ⟨[], definitions, some f⟩
    | .ok path =>
      match definitions path with
      | none => ⟨[], definitions, none⟩
      | some definition =>
        let o := t.handle rt path relay definition
        ⟨o.effects, Function.update definitions path (some o.state), o.failure⟩

/-- The loop of `run` over the entries of `/usr/triggers`. -/
def run (definitions : Definitions) (triggers : List PropertyNode) :
    AbortingLoop.Trace Definitions Effect Failure :=
  AbortingLoop.run (t.step rt) definitions triggers

end SystemTrigger

end Dss
