import Dss.Base
import Dss.EventRelay

/-!
# The isolation of event handlers

`executePendingEvent` hands an event to the handlers of all subscriptions that match it, and catches
what a handler throws if it is a `std::runtime_error`. Other exceptions, and those of the match
itself, leave the function and end the only thread of the interpreter. A handler is any function of
the event, the subscription and the state that is shared with it.
-/

namespace Dss

/-- What the interpreter shares with its handlers and with other threads; `rest` is what
is theirs alone. -/
structure EventSystem (σ : Type) : Type where
  queue : List Event
  subscriptions : List Subscription
  rest : σ

structure HandlerResult (σ : Type) : Type where
  system : EventSystem σ
  event : Event
  thrown : Option Exception := none

abbrev Handlers (σ : Type) : Type :=
  String → Event → Subscription → EventSystem σ → HandlerResult σ

structure EventInterpreter (σ : Type) : Type where
  system : EventSystem σ
  /-- the names in `m_Plugins` -/
  plugins : List String
  eventsProcessed : ℤ := 0

/-- An event handed to a handler, as it was then. -/
structure Delivery : Type where
  handlerName : String
  subscription : Subscription
  event : Event

structure LoopResult (σ : Type) : Type where
  deliveries : List Delivery
  system : EventSystem σ
  escaped : Option Exception

namespace EventInterpreter

variable {σ : Type}

/-- The loop of `executePendingEvent` over its copy of the subscriptions. A handler that
is not found is logged. -/
def deliverLoop (handlers : Handlers σ) (plugins : List String) :
    List Subscription → Event → EventSystem σ → LoopResult σ
  | [], _, system => ⟨[], system, none⟩
  | x :: xs, e, system =>
    if x.eventName = e.name then
      match x.filter.matches e with
      | .error ex => ⟨[], system, some ex⟩
      | .ok false => deliverLoop handlers plugins xs e system
      | .ok true =>
        if x.handlerName ∈ plugins then
          let result := handlers x.handlerName e x system
          let delivery : Delivery := ⟨x.handlerName, x, e⟩
          match result.thrown with
          | some ex =>
            if ex.isRuntimeError then
              let rest := deliverLoop handlers plugins xs result.event result.system
              { rest with deliveries := delivery :: rest.deliveries }
            else ⟨[delivery], result.system, some ex⟩
          | none =>
            let rest := deliverLoop handlers plugins xs result.event result.system
            { rest with deliveries := delivery :: rest.deliveries }
        else deliverLoop handlers plugins xs e system
    else deliverLoop handlers plugins xs e system

/-- `EventInterpreter::executePendingEvent`: the interpreter behind it, what it delivered,
and the exception that left it. -/
def executePendingEvent (handlers : Handlers σ) (i : EventInterpreter σ) :
    EventInterpreter σ × List Delivery × Option Exception :=
  match i.system.queue with
  | [] => (i, [], none)
  | toProcess :: queue =>
    let result := deliverLoop handlers i.plugins i.system.subscriptions toProcess
      { i.system with queue := queue }
    match result.escaped with
    | some ex => ({ i with system := result.system }, result.deliveries, some ex)
    | none =>
      ({ i with system := result.system, eventsProcessed := i.eventsProcessed + 1 },
        result.deliveries, none)

/-! ## The law -/

/-- What should be delivered: whatever a handler throws, the event goes on to the
subscriptions behind, with what their filters say by then. -/
def expected (handlers : Handlers σ) (plugins : List String) :
    List Subscription → Event → EventSystem σ → List Delivery
  | [], _, _ => []
  | x :: xs, e, system =>
    if x.eventName = e.name ∧ x.filter.matches e = .ok true ∧ x.handlerName ∈ plugins then
      let result := handlers x.handlerName e x system
      ⟨x.handlerName, x, e⟩ :: expected handlers plugins xs result.event result.system
    else expected handlers plugins xs e system

/-- The event at the head of the queue is delivered as it should be, the counter goes up
by one and the function returns. -/
def Isolates (handlers : Handlers σ) (i : EventInterpreter σ) : Prop :=
  ∀ toProcess queue, i.system.queue = toProcess :: queue →
    (i.executePendingEvent handlers).2.1 =
        expected handlers i.plugins i.system.subscriptions toProcess
          { i.system with queue := queue } ∧
      (i.executePendingEvent handlers).1.eventsProcessed = i.eventsProcessed + 1 ∧
      (i.executePendingEvent handlers).2.2 = none

/-- No filter of a subscription to the event throws, nor does a handler throw anything but a
`std::runtime_error`. -/
def Caught (handlers : Handlers σ) (plugins : List String) :
    List Subscription → Event → EventSystem σ → Prop
  | [], _, _ => True
  | x :: xs, e, system =>
    if x.eventName = e.name then
      match x.filter.matches e with
      | .error _ => False
      | .ok false => Caught handlers plugins xs e system
      | .ok true =>
        if x.handlerName ∈ plugins then
          let result := handlers x.handlerName e x system
          (∀ ex, result.thrown = some ex → ex.isRuntimeError = true) ∧
            Caught handlers plugins xs result.event result.system
        else Caught handlers plugins xs e system
    else Caught handlers plugins xs e system

/-- Whatever is thrown while the next event is handled is caught. -/
def Calm (handlers : Handlers σ) (i : EventInterpreter σ) : Prop :=
  ∀ toProcess queue, i.system.queue = toProcess :: queue →
    Caught handlers i.plugins i.system.subscriptions toProcess { i.system with queue := queue }

/-- The law for every round of the thread. Other threads may change what is shared before
each. -/
def IsolatesRun (handlers : Handlers σ) :
    EventInterpreter σ → List (EventSystem σ → EventSystem σ) → Prop
  | _, [] => True
  | i, others :: rounds =>
    let i := { i with system := others i.system }
    Isolates handlers i ∧ IsolatesRun handlers (i.executePendingEvent handlers).1 rounds

def CalmRun (handlers : Handlers σ) :
    EventInterpreter σ → List (EventSystem σ → EventSystem σ) → Prop
  | _, [] => True
  | i, others :: rounds =>
    let i := { i with system := others i.system }
    Calm handlers i ∧ CalmRun handlers (i.executePendingEvent handlers).1 rounds

/-! ## When the loop returns -/

variable {handlers : Handlers σ} {plugins : List String} {xs : List Subscription} {e : Event}
  {system : EventSystem σ} {i : EventInterpreter σ}

theorem escaped_eq_none_iff :
    (deliverLoop handlers plugins xs e system).escaped = none ↔
      Caught handlers plugins xs e system := by
  induction xs generalizing e system with
  | nil => exact ⟨fun _ => trivial, fun _ => rfl⟩
  | cons x xs ih =>
    rw [deliverLoop, Caught]
    by_cases hname : x.eventName = e.name
    swap
    · rw [if_neg hname, if_neg hname]
      exact ih
    rw [if_pos hname, if_pos hname]
    rcases hmatch : x.filter.matches e with ex | b
    · exact ⟨nofun, nofun⟩
    cases b with
    | false => exact ih
    | true =>
      by_cases hplugin : x.handlerName ∈ plugins
      swap
      · simp only [if_neg hplugin]
        exact ih
      simp only [if_pos hplugin]
      rcases hthrown : (handlers x.handlerName e x system).thrown with - | ex
      · simp only [ih, reduceCtorEq, false_implies, implies_true, true_and]
      · by_cases hruntime : ex.isRuntimeError
        · simp [hruntime, ih]
        · simp [hruntime]

theorem deliveries_eq_expected (h : Caught handlers plugins xs e system) :
    (deliverLoop handlers plugins xs e system).deliveries =
      expected handlers plugins xs e system := by
  induction xs generalizing e system with
  | nil => rfl
  | cons x xs ih =>
    rw [Caught] at h
    rw [deliverLoop, expected]
    by_cases hname : x.eventName = e.name
    swap
    · rw [if_neg hname] at h
      rw [if_neg hname, if_neg fun hx => hname hx.1]
      exact ih h
    rw [if_pos hname] at h
    rw [if_pos hname]
    rcases hmatch : x.filter.matches e with ex | b
    · rw [hmatch] at h
      exact h.elim
    rw [hmatch] at h
    cases b with
    | false =>
      have hnot : ¬ (x.eventName = e.name ∧ (Except.ok false : Except Exception Bool) = .ok true ∧
          x.handlerName ∈ plugins) := fun hx => nomatch hx.2.1
      rw [if_neg hnot]
      exact ih h
    | true =>
      by_cases hplugin : x.handlerName ∈ plugins
      swap
      · simp only [if_neg hplugin] at h ⊢
        rw [if_neg fun hx => hplugin hx.2.2]
        exact ih h
      simp only [if_pos hplugin] at h ⊢
      rw [if_pos ⟨hname, trivial, hplugin⟩, ← ih h.2]
      rcases hthrown : (handlers x.handlerName e x system).thrown with - | ex
      · rfl
      · simp only [if_pos (h.1 ex hthrown)]

theorem isolates_iff_calm : Isolates handlers i ↔ Calm handlers i := by
  refine forall_congr' fun toProcess => forall_congr' fun queue => forall_congr' fun hqueue => ?_
  rw [executePendingEvent, hqueue, ← escaped_eq_none_iff]
  simp only
  rcases hescaped : (deliverLoop handlers i.plugins i.system.subscriptions toProcess
    { i.system with queue := queue }).escaped with - | ex
  · have hcaught := escaped_eq_none_iff.1 hescaped
    simp [deliveries_eq_expected hcaught]
  · simp

/-- **The interpreter isolates its handlers exactly as long as** no filter throws and no
handler throws anything but a `std::runtime_error`. -/
theorem isolatesRun_iff_calmRun (handlers : Handlers σ) (i : EventInterpreter σ)
    (rounds : List (EventSystem σ → EventSystem σ)) :
    IsolatesRun handlers i rounds ↔ CalmRun handlers i rounds := by
  induction rounds generalizing i with
  | nil => exact Iff.rfl
  | cons others rounds ih =>
    exact and_congr isolates_iff_calm (ih _)

/-- A subscription to `alarm` that asks for one of its filters, which is that a property is
set. -/
def oneOfSubscription : Subscription where
  id := "alarm_raise_event"
  eventName := "alarm"
  handlerName := "raise_event"
  filter := { filters := [.exists "zone"], filterOption := .foMatchOne }

/-- An interpreter with this subscription and an event `alarm` of which the property is
set. -/
def oneOfInterpreter : EventInterpreter Unit where
  system :=
    { queue := [({ name := "alarm" } : Event).setProperty "zone" "1"]
      subscriptions := [oneOfSubscription]
      rest := () }
  plugins := ["raise_event"]

/-- The match throws, and the event is not even delivered. -/
theorem isolatesRun_fails :
    ¬ ∀ (handlers : Handlers Unit) (i : EventInterpreter Unit)
      (rounds : List (EventSystem Unit → EventSystem Unit)), IsolatesRun handlers i rounds := by
  intro h
  have hround := (h (fun _ e _ system => ⟨system, e, none⟩) oneOfInterpreter [id]).1
  have hreturns := (hround _ _ rfl).2.2
  cases hreturns

/-! ## Numbers in properties -/

/-- What is not read as a number throws `std::invalid_argument`. -/
def numberOr {α : Type} (function text : String) : Option α → Except Exception α
  | some value => .ok value
  | none => .error (.invalidArgument (function ++ ": Could not parse value: '" ++ text ++ "'"))

end EventInterpreter

end Dss
