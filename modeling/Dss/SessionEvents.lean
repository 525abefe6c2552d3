import Dss.EventRelayRuns

/-!
# The events of a session

A session keeps an `EventSubscriptionSession` for each token, with a map from event names to
subscription ids and a collector behind it, which is a relay target. What is popped for a token
should be what was raised while its name was subscribed there. It fails where a name is
unsubscribed: the session then drops the token with all its other names and waiting events.
Where it does not know the token, it compares its subscriptions with a null pointer.
-/

namespace Dss

open Function

structure EventSubscriptionSession : Type where
  /-- `m_subscriptionMap`: the id for an event name -/
  subscriptionMap : String → Option String := fun _ => none
  /-- `m_pEventCollector`, by its address -/
  collector : ℕ

/-- A session with the relay its collectors belong to. The vector `m_subscriptions` has one
entry for a token: here are the tokens as they stand in it, and the entries by token. -/
structure SessionEvents : Type where
  relay : RelayWorld
  tokens : List String := []
  subscriptions : String → Option EventSubscriptionSession := fun _ => none
  /-- `m_PendingEvents` of each collector -/
  pending : ℕ → List Event := fun _ => []
  nextCollector : ℕ := 0

inductive EventCall : Type where
  /-- `subscribeEventSubscription` -/
  | subscribe (token name : String)
  /-- `unsubscribeEventSubscription` -/
  | unsubscribe (token name : String)
  | raise (event : Event)
  /-- `popEvent` of the subscription of a token, if there is one and it has an event -/
  | pop (token : String)

namespace SessionEvents

/-! ## Subscribing -/

/-- `Session::createEventSubscription`, with the collector that `subscribe` makes next. -/
def createEventSubscription (s : SessionEvents) (token : String) :
    EventSubscriptionSession × SessionEvents :=
  match s.subscriptions token with
  | some subscription => (subscription, s)
  | none =>
    ({ collector := s.nextCollector },
      { s with
        tokens := s.tokens ++ [token]
        subscriptions :=
          Function.update s.subscriptions token (some { collector := s.nextCollector })
        nextCollector := s.nextCollector + 1 })

/-- `EventSubscriptionSession::unsubscribe`, which throws where the name is not
subscribed. -/
def unsubscribeName (s : SessionEvents) (token : String) (subscription : EventSubscriptionSession)
    (name : String) : Except Exception (EventSubscriptionSession × SessionEvents) :=
  match subscription.subscriptionMap name with
  | none => .error (.runtimeError ("Event " ++ name ++ " is not subscribed in this session"))
  | some id =>
    let subscription' := { subscription with
      subscriptionMap := Function.update subscription.subscriptionMap name none }
    .ok (subscription', { s with
      relay := s.relay.unsubscribeFrom subscription.collector id
      subscriptions := Function.update s.subscriptions token (some subscription') })

/-- `EventSubscriptionSession::subscribe`: a name that is subscribed already is
unsubscribed first. -/
def subscribeName (s : SessionEvents) (token : String) (subscription : EventSubscriptionSession)
    (name : String) : SessionEvents :=
  let (subscription, s) :=
    match s.unsubscribeName token subscription name with
    | .ok r => r
    | .error _ => (subscription, s)
  { s with
    relay := s.relay.subscribeTo subscription.collector name
    subscriptions := Function.update s.subscriptions token (some { subscription with
      subscriptionMap := Function.update subscription.subscriptionMap name
        (some (s.relay.uniqueSubscriptionID name)) }) }

/-- `Session::subscribeEventSubscription` -/
def subscribeEventSubscription (s : SessionEvents) (token name : String) : SessionEvents :=
  let (subscription, s) := s.createEventSubscription token
  s.subscribeName token subscription name

/-- `Session::deleteEventSubscription`. Its `std::remove` compares what the pointers point to
(`operator==` of `EventSubscriptionSession_t`): a null pointer is dereferenced, `none`, as soon
as there is a subscription to compare it with. -/
def deleteEventSubscription (s : SessionEvents) (token : String) :
    Option EventSubscriptionSession → Option SessionEvents
  | none => if s.tokens = [] then some s else none
  | some subscription =>
    some { s with
      relay := s.relay.destroy subscription.collector
      tokens := s.tokens.filter (· ≠ token)
      subscriptions := Function.update s.subscriptions token none }

/-- `Session::unsubscribeEventSubscription`: whatever comes of the name, the subscription of
the token goes, and its collector with it. -/
def unsubscribeEventSubscription (s : SessionEvents) (token name : String) :
    Option SessionEvents :=
  match s.subscriptions token with
  | none => s.deleteEventSubscription token none
  | some subscription =>
    let s :=
      match s.unsubscribeName token subscription name with
      | .ok (_, s) => s
      | .error _ => s
    s.deleteEventSubscription token (some subscription)

/-! ## Delivery -/

/-- The loop of `executePendingEvent` as far as collectors see it: the relay hands the event
to the target of the subscription, and `EventCollector::handleEvent` appends it. A filter
that throws ends the loop. -/
def deliver (idTargetMap : String → Option ℕ) (e : Event) :
    List Subscription → (ℕ → List Event) → ℕ → List Event
  | [], pending => pending
  | x :: xs, pending =>
    if x.eventName = e.name then
      match x.filter.matches e with
      | .ok true =>
        if x.handlerName = internalRelay then
          match idTargetMap x.id with
          | some t => deliver idTargetMap e xs (Function.update pending t (pending t ++ [e]))
          | none => deliver idTargetMap e xs pending
        else deliver idTargetMap e xs pending
      | .ok false => deliver idTargetMap e xs pending
      | .error _ => pending
    else deliver idTargetMap e xs pending

def raiseEvent (s : SessionEvents) (e : Event) : SessionEvents :=
  { s with pending := deliver s.relay.idTargetMap e s.relay.subscriptions s.pending }

/-- `popEvent` behind `getEventSubscription` and `hasEvent`. -/
def popEvent (s : SessionEvents) (token : String) : Option Event × SessionEvents :=
  match s.subscriptions token with
  | none => (none, s)
  | some subscription =>
    match s.pending subscription.collector with
    | [] => (none, s)
    | e :: es =>
      (some e, { s with pending := Function.update s.pending subscription.collector es })

/-- What a call gives and leaves; `none` where it does not return. -/
def step (s : SessionEvents) : EventCall → Option (Option Event × SessionEvents)
  | .subscribe token name => some (none, s.subscribeEventSubscription token name)
  | .unsubscribe token name => (s.unsubscribeEventSubscription token name).map (none, ·)
  | .raise e => some (none, s.raiseEvent e)
  | .pop token => some (s.popEvent token)

end SessionEvents

/-! ## What the session is for -/

/-- What has been asked of a session so far, and what it has given. -/
structure EventHistory : Type where
  subscribed : String → String → Bool := fun _ _ => false
  raised : String → List Event := fun _ => []
  popped : String → List Event := fun _ => []

/-- What the history says behind a call. -/
def EventHistory.step (h : EventHistory) (result : Option Event) : EventCall → EventHistory
  | .subscribe token name =>
    { h with
      subscribed :=
        Function.update h.subscribed token (Function.update (h.subscribed token) name true) }
  | .unsubscribe token name =>
    { h with
      subscribed :=
        Function.update h.subscribed token (Function.update (h.subscribed token) name false) }
  | .raise e =>
    { h with raised := fun token =>
        if h.subscribed token e.name then h.raised token ++ [e] else h.raised token }
  | .pop token =>
    { h with popped := Function.update h.popped token (h.popped token ++ result.toList) }

namespace SessionEvents

def isSubscribed (s : SessionEvents) (token name : String) : Bool :=
  match s.subscriptions token with
  | none => false
  | some subscription => (subscription.subscriptionMap name).isSome

/-- The names under a token are those that were subscribed and not unsubscribed; what was
popped for it is the beginning of what was raised for it, and the next event that was raised
is the next one to be popped. -/
structure Law (s : SessionEvents) (h : EventHistory) : Prop where
  names : ∀ token name, s.isSubscribed token name = h.subscribed token name
  order : ∀ token, h.popped token <+: h.raised token
  next : ∀ token,
    (s.popEvent token).1 = ((h.raised token).drop (h.popped token).length).head?

/-- Every call of a run returns, and the law holds before and after it. -/
def Delivers (s : SessionEvents) (h : EventHistory) : List EventCall → Prop
  | [] => Law s h
  | c :: cs =>
    Law s h ∧ ∃ result s', s.step c = some (result, s') ∧ Delivers s' (h.step result c) cs

/-- A name is unsubscribed under a token only where the token has no other name and no
pending event, or where the session has no subscription at all. -/
def Harmless (s : SessionEvents) : EventCall → Prop
  | .unsubscribe token name =>
    match s.subscriptions token with
    | none => s.tokens = []
    | some subscription =>
      s.pending subscription.collector = [] ∧
        ∀ name', name' ≠ name → subscription.subscriptionMap name' = none
  | .subscribe _ _ | .raise _ | .pop _ => True

/-- Every unsubscription of the run is harmless when it comes. -/
def HarmlessRun (s : SessionEvents) : List EventCall → Prop
  | [] => True
  | c :: cs => Harmless s c ∧ ∀ result s', s.step c = some (result, s') → HarmlessRun s' cs

/-- A new session. The interpreter and the relay may have other subscriptions, of which no
filter throws. -/
structure Start (s : SessionEvents) : Prop where
  relay : s.relay.AtRest
  filters : ∀ x ∈ s.relay.subscriptions, ∀ e, ∃ b, x.filter.matches e = .ok b
  noToken : s.tokens = []
  noSubscription : ∀ token, s.subscriptions token = none
  newCollectors : ∀ t, s.nextCollector ≤ t → s.relay.own t = [] ∧ s.pending t = []

end SessionEvents

end Dss
