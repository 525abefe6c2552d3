import Dss.EventSubscription
import Dss.FreshName

/-!
# Subscriptions through the internal relay

A relay target subscribes in three steps: the constructor of the subscription looks for an id that
the interpreter does not have, the relay notes the target under this id, and the interpreter takes
the subscription. No lock is held from one step to the next, so the steps of different targets
interleave.
-/

namespace Dss

/-- `EventSubscription`, with what identifies it. -/
structure Subscription : Type where
  id : String
  eventName : String
  handlerName : String
  filter : EventSubscription := {}

/-! ## The interpreter's list -/

/-- `EventInterpreter::subscriptionByID` -/
def subscriptionByID (subscriptions : List Subscription) (id : String) : Option Subscription :=
  subscriptions.find? fun x => x.id = id

/-- `EventInterpreter::unsubscribe`, which erases the first subscription with the id. -/
def unsubscribe (subscriptions : List Subscription) (id : String) : List Subscription :=
  subscriptions.eraseP fun x => x.id = id

/-- `EventInterpreterInternalRelay::getPluginName` -/
def internalRelay : String := "internal_relay"

/-- The `k`-th id that `uniqueSubscriptionID` tries for a relay target. -/
def proposedID (eventName : String) (k : ℕ) : String :=
  FreshName.candidate (eventName ++ "_" ++ internalRelay) k

/-- The subscription that `EventCollector::subscribeTo` makes, once the id is found. -/
def relaySubscription (id eventName : String) : Subscription where
  id := id
  eventName := eventName
  handlerName := internalRelay

/-! ## Relay targets -/

/-- Where the thread of a relay target is. -/
inductive Phase : Type where
  /-- in no call -/
  | idle : Phase
  /-- in the constructor, before the test of the `k`-th id -/
  | choosing (eventName : String) (k : ℕ) : Phase
  | constructed (subscription : Subscription) : Phase
  /-- the relay knows the target, too -/
  | registered (subscription : Subscription) : Phase
  /-- past the assertion of `EventInterpreter::subscribe` -/
  | asserted (subscription : Subscription) : Phase
  /-- in `unsubscribeFrom`, past `removeSubscription` -/
  | removing (id : String) : Phase

/-- `EventRelayTarget` -/
structure RelayTarget : Type where
  subscriptions : List Subscription := []
  phase : Phase := .idle

structure RelayWorld : Type where
  /-- `m_Subscriptions` of the interpreter -/
  subscriptions : List Subscription
  /-- `m_IDTargetMap`; null pointers are as no entry -/
  idTargetMap : String → Option ℕ
  targets : ℕ → RelayTarget
  aborted : Bool := false

inductive RelayStep : Type where
  /-- `subscribeTo` is called -/
  | call (eventName : String)
  /-- `subscriptionByID` of the proposed id -/
  | test
  /-- `registerSubscription`, and the target's own list -/
  | register
  | assertion
  /-- the interpreter takes the subscription -/
  | insert
  /-- `unsubscribeFrom` one of its own, up to `removeSubscription` -/
  | remove (id : String)
  /-- the interpreter erases the subscription, and the target -/
  | erase
  deriving DecidableEq

namespace RelayWorld

def setPhase (w : RelayWorld) (t : ℕ) (phase : Phase) : RelayWorld :=
  { w with targets := Function.update w.targets t { w.targets t with phase := phase } }

def setOwn (w : RelayWorld) (t : ℕ) (subscriptions : List Subscription) : RelayWorld :=
  { w with
    targets := Function.update w.targets t { w.targets t with subscriptions := subscriptions } }

/-- `EventInterpreterInternalRelay::registerSubscription` -/
def registerSubscription (w : RelayWorld) (t : ℕ) (id : String) : RelayWorld :=
  { w with idTargetMap := Function.update w.idTargetMap id (some t) }

/-- `EventInterpreterInternalRelay::removeSubscription` -/
def removeSubscription (w : RelayWorld) (id : String) : RelayWorld :=
  { w with idTargetMap := Function.update w.idTargetMap id none }

/-- A step of target `t`, where its thread can take it. -/
def step (w : RelayWorld) (t : ℕ) (s : RelayStep) : Option RelayWorld :=
  if w.aborted then none
  else
    match s, (w.targets t).phase with
    | .call eventName, .idle => some (w.setPhase t (.choosing eventName 0))
    | .test, .choosing eventName k =>
      if (subscriptionByID w.subscriptions (proposedID eventName k)).isSome then
        some (w.setPhase t (.choosing eventName (k + 1)))
      else
        some (w.setPhase t (.constructed (relaySubscription (proposedID eventName k) eventName)))
    | .register, .constructed x =>
      some (((w.registerSubscription t x.id).setOwn t
        ((w.targets t).subscriptions ++ [x])).setPhase t (.registered x))
    | .assertion, .registered x =>
      if (subscriptionByID w.subscriptions x.id).isSome then some { w with aborted := true }
      else some (w.setPhase t (.asserted x))
    | .insert, .asserted x =>
      some ({ w with subscriptions := w.subscriptions ++ [x] }.setPhase t .idle)
    | .remove id, .idle =>
      if (w.targets t).subscriptions.any fun x => x.id = id then
        some ((w.removeSubscription id).setPhase t (.removing id))
      else none
    | .erase, .removing id =>
      some (({ w with subscriptions := unsubscribe w.subscriptions id }.setOwn t
        (unsubscribe (w.targets t).subscriptions id)).setPhase t .idle)
    | _, _ => none

/-! ## One call after the other -/

/-- The id that `uniqueSubscriptionID` ends with. -/
def uniqueSubscriptionID (w : RelayWorld) (eventName : String) : String :=
  FreshName.pick (proposedID eventName) (w.subscriptions.map Subscription.id)

/-- `EventCollector::subscribeTo` of target `t`, with nobody in between. -/
def subscribeTo (w : RelayWorld) (t : ℕ) (eventName : String) : RelayWorld :=
  let x := relaySubscription (w.uniqueSubscriptionID eventName) eventName
  { (w.registerSubscription t x.id).setOwn t ((w.targets t).subscriptions ++ [x]) with
    subscriptions := w.subscriptions ++ [x] }

/-- `EventRelayTarget::unsubscribeFrom` of target `t`, with nobody in between. -/
def unsubscribeFrom (w : RelayWorld) (t : ℕ) (id : String) : RelayWorld :=
  { (w.removeSubscription id).setOwn t (unsubscribe (w.targets t).subscriptions id) with
    subscriptions := unsubscribe w.subscriptions id }

/-- `~EventRelayTarget` -/
def destroy (w : RelayWorld) (t : ℕ) : RelayWorld :=
  ((w.targets t).subscriptions.map Subscription.id).foldl (fun w id => w.unsubscribeFrom t id) w

end RelayWorld

end Dss
