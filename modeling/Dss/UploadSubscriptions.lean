import Dss.EventRelay
import Dss.Transition

/-!
# The subscriptions of the uploaders

An uploader subscribes to its events when its webservice is enabled. When it is disabled it makes
new subscriptions that should have the ids of the old ones, to give these up. The id of a new
subscription is one that no other has, however, so nothing is found under it.
-/

namespace Dss

open List

namespace UploadSubscriptions

/-! ## The plugins -/

inductive Uploader : Type where
  /-- `SensorDataUploadMsHubPlugin` -/
  | msHub : Uploader
  /-- `SensorDataUploadDsHubPlugin` -/
  | dsHub : Uploader
  deriving DecidableEq

/-- `MsHub::uploadEvents` -/
def msHubUploadEvents : List String :=
  ["deviceSensorValue", "deviceStatusEvent", "deviceInvalidSensor", "zoneSensorValue",
    "zoneSensorError", "callScene", "undoScene", "stateChange", "addonStateChange",
    "HeatingEnabled", "HeatingSystemCapability", "HeatingControllerSetup",
    "HeatingControllerValue", "HeatingControllerState", "oldStateChange", "AddonToCloud"]

/-- `DsHub::uploadEvents` -/
def dsHubUploadEvents : List String :=
  ["deviceSensorValue", "deviceInvalidSensor", "zoneSensorValue", "zoneSensorError",
    "deviceBinaryInputEvent", "buttonClick", "deviceStatusEvent", "callScene", "undoScene",
    "blink", "highlevelevent", "deviceCustomActionChangedEvent", "deviceActionEvent",
    "deviceEventEvent", "deviceStateEvent", "stateChange", "AddonToCloud", "HeatingEnabled",
    "HeatingSystemCapability", "HeatingControllerSetup", "HeatingControllerValueDsHub",
    "HeatingControllerState", "executionDenied", "logFileData"]

namespace Uploader

/-- `getName` -/
def name : Uploader → String
  | msHub => "sensor_data_upload_ms_hub"
  | dsHub => "sensor_data_upload_ds_hub"

def getSubscriptionEvents : Uploader → List String
  | msHub => msHubUploadEvents ++ ["running", "upload_ms_hub_event_log"]
  | dsHub => dsHubUploadEvents ++ ["running", "upload_ds_hub_event_log"]

theorem nodup_getSubscriptionEvents (p : Uploader) : p.getSubscriptionEvents.Nodup := by
  cases p with
  | msHub => decide
  | dsHub => decide

theorem running_mem (p : Uploader) : "running" ∈ p.getSubscriptionEvents := by
  cases p with
  | msHub => decide
  | dsHub => decide

end Uploader

/-- `EventInterpreter::uniqueSubscriptionID` -/
def uniqueSubscriptionID (subscriptions : List Subscription) (proposal : String) : String :=
  FreshName.pick (FreshName.candidate proposal) (subscriptions.map Subscription.id)

/-- `EventSubscription::EventSubscription` -/
def eventSubscription (p : Uploader) (subscriptions : List Subscription) (eventName : String) :
    Subscription where
  id := uniqueSubscriptionID subscriptions (eventName ++ "_" ++ p.name)
  eventName := eventName
  handlerName := p.name

/-- `EventInterpreter::subscribe` -/
def subscribe (subscriptions : List Subscription) (x : Subscription) : List Subscription :=
  subscriptions ++ [x]

structure State : Type where
  subscriptions : List Subscription
  subscribed : Bool := false
  /-- the value of `m_websvcActive` -/
  enabled : Bool := false
  enablings : ℕ := 0

def doSubscribe (p : Uploader) (s : State) : State :=
  if s.subscribed then s
  else { s with
    subscribed := true
    subscriptions := p.getSubscriptionEvents.foldl
      (fun subscriptions event => subscribe subscriptions (eventSubscription p subscriptions event))
      s.subscriptions }

def doUnsubscribe (p : Uploader) (s : State) : State :=
  if !s.subscribed then s
  else { s with
    subscribed := false
    subscriptions := p.getSubscriptionEvents.foldl
      (fun subscriptions event =>
        unsubscribe subscriptions (eventSubscription p subscriptions event).id)
      s.subscriptions }

inductive Input : Type where
  /-- the webservice is enabled or disabled, or is set to what it is -/
  | toggle (active : Bool) : Input
  | subscribe (x : Subscription) : Input
  | unsubscribe (id : String) : Input

/-- `propertyChanged`, behind the change of the property. -/
def propertyChanged (p : Uploader) (active : Bool) (s : State) : State :=
  let s := { s with
    enabled := active
    enablings := if active && !s.enabled then s.enablings + 1 else s.enablings }
  if active then doSubscribe p s else doUnsubscribe p s

def isOf (p : Uploader) (x : Subscription) : Bool := x.handlerName = p.name

/-- The state after an input. Others neither make subscriptions of the plugin nor take them. -/
def step (p : Uploader) (s : State) : Input → State
  | .toggle active => propertyChanged p active s
  | .subscribe x =>
    if isOf p x then s else { s with subscriptions := subscribe s.subscriptions x }
  | .unsubscribe id =>
    if (subscriptionByID s.subscriptions id).any (isOf p) then s
    else { s with subscriptions := unsubscribe s.subscriptions id }

def held (p : Uploader) (subscriptions : List Subscription) (event : String) : ℕ :=
  subscriptions.countP fun x => x.eventName = event && isOf p x

/-- What should hold: one subscription to each event while the webservice is enabled, and none
otherwise. -/
def Symmetric (p : Uploader) (s : State) : Prop :=
  ∀ event ∈ p.getSubscriptionEvents, held p s.subscriptions event = if s.enabled then 1 else 0

def StaysEnabled (s : State) : Input → Prop
  | .toggle active => s.enabled = true → active = true
  | .subscribe _ | .unsubscribe _ => True

/-! ## What the plugins do -/

variable {p : Uploader} {subscriptions : List Subscription} {s : State}

theorem subscriptionByID_eventSubscription (event : String) :
    subscriptionByID subscriptions (eventSubscription p subscriptions event).id = none := by
  have hnew : (eventSubscription p subscriptions event).id ∉ subscriptions.map Subscription.id :=
    FreshName.pick_notMem (FreshName.candidate_injective _)
  rw [subscriptionByID, find?_eq_none]
  intro x hx hid
  apply hnew
  rw [← of_decide_eq_true hid]
  exact mem_map_of_mem hx

/-- **Nothing is unsubscribed.** Under the id of a new subscription there is none to erase. -/
theorem unsubscribe_eventSubscription (event : String) :
    unsubscribe subscriptions (eventSubscription p subscriptions event).id = subscriptions := by
  have hnone : subscriptionByID subscriptions (eventSubscription p subscriptions event).id =
      none := subscriptionByID_eventSubscription event
  rw [subscriptionByID, find?_eq_none] at hnone
  exact eraseP_of_forall_not hnone

theorem doUnsubscribe_eq : doUnsubscribe p s = { s with subscribed := false } := by
  have hloop (events : List String) : events.foldl (fun subscriptions event =>
      unsubscribe subscriptions (eventSubscription p subscriptions event).id) s.subscriptions =
        s.subscriptions := by
    induction events with
    | nil => rfl
    | cons event events ih => rw [foldl_cons, unsubscribe_eventSubscription, ih]
  rw [doUnsubscribe]
  split_ifs with hsubscribed
  · rw [Bool.not_eq_true'] at hsubscribed
    rw [← hsubscribed]
  · rw [hloop]

theorem held_subscribe (x : Subscription) (event : String) :
    held p (subscribe subscriptions x) event =
      held p subscriptions event + if x.eventName = event && isOf p x then 1 else 0 := by
  rw [held, subscribe, countP_append, countP_singleton, ← held]

theorem held_foldl_subscribe (events : List String) (event : String) :
    held p (events.foldl (fun subscriptions event =>
      subscribe subscriptions (eventSubscription p subscriptions event)) subscriptions) event =
        held p subscriptions event + events.count event := by
  induction events generalizing subscriptions with
  | nil => rfl
  | cons other events ih =>
    have hof : isOf p (eventSubscription p subscriptions other) = true := decide_eq_true rfl
    rw [foldl_cons, ih, held_subscribe, hof, Bool.and_true, count_cons, Nat.add_assoc,
      Nat.add_comm (events.count event)]
    rfl

/-- What others erase is not of the plugin. -/
theorem held_unsubscribe {id : String}
    (h : (subscriptionByID subscriptions id).any (isOf p) = false) (event : String) :
    held p (unsubscribe subscriptions id) event = held p subscriptions event := by
  induction subscriptions with
  | nil => rfl
  | cons x l ih =>
    by_cases hid : x.id = id
    · have hfind : subscriptionByID (x :: l) id = some x :=
        find?_cons_of_pos (decide_eq_true hid)
      have herase : unsubscribe (x :: l) id = l := eraseP_cons_of_pos (decide_eq_true hid)
      rw [hfind, Option.any_some] at h
      rw [herase, held, held, countP_cons, h, Bool.and_false]
      rfl
    · have hother : ¬ decide (x.id = id) = true := by rw [decide_eq_true_iff]; exact hid
      have hfind : subscriptionByID (x :: l) id = subscriptionByID l id :=
        find?_cons_of_neg hother
      have herase : unsubscribe (x :: l) id = x :: unsubscribe l id :=
        eraseP_cons_of_neg hother
      rw [hfind] at h
      have hrest := ih h
      rw [held, held] at hrest
      rw [herase, held, held, countP_cons, countP_cons, hrest]

/-! ## Runs -/

/-- The invariant: as often as the webservice has become enabled, each event has been subscribed
to. -/
structure Inv (p : Uploader) (s : State) : Prop where
  subscribed_eq : s.subscribed = s.enabled
  held_eq : ∀ event ∈ p.getSubscriptionEvents, held p s.subscriptions event = s.enablings

theorem Inv.toggle (h : Inv p s) (active : Bool) : Inv p (propertyChanged p active s) := by
  rw [propertyChanged]
  rcases active with - | -
  · rw [doUnsubscribe_eq]
    exact ⟨rfl, h.held_eq⟩
  · rw [if_pos rfl, doSubscribe]
    rw [h.subscribed_eq]
    rcases henabled : s.enabled with - | -
    · -- the webservice becomes enabled
      rw [if_neg Bool.false_ne_true]
      refine ⟨rfl, fun event hevent => ?_⟩
      rw [held_foldl_subscribe, h.held_eq event hevent,
        count_eq_one_of_mem p.nodup_getSubscriptionEvents hevent]
      rfl
    · exact ⟨rfl, h.held_eq⟩

theorem Inv.step (h : Inv p s) (input : Input) : Inv p (step p s input) := by
  cases input with
  | toggle active => exact h.toggle active
  | subscribe x =>
    rw [UploadSubscriptions.step]
    split_ifs with hof
    · exact h
    · refine ⟨h.subscribed_eq, fun event hevent => ?_⟩
      rw [held_subscribe, Bool.eq_false_iff.mpr hof, Bool.and_false]
      exact h.held_eq event hevent
  | unsubscribe id =>
    rw [UploadSubscriptions.step]
    split_ifs with hany
    · exact h
    · refine ⟨h.subscribed_eq, fun event hevent => ?_⟩
      rw [held_unsubscribe (Bool.eq_false_iff.mpr hany)]
      exact h.held_eq event hevent

theorem Inv.symmetric_iff (h : Inv p s) :
    Symmetric p s ↔ s.enablings = if s.enabled then 1 else 0 := by
  constructor
  · intro hlaw
    rw [← h.held_eq _ p.running_mem]
    exact hlaw _ p.running_mem
  · intro heq event hevent
    rw [h.held_eq event hevent, heq]

/-- The webservice has become enabled once, or not yet. -/
def Once (s : State) : Prop := s.enablings = if s.enabled then 1 else 0

theorem enabled_doSubscribe : (doSubscribe p s).enabled = s.enabled ∧
    (doSubscribe p s).enablings = s.enablings := by
  rw [doSubscribe]
  split
  · exact ⟨rfl, rfl⟩
  · exact ⟨rfl, rfl⟩

theorem enablings_toggle (active : Bool) : (propertyChanged p active s).enabled = active ∧
    (propertyChanged p active s).enablings =
      if active && !s.enabled then s.enablings + 1 else s.enablings := by
  rw [propertyChanged]
  rcases active with - | -
  · rw [doUnsubscribe_eq]
    exact ⟨rfl, rfl⟩
  · exact enabled_doSubscribe

theorem once_step_iff (h : Once s) (input : Input) :
    Once (step p s input) ↔ StaysEnabled s input := by
  cases input with
  | toggle active =>
    obtain ⟨henabled, henablings⟩ := enablings_toggle (p := p) (s := s) active
    rw [step, Once, henabled, henablings, h, StaysEnabled]
    rcases s.enabled with - | -
    · cases active with
      | false => decide
      | true => decide
    · cases active with
      | false => decide
      | true => decide
  | subscribe x =>
    rw [step]
    refine iff_of_true ?_ trivial
    split
    · exact h
    · exact h
  | unsubscribe id =>
    rw [step]
    refine iff_of_true ?_ trivial
    split
    · exact h
    · exact h

/-- An interpreter without subscriptions of the plugin, and a disabled webservice. -/
structure Start (p : Uploader) (s : State) : Prop where
  held_eq : ∀ event ∈ p.getSubscriptionEvents, held p s.subscriptions event = 0
  subscribed_eq : s.subscribed = false
  enabled_eq : s.enabled = false
  enablings_eq : s.enablings = 0

/-- **Subscribing and unsubscribing.** Each event has its one subscription exactly while the
webservice is enabled, in all states of a run, if and only if the webservice is never disabled
again. -/
theorem symmetric_iff_stays_enabled (p : Uploader) (s : State) (inputs : List Input)
    (h : Start p s) :
    Transition.Always (step p) (Symmetric p) s inputs ↔
      Transition.Meets (step p) StaysEnabled s inputs := by
  have hinv : Inv p s := by
    refine ⟨h.subscribed_eq.trans h.enabled_eq.symm, fun event hevent => ?_⟩
    rw [h.held_eq event hevent, h.enablings_eq]
  have honce : Once s := by
    rw [Once, h.enablings_eq, h.enabled_eq]
    rfl
  have hlaw (t : State) (ht : Inv p t ∧ Once t) : Symmetric p t := ht.1.symmetric_iff.mpr ht.2
  have hkeep (t : State) (input : Input) (ht : Inv p t ∧ Once t) (hstays : StaysEnabled t input) :
      Inv p (step p t input) ∧ Once (step p t input) :=
    ⟨ht.1.step input, (once_step_iff ht.2 input).mpr hstays⟩
  refine Transition.always_iff_meets hlaw hkeep (fun t input ht hnot hsymmetric => ?_)
    (And.intro hinv honce)
  exact hnot ((once_step_iff ht.2 input).mp ((ht.1.step input).symmetric_iff.mp hsymmetric))

def fresh : State where
  subscriptions := [{ id := "callScene_javascript", eventName := "callScene",
                      handlerName := "javascript" }]

theorem symmetric_iff_stays_enabled_fresh :
    Transition.Always (step .msHub) (Symmetric .msHub) fresh [.toggle false, .toggle true] :=
  (symmetric_iff_stays_enabled .msHub fresh _ ⟨by decide, rfl, rfl, rfl⟩).mpr
    ⟨(fun h => nomatch h), (fun _ => rfl), trivial⟩

/-- The webservice is enabled, disabled and enabled again: then every event is handled twice. -/
theorem symmetric_fails : ¬ ∀ inputs : List Input,
    Transition.Always (step .msHub) (Symmetric .msHub) fresh inputs := by
  intro h
  have hlaw := (h [.toggle true, .toggle false, .toggle true]).2.2.2 "running"
    (Uploader.running_mem .msHub)
  have htwo : held .msHub ([.toggle true, .toggle false, .toggle true].foldl (step .msHub)
      fresh).subscriptions "running" = 2 := by
    decide +kernel
  exact absurd (htwo.symm.trans hlaw) (by decide)

end UploadSubscriptions

end Dss
