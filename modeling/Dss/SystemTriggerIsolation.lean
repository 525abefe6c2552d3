import Dss.SystemTriggerRun

/-!
# Trigger isolation

When an entry of `/usr/triggers` stops the loop of `SystemTrigger::run`, and when it makes a call on
the event queue: both in terms of the nodes of its definition. From these, when the entries of a
list do not depend on each other. Entries may name one definition, which keeps the time stamps and
the id that an entry before has left there.
-/

namespace Dss

namespace SystemTrigger

open PropertyNode

variable (rt : Runtime) (t : SystemTrigger)

/-! ## The ways a trigger that fires can fail -/

inductive IntervalsFail (d : PropertyNode) : Failure → Prop where
  /-- `damping/interval` is no integer -/
  | interval {lag interval : PropertyNode} {f : Failure}
      (hlag : d.getPropertyIn "lag" "lag" = some lag)
      (hinterval : d.getPropertyIn "damping" "interval" = some interval)
      (hf : interval.getIntegerValue = .error f) : IntervalsFail d f
  /-- `lag/lag` is no integer -/
  | lag {lag interval : PropertyNode} {i : ℤ} {f : Failure}
      (hlag : d.getPropertyIn "lag" "lag" = some lag)
      (hinterval : d.getPropertyIn "damping" "interval" = some interval)
      (hi : interval.getIntegerValue = .ok i)
      (hf : lag.getIntegerValue = .error f) : IntervalsFail d f

structure RescheduleOn (d delay eventid : PropertyNode) : Prop where
  /-- `lag/reschedule` is true -/
  reschedule : ∃ node, d.getPropertyIn "lag" "reschedule" = some node ∧
    node.getBoolValue = .ok true
  /-- `lag/delay` -/
  delay : d.getPropertyIn "lag" "delay" = some delay
  /-- `lag/eventid` -/
  eventid : d.getPropertyIn "lag" "eventid" = some eventid

/-- The last event was scheduled no longer ago than the delay. -/
def Recent (d eventid : PropertyNode) : Prop :=
  ∃ delay n ts lastTS, RescheduleOn d delay eventid ∧ delay.getIntegerValue = .ok n ∧
    d.getPropertyIn "lag" "last_event_scheduled_at" = some ts ∧
    parseISO8601 rt (ts.getAsString rt.doubleToString) = .ok lastTS ∧
    DateTime.difference rt.now lastTS ≤ n

/-- An event is pending, and can be taken back by its id. -/
def Pending (d : PropertyNode) (id : String) : Prop :=
  ∃ eventid, Recent rt d eventid ∧ eventid.getStringValue = .ok id

/-- What `rescheduleAction` can trip over before it takes the event back. -/
inductive PendingFails (d : PropertyNode) : Failure → Prop where
  /-- `lag/reschedule` is no boolean -/
  | reschedule {node : PropertyNode} {f : Failure}
      (hnode : d.getPropertyIn "lag" "reschedule" = some node)
      (hf : node.getBoolValue = .error f) : PendingFails d f
  /-- `lag/delay` is no integer -/
  | delay {delay eventid : PropertyNode} {f : Failure}
      (hon : RescheduleOn d delay eventid)
      (hf : delay.getIntegerValue = .error f) : PendingFails d f
  | unscheduled {delay eventid : PropertyNode} {n : ℤ}
      (hon : RescheduleOn d delay eventid) (hn : delay.getIntegerValue = .ok n)
      (hts : d.getPropertyIn "lag" "last_event_scheduled_at" = none) :
      PendingFails d .nullPointer
  | date {delay eventid ts : PropertyNode} {n : ℤ} {f : Failure}
      (hon : RescheduleOn d delay eventid) (hn : delay.getIntegerValue = .ok n)
      (hts : d.getPropertyIn "lag" "last_event_scheduled_at" = some ts)
      (hf : parseISO8601 rt (ts.getAsString rt.doubleToString) = .error f) : PendingFails d f
  /-- `lag/eventid` is no string -/
  | eventid {eventid : PropertyNode} {f : Failure}
      (hrecent : Recent rt d eventid) (hf : eventid.getStringValue = .error f) :
      PendingFails d f

/-- What `damping` can trip over: only when there is an interval and a last
time. -/
inductive DampingFails (d : PropertyNode) : Failure → Prop where
  /-- `damping/interval` is no integer -/
  | interval {interval last : PropertyNode} {f : Failure}
      (hinterval : d.getPropertyIn "damping" "interval" = some interval)
      (hlast : d.getPropertyIn "damping" "lastTrigger" = some last)
      (hf : interval.getIntegerValue = .error f) : DampingFails d f
  /-- `damping/lastTrigger` is no date -/
  | date {interval last : PropertyNode} {n : ℤ} {f : Failure}
      (hinterval : d.getPropertyIn "damping" "interval" = some interval)
      (hlast : d.getPropertyIn "damping" "lastTrigger" = some last)
      (hn : interval.getIntegerValue = .ok n) (h0 : 0 ≤ n)
      (hf : parseISO8601 rt (last.getAsString rt.doubleToString) = .error f) : DampingFails d f
  /-- `damping/rewindTimer` is no boolean -/
  | rewind {interval last rewind : PropertyNode} {n lastTS : ℤ} {f : Failure}
      (hinterval : d.getPropertyIn "damping" "interval" = some interval)
      (hlast : d.getPropertyIn "damping" "lastTrigger" = some last)
      (hn : interval.getIntegerValue = .ok n) (h0 : 0 ≤ n)
      (hts : parseISO8601 rt (last.getAsString rt.doubleToString) = .ok lastTS)
      (hrewind : d.getPropertyIn "damping" "rewindTimer" = some rewind)
      (hf : rewind.getBoolValue = .error f) : DampingFails d f

/-- The last time is less than the interval ago. -/
def Damped (d : PropertyNode) : Prop :=
  ∃ interval last n lastTS, d.getPropertyIn "damping" "interval" = some interval ∧
    d.getPropertyIn "damping" "lastTrigger" = some last ∧ interval.getIntegerValue = .ok n ∧
    0 ≤ n ∧ parseISO8601 rt (last.getAsString rt.doubleToString) = .ok lastTS ∧
    DateTime.difference rt.now lastTS < n

/-- With this delay a relayed event goes out at once. -/
def Immediate (delay : Option PropertyNode) : Prop :=
  ∀ node, delay = some node → node.getIntegerValue = .ok 0

/-- What `relayTrigger` can trip over, with a given node for the delay. -/
inductive RelayFails (relay : PropertyNode) (delay : Option PropertyNode) : Failure → Prop where
  /-- `lag/delay` is no integer -/
  | delay {evt : Event} {node : PropertyNode} {f : Failure}
      (hevt : t.relayedEvent rt relay = some evt) (hdelay : delay = some node)
      (hf : node.getIntegerValue = .error f) : RelayFails relay delay f
  /-- the queue throws -/
  | push {evt : Event} {e : Exception}
      (hevt : t.relayedEvent rt relay = some evt) (himm : Immediate delay)
      (he : rt.pushEvent evt = some e) : RelayFails relay delay (.exception e)

/-- `relayTrigger` gets an event into the queue. -/
inductive Relays (relay : PropertyNode) (delay : Option PropertyNode) : Prop where
  /-- at once -/
  | push {evt : Event} (hevt : t.relayedEvent rt relay = some evt) (himm : Immediate delay)
      (he : rt.pushEvent evt = none) : Relays relay delay
  /-- after a delay -/
  | timed {evt : Event} {node : PropertyNode} {n : ℤ}
      (hevt : t.relayedEvent rt relay = some evt) (hdelay : delay = some node)
      (hn : node.getIntegerValue = .ok n) (h0 : 0 < n)
      (hid : rt.pushTimedEvent (evt.setProperty "time"
        ("+" ++ node.getAsString rt.doubleToString)) ≠ "") : Relays relay delay

/-! ## Entries -/

/-- The trigger fires: one of its nodes fits the event, and its conditions
hold. -/
def Fires (path : String) (d : PropertyNode) : Prop :=
  t.checkTrigger rt d = .ok true ∧ checkSystemCondition rt path d = .ok true

/-- Nothing is wrong with the intervals, and no event is pending. -/
def Settled (d : PropertyNode) : Prop :=
  (∀ f, ¬ IntervalsFail d f) ∧ (∀ f, ¬ PendingFails rt d f) ∧ ∀ id, ¬ Pending rt d id

inductive Stops (path : String) (relay d : PropertyNode) : Failure → Prop where
  | check {f : Failure} (hf : t.checkTrigger rt d = .error f) : Stops path relay d f
  | condition {f : Failure} (h : t.checkTrigger rt d = .ok true)
      (hf : checkSystemCondition rt path d = .error f) : Stops path relay d f
  | intervals {f : Failure} (h : Fires rt t path d) (hf : IntervalsFail d f) :
      Stops path relay d f
  | pending {f : Failure} (h : Fires rt t path d) (hi : ∀ f, ¬ IntervalsFail d f)
      (hf : PendingFails rt d f) : Stops path relay d f
  /-- an event is pending and cannot be relayed again -/
  | reschedule {id : String} {f : Failure} (h : Fires rt t path d)
      (hi : ∀ f, ¬ IntervalsFail d f) (hid : Pending rt d id)
      (hf : RelayFails rt t relay (d.getPropertyIn "lag" "delay") f) : Stops path relay d f
  | damping {f : Failure} (h : Fires rt t path d) (hs : Settled rt d)
      (hf : DampingFails rt d f) : Stops path relay d f
  | relay {f : Failure} (h : Fires rt t path d) (hs : Settled rt d)
      (hd : ∀ f, ¬ DampingFails rt d f) (hnd : ¬ Damped rt d)
      (hf : RelayFails rt t relay (d.getPropertyIn "lag" "delay") f) : Stops path relay d f

/-- The ways a definition makes a call on the queue. -/
inductive Acts (path : String) (relay d : PropertyNode) : Prop where
  /-- a pending event is taken back -/
  | reschedule {id : String} (h : Fires rt t path d) (hi : ∀ f, ¬ IntervalsFail d f)
      (hid : Pending rt d id) : Acts path relay d
  | relay (h : Fires rt t path d) (hs : Settled rt d) (hd : ∀ f, ¬ DampingFails rt d f)
      (hnd : ¬ Damped rt d) (hr : Relays rt t relay (d.getPropertyIn "lag" "delay")) :
      Acts path relay d

/-- The definition an entry of `/usr/triggers` names. -/
def Names (definitions : Definitions) (entry : PropertyNode) (path : String) (d : PropertyNode) :
    Prop :=
  ∃ node, entry.getPropertyByName "triggerPath" = some node ∧ node.getStringValue = .ok path ∧
    definitions path = some d

inductive EntryStops (definitions : Definitions) (entry : PropertyNode) : Failure → Prop where
  | triggerPath {node : PropertyNode} {f : Failure}
      (hnode : entry.getPropertyByName "triggerPath" = some node)
      (hf : node.getStringValue = .error f) : EntryStops definitions entry f
  | definition {path : String} {d : PropertyNode} {f : Failure}
      (hd : Names definitions entry path d) (hf : Stops rt t path entry d f) :
      EntryStops definitions entry f

def EntryActs (definitions : Definitions) (entry : PropertyNode) : Prop :=
  ∃ path d, Names definitions entry path d ∧ Acts rt t path entry d

/-- An entry takes the pending event with this id back. -/
def EntryReschedules (definitions : Definitions) (entry : PropertyNode) (id : String) : Prop :=
  ∃ path d, Names definitions entry path d ∧ Fires rt t path d ∧ (∀ f, ¬ IntervalsFail d f) ∧
    Pending rt d id

/-- An entry makes the calls with the definitions that are left, that it makes with those at the
start: it takes the same event back, or none, and relays or does not. -/
structure SameCalls (definitions left : Definitions) (entry : PropertyNode) : Prop where
  reschedules : ∀ id, EntryReschedules rt t left entry id ↔
    EntryReschedules rt t definitions entry id
  acts : EntryActs rt t left entry ↔ EntryActs rt t definitions entry

/-- **The condition.** Each entry makes the calls that it makes with the definitions at the start.
One that stops the loop does so with a `std::runtime_error`, and no entry behind it would make a
call. -/
def Fits (definitions : Definitions) : Definitions → List PropertyNode → Prop
  | _, [] => True
  | left, entry :: entries =>
    SameCalls rt t definitions left entry ∧
      (∀ f, EntryStops rt t left entry f →
        f.isCaught = true ∧ ∀ b ∈ entries, ¬ EntryActs rt t definitions b) ∧
      ((∀ f, ¬ EntryStops rt t left entry f) →
        Fits definitions (t.step rt left entry).state entries)

variable {rt t} {d relay : PropertyNode} {f : Failure}

theorem Pending.eq_some {id : String} (h : Pending rt d id) :
    pendingEvent rt d = .ok (some id) := by
  obtain ⟨eventid, hrecent, hid⟩ := h
  obtain ⟨delay, n, ts, lastTS, ⟨⟨node, hr, hb⟩, hd, he⟩, hn, hts, hp, hlate⟩ := hrecent
  simp [pendingEvent, hr, hb, hd, he, hn, hts, hp, hid, bind, Except.bind, pure, Except.pure,
    Int.not_lt.mpr hlate]

/-- What a result of `damping` says about the nodes. -/
def DampingMeans (rt : Runtime) (d : PropertyNode) : Except Failure (Bool × PropertyNode) → Prop
  | .error f => DampingFails rt d f
  | .ok (true, d') => Damped rt d ∧ d'.getPropertyIn "lag" "delay" = d.getPropertyIn "lag" "delay"
  | .ok (false, d') =>
    ¬ Damped rt d ∧ d'.getPropertyIn "lag" "delay" = d.getPropertyIn "lag" "delay"

theorem damping_means (rt : Runtime) (d : PropertyNode) :
    DampingMeans rt d (damping rt d) := by
  unfold damping
  split
  swap
  · refine ⟨?_, rfl⟩
    rename_i hi
    rintro ⟨interval, -, -, -, h, -⟩
    exact hi _ h
  rename_i interval hi
  split
  swap
  · rename_i hl
    refine ⟨?_, getPropertyIn_modifyByName_of_ne keepsName_createStringProperty (by decide)⟩
    rintro ⟨-, last, -, -, -, h, -⟩
    exact hl _ h
  rename_i last hl
  cases hn : interval.getIntegerValue with
  | error f => exact DampingFails.interval hi hl hn
  | ok n =>
  -- what the nodes hold decides: a second reading finds the same
  have hdamped : ∀ lastTS, parseISO8601 rt (last.getAsString rt.doubleToString) = .ok lastTS →
      (Damped rt d ↔ 0 ≤ n ∧ DateTime.difference rt.now lastTS < n) := by
    intro lastTS hp
    refine ⟨?_, fun ⟨h0, hlt⟩ => ⟨interval, last, n, lastTS, hi, hl, hn, h0, hp, hlt⟩⟩
    rintro ⟨interval', last', n', lastTS', hi', hl', hn', h0, hp', hlt⟩
    rw [hi] at hi'
    cases hi'
    rw [hl] at hl'
    cases hl'
    rw [hn] at hn'
    cases hn'
    rw [hp] at hp'
    cases hp'
    exact ⟨h0, hlt⟩
  dsimp only [bind, Except.bind]
  split
  · rename_i hneg
    refine ⟨?_, rfl⟩
    rintro ⟨interval', -, n', -, hi', -, hn', h0, -⟩
    rw [hi] at hi'
    cases hi'
    rw [hn] at hn'
    cases hn'
    exact absurd hneg (Int.not_lt.mpr h0)
  rename_i h0
  cases hp : parseISO8601 rt (last.getAsString rt.doubleToString) with
  | error f => exact DampingFails.date hi hl hn (Int.not_lt.mp h0) hp
  | ok lastTS =>
  have hend : ∀ b : Bool, DampingMeans rt d
      (if DateTime.difference rt.now lastTS < n then
        pure (true, if b then d.modifyByName "damping"
          (·.modifyByName "lastTrigger" (·.setStringValue rt.nowISO8601)) else d)
      else pure (false, d.modifyByName "damping"
          (·.modifyByName "lastTrigger" (·.setStringValue rt.nowISO8601)))) := by
    intro b
    have hstamped : (d.modifyByName "damping" (·.modifyByName "lastTrigger"
        (·.setStringValue rt.nowISO8601))).getPropertyIn "lag" "delay" =
          d.getPropertyIn "lag" "delay" :=
      getPropertyIn_modifyByName_of_ne keepsName_modifyByName (by decide)
    split
    · next hlt =>
      refine ⟨(hdamped lastTS hp).mpr ⟨Int.not_lt.mp h0, hlt⟩, ?_⟩
      cases b with
      | false => rfl
      | true => exact hstamped
    · next hlt => exact ⟨fun h => hlt ((hdamped lastTS hp).mp h).2, hstamped⟩
  cases hr : d.getPropertyIn "damping" "rewindTimer" with
  | none => exact hend false
  | some rewind =>
  cases hb : rewind.getBoolValue with
  | error f =>
    dsimp only
    rw [hb]
    exact DampingFails.rewind hi hl hn (Int.not_lt.mp h0) hp hr hb
  | ok b =>
    dsimp only
    rw [hb]
    exact hend b

theorem stampScheduled_delay (rt : Runtime) (d : PropertyNode) :
    (stampScheduled rt d).getPropertyIn "lag" "delay" = d.getPropertyIn "lag" "delay" :=
  getPropertyIn_modifyByName_modifyByName keepsName_setStringValue (by decide)

variable {definitions : Definitions}

theorem Names.unique {entry : PropertyNode} {path path' : String} {d d' : PropertyNode}
    (h : Names definitions entry path d) (h' : Names definitions entry path' d') :
    path = path' ∧ d = d' := by
  obtain ⟨node, hnode, hpath, hd⟩ := h
  obtain ⟨node', hnode', hpath', hd'⟩ := h'
  rw [hnode] at hnode'
  cases hnode'
  rw [hpath] at hpath'
  cases hpath'
  rw [hd] at hd'
  cases hd'
  exact ⟨rfl, rfl⟩

theorem step_of_not_names (rt : Runtime) (t : SystemTrigger) (f : Failure)
    {entry : PropertyNode} (h : ∀ path d, ¬ Names definitions entry path d) :
    (t.step rt definitions entry).effects = [] ∧
      (t.step rt definitions entry).state = definitions ∧
      ((t.step rt definitions entry).failure = some f ↔ EntryStops rt t definitions entry f) := by
  have hstops : EntryStops rt t definitions entry f →
      ∃ node, entry.getPropertyByName "triggerPath" = some node ∧
        node.getStringValue = .error f := by
    rintro (⟨hnode, hf⟩ | ⟨hd, -⟩)
    · exact ⟨_, hnode, hf⟩
    · exact absurd hd (h _ _)
  unfold step
  cases hnode : entry.getPropertyByName "triggerPath" with
  | none =>
    refine ⟨rfl, rfl, ⟨fun hf => absurd hf (by simp), fun hf => ?_⟩⟩
    obtain ⟨node, hnode', -⟩ := hstops hf
    rw [hnode] at hnode'
    cases hnode'
  | some node =>
    cases hpath : node.getStringValue with
    | error g =>
      simp only [hpath, Option.some.injEq, true_and]
      refine ⟨fun hf => .triggerPath hnode (hpath.trans (by rw [hf])), fun hf => ?_⟩
      obtain ⟨node', hnode', hf'⟩ := hstops hf
      rw [hnode] at hnode'
      cases hnode'
      rw [hpath] at hf'
      cases hf'
      rfl
    | ok path =>
      have hnone : definitions path = none := by
        refine Option.eq_none_iff_forall_ne_some.mpr fun d hd => ?_
        exact h path d ⟨node, hnode, hpath, hd⟩
      simp only [hpath, hnone, true_and]
      refine ⟨fun hf => absurd hf (by simp), fun hf => ?_⟩
      obtain ⟨node', hnode', hf'⟩ := hstops hf
      rw [hnode] at hnode'
      cases hnode'
      rw [hpath] at hf'
      cases hf'

theorem step_of_names {entry : PropertyNode} {path : String}
    (h : Names definitions entry path d) :
    t.step rt definitions entry = ⟨(t.handle rt path entry d).effects,
      Function.update definitions path (some (t.handle rt path entry d).state),
      (t.handle rt path entry d).failure⟩ := by
  obtain ⟨node, hnode, hpath, hd⟩ := h
  simp only [step, hnode, hpath, hd]

/-- The calls in a result of `relayTrigger`. -/
def calls : Except Failure (List Effect × PropertyNode) → List Effect
  | .ok (effects, _) => effects
  | .error _ => []

theorem delay_noteScheduled (id : String) :
    (noteScheduled rt id d).getPropertyIn "lag" "delay" = d.getPropertyIn "lag" "delay" := by
  have hkeeps : KeepsName fun node => (node.createStringProperty "eventid" id).createStringProperty
      "last_event_scheduled_at" rt.nowISO8601 := fun node =>
    ⟨(keepsName_createStringProperty _).1.trans (keepsName_createStringProperty node).1,
      (keepsName_createStringProperty _).2.trans (keepsName_createStringProperty node).2⟩
  rw [noteScheduled, getPropertyIn, getPropertyIn, getPropertyByName_modifyByName_self hkeeps]
  cases d.getPropertyByName "lag" with
  | none => rfl
  | some lag =>
    exact (getPropertyByName_createStringProperty_of_ne (by decide)).trans
      (getPropertyByName_createStringProperty_of_ne (by decide))

theorem delay_relayTrigger {effects : List Effect} {d' : PropertyNode}
    (h : t.relayTrigger rt relay d = .ok (effects, d')) :
    d'.getPropertyIn "lag" "delay" = d.getPropertyIn "lag" "delay" := by
  unfold relayTrigger at h
  split at h
  · cases h
    rfl
  dsimp only at h
  split at h
  · split at h <;> cases h
    rfl
  split at h
  · cases h
  split_ifs at h
  · split at h <;> cases h
    rfl
  · cases h
    rfl
  · cases h
    rfl
  · cases h
    exact delay_noteScheduled _

/-- **The delay stays.** -/
theorem delay_handle (rt : Runtime) (t : SystemTrigger) (path : String)
    (relay d : PropertyNode) : (t.handle rt path relay d).state.getPropertyIn "lag" "delay" =
      d.getPropertyIn "lag" "delay" := by
  unfold handle
  cases t.fires rt path d with
  | error g => rfl
  | ok b =>
  cases b with
  | false => rfl
  | true =>
  cases checkIntervals d with
  | error g => rfl
  | ok u =>
  cases pendingEvent rt d with
  | error g => rfl
  | ok id =>
  cases id with
  | some id =>
    dsimp only
    unfold reschedule
    cases hr : t.relayTrigger rt relay (stampScheduled rt d) with
    | error g => exact stampScheduled_delay rt d
    | ok r => exact (delay_relayTrigger hr).trans (stampScheduled_delay rt d)
  | none =>
    dsimp only
    unfold dampAndRelay
    have hmeans := damping_means rt d
    cases hd : damping rt d with
    | error g => rfl
    | ok r =>
    obtain ⟨b, d'⟩ := r
    rw [hd] at hmeans
    cases b with
    | true => exact hmeans.2
    | false =>
      dsimp only
      cases hr : t.relayTrigger rt relay d' with
      | error g => exact hmeans.2
      | ok r => exact (delay_relayTrigger hr).trans hmeans.2

/-- The definitions as entries have left them: each has its delay still. -/
def Kept (definitions left : Definitions) : Prop :=
  ∀ path, (left path).map (·.getPropertyIn "lag" "delay") =
    (definitions path).map (·.getPropertyIn "lag" "delay")

variable {left : Definitions} {entry : PropertyNode}

theorem Kept.step (h : Kept definitions left) (entry : PropertyNode) :
    Kept definitions (t.step rt left entry).state := by
  by_cases hnamed : ∃ path d, Names left entry path d
  · obtain ⟨path, d, hd⟩ := hnamed
    intro path'
    rw [step_of_names hd, ← h path']
    dsimp only
    by_cases hpath : path' = path
    · obtain ⟨-, -, -, hleft⟩ := hd
      rw [hpath, Function.update_self, hleft, Option.map_some, Option.map_some, delay_handle]
    · rw [Function.update_of_ne hpath]
  · obtain ⟨-, hstate, -⟩ := step_of_not_names rt t .nullPointer
      fun path d hd => hnamed ⟨path, d, hd⟩
    rw [hstate]
    exact h

def textNode (name text : String) : PropertyNode := { name := name, value := .string text }

/-- An entry of `/usr/triggers`. -/
def entryNode (path eventName : String) : PropertyNode :=
  { name := "0", children := [textNode "triggerPath" path, textNode "relayedEventName" eventName] }

def bareRuntime : Runtime where
  doubleToString := fun _ => ""
  strtod := fun _ => none
  strptime := fun text => if text = "1970-01-01T00:00:00Z" then some 0 else none
  dsuidFromString := fun _ => none
  unsetDSUID := dsuidNullText
  now := 0
  nowISO8601 := "1970-01-01T00:00:00Z"
  weekday := 4
  secNow := 0
  isDateInside := fun _ _ _ => .ok false
  getProperty := fun _ => none
  pushEvent := fun _ => none
  pushTimedEvent := fun e => e.name ++ "0"

def zoneSensorValue : SystemTrigger :=
  ofEvent bareRuntime { name := "zoneSensorValue", raisedAt := .group 1 0 }

end SystemTrigger

end Dss
