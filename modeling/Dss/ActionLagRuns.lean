import Dss.ActionLag
import Dss.Transition

/-!
# Runs of a trigger with a lag

One event at most is pending, and the last firing of each burst is executed, as long as the runner
looks before the trigger fires again in the second that an event is due, and the written time is
read back without going further back than the lag.
-/

namespace Dss

open List Option

namespace PropertyNode

variable {node : PropertyNode} {name other text : String} {f : PropertyNode → PropertyNode}

/-! ## Nodes that are created or overwritten -/

theorem childNames_modifyByName (hf : KeepsName f) :
    (node.modifyByName name f).childNames = node.childNames := by
  have hfirst (nodes : List PropertyNode) :
      (modifyFirst name f nodes).map PropertyNode.name = nodes.map PropertyNode.name := by
    induction nodes with
    | nil => rfl
    | cons child nodes ih =>
      rw [modifyFirst]
      split_ifs
      · rw [map_cons, map_cons, (hf child).1]
      · rw [map_cons, map_cons, ih]
  exact hfirst node.children

/-- A lookup finds the child, or there is none of this name. -/
def Settable (node : PropertyNode) (name : String) : Prop :=
  (node.getPropertyByName name).isSome = true ∨ name ∉ node.childNames

theorem exists_createStringProperty (h : node.Settable name) (text : String) :
    ∃ child, (node.createStringProperty name text).getPropertyByName name = some child ∧
      child.value = .string text := by
  rw [createStringProperty]
  rcases h with hfound | hnew
  · obtain ⟨child, hchild⟩ := isSome_iff_exists.mp hfound
    rw [if_pos hfound, getPropertyByName_modifyByName_self keepsName_setStringValue, hchild]
    exact ⟨_, rfl, rfl⟩
  · have hlookup :=
      @TriggerDamping.getPropertyByName_createStringProperty node name text hnew name
    rw [if_pos rfl] at hlookup
    exact ⟨_, hlookup, rfl⟩

theorem Settable.create (hother : node.Settable other)
    (hne : other ≠ name) : (node.createStringProperty name text).Settable other := by
  rw [Settable, getPropertyByName_createStringProperty_of_ne hne]
  refine hother.imp_right fun hnot => ?_
  rw [createStringProperty]
  split_ifs
  · rwa [childNames_modifyByName keepsName_setStringValue]
  · rw [childNames, map_append, mem_append, not_or]
    exact ⟨hnot, fun hmem => hne (mem_singleton.mp hmem)⟩

end PropertyNode

namespace ActionLag

open DateTime PropertyNode EventRunner

variable {lag last now : ℕ} {id : String} {definition : PropertyNode}

/-! ## Definitions -/

theorem Lagged.of_eq {definition' : PropertyNode} (h : Lagged lag definition)
    (hdelay : definition'.getPropertyIn "lag" "delay" = definition.getPropertyIn "lag" "delay")
    (hreschedule : definition'.getPropertyIn "lag" "reschedule" =
      definition.getPropertyIn "lag" "reschedule")
    (hdamping : definition'.getPropertyByName "damping" =
      definition.getPropertyByName "damping") : Lagged lag definition' := by
  refine ⟨?_, ?_, ?_⟩
  · rw [hdelay]
    exact h.delay
  · rw [hreschedule]
    exact h.reschedule
  · rw [hdamping]
    exact h.undamped

/-- A note can be taken. -/
def Notable (definition : PropertyNode) : Prop :=
  ∀ node, definition.getPropertyByName "lag" = some node →
    node.Settable "eventid" ∧ node.Settable "last_event_scheduled_at"

theorem Fresh.notable (h : Fresh lag definition) : Notable definition :=
  fun node hnode => ⟨Or.inr (h.unused node hnode).1, Or.inr (h.unused node hnode).2⟩

theorem Scheduled.notable (h : Scheduled lag id last definition) : Notable definition := by
  intro node hnode
  obtain ⟨idNode, hid, -⟩ := h.eventid
  obtain ⟨stampNode, hstamp, -⟩ := h.stamp
  rw [getPropertyIn, hnode, bind_some] at hid hstamp
  exact ⟨Or.inl (by rw [hid]; rfl), Or.inl (by rw [hstamp]; rfl)⟩

theorem Lagged.noteScheduled {rt : Runtime} (h : Lagged lag definition)
    (hnotable : Notable definition) (hnow : rt.nowISO8601 = toISO8601 now) :
    Scheduled lag id now (SystemTrigger.noteScheduled rt id definition) := by
  obtain ⟨delayNode, hdelay, -⟩ := h.delay
  obtain ⟨node, hnode, -⟩ := bind_eq_some_iff.mp hdelay
  obtain ⟨hid, hstamp⟩ := hnotable node hnode
  have hkeeps : KeepsName fun node : PropertyNode =>
      (node.createStringProperty "eventid" id).createStringProperty "last_event_scheduled_at"
        rt.nowISO8601 := fun node => by
    obtain ⟨hname, hindex⟩ := @keepsName_createStringProperty "eventid" id node
    obtain ⟨hname', hindex'⟩ := @keepsName_createStringProperty "last_event_scheduled_at"
      rt.nowISO8601 (node.createStringProperty "eventid" id)
    exact ⟨hname'.trans hname, hindex'.trans hindex⟩
  have hstamp' : (node.createStringProperty "eventid" id).Settable "last_event_scheduled_at" :=
    hstamp.create (by decide)
  have hlookup (child : String) :
      (SystemTrigger.noteScheduled rt id definition).getPropertyIn "lag" child =
        ((node.createStringProperty "eventid" id).createStringProperty "last_event_scheduled_at"
          rt.nowISO8601).getPropertyByName child := by
    rw [getPropertyIn, SystemTrigger.noteScheduled, getPropertyByName_modifyByName_self hkeeps,
      hnode, map_some, bind_some]
  -- the delay, and whether it starts again, are read as before
  have hother {child : String} (hne : child ≠ "eventid")
      (hne' : child ≠ "last_event_scheduled_at") :
      (SystemTrigger.noteScheduled rt id definition).getPropertyIn "lag" child =
        definition.getPropertyIn "lag" child := by
    rw [hlookup, getPropertyByName_createStringProperty_of_ne hne',
      getPropertyByName_createStringProperty_of_ne hne, getPropertyIn, hnode, bind_some]
  refine ⟨h.of_eq (hother (by decide) (by decide)) (hother (by decide) (by decide)) ?_, ?_, ?_⟩
  · exact getPropertyByName_modifyByName_of_ne hkeeps (by decide)
  · obtain ⟨child, hchild, hvalue⟩ := exists_createStringProperty hid id
    refine ⟨child, ?_, hvalue⟩
    rw [hlookup, getPropertyByName_createStringProperty_of_ne (by decide), hchild]
  · obtain ⟨child, hchild, hvalue⟩ := exists_createStringProperty hstamp' rt.nowISO8601
    refine ⟨child, ?_, ?_⟩
    · rw [hlookup, hchild]
    · rw [hvalue, hnow]

theorem Scheduled.stampScheduled {rt : Runtime} (h : Scheduled lag id last definition)
    (hnow : rt.nowISO8601 = toISO8601 now) :
    Scheduled lag id now (SystemTrigger.stampScheduled rt definition) := by
  have hother {child : String} (hne : child ≠ "last_event_scheduled_at") :
      (SystemTrigger.stampScheduled rt definition).getPropertyIn "lag" child =
        definition.getPropertyIn "lag" child :=
    getPropertyIn_modifyByName_modifyByName keepsName_setStringValue hne
  refine ⟨h.toLagged.of_eq (hother (by decide)) (hother (by decide)) ?_, ?_, ?_⟩
  · exact getPropertyByName_modifyByName_of_ne keepsName_modifyByName (by decide)
  · rw [hother (by decide)]
    exact h.eventid
  · obtain ⟨node, hnode, -⟩ := h.stamp
    obtain ⟨parent, hparent, hchild⟩ := bind_eq_some_iff.mp hnode
    refine ⟨node.setStringValue rt.nowISO8601, ?_, congrArg _ hnow⟩
    rw [getPropertyIn, SystemTrigger.stampScheduled,
      getPropertyByName_modifyByName_self keepsName_modifyByName, hparent, map_some,
      bind_some, getPropertyByName_modifyByName_self keepsName_setStringValue, hchild,
      map_some]

/-! ## What is relayed -/

section Relaying

variable {rt : Runtime} {t : SystemTrigger} {relay : PropertyNode} {e : Event}

theorem name_foldl {α : Type} {f : Event → α → Event} (hf : ∀ e a, (f e a).name = e.name)
    (as : List α) : (as.foldl f e).name = e.name := by
  induction as generalizing e with
  | nil => rfl
  | cons a as ih => rw [foldl_cons, ih, hf]

theorem exists_relayedEvent (h : Relays rt relay) :
    ∃ e, t.relayedEvent rt relay = some e ∧ SafeName e.name := by
  obtain ⟨pathNode, hpath⟩ := h.path
  obtain ⟨nameNode, hname, hsafe⟩ := h.name
  rw [SystemTrigger.relayedEvent, hpath, hname]
  refine ⟨_, rfl, ?_⟩
  rw [SystemTrigger.applyParameters, name_foldl, Event.name_setProperty,
    SystemTrigger.applyProperties, name_foldl]
  · exact hsafe
  · exact fun e entry => Event.name_setProperty
  · intro e parameter
    dsimp only
    split_ifs
    · rfl
    · exact Event.name_setProperty

def delayed (lag : ℕ) (e : Event) : Event := e.setProperty "time" ("+" ++ toString lag)

theorem time_delayed : (delayed lag e).time = some ("+" ++ toString lag) := by
  simp [delayed, Event.setProperty]

theorem relayTrigger_eq (h : Lagged lag definition) (hlag : 0 < lag)
    (hevent : t.relayedEvent rt relay = some e) (hid : rt.pushTimedEvent (delayed lag e) = id)
    (hempty : id ≠ "") :
    t.relayTrigger rt relay definition =
      .ok ([.pushTimedEvent (delayed lag e)], SystemTrigger.noteScheduled rt id definition) := by
  obtain ⟨node, hnode, hvalue⟩ := h.delay
  have hinteger : node.getIntegerValue = .ok (lag : ℤ) := by rw [getIntegerValue, hvalue]
  have htext : node.getAsString rt.doubleToString = toString lag := by rw [getAsString, hvalue]; rfl
  rw [SystemTrigger.relayTrigger, hevent, hnode]
  dsimp only
  rw [hinteger, htext]
  dsimp only
  rw [if_neg (by omega), if_neg (by omega)]
  have hdelayed : e.setProperty "time" ("+" ++ toString lag) = delayed lag e := rfl
  rw [hdelayed, hid, if_neg hempty]

theorem damping_eq (h : Lagged lag definition) :
    SystemTrigger.damping rt definition = .ok (false, definition) := by
  have hinterval : definition.getPropertyIn "damping" "interval" = none := by
    rw [getPropertyIn, h.undamped, bind_none]
  rw [SystemTrigger.damping, hinterval]
  rfl

theorem checkIntervals_eq (h : Lagged lag definition) :
    SystemTrigger.checkIntervals definition = .ok () := by
  have hinterval : definition.getPropertyIn "damping" "interval" = none := by
    rw [getPropertyIn, h.undamped, bind_none]
  rw [SystemTrigger.checkIntervals, hinterval]
  split
  · rename_i hnone
    cases hnone
  · rfl

theorem onFired_of_none (h : Lagged lag definition) (hlag : 0 < lag)
    (hevent : t.relayedEvent rt relay = some e) (hid : rt.pushTimedEvent (delayed lag e) = id)
    (hempty : id ≠ "") (hpending : SystemTrigger.pendingEvent rt definition = .ok none) :
    t.onFired rt relay definition =
      ⟨[.pushTimedEvent (delayed lag e)], SystemTrigger.noteScheduled rt id definition, none⟩ := by
  rw [SystemTrigger.onFired, checkIntervals_eq h]
  rw [hpending]
  rw [SystemTrigger.dampAndRelay, damping_eq h]
  dsimp only
  rw [relayTrigger_eq h hlag hevent hid hempty]

theorem onFired_of_some {old : String} (h : Lagged lag definition)
    (hstamped : Lagged lag (SystemTrigger.stampScheduled rt definition)) (hlag : 0 < lag)
    (hevent : t.relayedEvent rt relay = some e) (hid : rt.pushTimedEvent (delayed lag e) = id)
    (hempty : id ≠ "") (hpending : SystemTrigger.pendingEvent rt definition = .ok (some old)) :
    t.onFired rt relay definition =
      ⟨[.removeEvent old, .pushTimedEvent (delayed lag e)],
        SystemTrigger.noteScheduled rt id (SystemTrigger.stampScheduled rt definition), none⟩ := by
  rw [SystemTrigger.onFired, checkIntervals_eq h]
  rw [hpending]
  dsimp only
  rw [SystemTrigger.reschedule, relayTrigger_eq hstamped hlag hevent hid hempty]

theorem pendingEvent_of_fresh (h : Fresh lag definition) :
    SystemTrigger.pendingEvent rt definition = .ok none := by
  obtain ⟨rescheduleNode, hreschedule, htrue⟩ := h.reschedule
  obtain ⟨delayNode, hdelay, -⟩ := h.delay
  have hbool : rescheduleNode.getBoolValue = .ok true := by rw [getBoolValue, htrue]
  have heventid : definition.getPropertyIn "lag" "eventid" = none := by
    obtain ⟨node, hnode, -⟩ := bind_eq_some_iff.mp hdelay
    rw [getPropertyIn, hnode]
    exact TriggerDamping.getPropertyByName_eq_none (h.unused node hnode).1
  rw [SystemTrigger.pendingEvent, hreschedule, hdelay, heventid]
  dsimp only
  rw [hbool]
  rfl

theorem pendingEvent_of_scheduled {read : ℤ} (h : Scheduled lag id last definition)
    (hparse : parseISO8601 rt (toISO8601 last) = .ok read) :
    SystemTrigger.pendingEvent rt definition =
      .ok (if DateTime.difference rt.now read > lag then none else some id) := by
  obtain ⟨rescheduleNode, hreschedule, htrue⟩ := h.reschedule
  obtain ⟨delayNode, hdelay, hlag⟩ := h.delay
  obtain ⟨idNode, hidNode, hid⟩ := h.eventid
  obtain ⟨stampNode, hstampNode, hstamp⟩ := h.stamp
  have hbool : rescheduleNode.getBoolValue = .ok true := by rw [getBoolValue, htrue]
  have hinteger : delayNode.getIntegerValue = .ok (lag : ℤ) := by rw [getIntegerValue, hlag]
  have hstring : idNode.getStringValue = .ok id := by rw [getStringValue, hid]
  have htext : stampNode.getAsString rt.doubleToString = toISO8601 last := by
    rw [getAsString, hstamp]
  rw [SystemTrigger.pendingEvent, hreschedule, hdelay, hidNode, hstampNode]
  dsimp only
  rw [hbool, hinteger, htext, hparse, hstring]
  by_cases hover : DateTime.difference rt.now read > lag
  · rw [if_pos hover]
    exact if_pos hover
  · rw [if_neg hover]
    exact if_neg hover

end Relaying

/-! ## The runner -/

section Runner

variable {S : Type} {rt : ScheduleRuntime S} {r : EventRunner S} {e : Event}
  {entry : ScheduledEvent S} {schedule : Schedule S} {due : ℤ}

theorem scheduleFromEvent_delayed (hlag : 0 < lag) (hbound : lag < 2 ^ 31) (now : ℤ) :
    scheduleFromEvent rt now (delayed lag e) = some (.static (now + lag)) := by
  rw [scheduleFromEvent_of_offset hbound time_delayed, if_pos hlag]

theorem name_delayed : (delayed lag e).name = e.name := Event.name_setProperty

theorem pushTimedEvent_of_none {now : ℤ}
    (hschedule : scheduleFromEvent rt now e = some schedule)
    (hnone : (EventRunner.addEvent { r with scheduledEventCounter := r.scheduledEventCounter + 1 }
      (r.scheduledEvent now e schedule)).2 = none) :
    r.pushTimedEvent rt now e =
      ((EventRunner.addEvent { r with scheduledEventCounter := r.scheduledEventCounter + 1 }
        (r.scheduledEvent now e schedule)).1,
        .ok (scheduledEventID r.scheduledEventCounter now e.name)) := by
  rw [EventRunner.pushTimedEvent, hschedule]
  dsimp only
  rcases hadd : EventRunner.addEvent
      { r with scheduledEventCounter := r.scheduledEventCounter + 1 }
      (r.scheduledEvent now e schedule) with ⟨r', failure⟩
  rw [hadd] at hnone
  cases hnone
  rfl

theorem pushTimedEvent_snd (h : r.Inv) (hlag : 0 < lag) (hbound : lag < 2 ^ 31)
    (hsafe : SafeName e.name) (now : ℤ) :
    (r.pushTimedEvent rt now (delayed lag e)).2 =
      .ok (scheduledEventID r.scheduledEventCounter now e.name) := by
  have hschedule := @scheduleFromEvent_delayed lag S rt e hlag hbound now
  by_cases hmerges : r.Merges (delayed lag e)
  · rw [pushTimedEvent_of_none hschedule (Inv.addEvent_merged hmerges).1, name_delayed]
  · rw [pushTimedEvent_of_none hschedule (h.addEvent now _ hmerges hsafe rfl).1, name_delayed]

structure Holds (r : EventRunner S) (entries : List (String × ℤ)) : Prop where
  inv : r.Inv
  queue : r.eventQueue = []
  /-- the ids and the seconds they are for -/
  entries_eq : (r.scheduledEvents.map fun entry => (entry.id, entry.schedule)) =
    entries.map fun entry => (entry.1, .static entry.2)

theorem Holds.nil (h : Holds r []) : r.scheduledEvents = [] := map_eq_nil_iff.mp h.entries_eq

theorem Holds.pushTimedEvent (h : Holds r []) (rt : ScheduleRuntime S) (hlag : 0 < lag)
    (hbound : lag < 2 ^ 31) (hsafe : SafeName e.name) (now : ℤ) :
    Holds (r.pushTimedEvent rt now (delayed lag e)).1
      [(scheduledEventID r.scheduledEventCounter now e.name, now + lag)] := by
  have hschedule := @scheduleFromEvent_delayed lag S rt e hlag hbound now
  have hmerges : ¬ r.Merges (delayed lag e) := by
    rintro ⟨-, hany⟩
    rw [h.nil] at hany
    cases hany
  obtain ⟨hnone, hinv, -⟩ := h.inv.addEvent now (.static (now + lag)) hmerges hsafe rfl
  obtain ⟨-, hentries, hqueue⟩ :=
    @addEvent_appends S { r with scheduledEventCounter := r.scheduledEventCounter + 1 }
      (r.scheduledEvent now (delayed lag e) (.static (now + lag))) hmerges hsafe.scheduledEventID
      scheduledEventID_ne_empty
  rw [pushTimedEvent_of_none hschedule hnone]
  refine ⟨hinv, hqueue.trans h.queue, ?_⟩
  rw [hentries]
  rw [h.nil]
  rfl

theorem Holds.exists_entry (h : Holds r [(id, due)]) :
    ∃ entry, r.scheduledEvents = [entry] ∧ entry.id = id ∧ entry.schedule = .static due := by
  obtain ⟨entry, hentry, heq⟩ := map_eq_singleton_iff.mp h.entries_eq
  exact ⟨entry, hentry, congrArg Prod.fst heq, congrArg Prod.snd heq⟩

theorem Holds.plain (h : Holds r [(id, due)]) : Plain id := by
  obtain ⟨entry, hentry, rfl, -⟩ := h.exists_entry
  refine h.inv.plain ?_
  rw [ids, hentry]
  exact mem_singleton_self entry.id

theorem eventQueue_removeEvent : (r.removeEvent id).eventQueue = r.eventQueue := by
  rw [EventRunner.removeEvent]
  split
  · rfl
  · rfl

theorem Holds.removeEvent (h : Holds r [(id, due)]) : Holds (r.removeEvent id) [] := by
  obtain ⟨entry, hentry, hid, -⟩ := h.exists_entry
  have hguard := h.inv.leadsToNoOther h.plain
  refine ⟨h.inv.removeEvent hguard, eventQueue_removeEvent.trans h.queue, ?_⟩
  rw [(h.inv.removeEvent_eq hguard).1, hentry]
  simp [hid]

theorem Holds.removeEvent_nil (h : Holds r []) (hplain : Plain id) :
    Holds (r.removeEvent id) [] := by
  have hguard := h.inv.leadsToNoOther hplain
  refine ⟨h.inv.removeEvent hguard, eventQueue_removeEvent.trans h.queue, ?_⟩
  rw [(h.inv.removeEvent_eq hguard).1, h.nil]
  rfl

theorem Holds.raise_nil (h : Holds r []) (now : ℤ) : Holds (r.raisePendingEvents rt now).1 [] := by
  refine ⟨(h.inv.raisePendingEvents rt now).2, ?_, ?_⟩
  · rw [EventRunner.raisePendingEvents, h.nil]
    exact h.queue
  · rw [EventRunner.raisePendingEvents, h.nil]
    rfl

theorem Holds.showOccurence_eq_none (h : Holds r [(id, due)]) (now next : ℤ) :
    (showOccurence rt now next id r.monitorNode).2 = none := by
  obtain ⟨entry, hentry, rfl, -⟩ := h.exists_entry
  have hmem : entry.id ∈ r.ids := by
    rw [ids, hentry]
    exact mem_singleton_self entry.id
  obtain ⟨monitor, hshow, -⟩ := @Inv.showOccurence_spec S rt entry.id now next r.monitorNode
    h.inv.nodes (h.inv.safeName hmem) (h.inv.ne_empty hmem) (h.inv.childNames_eq ▸ hmem)
  rw [hshow]

theorem Holds.raise_eq (h : Holds r [(id, due)]) (rt : ScheduleRuntime S) (now : ℤ) :
    ∃ entry r', entry.id = id ∧ entry.schedule = .static due ∧ r'.Inv ∧
      r'.scheduledEvents = [(visit rt now entry.schedule).entry entry] ∧
      r'.eventQueue = (visit rt now entry.schedule).queue entry [] ∧
      (r.raisePendingEvents rt now).1 =
        ((visit rt now entry.schedule).removeIDs entry []).foldl EventRunner.removeEvent r' := by
  obtain ⟨entry, hentry, hid, hstatic⟩ := h.exists_entry
  have hids : r.ids = [entry.id] := by
    rw [ids, hentry]
    rfl
  have hraised := @Inv.Raising.raiseLoop S rt now [entry.id] r.scheduledEvents
    { monitorNode := r.monitorNode, eventQueue := r.eventQueue }
    ⟨hids, h.inv.childNames_eq.trans hids, h.inv.nodes, fun _ hmem => absurd hmem not_mem_nil,
      rfl⟩
    fun id hid => ⟨h.inv.safeName (hids ▸ hid), h.inv.ne_empty (hids ▸ hid)⟩
  have hshow (next : ℤ) : (showOccurence rt now next entry.id r.monitorNode).2 = none := by
    rw [hid]
    exact h.showOccurence_eq_none now next
  obtain ⟨monitor, hloop⟩ := raiseLoop_cons rt now entry []
    { monitorNode := r.monitorNode, eventQueue := r.eventQueue } hshow
  rw [hentry, hloop] at hraised
  refine ⟨entry, { r with
    scheduledEvents := [(visit rt now entry.schedule).entry entry]
    monitorNode := monitor
    eventQueue := (visit rt now entry.schedule).queue entry [] }, hid, hstatic, ?_, rfl, rfl, ?_⟩
  · exact {
      childNames_eq := hraised.childNames_eq
      nodup := nodup_singleton entry.id
      nodes := hraised.nodes
      made := fun id hmem => h.inv.made id (by rw [hids]; exact hmem) }
  · rw [EventRunner.raisePendingEvents, hentry, hloop, h.queue]
    rfl

theorem Holds.raise_of_lt {now : ℤ} (h : Holds r [(id, due)]) (rt : ScheduleRuntime S)
    (hdue : 0 < due) (hlt : now < due) (hsoon : due - now < 2 ^ 31) :
    Holds (r.raisePendingEvents rt now).1 [(id, due)] := by
  obtain ⟨entry, r', hid, hstatic, -, hentries, hqueue, heq⟩ := h.raise_eq rt now
  have hnext : ((Schedule.static due : Schedule S).getNextOccurence rt now).1 = due :=
    if_pos (DateTime.difference_nonpos_iff.2 (Or.inl hlt.le))
  have hvisit : visit rt now entry.schedule =
      { schedule := .static due, raised := none, removed := false } := by
    rw [hstatic, visit_of_lt (by omega) ?_]
    · rfl
    · rw [hnext, DateTime.difference_nonpos_iff]
      omega
  rw [hvisit] at hentries hqueue heq
  have heq' : (r.raisePendingEvents rt now).1 = r' := heq
  refine ⟨(h.inv.raisePendingEvents rt now).2, ?_, ?_⟩
  · rw [heq', hqueue]
    rfl
  · rw [heq', hentries, ← hid]
    rfl

theorem visit_of_static {now : ℤ} (h : (schedule.getNextOccurence rt now).1 ≠ 0)
    (hdue : DateTime.difference (schedule.getNextOccurence rt now).1 now ≤ 0)
    (hrecurrence : (schedule.getNextOccurence rt now).2.hasRecurrence = false) :
    visit rt now schedule =
      { schedule := (schedule.getNextOccurence rt now).2
        raised := some (schedule.getNextOccurence rt now).1
        removed := true } := by
  rw [visit]
  dsimp only
  rw [if_neg h, if_pos hdue, hrecurrence, if_neg Bool.false_ne_true]

theorem Holds.raise_of_le {now : ℤ} (h : Holds r [(id, due)]) (rt : ScheduleRuntime S)
    (hdue : 0 < due) (hle : due ≤ now) :
    (r.raisePendingEvents rt now).1.Inv ∧ (r.raisePendingEvents rt now).1.scheduledEvents = [] ∧
      (r.raisePendingEvents rt now).1.eventQueue.length = 1 := by
  obtain ⟨entry, r', hid, hstatic, hinv, hentries, hqueue, heq⟩ := h.raise_eq rt now
  obtain ⟨next, hvisit⟩ : ∃ next, visit rt now entry.schedule =
      { schedule := .static due, raised := some next, removed := true } := by
    have hnext : ((Schedule.static due : Schedule S).getNextOccurence rt now).1 = due ∨
        ((Schedule.static due : Schedule S).getNextOccurence rt now).1 = now := by
      rw [Schedule.getNextOccurence]
      split_ifs
      · exact Or.inl rfl
      · exact Or.inr rfl
    refine ⟨((Schedule.static due : Schedule S).getNextOccurence rt now).1, ?_⟩
    rw [hstatic]
    exact visit_of_static (by omega) (DateTime.difference_nonpos_iff.2 (by omega)) rfl
  rw [hvisit] at hentries hqueue heq
  have heq' : (r.raisePendingEvents rt now).1 = r'.removeEvent id := by
    rw [← hid]
    exact heq
  have hguard := hinv.leadsToNoOther h.plain
  refine ⟨(h.inv.raisePendingEvents rt now).2, ?_, ?_⟩
  · rw [heq', (hinv.removeEvent_eq hguard).1, hentries]
    simp [Visit.entry, hid]
  · rw [heq', eventQueue_removeEvent, hqueue]
    simp [Visit.queue, enqueue]

end Runner

/-! ## Steps -/

section Steps

variable {S : Type} {x : Surroundings S} {s : LaggedTrigger S} {t : SystemTrigger} {old : String}
  {due : ℤ}

theorem now_runtimeAt (x : Surroundings S) (r : EventRunner S) (now : ℕ) :
    (runtimeAt x r now).now = now := by
  have hseconds : TriggerDamping.seconds (now * 1000000) = now := Nat.mul_div_cancel now (by decide)
  exact congrArg Nat.cast hseconds

theorem nowISO8601_runtimeAt (x : Surroundings S) (r : EventRunner S) (now : ℕ) :
    (runtimeAt x r now).nowISO8601 = toISO8601 now := by
  have hseconds : TriggerDamping.seconds (now * 1000000) = now := Nat.mul_div_cancel now (by decide)
  exact congrArg toISO8601 hseconds

theorem parseISO8601_runtimeAt {r : EventRunner S} {read : ℤ} (hend : last < endOfTime)
    (hread : convertTZ x.zone last 0 = some read) :
    parseISO8601 (runtimeAt x r now) (toISO8601 last) = .ok read := by
  have hstrptime : (runtimeAt x r now).strptime (toISO8601 last) = convertTZ x.zone last 0 :=
    @TriggerDamping.strptime_runtimeAt x.runtime x.zone last (now * 1000000) hend
  rw [parseISO8601, length_toISO8601, if_neg (by decide), hstrptime, hread]

theorem Relays.runtimeAt (h : Relays x.runtime x.relay) (r : EventRunner S) (now : ℕ) :
    Relays (runtimeAt x r now) x.relay := ⟨h.path, h.name⟩

structure Relayed (x : Surroundings S) (lag now : ℕ) (s s' : LaggedTrigger S) : Prop where
  noted : ∃ id, Scheduled lag id now s'.definition ∧ Holds s'.runner [(id, now + lag)]
  executed_eq : s'.executed = s.executed
  firings_eq : s'.firings = s.firings ++ [now]
  polled_eq : s'.polled = s.polled
  clock_eq : s'.clock = now

theorem pushTimedEvent_runtimeAt {e : Event} (h : s.runner.Inv) (hlag : 0 < lag)
    (hbound : lag < 2 ^ 31) (hsafe : SafeName e.name) :
    (runtimeAt x s.runner now).pushTimedEvent (delayed lag e) =
      scheduledEventID s.runner.scheduledEventCounter now e.name := by
  rw [ActionLag.runtimeAt]
  dsimp only
  rw [pushTimedEvent_snd h hlag hbound hsafe]

theorem relayed_of_none (hrelays : Relays x.runtime x.relay) (hlag : 0 < lag)
    (hbound : lag < 2 ^ 31) (hlagged : Lagged lag s.definition) (hnotable : Notable s.definition)
    (hrunner : Holds s.runner [])
    (hpending : SystemTrigger.pendingEvent (runtimeAt x s.runner now) s.definition = .ok none) :
    Relayed x lag now s (fire x now t s) := by
  obtain ⟨e, hevent, hsafe⟩ :=
    @exists_relayedEvent _ t x.relay (hrelays.runtimeAt s.runner now)
  have hid := @pushTimedEvent_runtimeAt lag now S x s e hrunner.inv hlag hbound hsafe
  have hfired := onFired_of_none hlagged hlag hevent hid scheduledEventID_ne_empty hpending
  refine ⟨⟨scheduledEventID s.runner.scheduledEventCounter now e.name, ?_, ?_⟩, rfl, rfl, rfl, rfl⟩
  · rw [fire, hfired]
    exact hlagged.noteScheduled hnotable (nowISO8601_runtimeAt x s.runner now)
  · rw [fire, hfired]
    exact hrunner.pushTimedEvent x.schedules hlag hbound hsafe now

theorem relayed_of_some (hrelays : Relays x.runtime x.relay) (hlag : 0 < lag)
    (hbound : lag < 2 ^ 31) (hscheduled : Scheduled lag old last s.definition)
    (hinv : s.runner.Inv) (hremoved : Holds (s.runner.removeEvent old) [])
    (hpending : SystemTrigger.pendingEvent (runtimeAt x s.runner now) s.definition =
      .ok (some old)) : Relayed x lag now s (fire x now t s) := by
  obtain ⟨e, hevent, hsafe⟩ :=
    @exists_relayedEvent _ t x.relay (hrelays.runtimeAt s.runner now)
  have hid := @pushTimedEvent_runtimeAt lag now S x s e hinv hlag hbound hsafe
  have hstamped := hscheduled.stampScheduled (nowISO8601_runtimeAt x s.runner now)
  have hfired := onFired_of_some hscheduled.toLagged hstamped.toLagged hlag hevent hid
    scheduledEventID_ne_empty hpending
  refine ⟨⟨scheduledEventID s.runner.scheduledEventCounter now e.name, ?_, ?_⟩, rfl, rfl, rfl, rfl⟩
  · rw [fire, hfired]
    exact hstamped.toLagged.noteScheduled hstamped.notable (nowISO8601_runtimeAt x s.runner now)
  · rw [fire, hfired]
    have hpushed := hremoved.pushTimedEvent x.schedules hlag hbound hsafe now
    rw [Inv.scheduledEventCounter_removeEvent] at hpushed
    exact hpushed

/-! ## The invariant -/

/-- What holds behind a firing: its event is pending, or was executed. -/
structure Fired (lag last : ℕ) (id : String) (s : LaggedTrigger S) : Prop where
  last_eq : s.firings.getLast? = some last
  past : last ≤ s.clock
  writable : last < endOfTime
  scheduled : Scheduled lag id last s.definition
  plain : Plain id
  pending : Pending lag s last → Holds s.runner [(id, last + lag)] ∧
    s.executed = dueTimes lag (Bursts.ends lag s.firings).dropLast
  passed : ¬ Pending lag s last → Holds s.runner [] ∧
    s.executed = dueTimes lag (Bursts.ends lag s.firings)

structure Idle (lag : ℕ) (s : LaggedTrigger S) : Prop where
  firings_eq : s.firings = []
  fresh : Fresh lag s.definition
  runner : Holds s.runner []
  executed_eq : s.executed = []

/-- The invariant of a run. -/
def Settled (lag : ℕ) (s : LaggedTrigger S) : Prop :=
  s.polled ≤ s.clock ∧ (Idle lag s ∨ ∃ last id, Fired lag last id s)

theorem Holds.dues_eq (h : Holds s.runner [(id, due)]) : dues s = [due] := by
  obtain ⟨entry, hentry, -, hstatic⟩ := h.exists_entry
  rw [dues, hentry, filterMap_cons, hstatic]
  rfl

theorem Holds.dues_eq_nil (h : Holds s.runner []) : dues s = [] := by
  rw [dues, h.nil]
  rfl

theorem Settled.law (h : Settled lag s) : Law lag s := by
  rcases h.2 with hidle | ⟨last, id, hfired⟩
  · refine ⟨?_, ?_, ?_⟩
    · rw [hidle.runner.nil]
      exact Nat.zero_le 1
    · rw [hidle.runner.dues_eq_nil, hidle.executed_eq, hidle.firings_eq]
      rfl
    · rw [hidle.runner.dues_eq_nil]
      exact fun due hdue => absurd hdue not_mem_nil
  · by_cases hpending : Pending lag s last
    · obtain ⟨hrunner, hexecuted⟩ := hfired.pending hpending
      refine ⟨?_, ?_, ?_⟩
      · obtain ⟨entry, hentry, -⟩ := hrunner.exists_entry
        rw [hentry]
        exact le_rfl
      · -- the last burst is the one that is pending
        have hends := congrArg (dueTimes lag)
          (@Bursts.dropLast_ends_append lag last s.firings hfired.last_eq)
        rw [dueTimes, map_append] at hends
        rw [hrunner.dues_eq, hexecuted]
        exact hends
      · rw [hrunner.dues_eq]
        intro due hdue
        rw [mem_singleton.mp hdue]
        exact_mod_cast hpending
    · obtain ⟨hrunner, hexecuted⟩ := hfired.passed hpending
      refine ⟨?_, ?_, ?_⟩
      · rw [hrunner.nil]
        exact Nat.zero_le 1
      · rw [hrunner.dues_eq_nil, hexecuted, append_nil]
      · rw [hrunner.dues_eq_nil]
        exact fun due hdue => absurd hdue not_mem_nil

theorem Relayed.settled {s' : LaggedTrigger S} (h : Relayed x lag now s s') (hlag : 0 < lag)
    (hpolled : s.polled ≤ now) (hend : now < endOfTime)
    (hexecuted : s.executed = dueTimes lag (Bursts.ends lag (s.firings ++ [now])).dropLast) :
    Settled lag s' := by
  obtain ⟨id, hscheduled, hrunner⟩ := h.noted
  refine ⟨by rw [h.polled_eq, h.clock_eq]; exact hpolled, Or.inr ⟨now, id, ?_⟩⟩
  refine ⟨?_, h.clock_eq.ge, hend, hscheduled, hrunner.plain, fun _ => ⟨hrunner, ?_⟩,
    fun hover => ?_⟩
  · rw [h.firings_eq, getLast?_concat]
  · rw [h.executed_eq, h.firings_eq, hexecuted]
  · rw [Pending, h.polled_eq] at hover
    omega

theorem Settled.fire (h : Settled lag s) (hrelays : Relays x.runtime x.relay) (hlag : 0 < lag)
    (hbound : lag < 2 ^ 31) (htimely : Timely s (.fire now t))
    (hfits : Fits x lag s (.fire now t)) : Settled lag (fire x now t s) := by
  obtain ⟨hclock, -, hend⟩ := htimely
  have hpolled : s.polled ≤ now := h.1.trans hclock
  rcases h.2 with hidle | ⟨last, id, hfired⟩
  · refine (relayed_of_none hrelays hlag hbound hidle.fresh.toLagged hidle.fresh.notable
      hidle.runner (pendingEvent_of_fresh hidle.fresh)).settled hlag hpolled hend ?_
    rw [hidle.executed_eq, hidle.firings_eq]
    rfl
  · obtain ⟨read, hread, hdoes⟩ := hfits last hfired.last_eq
    have hevent := pendingEvent_of_scheduled hfired.scheduled
      (@parseISO8601_runtimeAt last now S x s.runner read hfired.writable hread)
    rw [now_runtimeAt] at hevent
    by_cases hpending : Pending lag s last
    · -- the event is pending, and removed
      obtain ⟨hlt, hle⟩ := hdoes hpending
      obtain ⟨hrunner, hexecuted⟩ := hfired.pending hpending
      rw [if_neg (not_lt.mpr hle)] at hevent
      refine (relayed_of_some hrelays hlag hbound hfired.scheduled hrunner.inv hrunner.removeEvent
        hevent).settled hlag hpolled hend ?_
      rw [Bursts.ends_snoc_of_lt hfired.last_eq hlt, dropLast_concat, hexecuted]
    · -- it was executed: a new burst
      obtain ⟨hrunner, hexecuted⟩ := hfired.passed hpending
      have hle : last + lag ≤ now := (Nat.not_lt.mp hpending).trans hpolled
      have hends : s.executed =
          dueTimes lag (Bursts.ends lag (s.firings ++ [now])).dropLast := by
        rw [Bursts.ends_snoc_of_le hfired.last_eq hle, dropLast_concat, hexecuted]
      -- its id is still noted, and names no event: removing it once more changes nothing
      by_cases hover : DateTime.difference now read > lag
      · rw [if_pos hover] at hevent
        exact (relayed_of_none hrelays hlag hbound hfired.scheduled.toLagged
          hfired.scheduled.notable hrunner hevent).settled hlag hpolled hend hends
      · rw [if_neg hover] at hevent
        exact (relayed_of_some hrelays hlag hbound hfired.scheduled hrunner.inv
          (hrunner.removeEvent_nil hfired.plain) hevent).settled hlag hpolled hend hends

/-- **A firing in the second that the event is due,** before the runner has looked: the event is
removed, although its burst is over. -/
theorem Settled.not_law_of_due {read : ℤ} (h : Settled lag s)
    (hrelays : Relays x.runtime x.relay) (hlag : 0 < lag) (hbound : lag < 2 ^ 31)
    (hlast : s.firings.getLast? = some last) (hpending : Pending lag s last)
    (hread : convertTZ x.zone last 0 = some read)
    (hle : DateTime.difference (last + lag : ℕ) read ≤ lag) :
    ¬ Law lag (ActionLag.fire x (last + lag) t s) := by
  intro hlaw
  rcases h.2 with hidle | ⟨last', id, hfired⟩
  · rw [hidle.firings_eq] at hlast
    cases hlast
  · obtain rfl : last = last' := some.inj (hlast.symm.trans hfired.last_eq)
    have hevent := pendingEvent_of_scheduled hfired.scheduled
      (@parseISO8601_runtimeAt last (last + lag) S x s.runner read hfired.writable hread)
    rw [now_runtimeAt, if_neg (not_lt.mpr hle)] at hevent
    obtain ⟨hrunner, hexecuted⟩ := hfired.pending hpending
    have hrelayed : Relayed x lag (last + lag) s (ActionLag.fire x (last + lag) t s) :=
      relayed_of_some hrelays hlag hbound hfired.scheduled hrunner.inv hrunner.removeEvent hevent
    obtain ⟨id', -, hrunner'⟩ := hrelayed.noted
    -- one event is missing in what was executed and is pending
    have hlength := congrArg length hlaw.balanced
    rw [hrunner'.dues_eq, hrelayed.executed_eq, hrelayed.firings_eq, hexecuted,
      Bursts.ends_snoc_of_le hlast le_rfl] at hlength
    have hends : Bursts.ends lag s.firings ≠ [] :=
      Bursts.ends_ne_nil (ne_nil_of_mem (mem_of_getLast? hlast))
    have hpositive := length_pos_iff.mpr hends
    simp only [dueTimes, length_append, length_map, length_dropLast,
      length_singleton] at hlength
    omega

theorem Holds.drain {r : EventRunner S} {entries : List (String × ℤ)} (h : Holds r entries) :
    Holds { r with eventQueue := [] } entries :=
  ⟨h.inv.congr rfl rfl le_rfl, rfl, h.entries_eq⟩

theorem executed_poll_of_nil (h : Holds s.runner []) : (poll x now s).executed = s.executed := by
  rw [poll]
  rw [(h.raise_nil now).queue, map_nil, append_nil]

theorem Settled.poll (h : Settled lag s) (hlag : 0 < lag) (hbound : lag < 2 ^ 31)
    (htimely : Timely s (.poll now)) : Settled lag (poll x now s) := by
  have hclock : s.clock ≤ now := htimely.1
  have hpolled : now ≤ s.polled + 1 := htimely.2.1
  have hlater : s.polled ≤ now := h.1.trans hclock
  refine ⟨le_rfl, ?_⟩
  rcases h.2 with hidle | ⟨last, id, hfired⟩
  · exact Or.inl ⟨hidle.firings_eq, hidle.fresh, (hidle.runner.raise_nil now).drain,
      (executed_poll_of_nil hidle.runner).trans hidle.executed_eq⟩
  · refine Or.inr ⟨last, id, hfired.last_eq, hfired.past.trans hclock, hfired.writable,
      hfired.scheduled, hfired.plain, fun hpending => ?_, fun hover => ?_⟩
    · -- the event is not due yet
      have hlt : now < last + lag := hpending
      obtain ⟨hrunner, hexecuted⟩ := hfired.pending (by rw [Pending]; omega)
      have hpast := hfired.past
      have hraised := hrunner.raise_of_lt x.schedules (by omega)
        (show (now : ℤ) < (last + lag : ℕ) by omega) (by omega)
      refine ⟨hraised.drain, ?_⟩
      rw [ActionLag.poll]
      rw [hraised.queue, map_nil, append_nil, hexecuted]
    · have hle : last + lag ≤ now := Nat.not_lt.mp hover
      by_cases hpending : Pending lag s last
      · -- this is its second
        have hlt : s.polled < last + lag := hpending
        obtain ⟨hrunner, hexecuted⟩ := hfired.pending hpending
        have hle' : ((last + lag : ℕ) : ℤ) ≤ now := by exact_mod_cast hle
        obtain ⟨hinv, hentries, hqueue⟩ :=
          hrunner.raise_of_le x.schedules (by omega) hle'
        obtain ⟨e, he⟩ := length_eq_one_iff.mp hqueue
        have hdue : now = last + lag := by omega
        refine ⟨⟨hinv.congr rfl rfl le_rfl, rfl, ?_⟩, ?_⟩
        · rw [ActionLag.poll]
          rw [hentries]
          rfl
        · rw [ActionLag.poll]
          have hends := congrArg (dueTimes lag)
            (@Bursts.dropLast_ends_append lag last s.firings hfired.last_eq)
          rw [dueTimes, map_append] at hends
          rw [he, hexecuted, hdue]
          exact hends
      · obtain ⟨hrunner, hexecuted⟩ := hfired.passed hpending
        exact ⟨(hrunner.raise_nil now).drain, (executed_poll_of_nil hrunner).trans hexecuted⟩

theorem Start.settled (h : Start lag s) (hclock : s.polled ≤ s.clock) : Settled lag s := by
  refine ⟨hclock, Or.inl ⟨h.firings, h.fresh, ⟨h.runner.inv, h.queue, ?_⟩, h.executed⟩⟩
  rw [h.runner.scheduledEvents_eq]
  rfl

variable (x)

/-- **The lag of actions.** In a run of a trigger with a lag that reschedules, there is never more
than one event pending, and those that are executed are executed in the second that the lag of the
last firing of a burst ends, if every firing does well. -/
theorem lag_law_of_fits (hrelays : Relays x.runtime x.relay) (hlag : 0 < lag)
    (hbound : lag < 2 ^ 31) (hstart : Start lag s) (hclock : s.polled ≤ s.clock)
    (actions : List Action) (htimely : Transition.Meets (step x) Timely s actions)
    (hfits : Transition.Meets (step x) (Fits x lag) s actions) :
    Transition.Always (step x) (Law lag) s actions := by
  have hboth : Transition.Meets (step x) (fun s a => Timely s a ∧ Fits x lag s a) s actions :=
    Transition.meets_and htimely hfits
  refine Transition.always_of_meets (fun s hsettled => hsettled.law) ?_ (hstart.settled hclock)
    hboth
  rintro s a hsettled ⟨htimely, hfits⟩
  cases a with
  | fire now t => exact hsettled.fire hrelays hlag hbound htimely hfits
  | poll now => exact hsettled.poll hlag hbound htimely

end Steps

/-! ## The second in which an event is due -/

def laggedTrigger (lag : ℤ) : PropertyNode where
  name := "1"
  children :=
    [{ name := "lag"
       children := [{ name := "delay", value := .integer lag },
         { name := "reschedule", value := .boolean true }] }]

def lampSurroundings : Surroundings Unit where
  runtime := TriggerDamping.plainRuntime
  zone := TimeZone.fixed 0
  schedules := wakeRuntime
  relay :=
    { name := "0"
      children := [{ name := "triggerPath", value := .string "/scripts/foo/entries/1" },
        { name := "relayedEventName", value := .string "lamp" }] }

def lampCall : SystemTrigger :=
  SystemTrigger.ofEvent TriggerDamping.plainRuntime { name := "callScene" }

def beforeCalls (lag : ℤ) : LaggedTrigger Unit where
  definition := laggedTrigger lag
  runner := noEvents
  polled := 100
  clock := 100

theorem relays_lampSurroundings : Relays lampSurroundings.runtime lampSurroundings.relay where
  path := ⟨_, rfl⟩
  name := ⟨_, rfl, by decide, by decide, by decide, by decide⟩

theorem start_beforeCalls (lag : ℕ) : Start lag (beforeCalls lag) where
  fresh := by
    refine ⟨⟨⟨_, rfl, rfl⟩, ⟨_, rfl, rfl⟩, rfl⟩, ?_⟩
    intro node hnode
    cases hnode
    exact ⟨by simp [childNames], by simp [childNames]⟩
  runner := noEvents_start
  queue := rfl
  executed := rfl
  firings := rfl

/-- Two calls in a row, and the looks up to the end of the lag. -/
theorem lag_law_of_fits_lamp :
    Transition.Always (step lampSurroundings) (Law 2) (beforeCalls 2)
      [.fire 100 lampCall, .poll 101, .fire 101 lampCall, .poll 102, .poll 103] := by
  refine lag_law_of_fits lampSurroundings relays_lampSurroundings (by decide) (by decide)
    (start_beforeCalls 2) le_rfl _ ?_ ?_
  · refine ⟨?_, ?_, ?_, ?_, ?_, trivial⟩
    all_goals exact ⟨by decide, by decide, by decide⟩
  · refine ⟨?_, trivial, ?_, trivial, trivial, trivial⟩
    · intro last hlast
      cases hlast
    · intro last hlast
      obtain rfl : 100 = last := some.inj hlast
      exact ⟨100, by decide, fun _ => ⟨by decide, by decide⟩⟩

/-- The second call comes when the event of the first one is due, and before the look of the
runner: the event is removed, and never executed. -/
theorem lag_law_fails :
    ¬ Transition.Always (step lampSurroundings) (Law 1) (beforeCalls 1)
      [.fire 100 lampCall, .fire 101 lampCall] := by
  rintro ⟨-, -, hlaw⟩
  have hstart := start_beforeCalls 1
  have hfits : Fits lampSurroundings 1 (beforeCalls 1) (.fire 100 lampCall) := by
    intro last hlast
    cases hlast
  have hfirst := (hstart.settled le_rfl).fire relays_lampSurroundings (by decide) (by decide)
    ⟨by decide, by decide, by decide⟩ hfits
  have hread : convertTZ lampSurroundings.zone (100 : ℕ) 0 = some 100 := by decide
  have hpending : Pending 1 (fire lampSurroundings 100 lampCall (beforeCalls 1)) 100 :=
    Nat.lt_succ_self 100
  exact hfirst.not_law_of_due relays_lampSurroundings (by decide) (by decide) rfl hpending hread
    (by decide) hlaw

end ActionLag

end Dss
