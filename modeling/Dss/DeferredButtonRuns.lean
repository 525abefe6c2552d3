import Mathlib.Data.List.Chain
import Dss.DeferredButtons
import Dss.Ledger
import Dss.Transition

/-!
# No click is lost

Runs of the click filter and of the handling of deferred events, at any times. Each deferred event
is a `Record` that carries the clicks it was made of and the events raised for it. Every click is
in one record, which is a sequence of one button, and is raised once: with the click type of the
last click, and the number of the steps of a hold behind the first one.
-/

namespace Dss

open FirstMatch Ledger Transition List

namespace ButtonFilter

open ModelDeferredButtonEvent

structure Record : Type where
  event : ModelDeferredButtonEvent
  first : ButtonClick
  later : List ButtonClick := []
  raised : List ButtonClickEvent := []
  deriving DecidableEq

def Record.clicks (r : Record) : List ButtonClick := r.first :: r.later

/-- The filter and its history. -/
structure World : Type where
  deferred : List Record := []
  finished : List Record := []
  accepted : List ButtonClick := []
  log : List ButtonClickEvent := []
  deriving DecidableEq

inductive Action : Type where
  /-- a call of `onDeviceActionFiltered`, and the button input mode that it finds -/
  | click (now : ℤ) (mode : Option ℕ) (c : ButtonClick)
  /-- a call of `handleDeferredModelEvents` -/
  | handle (now : ℤ)
  deriving DecidableEq

def Knows (d : BusDevices) (c : ButtonClick) : Prop := (d c.deviceID c.source).isSome

/-- The device of a click is known. -/
def Known (d : BusDevices) (_ : World) : Action → Prop
  | .click _ _ c => Knows d c
  | .handle _ => True

def Record.merge (now : ℤ) (c : ButtonClick) (r : Record) : Option Record :=
  (r.event.merge now c).map fun e => { r with event := e, later := r.later ++ [c] }

def Record.handle (d : BusDevices) (now : ℤ) (r : Record) : Record :=
  { r with
    event := ((r.event.handle d now).1).getD r.event
    raised := r.raised ++ (r.event.handle d now).2 }

/-- Whether the handling keeps a record in the list. -/
def Record.kept (d : BusDevices) (now : ℤ) (r : Record) : Bool := (r.event.handle d now).1.isSome

/-- `onDeviceActionFiltered`, with history. -/
def World.click (w : World) (now : ℤ) (mode : Option ℕ) (c : ButtonClick) : World :=
  let fresh : Record := { event := .mk' now c, first := c }
  { w with
    accepted := w.accepted ++ [c]
    deferred :=
      if passThrough mode c then
        w.deferred ++ [{ fresh with event := fresh.event.clearTimestamp }]
      else
        match mergeFirst (Record.merge now c) w.deferred with
        | some deferred => deferred
        | none => w.deferred ++ [fresh] }

/-- `handleDeferredModelEvents`, with history. -/
def World.handle (d : BusDevices) (w : World) (now : ℤ) : World :=
  { w with
    deferred := (w.deferred.filter (Record.kept d now)).map (Record.handle d now)
    finished := w.finished ++
      (w.deferred.filter fun r => !r.kept d now).map (Record.handle d now)
    log := w.log ++ w.deferred.flatMap fun r => (r.event.handle d now).2 }

/-- A click comes in, or the deferred events are looked at. -/
def World.step (d : BusDevices) (w : World) : Action → World
  | .click now mode c => w.click now mode c
  | .handle now => w.handle d now

/-! ## The histories add nothing -/

/-- The list `m_DeferredEvents` of a world. -/
def World.events (w : World) : List ModelDeferredButtonEvent := w.deferred.map (·.event)

/-- A click does to the list what the filter does. -/
theorem events_click (w : World) (now : ℤ) (mode : Option ℕ) (c : ButtonClick) :
    (w.click now mode c).events = onDeviceActionFiltered now mode c w.events := by
  have hmerge (r : Record) : r.event.merge now c = (r.merge now c).map (·.event) := by
    rw [Record.merge, Option.map_map]
    exact Option.map_id'.symm
  rw [World.events, World.click, onDeviceActionFiltered]
  dsimp only
  split_ifs
  · rw [List.map_append]
    rfl
  · rw [World.events, mergeFirst_map _ hmerge]
    rcases mergeFirst (Record.merge now c) w.deferred with - | deferred
    · rw [List.map_append]
      rfl
    · rfl

/-- The handling keeps and raises what the code does. -/
theorem events_handle (w : World) (d : BusDevices) (now : ℤ) :
    (World.handle d w now).events = (handleDeferredModelEvents d now w.events).1 ∧
      (World.handle d w now).log = w.log ++ (handleDeferredModelEvents d now w.events).2 := by
  refine ⟨?_, ?_⟩
  · have hkeep (r : Record) e (h : (r.event.handle d now).1 = some e) :
        (r.handle d now).event = e := by
      rw [Record.handle, h]
      rfl
    exact map_filter_isSome Record.event (f := fun e => (e.handle d now).1)
      (k := Record.handle d now) hkeep w.deferred
  · rw [World.handle, handleDeferredModelEvents, World.events, List.flatMap_map]

/-! ## Accounting -/

def SameButton (c c' : ButtonClick) : Prop :=
  c'.source = c.source ∧ c'.deviceID = c.deviceID ∧ c'.buttonNr = c.buttonNr

def holdCount (clicks : List ButtonClick) : ℕ :=
  clicks.countP fun c => decide (IsHoldStep c.clickType)

def Record.last (r : Record) : ButtonClick := r.later.getLast?.getD r.first

/-- One event was raised for a record: at its device, for its button, with the type of the last
click, and the number of the steps of a hold that were merged, if there were any. -/
def Record.Reported (d : BusDevices) (r : Record) : Prop :=
  ∃ event, r.raised = [event] ∧ d r.first.deviceID r.first.source = some event.device ∧
    event.buttonIndex = r.first.buttonNr ∧ event.clickType = r.last.clickType ∧
    event.holdCount.getD 0 = holdCount r.later

/-- No click is lost, and none is reported twice. -/
structure Conserves (d : BusDevices) (w : World) : Prop where
  clicks : (booked Record.clicks w.deferred w.finished).Perm w.accepted
  raises : (booked Record.raised w.deferred w.finished).Perm w.log
  order : ∀ r ∈ w.deferred ++ w.finished, r.clicks.Sublist w.accepted
  button : ∀ r ∈ w.deferred ++ w.finished, ∀ c ∈ r.later, SameButton r.first c
  /-- each of them goes on with what was the last one when it came in -/
  sequence : ∀ r ∈ w.deferred ++ w.finished, (r.clicks.map (·.clickType)).IsChain Precedes
  /-- an event that has left the list was raised once -/
  finished : ∀ r ∈ w.finished, r.Reported d
  pending : ∀ r ∈ w.deferred, r.raised = []
  /-- and one that is due, or for the end of a hold, leaves the list when it is handled -/
  leaves : ∀ now, ∀ r ∈ w.deferred, r.event.isReady now = true →
    r.handle d now ∈ (w.handle d now).finished

/-! ## One record -/

structure Record.Sound (d : BusDevices) (r : Record) : Prop where
  /-- the event is that of the last click, with the steps of a hold -/
  event : r.event = { mk' r.event.timestamp r.first with
    clickType := r.last.clickType
    holdTime := holdCount r.later }
  known : Knows d r.first
  button : ∀ c ∈ r.later, SameButton r.first c
  sequence : (r.clicks.map (·.clickType)).IsChain Precedes
  raised : r.raised = []

namespace Record

variable {d : BusDevices} {r : Record} {now : ℤ} {c : ButtonClick}

theorem sound_fresh (t : ℤ) (hknown : Knows d c) : Sound d { event := .mk' t c, first := c } :=
  ⟨rfl, hknown, fun _ hc => absurd hc not_mem_nil, isChain_singleton _, rfl⟩

theorem holdCount_concat (clicks : List ButtonClick) (c : ButtonClick) :
    holdCount (clicks ++ [c]) = holdCount clicks + holdSteps c.clickType := by
  rw [holdCount, holdCount, countP_append, countP_singleton, holdSteps]
  simp only [decide_eq_true_iff]

theorem Sound.merge (h : Sound d r) {e : ModelDeferredButtonEvent}
    (hmerge : r.event.merge now c = some e) :
    Sound d { r with event := e, later := r.later ++ [c] } := by
  obtain ⟨hsame, hprecedes, rfl⟩ := merge_eq_some hmerge
  obtain ⟨hdevice, hbutton, hsource⟩ := sameButton_iff.mp hsame
  have hevent := h.event
  refine ⟨?_, h.known, ?_, ?_, h.raised⟩
  · rw [hevent]
    simp [mk', holdCount_concat, last]
  · intro c' hc'
    rcases mem_append.mp hc' with hold | hnew
    · exact h.button c' hold
    · obtain rfl := mem_singleton.mp hnew
      rw [hevent] at hdevice hbutton hsource
      exact ⟨hsource.symm, hdevice.symm, hbutton.symm⟩
  · rw [hevent] at hprecedes
    have hsequence := h.sequence
    rw [clicks] at hsequence ⊢
    rw [← cons_append, map_append, isChain_append]
    refine ⟨hsequence, isChain_singleton _, ?_⟩
    intro p hp s hs
    obtain rfl := Option.some.inj hs
    rw [getLast?_map, getLast?_cons] at hp
    obtain rfl := Option.some.inj hp
    exact hprecedes

theorem Sound.handle (h : Sound d r) (now : ℤ) :
    if r.event.isReady now then r.kept d now = false ∧ Reported d (r.handle d now)
    else r.kept d now = true ∧ r.handle d now = r := by
  obtain ⟨device, hdevice⟩ := Option.isSome_iff_exists.mp h.known
  have hlookup : d r.event.deviceID r.event.source = some device := by
    rw [h.event]
    exact hdevice
  split_ifs with hready
  · have hhandle : r.event.handle d now = (none, [r.event.createButtonClickEvent device]) := by
      simp only [ModelDeferredButtonEvent.handle, hlookup, hready, if_true]
    rw [kept, Record.handle, hhandle]
    refine ⟨rfl, r.event.createButtonClickEvent device, ?_, hdevice, ?_, ?_, ?_⟩
    · rw [h.raised]
      rfl
    · rw [h.event]
      rfl
    · rw [h.event]
      rfl
    · rw [h.event]
      simp only [createButtonClickEvent]
      split_ifs with hcount
      · rfl
      · exact (Nat.eq_zero_of_not_pos hcount).symm
  · have hhandle : r.event.handle d now = (some r.event, []) := by
      simp only [ModelDeferredButtonEvent.handle, hlookup, hready, if_false, Bool.false_eq_true]
    rw [kept, Record.handle, hhandle, append_nil]
    exact ⟨rfl, rfl⟩

end Record

/-! ## The whole list -/

variable {d : BusDevices} {w w' : World} {now : ℤ} {c : ButtonClick}

/-- What every run keeps: no click is lost or counted twice, and what a record has raised is in the
log. -/
structure Inv (d : BusDevices) (w : World) : Prop where
  clicks : (booked Record.clicks w.deferred w.finished).Perm w.accepted
  raises : (booked Record.raised w.deferred w.finished).Perm w.log
  order : ∀ r ∈ w.deferred ++ w.finished, r.clicks.Sublist w.accepted
  sound : ∀ r ∈ w.deferred, r.Sound d
  settled : ∀ r ∈ w.finished, r.Reported d ∧ (∀ c ∈ r.later, SameButton r.first c) ∧
    (r.clicks.map (·.clickType)).IsChain Precedes

theorem Inv.conserves (hw : Inv d w) : Conserves d w := by
  refine ⟨hw.clicks, hw.raises, hw.order, ?_, ?_, fun r hr => (hw.settled r hr).1,
    fun r hr => (hw.sound r hr).raised, ?_⟩
  · intro r hr
    rcases mem_append.mp hr with hr | hr
    · exact (hw.sound r hr).button
    · exact (hw.settled r hr).2.1
  · intro r hr
    rcases mem_append.mp hr with hr | hr
    · exact (hw.sound r hr).sequence
    · exact (hw.settled r hr).2.2
  · intro now r hr hready
    have hhandle := (hw.sound r hr).handle now
    rw [if_pos hready] at hhandle
    refine mem_append_right _ (mem_map.mpr ⟨r, mem_filter.mpr ⟨hr, ?_⟩, rfl⟩)
    rw [hhandle.1]
    rfl

/-- A click that begins a record. -/
theorem Inv.push (hw : Inv d w) (hknown : Knows d c) (t : ℤ)
    (hdeferred : w'.deferred = w.deferred ++ [{ event := .mk' t c, first := c }])
    (hrest : w'.finished = w.finished ∧ w'.accepted = w.accepted ++ [c] ∧ w'.log = w.log) :
    Inv d w' := by
  obtain ⟨hfinished, haccepted, hlog⟩ := hrest
  refine ⟨?_, ?_, ?_, ?_, ?_⟩
  · rw [hdeferred, hfinished, haccepted]
    exact booked_push hw.clicks _
  · rw [hdeferred, hfinished, hlog, ← append_nil w.log]
    exact booked_push hw.raises _
  · rw [hdeferred, hfinished, haccepted]
    intro r hr
    rcases mem_append.mp hr with hr | hr
    · rcases mem_append.mp hr with hold | hnew
      · exact (hw.order r (mem_append_left _ hold)).trans (sublist_append_left _ _)
      · obtain rfl := mem_singleton.mp hnew
        exact sublist_append_right _ _
    · exact (hw.order r (mem_append_right _ hr)).trans (sublist_append_left _ _)
  · rw [hdeferred]
    intro r hr
    rcases mem_append.mp hr with hold | hnew
    · exact hw.sound r hold
    · obtain rfl := mem_singleton.mp hnew
      exact Record.sound_fresh t hknown
  · rw [hfinished]
    exact hw.settled

/-- A click that is merged. -/
theorem Inv.merge (hw : Inv d w) {pre post : List Record} {r : Record}
    {e : ModelDeferredButtonEvent} (hold : w.deferred = pre ++ r :: post)
    (hmerge : r.event.merge now c = some e)
    (hdeferred : w'.deferred = pre ++ { r with event := e, later := r.later ++ [c] } :: post)
    (hrest : w'.finished = w.finished ∧ w'.accepted = w.accepted ++ [c] ∧ w'.log = w.log) :
    Inv d w' := by
  obtain ⟨hfinished, haccepted, hlog⟩ := hrest
  have hclicks := hw.clicks
  have hraises := hw.raises
  rw [hold] at hclicks hraises
  -- all records but the one that took the click are as before
  have hmem {q : Record} (hq : q ∈ w'.deferred) :
      q ∈ w.deferred ∨ q = { r with event := e, later := r.later ++ [c] } := by
    rw [hold]
    rw [hdeferred] at hq
    rcases mem_append.mp hq with hq | hq
    · exact Or.inl (mem_append_left _ hq)
    · rcases mem_cons.mp hq with rfl | hq
      · exact Or.inr rfl
      · exact Or.inl (mem_append_right _ (mem_cons_of_mem _ hq))
  have hr : r ∈ w.deferred := by
    rw [hold]
    exact mem_append_right _ mem_cons_self
  refine ⟨?_, ?_, ?_, ?_, ?_⟩
  · rw [hdeferred, hfinished, haccepted]
    exact booked_replace hclicks rfl
  · rw [hdeferred, hfinished, hlog, ← append_nil w.log]
    exact booked_replace hraises (append_nil _).symm
  · rw [hfinished, haccepted]
    intro q hq
    rcases mem_append.mp hq with hq | hq
    · rcases hmem hq with hq | rfl
      · exact (hw.order q (mem_append_left _ hq)).trans (sublist_append_left _ _)
      · exact (hw.order r (mem_append_left _ hr)).append_right [c]
    · exact (hw.order q (mem_append_right _ hq)).trans (sublist_append_left _ _)
  · intro q hq
    rcases hmem hq with hq | rfl
    · exact hw.sound q hq
    · exact (hw.sound r hr).merge hmerge
  · rw [hfinished]
    exact hw.settled

theorem Inv.click (hw : Inv d w) (now : ℤ) (mode : Option ℕ) (hknown : Knows d c) :
    Inv d (w.click now mode c) := by
  by_cases hpass : passThrough mode c = true
  · refine hw.push hknown 0 ?_ ⟨rfl, rfl, rfl⟩
    simp only [World.click, hpass, if_true]
    rfl
  · rcases hmerge : mergeFirst (Record.merge now c) w.deferred with - | deferred
    · -- nothing takes the click
      refine hw.push hknown now ?_ ⟨rfl, rfl, rfl⟩
      simp only [World.click, hpass, hmerge]
      rfl
    · obtain ⟨pre, r, r', post, hold, rfl, hr, -⟩ := mergeFirst_eq_some hmerge
      obtain ⟨e, he, rfl⟩ := Option.map_eq_some_iff.mp hr
      refine hw.merge hold he ?_ ⟨rfl, rfl, rfl⟩
      simp only [World.click, hpass, hmerge]
      rfl

theorem Inv.handle (hw : Inv d w) (now : ℤ) : Inv d (w.handle d now) := by
  refine ⟨?_, ?_, ?_, ?_, ?_⟩
  · exact booked_close hw.clicks (Record.kept d now) fun r => rfl
  · exact booked_settle hw.raises (Record.kept d now) fun r => rfl
  · -- handling a record leaves its clicks, and moves it at most
    intro q hq
    obtain ⟨r, hr, hsame⟩ : ∃ r ∈ w.deferred ++ w.finished, q.clicks = r.clicks := by
      rcases mem_append.mp hq with hq | hq
      · obtain ⟨r, hr, rfl⟩ := mem_map.mp hq
        exact ⟨r, mem_append_left _ (mem_of_mem_filter hr), rfl⟩
      · rcases mem_append.mp hq with hq | hq
        · exact ⟨q, mem_append_right _ hq, rfl⟩
        · obtain ⟨r, hr, rfl⟩ := mem_map.mp hq
          exact ⟨r, mem_append_left _ (mem_of_mem_filter hr), rfl⟩
    rw [hsame]
    exact hw.order r hr
  · intro q hq
    obtain ⟨r, hr, rfl⟩ := mem_map.mp hq
    obtain ⟨hmem, hkept⟩ := mem_filter.mp hr
    have hhandle := (hw.sound r hmem).handle now
    split_ifs at hhandle
    · rw [hhandle.1] at hkept
      cases hkept
    · rw [hhandle.2]
      exact hw.sound r hmem
  · intro q hq
    rcases mem_append.mp hq with hold | hnew
    · exact hw.settled q hold
    · obtain ⟨r, hr, rfl⟩ := mem_map.mp hnew
      obtain ⟨hmem, hkept⟩ := mem_filter.mp hr
      have hsound := hw.sound r hmem
      have hhandle := hsound.handle now
      split_ifs at hhandle
      · exact ⟨hhandle.2, hsound.button, hsound.sequence⟩
      · rw [hhandle.1] at hkept
        cases hkept

theorem Inv.step (hw : Inv d w) {a : Action} (hknown : Known d w a) : Inv d (w.step d a) := by
  cases a with
  | click now mode c => exact hw.click now mode hknown
  | handle now => exact hw.handle now

theorem inv_start : Inv d {} := by
  refine ⟨.refl _, .refl _, ?_, ?_, ?_⟩
  all_goals exact fun r hr => absurd hr not_mem_nil

/-- **No click is lost.** In every run with clicks of known devices, at whatever times they come and
are handled, every click is accounted for. -/
theorem conserves_of_known (d : BusDevices) (actions : List Action)
    (hknown : Meets (World.step d) (Known d) {} actions) :
    Always (World.step d) (Conserves d) {} actions :=
  always_of_meets (fun _ hw => hw.conserves) (fun _ _ hw hknown => hw.step hknown) inv_start hknown

def buttonClick (clickType : ℤ) : ButtonClick where
  source := 1
  deviceID := 1
  buttonNr := 0
  clickType := clickType

/-- A hold, which is repeated and ends. -/
theorem conserves_of_known_hold :
    Always (World.step fun _ meter => some meter) (Conserves fun _ meter => some meter) {}
      [.click 10 (some 0) (buttonClick ClickType.holdStart),
        .click 11 (some 0) (buttonClick ClickType.holdRepeat), .handle 12,
        .click 12 (some 0) (buttonClick ClickType.holdEnd), .handle 12] :=
  conserves_of_known (fun _ meter => some meter) _ ⟨rfl, rfl, trivial, rfl, trivial, trivial⟩

end ButtonFilter

end Dss
