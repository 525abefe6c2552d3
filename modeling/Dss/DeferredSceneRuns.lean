import Mathlib.Data.List.Chain
import Dss.DeferredScenes
import Dss.Ledger
import Dss.Transition

/-!
# No scene call is lost

Runs of the scene call filter and of the handling of deferred events, at any times. Each deferred
event is a `Record` that carries the calls merged into it and the events raised for it. A call is
not lost if its record is one sequence of tips or one dim sequence, and is raised once, with the
scene the sequence ended in (`Accounts`). That holds as long as no call is taken through a
catch-all answer of the scene tables (`InSequence`).
-/

namespace Dss

open FirstMatch SceneHelper Transition List Option

namespace SceneFilter

structure Record : Type where
  event : ModelDeferredSceneEvent
  first : SceneCall
  later : List SceneCall := []
  raised : List CallSceneEvent := []
  deriving DecidableEq

def Record.members (r : Record) : List SceneCall := r.first :: r.later

/-- The filter and its history. -/
structure World : Type where
  deferred : List Record := []
  finished : List Record := []
  accepted : List SceneCall := []
  log : List CallSceneEvent := []
  deriving DecidableEq

inductive Action : Type where
  /-- a call of `onGroupCallSceneFiltered` -/
  | call (now : ℤ) (c : SceneCall)
  /-- a call of `handleDeferredModelEvents` -/
  | handle (now : ℤ)
  deriving DecidableEq

/-- The zone of a call exists, and so does its origin device if it has one. -/
def Knows (d : Directory) (c : SceneCall) : Prop :=
  ((ModelDeferredSceneEvent.mk' 0 c).originDSUID d).isSome

instance (d : Directory) (c : SceneCall) : Decidable (Knows d c) :=
  inferInstanceAs (Decidable (_ = true))

def Record.merge (now : ℤ) (c : SceneCall) (r : Record) : Option Record :=
  (r.event.merge now c).map fun e => { r with event := e, later := r.later ++ [c] }

def Record.handle (d : Directory) (now : ℤ) (r : Record) : Record :=
  { r with
    event := ((r.event.handle d now).1).getD r.event
    raised := r.raised ++ (r.event.handle d now).2 }

/-- Whether the handling keeps a record in the list. -/
def Record.kept (d : Directory) (now : ℤ) (r : Record) : Bool :=
  (r.event.handle d now).1.isSome

/-- `onGroupCallSceneFiltered`, with history. -/
def World.call (w : World) (now : ℤ) (c : SceneCall) : World :=
  let fresh : Record := { event := .mk' now c, first := c }
  { w with
    accepted := w.accepted ++ [c]
    deferred :=
      if ModelDeferredSceneEvent.passThrough c then
        w.deferred.map (fun r => { r with event := r.event.flush c }) ++
          [{ fresh with event := fresh.event.clearTimestamp }]
      else
        match mergeFirst (Record.merge now c) w.deferred with
        | some deferred => deferred
        | none => w.deferred ++ [fresh] }

/-- `handleDeferredModelEvents`, with history. -/
def World.handle (w : World) (d : Directory) (now : ℤ) : World :=
  { w with
    deferred := (w.deferred.filter (Record.kept d now)).map (Record.handle d now)
    finished := w.finished ++
      (w.deferred.filter fun r => !r.kept d now).map (Record.handle d now)
    log := w.log ++ w.deferred.flatMap fun r => (r.event.handle d now).2 }

/-- A call comes in, if it is a known one, or the deferred events are looked at. -/
def World.step (d : Directory) (w : World) : Action → Option World
  | .call now c => if Knows d c then some (w.call now c) else none
  | .handle now => some (w.handle d now)

/-- `World.step` as a relation. -/
def Step (d : Directory) (a : Action) (w w' : World) : Prop := w.step d a = some w'

/-! ## The histories add nothing -/

/-- The list `m_DeferredEvents` of a world. -/
def World.events (w : World) : List ModelDeferredSceneEvent := w.deferred.map (·.event)

/-- A call does to the list what the filter does. -/
theorem events_call (w : World) (now : ℤ) (c : SceneCall) :
    (w.call now c).events = ModelDeferredSceneEvent.onGroupCallSceneFiltered now c w.events := by
  have hmerge (r : Record) : r.event.merge now c = (r.merge now c).map (·.event) := by
    rw [Record.merge, Option.map_map]
    exact Option.map_id'.symm
  rw [World.events, World.call, ModelDeferredSceneEvent.onGroupCallSceneFiltered]
  dsimp only
  split_ifs
  · rw [List.map_append, List.map_map, World.events, List.map_map]
    rfl
  · rw [World.events, mergeFirst_map _ hmerge]
    rcases mergeFirst (Record.merge now c) w.deferred with - | deferred
    · rw [List.map_append]
      rfl
    · rfl

/-- The handling keeps and raises what the code does. -/
theorem events_handle (w : World) (d : Directory) (now : ℤ) :
    (w.handle d now).events = (ModelDeferredSceneEvent.handleDeferredModelEvents d now w.events).1 ∧
      (w.handle d now).log =
        w.log ++ (ModelDeferredSceneEvent.handleDeferredModelEvents d now w.events).2 := by
  refine ⟨?_, ?_⟩
  · have hkeep (r : Record) e (h : (r.event.handle d now).1 = some e) :
        (r.handle d now).event = e := by
      rw [Record.handle, h]
      rfl
    exact map_filter_isSome Record.event (f := fun e => (e.handle d now).1)
      (k := Record.handle d now) hkeep w.deferred
  · rw [World.handle, ModelDeferredSceneEvent.handleDeferredModelEvents, World.events,
      List.flatMap_map]

/-! ## Accounting -/

def SameTarget (c c' : SceneCall) : Prop :=
  c'.source = c.source ∧ c'.zoneID = c.zoneID ∧ c'.groupID = c.groupID ∧
    c'.originDeviceID = c.originDeviceID

def OneSequence (first : SceneCall) (later : List SceneCall) : Prop :=
  if isDimSequence first.sceneID then
    ∀ c ∈ later, c.sceneID = first.sceneID ∨ c.sceneID = sceneDimArea
  else ((first :: later).map (·.sceneID)).IsChain TipStep

/-- The scene a sequence is reported with: that of the last call, or the dim scene
it repeats. -/
def reportedScene (first : SceneCall) (later : List SceneCall) : ℕ :=
  if isDimSequence first.sceneID then first.sceneID
  else (later.getLast?.getD first).sceneID

def reportOf (c : SceneCall) (scene : ℕ) (originDSUID : Dsuid) : CallSceneEvent where
  sceneID := scene
  groupID := c.groupID
  zoneID := c.zoneID
  originDSUID := originDSUID
  callOrigin := c.origin
  originToken := c.token
  forced := c.forced

def Record.Reported (d : Directory) (r : Record) : Prop :=
  ∃ origin, (ModelDeferredSceneEvent.mk' 0 r.first).originDSUID d = some origin ∧
    r.raised = [reportOf r.first (reportedScene r.first r.later) origin]

/-- No accepted call is lost, and none is reported twice. -/
structure Accounts (d : Directory) (w : World) : Prop where
  members : ((w.deferred ++ w.finished).flatMap Record.members).Perm w.accepted
  raises : ((w.deferred ++ w.finished).flatMap Record.raised).Perm w.log
  target : ∀ r ∈ w.deferred ++ w.finished, ∀ c ∈ r.later, SameTarget r.first c
  sequence : ∀ r ∈ w.deferred ++ w.finished, OneSequence r.first r.later
  /-- an event that has left the list was raised once -/
  finished : ∀ r ∈ w.finished, r.Reported d
  /-- one in the list not yet, except that dim calls are reported at once -/
  pending : ∀ r ∈ w.deferred,
    r.raised = [] ∨ (isDimSequence r.first.sceneID = true ∧ r.Reported d)

def taker (now : ℤ) (c : SceneCall) (deferred : List ModelDeferredSceneEvent) :
    Option ModelDeferredSceneEvent :=
  deferred.find? fun e => (e.merge now c).isSome

/-- The condition on a call and the pending events: the call is not delayed, or the
pending event that takes it has its origin, and takes it by a rule other than the
catch-all ones. -/
def InSequence : Action → World → Prop
  | .handle _, _ => True
  | .call now c, w =>
    ModelDeferredSceneEvent.passThrough c = true ∨
      ∀ e ∈ taker now c w.events, e.originDeviceID = c.originDeviceID ∧
        ¬ ModelDeferredSceneEvent.CatchAll e.sceneID c.sceneID

instance (a : Action) (w : World) : Decidable (InSequence a w) :=
  match a with
  | .handle _ => inferInstanceAs (Decidable True)
  | .call _ _ => inferInstanceAs (Decidable (_ ∨ _))

/-! ## One record -/

def eventOf (c : SceneCall) (t : ℤ) (called : Bool) (scene : ℕ) : ModelDeferredSceneEvent :=
  { ModelDeferredSceneEvent.mk' t c with isCalled := called, sceneID := scene }

structure Record.Sound (d : Directory) (r : Record) : Prop where
  /-- the event is that of the first call, but for the scene and the flag -/
  event : r.event =
    eventOf r.first r.event.timestamp r.event.isCalled (reportedScene r.first r.later)
  known : Knows d r.first
  target : ∀ c ∈ r.later, SameTarget r.first c
  sequence : OneSequence r.first r.later
  raised : (r.event.isCalled = false ∧ r.raised = []) ∨
    (r.event.isCalled = true ∧ isDimSequence r.first.sceneID = true ∧ r.Reported d)

theorem reportedScene_dim {c : SceneCall} (h : isDimSequence c.sceneID = true)
    (later : List SceneCall) : reportedScene c later = c.sceneID := by
  rw [reportedScene, if_pos h]

theorem reportedScene_tip {c : SceneCall} (h : ¬ isDimSequence c.sceneID = true)
    (later : List SceneCall) :
    reportedScene c later = (later.getLast?.getD c).sceneID := by
  rw [reportedScene, if_neg h]

theorem OneSequence.isDimSequence_reportedScene {first : SceneCall}
    {later : List SceneCall} (h : OneSequence first later) :
    isDimSequence (reportedScene first later) = isDimSequence first.sceneID := by
  by_cases hd : isDimSequence first.sceneID = true
  · rw [reportedScene_dim hd]
  · rw [OneSequence, if_neg hd] at h
    rw [reportedScene_tip hd]
    rcases eq_nil_or_concat later with rfl | ⟨init, last, rfl⟩
    · rfl
    · -- the last call was stepped to
      have hlast : ∃ p, TipStep p last.sceneID := by
        rw [concat_eq_append, ← cons_append, map_append,
          isChain_append] at h
        obtain ⟨-, -, hstep⟩ := h
        have hne : (first :: init).map (·.sceneID) ≠ [] := by simp
        exact ⟨_, hstep _ (getLast?_eq_some_getLast hne) _ rfl⟩
      obtain ⟨p, hp⟩ := hlast
      rw [concat_eq_append, getLast?_concat, getD_some,
        hp.not_isDimSequence.2, Bool.eq_false_iff.mpr hd]

theorem OneSequence.dim {first c : SceneCall} {later : List SceneCall}
    (h : OneSequence first later) (hd : isDimSequence first.sceneID = true)
    (hc : c.sceneID = first.sceneID ∨ c.sceneID = sceneDimArea) :
    OneSequence first (later ++ [c]) := by
  rw [OneSequence, if_pos hd] at h ⊢
  intro c' hc'
  rcases mem_append.mp hc' with hold | hnew
  · exact h c' hold
  · obtain rfl := mem_singleton.mp hnew
    exact hc

theorem OneSequence.tip {first c : SceneCall} {later : List SceneCall}
    (h : OneSequence first later) (hd : ¬ isDimSequence first.sceneID = true)
    (hc : TipStep (reportedScene first later) c.sceneID) :
    OneSequence first (later ++ [c]) := by
  rw [reportedScene_tip hd] at hc
  rw [OneSequence, if_neg hd] at h ⊢
  rw [← cons_append, map_append, isChain_append]
  refine ⟨h, isChain_singleton _, ?_⟩
  intro p hp s hs
  obtain rfl := some.inj hs
  rw [getLast?_map, getLast?_cons] at hp
  obtain rfl := some.inj hp
  exact hc

namespace Record

variable {d : Directory} {r : Record} {now : ℤ} {c : SceneCall}

theorem sound_fresh (t : ℤ) (hk : Knows d c) :
    Sound d { event := .mk' t c, first := c } := by
  have hscene : reportedScene c [] = c.sceneID := by
    rw [reportedScene]
    split_ifs <;> rfl
  refine ⟨?_, hk, fun c hc => absurd hc not_mem_nil, ?_, .inl ⟨rfl, rfl⟩⟩
  · rw [hscene]
    rfl
  · rw [OneSequence]
    split_ifs
    · exact fun c hc => absurd hc not_mem_nil
    · exact isChain_singleton _

theorem Sound.stamp (h : Sound d r) (t : ℤ) :
    Sound d { r with event := { r.event with timestamp := t } } := by
  refine ⟨?_, h.known, h.target, h.sequence, h.raised⟩
  exact congrArg (fun e : ModelDeferredSceneEvent => { e with timestamp := t }) h.event

theorem Sound.sceneID (h : Sound d r) :
    r.event.sceneID = reportedScene r.first r.later := by
  rw [h.event]
  rfl

theorem Sound.sameTarget (h : Sound d r) (ht : r.event.sameTarget c = true)
    (ho : r.event.originDeviceID = c.originDeviceID) :
    ∀ c' ∈ r.later ++ [c], SameTarget r.first c' := by
  obtain ⟨hzone, hgroup, hsource, -⟩ := ModelDeferredSceneEvent.sameTarget_iff.mp ht
  rw [h.event] at hzone hgroup hsource ho
  intro c' hc'
  rcases mem_append.mp hc' with hold | hnew
  · exact h.target c' hold
  · obtain rfl := mem_singleton.mp hnew
    exact ⟨hsource.symm, hzone.symm, hgroup.symm, ho.symm⟩

theorem Sound.merge (h : Sound d r) {e : ModelDeferredSceneEvent}
    (hm : r.event.merge now c = some e)
    (ho : r.event.originDeviceID = c.originDeviceID)
    (hc : ¬ ModelDeferredSceneEvent.CatchAll r.event.sceneID c.sceneID) :
    Sound d { r with event := e, later := r.later ++ [c] } := by
  have hdims := h.sequence.isDimSequence_reportedScene
  obtain ⟨htarget, htake⟩ := ModelDeferredSceneEvent.merge_eq_some hm
  rw [h.sceneID] at htake hc
  rcases htake with ⟨hdim, hkeep, rfl⟩ | ⟨hfollow, rfl⟩
  · -- a dim call: the pending event is one too, and keeps its scene
    have hfirst : isDimSequence r.first.sceneID = true := by
      rw [← hdims]
      rcases hkeep with heq | harea
      · rw [heq, hdim]
      · by_contra hnot
        exact hc (.inr (.inr ⟨harea, Bool.eq_false_iff.mpr hnot⟩))
    have hscene := reportedScene_dim hfirst
    rw [hscene] at hkeep
    refine ⟨?_, h.known, h.sameTarget htarget ho, h.sequence.dim hfirst (hkeep.imp_left Eq.symm),
      ?_⟩
    · rw [hscene (r.later ++ [c]), ← hscene r.later]
      exact congrArg (ModelDeferredSceneEvent.setTimestamp now) h.event
    · refine h.raised.imp_right fun ⟨hcalled, _, origin, horigin, hraised⟩ => ?_
      refine ⟨hcalled, hfirst, origin, horigin, ?_⟩
      rw [hscene (r.later ++ [c]), ← hscene r.later]
      exact hraised
  · -- a tip: the pending event has not been raised
    have hstep := ModelDeferredSceneEvent.tipStep_of_followsScene hfollow hc
    have hfirst : ¬ isDimSequence r.first.sceneID = true := by
      rw [← hdims, hstep.not_isDimSequence.1]
      exact Bool.false_ne_true
    have hscene : reportedScene r.first (r.later ++ [c]) = c.sceneID := by
      rw [reportedScene_tip hfirst, getLast?_concat, getD_some]
    refine ⟨?_, h.known, h.sameTarget htarget ho, h.sequence.tip hfirst hstep, ?_⟩
    · rw [hscene]
      exact congrArg (ModelDeferredSceneEvent.setScene now c.sceneID) h.event
    · rcases h.raised with hno | ⟨-, hdim, -⟩
      · exact .inl hno
      · exact absurd hdim hfirst

theorem Sound.originDSUID (h : Sound d r) :
    ∃ origin, (ModelDeferredSceneEvent.mk' 0 r.first).originDSUID d = some origin ∧
      r.event.originDSUID d = some origin := by
  obtain ⟨origin, horigin⟩ := isSome_iff_exists.mp h.known
  refine ⟨origin, horigin, ?_⟩
  rw [h.event]
  exact horigin

/-- What handling raises for a sound record, after what was raised before, is one
event. -/
theorem Sound.reported (h : Sound d r) {origin : Dsuid}
    (ho : (ModelDeferredSceneEvent.mk' 0 r.first).originDSUID d = some origin)
    (e : ModelDeferredSceneEvent) :
    Reported d { r with
      event := e
      raised := r.raised ++
        if r.event.isCalled then [] else [r.event.createGroupCallSceneEvent origin] } := by
  rcases h.raised with ⟨hcalled, hnone⟩ | ⟨hcalled, -, origin', ho', hraised⟩
  · refine ⟨origin, ho, ?_⟩
    simp only [hcalled, hnone, Bool.false_eq_true, if_false, nil_append]
    rw [h.event]
    rfl
  · refine ⟨origin', ho', ?_⟩
    simp only [hcalled, hraised, if_true, append_nil]

theorem Sound.handle (h : Sound d r) (now : ℤ) :
    if r.kept d now then Sound d (r.handle d now) ∧ r.event.isDue now = false
    else Reported d (r.handle d now) := by
  obtain ⟨origin, ho, hlookup⟩ := h.originDSUID
  cases hdue : r.event.isDue now with
  | true =>
    -- raised unless it was, and finished
    have hhandle : r.event.handle d now = (none,
        if r.event.isCalled then [] else [r.event.createGroupCallSceneEvent origin]) := by
      simp only [ModelDeferredSceneEvent.handle, hlookup, hdue, if_true]
    rw [kept, Record.handle, hhandle]
    exact h.reported ho _
  | false =>
    cases hdim : isDimSequence r.event.sceneID with
    | true =>
      -- a dim call is raised unless it was, and kept
      have hhandle : r.event.handle d now = (some r.event.setCalled,
          if r.event.isCalled then [] else [r.event.createGroupCallSceneEvent origin]) := by
        simp only [ModelDeferredSceneEvent.handle, hlookup, hdue, hdim, if_true,
          Bool.false_eq_true, if_false]
      have hfirst : isDimSequence r.first.sceneID = true := by
        rw [← h.sequence.isDimSequence_reportedScene, ← h.sceneID, hdim]
      rw [kept, Record.handle, hhandle]
      refine ⟨⟨?_, h.known, h.target, h.sequence, .inr ⟨rfl, hfirst, h.reported ho _⟩⟩, rfl⟩
      exact congrArg ModelDeferredSceneEvent.setCalled h.event
    | false =>
      -- a tip is kept as it is
      have hhandle : r.event.handle d now = (some r.event, []) := by
        simp only [ModelDeferredSceneEvent.handle, hlookup, hdue, hdim, Bool.false_eq_true,
          if_false]
      rw [kept, Record.handle, hhandle, append_nil]
      exact ⟨h, rfl⟩

end Record

/-! ## The whole list -/

variable {d : Directory} {w w' : World}

/-- What every run keeps: no call is lost or counted twice, and each record has raised what it
should. -/
structure Inv (d : Directory) (w : World) : Prop where
  members : ((w.deferred ++ w.finished).flatMap Record.members).Perm w.accepted
  raises : ((w.deferred ++ w.finished).flatMap Record.raised).Perm w.log
  sound : ∀ r ∈ w.deferred, r.Sound d
  settled : ∀ r ∈ w.finished,
    r.Reported d ∧ (∀ c ∈ r.later, SameTarget r.first c) ∧ OneSequence r.first r.later

theorem Inv.accounts (hw : Inv d w) : Accounts d w := by
  refine ⟨hw.members, hw.raises, ?_, ?_, fun r hr => (hw.settled r hr).1, ?_⟩
  · intro r hr
    rcases mem_append.mp hr with hr | hr
    · exact (hw.sound r hr).target
    · exact (hw.settled r hr).2.1
  · intro r hr
    rcases mem_append.mp hr with hr | hr
    · exact (hw.sound r hr).sequence
    · exact (hw.settled r hr).2.2
  · exact fun r hr => (hw.sound r hr).raised.imp And.right And.right

/-- A call that is added as a new record, the others changing at most their time
stamps. -/
theorem Inv.push (hw : Inv d w) {c : SceneCall} (hk : Knows d c) (t : ℤ)
    (f : ModelDeferredSceneEvent → ModelDeferredSceneEvent)
    (hf : ∀ e, ∃ t', f e = { e with timestamp := t' })
    (hd : w'.deferred = w.deferred.map (fun r => { r with event := f r.event }) ++
      [{ event := .mk' t c, first := c }])
    (hrest : w'.finished = w.finished ∧ w'.accepted = w.accepted ++ [c] ∧ w'.log = w.log) :
    Inv d w' := by
  obtain ⟨hfin, hacc, hlog⟩ := hrest
  refine ⟨?_, ?_, ?_, ?_⟩
  · rw [hd, hfin, hacc]
    refine Ledger.booked_push ?_ _
    rw [Ledger.booked_map fun r => by rfl]
    exact hw.members
  · rw [hd, hfin, hlog, ← append_nil w.log]
    refine Ledger.booked_push ?_ _
    rw [Ledger.booked_map fun r => by rfl]
    exact hw.raises
  · rw [hd]
    intro r hr
    rcases mem_append.mp hr with hold | hnew
    · obtain ⟨q, hq, rfl⟩ := mem_map.mp hold
      obtain ⟨t', ht'⟩ := hf q.event
      rw [ht']
      exact (hw.sound q hq).stamp t'
    · obtain rfl := mem_singleton.mp hnew
      exact Record.sound_fresh t hk
  · rw [hfin]
    exact hw.settled

theorem Inv.merge (hw : Inv d w) {c : SceneCall} {pre post : List Record} {r r' : Record}
    (hold : w.deferred = pre ++ r :: post) (hd : w'.deferred = pre ++ r' :: post)
    (hsound : r'.Sound d) (hmem : r'.members = r.members ++ [c])
    (hraised : r'.raised = r.raised)
    (hrest : w'.finished = w.finished ∧ w'.accepted = w.accepted ++ [c] ∧ w'.log = w.log) :
    Inv d w' := by
  obtain ⟨hfin, hacc, hlog⟩ := hrest
  refine ⟨?_, ?_, ?_, ?_⟩
  · have hmembers := hw.members
    rw [hold] at hmembers
    rw [hd, hfin, hacc]
    exact Ledger.booked_replace hmembers hmem
  · have hraises := hw.raises
    rw [hold] at hraises
    rw [hd, hfin, hlog, ← append_nil w.log]
    exact Ledger.booked_replace hraises (by rw [hraised, append_nil])
  · rw [hd]
    intro q hq
    have hkeep := hw.sound q
    rw [hold] at hkeep
    rcases mem_append.mp hq with hq | hq
    · exact hkeep (mem_append_left _ hq)
    · rcases mem_cons.mp hq with rfl | hq
      · exact hsound
      · exact hkeep (mem_append_right _ (mem_cons_of_mem _ hq))
  · rw [hfin]
    exact hw.settled

theorem Inv.call (hw : Inv d w) {now : ℤ} {c : SceneCall} (hk : Knows d c)
    (hok : InSequence (.call now c) w) : Inv d (w.call now c) := by
  by_cases hp : ModelDeferredSceneEvent.passThrough c = true
  · refine hw.push hk 0 (ModelDeferredSceneEvent.flush c) ?_ ?_ ⟨rfl, rfl, rfl⟩
    · intro e
      rw [ModelDeferredSceneEvent.flush]
      split_ifs
      · exact ⟨0, rfl⟩
      · exact ⟨e.timestamp, rfl⟩
    · simp only [World.call, hp, if_true]
      rfl
  · rcases hm : mergeFirst (Record.merge now c) w.deferred with - | deferred
    · -- nothing takes the call
      refine hw.push hk now id (fun e => ⟨e.timestamp, rfl⟩) ?_ ⟨rfl, rfl, rfl⟩
      simp only [World.call, hp, hm, id_eq, List.map_id']
      rfl
    · obtain ⟨pre, r, r', post, hold, rfl, hr, hfind⟩ := mergeFirst_eq_some hm
      obtain ⟨e, he, rfl⟩ := map_eq_some_iff.mp hr
      have htaker : taker now c w.events = some r.event := by
        rw [taker, World.events, find?_map]
        have : (fun e : ModelDeferredSceneEvent => (e.merge now c).isSome) ∘ Record.event =
            fun r => (Record.merge now c r).isSome := by
          funext q
          rw [Function.comp_apply, Record.merge, isSome_map]
        rw [this, hfind, map_some]
      obtain ⟨horigin, hcatch⟩ := (hok.resolve_left hp) r.event htaker
      refine hw.merge hold ?_ ((hw.sound r ?_).merge he horigin hcatch) rfl rfl
        ⟨rfl, rfl, rfl⟩
      · simp only [World.call, hp, hm]
        rfl
      · rw [hold]
        exact mem_append_right _ (mem_cons_self ..)

theorem Inv.handle (hw : Inv d w) (now : ℤ) : Inv d (w.handle d now) := by
  refine ⟨?_, ?_, ?_, ?_⟩
  · exact Ledger.booked_close hw.members (Record.kept d now) fun r => rfl
  · exact Ledger.booked_settle hw.raises (Record.kept d now) fun r => rfl
  · intro q hq
    obtain ⟨r, hr, rfl⟩ := mem_map.mp hq
    obtain ⟨hmem, hkept⟩ := mem_filter.mp hr
    have := (hw.sound r hmem).handle now
    rw [if_pos hkept] at this
    exact this.1
  · intro q hq
    rcases mem_append.mp hq with hold | hnew
    · exact hw.settled q hold
    · obtain ⟨r, hr, rfl⟩ := mem_map.mp hnew
      obtain ⟨hmem, hkept⟩ := mem_filter.mp hr
      have hs := hw.sound r hmem
      have := hs.handle now
      rw [if_neg (by simpa using hkept)] at this
      exact ⟨this, hs.target, hs.sequence⟩

theorem Inv.step (hw : Inv d w) {a : Action} (hok : InSequence a w) (h : Step d a w w') :
    Inv d w' := by
  cases a with
  | call now c =>
    rw [Step, World.step] at h
    split_ifs at h with hk
    obtain rfl := some.inj h
    exact hw.call hk hok
  | handle now =>
    obtain rfl := some.inj h
    exact hw.handle now

theorem inv_start : Inv d {} :=
  ⟨.refl _, .refl _, fun _ h => absurd h not_mem_nil, fun _ h => absurd h not_mem_nil⟩

/-- **No call is lost, where the filter works.** In every run whose calls meet
`InSequence`, at whatever times, every accepted call is accounted for, and an event
that is due leaves the list the next time deferred events are handled. -/
theorem accounts_of_inSequence {as : List Action}
    (hr : Run (Guarded InSequence (Step d)) {} as w) :
    Accounts d w ∧ ∀ now, ∀ r ∈ w.deferred, r.event.isDue now = true →
      r.handle d now ∈ (w.handle d now).finished := by
  have hw : Inv d w := hr.invariant inv_start fun _ _ _ hi hs => hi.step hs.1 hs.2
  refine ⟨hw.accounts, ?_⟩
  intro now r hmem hdue
  have hnot : r.kept d now = false := by
    by_contra hkept
    rw [Bool.not_eq_false] at hkept
    have := (hw.sound r hmem).handle now
    rw [if_pos hkept, hdue] at this
    exact Bool.noConfusion this.2
  refine mem_append_right _ (mem_map.mpr ⟨r, mem_filter.mpr ⟨hmem, ?_⟩, rfl⟩)
  rw [hnot]
  rfl

def anyDirectory : Directory := ⟨fun _ => true, fun _ meter => some meter⟩

def buttonCall (scene : ℕ) : SceneCall where
  source := 1
  zoneID := 1
  groupID := 1
  originDeviceID := 1
  sceneID := scene
  origin := .coDsmApi
  forced := false
  token := ""

/-- Two tips of a button are reported as the second one. -/
theorem accounts_of_inSequence_tips :
    ∃ w, Run (Guarded InSequence (Step anyDirectory)) {}
        [.call 10 (buttonCall scene1), .call 11 (buttonCall scene2), .handle 12, .handle 13] w ∧
      w.log.map (·.sceneID) = [scene2] ∧ Accounts anyDirectory w ∧
      ∀ now, ∀ r ∈ w.deferred, r.event.isDue now = true →
        r.handle anyDirectory now ∈ (w.handle anyDirectory now).finished := by
  have hr : Run (Guarded InSequence (Step anyDirectory)) {}
      [.call 10 (buttonCall scene1), .call 11 (buttonCall scene2), .handle 12, .handle 13] _ :=
    Run.of_execute rfl
  exact ⟨_, hr, by decide, accounts_of_inSequence hr⟩

/-- A dim call that has been reported swallows an off call: the record ends with the
two merged, and the dim event as the only one raised. -/
theorem lost_calls :
    ¬ ∀ (d : Directory) (as : List Action) (w : World), Run (Step d) {} as w →
      Accounts d w ∧ ∀ now, ∀ r ∈ w.deferred, r.event.isDue now = true →
        r.handle d now ∈ (w.handle d now).finished := by
  intro h
  have hr : Run (Guarded (fun _ _ => True) (Step anyDirectory)) {}
      [.call 10 (buttonCall sceneInc), .handle 10, .call 11 (buttonCall sceneOff),
        .handle 20] _ := Run.of_execute rfl
  obtain ⟨hacc, -⟩ := h _ _ _ hr.of_guarded
  have hseq := hacc.sequence _ (mem_cons_self ..)
  revert hseq
  unfold OneSequence
  decide

end SceneFilter

end Dss
