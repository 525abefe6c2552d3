import Mathlib.Algebra.Order.Ring.Int
import Dss.Batches
import Dss.Event

/-!
# The upload queue

`SensorLog` collects events and uploads them in packets. A packet that the uploader refuses is kept
and filled up at the next trigger. The uploader is taken to accept a packet if it can convert one of
its events; so a full packet without such an event is refused forever.
-/

namespace Dss

open List

/-- `SensorLog`, with what its uploader has accepted. -/
structure SensorLog : Type where
  events : List Event := []
  eventsHighPrio : List Event := []
  packet : List Event := []
  pendingUpload : Bool := false
  uploadRun : ℕ := 0
  /-- whether the uploader has accepted the packet and has not reported yet -/
  accepted : Bool := false

namespace SensorLog

/-! ## The log -/

def maxPostEvents : ℕ := 50

def maxElements : ℕ := 1000

def maxPrioElements : ℕ := 400

/-- `packet_append`: the packet and the events that are left. -/
def packetAppend (packet events : List Event) : List Event × List Event :=
  let space := min events.length (maxPostEvents - packet.length)
  (packet ++ events.take space, events.drop space)

/-- The end of `send_packet`: the packet is filled up and uploaded. -/
def upload (convertible : Event → Bool) (s : SensorLog) : SensorLog :=
  let (packet, eventsHighPrio) := packetAppend s.packet s.eventsHighPrio
  let (packet, events) := packetAppend packet s.events
  let s := { s with packet := packet, eventsHighPrio := eventsHighPrio, events := events }
  if packet.any convertible then { s with accepted := true }
  else { s with pendingUpload := false }

def sendPacket (convertible : Event → Bool) (next : Bool) (s : SensorLog) : SensorLog :=
  let s :=
    if next then { s with uploadRun := s.uploadRun + s.packet.length, packet := [] }
    else { s with uploadRun := 0 }
  if s.eventsHighPrio.isEmpty && s.events.isEmpty && s.packet.isEmpty then
    { s with pendingUpload := false }
  else if s.eventsHighPrio.isEmpty && s.uploadRun % maxPostEvents != 0 &&
      decide (s.events.length < maxPostEvents) then
    { s with pendingUpload := false }
  else upload convertible s

def triggerUpload (convertible : Event → Bool) (s : SensorLog) : SensorLog :=
  if s.pendingUpload then s
  else if s.packet.isEmpty && s.eventsHighPrio.isEmpty && s.events.isEmpty then s
  else sendPacket convertible false { s with pendingUpload := true }

def append (convertible : Event → Bool) (e : Event) (highPrio : Bool) (s : SensorLog) :
    SensorLog :=
  if highPrio then
    if maxPrioElements ≤ s.eventsHighPrio.length then s
    else triggerUpload convertible { s with eventsHighPrio := s.eventsHighPrio ++ [e] }
  else if maxElements ≤ s.events.length + s.packet.length then s
  else { s with events := s.events ++ [e] }

/-- `done` with `REST_OK`, for a packet that was accepted. -/
def done (convertible : Event → Bool) (s : SensorLog) : SensorLog :=
  if s.accepted then sendPacket convertible true { s with accepted := false } else s

/-! ## Runs -/

inductive Input : Type where
  | append (e : Event) (highPrio : Bool)
  | trigger
  | report

/-- An event comes in, an upload is asked for, or one ends. -/
def step (convertible : Event → Bool) (s : SensorLog) : Input → SensorLog
  | .append e highPrio => append convertible e highPrio s
  | .trigger => triggerUpload convertible s
  | .report => done convertible s

def waiting (s : SensorLog) : List Event := s.packet ++ s.eventsHighPrio ++ s.events

def settle (convertible : Event → Bool) : ℕ → SensorLog → SensorLog
  | 0, s => s
  | n + 1, s => if s.accepted then settle convertible n (done convertible s) else s

/-- The upload is triggered, and every packet that it has accepted is reported. -/
def cycle (convertible : Event → Bool) (s : SensorLog) : SensorLog :=
  let s := triggerUpload convertible s
  settle convertible s.waiting.length s

def Waits (convertible : Event → Bool) (s : SensorLog) : Prop :=
  s.waiting.any convertible = true

/-- What waits, cut into packets: behind a packet without a convertible event, there is no
convertible event. -/
def Unblocked (convertible : Event → Bool) (s : SensorLog) : Prop :=
  Batches.Unblocked convertible maxPostEvents s.waiting

/-! ## Filling a packet -/

variable {convertible : Event → Bool} {s : SensorLog}

theorem packetAppend_eq {packet events : List Event} (h : packet.length ≤ maxPostEvents) :
    packetAppend packet events =
      ((packet ++ events).take maxPostEvents, (packet ++ events).drop maxPostEvents) := by
  have htake : events.take (min events.length (maxPostEvents - packet.length)) =
      events.take (maxPostEvents - packet.length) := by
    rw [take_eq_take_iff]
    omega
  have hdrop : events.drop (min events.length (maxPostEvents - packet.length)) =
      events.drop (maxPostEvents - packet.length) := by
    rcases Nat.le_total events.length (maxPostEvents - packet.length) with hle | hle
    · rw [Nat.min_eq_left hle, drop_length, drop_eq_nil_of_le hle]
    · rw [Nat.min_eq_right hle]
  rw [packetAppend, htake, hdrop, take_append, drop_append,
    take_of_length_le h, drop_eq_nil_of_le h, nil_append]

structure Inv (s : SensorLog) : Prop where
  length_le : s.packet.length ≤ maxPostEvents
  pendingUpload_eq : s.pendingUpload = s.accepted

structure Filled (s s' : SensorLog) : Prop where
  packet_eq : s'.packet = s.waiting.take maxPostEvents
  waiting_eq : s'.waiting = s.waiting

/-- **What an upload does.** The packet is filled, and accepted if it has a convertible
event. -/
theorem filled_upload (hlength : s.packet.length ≤ maxPostEvents) :
    Filled s (upload convertible s) ∧
      ((upload convertible s).packet.any convertible = true →
        (upload convertible s).accepted = true ∧
          (upload convertible s).pendingUpload = s.pendingUpload) ∧
      ((upload convertible s).packet.any convertible = false →
        (upload convertible s).accepted = s.accepted ∧
          (upload convertible s).pendingUpload = false) := by
  have hfirst : ((s.packet ++ s.eventsHighPrio).take maxPostEvents).length ≤ maxPostEvents :=
    length_take_le _ _
  rw [upload, packetAppend_eq hlength]
  dsimp only
  rw [packetAppend_eq hfirst]
  rw [Batches.take_take_append]
  refine ⟨⟨?_, ?_⟩, ?_, ?_⟩
  · split_ifs <;> rfl
  · have hall : s.waiting.take maxPostEvents ++
        (s.packet ++ s.eventsHighPrio).drop maxPostEvents ++
        ((s.packet ++ s.eventsHighPrio).take maxPostEvents ++ s.events).drop maxPostEvents =
          s.waiting := by
      rw [append_assoc, Batches.drop_append_drop, ← waiting, take_append_drop]
    split_ifs
    · exact hall
    · exact hall
  · split_ifs with hany
    · exact fun _ => ⟨rfl, rfl⟩
    · exact fun hcontra => absurd hcontra hany
  · split_ifs with hany
    · exact fun hcontra => absurd hcontra (by rw [hany]; decide)
    · exact fun _ => ⟨rfl, rfl⟩

theorem inv_upload (hlength : s.packet.length ≤ maxPostEvents) (hpending : s.pendingUpload = true)
    (haccepted : s.accepted = false) : (upload convertible s).Inv := by
  obtain ⟨hfilled, haccept, hrefuse⟩ := @filled_upload convertible s hlength
  refine ⟨?_, ?_⟩
  · rw [hfilled.packet_eq]
    exact length_take_le _ _
  · rcases hany : (upload convertible s).packet.any convertible with - | -
    · rw [(hrefuse hany).1, (hrefuse hany).2, haccepted]
    · rw [(haccept hany).1, (haccept hany).2, hpending]

/-! ## Sending -/

def reported (s : SensorLog) : SensorLog :=
  { s with accepted := false, uploadRun := s.uploadRun + s.packet.length, packet := [] }

theorem done_cases (haccepted : s.accepted = true) :
    done convertible s = { s.reported with pendingUpload := false } ∨
      done convertible s = upload convertible s.reported := by
  rw [done, sendPacket, if_pos rfl]
  split_ifs
  · exact Or.inl rfl
  · exact Or.inl rfl
  · exact Or.inr rfl

theorem sendPacket_first (h : s.waiting ≠ []) :
    sendPacket convertible false s = upload convertible { s with uploadRun := 0 } := by
  rw [sendPacket, if_neg Bool.false_ne_true]
  rw [if_neg]
  · simp
  · intro hempty
    apply h
    simp only [Bool.and_eq_true, List.isEmpty_iff] at hempty
    rw [waiting, hempty.1.1, hempty.1.2, hempty.2]
    rfl

theorem triggerUpload_cases (hpending : s.pendingUpload = false) :
    (s.waiting = [] ∧ triggerUpload convertible s = s) ∨
      triggerUpload convertible s =
        upload convertible { s with pendingUpload := true, uploadRun := 0 } := by
  rw [triggerUpload, if_neg (ne_true_of_eq_false hpending)]
  by_cases hempty : s.waiting = []
  · left
    refine ⟨hempty, if_pos ?_⟩
    rw [waiting, append_eq_nil_iff, append_eq_nil_iff] at hempty
    rw [hempty.1.1, hempty.1.2, hempty.2]
    rfl
  · right
    rw [if_neg]
    · exact @sendPacket_first convertible { s with pendingUpload := true } hempty
    · intro hnone
      apply hempty
      simp only [Bool.and_eq_true, List.isEmpty_iff] at hnone
      rw [waiting, hnone.1.1, hnone.1.2, hnone.2]
      rfl

/-! ## The invariant -/

theorem Inv.trigger (h : s.Inv) : (triggerUpload convertible s).Inv := by
  rcases hpending : s.pendingUpload with - | -
  · rcases @triggerUpload_cases convertible s hpending with ⟨-, hkept⟩ | hupload
    · rw [hkept]
      exact h
    · rw [hupload]
      exact inv_upload h.length_le rfl (h.pendingUpload_eq.symm.trans hpending)
  · rw [triggerUpload, if_pos hpending]
    exact h

theorem Inv.done (h : s.Inv) : (done convertible s).Inv := by
  rcases haccepted : s.accepted with - | -
  · rw [SensorLog.done, if_neg (ne_true_of_eq_false haccepted)]
    exact h
  · rcases @done_cases convertible s haccepted with hstop | hupload
    · rw [hstop]
      exact ⟨Nat.zero_le _, rfl⟩
    · rw [hupload]
      exact inv_upload (Nat.zero_le _) (h.pendingUpload_eq.trans haccepted) rfl

theorem Inv.append (h : s.Inv) {e : Event} {highPrio : Bool} :
    (append convertible e highPrio s).Inv := by
  rw [SensorLog.append]
  split_ifs
  · exact h
  · exact Inv.trigger ⟨h.length_le, h.pendingUpload_eq⟩
  · exact h
  · exact ⟨h.length_le, h.pendingUpload_eq⟩

theorem Inv.step (h : s.Inv) (input : Input) : (s.step convertible input).Inv := by
  cases input with
  | append e highPrio => exact h.append
  | trigger => exact h.trigger
  | report => exact h.done

theorem Inv.foldl (h : s.Inv) (inputs : List Input) :
    (inputs.foldl (SensorLog.step convertible) s).Inv := by
  induction inputs generalizing s with
  | nil => exact h
  | cons input inputs ih => exact ih (h.step input)

theorem inv_empty : ({} : SensorLog).Inv := ⟨Nat.zero_le _, rfl⟩

/-! ## Triggers -/

theorem settle_of_not_accepted {n : ℕ} (h : s.accepted = false) :
    settle convertible n s = s := by
  cases n with
  | zero => rfl
  | succ n => rw [settle, if_neg (ne_true_of_eq_false h)]

theorem waiting_reported (h : s.packet = s.waiting.take maxPostEvents) :
    s.reported.waiting = s.waiting.drop maxPostEvents := by
  have hsplit := take_append_drop maxPostEvents s.waiting
  rw [← h] at hsplit
  nth_rewrite 2 [waiting] at hsplit
  rw [append_assoc] at hsplit
  rw [append_cancel_left hsplit]
  rfl

/-- What the reports behind an accepted packet come to: some batches are gone, each with a
convertible event, and no packet is left to report. -/
structure Settled (convertible : Event → Bool) (s s' : SensorLog) : Prop where
  served : ∃ m, 0 < m ∧
    (∀ k < m, (Batches.batch maxPostEvents k s.waiting).any convertible = true) ∧
    s'.waiting = s.waiting.drop (maxPostEvents * m)
  inv : s'.Inv
  accepted_eq : s'.accepted = false

/-- **Reports.** By induction on the number of reports that may be needed; there are enough of
them for what waits. -/
theorem settled {n : ℕ} (h : s.Inv) (haccepted : s.accepted = true)
    (hpacket : s.packet = s.waiting.take maxPostEvents)
    (hany : s.packet.any convertible = true) (hn : s.waiting.length ≤ n) :
    Settled convertible s (settle convertible n s) := by
  induction n generalizing s with
  | zero =>
    rw [hpacket, eq_nil_of_length_eq_zero (Nat.le_zero.mp hn)] at hany
    cases hany
  | succ n ih =>
    have hfirst : ∀ k < 1, (Batches.batch maxPostEvents k s.waiting).any convertible = true := by
      intro k hk
      rw [Nat.lt_one_iff.mp hk, Batches.batch_zero, ← hpacket]
      exact hany
    have hrest := waiting_reported hpacket
    have hone : s.waiting.drop maxPostEvents = s.waiting.drop (maxPostEvents * 1) := by
      rw [Nat.mul_one]
    rw [settle, if_pos haccepted]
    rcases @done_cases convertible s haccepted with hstop | hupload
    · -- the run ends with this packet
      rw [hstop, settle_of_not_accepted rfl]
      exact ⟨⟨1, Nat.one_pos, hfirst, hrest.trans hone⟩, ⟨Nat.zero_le _, rfl⟩, rfl⟩
    · have hpending : s.reported.pendingUpload = true := h.pendingUpload_eq.trans haccepted
      obtain ⟨hfilled, haccept, hrefuse⟩ := @filled_upload convertible s.reported (Nat.zero_le _)
      have hinv := @inv_upload convertible s.reported (Nat.zero_le _) hpending rfl
      have hwaiting := hfilled.waiting_eq.trans hrest
      rw [hupload]
      rcases hany' : (upload convertible s.reported).packet.any convertible with - | -
      · -- the next packet is refused
        rw [settle_of_not_accepted (hrefuse hany').1]
        exact ⟨⟨1, Nat.one_pos, hfirst, hwaiting.trans hone⟩, hinv, (hrefuse hany').1⟩
      · -- the next packet is accepted as well
        have hless : (s.waiting.drop maxPostEvents).length ≤ n := by
          have hsize : maxPostEvents = 50 := rfl
          rw [length_drop]
          omega
        have hnext := hfilled.packet_eq
        rw [← hfilled.waiting_eq] at hnext
        obtain ⟨⟨m, hm, hbatches, hdrop⟩, hinv', haccepted'⟩ :=
          ih hinv (haccept hany').1 hnext hany' (by rw [hwaiting]; exact hless)
        rw [hwaiting, hone] at hbatches hdrop
        refine ⟨⟨1 + m, Nat.lt_add_right m Nat.one_pos, ?_, ?_⟩, hinv', haccepted'⟩
        · exact Batches.accepted_add hfirst hbatches
        · rw [hdrop, Batches.drop_drop_batch]

structure Quiet (s : SensorLog) : Prop where
  inv : s.Inv
  accepted_eq : s.accepted = false

theorem Quiet.cycle (h : s.Quiet) : (cycle convertible s).Quiet ∧
    ∃ m, Batches.Serves convertible maxPostEvents s.waiting m ∧
      (cycle convertible s).waiting = s.waiting.drop (maxPostEvents * m) := by
  have hpending := h.inv.pendingUpload_eq.trans h.accepted_eq
  have hnone (hany : (Batches.batch maxPostEvents 0 s.waiting).any convertible = false) :
      Batches.Serves convertible maxPostEvents s.waiting 0 :=
    ⟨fun k hk => absurd hk (Nat.not_lt_zero k), fun hcontra => absurd (hany.symm.trans hcontra)
      Bool.false_ne_true⟩
  rw [SensorLog.cycle]
  rcases @triggerUpload_cases convertible s hpending with ⟨hempty, hkept⟩ | hupload
  · rw [hkept, settle_of_not_accepted h.accepted_eq]
    refine ⟨h, 0, hnone ?_, by rw [Nat.mul_zero, drop_zero]⟩
    rw [hempty]
    rfl
  · obtain ⟨hfilled, haccept, hrefuse⟩ := @filled_upload convertible
      { s with pendingUpload := true, uploadRun := 0 } h.inv.length_le
    have hinv := @inv_upload convertible { s with pendingUpload := true, uploadRun := 0 }
      h.inv.length_le rfl h.accepted_eq
    rw [hupload]
    generalize hsent : upload convertible { s with pendingUpload := true, uploadRun := 0 } = t
      at hfilled haccept hrefuse hinv
    have hpacket : t.packet = t.waiting.take maxPostEvents := by
      rw [hfilled.waiting_eq]
      exact hfilled.packet_eq
    have hwaiting : t.waiting = s.waiting := hfilled.waiting_eq
    have hbatch : Batches.batch maxPostEvents 0 s.waiting = t.packet := by
      rw [Batches.batch_zero, hpacket, hwaiting]
    rcases hany : t.packet.any convertible with - | -
    · have haccepted : t.accepted = false := (hrefuse hany).1.trans h.accepted_eq
      rw [settle_of_not_accepted haccepted]
      refine ⟨⟨hinv, haccepted⟩, 0, hnone (hbatch ▸ hany), ?_⟩
      rw [hwaiting, Nat.mul_zero, drop_zero]
    · obtain ⟨⟨m, hm, hbatches, hdrop⟩, hinv', haccepted'⟩ :=
        settled hinv (haccept hany).1 hpacket hany (Nat.le_of_eq (congrArg length hwaiting))
      rw [hwaiting] at hbatches hdrop ⊢
      exact ⟨⟨hinv', haccepted'⟩, m, ⟨hbatches, fun _ => hm⟩, hdrop⟩

theorem Quiet.exists_drained_iff (h : s.Quiet) :
    (∃ n, ¬ Waits convertible ((SensorLog.cycle convertible)^[n] s)) ↔
      s.Unblocked convertible := by
  have hdrains := @Batches.exists_served_iff _ convertible maxPostEvents _
    (SensorLog.cycle convertible) waiting Quiet (by decide) (fun _ hquiet => hquiet.cycle.1)
    (fun _ hquiet => hquiet.cycle.2) s h
  simp only [Waits, Bool.not_eq_true]
  exact hdrains

/-- **The upload queue.** In a state that was reached by appends, triggers and reports, and in
which no upload is pending, some number of triggers leaves no convertible event waiting,
exactly if no full packet without a convertible event comes before one. -/
theorem drains_iff (convertible : Event → Bool) (inputs : List Input)
    (h : (inputs.foldl (step convertible) {}).pendingUpload = false) :
    (∃ n, ¬ Waits convertible
        ((cycle convertible)^[n] (inputs.foldl (step convertible) {}))) ↔
      (inputs.foldl (step convertible) {}).Unblocked convertible := by
  have hinv := @Inv.foldl convertible _ inv_empty inputs
  exact Quiet.exists_drained_iff ⟨hinv, hinv.pendingUpload_eq.symm.trans h⟩

/-! ## Single runs -/

def named (name : String) (e : Event) : Bool := e.name = name

theorem drains_two : ∃ n, ¬ Waits (named "good") ((cycle (named "good"))^[n]
    ([.append { name := "bad" } false, .append { name := "good" } false].foldl
      (step (named "good")) {})) := by
  refine (drains_iff (named "good") _ rfl).mpr fun k _ => ?_
  exact Batches.any_drop_eq_false (i := 2) rfl (by
    have hsize : maxPostEvents = 50 := rfl
    rw [Nat.mul_succ]
    omega)

def blocked : List Input :=
  List.replicate 50 (.append { name := "bad" } false) ++ [.append { name := "good" } false]

/-- It waits forever. -/
theorem drains_fails :
    (blocked.foldl (step (named "good")) {}).pendingUpload = false ∧
      ¬ ∃ n, ¬ Waits (named "good") ((cycle (named "good"))^[n]
        (blocked.foldl (step (named "good")) {})) := by
  have hinv := @Inv.foldl (named "good") _ inv_empty blocked
  have hpending : (blocked.foldl (step (named "good")) {}).pendingUpload = false := by
    decide +kernel
  refine ⟨hpending, fun hdrains => ?_⟩
  have hunblocked :=
    (Quiet.exists_drained_iff ⟨hinv, hinv.pendingUpload_eq.symm.trans hpending⟩).mp hdrains
  have hbehind := hunblocked 0 (by decide +kernel)
  revert hbehind
  decide +kernel

end SensorLog

end Dss
