import Dss.Transition
import Dss.UploadLog

/-!
# No event is lost or uploaded out of order

Only the call that the pending upload belongs to changes the packet. The events of one priority
stand in the order in which they were appended: first those that were reported, then those in the
packet, then those in the queue.
-/

namespace Dss

open SingleHolder List

namespace UploadLog

open SensorLog (maxPostEvents)

/-! ## The law -/

def queue {A : Type} (s : UploadLog A) (highPrio : Bool) : List A :=
  if highPrio then s.eventsHighPrio else s.events

def ofPrio {E : Type} (highPrio : Bool) (l : List (Entry E)) : List (Entry E) :=
  l.filter fun e => e.highPrio = highPrio

/-- What should hold in every state of a run. -/
structure Conserved {E : Type} [DecidableEq E] (w : Uploads E) : Prop where
  length_le : ∀ contents, Call.accepted contents ∈ w.calls → contents.length ≤ maxPostEvents
  inFlight_le : w.calls.countP Call.isInFlight ≤ 1
  /-- an event is in one place, until an upload that contained it is reported -/
  exactly_once : ∀ e ∈ w.taken, w.log.packet.count e + w.log.eventsHighPrio.count e +
    w.log.events.count e = if e ∈ w.reported then 0 else 1
  no_others : ∀ e ∈ w.log.packet ++ w.log.eventsHighPrio ++ w.log.events, e ∈ w.taken
  in_order : ∀ highPrio,
    ofPrio highPrio (w.reported ++ w.log.packet ++ w.log.queue highPrio) =
      ofPrio highPrio w.taken
  /-- a packet that is started is not empty -/
  no_assertion : w.log.assertionFailed = false

/-! ## What the critical sections do -/

section criticalSections

variable {A : Type} {s : UploadLog A}

theorem packetAppend_eq {packet events : List A} (h : packet.length ≤ maxPostEvents) :
    packetAppend packet events = (packet ++ events.take (maxPostEvents - packet.length),
      events.drop (maxPostEvents - packet.length)) := by
  have hspace : (maxPostEvents + 2 ^ 64 - packet.length) % 2 ^ 64 =
      maxPostEvents - packet.length := by
    have hsize : maxPostEvents = 50 := rfl
    omega
  rw [packetAppend, hspace]
  rcases Nat.le_total events.length (maxPostEvents - packet.length) with hle | hle
  · rw [Nat.min_eq_left hle, take_length, drop_length, take_of_length_le hle,
      drop_eq_nil_of_le hle]
  · rw [Nat.min_eq_right hle]

structure Filled (s s' : UploadLog A) : Prop where
  moved : ∃ m n, s'.packet = s.packet ++ s.eventsHighPrio.take m ++ s.events.take n ∧
    s'.eventsHighPrio = s.eventsHighPrio.drop m ∧ s'.events = s.events.drop n
  length_le : s'.packet.length ≤ maxPostEvents
  pendingUpload_eq : s'.pendingUpload = s.pendingUpload

/-- **Filling a packet.** A packet that has something to be filled with is not empty. -/
theorem filled_fillPacket (h : s.packet.length ≤ maxPostEvents)
    (hsome : ¬ (s.eventsHighPrio = [] ∧ s.events = [] ∧ s.packet = [])) :
    Filled s s.fillPacket ∧ s.fillPacket.assertionFailed = s.assertionFailed := by
  have hfirst : (s.packet ++ s.eventsHighPrio.take (maxPostEvents - s.packet.length)).length ≤
      maxPostEvents := by
    rw [length_append, length_take]
    omega
  rw [fillPacket, packetAppend_eq h]
  dsimp only
  rw [packetAppend_eq hfirst]
  refine ⟨⟨⟨_, _, rfl, rfl, rfl⟩, ?_, rfl⟩, ?_⟩
  · rw [length_append, length_take]
    omega
  · rw [Bool.or_eq_left_iff_imp]
    intro hempty
    exfalso
    apply hsome
    simp only [List.isEmpty_iff, append_eq_nil_iff, take_eq_nil_iff] at hempty
    obtain ⟨⟨hpacket, hhigh⟩, hlow⟩ := hempty
    rw [hpacket] at hhigh
    rw [hpacket] at hlow
    have hnone : s.eventsHighPrio = [] := by
      rcases hhigh with hzero | hnone
      · cases hzero
      · exact hnone
    rw [hnone] at hlow
    refine ⟨hnone, ?_, hpacket⟩
    rcases hlow with hzero | hnone
    · cases hzero
    · exact hnone

/-- The packet that `send_packet` starts from. -/
def rest (s : UploadLog A) (next : Bool) : List A := if next then [] else s.packet

/-- **What `send_packet` does.** It gives the upload up, or fills what is left of the packet. -/
theorem sendPacket_cases (next : Bool) (h : s.packet.length ≤ maxPostEvents) :
    (∃ run, sendPacket next s =
      ({ s with packet := s.rest next, uploadRun := run, pendingUpload := false }, false)) ∨
    ∃ run s', sendPacket next s = (s', true) ∧
      Filled { s with packet := s.rest next, uploadRun := run } s' ∧
        s'.assertionFailed = s.assertionFailed := by
  obtain ⟨run, hbase⟩ : ∃ run, (if next then
      { s with uploadRun := s.uploadRun + Int32.ofNat s.packet.length, packet := [] }
      else { s with uploadRun := 0 }) = { s with packet := s.rest next, uploadRun := run } := by
    rcases next with - | -
    · exact ⟨_, rfl⟩
    · exact ⟨_, rfl⟩
  have hlength : (s.rest next).length ≤ maxPostEvents := by
    rcases next with - | -
    · exact h
    · exact Nat.zero_le _
  rw [sendPacket, hbase]
  split_ifs with hempty hprevention
  · exact Or.inl ⟨run, rfl⟩
  · exact Or.inl ⟨run, rfl⟩
  · right
    obtain ⟨hfilled, hassertion⟩ := filled_fillPacket
      (s := { s with packet := s.rest next, uploadRun := run }) hlength (by
        rintro ⟨hhigh, hlow, hpacket⟩
        apply hempty
        rw [hhigh, hlow, hpacket]
        rfl)
    exact ⟨run, _, rfl, hfilled, hassertion⟩

theorem triggerUpload_cases : s.triggerUpload = (s, false) ∨
    s.pendingUpload = false ∧ s.triggerUpload = ({ s with pendingUpload := true }, true) := by
  rw [triggerUpload]
  split_ifs with hpending hempty
  · exact Or.inl rfl
  · exact Or.inl rfl
  · exact Or.inr ⟨Bool.eq_false_iff.mpr hpending, rfl⟩

theorem append_cases (e : A) (highPrio : Bool) : s.append e highPrio = none ∨
    ∃ s', s.append e highPrio = some s' ∧ s'.packet = s.packet ∧
      s'.pendingUpload = s.pendingUpload ∧ s'.assertionFailed = s.assertionFailed ∧
      s'.queue highPrio = s.queue highPrio ++ [e] ∧ s'.queue (!highPrio) = s.queue (!highPrio) := by
  rw [append]
  rcases highPrio with - | -
  · rw [if_neg Bool.false_ne_true]
    split_ifs
    · exact Or.inl rfl
    · exact Or.inr ⟨_, rfl, rfl, rfl, rfl, rfl, rfl⟩
  · rw [if_pos rfl]
    split_ifs
    · exact Or.inl rfl
    · exact Or.inr ⟨_, rfl, rfl, rfl, rfl, rfl, rfl⟩

end criticalSections

/-! ## The invariant -/

variable {E : Type}

def Call.contents? {A : Type} : Call A → Option (List A)
  | accepted contents | send (some contents) => some contents
  | returned | trigger | send none | upload | giveUp => none

theorem Call.holds_of_contents? {A : Type} {call : Call A} {contents : List A}
    (h : call.contents? = some contents) : call.holds = true := by
  cases call with
  | returned => cases h
  | trigger => cases h
  | send _ => rfl
  | upload => rfl
  | accepted _ => rfl
  | giveUp => rfl

structure Inv (w : Uploads E) : Prop where
  guards : Guards Call.holds w.log.pendingUpload w.calls
  length_le : w.log.packet.length ≤ maxPostEvents
  /-- it is what an upload that is in flight or reported contains -/
  packet_eq : ∀ call ∈ w.calls, ∀ contents, call.contents? = some contents →
    w.log.packet = contents
  in_order : ∀ highPrio, ofPrio highPrio (w.reported ++ w.log.packet) ++ w.log.queue highPrio =
    ofPrio highPrio w.taken
  numbers : w.taken.map Entry.number = List.range w.taken.length
  no_assertion : w.log.assertionFailed = false

theorem inv_empty : Inv ({} : Uploads E) := by
  refine ⟨Guards.nil, Nat.zero_le _, ?_, ?_, rfl, rfl⟩
  · intro call hcall
    cases hcall
  · rintro (_ | _)
    · rfl
    · rfl

theorem ofPrio_append (highPrio : Bool) (l m : List (Entry E)) :
    ofPrio highPrio (l ++ m) = ofPrio highPrio l ++ ofPrio highPrio m :=
  filter_append ..

theorem ofPrio_singleton (highPrio : Bool) (e : Entry E) :
    ofPrio highPrio [e] = if e.highPrio = highPrio then [e] else [] := by
  by_cases h : e.highPrio = highPrio
  · simp [ofPrio, h]
  · simp [ofPrio, h]

theorem mem_ofPrio {highPrio : Bool} {l : List (Entry E)} {e : Entry E} :
    e ∈ ofPrio highPrio l ↔ e ∈ l ∧ e.highPrio = highPrio := by
  rw [ofPrio, mem_filter, decide_eq_true_iff]

namespace Inv

variable {w : Uploads E}

theorem prio_of_mem_queue (h : Inv w) {highPrio : Bool} {e : Entry E}
    (he : e ∈ w.log.queue highPrio) : e ∈ w.taken ∧ e.highPrio = highPrio := by
  rw [← mem_ofPrio, ← h.in_order highPrio]
  exact mem_append_right _ he

theorem ofPrio_eq_self (h : Inv w) {highPrio : Bool} {l : List (Entry E)}
    (hl : ∀ e ∈ l, e ∈ w.log.queue highPrio) : ofPrio highPrio l = l := by
  rw [ofPrio, filter_eq_self]
  intro e he
  exact decide_eq_true (h.prio_of_mem_queue (hl e he)).2

theorem ofPrio_eq_nil (h : Inv w) {highPrio other : Bool} (hother : other ≠ highPrio)
    {l : List (Entry E)} (hl : ∀ e ∈ l, e ∈ w.log.queue other) : ofPrio highPrio l = [] := by
  rw [ofPrio, filter_eq_nil_iff]
  intro e he
  rw [decide_eq_true_iff, (h.prio_of_mem_queue (hl e he)).2]
  exact hother

/-! ### Steps -/

theorem begin (h : Inv w) {call : Call (Entry E)} (hcall : call.holds = false) :
    Inv (w.begin call) := by
  refine ⟨h.guards.append hcall, h.length_le, ?_, h.in_order, h.numbers, h.no_assertion⟩
  intro other hother contents hcontents
  rw [Uploads.begin, mem_append, mem_singleton] at hother
  rcases hother with hother | rfl
  · exact h.packet_eq other hother contents hcontents
  · rw [Call.holds_of_contents? hcontents] at hcall
    cases hcall

theorem moveTo_of_free (h : Inv w) {i : ℕ} {call next : Call (Entry E)}
    (hi : w.calls[i]? = some call) (hcall : call.holds = false) (hnext : next.holds = false) :
    Inv (w.moveTo i next) := by
  refine ⟨h.guards.keep hi (hnext.trans hcall.symm), h.length_le, ?_, h.in_order, h.numbers,
    h.no_assertion⟩
  intro other hother contents hcontents
  rcases mem_or_eq_of_mem_set hother with hother | rfl
  · exact h.packet_eq other hother contents hcontents
  · rw [Call.holds_of_contents? hcontents] at hnext
    cases hnext

theorem moveTo_of_holds (h : Inv w) {i : ℕ} {call next : Call (Entry E)}
    (hi : w.calls[i]? = some call) (hcall : call.holds = true) {log : UploadLog (Entry E)}
    {reported : List (Entry E)} (hpending : log.pendingUpload = next.holds)
    (hlength : log.packet.length ≤ maxPostEvents)
    (hpacket : ∀ contents, next.contents? = some contents → log.packet = contents)
    (horder : ∀ highPrio, ofPrio highPrio (reported ++ log.packet) ++ log.queue highPrio =
      ofPrio highPrio (w.reported ++ w.log.packet) ++ w.log.queue highPrio)
    (hassertion : log.assertionFailed = w.log.assertionFailed) :
    Inv (Uploads.moveTo { w with log := log, reported := reported } i next) := by
  have hflag := h.guards.flag_eq (mem_of_getElem? hi) hcall
  refine ⟨?_, hlength, ?_, fun highPrio => (horder highPrio).trans (h.in_order highPrio),
    h.numbers, hassertion.trans h.no_assertion⟩
  · have hguards := h.guards
    rw [hflag] at hguards
    rcases hnext : next.holds with - | -
    · exact (hpending.trans hnext) ▸ hguards.release hi hcall hnext
    · exact (hpending.trans hnext) ▸ hguards.keep hi (hnext.trans hcall.symm)
  · intro other hother contents hcontents
    have hother := h.guards.eq_of_mem_set hi hcall hother (Call.holds_of_contents? hcontents)
    rw [hother] at hcontents
    exact hpacket contents hcontents

theorem append (h : Inv w) (event : E) (highPrio : Bool) : Inv (w.append event highPrio) := by
  rw [Uploads.append]
  obtain hreject | ⟨log, hlog, hpacket, hpending, hassertion, hown, hother⟩ :=
    append_cases (s := w.log) (⟨event, highPrio, w.taken.length⟩ : Entry E) highPrio
  · rw [hreject]
    exact h
  · rw [hlog]
    refine Inv.begin ⟨?_, ?_, ?_, ?_, ?_, hassertion.trans h.no_assertion⟩ ?_
    · rw [hpending]
      exact h.guards
    · rw [hpacket]
      exact h.length_le
    · rw [hpacket]
      exact h.packet_eq
    · intro prio
      rw [hpacket, ofPrio_append _ w.taken, ← h.in_order prio]
      rw [ofPrio_singleton]
      by_cases hprio : prio = highPrio
      · -- the event is the last one of its priority
        rw [hprio, hown, if_pos rfl, append_assoc]
      · rw [Bool.eq_not_of_ne hprio, hother, ← Bool.eq_not_of_ne hprio,
          if_neg fun heq => hprio heq.symm, append_nil]
    · rw [map_append, h.numbers, length_append, length_singleton,
        range_succ, map_singleton]
    · split
      · rfl
      · rfl

theorem goOn_trigger (h : Inv w) {i : ℕ} (hi : w.calls[i]? = some .trigger) :
    Inv (w.goOn i) := by
  rw [Uploads.goOn, hi]
  obtain hnothing | ⟨hpending, hclaim⟩ := triggerUpload_cases (s := w.log)
  · rw [hnothing]
    exact h.moveTo_of_free hi rfl rfl
  · rw [hclaim]
    have hguards := h.guards
    rw [hpending] at hguards
    refine ⟨hguards.acquire hi rfl, h.length_le, ?_, h.in_order, h.numbers, h.no_assertion⟩
    intro other hother contents hcontents
    rcases mem_or_eq_of_mem_set hother with hother | rfl
    · exact h.packet_eq other hother contents hcontents
    · cases hcontents

theorem in_order_of_filled (h : Inv w) {log : UploadLog (Entry E)} {run : Int32}
    {packet reported : List (Entry E)}
    (hfilled : Filled { w.log with packet := packet, uploadRun := run } log)
    (hrest : reported ++ packet = w.reported ++ w.log.packet) (highPrio : Bool) :
    ofPrio highPrio (reported ++ log.packet) ++ log.queue highPrio =
      ofPrio highPrio (w.reported ++ w.log.packet) ++ w.log.queue highPrio := by
  obtain ⟨m, n, hpacket, hhigh, hlow⟩ := hfilled.moved
  rw [hpacket, ← append_assoc, ← append_assoc, hrest, ofPrio_append, ofPrio_append]
  rcases highPrio with - | -
  · have hothers : ofPrio false (w.log.eventsHighPrio.take m) = [] :=
      h.ofPrio_eq_nil (by decide : true ≠ false) fun e he => mem_of_mem_take he
    have hown : ofPrio false (w.log.events.take n) = w.log.events.take n :=
      h.ofPrio_eq_self fun e he => mem_of_mem_take he
    have hleft : log.queue false = w.log.events.drop n := hlow
    have hqueue : w.log.queue false = w.log.events := rfl
    rw [hothers, hown, hleft, hqueue, append_nil, append_assoc, take_append_drop]
  · have hothers : ofPrio true (w.log.events.take n) = [] :=
      h.ofPrio_eq_nil (by decide : false ≠ true) fun e he => mem_of_mem_take he
    have hown : ofPrio true (w.log.eventsHighPrio.take m) = w.log.eventsHighPrio.take m :=
      h.ofPrio_eq_self fun e he => mem_of_mem_take he
    have hleft : log.queue true = w.log.eventsHighPrio.drop m := hhigh
    have hqueue : w.log.queue true = w.log.eventsHighPrio := rfl
    rw [hothers, hown, hleft, hqueue, append_nil, append_assoc, take_append_drop]

theorem goOn_send (h : Inv w) {i : ℕ} {contents : Option (List (Entry E))}
    (hi : w.calls[i]? = some (.send contents)) : Inv (w.goOn i) := by
  -- what was reported is what the packet has lost
  have hrest : (w.reported ++ contents.getD []) ++ w.log.rest contents.isSome =
      w.reported ++ w.log.packet := by
    rcases contents with - | contents
    · rw [Option.getD_none, append_nil]
      rfl
    · rw [h.packet_eq _ (mem_of_getElem? hi) contents rfl, Option.getD_some, rest,
        Option.isSome_some, if_pos rfl, append_nil]
  rw [Uploads.goOn, hi]
  dsimp only
  obtain ⟨run, hstop⟩ | ⟨run, log, hupload, hfilled, hassertion⟩ :=
    sendPacket_cases contents.isSome h.length_le
  · rw [hstop]
    refine h.moveTo_of_holds hi rfl rfl ?_ (fun _ hnone => nomatch hnone) (fun highPrio => ?_) rfl
    · rcases contents with - | contents
      · exact h.length_le
      · exact Nat.zero_le _
    · rw [hrest]
      rfl
  · rw [hupload]
    refine h.moveTo_of_holds hi rfl ?_ hfilled.length_le (fun _ hnone => nomatch hnone)
      (h.in_order_of_filled hfilled hrest) hassertion
    exact hfilled.pendingUpload_eq.trans
      (h.guards.flag_eq (mem_of_getElem? hi) rfl)

theorem goOn (h : Inv w) (i : ℕ) : Inv (w.goOn i) := by
  rcases hi : w.calls[i]? with - | call
  · rw [Uploads.goOn, hi]
    exact h
  · cases call with
    | returned =>
      rw [Uploads.goOn, hi]
      exact h
    | trigger => exact h.goOn_trigger hi
    | send contents => exact h.goOn_send hi
    | upload =>
      rw [Uploads.goOn, hi]
      exact h
    | accepted contents =>
      rw [Uploads.goOn, hi]
      exact h
    | giveUp =>
      rw [Uploads.goOn, hi]
      exact h.moveTo_of_holds hi rfl rfl h.length_le (fun _ hnone => nomatch hnone)
        (fun _ => rfl) rfl

theorem answer (h : Inv w) (i : ℕ) (accepts : Bool) : Inv (w.answer i accepts) := by
  rw [Uploads.answer]
  split
  case h_1 hi =>
    have hflag := h.guards.flag_eq (mem_of_getElem? hi) rfl
    rcases accepts with - | -
    · exact h.moveTo_of_holds hi rfl hflag h.length_le (fun _ hnone => nomatch hnone)
        (fun _ => rfl) rfl
    · exact h.moveTo_of_holds hi rfl hflag h.length_le (fun _ hsome => Option.some.inj hsome)
        (fun _ => rfl) rfl
  all_goals exact h

theorem done (h : Inv w) (i : ℕ) (status : RestTransferStatus) : Inv (w.done i status) := by
  rw [Uploads.done]
  split
  case h_1 contents hi =>
    have hflag := h.guards.flag_eq (mem_of_getElem? hi) rfl
    have hpacket := h.packet_eq _ (mem_of_getElem? hi) contents rfl
    have hsend (other : List (Entry E)) (hother : some contents = some other) :
        w.log.packet = other := hpacket.trans (Option.some.inj hother)
    cases status with
    | networkError =>
      exact h.moveTo_of_holds hi rfl hflag h.length_le (fun _ hnone => nomatch hnone)
        (fun _ => rfl) rfl
    | jsonError => exact h.moveTo_of_holds hi rfl hflag h.length_le hsend (fun _ => rfl) rfl
    | restOk => exact h.moveTo_of_holds hi rfl hflag h.length_le hsend (fun _ => rfl) rfl
  all_goals exact h

theorem step (h : Inv w) (input : Input E) : Inv (w.step input) := by
  cases input with
  | append event highPrio => exact h.append event highPrio
  | triggerUpload => exact h.begin rfl
  | goOn call => exact h.goOn call
  | answer call accepts => exact h.answer call accepts
  | done call status => exact h.done call status

/-! ### The law -/

theorem nodup_taken (h : Inv w) : w.taken.Nodup := by
  apply List.Nodup.of_map Entry.number
  rw [h.numbers]
  exact nodup_range

variable [DecidableEq E]

theorem count_eq (h : Inv w) (e : Entry E) :
    w.reported.count e + w.log.packet.count e + w.log.eventsHighPrio.count e +
      w.log.events.count e = w.taken.count e := by
  have hprio (l : List (Entry E)) : (ofPrio e.highPrio l).count e = l.count e :=
    count_filter (decide_eq_true rfl)
  have horder := congrArg (count e) (h.in_order e.highPrio)
  have hother : (w.log.queue (!e.highPrio)).count e = 0 := by
    rw [count_eq_zero]
    intro hmem
    exact (Bool.eq_not_self _).mp (h.prio_of_mem_queue hmem).2
  rw [count_append, hprio, hprio, count_append] at horder
  rcases hhigh : e.highPrio with - | -
  · rw [hhigh] at horder hother
    change _ + w.log.events.count e = _ at horder
    change w.log.eventsHighPrio.count e = 0 at hother
    omega
  · rw [hhigh] at horder hother
    change _ + w.log.eventsHighPrio.count e = _ at horder
    change w.log.events.count e = 0 at hother
    omega

/-- What the invariant says about a state. -/
theorem conserved (h : Inv w) : Conserved w := by
  refine ⟨?_, ?_, ?_, ?_, ?_, h.no_assertion⟩
  · intro contents hmem
    rw [← h.packet_eq _ hmem contents rfl]
    exact h.length_le
  · apply h.guards.countP_le_one
    intro call hcall
    cases call with
    | returned => cases hcall
    | trigger => cases hcall
    | send _ => rfl
    | upload => rfl
    | accepted _ => rfl
    | giveUp => rfl
  · intro e he
    have hcount := h.count_eq e
    rw [count_eq_one_of_mem h.nodup_taken he] at hcount
    split_ifs with hreported
    · have hpos := count_pos_iff.mpr hreported
      omega
    · rw [count_eq_zero.mpr hreported] at hcount
      omega
  · intro e he
    rw [← count_pos_iff, ← h.count_eq e]
    rw [← count_pos_iff, count_append, count_append] at he
    omega
  · intro highPrio
    rw [ofPrio_append, h.ofPrio_eq_self fun _ he => he, h.in_order]

end Inv

/-- **No event is lost.** The law holds in every state of every run, whatever is called in between
and however the uploader answers and reports. -/
theorem always_conserved [DecidableEq E] (inputs : List (Input E)) :
    Transition.Always Uploads.step Conserved ({} : Uploads E) inputs :=
  Transition.always_of_meets (fun _ => Inv.conserved) (fun _ input h _ => h.step input)
    inv_empty Transition.meets_trivial

end UploadLog

end Dss
