import Dss.TimedEvents

/-!
# Where events with a time come to

A run keeps all events with a time in their place exactly if none comes to the queue but with an
offset of zero, none replaces an entry with another schedule, or an event that is in the queue as
well, and there are always nodes for a new entry.
-/

namespace Dss

open List Option Function

namespace PendingEvents

variable {T S : Type} {rt : ScheduleRuntime S} {p p' : PendingEvents T S} {t : T}
  {now : ℤ} {o i : ℕ} {throws : Bool}

/-! ## What is pending was made -/

/-- Only events that were made are pending. -/
def Bounded (p : PendingEvents T S) : Prop := ∀ o, p.Pending o → o < p.allocated

structure Kept (p p' : PendingEvents T S) : Prop where
  queue : ∀ o ∈ p'.queue, o ∈ p.queue
  /-- so are the entries; a static schedule is the same one -/
  runner : ∀ x' ∈ p'.runner, ∃ x ∈ p.runner, x.event = x'.event ∧
    ∀ date, x.schedule = .static date → x'.schedule = .static date
  tasks : ∀ u, ∀ o ∈ (p'.threads u).task.events, o < p'.allocated
  allocated : p.allocated ≤ p'.allocated
  objects : ∀ o, o < p.allocated →
    (p'.objects o).time = none ∨ (p'.objects o).time = (p.objects o).time

theorem Bounded.task (h : p.Bounded) {u : T} (ho : o ∈ (p.threads u).task.events) :
    o < p.allocated :=
  h o (Or.inr (Or.inr ⟨u, ho⟩))

namespace Kept

variable {p'' : PendingEvents T S}

theorem runnerEvents (h : Kept p p') : ∀ o ∈ p'.runnerEvents, o ∈ p.runnerEvents := by
  intro o ho
  obtain ⟨x', hx', rfl⟩ := mem_map.mp ho
  obtain ⟨x, hx, hevent, -⟩ := h.runner x' hx'
  exact mem_map.mpr ⟨x, hx, hevent⟩

theorem bounded (h : Kept p p') (hp : p.Bounded) : p'.Bounded := by
  rintro o (ho | ho | ⟨u, ho⟩)
  · exact Nat.lt_of_lt_of_le (hp o (Or.inl (h.queue o ho))) h.allocated
  · exact Nat.lt_of_lt_of_le (hp o (Or.inr (Or.inl (h.runnerEvents o ho)))) h.allocated
  · exact h.tasks u o ho

theorem trans (h : Kept p p') (h' : Kept p' p'') : Kept p p'' := by
  refine ⟨fun o ho => h.queue o (h'.queue o ho), fun x'' hx'' => ?_, h'.tasks,
    Nat.le_trans h.allocated h'.allocated, fun o ho => ?_⟩
  · obtain ⟨x', hx', hevent', hschedule'⟩ := h'.runner x'' hx''
    obtain ⟨x, hx, hevent, hschedule⟩ := h.runner x' hx'
    exact ⟨x, hx, hevent.trans hevent', fun date hdate => hschedule' date (hschedule date hdate)⟩
  · rcases h'.objects o (Nat.lt_of_lt_of_le ho h.allocated) with hnone | hsame
    · exact Or.inl hnone
    · rw [hsame]
      exact h.objects o ho

theorem of_lists (hqueue : ∀ o ∈ p'.queue, o ∈ p.queue)
    (hrunner : ∀ x ∈ p'.runner, x ∈ p.runner)
    (htasks : ∀ u, ∀ o ∈ (p'.threads u).task.events, o < p'.allocated)
    (hallocated : p'.allocated = p.allocated) (hobjects : p'.objects = p.objects) : Kept p p' :=
  ⟨hqueue, fun x hx => ⟨x, hrunner x hx, rfl, fun _ => id⟩, htasks, Nat.le_of_eq hallocated.symm,
    fun o _ => Or.inr (by rw [hobjects])⟩

end Kept

/-! ## Steps that put nothing anywhere -/

variable {task : PushTask S}

theorem Bounded.create (hp : p.Bounded) (e : Event) :
    Kept p { p with objects := Function.update p.objects p.allocated e
                    allocated := p.allocated + 1 } :=
  ⟨fun _ => id, fun x hx => ⟨x, hx, rfl, fun _ => id⟩,
    fun _ _ ho => Nat.lt_succ_of_lt (hp.task ho), Nat.le_succ _,
    fun o ho => Or.inr (by
      show (update p.objects p.allocated e o).time = _
      rw [update_of_ne (Nat.ne_of_lt ho)])⟩

theorem Bounded.takeSchedule (hp : p.Bounded) (o : ℕ) : Kept p (p.takeSchedule o) := by
  refine ⟨fun _ => id, fun x hx => ⟨x, hx, rfl, fun _ => id⟩, fun _ _ ho => hp.task ho,
    Nat.le_refl _, fun z _ => ?_⟩
  by_cases hz : z = o
  · rw [hz, objects_takeSchedule_self]
    exact Or.inl Event.time_withoutSchedule
  · rw [objects_takeSchedule_of_ne hz]
    exact Or.inr rfl

variable [DecidableEq T]

theorem Bounded.setTask (hp : p.Bounded) (t : T) (htask : ∀ o ∈ task.events, o < p.allocated) :
    Kept p (p.setTask t task) := by
  refine Kept.of_lists (fun _ => id) (fun _ => id) (fun u o ho => ?_) rfl rfl
  by_cases hu : u = t
  · rw [hu, threads_setTask_self] at ho
    exact htask o ho
  · rw [threads_setTask_of_ne hu] at ho
    exact hp.task ho

theorem Bounded.startPush (hp : p.Bounded) (rt : ScheduleRuntime S) (t : T) (now : ℤ)
    (ho : o < p.allocated) : Kept p (p.startPush rt t now o) := by
  obtain ⟨counter, task, hevents, heq⟩ := startPush_eq rt p t now o
  have hcounter : Bounded { p with scheduledEventCounter := counter } := hp
  have hkept : Kept p { p with scheduledEventCounter := counter } :=
    Kept.of_lists (fun _ => id) (fun _ => id) (fun _ _ ho => hp.task ho) rfl rfl
  rw [heq]
  refine hkept.trans (hcounter.setTask t fun z hz => ?_)
  rw [hevents] at hz
  rw [mem_singleton.mp hz]
  exact ho

theorem Bounded.setThread (hp : p.Bounded) {lockedBy : Option T} {thread : EventThread S}
    (hthread : thread.task = (p.threads t).task) :
    Kept p { p with lockedBy := lockedBy, threads := Function.update p.threads t thread } := by
  refine Kept.of_lists (fun _ => id) (fun _ => id) (fun u o ho => ?_) rfl rfl
  by_cases hu : u = t
  · rw [hu] at ho
    dsimp only at ho
    rw [update_self, hthread] at ho
    exact hp.task ho
  · dsimp only at ho
    rw [update_of_ne hu] at ho
    exact hp.task ho

theorem Bounded.advance (hp : p.Bounded) (t : T) (now : ℤ) {x : RunnerEntry S}
    {schedule : Schedule S} (hx : p.runner[i]? = some x)
    (hschedule : ∀ date, x.schedule = .static date → schedule = .static date) :
    Kept p (p.advance t now i x schedule) := by
  refine ⟨fun _ => id, fun x' hx' => ?_, fun u o ho => ?_, Nat.le_refl _, fun _ _ => Or.inr rfl⟩
  · rcases mem_or_eq_of_mem_set hx' with hmem | rfl
    · exact ⟨x', hmem, rfl, fun _ => id⟩
    · exact ⟨x, mem_of_getElem? hx, rfl, hschedule⟩
  · rw [task_advance] at ho
    exact hp.task ho

theorem schedule_of_static (rt : ScheduleRuntime S) (now : ℤ) {x : RunnerEntry S} {date : ℤ}
    (h : x.schedule = .static date) :
    (x.schedule.getNextOccurence rt now).2 = .static date := by
  rw [h]
  rfl

theorem Bounded.visit (hp : p.Bounded) :
    Kept p (p.visit rt t now i throws) := by
  rw [PendingEvents.visit]
  rcases hx : p.runner[i]? with - | x
  · exact hp.setThread rfl
  dsimp only
  by_cases hnone : (x.schedule.getNextOccurence rt now).1 = 0
  · rw [if_pos hnone]
    exact hp.advance t now hx fun _ => schedule_of_static rt now
  rw [if_neg hnone]
  cases throws with
  | true =>
    have hadvance := hp.advance t now hx fun _ => schedule_of_static rt now
    exact hadvance.trans ((hadvance.bounded hp).setThread rfl)
  | false =>
    by_cases hdue : DateTime.difference (x.schedule.getNextOccurence rt now).1 now ≤ 0
    · rw [if_pos hdue]
      have hstatic : ∀ date, x.schedule = .static date →
          (if (x.schedule.getNextOccurence rt now).2.hasRecurrence then
            ((x.schedule.getNextOccurence rt now).2.getNextOccurence rt (now + 1)).2.leapAdjust rt
              (now + 1)
          else (x.schedule.getNextOccurence rt now).2) = .static date := by
        intro date h
        rw [schedule_of_static rt now h]
        rfl
      have hadvance := hp.advance t now hx hstatic
      have htake := (hadvance.bounded hp).takeSchedule x.event
      have hmade : x.event < p.allocated :=
        hp _ (Or.inr (Or.inl (mem_map_of_mem (mem_of_getElem? hx))))
      exact (hadvance.trans htake).trans
        ((htake.bounded (hadvance.bounded hp)).startPush rt t now hmade)
    · rw [if_neg hdue]
      exact hp.advance t now hx fun _ => schedule_of_static rt now

/-! ## What a step does -/

theorem step_push (h : p.step rt (.push t now o) = some p') :
    (p.threads t).task = .idle ∧ o < p.allocated ∧ p' = p.startPush rt t now o := by
  rw [step] at h
  split at h
  case h_1 hidle _ =>
    split_ifs at h with ho
    exact ⟨hidle, ho, (some.inj h).symm⟩
  case h_2 => cases h

theorem step_add (h : p.step rt (.add t throws) = some p') :
    ∃ o schedule id, (p.threads t).task = .adding o schedule id ∧
      p' = p.addEvent t o schedule id throws := by
  rw [step] at h
  split at h
  case h_1 o schedule id htask =>
    split_ifs at h
    exact ⟨o, schedule, id, htask, (some.inj h).symm⟩
  case h_2 => cases h

theorem step_check (h : p.step rt (.check t) = some p') :
    ∃ o, (p.threads t).task = .checking o ∧ p' = p.checkQueue t o := by
  rw [step] at h
  split at h
  case h_1 o htask => exact ⟨o, htask, (some.inj h).symm⟩
  case h_2 => cases h

theorem step_insert (h : p.step rt (.insert t) = some p') :
    ∃ o, (p.threads t).task = .inserting o ∧ p' = p.insertQueue t o := by
  rw [step] at h
  split at h
  case h_1 o htask => exact ⟨o, htask, (some.inj h).symm⟩
  case h_2 => cases h

theorem step_remove {id : String} (h : p.step rt (.remove id) = some p') :
    p' = p.removeEventInternal id := by
  rw [step] at h
  split_ifs at h
  exact (some.inj h).symm

theorem step_raise (h : p.step rt (.raise t now) = some p') :
    (p.threads t).task = .idle ∧ p' = { p with
      lockedBy := some t
      threads := Function.update p.threads t { task := .idle, raising := some (now, 0) } } := by
  rw [step] at h
  split at h
  case h_1 hidle _ =>
    split_ifs at h
    exact ⟨hidle, (some.inj h).symm⟩
  case h_2 => cases h

theorem step_visit (h : p.step rt (.visit t throws) = some p') :
    ∃ now i, (p.threads t).task = .idle ∧ (p.threads t).raising = some (now, i) ∧
      p' = p.visit rt t now i throws := by
  rw [step] at h
  split at h
  case h_1 now i hidle hraising => exact ⟨now, i, hidle, hraising, (some.inj h).symm⟩
  case h_2 => cases h

def entering : PendingEvents.Action T → Bool
  | .add _ _ | .check _ | .insert _ => true
  | _ => false

theorem Bounded.step (hp : p.Bounded) {a : PendingEvents.Action T} (ha : entering a = false)
    (h : p.step rt a = some p') : Kept p p' := by
  cases a with
  | create e =>
    obtain rfl := some.inj h
    exact hp.create e
  | push t now o =>
    obtain ⟨-, ho, rfl⟩ := step_push h
    exact hp.startPush rt t now ho
  | add t throws => cases ha
  | check t => cases ha
  | insert t => cases ha
  | pop =>
    obtain rfl := some.inj h
    exact Kept.of_lists (fun _ => mem_of_mem_tail) (fun _ => id)
      (fun _ _ ho => hp.task ho) rfl rfl
  | remove id =>
    obtain rfl := step_remove h
    exact Kept.of_lists (fun _ ho => ho) (fun _ => mem_of_mem_eraseP)
      (fun _ _ ho => hp.task ho) rfl rfl
  | raise t now =>
    obtain ⟨hidle, rfl⟩ := step_raise h
    exact hp.setThread hidle.symm
  | visit t throws =>
    obtain ⟨now, i, -, -, rfl⟩ := step_visit h
    exact hp.visit

omit [DecidableEq T] in
theorem Bounded.of_pending (hp : p.Bounded) (hpending : ∀ o, p'.Pending o → p.Pending o)
    (hallocated : p'.allocated = p.allocated) : p'.Bounded := by
  intro o ho
  rw [hallocated]
  exact hp o (hpending o ho)

/-- What comes in was made before, too. -/
theorem Bounded.enter (hp : p.Bounded) {a : PendingEvents.Action T} (ha : entering a = true)
    (h : p.step rt a = some p') : p'.Bounded := by
  cases a with
  | add t throws =>
    obtain ⟨o, schedule, id, htask, rfl⟩ := step_add h
    rw [addEvent]
    rcases (if (p.objects o).isUnique then p.replacedInRunner o else none) with - | q
    · cases throws with
      | true => exact hp.of_pending (fun _ => pending_of_idle) rfl
      | false =>
        refine hp.of_pending (fun z hz => ?_) rfl
        rcases pending_of_idle hz with hz | hz | hz
        · exact Or.inl hz
        · rw [runnerEvents, map_append] at hz
          rcases mem_append.mp hz with hz | hz
          · exact Or.inr (Or.inl hz)
          · rw [mem_singleton.mp hz]
            exact pending_of_task (t := t) (by rw [htask]; rfl)
        · exact Or.inr (Or.inr hz)
    · exact hp.of_pending (fun _ => pending_of_idle) rfl
  | check t =>
    obtain ⟨o, htask, rfl⟩ := step_check h
    rw [checkQueue]
    rcases p.replacedInQueue o with - | q
    · refine ((hp.setTask t fun z hz => ?_).bounded hp)
      exact hp.task (u := t) (by rw [htask]; exact hz)
    · exact hp.of_pending (fun _ => pending_of_idle) rfl
  | insert t =>
    obtain ⟨o, htask, rfl⟩ := step_insert h
    refine hp.of_pending (fun z hz => ?_) rfl
    rcases pending_of_idle hz with hz | hz | hz
    · rcases mem_append.mp hz with hz | hz
      · exact Or.inl hz
      · rw [mem_singleton.mp hz]
        exact pending_of_task (t := t) (by rw [htask]; rfl)
    · exact Or.inr (Or.inl hz)
    · exact Or.inr (Or.inr hz)
  | create e => cases ha
  | push t now o => cases ha
  | pop => cases ha
  | remove id => cases ha
  | raise t now => cases ha
  | visit t throws => cases ha

theorem Bounded.run (hp : p.Bounded) {a : PendingEvents.Action T} (h : p.step rt a = some p') :
    p'.Bounded := by
  rcases ha : entering a with - | -
  · exact (hp.step ha h).bounded hp
  · exact hp.enter ha h

end PendingEvents

namespace TimedEvents

open PendingEvents

variable {T S : Type} {rt : ScheduleRuntime S} {w w' : TimedEvents T S} {t : T} {now : ℤ}
  {o q i : ℕ}

/-! ## What keeps events in their place -/

theorem due_of_time_eq_none (h : (w.pending.objects o).time = none) : w.due rt o = none := by
  rw [due, timing, Event.timing_of_none h]
  rfl

theorem Placed.atOnce (h : Placed rt w) (ho : o ∈ w.pending.queue)
    (htime : (w.pending.objects o).time ≠ none) : w.timing rt o = .atOnce := by
  have hcases := Timing.unset_or_atOnce (h.rejected o (Or.inl ho))
    (Timing.due_of_due_eq_none (h.runner_only o ho))
  exact hcases.resolve_left (Event.timing_ne_unset htime)

theorem due_of_atOnce (h : w.timing rt o = .atOnce) : w.due rt o = none := by
  rw [due, h]
  rfl

theorem not_invalid_of_due {date : ℤ} (h : w.due rt o = some date) :
    w.timing rt o ≠ .invalid := by
  intro hinvalid
  rw [due, hinvalid] at h
  cases h

theorem Placed.of_kept (h : Placed rt w) (hp : w.pending.Bounded)
    (hkept : Kept w.pending w'.pending) (hlost : w'.lost = w.lost)
    (hdue : ∀ o, o ∈ w.pending.queue ∨ o ∈ w.pending.runnerEvents →
      (w.pending.objects o).time ≠ none →
      (w.timing rt o).due (w'.timedAt o) = w.due rt o) : Placed rt w' := by
  have htimes : ∀ o, o ∈ w.pending.queue ∨ o ∈ w.pending.runnerEvents →
      (w'.pending.objects o).time = none ∨
        w'.timing rt o = w.timing rt o ∧ w'.due rt o = w.due rt o ∧
          (w.pending.objects o).time ≠ none := by
    intro o ho
    rcases htime : (w'.pending.objects o).time with - | text
    · exact Or.inl rfl
    · have hmade : o < w.pending.allocated := hp o (ho.imp id Or.inl)
      obtain hnone | hsame := hkept.objects o hmade
      · rw [htime] at hnone
        cases hnone
      · have hset : (w.pending.objects o).time ≠ none := by
          rw [← hsame, htime]
          exact some_ne_none text
        have htiming : w'.timing rt o = w.timing rt o := Event.timing_congr hsame
        refine Or.inr ⟨htiming, ?_, hset⟩
        rw [due, htiming]
        exact hdue o ho hset
  refine ⟨fun o ho => ?_, fun o ho => ?_, hlost.trans h.entered, fun x' hx' htime => ?_⟩
  · have ho' : o ∈ w.pending.queue ∨ o ∈ w.pending.runnerEvents :=
      ho.imp (hkept.queue o) (hkept.runnerEvents o)
    obtain hnone | ⟨htiming, -, -⟩ := htimes o ho'
    · rw [timing, Event.timing_of_none hnone]
      exact Timing.noConfusion
    · rw [htiming]
      exact h.rejected o ho'
  · obtain hnone | ⟨-, hsame, -⟩ := htimes o (Or.inl (hkept.queue o ho))
    · exact due_of_time_eq_none hnone
    · rw [hsame]
      exact h.runner_only o (hkept.queue o ho)
  · obtain ⟨x, hx, hevent, hschedule⟩ := hkept.runner x' hx'
    have hmem : x.event ∈ w.pending.runnerEvents := mem_map_of_mem hx
    rw [← hevent] at htime ⊢
    obtain hnone | ⟨-, hsame, hset⟩ := htimes x.event (Or.inr hmem)
    · exact absurd hnone htime
    · obtain ⟨date, hdate, hstatic⟩ := h.scheduled x hx hset
      exact ⟨date, hsame.trans hdate, hschedule date hstatic⟩

theorem placed_push_iff (h : Placed rt w) (hqueue : w'.pending.queue = w.pending.queue)
    (hrunner : w'.pending.runner = w.pending.runner)
    (hobjects : w'.pending.objects = w.pending.objects) (hlost : w'.lost = w.lost)
    (htimedAt : w'.timedAt = Function.update w.timedAt o now) :
    Placed rt w' ↔ w.PushFits rt now o := by
  have htiming : ∀ z, w'.timing rt z = w.timing rt z := fun z => by rw [timing, hobjects, timing]
  have hself : w'.due rt o = (w.timing rt o).due now := by
    rw [due, htiming, htimedAt, update_self]
  have hother : ∀ z, z ≠ o → w'.due rt z = w.due rt z := fun z hz => by
    rw [due, htiming, htimedAt, update_of_ne hz, due]
  constructor
  · intro h' date hdate x hx hevent
    have hset : (w'.pending.objects x.event).time ≠ none := by
      intro hnone
      rw [hevent] at hnone
      rw [← hself, due_of_time_eq_none hnone] at hdate
      cases hdate
    obtain ⟨date', hdate', hstatic⟩ := h'.scheduled x (by rw [hrunner]; exact hx) hset
    rw [hevent, hself, hdate] at hdate'
    rw [some.inj hdate']
    exact hstatic
  · intro hfits
    refine ⟨fun z hz => ?_, fun z hz => ?_, hlost.trans h.entered, fun x hx hset => ?_⟩
    · rw [htiming]
      refine h.rejected z ?_
      rwa [hqueue, runnerEvents, hrunner] at hz
    · rw [hqueue] at hz
      rw [due, htiming]
      exact Timing.due_of_due_eq_none (h.runner_only z hz) _
    · rw [hrunner] at hx
      rw [hobjects] at hset
      obtain ⟨date, hdate, hstatic⟩ := h.scheduled x hx hset
      by_cases hevent : x.event = o
      · rcases hnow : (w.timing rt o).due now with - | date'
        · have hnone := Timing.due_of_due_eq_none hnow (w.timedAt o)
          rw [hevent, due, hnone] at hdate
          cases hdate
        · exact ⟨date', by rw [hevent, hself, hnow], hfits date' hnow x hx hevent⟩
      · exact ⟨date, (hother _ hevent).trans hdate, hstatic⟩

theorem Placed.congr (h : Placed rt w) (hqueue : w'.pending.queue = w.pending.queue)
    (hrunner : w'.pending.runner = w.pending.runner) (hlost : w'.lost = w.lost)
    (hsame : ∀ z, (w'.pending.objects z).time = (w.pending.objects z).time ∧
      w'.timing rt z = w.timing rt z ∧ w'.due rt z = w.due rt z) : Placed rt w' := by
  refine ⟨fun z hz => ?_, fun z hz => ?_, hlost.trans h.entered, fun x hx hset => ?_⟩
  · rw [(hsame z).2.1]
    refine h.rejected z ?_
    rwa [hqueue, runnerEvents, hrunner] at hz
  · rw [(hsame z).2.2]
    exact h.runner_only z (by rwa [hqueue] at hz)
  · rw [(hsame x.event).1] at hset
    rw [(hsame x.event).2.2]
    exact h.scheduled x (by rwa [hrunner] at hx) hset

theorem placed_retime_iff (h : Placed rt w) (hqueue : w'.pending.queue = w.pending.queue)
    (hrunner : w'.pending.runner = w.pending.runner) (hlost : w'.lost = w.lost)
    (hset : (w.pending.objects o).time ≠ none)
    (hq : (w'.pending.objects q).time = (w.pending.objects o).time)
    (hdue : w'.due rt q = w.due rt o)
    (hother : ∀ z, z ≠ q → (w'.pending.objects z).time = (w.pending.objects z).time ∧
      w'.timing rt z = w.timing rt z ∧ w'.due rt z = w.due rt z) :
    Placed rt w' ↔ (q ∈ w.pending.queue → w.timing rt o = .atOnce) ∧
      ∀ x ∈ w.pending.runner, x.event = q →
        ∃ date, w.due rt o = some date ∧ x.schedule = .static date := by
  have htiming : w'.timing rt q = w.timing rt o := Event.timing_congr hq
  constructor
  · refine fun h' => ⟨fun hmem => ?_, fun x hx hevent => ?_⟩
    · rw [← htiming]
      exact h'.atOnce (by rw [hqueue]; exact hmem) (by rw [hq]; exact hset)
    · rw [← hdue, ← hevent]
      exact h'.scheduled x (by rw [hrunner]; exact hx) (by rw [hevent, hq]; exact hset)
  · rintro ⟨hatOnce, hagrees⟩
    refine ⟨fun z hz => ?_, fun z hz => ?_, hlost.trans h.entered, fun x hx hsetx => ?_⟩
    · rw [hqueue, runnerEvents, hrunner] at hz
      by_cases hzq : z = q
      · rw [hzq, htiming]
        rw [hzq] at hz
        rcases hz with hz | hz
        · rw [hatOnce hz]
          exact Timing.noConfusion
        · obtain ⟨x, hx, hevent⟩ := mem_map.mp hz
          obtain ⟨date, hdate, -⟩ := hagrees x hx hevent
          exact not_invalid_of_due hdate
      · rw [(hother z hzq).2.1]
        exact h.rejected z hz
    · rw [hqueue] at hz
      by_cases hzq : z = q
      · rw [hzq, hdue]
        rw [hzq] at hz
        exact due_of_atOnce (hatOnce hz)
      · rw [(hother z hzq).2.2]
        exact h.runner_only z hz
    · rw [hrunner] at hx
      by_cases hevent : x.event = q
      · rw [hevent, hdue]
        exact hagrees x hx hevent
      · obtain ⟨hsame, -, hdue'⟩ := hother _ hevent
        rw [hsame] at hsetx
        rw [hdue']
        exact h.scheduled x hx hsetx

theorem placed_merge_iff (h : Placed rt w) (hqueue : w'.pending.queue = w.pending.queue)
    (hrunner : w'.pending.runner = w.pending.runner)
    (hobjects : w'.pending.objects = (w.pending.merge o q).objects) (hlost : w'.lost = w.lost)
    (htimedAt : w'.timedAt = if (w.pending.objects o).time.isSome then
      Function.update w.timedAt q (w.timedAt o) else w.timedAt) :
    Placed rt w' ↔ ((w.pending.objects o).time ≠ none →
      (q ∈ w.pending.queue → w.timing rt o = .atOnce) ∧
      ∀ x ∈ w.pending.runner, x.event = q →
        ∃ date, w.due rt o = some date ∧ x.schedule = .static date) := by
  have hother : ∀ z, z ≠ q → (w'.pending.objects z).time = (w.pending.objects z).time ∧
      w'.timing rt z = w.timing rt z ∧ w'.due rt z = w.due rt z := by
    intro z hz
    have htime : (w'.pending.objects z).time = (w.pending.objects z).time := by
      rw [hobjects, objects_merge fun hzq => absurd hzq hz]
    have htiming : w'.timing rt z = w.timing rt z := Event.timing_congr htime
    refine ⟨htime, htiming, ?_⟩
    rw [due, htiming, htimedAt, due]
    split_ifs
    · rw [update_of_ne hz]
    · rfl
  rcases htime : (w.pending.objects o).time with - | text
  · -- the event that is replaced keeps its time
    refine iff_of_true (h.congr hqueue hrunner hlost fun z => ?_) fun hnot => absurd rfl hnot
    by_cases hz : z = q
    · have hq : (w'.pending.objects q).time = (w.pending.objects q).time := by
        rw [hobjects, objects_merge_self, Event.time_mergeInto_of_none htime]
      have htiming : w'.timing rt q = w.timing rt q := Event.timing_congr hq
      rw [hz]
      refine ⟨hq, htiming, ?_⟩
      rw [due, htiming, htimedAt, htime]
      rfl
    · exact hother z hz
  · -- it gets the time of the other one
    have hset : (w.pending.objects o).time ≠ none := by
      rw [htime]
      exact some_ne_none text
    have hq : (w'.pending.objects q).time = (w.pending.objects o).time := by
      rw [hobjects, objects_merge_self, Event.time_mergeInto hset]
    have hdue : w'.due rt q = w.due rt o := by
      have htiming : w'.timing rt q = w.timing rt o := Event.timing_congr hq
      rw [due, htiming, htimedAt, htime, if_pos isSome_some, update_self, due]
    rw [imp_iff_right (some_ne_none text)]
    exact placed_retime_iff h hqueue hrunner hlost hset hq hdue hother

theorem due_eq (hobjects : w'.pending.objects = w.pending.objects)
    (htimedAt : w'.timedAt = w.timedAt) : ∀ z, w'.due rt z = w.due rt z := fun z => by
  rw [due, timing, hobjects, htimedAt, due, timing]

theorem placed_append_iff {entry : RunnerEntry S} (h : Placed rt w)
    (hqueue : w'.pending.queue = w.pending.queue)
    (hrunner : w'.pending.runner = w.pending.runner ++ [entry])
    (hobjects : w'.pending.objects = w.pending.objects) (hlost : w'.lost = w.lost)
    (htimedAt : w'.timedAt = w.timedAt) :
    Placed rt w' ↔ ((w.pending.objects entry.event).time ≠ none →
      ∃ date, w.due rt entry.event = some date ∧ entry.schedule = .static date) := by
  have htiming : ∀ z, w'.timing rt z = w.timing rt z := fun z => by rw [timing, hobjects, timing]
  have hdue : ∀ z, w'.due rt z = w.due rt z := due_eq hobjects htimedAt
  constructor
  · intro h' hset
    rw [← hdue]
    refine h'.scheduled entry ?_ (by rw [hobjects]; exact hset)
    rw [hrunner]
    exact mem_append_right _ (mem_singleton_self entry)
  · intro hcond
    refine ⟨fun z hz => ?_, fun z hz => ?_, hlost.trans h.entered, fun x hx hset => ?_⟩
    · rw [htiming]
      rw [hqueue, runnerEvents, hrunner, map_append] at hz
      rcases hz with hz | hz
      · exact h.rejected z (Or.inl hz)
      rcases mem_append.mp hz with hz | hz
      · exact h.rejected z (Or.inr hz)
      · rw [mem_singleton.mp hz]
        by_cases htime : (w.pending.objects entry.event).time = none
        · rw [timing, Event.timing_of_none htime]
          exact Timing.noConfusion
        · obtain ⟨date, hdate, -⟩ := hcond htime
          exact not_invalid_of_due hdate
    · rw [hdue]
      exact h.runner_only z (by rwa [hqueue] at hz)
    · rw [hdue]
      rw [hobjects] at hset
      rw [hrunner] at hx
      rcases mem_append.mp hx with hx | hx
      · exact h.scheduled x hx hset
      · obtain rfl := mem_singleton.mp hx
        exact hcond hset

theorem placed_insert_iff (h : Placed rt w) (hqueue : w'.pending.queue = w.pending.queue ++ [o])
    (hrunner : w'.pending.runner = w.pending.runner)
    (hobjects : w'.pending.objects = w.pending.objects) (hlost : w'.lost = w.lost)
    (htimedAt : w'.timedAt = w.timedAt) :
    Placed rt w' ↔ ((w.pending.objects o).time ≠ none → w.timing rt o = .atOnce) := by
  have htiming : ∀ z, w'.timing rt z = w.timing rt z := fun z => by rw [timing, hobjects, timing]
  have hdue : ∀ z, w'.due rt z = w.due rt z := due_eq hobjects htimedAt
  constructor
  · intro h' hset
    rw [← htiming]
    refine h'.atOnce ?_ (by rw [hobjects]; exact hset)
    rw [hqueue]
    exact mem_append_right _ (mem_singleton_self o)
  · intro hcond
    have hself : w.timing rt o ≠ .invalid ∧ w.due rt o = none := by
      by_cases htime : (w.pending.objects o).time = none
      · refine ⟨?_, due_of_time_eq_none htime⟩
        rw [timing, Event.timing_of_none htime]
        exact Timing.noConfusion
      · refine ⟨?_, due_of_atOnce (hcond htime)⟩
        rw [hcond htime]
        exact Timing.noConfusion
    refine ⟨fun z hz => ?_, fun z hz => ?_, hlost.trans h.entered, fun x hx hset => ?_⟩
    · rw [htiming]
      rw [hqueue, runnerEvents, hrunner, mem_append, mem_singleton] at hz
      rcases hz with (hz | rfl) | hz
      · exact h.rejected z (Or.inl hz)
      · exact hself.1
      · exact h.rejected z (Or.inr hz)
    · rw [hdue]
      rw [hqueue, mem_append, mem_singleton] at hz
      rcases hz with hz | rfl
      · exact h.runner_only z hz
      · exact hself.2
    · rw [hdue]
      rw [hobjects] at hset
      exact h.scheduled x (by rwa [hrunner] at hx) hset

/-! ## Runs -/

section runs

variable [DecidableEq T] {a : Action T}

theorem placed_startPush_iff {lost untimely : List ℕ} (h : Placed rt w) (hlost : lost = w.lost) :
    Placed rt ⟨w.pending.startPush rt t now o, Function.update w.timedAt o now, lost, untimely⟩ ↔
      w.PushFits rt now o := by
  obtain ⟨counter, task, -, heq⟩ := startPush_eq rt w.pending t now o
  have hqueue : (w.pending.startPush rt t now o).queue = w.pending.queue := by
    rw [heq]
    rfl
  have hrunner : (w.pending.startPush rt t now o).runner = w.pending.runner := by
    rw [heq]
    rfl
  have hobjects : (w.pending.startPush rt t now o).objects = w.pending.objects := by
    rw [heq]
    rfl
  exact placed_push_iff h hqueue hrunner hobjects hlost rfl

omit [DecidableEq T] in
theorem merge_fits_iff (hq : q ∈ w.pending.runnerEvents) :
    ((q ∈ w.pending.queue → w.timing rt o = .atOnce) ∧
      ∀ x ∈ w.pending.runner, x.event = q →
        ∃ date, w.due rt o = some date ∧ x.schedule = .static date) ↔
    q ∉ w.pending.queue ∧ ∃ date, w.due rt o = some date ∧ w.Agrees q date := by
  obtain ⟨y, hy, hyq⟩ := List.mem_map.mp hq
  constructor
  · rintro ⟨hatOnce, hagrees⟩
    obtain ⟨date, hdate, -⟩ := hagrees y hy hyq
    refine ⟨fun hmem => ?_, date, hdate, fun x hx hevent => ?_⟩
    · rw [due_of_atOnce (hatOnce hmem)] at hdate
      cases hdate
    · obtain ⟨date', hdate', hstatic⟩ := hagrees x hx hevent
      rw [hdate] at hdate'
      rw [Option.some.inj hdate']
      exact hstatic
  · rintro ⟨hnot, date, hdate, hagrees⟩
    exact ⟨fun hmem => absurd hmem hnot, fun x hx hevent => ⟨date, hdate, hagrees x hx hevent⟩⟩

omit [DecidableEq T] in
theorem mem_of_replacedBy (h : replacedBy w.pending o = some q) : q ∈ w.pending.runnerEvents := by
  rw [replacedBy] at h
  split_ifs at h
  exact List.mem_of_find?_eq_some h

theorem placed_add_iff {throws : Bool} {schedule : Schedule S} {id : String}
    {untimely : List ℕ} (h : Placed rt w)
    (htask : (w.pending.threads t).task = .adding o schedule id) :
    Placed rt ⟨w.pending.addEvent t o schedule id throws, w.timedAtBehind (.add t throws),
        w.lostBehind (.add t throws), untimely⟩ ↔
      ((w.pending.objects o).time ≠ none → w.AddFits rt o schedule throws) := by
  have hadding : adding w.pending t = some (o, schedule) := by rw [adding, htask]
  rcases hreplaced : replacedBy w.pending o with - | q
  · have hadd : w.pending.addEvent t o schedule id throws =
        if throws then w.pending.setTask t .idle
        else setTask { w.pending.recordRunner o with
          runner := w.pending.runner ++ [{ id := id, event := o, schedule := schedule }] } t
            .idle := by
      rw [PendingEvents.addEvent, show (if (w.pending.objects o).isUnique then
        w.pending.replacedInRunner o else none) = none from hreplaced]
    have htimedAt : w.timedAtBehind (.add t throws) = w.timedAt := by
      simp only [timedAtBehind, replacing, hadding, bind_some, hreplaced, map_none]
    rw [hadd, htimedAt, AddFits, hreplaced]
    cases throws with
    | true =>
      have hlost : w.lostBehind (.add t true) =
          if (w.pending.objects o).time.isSome then w.lost ++ [o] else w.lost := by
        simp only [lostBehind, hadding, hreplaced, and_true]
      rw [hlost]
      rcases htime : (w.pending.objects o).time with - | text
      · refine iff_of_true ?_ fun hnot => absurd rfl hnot
        exact ⟨h.rejected, h.runner_only, h.entered, h.scheduled⟩
      · refine iff_of_false (fun h' => ?_) fun hfits => ?_
        · exact append_ne_nil_of_right_ne_nil w.lost (cons_ne_nil o []) h'.entered
        · cases (hfits (some_ne_none text)).1
    | false =>
      refine Iff.trans (placed_append_iff h rfl rfl rfl rfl rfl) (imp_congr_right fun hset => ?_)
      constructor
      · rintro ⟨date, hdate, hstatic⟩
        refine ⟨rfl, fun hmem => ?_, date, hdate, hstatic⟩
        have hnone := h.runner_only o hmem
        rw [show w.due rt o = some date from hdate] at hnone
        cases hnone
      · rintro ⟨-, -, hdate⟩
        exact hdate
  · have hadd : w.pending.addEvent t o schedule id throws =
        ((w.pending.recordRunner o).merge o q).setTask t .idle := by
      rw [PendingEvents.addEvent, show (if (w.pending.objects o).isUnique then
        w.pending.replacedInRunner o else none) = some q from hreplaced]
    have htimedAt : w.timedAtBehind (.add t throws) = if (w.pending.objects o).time.isSome then
        update w.timedAt q (w.timedAt o) else w.timedAt := by
      simp only [timedAtBehind, replacing, hadding, bind_some, hreplaced, map_some]
    have hlost : w.lostBehind (.add t throws) = w.lost := by
      cases throws with
      | true => simp [lostBehind, hadding, hreplaced]
      | false => rfl
    rw [hadd, htimedAt, hlost, AddFits, hreplaced]
    dsimp only
    rw [← merge_fits_iff (mem_of_replacedBy hreplaced)]
    exact placed_merge_iff h rfl rfl rfl rfl rfl

theorem placed_check_iff {untimely : List ℕ} (h : Placed rt w)
    (htask : (w.pending.threads t).task = .checking o) :
    Placed rt ⟨w.pending.checkQueue t o, w.timedAtBehind (.check t), w.lostBehind (.check t),
        untimely⟩ ↔
      ((w.pending.objects o).time ≠ none → ∀ q, w.pending.replacedInQueue o = some q →
        w.timing rt o = .atOnce ∧ q ∉ w.pending.runnerEvents) := by
  have hchecking : checking w.pending t = some o := by rw [checking, htask]
  rw [PendingEvents.checkQueue]
  rcases hreplaced : w.pending.replacedInQueue o with - | q
  · have htimedAt : w.timedAtBehind (.check t) = w.timedAt := by
      simp only [timedAtBehind, replacing, hchecking, bind_some, hreplaced, map_none]
    rw [htimedAt]
    refine iff_of_true ?_ fun _ q hq => ?_
    · exact ⟨h.rejected, h.runner_only, h.entered, h.scheduled⟩
    · cases hq
  · have htimedAt : w.timedAtBehind (.check t) = if (w.pending.objects o).time.isSome then
        update w.timedAt q (w.timedAt o) else w.timedAt := by
      simp only [timedAtBehind, replacing, hchecking, bind_some, hreplaced, map_some]
    have hmem : q ∈ w.pending.queue := mem_of_find?_eq_some hreplaced
    rw [htimedAt]
    refine Iff.trans (placed_merge_iff h rfl rfl rfl rfl rfl) (imp_congr_right fun hset => ?_)
    constructor
    · rintro ⟨hatOnce, hagrees⟩ z hz
      obtain rfl := some.inj hz
      refine ⟨hatOnce hmem, fun hrunner => ?_⟩
      obtain ⟨x, hx, hevent⟩ := mem_map.mp hrunner
      obtain ⟨date, hdate, -⟩ := hagrees x hx hevent
      rw [due_of_atOnce (hatOnce hmem)] at hdate
      cases hdate
    · intro hfits
      obtain ⟨hatOnce, hnot⟩ := hfits q rfl
      refine ⟨fun _ => hatOnce, fun x hx hevent => absurd (mem_map.mpr ⟨x, hx, hevent⟩) hnot⟩

theorem placed_insertQueue_iff {untimely : List ℕ} (h : Placed rt w) :
    Placed rt ⟨w.pending.insertQueue t o, w.timedAtBehind (.insert t), w.lostBehind (.insert t),
        untimely⟩ ↔
      ((w.pending.objects o).time ≠ none → w.timing rt o = .atOnce) :=
  placed_insert_iff h rfl rfl rfl rfl rfl

omit [DecidableEq T] in
theorem timedAtBehind_of_not_entering {a : PendingEvents.Action T} (ha : entering a = false)
    (hpush : ∀ t now o, a ≠ .push t now o) : w.timedAtBehind a = w.timedAt := by
  cases a with
  | push t now o => exact absurd rfl (hpush t now o)
  | add t throws => cases ha
  | check t => cases ha
  | insert t => rfl
  | create e => rfl
  | pop => rfl
  | remove id => rfl
  | raise t now => rfl
  | visit t throws => rfl

omit [DecidableEq T] in
theorem lostBehind_of_not_entering {a : PendingEvents.Action T} (ha : entering a = false) :
    w.lostBehind a = w.lost := by
  cases a with
  | add t throws => cases ha
  | check t => rfl
  | insert t => rfl
  | push t now o => rfl
  | create e => rfl
  | pop => rfl
  | remove id => rfl
  | raise t now => rfl
  | visit t throws => rfl

theorem placed_step_iff (h : Placed rt w) (hp : w.pending.Bounded) (hstep : w.step rt a = some w') :
    Placed rt w' ↔ w.PlaceFits rt a := by
  cases a with
  | pushTimed t now o =>
    rw [step] at hstep
    split_ifs at hstep with hsome
    obtain ⟨p, hp', rfl⟩ := map_eq_some_iff.mp hstep
    obtain ⟨-, -, rfl⟩ := step_push hp'
    exact placed_startPush_iff h rfl
  | step a =>
    obtain ⟨p, hp', rfl⟩ := map_eq_some_iff.mp hstep
    rcases hentering : entering a with - | -
    · by_cases hpush : ∀ t now o, a ≠ .push t now o
      · refine iff_of_true (h.of_kept hp (hp.step hentering hp')
          (lostBehind_of_not_entering hentering) fun o _ _ => ?_) ?_
        · rw [timedAtBehind_of_not_entering hentering hpush]
          rfl
        · cases a with
          | push t now o => exact absurd rfl (hpush t now o)
          | add t throws => cases hentering
          | check t => cases hentering
          | insert t => cases hentering
          | create e => exact trivial
          | pop => exact trivial
          | remove id => exact trivial
          | raise t now => exact trivial
          | visit t throws => exact trivial
      · obtain ⟨t, hpush⟩ := not_forall.mp hpush
        obtain ⟨now, hpush⟩ := not_forall.mp hpush
        obtain ⟨o, hpush⟩ := not_forall.mp hpush
        obtain rfl := not_not.mp hpush
        obtain ⟨-, -, rfl⟩ := step_push hp'
        exact placed_startPush_iff h rfl
    · cases a with
      | add t throws =>
        obtain ⟨o, schedule, id, htask, rfl⟩ := step_add hp'
        have hadding : adding w.pending t = some (o, schedule) := by rw [adding, htask]
        refine (placed_add_iff h htask).trans ⟨fun hfits z s hz => ?_, fun hfits => ?_⟩
        · rw [hadding] at hz
          obtain ⟨rfl, rfl⟩ := Prod.mk.inj (some.inj hz)
          exact hfits
        · exact hfits o schedule hadding
      | check t =>
        obtain ⟨o, htask, rfl⟩ := step_check hp'
        have hchecking : checking w.pending t = some o := by rw [checking, htask]
        refine (placed_check_iff h htask).trans ⟨fun hfits z q hz => ?_, fun hfits hset q => ?_⟩
        · rw [hchecking] at hz
          obtain rfl := some.inj hz
          exact fun hset => hfits hset q
        · exact hfits o q hchecking hset
      | insert t =>
        obtain ⟨o, htask, rfl⟩ := step_insert hp'
        have hinserting : inserting w.pending t = some o := by rw [inserting, htask]
        refine (placed_insertQueue_iff h).trans ⟨fun hfits z hz => ?_, fun hfits => ?_⟩
        · rw [hinserting] at hz
          obtain rfl := some.inj hz
          exact hfits
        · exact hfits o hinserting
      | push t now o => cases hentering
      | create e => cases hentering
      | pop => cases hentering
      | remove id => cases hentering
      | raise t now => cases hentering
      | visit t throws => cases hentering

theorem events_startPush (p : PendingEvents T S) :
    ((p.startPush rt t now o).threads t).task.events = [o] := by
  obtain ⟨counter, task, hevents, heq⟩ := startPush_eq rt p t now o
  rw [heq, threads_setTask_self]
  exact hevents

theorem task_release {p : PendingEvents T S} :
    ((p.release t).threads t).task = (p.threads t).task := by
  rw [release]
  dsimp only
  rw [update_self]

/-- What a turn of the loop raises of an entry for a second. -/
theorem mem_events_visit_iff {p : PendingEvents T S} {x : RunnerEntry S} {date : ℤ}
    (hx : p.runner[i]? = some x) (hidle : (p.threads t).task = .idle)
    (hschedule : x.schedule = .static date) :
    x.event ∈ ((p.visit rt t now i throws).threads t).task.events ↔
      throws = false ∧ (if DateTime.difference now date ≤ 0 then date else now) ≠ 0 ∧
        (date ≤ now ∨ 2 ^ 31 ≤ date - now) := by
  have hnot {schedule : Schedule S} :
      x.event ∉ ((p.advance t now i x schedule).threads t).task.events := by
    rw [task_advance, hidle]
    exact not_mem_nil
  have hnext : x.schedule.getNextOccurence rt now =
      (if DateTime.difference now date ≤ 0 then date else now, .static date) := by
    rw [hschedule]
    rfl
  rw [visit, hx]
  dsimp only
  rw [hnext]
  by_cases hzero : (if DateTime.difference now date ≤ 0 then date else now) = 0
  · rw [if_pos hzero]
    exact iff_of_false hnot fun h => h.2.1 hzero
  rw [if_neg hzero]
  cases throws with
  | true =>
    refine iff_of_false ?_ fun h => Bool.noConfusion h.1
    rw [if_pos rfl, task_release]
    exact hnot
  | false =>
    rw [if_neg Bool.false_ne_true]
    have hdue :
        DateTime.difference (if DateTime.difference now date ≤ 0 then date else now) now ≤ 0 ↔
        date ≤ now ∨ 2 ^ 31 ≤ date - now := by
      have hahead := @DateTime.difference_nonpos_iff now date
      rw [DateTime.difference_nonpos_iff]
      split_ifs
      · exact Iff.rfl
      · omega
    by_cases hle : date ≤ now ∨ 2 ^ 31 ≤ date - now
    · rw [if_pos (hdue.mpr hle), events_startPush]
      exact iff_of_true (mem_singleton_self _) ⟨rfl, hzero, hle⟩
    · rw [if_neg fun h => hle (hdue.mp h)]
      exact iff_of_false hnot fun h => hle h.2.2

theorem turnFits_iff {date : ℤ} :
    ((throws = false ∧ (if DateTime.difference now date ≤ 0 then date else now) ≠ 0 ∧
      (date ≤ now ∨ 2 ^ 31 ≤ date - now)) ↔ date ≤ now) ↔ TurnFits now date throws := by
  have hahead := @DateTime.difference_nonpos_iff now date
  rw [TurnFits]
  cases throws with
  | false =>
    simp only [true_and, Bool.false_eq_true, false_or]
    split_ifs
    · omega
    · omega
    · omega
    · omega
  | true => simp

/-- A turn of the loop is timely if it fits. -/
theorem untimely_visit_iff (h : Placed rt w) {p : PendingEvents T S}
    (hp : w.pending.step rt (.visit t throws) = some p) :
    w.untimelyBehind rt p (.visit t throws) = w.untimely ↔
      w.Timely rt (.step (.visit t throws)) := by
  rw [untimelyBehind, Timely]
  rcases hturn : w.turn rt t with - | ⟨now', o', second⟩
  · exact iff_of_true rfl nofun
  obtain ⟨⟨now, i⟩, hraising, hturn⟩ := bind_eq_some_iff.mp hturn
  obtain ⟨x, hx, hturn⟩ := bind_eq_some_iff.mp hturn
  obtain ⟨date, hdue, heq⟩ := map_eq_some_iff.mp hturn
  obtain ⟨rfl, rfl, rfl⟩ : now = now' ∧ x.event = o' ∧ date = second := by
    simpa using heq
  have hset : (w.pending.objects x.event).time ≠ none := by
    intro hnone
    rw [due_of_time_eq_none hnone] at hdue
    cases hdue
  obtain ⟨date', hdate', hschedule⟩ := h.scheduled x (mem_of_getElem? hx) hset
  rw [hdue] at hdate'
  rw [← some.inj hdate'] at hschedule
  obtain ⟨now', i', hidle, hraising', rfl⟩ := step_visit hp
  obtain ⟨rfl, rfl⟩ := Prod.mk.inj (some.inj (hraising.symm.trans hraising'))
  have hfits : (∀ now' o date', some (now, x.event, date) = some (now', o, date') →
      TurnFits now' date' throws) ↔ TurnFits now date throws := by
    simp
  dsimp only
  rw [hfits, ← turnFits_iff, ← mem_events_visit_iff hx hidle hschedule]
  split_ifs with hraised
  · exact iff_of_true rfl hraised
  · exact iff_of_false (by simp) hraised

/-- What runs go through: the law, and events were made. -/
structure Inv (rt : ScheduleRuntime S) (w : TimedEvents T S) : Prop where
  law : Law rt w
  bounded : w.pending.Bounded

theorem bounded_step (hp : w.pending.Bounded) (hstep : w.step rt a = some w') :
    w'.pending.Bounded := by
  cases a with
  | step a =>
    obtain ⟨p, hp', rfl⟩ := map_eq_some_iff.mp hstep
    exact hp.run hp'
  | pushTimed t now o =>
    rw [step] at hstep
    split_ifs at hstep
    obtain ⟨p, hp', rfl⟩ := map_eq_some_iff.mp hstep
    exact hp.run hp'

/-- Only a turn of the loop can be untimely. -/
theorem untimely_step_iff (h : Placed rt w) (hstep : w.step rt a = some w') :
    w'.untimely = w.untimely ↔ w.Timely rt a := by
  cases a with
  | pushTimed t now o =>
    rw [step] at hstep
    split_ifs at hstep
    obtain ⟨p, -, rfl⟩ := map_eq_some_iff.mp hstep
    exact iff_of_true rfl trivial
  | step a =>
    obtain ⟨p, hp, rfl⟩ := map_eq_some_iff.mp hstep
    cases a with
    | visit t throws => exact untimely_visit_iff h hp
    | _ => exact iff_of_true rfl trivial

/-- **One action** keeps the law if it fits, and breaks it otherwise. -/
theorem law_advance_iff (h : Inv rt w) : Law rt (w.advance rt a) ↔ w.Fits rt a := by
  rw [advance]
  rcases hstep : w.step rt a with - | w'
  · refine iff_of_true h.law fun hsome => ?_
    rw [hstep] at hsome
    cases hsome
  · have hplaced := placed_step_iff h.law.toPlaced h.bounded hstep
    have huntimely := untimely_step_iff h.law.toPlaced hstep
    rw [h.law.punctual] at huntimely
    have hfits : w.Fits rt a ↔ _ := forall_prop_of_true (isSome_iff_exists.mpr ⟨w', hstep⟩)
    rw [hfits, ← hplaced, ← huntimely]
    exact ⟨fun hlaw => ⟨hlaw.toPlaced, hlaw.punctual⟩, fun hlaw => ⟨hlaw.1, hlaw.2⟩⟩

theorem Inv.advance (h : Inv rt w) (hfits : w.Fits rt a) : Inv rt (w.advance rt a) := by
  refine ⟨(law_advance_iff h).mpr hfits, ?_⟩
  rw [TimedEvents.advance]
  rcases hstep : w.step rt a with - | w'
  · exact h.bounded
  · exact bounded_step h.bounded hstep

omit [DecidableEq T] in
theorem inv_start (e : Event) : Inv rt (start e : TimedEvents T S) := by
  refine ⟨⟨⟨?_, ?_, rfl, ?_⟩, rfl⟩, ?_⟩
  · rintro o (ho | ho)
    · cases ho
    · cases ho
  · intro o ho
    cases ho
  · intro x hx
    cases hx
  · rintro o (ho | ho | ⟨u, ho⟩)
    · cases ho
    · cases ho
    · cases ho

/-- **Events with a time are in the runner only, with the schedule of their time, or dropped,** and
are raised at this time and not before, in all states of a run exactly if each of its actions
fits. -/
theorem law_always_iff (rt : ScheduleRuntime S) (e : Event) (as : List (Action T)) :
    Transition.Always (advance rt) (Law rt) (start e) as ↔
      Transition.Meets (advance rt) (Fits rt) (start e) as := by
  have hstart : Inv rt (start e : TimedEvents T S) := inv_start e
  refine Transition.always_iff_meets ?_ ?_ ?_ hstart
  · exact fun w h => h.law
  · exact fun w a h hfits => h.advance hfits
  · exact fun w a h hnot hlaw => hnot ((law_advance_iff h).mp hlaw)

end runs

def unreadable : Event := { name := "blink" : Event }.setProperty "time" "soon"

/-- It is not dropped: it gets into the queue at once. -/
theorem timed_law_fails :
    ¬ ∀ (rt : ScheduleRuntime Unit) (e : Event) (as : List (Action Unit)),
      Transition.Always (advance rt) (Law rt) (start e) as := by
  intro h
  have hlaw := h noTimes unreadable
    [.step (.create unreadable), .step (.push () 10 0), .step (.insert ())]
  exact hlaw.2.2.2.rejected 0 (Or.inl (mem_singleton_self 0)) rfl

end TimedEvents

end Dss
