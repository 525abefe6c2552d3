import Dss.UniqueEventRuns

/-!
# Events with a time

An event whose property `time` can be read should be in the runner only, with the schedule of this
time, and one whose time cannot be read should be nowhere. And the runner should raise it when its
time has come, and not before. But as `scheduleFromEvent` returns a null pointer for a time that
cannot be read, like for an event without a time, `pushEvent` puts it into the queue; where a unique
event replaces one that is scheduled already, `addEvent` leaves it the old schedule along with the
new time; and what is 68 years ahead is taken for past.
-/

namespace Dss

/-- What the property `time` of an event asks for. -/
inductive Timing : Type where
  /-- nothing: it is not set -/
  | unset : Timing
  /-- it is too short, cannot be read, or goes back -/
  | invalid : Timing
  /-- an offset of zero: the event is for the queue -/
  | atOnce : Timing
  /-- seconds from now -/
  | relative (offset : ℤ) : Timing
  | absolute (date : ℤ) : Timing

namespace Timing

def ofOffset (offset : ℤ) : Timing :=
  if 0 < offset then .relative offset
  else if offset = 0 then .atOnce
  else .invalid

def ofText (parseRFC2445 : String → Option ℤ) (text : String) : Timing :=
  match text.toList with
  | '+' :: c :: cs => ofOffset ((parseInt? (String.ofList (c :: cs))).getD (-1))
  | _ :: _ :: _ =>
    match parseRFC2445 text with
    | some date => .absolute date
    | none => .invalid
  | _ => .invalid

def due (now : ℤ) : Timing → Option ℤ
  | relative offset => some (now + offset)
  | absolute date => some date
  | unset | invalid | atOnce => none

theorem unset_or_atOnce {timing : Timing} (hinvalid : timing ≠ .invalid)
    (hdue : ∀ now, timing.due now = none) : timing = .unset ∨ timing = .atOnce := by
  cases timing with
  | unset => exact Or.inl rfl
  | invalid => exact absurd rfl hinvalid
  | atOnce => exact Or.inr rfl
  | relative offset => cases hdue 0
  | absolute date => cases hdue 0

theorem due_of_due_eq_none {timing : Timing} {now : ℤ} (h : timing.due now = none) (other : ℤ) :
    timing.due other = none := by
  cases timing with
  | unset => rfl
  | invalid => rfl
  | atOnce => rfl
  | relative offset => cases h
  | absolute date => cases h

end Timing

namespace Event

variable {S : Type}

def timing (rt : ScheduleRuntime S) (e : Event) : Timing :=
  match e.time with
  | none => .unset
  | some text => .ofText rt.parseRFC2445 text

variable {rt : ScheduleRuntime S} {e other : Event} {now : ℤ}

theorem timing_congr (h : e.time = other.time) : e.timing rt = other.timing rt := by
  rw [timing, timing, h]

theorem timing_of_none (h : e.time = none) : e.timing rt = .unset := by
  rw [timing, h]

theorem timing_ne_unset (h : e.time ≠ none) : e.timing rt ≠ .unset := by
  rcases htime : e.time with - | text
  · exact absurd htime h
  · rw [timing, htime]
    dsimp only
    rw [Timing.ofText]
    split
    · rw [Timing.ofOffset]
      split_ifs
      · exact Timing.noConfusion
      · exact Timing.noConfusion
      · exact Timing.noConfusion
    · split
      · exact Timing.noConfusion
      · exact Timing.noConfusion
    · exact Timing.noConfusion

theorem time_mergeInto (h : e.time ≠ none) : (e.mergeInto other).time = e.time := by
  rcases htime : e.time with - | text
  · exact absurd htime h
  · have hset : e.hasPropertySet "time" = true := congrArg Option.isSome htime
    have htext : e.getPropertyByName "time" = text := congrArg (Option.getD · "") htime
    rw [mergeInto]
    rw [if_pos hset, htext]

theorem time_mergeInto_of_none (h : e.time = none) : (e.mergeInto other).time = other.time := by
  have hset : e.hasPropertySet "time" = false := congrArg Option.isSome h
  rw [mergeInto]
  rw [hset, if_neg Bool.false_ne_true]

theorem time_withoutSchedule : e.withoutSchedule.time = none := by
  have hset : e.withoutSchedule.time.isSome = false := (@hasPropertySet_withoutSchedule e).1
  rcases htime : e.withoutSchedule.time with - | text
  · rfl
  · rw [htime] at hset
    cases hset

end Event

/-- `PendingEvents`, with what a run remembers of times. -/
structure TimedEvents (T S : Type) : Type where
  pending : PendingEvents T S
  /-- from which second the time of an event counts: that of the push it came with -/
  timedAt : ℕ → ℤ := fun _ => 0
  /-- the events with a time that did not come into the runner, as its nodes could not be made -/
  lost : List ℕ := []
  /-- the events that the runner has raised before their time, or has not raised although it had
  come -/
  untimely : List ℕ := []

namespace TimedEvents

/-! ## Runs -/

inductive Action (T : Type) : Type where
  /-- a step of `pushEvent`, of the runner, or of others -/
  | step (a : PendingEvents.Action T)
  /-- a thread calls `pushTimedEvent` -/
  | pushTimed (t : T) (now : ℤ) (o : ℕ)

section steps

variable {T S : Type} [DecidableEq T]

/-- The event that one in the critical section of `addEvent` replaces. -/
def replacedBy (p : PendingEvents T S) (o : ℕ) : Option ℕ :=
  if (p.objects o).isUnique then p.replacedInRunner o else none

def adding (p : PendingEvents T S) (t : T) : Option (ℕ × Schedule S) :=
  match (p.threads t).task with
  | .adding o schedule _ => some (o, schedule)
  | _ => none

def checking (p : PendingEvents T S) (t : T) : Option ℕ :=
  match (p.threads t).task with
  | .checking o => some o
  | _ => none

def inserting (p : PendingEvents T S) (t : T) : Option ℕ :=
  match (p.threads t).task with
  | .inserting o => some o
  | _ => none

def replacing (p : PendingEvents T S) : PendingEvents.Action T → Option (ℕ × ℕ)
  | .add t _ => (adding p t).bind fun x => (replacedBy p x.1).map (x.1, ·)
  | .check t => (checking p t).bind fun o => (p.replacedInQueue o).map (o, ·)
  | _ => none

def timedAtBehind (w : TimedEvents T S) (a : PendingEvents.Action T) : ℕ → ℤ :=
  match a with
  | .push _ now o => Function.update w.timedAt o now
  | a =>
    match replacing w.pending a with
    | some (o, q) =>
      if (w.pending.objects o).time.isSome then Function.update w.timedAt q (w.timedAt o)
      else w.timedAt
    | none => w.timedAt

def lostBehind (w : TimedEvents T S) : PendingEvents.Action T → List ℕ
  | .add t true =>
    match adding w.pending t with
    | some (o, _) =>
      if (w.pending.objects o).time.isSome ∧ replacedBy w.pending o = none then w.lost ++ [o]
      else w.lost
    | none => w.lost
  | _ => w.lost

def timing (rt : ScheduleRuntime S) (w : TimedEvents T S) (o : ℕ) : Timing :=
  (w.pending.objects o).timing rt

def due (rt : ScheduleRuntime S) (w : TimedEvents T S) (o : ℕ) : Option ℤ :=
  (w.timing rt o).due (w.timedAt o)

/-- The loop of `raisePendingEvents` has come to an event with a time: the second that it has read,
the event, and the second of its time. -/
def turn (rt : ScheduleRuntime S) (w : TimedEvents T S) (t : T) : Option (ℤ × ℕ × ℤ) :=
  (w.pending.threads t).raising.bind fun (now, i) =>
    w.pending.runner[i]?.bind fun x =>
      (w.due rt x.event).map fun date => (now, x.event, date)

/-- What was untimely when an action is over. `p` is what it leads to. -/
def untimelyBehind (rt : ScheduleRuntime S) (w : TimedEvents T S) (p : PendingEvents T S) :
    PendingEvents.Action T → List ℕ
  | .visit t _ =>
    match w.turn rt t with
    | some (now, o, date) =>
      if o ∈ (p.threads t).task.events ↔ date ≤ now then w.untimely else w.untimely ++ [o]
    | none => w.untimely
  | _ => w.untimely

/-- The state behind an action, if it can happen. `pushTimedEvent` does nothing with an event
that has no schedule. -/
def step (rt : ScheduleRuntime S) (w : TimedEvents T S) : Action T → Option (TimedEvents T S)
  | .step a =>
    (w.pending.step rt a).map fun p =>
      { pending := p, timedAt := w.timedAtBehind a, lost := w.lostBehind a
        untimely := w.untimelyBehind rt p a }
  | .pushTimed t now o =>
    if (EventRunner.scheduleFromEvent rt now (w.pending.objects o)).isSome then
      (w.pending.step rt (.push t now o)).map fun p =>
        { w with pending := p, timedAt := Function.update w.timedAt o now }
    else none

def advance (rt : ScheduleRuntime S) (w : TimedEvents T S) (a : Action T) : TimedEvents T S :=
  (w.step rt a).getD w

def start (e : Event) : TimedEvents T S := { pending := PendingEvents.start e }

/-! ## The law -/

/-- Where the events with a time are. -/
structure Placed (rt : ScheduleRuntime S) (w : TimedEvents T S) : Prop where
  rejected : ∀ o, o ∈ w.pending.queue ∨ o ∈ w.pending.runnerEvents → w.timing rt o ≠ .invalid
  runner_only : ∀ o ∈ w.pending.queue, w.due rt o = none
  entered : w.lost = []
  scheduled : ∀ x ∈ w.pending.runner, (w.pending.objects x.event).time ≠ none →
    ∃ date, w.due rt x.event = some date ∧ x.schedule = .static date

/-- What is promised of events with a time: they are in their place, and each turn of the loop of
the runner has raised the one it came to exactly if its time had come. -/
structure Law (rt : ScheduleRuntime S) (w : TimedEvents T S) : Prop extends Placed rt w where
  punctual : w.untimely = []

/-! ## The condition -/

/-- All entries of the event have the schedule of this second already. -/
def Agrees (w : TimedEvents T S) (o : ℕ) (date : ℤ) : Prop :=
  ∀ x ∈ w.pending.runner, x.event = o → x.schedule = .static date

def PushFits (rt : ScheduleRuntime S) (w : TimedEvents T S) (now : ℤ) (o : ℕ) : Prop :=
  ∀ date, (w.timing rt o).due now = some date → w.Agrees o date

/-- When `addEvent` does well with an event that has a time: one that is replaced is not in the
queue as well, and was for the same second; otherwise there are nodes for the new entry. -/
def AddFits (rt : ScheduleRuntime S) (w : TimedEvents T S) (o : ℕ) (schedule : Schedule S)
    (throws : Bool) : Prop :=
  match replacedBy w.pending o with
  | some q => q ∉ w.pending.queue ∧ ∃ date, w.due rt o = some date ∧ w.Agrees q date
  | none => throws = false ∧ o ∉ w.pending.queue ∧
      ∃ date, w.due rt o = some date ∧ schedule = .static date

/-- When an action puts events where they belong: an event with a time comes to the queue only
with an offset of zero, and what it replaces there is not in the runner as well. -/
def PlaceFits (rt : ScheduleRuntime S) (w : TimedEvents T S) : Action T → Prop
  | .step (.push _ now o) | .pushTimed _ now o => w.PushFits rt now o
  | .step (.add t throws) => ∀ o schedule, adding w.pending t = some (o, schedule) →
      (w.pending.objects o).time ≠ none → w.AddFits rt o schedule throws
  | .step (.check t) => ∀ o q, checking w.pending t = some o →
      (w.pending.objects o).time ≠ none → w.pending.replacedInQueue o = some q →
      w.timing rt o = .atOnce ∧ q ∉ w.pending.runnerEvents
  | .step (.insert t) => ∀ o, inserting w.pending t = some o →
      (w.pending.objects o).time ≠ none → w.timing rt o = .atOnce
  | .step _ => True

/-- When a turn of the loop does well with an event for a second. If the second has come, the nodes
are there, and neither it nor the time now is taken for the null date; if it has not come, it is
less than 68 years ahead, unless nothing is raised anyway. -/
def TurnFits (now date : ℤ) (throws : Bool) : Prop :=
  if date ≤ now then
    throws = false ∧ ¬ (date = 0 ∧ 2 ^ 31 ≤ now) ∧ ¬ (now = 0 ∧ -2 ^ 31 < date)
  else throws = true ∨ date = 0 ∨ date - now < 2 ^ 31

/-- When the action, if it is a turn of the loop, is timely. -/
def Timely (rt : ScheduleRuntime S) (w : TimedEvents T S) : Action T → Prop
  | .step (.visit t throws) =>
    ∀ now o date, w.turn rt t = some (now, o, date) → TurnFits now date throws
  | _ => True

/-- When an action that can happen does well. -/
def Fits (rt : ScheduleRuntime S) (w : TimedEvents T S) (a : Action T) : Prop :=
  (w.step rt a).isSome → w.PlaceFits rt a ∧ w.Timely rt a

end steps

end TimedEvents

end Dss
