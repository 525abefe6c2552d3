import Dss.Ascending
import Dss.EventRunner

/-!
# Recurring schedules

`ICalSchedule` keeps the next occurrence that the iterator of libical has handed out, and moves on
if the time asked about is not before it. Occurrences are what the clocks show, in seconds; without
a `Z` in the start date these are the clocks of the time zone of the machine. The runner asks twice
in the second in which it raises an event, the second time about the second that follows.
-/

namespace Dss

structure TimeZone : Type where
  /-- `DateTime::getTimezoneOffset` of a time -/
  offset : ℤ → ℤ
  /-- `mktime` of what the clocks show -/
  mktime : ℤ → ℤ

def TimeZone.fixed (offset : ℤ) : TimeZone where
  offset _ := offset
  mktime c := c - offset

def TimeZone.shows (z : TimeZone) (time : ℤ) : ℤ := time + z.offset time

structure ICalSchedule : Type where
  /-- what `m_ICalIterator` hands out -/
  occurrences : Ascending
  /-- `is_utc` of `m_StartDate` -/
  isUtc : Bool
  /-- where `m_NextSchedule` comes in it -/
  position : ℕ := 0

namespace ICalSchedule

def icalToTm (z : TimeZone) (isUtc : Bool) (occurrence : ℤ) : ℤ :=
  if isUtc then occurrence else z.mktime occurrence

def leapAdjust (x : ICalSchedule) (endTime : ℤ) : ICalSchedule :=
  { x with position := x.occurrences.skip endTime x.position }

def startOf (z : TimeZone) (isUtc : Bool) (now : ℤ) : ℤ := if isUtc then now else z.shows now

def create (z : TimeZone) (occurrences : Ascending) (isUtc : Bool) (now : ℤ) : ICalSchedule :=
  leapAdjust { occurrences := occurrences, isUtc := isUtc } (startOf z isUtc now)

def getNextOccurence (z : TimeZone) (x : ICalSchedule) (start : ℤ) : ℤ × ICalSchedule :=
  match x.occurrences.get x.position with
  | none => (0, x)
  | some next =>
    if z.shows start < next then (icalToTm z x.isUtc next, x)
    else (icalToTm z x.isUtc next, { x with position := x.position + 1 })

def runtime (z : TimeZone) (rule : String → String → Ascending × Bool)
    (parseRFC2445 : String → Option ℤ) (dateToString : ℤ → String) :
    ScheduleRuntime ICalSchedule where
  parseRFC2445 := parseRFC2445
  dateToString := dateToString
  iCalSchedule rRule start now := create z (rule rRule start).1 (rule rRule start).2 now
  getNextOccurence := getNextOccurence z
  leapAdjust := leapAdjust

end ICalSchedule

/-! ## One entry of the runner -/

namespace EventRunner

variable {S : Type}

/-- What comes of an entry in `raisePendingEvents`. -/
structure Visit (S : Type) : Type where
  schedule : Schedule S
  raised : Option ℤ
  removed : Bool

/-- One turn of the loop of `raisePendingEvents`, as far as the schedule of the entry goes. -/
def visit (rt : ScheduleRuntime S) (now : ℤ) (x : Schedule S) : Visit S :=
  let (nextOccurence, schedule) := x.getNextOccurence rt now
  if nextOccurence = 0 then { schedule := schedule, raised := none, removed := true }
  else if DateTime.difference nextOccurence now ≤ 0 then
    let (last, schedule) :=
      if schedule.hasRecurrence then
        let (next, schedule) := schedule.getNextOccurence rt (now + 1)
        (decide (next = 0), schedule.leapAdjust rt (now + 1))
      else (true, schedule)
    { schedule := schedule, raised := some nextOccurence, removed := last }
  else { schedule := schedule, raised := none, removed := false }

def Visit.entry (v : Visit S) (x : ScheduledEvent S) : ScheduledEvent S where
  id := x.id
  event := if v.raised.isSome then x.event.withoutSchedule else x.event
  schedule := v.schedule

def Visit.queue (v : Visit S) (x : ScheduledEvent S) (queue : List Event) : List Event :=
  if v.raised.isSome then enqueue queue x.event.withoutSchedule else queue

def Visit.removeIDs (v : Visit S) (x : ScheduledEvent S) (removeIDs : List String) :
    List String :=
  if v.removed then removeIDs ++ [x.id] else removeIDs

variable {rt : ScheduleRuntime S} {now : ℤ} {x : Schedule S}

theorem visit_of_null (h : (x.getNextOccurence rt now).1 = 0) : visit rt now x =
    { schedule := (x.getNextOccurence rt now).2, raised := none, removed := true } := by
  rw [visit]
  dsimp only
  rw [if_pos h]

theorem visit_of_lt (h : (x.getNextOccurence rt now).1 ≠ 0)
    (hdue : ¬ DateTime.difference (x.getNextOccurence rt now).1 now ≤ 0) : visit rt now x =
    { schedule := (x.getNextOccurence rt now).2, raised := none, removed := false } := by
  rw [visit]
  dsimp only
  rw [if_neg h, if_neg hdue]

/-- **The loop visits the entries one by one**, as long as the nodes of the monitor can be
made. -/
theorem raiseLoop_cons (rt : ScheduleRuntime S) (now : ℤ) (x : ScheduledEvent S)
    (xs : List (ScheduledEvent S)) (raised : Raised S)
    (h : ∀ nextOccurence, (showOccurence rt now nextOccurence x.id raised.monitorNode).2 = none) :
    ∃ monitor, raiseLoop rt now (x :: xs) raised = raiseLoop rt now xs
      { raised with
        monitorNode := monitor
        scheduledEvents := raised.scheduledEvents ++ [(visit rt now x.schedule).entry x]
        eventQueue := (visit rt now x.schedule).queue x raised.eventQueue
        removeIDs := (visit rt now x.schedule).removeIDs x raised.removeIDs } := by
  by_cases hnull : (x.schedule.getNextOccurence rt now).1 = 0
  · rw [visit_of_null hnull, raiseLoop]
    dsimp only
    rw [if_pos hnull]
    exact ⟨raised.monitorNode, rfl⟩
  · have hnone := h (x.schedule.getNextOccurence rt now).1
    rcases hshow : showOccurence rt now (x.schedule.getNextOccurence rt now).1 x.id
      raised.monitorNode with ⟨monitor, failure⟩
    rw [hshow] at hnone
    dsimp only at hnone
    refine ⟨monitor, ?_⟩
    by_cases hdue : DateTime.difference (x.schedule.getNextOccurence rt now).1 now ≤ 0
    · rw [raiseLoop, visit]
      dsimp only
      rw [if_neg hnull, if_neg hnull, hshow, hnone]
      dsimp only
      rw [if_pos hdue, if_pos hdue]
      rfl
    · rw [visit_of_lt hnull hdue, raiseLoop]
      dsimp only
      rw [if_neg hnull, hshow, hnone]
      dsimp only
      rw [if_neg hdue]
      rfl

end EventRunner

end Dss
