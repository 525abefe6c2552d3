import Dss.RecurringSchedule

/-!
# Events that recur

The runner raises what is pending once in each second. Every occurrence behind the scheduling should
be raised in its second, and nothing else. This goes well unless the clocks show an occurrence
before its time, or the second question of the runner passes the next occurrence, or occurrences
are skipped that `leapAdjust` takes for past ones, since it compares what the clocks show with the
seconds since the epoch. And one that is 68 years ahead is taken for due, at every call.
-/

namespace Dss

open EventRunner ICalSchedule

structure RecurringEvent : Type where
  zone : TimeZone
  /-- what libical makes of a rule and a start date: what the iterator hands out, and `is_utc` -/
  rule : String → String → Ascending × Bool
  /-- `DateTime::parseRFC2445` -/
  parseRFC2445 : String → Option ℤ
  /-- `DateTime::toString` -/
  dateToString : ℤ → String
  event : Event
  noTime : event.hasPropertySet "time" = false
  hasStart : event.hasPropertySet "iCalStartTime" = true
  hasRule : event.hasPropertySet "iCalRRule" = true
  scheduled : ℤ
  /-- the second in which the runner raises what is pending for the first time behind that -/
  first : ℤ
  scheduled_le : scheduled ≤ first
  first_le : first ≤ scheduled + 1

namespace RecurringEvent

def rt (p : RecurringEvent) : ScheduleRuntime ICalSchedule :=
  runtime p.zone p.rule p.parseRFC2445 p.dateToString

def occurrences (p : RecurringEvent) : Ascending :=
  (p.rule (p.event.getPropertyByName "iCalRRule") (p.event.getPropertyByName "iCalStartTime")).1

/-- `is_utc` of its start date. -/
def isUtc (p : RecurringEvent) : Bool :=
  (p.rule (p.event.getPropertyByName "iCalRRule") (p.event.getPropertyByName "iCalStartTime")).2

def time (p : RecurringEvent) (c : ℤ) : ℤ := icalToTm p.zone p.isUtc c

/-! ## Runs -/

/-- The schedule of the entry before call number `n`, unless the entry was removed. -/
def entryBefore (p : RecurringEvent) : ℕ → Option (Schedule ICalSchedule)
  | 0 => scheduleFromEvent p.rt p.scheduled p.event
  | n + 1 =>
    (p.entryBefore n).bind fun x =>
      let v := visit p.rt (p.first + n) x
      if v.removed then none else some v.schedule

def raisedAt (p : RecurringEvent) (n : ℕ) : Option ℤ :=
  (p.entryBefore n).bind fun x => (visit p.rt (p.first + n) x).raised

/-- What should hold of all calls. -/
structure Punctual (p : RecurringEvent) : Prop where
  at_occurrence : ∀ n t, p.raisedAt n = some t →
    t = p.first + n ∧ ∃ i c, p.occurrences.get i = some c ∧ p.time c = t
  every : ∀ i c, p.occurrences.get i = some c → p.scheduled < p.time c →
    p.raisedAt (p.time c - p.first).toNat = some (p.time c)

/-- The occurrence is not before what the clocks show when the event is scheduled. -/
def Taken (p : RecurringEvent) (c : ℤ) : Prop := startOf p.zone p.isUtc p.scheduled ≤ c

/-- The clocks show the occurrence, or a later time. -/
def Shown (p : RecurringEvent) (c now : ℤ) : Prop := c ≤ p.zone.shows now

/-- What is asked of an occurrence and the next one, for the next one to be the one that comes
behind it. -/
structure Kept (p : RecurringEvent) (i : ℕ) (c : ℤ) : Prop where
  not_again : p.Shown c (p.time c) ∨ p.Shown c (p.time c + 1) ∨ c ≤ p.time c
  /-- the next one is not, neither by the second question nor by `leapAdjust` -/
  next_kept : ∀ d, p.occurrences.get (i + 1) = some d →
    p.time c < d ∧ (p.Shown c (p.time c) → ¬ p.Shown d (p.time c + 1))

/-- No occurrence is waited for that is 68 years ahead. -/
def Soon (p : RecurringEvent) : Prop :=
  ∀ i c now, p.occurrences.get i = some c → p.Taken c → p.first ≤ now →
    (∀ k d, k < i → p.occurrences.get k = some d → p.Taken d → p.time d < now) →
    p.time c - now < 2 ^ 31

/-- How the occurrences fit the clocks. -/
structure Fits (p : RecurringEvent) : Prop where
  skipped : ∀ i c, p.occurrences.get i = some c → ¬ p.Taken c → p.time c ≤ p.scheduled
  in_time : ∀ i c, p.occurrences.get i = some c → p.Taken c → p.first ≤ p.time c
  /-- the clocks do not show the next occurrence before its time -/
  not_early : ∀ i c now, p.occurrences.get i = some c → p.Taken c → p.first ≤ now →
    now < p.time c →
    (∀ k d, k < i → p.occurrences.get k = some d → p.Taken d → p.time d < now) →
    ¬ p.Shown c now
  /-- no occurrence is raised again, or passed together with the one before it -/
  kept : ∀ i c, p.occurrences.get i = some c → p.Taken c → p.Kept i c
  soon : p.Soon

/-! ## Places in the sequence -/

variable {p : RecurringEvent} {i j k n : ℕ} {c d now t : ℤ}

def place (p : RecurringEvent) (j : ℕ) : Schedule ICalSchedule :=
  .iCal { occurrences := p.occurrences, isUtc := p.isUtc, position := j }

def nextTime (p : RecurringEvent) (j : ℕ) : ℤ :=
  match p.occurrences.get j with
  | none => 0
  | some c => p.time c

def ask (p : RecurringEvent) (t : ℤ) (j : ℕ) : ℕ :=
  match p.occurrences.get j with
  | none => j
  | some c => if p.zone.shows t < c then j else j + 1

def behind (p : RecurringEvent) (now : ℤ) (j : ℕ) : ℕ :=
  p.occurrences.skip (now + 1) (p.ask (now + 1) (p.ask now j))

theorem getNextOccurence_place :
    (p.place j).getNextOccurence p.rt t = (p.nextTime j, p.place (p.ask t j)) := by
  rw [place, Schedule.getNextOccurence, rt, runtime]
  dsimp only
  rw [ICalSchedule.getNextOccurence, nextTime, ask]
  rcases p.occurrences.get j with - | c
  · rfl
  · dsimp only
    split
    · rfl
    · rfl

theorem visit_place : visit p.rt now (p.place j) =
    if p.nextTime j = 0 then
      { schedule := p.place (p.ask now j), raised := none, removed := true }
    else if DateTime.difference (p.nextTime j) now ≤ 0 then
      { schedule := p.place (p.behind now j), raised := some (p.nextTime j),
        removed := decide (p.nextTime (p.ask now j) = 0) }
    else { schedule := p.place (p.ask now j), raised := none, removed := false } := by
  rw [visit, getNextOccurence_place]
  dsimp only
  split_ifs
  · rfl
  · rw [getNextOccurence_place]
    rfl
  · rename_i hrecurrence
    exact absurd rfl hrecurrence
  · rfl

theorem entryBefore_zero :
    p.entryBefore 0 =
      some (p.place (p.occurrences.skip (startOf p.zone p.isUtc p.scheduled) 0)) := by
  rw [entryBefore, scheduleFromEvent, if_neg (by rw [p.noTime]; exact Bool.false_ne_true),
    if_pos ⟨p.hasStart, p.hasRule⟩]
  rfl

theorem entryBefore_succ (h : p.entryBefore n = some (p.place j)) : p.entryBefore (n + 1) =
    if (visit p.rt (p.first + n) (p.place j)).removed then none
    else some (visit p.rt (p.first + n) (p.place j)).schedule := by
  rw [entryBefore, h]
  rfl

theorem raisedAt_of_place (h : p.entryBefore n = some (p.place j)) :
    p.raisedAt n = (visit p.rt (p.first + n) (p.place j)).raised := by
  rw [raisedAt, h]
  rfl

theorem raisedAt_of_none (h : p.entryBefore n = none) : p.raisedAt n = none := by
  rw [raisedAt, h]
  rfl

/-! ## Moving on -/

theorem ask_of_none (h : p.occurrences.get j = none) : p.ask t j = j := by
  rw [ask, h]

theorem ask_of_shown (h : p.occurrences.get j = some c) (hshown : p.Shown c t) :
    p.ask t j = j + 1 := by
  rw [ask, h]
  exact if_neg (Int.not_lt.mpr hshown)

theorem ask_of_not_shown (h : p.occurrences.get j = some c) (hshown : ¬ p.Shown c t) :
    p.ask t j = j := by
  rw [ask, h]
  exact if_pos (Int.not_le.mp hshown)

theorem le_ask : j ≤ p.ask t j := by
  rw [ask]
  split
  · exact Nat.le_refl j
  · split
    · exact Nat.le_refl j
    · exact Nat.le_succ j

theorem le_behind : p.ask now j ≤ p.behind now j :=
  Nat.le_trans le_ask (p.occurrences.skip_spec _ _).1

theorem exists_of_lt_ask (hjk : j ≤ k) (hk : k < p.ask t j) :
    ∃ d, p.occurrences.get k = some d := by
  rcases hj : p.occurrences.get j with - | c
  · rw [ask_of_none hj] at hk
    omega
  · have hstep : p.ask t j ≤ j + 1 := by
      rw [ask, hj]
      dsimp only
      split
      · exact Nat.le_succ j
      · exact Nat.le_refl _
    obtain rfl : k = j := by omega
    exact ⟨c, hj⟩

theorem exists_of_lt_behind (hjk : j ≤ k) (hk : k < p.behind now j) :
    ∃ d, p.occurrences.get k = some d := by
  by_cases hfirst : k < p.ask now j
  · exact exists_of_lt_ask hjk hfirst
  · by_cases hsecond : k < p.ask (now + 1) (p.ask now j)
    · exact exists_of_lt_ask (Nat.le_of_not_lt hfirst) hsecond
    · obtain ⟨d, hd, -⟩ := (p.occurrences.skip_spec (now + 1) _).2.1 k
        (Nat.le_of_not_lt hsecond) hk
      exact ⟨d, hd⟩

theorem skip_eq_iff {bound : ℤ} : p.occurrences.skip bound j = j ↔
    ∀ d, p.occurrences.get j = some d → bound ≤ d := by
  constructor
  · intro h d hd
    exact (p.occurrences.skip_spec bound j).2.2 d (by rw [h]; exact hd)
  · exact Ascending.skip_eq_self

/-- **One place on.** Behind the call that raises the event for an occurrence in its second, the
schedule stands at the next one exactly if this is kept. -/
theorem behind_eq_succ_iff (h : p.occurrences.get j = some c) :
    p.behind (p.time c) j = j + 1 ↔ p.Kept j c := by
  by_cases hshown : p.Shown c (p.time c)
  · rw [behind, ask_of_shown h hshown]
    rcases hd : p.occurrences.get (j + 1) with - | d
    · rw [ask_of_none hd]
      refine iff_of_true (skip_eq_iff.2 fun d hsome => ?_) ⟨Or.inl hshown, fun d hsome => ?_⟩
      · rw [hd] at hsome
        cases hsome
      · rw [hd] at hsome
        cases hsome
    · by_cases hnext : p.Shown d (p.time c + 1)
      · -- the second question passes the next occurrence
        rw [ask_of_shown hd hnext]
        refine iff_of_false ?_ fun hkept => (hkept.next_kept d hd).2 hshown hnext
        have hle := (p.occurrences.skip_spec (p.time c + 1) (j + 1 + 1)).1
        omega
      · rw [ask_of_not_shown hd hnext, skip_eq_iff]
        constructor
        · intro hbound
          refine ⟨Or.inl hshown, fun e he => ?_⟩
          rw [hd] at he
          cases he
          exact ⟨Int.lt_of_add_one_le (hbound d hd), fun _ => hnext⟩
        · intro hkept e he
          exact Int.add_one_le_of_lt (hkept.next_kept e he).1
  · have hbound : (∀ d, p.occurrences.get (j + 1) = some d → p.time c + 1 ≤ d) ↔
        ∀ d, p.occurrences.get (j + 1) = some d →
          p.time c < d ∧ (p.Shown c (p.time c) → ¬ p.Shown d (p.time c + 1)) :=
      forall₂_congr fun d _ => ⟨fun hle => ⟨Int.lt_of_add_one_le hle, fun hc => absurd hc hshown⟩,
        fun hlt => Int.add_one_le_of_lt hlt.1⟩
    rw [behind, ask_of_not_shown h hshown]
    by_cases hnext : p.Shown c (p.time c + 1)
    · rw [ask_of_shown h hnext, skip_eq_iff, hbound]
      exact ⟨fun hkept => ⟨Or.inr (Or.inl hnext), hkept⟩, fun hkept => hkept.next_kept⟩
    · rw [ask_of_not_shown h hnext]
      by_cases hpast : c ≤ p.time c
      · rw [Ascending.skip_of_lt h (Int.lt_add_one_of_le hpast), skip_eq_iff, hbound]
        exact ⟨fun hkept => ⟨Or.inr (Or.inr hpast), hkept⟩, fun hkept => hkept.next_kept⟩
      · -- the occurrence is still there
        refine iff_of_false ?_ fun hkept => ?_
        · rw [skip_eq_iff.2 fun d hd => ?_]
          · omega
          · rw [h] at hd
            cases hd
            omega
        · obtain hagain | hagain | hagain := hkept.not_again
          · exact hshown hagain
          · exact hnext hagain
          · exact hpast hagain

/-! ## Where the schedule should stand -/

/-- All occurrences before the place are over, and the one there is not. -/
structure UpTo (p : RecurringEvent) (now : ℤ) (j : ℕ) : Prop where
  /-- those that the event was scheduled for -/
  past : ∀ i c, i < j → p.occurrences.get i = some c → p.Taken c → p.time c < now
  next : ∀ c, p.occurrences.get j = some c → p.Taken c ∧ now ≤ p.time c

/-- The entry stands there, or there is nothing left and it was removed. -/
def Stands (p : RecurringEvent) (n j : ℕ) : Prop :=
  p.entryBefore n = some (p.place j) ∨
    p.entryBefore n = none ∧ p.occurrences.get j = none

structure Goes (p : RecurringEvent) (now : ℤ) (j : ℕ) : Prop where
  soon : ∀ c, p.occurrences.get j = some c → p.time c - now < 2 ^ 31
  not_early : ∀ c, p.occurrences.get j = some c → now < p.time c → ¬ p.Shown c now
  kept : ∀ c, p.occurrences.get j = some c → p.time c = now → p.Kept j c

section ascending

variable (hT : ∀ i c d, p.occurrences.get i = some c → p.occurrences.get (i + 1) = some d →
  p.time c < p.time d)

include hT

theorem time_lt (hij : i < j) (hi : p.occurrences.get i = some c)
    (hj : p.occurrences.get j = some d) : p.time c < p.time d :=
  Ascending.lt_of_lt hij (Ascending.get_map hT hi) (Ascending.get_map hT hj)

theorem time_injective (hi : p.occurrences.get i = some c) (hj : p.occurrences.get j = some d)
    (h : p.time c = p.time d) : i = j := by
  have hcopy : (p.occurrences.map p.time hT).get j = some (p.time c) := by
    rw [h]
    exact Ascending.get_map hT hj
  exact Ascending.get_injective (Ascending.get_map hT hi) hcopy

end ascending

theorem UpTo.unique (h : p.UpTo now j) (h' : p.UpTo now i) (hi : p.occurrences.get i = some c) :
    j = i := by
  rcases Nat.lt_trichotomy j i with hlt | heq | hlt
  · obtain ⟨d, hd⟩ := Ascending.exists_of_le (Nat.le_of_lt hlt) hi
    obtain ⟨htaken, hle⟩ := h.next d hd
    have hover := h'.past j d hlt hd htaken
    omega
  · exact heq
  · obtain ⟨htaken, hle⟩ := h'.next c hi
    have hover := h.past i c hlt hi htaken
    omega

theorem Taken.mono (h : p.Taken c) (hi : p.occurrences.get i = some c)
    (hj : p.occurrences.get (i + 1) = some d) : p.Taken d :=
  Int.le_trans h (Int.le_of_lt (p.occurrences.ascends i c d hi hj))

theorem nextTime_of_some (h : p.occurrences.get j = some c) : p.nextTime j = p.time c := by
  rw [nextTime, h]

theorem nextTime_of_none (h : p.occurrences.get j = none) : p.nextTime j = 0 := by
  rw [nextTime, h]

theorem exists_schedule :
    ∃ l, j ≤ l ∧ (visit p.rt now (p.place j)).schedule = p.place l := by
  rw [visit_place]
  split_ifs
  · exact ⟨_, le_ask, rfl⟩
  · exact ⟨_, Nat.le_trans le_ask le_behind, rfl⟩
  · exact ⟨_, le_ask, rfl⟩

theorem entryBefore_of_le {m : ℕ} (h : p.entryBefore m = some (p.place k)) (hmn : m ≤ n) :
    p.entryBefore n = none ∨ ∃ l, k ≤ l ∧ p.entryBefore n = some (p.place l) := by
  induction hmn with
  | refl => exact Or.inr ⟨k, Nat.le_refl k, h⟩
  | @step n _ ih =>
    obtain hnone | ⟨l, hkl, hl⟩ := ih
    · left
      rw [entryBefore, hnone]
      rfl
    · obtain ⟨l', hle, hschedule⟩ : ∃ l', l ≤ l' ∧
          (visit p.rt (p.first + n) (p.place l)).schedule = p.place l' := exists_schedule
      rw [entryBefore_succ hl, hschedule]
      split
      · exact Or.inl rfl
      · exact Or.inr ⟨l', Nat.le_trans hkl hle, rfl⟩

theorem nextTime_of_raised (h : p.entryBefore n = some (p.place j))
    (hraised : p.raisedAt n = some t) :
    p.nextTime j = t ∧ p.nextTime j ≠ 0 := by
  rw [raisedAt_of_place h, visit_place] at hraised
  split_ifs at hraised with hzero
  · exact ⟨Option.some.inj hraised, hzero⟩

section nullDate

variable (hnull : ∀ i c, p.occurrences.get i = some c → p.Taken c → p.time c ≠ 0)

include hnull

theorem visit_of_early (hj : p.occurrences.get j = some c) (htaken : p.Taken c)
    (hlater : now < p.time c) (hsoon : p.time c - now < 2 ^ 31) :
    visit p.rt now (p.place j) =
      { schedule := p.place (p.ask now j), raised := none, removed := false } := by
  have hnot : ¬ DateTime.difference (p.time c) now ≤ 0 := by
    rw [DateTime.difference_nonpos_iff]
    omega
  rw [visit_place, nextTime_of_some hj, if_neg (hnull j c hj htaken), if_neg hnot]

theorem visit_of_due (hj : p.occurrences.get j = some c) (htaken : p.Taken c)
    (hdue : p.time c ≤ now ∨ 2 ^ 31 ≤ p.time c - now) : visit p.rt now (p.place j) =
      { schedule := p.place (p.behind now j), raised := some (p.time c),
        removed := decide (p.nextTime (p.ask now j) = 0) } := by
  rw [visit_place, nextTime_of_some hj, if_neg (hnull j c hj htaken),
    if_pos (DateTime.difference_nonpos_iff.2 hdue)]

theorem get_of_removed (hj : p.occurrences.get j = some c) (htaken : p.Taken c)
    (hremoved : p.nextTime (p.ask now j) = 0) : p.occurrences.get (j + 1) = none := by
  by_cases hshown : p.Shown c now
  · rw [ask_of_shown hj hshown] at hremoved
    rcases hd : p.occurrences.get (j + 1) with - | d
    · rfl
    · rw [nextTime_of_some hd] at hremoved
      exact absurd hremoved (hnull _ d hd (htaken.mono hj hd))
  · rw [ask_of_not_shown hj hshown, nextTime_of_some hj] at hremoved
    exact absurd hremoved (hnull j c hj htaken)

theorem raisedAt_of_stands (h : p.Stands n j)
    (htaken : ∀ c, p.occurrences.get j = some c → p.Taken c)
    (hsoon : ∀ c, p.occurrences.get j = some c → p.time c - (p.first + n) < 2 ^ 31) :
    p.raisedAt n = some t ↔
      ∃ c, p.occurrences.get j = some c ∧ p.time c ≤ p.first + n ∧ t = p.time c := by
  obtain hentry | ⟨hentry, hend⟩ := h
  · rw [raisedAt_of_place hentry]
    rcases hj : p.occurrences.get j with - | c
    · rw [visit_place, nextTime_of_none hj]
      exact iff_of_false nofun fun ⟨c, hc, _⟩ => nomatch hc
    · by_cases hdue : p.time c ≤ p.first + n
      · rw [visit_of_due hnull hj (htaken c hj) (Or.inl hdue)]
        constructor
        · intro ht
          exact ⟨c, rfl, hdue, (Option.some.inj ht).symm⟩
        · rintro ⟨d, hd, -, rfl⟩
          cases hd
          rfl
      · rw [visit_of_early hnull hj (htaken c hj) (Int.not_le.mp hdue) (hsoon c hj)]
        refine iff_of_false nofun ?_
        rintro ⟨d, hd, hle, -⟩
        cases hd
        exact hdue hle
  · rw [raisedAt_of_none hentry]
    refine iff_of_false nofun ?_
    rintro ⟨c, hc, -⟩
    rw [hend] at hc
    cases hc

variable (hT : ∀ i c d, p.occurrences.get i = some c → p.occurrences.get (i + 1) = some d →
  p.time c < p.time d)

include hT

/-- **The step.** Where the next occurrence meets what it has to, the schedule stands at the right
place a second later. -/
theorem Stands.step (h : p.Stands n j) (hup : p.UpTo (p.first + n) j)
    (hgoes : p.Goes (p.first + n) j) :
    ∃ i, p.UpTo (p.first + (n + 1 : ℕ)) i ∧ p.Stands (n + 1) i := by
  have hnow : p.first + ((n + 1 : ℕ) : ℤ) = p.first + n + 1 := by
    omega
  rw [hnow]
  rcases hj : p.occurrences.get j with - | c
  · -- nothing is left
    have hover : p.UpTo (p.first + n + 1) j := by
      refine ⟨fun i c hij hi htaken => ?_, fun c hc => ?_⟩
      · have hlt := hup.past i c hij hi htaken
        omega
      · rw [hj] at hc
        cases hc
    refine ⟨j, hover, Or.inr ⟨?_, hj⟩⟩
    obtain hentry | ⟨hentry, -⟩ := h
    · rw [entryBefore_succ hentry, visit_place, nextTime_of_none hj]
      rfl
    · rw [entryBefore, hentry]
      rfl
  · obtain ⟨htaken, hle⟩ := hup.next c hj
    have hentry : p.entryBefore n = some (p.place j) := by
      obtain hentry | ⟨-, hend⟩ := h
      · exact hentry
      · rw [hj] at hend
        cases hend
    rcases Int.lt_or_eq_of_le hle with hlater | heq
    · -- the next occurrence is to come
      refine ⟨j, ⟨fun i d hij hi hd => ?_, fun d hd => ?_⟩, Or.inl ?_⟩
      · have hlt := hup.past i d hij hi hd
        omega
      · rw [hj] at hd
        cases hd
        exact ⟨htaken, hlater⟩
      · rw [entryBefore_succ hentry, visit_of_early hnull hj htaken hlater (hgoes.soon c hj),
          ask_of_not_shown hj (hgoes.not_early c hj hlater)]
        rfl
    · -- it is raised now
      have hkept := hgoes.kept c hj heq.symm
      refine ⟨j + 1, ⟨fun i d hij hi hd => ?_, fun d hd => ?_⟩, ?_⟩
      · rcases Nat.lt_succ_iff_lt_or_eq.mp hij with hbefore | rfl
        · have hlt := hup.past i d hbefore hi hd
          omega
        · rw [hj] at hi
          cases hi
          omega
      · refine ⟨htaken.mono hj hd, ?_⟩
        have hlt := hT j c d hj hd
        omega
      · rw [Stands, entryBefore_succ hentry, visit_of_due hnull hj htaken (Or.inl (by omega))]
        by_cases hremoved : p.nextTime (p.ask (p.first + n) j) = 0
        · rw [decide_eq_true hremoved]
          exact Or.inr ⟨rfl, get_of_removed hnull hj htaken hremoved⟩
        · rw [decide_eq_false hremoved]
          have hbehind := (behind_eq_succ_iff hj).mpr hkept
          rw [← heq] at hbehind
          rw [hbehind]
          exact Or.inl rfl

/-! ## The law -/

omit hnull in
/-- **Lost.** An occurrence that the schedule has passed before its time is not raised. -/
theorem not_punctual_of_passed {m : ℕ} (h : p.entryBefore m = some (p.place k)) (hik : i < k)
    (hi : p.occurrences.get i = some c) (hlater : p.first + m ≤ p.time c)
    (hafter : p.scheduled < p.time c) : ¬ p.Punctual := by
  intro hlaw
  have hraised := hlaw.every i c hi hafter
  have hm : m ≤ (p.time c - p.first).toNat := by omega
  obtain hnone | ⟨l, hkl, hl⟩ := entryBefore_of_le h hm
  · rw [raisedAt_of_none hnone] at hraised
    cases hraised
  · obtain ⟨htime, hzero⟩ := nextTime_of_raised hl hraised
    rcases hget : p.occurrences.get l with - | d
    · exact hzero (nextTime_of_none hget)
    · rw [nextTime_of_some hget] at htime
      have heq := time_injective hT hget hi htime
      omega

theorem Punctual.goes (hlaw : p.Punctual) (h : p.Stands n j) (hup : p.UpTo (p.first + n) j) :
    p.Goes (p.first + n) j := by
  have hentry (c : ℤ) (hj : p.occurrences.get j = some c) :
      p.entryBefore n = some (p.place j) := by
    obtain hentry | ⟨-, hend⟩ := h
    · exact hentry
    · rw [hj] at hend
      cases hend
  have hscheduled := p.scheduled_le
  have hsoon (c : ℤ) (hj : p.occurrences.get j = some c) :
      p.time c - (p.first + n) < 2 ^ 31 := by
    by_contra hfar
    -- it would be raised at once
    have hraised : p.raisedAt n = some (p.time c) := by
      rw [raisedAt_of_place (hentry c hj),
        visit_of_due hnull hj (hup.next c hj).1 (Or.inr (Int.not_lt.mp hfar))]
    have hsecond := (hlaw.at_occurrence n _ hraised).1
    omega
  refine ⟨hsoon, fun c hj hlater hshown => ?_, fun c hj hdue => ?_⟩
  · -- it would be passed before its time
    obtain ⟨htaken, -⟩ := hup.next c hj
    have hpassed : p.entryBefore (n + 1) = some (p.place (j + 1)) := by
      rw [entryBefore_succ (hentry c hj), visit_of_early hnull hj htaken hlater (hsoon c hj),
        ask_of_shown hj hshown]
      rfl
    exact not_punctual_of_passed hT hpassed (Nat.lt_succ_self j) hj (by omega) (by omega) hlaw
  · obtain ⟨htaken, -⟩ := hup.next c hj
    by_cases hremoved : p.nextTime (p.ask (p.first + n) j) = 0
    · -- nothing comes behind it
      have hend := get_of_removed hnull hj htaken hremoved
      have hshown : p.Shown c (p.first + n) := by
        by_contra hnot
        rw [ask_of_not_shown hj hnot, nextTime_of_some hj] at hremoved
        exact hnull j c hj htaken hremoved
      refine ⟨Or.inl (by rw [hdue]; exact hshown), fun d hd => ?_⟩
      rw [hend] at hd
      cases hd
    · have hnext : p.entryBefore (n + 1) = some (p.place (p.behind (p.first + n) j)) := by
        rw [entryBefore_succ (hentry c hj),
          visit_of_due hnull hj htaken (Or.inl (Int.le_of_eq hdue)), decide_eq_false hremoved]
        rfl
      by_contra hnot
      have hbehind : p.behind (p.first + n) j ≠ j + 1 := by
        rw [← hdue]
        exact fun heq => hnot ((behind_eq_succ_iff hj).mp heq)
      have hle : j ≤ p.behind (p.first + n) j := Nat.le_trans le_ask le_behind
      rcases Nat.eq_or_lt_of_le hle with hstays | hlt
      · -- it would be raised again
        rw [← hstays] at hnext
        have hagain : p.raisedAt (n + 1) = some (p.time c) := by
          rw [raisedAt_of_place hnext, visit_of_due hnull hj htaken (Or.inl (by omega))]
        have hsecond := (hlaw.at_occurrence (n + 1) _ hagain).1
        omega
      · -- the next one would be passed
        obtain ⟨d, hd⟩ := exists_of_lt_behind (Nat.le_succ j)
          (Nat.lt_of_le_of_ne hlt fun heq => hbehind heq.symm)
        have hlater := hT j c d hj hd
        exact not_punctual_of_passed hT hnext
          (Nat.lt_of_le_of_ne hlt fun heq => hbehind heq.symm) hd (by omega) (by omega) hlaw

omit hnull hT in
theorem start_spec (hstart : ∀ i c, p.occurrences.get i = some c → p.Taken c →
    p.first ≤ p.time c) : ∃ j, p.UpTo (p.first + (0 : ℕ)) j ∧ p.Stands 0 j := by
  obtain ⟨-, hpassed, hend⟩ := p.occurrences.skip_spec (startOf p.zone p.isUtc p.scheduled) 0
  refine ⟨_, ⟨fun i c hi hc htaken => ?_, fun c hc => ?_⟩, Or.inl entryBefore_zero⟩
  · obtain ⟨d, hd, hbelow⟩ := hpassed i (Nat.zero_le i) hi
    rw [hc] at hd
    cases hd
    exact absurd htaken (Int.not_le.mpr hbelow)
  · have htaken : p.Taken c := hend c hc
    have hfirst := hstart _ c hc htaken
    exact ⟨htaken, by omega⟩

theorem Punctual.start (hlaw : p.Punctual) :
    (∀ i c, p.occurrences.get i = some c → ¬ p.Taken c → p.time c ≤ p.scheduled) ∧
      ∀ i c, p.occurrences.get i = some c → p.Taken c → p.first ≤ p.time c := by
  obtain ⟨-, hpassed, hend⟩ := p.occurrences.skip_spec (startOf p.zone p.isUtc p.scheduled) 0
  have hfirst := p.first_le
  have hplace (i : ℕ) (c : ℤ) (hi : p.occurrences.get i = some c) :
      p.Taken c ↔ p.occurrences.skip (startOf p.zone p.isUtc p.scheduled) 0 ≤ i := by
    constructor
    · intro htaken
      by_contra hlt
      obtain ⟨d, hd, hbelow⟩ := hpassed i (Nat.zero_le i) (Nat.lt_of_not_le hlt)
      rw [hi] at hd
      cases hd
      exact absurd htaken (Int.not_le.mpr hbelow)
    · intro hle
      obtain ⟨d, hd⟩ := Ascending.exists_of_le hle hi
      have hbound := hend d hd
      rcases Nat.eq_or_lt_of_le hle with heq | hlt
      · rw [heq, hi] at hd
        cases hd
        exact hbound
      · exact Int.le_trans hbound (Int.le_of_lt (Ascending.lt_of_lt hlt hd hi))
  constructor
  · intro i c hi hnot
    by_contra hafter
    rw [hplace i c hi] at hnot
    exact not_punctual_of_passed hT entryBefore_zero (Nat.lt_of_not_le hnot) hi (by omega)
      (by omega) hlaw
  · intro i c hi htaken
    by_contra hlate
    obtain ⟨d, hd⟩ := Ascending.exists_of_le ((hplace i c hi).mp htaken) hi
    have htaken' : p.Taken d := hend d hd
    have hle : p.time d ≤ p.time c := by
      rcases Nat.eq_or_lt_of_le ((hplace i c hi).mp htaken) with heq | hlt
      · rw [heq, hi] at hd
        cases hd
        exact Int.le_refl _
      · exact Int.le_of_lt (time_lt hT hlt hd hi)
    have hraised : p.raisedAt 0 = some (p.time d) := by
      rw [raisedAt_of_place entryBefore_zero,
        visit_of_due hnull hd htaken' (Or.inl (by omega))]
    have hsecond := (hlaw.at_occurrence 0 _ hraised).1
    omega

omit hnull hT in
theorem Fits.goes (h : p.Fits) (hnow : p.first ≤ now) (hup : p.UpTo now j) : p.Goes now j := by
  refine ⟨fun c hj => ?_, fun c hj hlater => ?_, fun c hj _ => h.kept j c hj (hup.next c hj).1⟩
  · exact h.soon j c now hj (hup.next c hj).1 hnow fun k d hk hd htaken =>
      hup.past k d hk hd htaken
  · exact h.not_early j c now hj (hup.next c hj).1 hnow hlater fun k d hk hd htaken =>
      hup.past k d hk hd htaken

theorem Fits.stands (h : p.Fits) (n : ℕ) : ∃ j, p.UpTo (p.first + n) j ∧ p.Stands n j := by
  induction n with
  | zero => exact start_spec h.in_time
  | succ n ih =>
    obtain ⟨j, hup, hstands⟩ := ih
    exact hstands.step hnull hT hup (h.goes (by omega) hup)

theorem Fits.punctual (h : p.Fits) : p.Punctual := by
  refine ⟨fun n t hraised => ?_, fun i c hi hafter => ?_⟩
  · obtain ⟨j, hup, hstands⟩ := h.stands hnull hT n
    obtain ⟨c, hj, hdue, rfl⟩ := (raisedAt_of_stands hnull hstands
      (fun c hj => (hup.next c hj).1) (h.goes (by omega) hup).soon).mp hraised
    have hle := (hup.next c hj).2
    exact ⟨by omega, j, c, hj, rfl⟩
  · have htaken : p.Taken c := by
      by_contra hnot
      have hle := h.skipped i c hi hnot
      omega
    have hfirst := h.in_time i c hi htaken
    have hnow : p.first + ((p.time c - p.first).toNat : ℤ) = p.time c := by omega
    obtain ⟨j, hup, hstands⟩ := h.stands hnull hT (p.time c - p.first).toNat
    have hsoon := (h.goes (by omega) hup).soon
    rw [hnow] at hup
    have hplace : p.UpTo (p.time c) i :=
      ⟨fun k d hk hd _ => time_lt hT hk hd hi, fun d hd => by
        rw [hi] at hd
        cases hd
        exact ⟨htaken, Int.le_refl _⟩⟩
    obtain rfl := hup.unique hplace hi
    exact (raisedAt_of_stands hnull hstands (fun c hj => (hup.next c hj).1) hsoon).mpr
      ⟨c, hi, Int.le_of_eq hnow.symm, rfl⟩

theorem Punctual.stands (hlaw : p.Punctual) (n : ℕ) :
    ∃ j, p.UpTo (p.first + n) j ∧ p.Stands n j := by
  induction n with
  | zero => exact start_spec (hlaw.start hnull hT).2
  | succ n ih =>
    obtain ⟨j, hup, hstands⟩ := ih
    exact hstands.step hnull hT hup (hlaw.goes hnull hT hstands hup)

theorem Punctual.goes_of_upTo (hlaw : p.Punctual) (hi : p.occurrences.get i = some c)
    (hnow : p.first ≤ now) (hup : p.UpTo now i) : p.Goes now i := by
  obtain ⟨n, rfl⟩ : ∃ n : ℕ, now = p.first + n := ⟨(now - p.first).toNat, by omega⟩
  obtain ⟨j, hplace, hstands⟩ := hlaw.stands hnull hT n
  obtain rfl := hplace.unique hup hi
  exact hlaw.goes hnull hT hstands hup

theorem Punctual.fits (hlaw : p.Punctual) : p.Fits := by
  obtain ⟨hskipped, hfirst⟩ := hlaw.start hnull hT
  have hplace {i : ℕ} {c now : ℤ} (hi : p.occurrences.get i = some c) (htaken : p.Taken c)
      (hle : now ≤ p.time c)
      (hover : ∀ k d, k < i → p.occurrences.get k = some d → p.Taken d → p.time d < now) :
      p.UpTo now i := by
    refine ⟨hover, fun d hd => ?_⟩
    rw [hi] at hd
    cases hd
    exact ⟨htaken, hle⟩
  refine ⟨hskipped, hfirst, fun i c now hi htaken hnow hlater hover => ?_,
    fun i c hi htaken => ?_, fun i c now hi htaken hnow hover => ?_⟩
  · exact (hlaw.goes_of_upTo hnull hT hi hnow
      (hplace hi htaken (Int.le_of_lt hlater) hover)).not_early c hi hlater
  · exact (hlaw.goes_of_upTo hnull hT hi (hfirst i c hi htaken)
      (hplace hi htaken (Int.le_refl _) fun k d hk hd _ => time_lt hT hk hd hi)).kept c hi rfl
  · rcases Int.le_total now (p.time c) with hle | hover'
    · exact (hlaw.goes_of_upTo hnull hT hi hnow (hplace hi htaken hle hover)).soon c hi
    · omega

end nullDate

/-- **Recurring events.** If the times of the occurrences ascend and the null date is not one of
them, the event is raised once for each occurrence, in its second and in no other, exactly if the
occurrences fit the clocks. -/
theorem punctual_iff_fits (p : RecurringEvent)
    (hT : ∀ i c d, p.occurrences.get i = some c → p.occurrences.get (i + 1) = some d →
      p.time c < p.time d)
    (hnull : ∀ i c, p.occurrences.get i = some c → p.Taken c → p.time c ≠ 0) :
    p.Punctual ↔ p.Fits :=
  ⟨fun hlaw => hlaw.fits hnull hT, fun h => h.punctual hnull hT⟩

/-! ## A fixed time zone -/

/-- **A fixed time zone.** There, the occurrences fit if none is left from the second of the
scheduling, no two come in adjacent seconds, to the west of Greenwich none comes sooner behind
another one than the clocks are late, and none is 68 years ahead. -/
theorem fits_iff_of_fixed {offset : ℤ} (hzone : p.zone = .fixed offset)
    (hutc : p.isUtc = false) : p.Fits ↔
      (∀ i c, p.occurrences.get i = some c → p.scheduled ≤ p.time c → p.first ≤ p.time c) ∧
      (∀ i c d, p.occurrences.get i = some c → p.occurrences.get (i + 1) = some d →
        p.scheduled ≤ p.time c → p.time c + 1 < p.time d ∧ p.time c < p.time d + offset) ∧
      p.Soon := by
  have htime (c : ℤ) : p.time c = c - offset := by
    rw [time, hutc, hzone]
    rfl
  have hshown (c now : ℤ) : p.Shown c now ↔ c ≤ now + offset := by
    rw [Shown, hzone]
    rfl
  have htaken (c : ℤ) : p.Taken c ↔ p.scheduled + offset ≤ c := by
    rw [Taken, hutc, hzone]
    rfl
  constructor
  · intro h
    refine ⟨fun i c hi hle => ?_, fun i c d hi hd hle => ?_, h.soon⟩
    · have htime' := htime c
      exact h.in_time i c hi ((htaken c).mpr (by omega))
    · have htimes := And.intro (htime c) (htime d)
      obtain ⟨hlt, hnot⟩ := (h.kept i c hi ((htaken c).mpr (by omega))).next_kept d hd
      rw [hshown, hshown] at hnot
      exact ⟨by omega, by omega⟩
  · rintro ⟨hstart, hgap, hsoon⟩
    refine ⟨fun i c hi hnot => ?_, fun i c hi hc => ?_, fun i c now hi _ _ hlater _ => ?_,
      fun i c hi hc => ⟨?_, fun d hd => ?_⟩, hsoon⟩
    · have htime' := htime c
      rw [htaken] at hnot
      omega
    · have htime' := htime c
      rw [htaken] at hc
      exact hstart i c hi (by omega)
    · have htime' := htime c
      rw [hshown]
      omega
    · have htime' := htime c
      rw [hshown]
      omega
    · have htimes := And.intro (htime c) (htime d)
      rw [htaken] at hc
      obtain ⟨hlt, hlate⟩ := hgap i c d hi hd (by omega)
      rw [hshown, hshown]
      omega

/-! ## Two rules -/

def tick : Event where
  name := "tick"
  properties := ((∅ : Properties).insert "iCalStartTime" "20260101T000000").insert
    "iCalRRule" "FREQ=SECONDLY"

def ticking (interval : ℤ) (h : 0 < interval) : RecurringEvent where
  zone := .fixed 3600
  rule _ _ := (.every interval h 3600, false)
  parseRFC2445 _ := none
  dateToString _ := ""
  event := tick
  noTime := rfl
  hasStart := rfl
  hasRule := rfl
  scheduled := 90
  first := 90
  scheduled_le := Int.le_refl _
  first_le := Int.le_add_one (Int.le_refl _)

theorem time_ticking {interval : ℤ} (h : 0 < interval)
    (hi : (ticking interval h).occurrences.get i = some c) :
    c = 3600 + interval * i ∧ (ticking interval h).time c = interval * i := by
  obtain rfl : 3600 + interval * i = c := Option.some.inj hi
  refine ⟨rfl, ?_⟩
  show 3600 + interval * i - 3600 = interval * (i : ℤ)
  omega

theorem soon_ticking : (ticking 60 (by decide)).Soon := by
  intro i c now hi _ hnow hover
  have hc := (time_ticking _ hi).2
  have hfirst : 90 ≤ now := hnow
  cases i with
  | zero => omega
  | succ k =>
    have hk : (ticking 60 (by decide)).occurrences.get k = some (3600 + 60 * k) := rfl
    by_cases htaken : (ticking 60 (by decide)).Taken (3600 + 60 * k)
    · have hlt := hover k _ (Nat.lt_succ_self k) hk htaken
      rw [(time_ticking _ hk).2] at hlt
      omega
    · have hnot : ¬ 90 + 3600 ≤ 3600 + 60 * (k : ℤ) := htaken
      omega

theorem punctual_iff_fits_ticking : (ticking 60 (by decide)).Punctual := by
  refine (punctual_iff_fits _ (fun i c d hi hd => ?_) fun i c hi htaken => ?_).mpr ?_
  · rw [(time_ticking _ hi).2, (time_ticking _ hd).2]
    omega
  · have hc := time_ticking _ hi
    have hle : 90 + 3600 ≤ c := htaken
    omega
  · refine (fits_iff_of_fixed rfl rfl).mpr ⟨fun i c _ hle => hle, fun i c d hi hd _ => ?_,
      soon_ticking⟩
    rw [(time_ticking _ hi).2, (time_ticking _ hd).2]
    omega

/-- Each second: in the second behind one in which it is raised, the event is not raised. -/
theorem punctual_fails : (ticking 1 (by decide)).raisedAt 0 = some 90 ∧
    (ticking 1 (by decide)).raisedAt 1 = none ∧
    ¬ ∀ p : RecurringEvent,
      (∀ i c d, p.occurrences.get i = some c → p.occurrences.get (i + 1) = some d →
        p.time c < p.time d) →
      (∀ i c, p.occurrences.get i = some c → p.Taken c → p.time c ≠ 0) → p.Punctual := by
  have hfirst : (ticking 1 (by decide)).raisedAt 0 = some 90 := by decide +kernel
  have hsecond : (ticking 1 (by decide)).raisedAt 1 = none := by decide +kernel
  refine ⟨hfirst, hsecond, fun h => ?_⟩
  have hlaw := h (ticking 1 (by decide)) (fun i c d hi hd => by
    rw [(time_ticking _ hi).2, (time_ticking _ hd).2]
    omega) fun i c hi htaken => by
      have hc := time_ticking _ hi
      have hle : 90 + 3600 ≤ c := htaken
      omega
  have hraised : (ticking 1 (by decide)).raisedAt 1 = some 91 :=
    hlaw.every 91 3691 rfl (by decide)
  cases hraised

end RecurringEvent

end Dss
