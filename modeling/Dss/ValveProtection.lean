import Dss.EventRunnerEntries
import Dss.Transition

/-!
# The valve protection round

Once a week `HeatingValveProtectionTask` calls a scene in every zone with heating devices, one zone
in a run: the run posts an event that starts the next one, and a static index tells where it goes
on. A scene call that throws ends the round there, and the next week starts at the same zone.
-/

namespace Dss

open List

structure ValveZone : Type where
  /-- `getID` -/
  id : ℕ
  /-- the devices in its group `GroupIDControlTemperature` -/
  devices : List String

namespace ValveZone

/-- Whether the scene is called in it. -/
def Eligible (zone : ValveZone) : Prop := zone.id ≠ 0 ∧ zone.devices ≠ []

instance (zone : ValveZone) : Decidable zone.Eligible :=
  inferInstanceAs (Decidable (zone.id ≠ 0 ∧ zone.devices ≠ []))

end ValveZone

/-- What lies outside. -/
structure ValveRuntime (S : Type) : Type where
  runner : ScheduleRuntime S
  /-- 14:00 on the first day of the calendar and so many minutes, as `toRFC2445IcalDataTime`
  writes it -/
  startTime : ℕ → String

structure ValveTask (S : Type) : Type where
  zoneIndex : ℕ := 0
  eventRunner : EventRunner S
  /-- the scene calls of this round: when, and in which zone of the list -/
  attempts : List (ℤ × ℕ) := []
  rounds : List (List (ℤ × ℕ)) := []

/-- A round: when the weekly event comes, how much later than they should the events behind it
come, and in which zones of the list the scene call throws. -/
structure ValveRound : Type where
  start : ℤ
  late : ℕ → ℕ := fun _ => 0
  throws : ℕ → Bool := fun _ => false

namespace ValveTask

variable {S : Type}

/-! ## The task -/

/-- `EventName::HeatingValveProtection` -/
def heatingValveProtection : String := "execute_valve_protection"

def postedEvent : Event := ({ name := heatingValveProtection } : Event).setProperty "time" "+900"

def weeklyEvent (rt : ValveRuntime S) (randomizeStartMinutes : ℕ) : Event :=
  (({ name := heatingValveProtection } : Event).setProperty "iCalStartTime"
    (rt.startTime randomizeStartMinutes)).setProperty "iCalRRule" "FREQ=WEEKLY;BYDAY=TH"

/-- How the loop over the zones ends. -/
inductive Outcome : Type where
  /-- behind the last zone -/
  | finished : Outcome
  | called (i : ℕ) : Outcome
  /-- with a call in this zone that throws -/
  | threw (i : ℕ) : Outcome

/-- The loop of `run`, from a position in the list. -/
def runLoop (throws : ℕ → Bool) : ℕ → List ValveZone → Outcome
  | _, [] => .finished
  | i, zone :: zones =>
    if zone.id = 0 then runLoop throws (i + 1) zones
    else if zone.devices = [] then runLoop throws (i + 1) zones
    else if throws i then .threw i
    else .called i

/-- `run` on `HeatingValveProtection`. What is thrown is caught. -/
def run (rt : ValveRuntime S) (zones : List ValveZone) (throws : ℕ → Bool) (now : ℤ)
    (w : ValveTask S) : ValveTask S :=
  match runLoop throws w.zoneIndex (zones.drop w.zoneIndex) with
  | .finished => { w with zoneIndex := 0 }
  | .threw i => { w with zoneIndex := i, attempts := w.attempts ++ [(now, i)] }
  | .called i =>
    let w := { w with zoneIndex := i, attempts := w.attempts ++ [(now, i)] }
    match w.eventRunner.pushEvent rt.runner now postedEvent with
    | (r, some _) => { w with eventRunner := r }
    | (r, none) => { w with eventRunner := r, zoneIndex := i + 1 }

/-- `run` on `ModelReady` -/
def runModelReady (rt : ValveRuntime S) (now : ℤ) (randomizeStartMinutes : ℕ)
    (w : ValveTask S) : ValveTask S :=
  { w with
    eventRunner :=
      (w.eventRunner.pushEvent rt.runner now (weeklyEvent rt randomizeStartMinutes)).1 }

/-! ## Rounds -/

def dueTime (x : ScheduledEvent S) : Option ℤ :=
  if x.event.name = heatingValveProtection then
    match x.schedule with
    | .static when => some when
    | .iCal _ => none
  else none

def posted (r : EventRunner S) : List ℤ := r.scheduledEvents.filterMap dueTime

/-- The event runner raises the first event that was posted, and the task runs. -/
def deliver (rt : ValveRuntime S) (zones : List ValveZone) (throws : ℕ → Bool) (late : ℕ)
    (w : ValveTask S) : ValveTask S :=
  match posted w.eventRunner with
  | [] => w
  | due :: _ =>
    let entries := w.eventRunner.scheduledEvents.eraseP fun x => (dueTime x).isSome
    run rt zones throws (due + late)
      { w with eventRunner := { w.eventRunner with scheduledEvents := entries } }

def deliverAll (rt : ValveRuntime S) (zones : List ValveZone) (throws : ℕ → Bool) :
    (late : ℕ → ℕ) → ℕ → ValveTask S → ValveTask S
  | _, 0, w => w
  | late, n + 1, w =>
    deliverAll rt zones throws (fun i => late (i + 1)) n (deliver rt zones throws (late 0) w)

def performRound (rt : ValveRuntime S) (zones : List ValveZone) (round : ValveRound)
    (w : ValveTask S) : ValveTask S :=
  let w := deliverAll rt zones round.throws round.late zones.length
    (run rt zones round.throws round.start { w with attempts := [] })
  { w with rounds := w.rounds ++ [w.attempts] }

inductive Input : Type where
  | modelReady (now : ℤ) (randomizeStartMinutes : ℕ)
  | week (round : ValveRound)

/-- The model is ready, or a week has gone by. -/
def step (rt : ValveRuntime S) (zones : List ValveZone) (w : ValveTask S) : Input → ValveTask S
  | .modelReady now randomizeStartMinutes => runModelReady rt now randomizeStartMinutes w
  | .week round => performRound rt zones round w

structure RoundLaw (zones : List ValveZone) (attempts : List (ℤ × ℕ)) : Prop where
  /-- one in each zone that has devices, and no other -/
  once : ∀ i, (attempts.map Prod.snd).count i =
    if (zones[i]?.any fun zone => zone.Eligible) then 1 else 0
  apart : attempts.Pairwise fun a b => a.1 + 900 ≤ b.1

/-- Every round was lawful, and the task is ready for the next one. -/
structure Law (zones : List ValveZone) (w : ValveTask S) : Prop where
  rounds : ∀ attempts ∈ w.rounds, RoundLaw zones attempts
  zoneIndex_eq : w.zoneIndex = 0
  /-- and nothing else starts the task before -/
  posted_eq : posted w.eventRunner = []

/-- Before the first input. -/
structure Start (w : ValveTask S) : Prop where
  rounds_eq : w.rounds = []
  zoneIndex_eq : w.zoneIndex = 0
  posted_eq : posted w.eventRunner = []

/-- The positions of the zones that have devices, from this one on. -/
def eligibleFrom : ℕ → List ValveZone → List ℕ
  | _, [] => []
  | i, zone :: zones =>
    if zone.Eligible then i :: eligibleFrom (i + 1) zones else eligibleFrom (i + 1) zones

/-- No call throws in a zone that has devices, unless this is the first of the list and no
other has. -/
def Fits (zones : List ValveZone) (_ : ValveTask S) : Input → Prop
  | .modelReady _ _ => True
  | .week round => (∀ i ∈ eligibleFrom 0 zones, round.throws i = false) ∨
      eligibleFrom 0 zones = [0]

/-! ## Positions -/

section positions

variable {zones : List ValveZone} {throws : ℕ → Bool} {i j k : ℕ} {ps js : List ℕ}

theorem le_of_mem_eligibleFrom (h : j ∈ eligibleFrom i zones) : i ≤ j := by
  induction zones generalizing i with
  | nil => cases h
  | cons zone zones ih =>
    rw [eligibleFrom] at h
    split_ifs at h with heligible
    · rcases mem_cons.mp h with rfl | htail
      · exact le_rfl
      · exact Nat.le_of_succ_le (ih htail)
    · exact Nat.le_of_succ_le (ih h)

theorem eligibleFrom_tail (h : eligibleFrom i (zones.drop i) = j :: js) :
    eligibleFrom (j + 1) (zones.drop (j + 1)) = js := by
  generalize hrest : zones.drop i = rest at h
  induction rest generalizing i with
  | nil => cases h
  | cons zone rest ih =>
    have hdrop : zones.drop (i + 1) = rest := by
      rw [← tail_drop, hrest, tail_cons]
    rw [eligibleFrom] at h
    split_ifs at h with heligible
    · obtain ⟨rfl, rfl⟩ := cons.inj h
      rw [hdrop]
    · exact ih hdrop h

theorem count_eligibleFrom : (eligibleFrom k zones).count (k + i) =
    if (zones[i]?.any fun zone => zone.Eligible) then 1 else 0 := by
  induction zones generalizing i k with
  | nil => rfl
  | cons zone zones ih =>
    have hnone : (eligibleFrom (k + 1) zones).count k = 0 := by
      rw [count_eq_zero]
      intro hmem
      exact absurd (le_of_mem_eligibleFrom hmem) (Nat.not_succ_le_self k)
    rw [eligibleFrom]
    cases i with
    | zero =>
      rw [Nat.add_zero, getElem?_cons_zero, Option.any_some]
      by_cases heligible : zone.Eligible
      · rw [if_pos heligible, count_cons_self, hnone, if_pos (decide_eq_true heligible)]
      · rw [if_neg heligible, hnone, if_neg (by simpa using heligible)]
    | succ i =>
      have hne : k ≠ k + 1 + i := by omega
      rw [getElem?_cons_succ, Nat.add_comm i 1, ← Nat.add_assoc, ← ih]
      by_cases heligible : zone.Eligible
      · rw [if_pos heligible, count_cons_of_ne hne]
      · rw [if_neg heligible]

/-- Where the calls of a round are made: up to the first that throws. -/
def attempted (throws : ℕ → Bool) : List ℕ → List ℕ
  | [] => []
  | i :: rest => i :: if throws i then [] else attempted throws rest

def stopsAt (throws : ℕ → Bool) : List ℕ → ℕ
  | [] => 0
  | i :: rest => if throws i then i else stopsAt throws rest

theorem attempted_eq_self (h : ∀ i ∈ ps, throws i = false) :
    attempted throws ps = ps ∧ stopsAt throws ps = 0 := by
  induction ps with
  | nil => exact ⟨rfl, rfl⟩
  | cons i rest ih =>
    obtain ⟨hattempted, hstops⟩ := ih fun j hj => h j (mem_cons_of_mem i hj)
    have hi := ne_true_of_eq_false (h i mem_cons_self)
    rw [attempted, stopsAt, if_neg hi, if_neg hi, hattempted, hstops]
    exact ⟨rfl, rfl⟩

theorem stopsAt_mem (h : ∃ i ∈ ps, throws i = true) : stopsAt throws ps ∈ ps := by
  induction ps with
  | nil =>
    obtain ⟨i, hi, -⟩ := h
    cases hi
  | cons i rest ih =>
    rw [stopsAt]
    split_ifs with hi
    · exact mem_cons_self
    · obtain ⟨j, hj, hthrows⟩ := h
      rcases mem_cons.mp hj with rfl | hrest
      · exact absurd hthrows hi
      · exact mem_cons_of_mem i (ih ⟨j, hrest, hthrows⟩)

theorem runLoop_eq : runLoop throws i zones =
    match eligibleFrom i zones with
    | [] => .finished
    | j :: _ => if throws j then .threw j else .called j := by
  induction zones generalizing i with
  | nil => rfl
  | cons zone zones ih =>
    rw [runLoop, eligibleFrom]
    by_cases hid : zone.id = 0
    · rw [if_pos hid, if_neg fun heligible => heligible.1 hid, ih]
    · by_cases hdevices : zone.devices = []
      · rw [if_neg hid, if_pos hdevices, if_neg fun heligible => heligible.2 hdevices, ih]
      · have heligible : zone.Eligible := ⟨hid, hdevices⟩
        rw [if_neg hid, if_neg hdevices, if_pos heligible]

end positions

/-! ## One run -/

variable {rt : ValveRuntime S} {zones : List ValveZone} {throws : ℕ → Bool} {now due : ℤ}
  {w : ValveTask S} {r : EventRunner S} {j : ℕ} {js ps : List ℕ}

theorem safeName_heatingValveProtection : SafeName heatingValveProtection :=
  ⟨by decide, by decide, by decide, by decide⟩

theorem pushEvent_postedEvent : ∃ r', r.pushEvent rt.runner now postedEvent = (r', none) ∧
    posted r' = posted r ++ [now + 900] := by
  have hschedule : EventRunner.scheduleFromEvent rt.runner now postedEvent =
      some (.static (now + 900)) := by
    rfl
  obtain ⟨hnone, happends⟩ := @EventRunner.pushEvent_appends S rt.runner r now _ _ hschedule
    (by decide) safeName_heatingValveProtection
  refine ⟨(r.pushEvent rt.runner now postedEvent).1, ?_, ?_⟩
  · rw [← hnone]
  · rw [posted, happends.scheduledEvents_eq, filterMap_append]
    rfl

theorem posted_runModelReady {minutes : ℕ} :
    posted (runModelReady rt now minutes w).eventRunner = posted w.eventRunner := by
  have happends := (@EventRunner.pushEvent_appends_of_rule S rt.runner w.eventRunner now
    (weeklyEvent rt minutes) _ _ _ rfl safeName_heatingValveProtection).2
  rw [runModelReady, posted, happends.scheduledEvents_eq]
  simp [posted, EventRunner.scheduledEvent, dueTime]

theorem run_of_nil (h : eligibleFrom w.zoneIndex (zones.drop w.zoneIndex) = []) :
    run rt zones throws now w = { w with zoneIndex := 0 } := by
  rw [run, runLoop_eq, h]

theorem run_of_throws (h : eligibleFrom w.zoneIndex (zones.drop w.zoneIndex) = j :: js)
    (hthrows : throws j = true) :
    run rt zones throws now w =
      { w with zoneIndex := j, attempts := w.attempts ++ [(now, j)] } := by
  rw [run, runLoop_eq, h]
  dsimp only
  rw [if_pos hthrows]

theorem run_of_succeeds (h : eligibleFrom w.zoneIndex (zones.drop w.zoneIndex) = j :: js)
    (hthrows : throws j = false) :
    ∃ r, run rt zones throws now w =
        { w with
          zoneIndex := j + 1
          attempts := w.attempts ++ [(now, j)]
          eventRunner := r } ∧
      posted r = posted w.eventRunner ++ [now + 900] := by
  obtain ⟨r, hpush, hposted⟩ := @pushEvent_postedEvent S rt now w.eventRunner
  refine ⟨r, ?_, hposted⟩
  rw [run, runLoop_eq, h]
  dsimp only
  rw [if_neg (ne_true_of_eq_false hthrows)]
  rw [hpush]

/-! ## A round -/

theorem deliverAll_of_nil {late : ℕ → ℕ} {n : ℕ} (h : posted w.eventRunner = []) :
    deliverAll rt zones throws late n w = w := by
  induction n generalizing late with
  | zero => rfl
  | succ n ih =>
    rw [deliverAll, deliver, h]
    exact ih

theorem filterMap_eraseP {l : List (ScheduledEvent S)} :
    (l.eraseP fun x => (dueTime x).isSome).filterMap dueTime = (l.filterMap dueTime).tail := by
  induction l with
  | nil => rfl
  | cons x l ih =>
    rcases hx : dueTime x with - | when
    · rw [eraseP_cons_of_neg (by rw [hx]; exact Bool.false_ne_true),
        filterMap_cons_none hx, filterMap_cons_none hx, ih]
    · rw [eraseP_cons_of_pos (by rw [hx]; rfl), filterMap_cons_some hx, tail_cons]

theorem deliver_of_cons {late : ℕ} (h : posted w.eventRunner = [due]) :
    ∃ r, posted r = [] ∧ deliver rt zones throws late w =
      run rt zones throws (due + late) { w with eventRunner := r } := by
  refine ⟨{ w.eventRunner with scheduledEvents :=
    w.eventRunner.scheduledEvents.eraseP fun x => (dueTime x).isSome }, ?_, ?_⟩
  · rw [posted, filterMap_eraseP]
    rw [posted] at h
    rw [h, tail_cons]
  · rw [deliver, h]

/-- What the runs of a round have done, from a position with these zones to come. -/
structure Performed (throws : ℕ → Bool) (ps : List ℕ) (now : ℤ) (w w' : ValveTask S) :
    Prop where
  /-- the calls, up to the first that throws, 15 minutes apart -/
  attempts : ∃ new, w'.attempts = w.attempts ++ new ∧
    new.map Prod.snd = attempted throws ps ∧
    (new.Pairwise fun a b => a.1 + 900 ≤ b.1) ∧ ∀ a ∈ new, now ≤ a.1
  zoneIndex_eq : w'.zoneIndex = stopsAt throws ps
  posted_eq : posted w'.eventRunner = []
  rounds_eq : w'.rounds = w.rounds

theorem performed {n : ℕ} {late : ℕ → ℕ} (hposted : posted w.eventRunner = [])
    (hps : eligibleFrom w.zoneIndex (zones.drop w.zoneIndex) = ps) (hn : ps.length ≤ n) :
    Performed throws ps now w
      (deliverAll rt zones throws late n (run rt zones throws now w)) := by
  induction ps generalizing w n late now with
  | nil =>
    rw [run_of_nil hps, deliverAll_of_nil (by exact hposted)]
    exact ⟨⟨[], (append_nil _).symm, rfl, .nil, fun a ha => (by cases ha)⟩, rfl, hposted, rfl⟩
  | cons j js ih =>
    rcases hthrows : throws j with - | -
    · -- the next zone comes with the event that is posted
      obtain ⟨r, hrun, hr⟩ := @run_of_succeeds S rt zones throws now w j js hps hthrows
      obtain ⟨n, rfl⟩ := Nat.exists_eq_succ_of_ne_zero (Nat.ne_of_gt (Nat.lt_of_lt_of_le
        (Nat.succ_pos js.length) hn))
      rw [hrun, deliverAll]
      obtain ⟨r', hr', hdeliver⟩ := @deliver_of_cons S rt zones throws (now + 900)
        { w with zoneIndex := j + 1, attempts := w.attempts ++ [(now, j)], eventRunner := r }
        (late 0) (by rw [hr, hposted, nil_append])
      rw [hdeliver]
      obtain ⟨⟨new, hnew, hsnd, hapart, hlate⟩, hindex, hnone, hrounds⟩ :=
        @ih (now + 900 + late 0)
          { w with
            zoneIndex := j + 1
            attempts := w.attempts ++ [(now, j)]
            eventRunner := r' } n (fun i => late (i + 1)) hr' (eligibleFrom_tail hps)
          (Nat.le_of_succ_le_succ hn)
      refine ⟨⟨(now, j) :: new, ?_, ?_, ?_, ?_⟩, ?_, hnone, hrounds⟩
      · rw [hnew, append_assoc]
        rfl
      · rw [map_cons, hsnd, attempted, if_neg (ne_true_of_eq_false hthrows)]
      · rw [pairwise_cons]
        refine ⟨fun a ha => ?_, hapart⟩
        have := hlate a ha
        omega
      · intro a ha
        rcases mem_cons.mp ha with rfl | hmem
        · exact Int.le_refl now
        · have := hlate a hmem
          omega
      · rw [hindex, stopsAt, if_neg (ne_true_of_eq_false hthrows)]
    · -- the round ends here
      rw [run_of_throws hps hthrows, deliverAll_of_nil (by exact hposted)]
      refine ⟨⟨[(now, j)], rfl, ?_, pairwise_singleton _ _, ?_⟩, ?_, hposted, rfl⟩
      · simp only [attempted, if_pos hthrows, map_cons, map_nil]
      · intro a ha
        obtain rfl := mem_singleton.mp ha
        exact Int.le_refl now
      · rw [stopsAt, if_pos hthrows]

theorem length_eligibleFrom_le {i : ℕ} : (eligibleFrom i zones).length ≤ zones.length := by
  induction zones generalizing i with
  | nil => exact le_rfl
  | cons zone zones ih =>
    rw [eligibleFrom]
    split_ifs
    · exact Nat.succ_le_succ ih
    · exact Nat.le_succ_of_le ih

theorem performRound_spec {round : ValveRound} (hposted : posted w.eventRunner = [])
    (hindex : w.zoneIndex = 0) :
    ∃ attempts, (performRound rt zones round w).rounds = w.rounds ++ [attempts] ∧
      attempts.map Prod.snd = attempted round.throws (eligibleFrom 0 zones) ∧
      (attempts.Pairwise fun a b => a.1 + 900 ≤ b.1) ∧
      (performRound rt zones round w).zoneIndex = stopsAt round.throws (eligibleFrom 0 zones) ∧
      posted (performRound rt zones round w).eventRunner = [] := by
  obtain ⟨⟨new, hnew, hsnd, hapart, -⟩, hstops, hnone, hrounds⟩ :=
    @performed S rt zones round.throws round.start { w with attempts := [] }
      (eligibleFrom 0 zones) zones.length round.late hposted
      (by rw [hindex, drop_zero]) length_eligibleFrom_le
  refine ⟨new, ?_, hsnd, hapart, hstops, hnone⟩
  rw [performRound]
  rw [hnew, hrounds]
  rfl

/-! ## The condition -/

/-- A round that meets the condition does what it should. -/
theorem Law.step (h : w.Law zones) {input : Input} (hfits : Fits zones w input) :
    (w.step rt zones input).Law zones := by
  cases input with
  | modelReady now minutes =>
    have hposted := @posted_runModelReady S rt now w minutes
    rw [h.posted_eq] at hposted
    rw [ValveTask.step, runModelReady]
    exact ⟨h.rounds, h.zoneIndex_eq, hposted⟩
  | week round =>
    obtain ⟨attempts, hrounds, hsnd, hapart, hstops, hnone⟩ :=
      @performRound_spec S rt zones w round h.posted_eq h.zoneIndex_eq
    have hall : attempted round.throws (eligibleFrom 0 zones) = eligibleFrom 0 zones ∧
        stopsAt round.throws (eligibleFrom 0 zones) = 0 := by
      rcases hfits with hnever | hfirst
      · exact attempted_eq_self hnever
      · rw [hfirst, attempted, stopsAt]
        cases round.throws 0 <;> exact ⟨rfl, rfl⟩
    refine ⟨fun attempts' hmem => ?_, hstops.trans hall.2, hnone⟩
    rw [ValveTask.step, hrounds] at hmem
    rcases mem_append.mp hmem with hold | hlast
    · exact h.rounds attempts' hold
    · rw [mem_singleton.mp hlast]
      refine ⟨fun i => ?_, hapart⟩
      rw [hsnd, hall.1, ← @count_eligibleFrom zones i 0, Nat.zero_add]

/-- A round in which another call throws does not. -/
theorem Law.not_step (h : w.Law zones) {input : Input} (hfits : ¬ Fits zones w input) :
    ¬ (w.step rt zones input).Law zones := by
  intro hlaw
  cases input with
  | modelReady now minutes => exact hfits trivial
  | week round =>
    simp only [Fits, not_or, not_forall, Bool.not_eq_false] at hfits
    obtain ⟨⟨i, hi, hthrows⟩, hne⟩ := hfits
    obtain ⟨attempts, hrounds, hsnd, -, hstops, -⟩ :=
      @performRound_spec S rt zones w round h.posted_eq h.zoneIndex_eq
    have hzero : stopsAt round.throws (eligibleFrom 0 zones) = 0 :=
      hstops.symm.trans hlaw.zoneIndex_eq
    have honce := (hlaw.rounds attempts (by
      rw [ValveTask.step, hrounds]
      exact mem_append_right _ (mem_singleton_self _))).once
    rcases hps : eligibleFrom 0 zones with - | ⟨j, js⟩
    · rw [hps] at hi
      cases hi
    · have hjs := @eligibleFrom_tail zones 0 j js hps
      rw [hps, stopsAt] at hzero
      split_ifs at hzero with hj
      · -- the call in the first zone is the only one
        subst hzero
        apply hne
        rw [hps, cons_inj_right, eq_nil_iff_forall_not_mem]
        intro k hk
        have hpos : 1 ≤ k := by
          rw [← hjs] at hk
          exact le_of_mem_eligibleFrom hk
        have hcount := honce k
        rw [hsnd, ← @count_eligibleFrom zones k 0, Nat.zero_add, hps, attempted, if_pos hj,
          count_cons_of_ne (Nat.ne_of_lt hpos), count_cons_of_ne (Nat.ne_of_lt hpos)] at hcount
        exact count_eq_zero.mp hcount.symm hk
      · -- it stops behind the first position
        rw [hps] at hi
        have hbehind : ∃ k ∈ js, round.throws k = true := by
          rcases mem_cons.mp hi with rfl | htail
          · exact absurd hthrows hj
          · exact ⟨i, htail, hthrows⟩
        have hmem := stopsAt_mem hbehind
        rw [hzero, ← hjs] at hmem
        exact absurd (le_of_mem_eligibleFrom hmem) (Nat.not_succ_le_zero j)

/-- **Valve protection rounds.** In a run, every round calls the scene once in each zone that
has devices, 15 minutes apart, and ends in the start position, exactly if in no round a call
throws in such a zone, or there is no other zone than the first. -/
theorem rounds_iff (rt : ValveRuntime S) (zones : List ValveZone) {w : ValveTask S}
    (h : w.Start) (inputs : List Input) :
    Transition.Always (step rt zones) (Law zones) w inputs ↔
      Transition.Meets (step rt zones) (Fits zones) w inputs := by
  have hlaw : w.Law zones :=
    ⟨fun attempts hmem => absurd (h.rounds_eq ▸ hmem) not_mem_nil, h.zoneIndex_eq, h.posted_eq⟩
  exact Transition.always_iff_meets (fun _ hinv => hinv) (fun _ _ hinv hfits => hinv.step hfits)
    (fun _ _ hinv hfits => hinv.not_step hfits) hlaw

/-! ## Single runs -/

def plainRuntime : ValveRuntime Unit where
  runner := EventRunner.wakeRuntime
  startTime _ := "19700101T140000"

def idle : ValveTask Unit where
  eventRunner := EventRunner.noEvents

def house : List ValveZone :=
  [⟨0, ["a"]⟩, ⟨1, ["b"]⟩, ⟨2, []⟩, ⟨3, ["c"]⟩]

theorem rounds_house : Transition.Always (step plainRuntime house) (Law house) idle
    [.modelReady 1 17, .week { start := 50400 }, .week { start := 655200 }] := by
  refine (rounds_iff plainRuntime house ⟨rfl, rfl, rfl⟩ _).mpr ⟨trivial, ?_, ?_, trivial⟩
  · exact Or.inl fun _ _ => rfl
  · exact Or.inl fun _ _ => rfl

/-- The call in zone 1 throws: zone 3 is left out, and the task stays. -/
theorem rounds_fails : ¬ Transition.Always (step plainRuntime house) (Law house) idle
    [.week { start := 50400, throws := fun i => i = 1 }] := by
  rintro ⟨-, hlaw⟩
  exact absurd hlaw.zoneIndex_eq (by decide)

end ValveTask

end Dss
