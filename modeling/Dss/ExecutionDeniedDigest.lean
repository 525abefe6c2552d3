import Dss.EventRunnerEntries
import Dss.Transition

/-!
# The digest of denied executions

`EventInterpreterPluginExecutionDeniedDigest` collects a text about each action that was not
executed. The first one schedules a check a minute later, which mails the text. It is meant to wait
while there are new denials, but the result of `addSeconds` is dropped: it waits only for a denial
in the same second, and then no other check is scheduled.
-/

namespace Dss

open List

/-- What lies outside. -/
structure DigestRuntime (S : Type) : Type where
  runner : ScheduleRuntime S
  hasInstance : Bool := true
  apartmentName : String

/-- The plugin, with what it reads and writes. -/
structure ExecutionDeniedDigest (S : Type) : Type where
  digest : String := ""
  timestamp : ℤ
  checkScheduled : Bool := false
  eventRunner : EventRunner S
  denials : List (ℤ × Event) := []

namespace ExecutionDeniedDigest

variable {S : Type}

/-! ## The plugin -/

/-- `EventName::ExecutionDenied` -/
def executionDenied : String := "executionDenied"

/-- `EventName::ExecutionDeniedDigestCheck` -/
def executionDeniedDigestCheck : String := "execution_denied_digest_check"

/-- `EventName::SendMail` -/
def sendMail : String := "sendmail"

def action (e : Event) : String :=
  let sourceName :=
    if e.hasPropertySet "source-name" then e.getPropertyByName "source-name" else ""
  if sourceName ≠ "" then sourceName
  else if e.hasPropertySet "action-name" then e.getPropertyByName "action-name" else ""

def reason (e : Event) : String :=
  if e.hasPropertySet "reason" then e.getPropertyByName "reason" else ""

def entry (rt : ScheduleRuntime S) (denial : ℤ × Event) : String :=
  "[" ++ rt.dateToString denial.1 ++ "] " ++ "Action \"" ++ action denial.2 ++
    "\" was not executed. " ++ reason denial.2 ++ "!" ++ "\n" ++ "\n"

def checkEvent : Event :=
  ({ name := executionDeniedDigestCheck } : Event).setProperty "time" "+60"

def mailEvent (rt : DigestRuntime S) (digest : String) : Event :=
  ((({ name := sendMail } : Event).setProperty "body" digest).setProperty "subject"
    "digitalSTROM server actions not executed").setProperty "from" "dSS"
    |>.setProperty "to" rt.apartmentName

/-- `handleEvent` of a denial. -/
def handleDenied (rt : DigestRuntime S) (now : ℤ) (e : Event) (w : ExecutionDeniedDigest S) :
    ExecutionDeniedDigest S :=
  let w := { w with
    timestamp := now
    digest := w.digest ++ entry rt.runner (now, e) }
  if w.checkScheduled then w
  else if rt.hasInstance then
    match w.eventRunner.pushEvent rt.runner now checkEvent with
    | (r, some _) => { w with eventRunner := r }
    | (r, none) => { w with eventRunner := r, checkScheduled := true }
  else w

/-- Whether a check leaves the digest as it is: the last denial, which should be a minute
later here, is not over, and the text is not long. Times are compared in whole seconds. -/
def waits (now : ℤ) (w : ExecutionDeniedDigest S) : Prop :=
  now ≤ w.timestamp ∧ w.digest.utf8ByteSize < 2048

instance (now : ℤ) (w : ExecutionDeniedDigest S) : Decidable (w.waits now) :=
  inferInstanceAs (Decidable (now ≤ w.timestamp ∧ w.digest.utf8ByteSize < 2048))

/-- `handleEvent` of a check. -/
def handleCheck (rt : DigestRuntime S) (now : ℤ) (w : ExecutionDeniedDigest S) :
    ExecutionDeniedDigest S :=
  let w := { w with checkScheduled := false }
  if w.waits now then w
  else if w.digest = "" then w
  else
    let r :=
      if rt.hasInstance then
        (w.eventRunner.pushEvent rt.runner now (mailEvent rt w.digest)).1
      else w.eventRunner
    { w with eventRunner := r, digest := "", timestamp := now }

def handleEvent (rt : DigestRuntime S) (now : ℤ) (e : Event) (w : ExecutionDeniedDigest S) :
    ExecutionDeniedDigest S :=
  if e.name = executionDenied then handleDenied rt now e w
  else if e.name = executionDeniedDigestCheck then handleCheck rt now w
  else w

/-! ## Runs -/

/-- What happens, and when. -/
inductive Input : Type where
  /-- an event `ExecutionDenied` with these properties -/
  | denied (now : ℤ) (properties : Properties)
  /-- the event runner raises the scheduled check, if there is one and it is due -/
  | check (now : ℤ)

def deniedEvent (properties : Properties) : Event :=
  { name := executionDenied, properties := properties }

def isDue (now : ℤ) (x : ScheduledEvent S) : Bool :=
  x.event.name == executionDeniedDigestCheck &&
    match x.schedule with
    | .static when => decide (when ≤ now)
    | .iCal _ => false

def raised (now : ℤ) (w : ExecutionDeniedDigest S) : ExecutionDeniedDigest S :=
  let entries := w.eventRunner.scheduledEvents.eraseP (isDue now)
  { w with eventRunner := { w.eventRunner with scheduledEvents := entries } }

/-- An action is denied, or the runner raises the check. -/
def step (rt : DigestRuntime S) (w : ExecutionDeniedDigest S) : Input → ExecutionDeniedDigest S
  | .denied now properties =>
    handleEvent rt now (deniedEvent properties)
      { w with denials := w.denials ++ [(now, deniedEvent properties)] }
  | .check now =>
    match w.eventRunner.scheduledEvents.find? (isDue now) with
    | none => w
    | some x => handleEvent rt now x.event (w.raised now)

def checks (r : EventRunner S) : ℕ :=
  r.scheduledEvents.countP fun x => x.event.name = executionDeniedDigestCheck

def mails (r : EventRunner S) : List String :=
  (r.eventQueue.filter fun e => e.name = sendMail).map fun e => e.getPropertyByName "body"

def digestOf (rt : ScheduleRuntime S) (denials : List (ℤ × Event)) : String :=
  String.join (denials.map (entry rt))

/-- Every denial is in one mail, or still in the digest, in the order they happened. -/
def Accounted (rt : ScheduleRuntime S) (w : ExecutionDeniedDigest S) : Prop :=
  ∃ (mailed : List (List (ℤ × Event))) (rest : List (ℤ × Event)),
    w.denials = mailed.flatten ++ rest ∧
    mails w.eventRunner = mailed.map (digestOf rt) ∧ w.digest = digestOf rt rest

/-- While something is in the digest, a check is to come. -/
structure Law (rt : ScheduleRuntime S) (w : ExecutionDeniedDigest S) : Prop where
  check : w.digest ≠ "" → 0 < checks w.eventRunner
  /-- nothing is lost, repeated or out of order -/
  accounted : w.Accounted rt

/-- Before the first input. -/
structure Start (w : ExecutionDeniedDigest S) : Prop where
  digest_eq : w.digest = ""
  checkScheduled_eq : w.checkScheduled = false
  checks_eq : checks w.eventRunner = 0
  mails_eq : mails w.eventRunner = []
  denials_eq : w.denials = []

/-- A denial that needs a check finds the instance to schedule it with; no check that is due
waits with a text. -/
def Fits (rt : DigestRuntime S) (w : ExecutionDeniedDigest S) : Input → Prop
  | .denied _ _ => w.checkScheduled = false → rt.hasInstance = true
  | .check now => w.eventRunner.scheduledEvents.any (isDue now) = true → w.digest ≠ "" →
      ¬ w.waits now

/-! ## Texts -/

variable {rt : DigestRuntime S} {now : ℤ} {w : ExecutionDeniedDigest S} {r : EventRunner S}

theorem digestOf_append {denials : List (ℤ × Event)} {denial : ℤ × Event} :
    digestOf rt.runner (denials ++ [denial]) =
      digestOf rt.runner denials ++ entry rt.runner denial := by
  simp [digestOf, String.join]

theorem append_entry_ne_empty {text : String} {denial : ℤ × Event} :
    text ++ entry rt.runner denial ≠ "" := by
  intro h
  have hlist := congrArg String.toList h
  simp [entry] at hlist

theorem step_denied {properties : Properties} :
    (w.step rt (.denied now properties)).timestamp = now ∧
      (w.step rt (.denied now properties)).digest =
        w.digest ++ entry rt.runner (now, deniedEvent properties) := by
  rw [step, handleEvent, if_pos (by rfl), handleDenied]
  split_ifs
  · exact ⟨rfl, rfl⟩
  · split <;> exact ⟨rfl, rfl⟩
  · exact ⟨rfl, rfl⟩

/-! ## What is pushed -/

theorem safeName_executionDeniedDigestCheck : SafeName executionDeniedDigestCheck :=
  ⟨by decide, by decide, by decide, by decide⟩

theorem scheduleFromEvent_checkEvent :
    EventRunner.scheduleFromEvent rt.runner now checkEvent = some (.static (now + 60)) := by
  rfl

theorem pushEvent_checkEvent :
    ∃ r', r.pushEvent rt.runner now checkEvent = (r', none) ∧
      checks r' = checks r + 1 ∧ mails r' = mails r := by
  obtain ⟨hnone, happends⟩ := @EventRunner.pushEvent_appends S rt.runner r now _ _
    scheduleFromEvent_checkEvent (by decide) safeName_executionDeniedDigestCheck
  refine ⟨(r.pushEvent rt.runner now checkEvent).1, ?_, ?_, ?_⟩
  · rw [← hnone]
  · rw [checks, happends.scheduledEvents_eq, checks]
    simp [EventRunner.scheduledEvent, checkEvent, Event.setProperty]
  · rw [mails, happends.eventQueue_eq, mails]

theorem pushEvent_mailEvent {digest : String} :
    checks (r.pushEvent rt.runner now (mailEvent rt digest)).1 = checks r ∧
      mails (r.pushEvent rt.runner now (mailEvent rt digest)).1 = mails r ++ [digest] := by
  have hschedule :
      EventRunner.scheduleFromEvent rt.runner now (mailEvent rt digest) = none := by
    simp [EventRunner.scheduleFromEvent, mailEvent, Event.setProperty, Event.hasPropertySet,
      Properties.has, -AList.insert_empty]
  have hunique : (mailEvent rt digest).isUnique = false := by
    simp [mailEvent, Event.setProperty, Event.isUnique, Event.getPropertyByName,
      Properties.getD, -AList.insert_empty]
  have hbody : (mailEvent rt digest).getPropertyByName "body" = digest := by
    simp [mailEvent, Event.setProperty, Event.getPropertyByName, Properties.getD,
      -AList.insert_empty]
  have hname : (mailEvent rt digest).name = sendMail := by
    simp [mailEvent, Event.setProperty]
  rw [EventRunner.pushEvent, hschedule]
  refine ⟨rfl, ?_⟩
  rw [mails, EventRunner.enqueue, if_neg (by rw [hunique]; simp), filter_append,
    filter_singleton, hname]
  simp [hbody, mails]

theorem checks_raised (h : w.eventRunner.scheduledEvents.any (isDue now) = true) :
    checks (w.raised now).eventRunner + 1 = checks w.eventRunner := by
  obtain ⟨x, hx, hdue⟩ := any_eq_true.mp h
  obtain ⟨y, before, after, -, hy, hsplit, herase⟩ := exists_of_eraseP hx hdue
  have hname : y.event.name = executionDeniedDigestCheck :=
    beq_iff_eq.mp ((Bool.and_eq_true_iff.mp hy).1)
  simp only [checks, raised, herase]
  simp only [hsplit, countP_append, countP_cons, hname, decide_true, if_true,
    Nat.add_assoc]

/-! ## The invariant -/

/-- What holds in a run that meets the condition. -/
structure Inv (rt : DigestRuntime S) (w : ExecutionDeniedDigest S) : Prop where
  checks_eq : checks w.eventRunner = if w.checkScheduled then 1 else 0
  hasInstance : w.checkScheduled = true → rt.hasInstance = true
  scheduled : w.digest ≠ "" → w.checkScheduled = true
  /-- nothing is lost, repeated or out of order -/
  accounted : w.Accounted rt.runner

theorem Start.inv (h : w.Start) : Inv rt w where
  checks_eq := by rw [h.checks_eq, h.checkScheduled_eq]; rfl
  hasInstance hflag := by rw [h.checkScheduled_eq] at hflag; cases hflag
  scheduled hdigest := absurd h.digest_eq hdigest
  accounted := ⟨[], [], h.denials_eq, h.mails_eq, h.digest_eq⟩

theorem Inv.law (h : Inv rt w) : Law rt.runner w where
  check hdigest := by rw [h.checks_eq, h.scheduled hdigest]; decide
  accounted := h.accounted

theorem Accounted.denied {w' : ExecutionDeniedDigest S} (h : w.Accounted rt.runner)
    {denial : ℤ × Event} (hdenials : w'.denials = w.denials ++ [denial])
    (hdigest : w'.digest = w.digest ++ entry rt.runner denial)
    (hmails : mails w'.eventRunner = mails w.eventRunner) : w'.Accounted rt.runner := by
  obtain ⟨mailed, rest, hall, hmailed, hrest⟩ := h
  refine ⟨mailed, rest ++ [denial], ?_, hmails.trans hmailed, ?_⟩
  · rw [hdenials, hall, append_assoc]
  · rw [hdigest, hrest, digestOf_append]

theorem Accounted.mailed {w' : ExecutionDeniedDigest S} (h : w.Accounted rt.runner)
    (hdenials : w'.denials = w.denials) (hdigest : w'.digest = "")
    (hmails : mails w'.eventRunner = mails w.eventRunner ++ [w.digest]) :
    w'.Accounted rt.runner := by
  obtain ⟨mailed, rest, hall, hmailed, hrest⟩ := h
  refine ⟨mailed ++ [rest], [], ?_, ?_, hdigest⟩
  · rw [hdenials, hall]
    simp
  · rw [hmails, hmailed, hrest, map_append, map_cons, map_nil]

theorem Accounted.congr {w' : ExecutionDeniedDigest S} (h : w.Accounted rt.runner)
    (hdenials : w'.denials = w.denials) (hdigest : w'.digest = w.digest)
    (hmails : mails w'.eventRunner = mails w.eventRunner) : w'.Accounted rt.runner := by
  obtain ⟨mailed, rest, hall, hmailed, hrest⟩ := h
  exact ⟨mailed, rest, hdenials.trans hall, hmails.trans hmailed, hdigest.trans hrest⟩

/-! ## Denials -/

variable {properties : Properties}

theorem handleEvent_denied : handleEvent rt now (deniedEvent properties) w =
    handleDenied rt now (deniedEvent properties) w := if_pos rfl

theorem Inv.denied (h : Inv rt w)
    (hfits : w.checkScheduled = false → rt.hasInstance = true) :
    Inv rt (w.step rt (.denied now properties)) := by
  rw [step, handleEvent_denied, handleDenied]
  rcases hflag : w.checkScheduled with - | -
  · -- the check is pushed
    obtain ⟨r', hpush, hchecks, hmails⟩ := @pushEvent_checkEvent S rt now w.eventRunner
    simp only [Bool.false_eq_true, if_false, hfits hflag, if_true, hpush]
    exact {
      checks_eq := by
        rw [hchecks, h.checks_eq, hflag]
        rfl
      hasInstance := fun _ => hfits hflag
      scheduled := fun _ => rfl
      accounted := h.accounted.denied rfl rfl hmails }
  · -- there is one
    simp only [if_true]
    exact {
      checks_eq := by
        rw [h.checks_eq, hflag]
      hasInstance := fun _ => h.hasInstance hflag
      scheduled := fun _ => rfl
      accounted := h.accounted.denied rfl rfl rfl }

theorem Inv.not_law_denied (h : Inv rt w) (hflag : w.checkScheduled = false)
    (hnone : rt.hasInstance = false) : ¬ Law rt.runner (w.step rt (.denied now properties)) := by
  intro hlaw
  have hcheck := hlaw.check
  rw [step, handleEvent_denied, handleDenied] at hcheck
  simp only [hflag, Bool.false_eq_true, if_false, hnone] at hcheck
  have hpos := hcheck append_entry_ne_empty
  rw [h.checks_eq, hflag] at hpos
  exact absurd hpos (by decide)

/-! ## Checks -/

theorem handleCheck_of_waits (h : w.waits now) :
    handleCheck rt now w = { w with checkScheduled := false } := if_pos h

theorem handleCheck_of_empty (h : w.digest = "") :
    handleCheck rt now w = { w with checkScheduled := false } := by
  by_cases hwaits : w.waits now
  · exact handleCheck_of_waits hwaits
  · exact (if_neg hwaits).trans (if_pos h)

theorem handleCheck_of_ready (hwaits : ¬ w.waits now) (hdigest : w.digest ≠ "")
    (hinstance : rt.hasInstance = true) : handleCheck rt now w =
      { w with
        digest := ""
        timestamp := now
        checkScheduled := false
        eventRunner :=
          (w.eventRunner.pushEvent rt.runner now (mailEvent rt w.digest)).1 } := by
  refine (if_neg hwaits).trans ((if_neg hdigest).trans ?_)
  rw [if_pos hinstance]

theorem step_check (hdue : w.eventRunner.scheduledEvents.any (isDue now) = true) :
    w.step rt (.check now) = handleCheck rt now (w.raised now) := by
  obtain ⟨y, hy, hydue⟩ := any_eq_true.mp hdue
  rcases hfind : w.eventRunner.scheduledEvents.find? (isDue now) with - | x
  · exact absurd hydue (find?_eq_none.mp hfind y hy)
  · have hxdue : isDue now x = true := find?_some hfind
    have hname : x.event.name = executionDeniedDigestCheck :=
      beq_iff_eq.mp (Bool.and_eq_true_iff.mp hxdue).1
    simp only [step, hfind]
    rw [handleEvent, if_neg (by rw [hname]; decide), if_pos hname]

theorem step_check_of_not_due (h : w.eventRunner.scheduledEvents.any (isDue now) = false) :
    w.step rt (.check now) = w := by
  have hfind : w.eventRunner.scheduledEvents.find? (isDue now) = none := by
    rw [find?_eq_none]
    intro x hx
    exact any_eq_false.mp h x hx
  rw [step, hfind]

theorem Inv.checks_raised (h : Inv rt w)
    (hdue : w.eventRunner.scheduledEvents.any (isDue now) = true) :
    w.checkScheduled = true ∧ checks (w.raised now).eventRunner = 0 := by
  have hcount := ExecutionDeniedDigest.checks_raised hdue
  rw [h.checks_eq] at hcount
  rcases hflag : w.checkScheduled with - | -
  · rw [hflag] at hcount
    simp at hcount
  · rw [hflag] at hcount
    exact ⟨rfl, Nat.succ.inj hcount⟩

/-- The text is mailed, if there is one. -/
theorem Inv.check (h : Inv rt w)
    (hfits : w.eventRunner.scheduledEvents.any (isDue now) = true → w.digest ≠ "" →
      ¬ w.waits now) : Inv rt (w.step rt (.check now)) := by
  rcases hdue : w.eventRunner.scheduledEvents.any (isDue now) with - | -
  · rw [step_check_of_not_due hdue]
    exact h
  · obtain ⟨hflag, hzero⟩ := h.checks_raised hdue
    rw [step_check hdue]
    by_cases hdigest : w.digest = ""
    · rw [@handleCheck_of_empty S rt now (w.raised now) hdigest]
      exact {
        checks_eq := hzero
        hasInstance := fun hset => by cases hset
        scheduled := fun hne => absurd hdigest hne
        accounted := h.accounted.congr rfl rfl rfl }
    · rw [@handleCheck_of_ready S rt now (w.raised now) (hfits hdue hdigest) hdigest
        (h.hasInstance hflag)]
      obtain ⟨hchecks, hmails⟩ := @pushEvent_mailEvent S rt now
        (w.raised now).eventRunner w.digest
      exact {
        checks_eq := hchecks.trans hzero
        hasInstance := fun hset => by cases hset
        scheduled := fun hne => absurd rfl hne
        accounted := h.accounted.mailed rfl rfl hmails }

theorem Inv.not_law_check (h : Inv rt w)
    (hdue : w.eventRunner.scheduledEvents.any (isDue now) = true) (hdigest : w.digest ≠ "")
    (hwaits : w.waits now) : ¬ Law rt.runner (w.step rt (.check now)) := by
  intro hlaw
  have hcheck := hlaw.check
  rw [step_check hdue, @handleCheck_of_waits S rt now (w.raised now) hwaits] at hcheck
  have hpos := hcheck hdigest
  rw [(h.checks_raised hdue).2] at hpos
  exact absurd hpos (by decide)

/-! ## Runs -/

theorem Inv.step (h : Inv rt w) {input : Input} (hfits : Fits rt w input) :
    Inv rt (w.step rt input) := by
  cases input with
  | denied now properties => exact h.denied hfits
  | check now => exact h.check hfits

theorem Inv.not_law_step (h : Inv rt w) {input : Input} (hfits : ¬ Fits rt w input) :
    ¬ Law rt.runner (w.step rt input) := by
  cases input with
  | denied now properties =>
    simp only [Fits, Classical.not_imp, Bool.not_eq_true] at hfits
    exact h.not_law_denied hfits.1 hfits.2
  | check now =>
    simp only [Fits, Classical.not_imp, not_not] at hfits
    exact h.not_law_check hfits.1 hfits.2.1 hfits.2.2

/-- **The digest.** In a run, whatever its times, a text that was collected is always going
to be checked, and every denial is mailed once and in order or still collected, exactly if no
check is raised in the second of the last denial (or before it) while the text is short and
not empty. -/
theorem digest_iff (rt : DigestRuntime S) {w : ExecutionDeniedDigest S} (h : w.Start)
    (inputs : List Input) :
    Transition.Always (step rt) (Law rt.runner) w inputs ↔
      Transition.Meets (step rt) (Fits rt) w inputs :=
  Transition.always_iff_meets (fun _ hinv => hinv.law) (fun _ _ hinv hfits => hinv.step hfits)
    (fun _ _ hinv hfits => hinv.not_law_step hfits) h.inv

/-! ## Single runs -/

def plainRuntime : DigestRuntime Unit where
  runner := EventRunner.wakeRuntime
  apartmentName := "home"

def noDenials : ExecutionDeniedDigest Unit where
  timestamp := 0
  eventRunner := EventRunner.noEvents

theorem noDenials_start : noDenials.Start := ⟨rfl, rfl, rfl, rfl, rfl⟩

theorem digest_mailed : Transition.Always (step plainRuntime) (Law plainRuntime.runner) noDenials
    [.denied 17 ∅, .denied 76 ∅, .check 77] := by
  refine (digest_iff plainRuntime noDenials_start _).mpr ⟨fun _ => rfl, fun _ => rfl, ?_, trivial⟩
  rintro - - ⟨hle, -⟩
  exact absurd (hle.trans_eq step_denied.1) (by decide)

/-- The second denial is in the second of the check. -/
theorem digest_fails : ¬ Transition.Always (step plainRuntime) (Law plainRuntime.runner)
    noDenials [.denied 17 ∅, .denied 77 ∅, .check 77] := by
  have hfirst : Inv plainRuntime (noDenials.step plainRuntime (.denied 17 ∅)) :=
    noDenials_start.inv.denied fun _ => rfl
  have hsecond := @Inv.denied _ _ 77 _ ∅ hfirst fun _ => rfl
  rintro ⟨-, -, -, hlaw⟩
  refine @Inv.not_law_check _ _ 77 _ hsecond ?_ ?_ ?_ hlaw
  · decide +kernel
  · exact step_denied.2 ▸ append_entry_ne_empty
  · exact ⟨step_denied.1.ge, by decide +kernel⟩

end ExecutionDeniedDigest

end Dss
