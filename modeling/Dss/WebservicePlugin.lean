import Dss.EventRunnerEntries
import Dss.Transition

/-!
# The webservice plugin

`EventInterpreterWebservicePlugin` schedules two recurring events: when the webservice is enabled,
and when the system is running. Neither of the two looks for what the other has scheduled; both
events are removed, by their names, when the webservice is disabled.
-/

namespace Dss

/-- What lies outside, with the text of a time for a rule. -/
structure WebserviceRuntime (S : Type) : Type where
  runner : ScheduleRuntime S
  /-- `DateTime::toRFC2445IcalDataTime` -/
  toRFC2445IcalDataTime : ℤ → String

structure WebservicePlugin (S : Type) : Type where
  /-- the value of `pp_websvc_enabled` -/
  enabled : Bool
  /-- whether it was written, or the system started, by now -/
  touched : Bool := false
  eventRunner : EventRunner S

namespace WebservicePlugin

variable {S : Type}

/-! ## The plugin -/

/-- `EventName::WebserviceKeepAlive` -/
def webserviceKeepAlive : String := "keepWebserviceAlive"

/-- `EventName::WebserviceGetWeatherInformation` -/
def webserviceGetWeatherInformation : String := "getWeatherInformation"

def recurringEvent (rt : WebserviceRuntime S) (now : ℤ) (name rRule : String) : Event :=
  (({ name := name } : Event).setProperty "iCalStartTime"
    (rt.toRFC2445IcalDataTime now)).setProperty "iCalRRule" rRule

/-- What is done where the webservice is enabled and where the system starts: both events
are pushed. An exception ends it. -/
def pushEvents (rt : WebserviceRuntime S) (now : ℤ) (r : EventRunner S) :
    EventRunner S × Option Failure :=
  match r.pushEvent rt.runner now
      (recurringEvent rt now webserviceKeepAlive "FREQ=SECONDLY;INTERVAL=100") with
  | (r, some failure) => (r, some failure)
  | (r, none) =>
    r.pushEvent rt.runner now
      (recurringEvent rt now webserviceGetWeatherInformation "FREQ=MINUTELY;INTERVAL=15")

/-- `propertyChanged`, after the value was written. -/
def propertyChanged (rt : WebserviceRuntime S) (now : ℤ) (value : Bool) (r : EventRunner S) :
    EventRunner S :=
  if value then (pushEvents rt now r).1
  else (r.removeEventByName webserviceKeepAlive).removeEventByName webserviceGetWeatherInformation

/-- `handleEvent` of a `Running` event. -/
def handleRunning (rt : WebserviceRuntime S) (now : ℤ) (isAuthorized : Bool)
    (r : EventRunner S) : EventRunner S :=
  if isAuthorized then (pushEvents rt now r).1 else r

/-! ## Runs -/

/-- What happens to it. -/
inductive Input : Type where
  /-- `setBooleanValue` of the property, which calls the listeners in any case -/
  | write (now : ℤ) (value : Bool)
  /-- an event `Running` -/
  | running (now : ℤ)

/-- The state after an input. The authorisation follows the property. -/
def step (rt : WebserviceRuntime S) (w : WebservicePlugin S) : Input → WebservicePlugin S
  | .write now value =>
    { enabled := value
      touched := true
      eventRunner := propertyChanged rt now value w.eventRunner }
  | .running now =>
    { w with
      touched := true
      eventRunner := handleRunning rt now w.enabled w.eventRunner }

def recurring (r : EventRunner S) (name : String) : ℕ :=
  r.scheduledEvents.countP fun x => x.event.name = name ∧ x.schedule.hasRecurrence

def Holds (r : EventRunner S) (n : ℕ) : Prop :=
  recurring r webserviceKeepAlive = n ∧ recurring r webserviceGetWeatherInformation = n

/-- One of each while it is enabled, and was written or started; none while it is disabled. -/
structure Law (w : WebservicePlugin S) : Prop where
  enabled : w.enabled = true → w.touched = true → Holds w.eventRunner 1
  disabled : w.enabled = false → Holds w.eventRunner 0

/-- Before the first input: neither event is scheduled. -/
structure Start (w : WebservicePlugin S) : Prop where
  touched_eq : w.touched = false
  holds : Holds w.eventRunner 0

/-- Once it is enabled, and was written or started, it may only be disabled. -/
def Fits (w : WebservicePlugin S) : Input → Prop
  | .write _ value => value = true → ¬ (w.enabled = true ∧ w.touched = true)
  | .running _ => ¬ (w.enabled = true ∧ w.touched = true)

/-! ## Counting -/

variable {rt : WebserviceRuntime S} {now : ℤ} {w : WebservicePlugin S} {r : EventRunner S}
  {n : ℕ} {name rRule : String}

theorem safeName_webserviceKeepAlive : SafeName webserviceKeepAlive :=
  ⟨by decide, by decide, by decide, by decide⟩

theorem safeName_webserviceGetWeatherInformation : SafeName webserviceGetWeatherInformation :=
  ⟨by decide, by decide, by decide, by decide⟩

theorem pushEvent_recurring (hname : SafeName name) :
    ∃ r', r.pushEvent rt.runner now (recurringEvent rt now name rRule) = (r', none) ∧
      ∀ other, recurring r' other =
        recurring r other + if name = other then 1 else 0 := by
  obtain ⟨hnone, happends⟩ := @EventRunner.pushEvent_appends_of_rule S rt.runner r now
    (recurringEvent rt now name rRule) name _ rRule rfl hname
  have heq : (recurringEvent rt now name rRule).name = name := rfl
  refine ⟨(r.pushEvent rt.runner now (recurringEvent rt now name rRule)).1, ?_, ?_⟩
  · rw [← hnone]
  · intro other
    rw [recurring, happends.scheduledEvents_eq]
    simp [recurring, EventRunner.scheduledEvent, heq, Schedule.hasRecurrence]

theorem holds_pushEvents (h : Holds r n) : Holds (pushEvents rt now r).1 (n + 1) := by
  obtain ⟨r₁, hpush₁, hcount₁⟩ := @pushEvent_recurring S rt now r webserviceKeepAlive
    "FREQ=SECONDLY;INTERVAL=100" safeName_webserviceKeepAlive
  obtain ⟨r₂, hpush₂, hcount₂⟩ := @pushEvent_recurring S rt now r₁
    webserviceGetWeatherInformation "FREQ=MINUTELY;INTERVAL=15"
    safeName_webserviceGetWeatherInformation
  have hne : webserviceKeepAlive ≠ webserviceGetWeatherInformation := by decide
  simp only [pushEvents, hpush₁, hpush₂, Holds, hcount₁, hcount₂, if_neg hne, if_neg hne.symm,
    if_true, h.1, h.2, Nat.add_zero, and_self]

theorem holds_remove : Holds ((r.removeEventByName webserviceKeepAlive).removeEventByName
    webserviceGetWeatherInformation) 0 := by
  constructor
  · apply List.countP_eq_zero.mpr
    intro x hx
    have hkept := (List.mem_filter.mp (List.mem_of_mem_filter hx)).2
    simp_all
  · apply List.countP_eq_zero.mpr
    intro x hx
    have hkept := (List.mem_filter.mp hx).2
    simp_all

theorem eventRunner_write_true :
    (w.step rt (.write now true)).eventRunner = (pushEvents rt now w.eventRunner).1 := by
  rw [step, propertyChanged, if_pos rfl]

theorem eventRunner_running : (w.step rt (.running now)).eventRunner =
    if w.enabled then (pushEvents rt now w.eventRunner).1 else w.eventRunner := rfl

/-! ## The invariant -/

/-- The law, and neither event is scheduled before the first input. -/
structure Inv (w : WebservicePlugin S) : Prop extends Law w where
  untouched : w.touched = false → Holds w.eventRunner 0

theorem Start.inv (h : w.Start) : w.Inv where
  enabled _ htouched := absurd (h.touched_eq.symm.trans htouched) Bool.false_ne_true
  disabled _ := h.holds
  untouched _ := h.holds

theorem Inv.holds_zero (h : w.Inv) (hidle : ¬ (w.enabled = true ∧ w.touched = true)) :
    Holds w.eventRunner 0 := by
  rcases henabled : w.enabled with - | -
  · exact h.disabled henabled
  · apply h.untouched
    rw [← Bool.not_eq_true]
    exact fun htouched => hidle ⟨henabled, htouched⟩

theorem Inv.step (h : w.Inv) {input : Input} (hfits : w.Fits input) : (w.step rt input).Inv := by
  cases input with
  | write now value =>
    cases value with
    | true =>
      have hone := @holds_pushEvents S rt now _ 0 (h.holds_zero (hfits rfl))
      rw [← eventRunner_write_true] at hone
      exact ⟨⟨fun _ _ => hone, fun hoff => (by cases hoff)⟩, fun hnot => (by cases hnot)⟩
    | false =>
      have hnone := @holds_remove S w.eventRunner
      exact ⟨⟨fun hon => (by cases hon), fun _ => hnone⟩, fun hnot => (by cases hnot)⟩
  | running now =>
    have hone (hon : w.enabled = true) : Holds (w.step rt (.running now)).eventRunner 1 := by
      rw [eventRunner_running, if_pos hon]
      exact holds_pushEvents (h.holds_zero hfits)
    have hnone (hoff : w.enabled = false) : Holds (w.step rt (.running now)).eventRunner 0 := by
      rw [eventRunner_running, if_neg (by rw [hoff]; exact Bool.false_ne_true)]
      exact h.disabled hoff
    exact ⟨⟨fun hon _ => hone hon, hnone⟩, fun hnot => by cases hnot⟩

theorem Inv.not_law_step (h : w.Inv) {input : Input} (hfits : ¬ w.Fits input) :
    ¬ (w.step rt input).Law := by
  intro hlaw
  cases input with
  | write now value =>
    simp only [Fits, Classical.not_imp, not_not] at hfits
    obtain ⟨rfl, henabled, htouched⟩ := hfits
    have htwo := @holds_pushEvents S rt now _ 1 (h.enabled henabled htouched)
    have hone := hlaw.enabled rfl rfl
    rw [eventRunner_write_true] at hone
    exact absurd (hone.1.symm.trans htwo.1) (by decide)
  | running now =>
    simp only [Fits, not_not] at hfits
    obtain ⟨henabled, htouched⟩ := hfits
    have htwo := @holds_pushEvents S rt now _ 1 (h.enabled henabled htouched)
    have hone := hlaw.enabled henabled rfl
    rw [eventRunner_running, if_pos henabled] at hone
    exact absurd (hone.1.symm.trans htwo.1) (by decide)

/-- **The schedules of the webservice.** There is one keep-alive and one weather event
whenever it is enabled, and none while it is disabled, exactly in the runs in which it is
neither enabled nor started again while it is enabled. -/
theorem schedules_iff (rt : WebserviceRuntime S) {w : WebservicePlugin S} (h : w.Start)
    (inputs : List Input) :
    Transition.Always (step rt) Law w inputs ↔ Transition.Meets (step rt) Fits w inputs :=
  Transition.always_iff_meets (fun _ hinv => hinv.toLaw) (fun _ _ hinv hfits => hinv.step hfits)
    (fun _ _ hinv hfits => hinv.not_law_step hfits) h.inv

/-! ## Single runs -/

def plainRuntime : WebserviceRuntime Unit where
  runner := EventRunner.wakeRuntime
  toRFC2445IcalDataTime _ := "19700101T000017"

def atStart (enabled : Bool) : WebservicePlugin Unit where
  enabled := enabled
  eventRunner := EventRunner.noEvents

theorem atStart_start (enabled : Bool) : (atStart enabled).Start := ⟨rfl, rfl, rfl⟩

theorem schedules_restart : Transition.Always (step plainRuntime) Law (atStart true)
    [.running 17, .write 18 false, .write 19 true] := by
  refine (schedules_iff plainRuntime (atStart_start true) _).mpr ⟨?_, ?_, ?_, trivial⟩
  · rintro ⟨-, htouched⟩
    cases htouched
  · intro hvalue
    cases hvalue
  · rintro - ⟨henabled, -⟩
    cases henabled

/-- The same value written twice, and an enabled webservice that starts. -/
theorem schedules_fails :
    ¬ Transition.Always (step plainRuntime) Law (atStart false)
        [.write 17 true, .write 18 true] ∧
      ¬ Transition.Always (step plainRuntime) Law (atStart false)
        [.write 17 true, .running 18] := by
  have hfirst : ((atStart false).step plainRuntime (.write 17 true)).Inv :=
    (atStart_start false).inv.step fun _ hboth => absurd hboth.1 Bool.false_ne_true
  constructor
  · rintro ⟨-, -, hlaw⟩
    refine hfirst.not_law_step (fun hfits => ?_) hlaw
    exact hfits rfl ⟨rfl, rfl⟩
  · rintro ⟨-, -, hlaw⟩
    refine hfirst.not_law_step (fun hfits => ?_) hlaw
    exact hfits ⟨rfl, rfl⟩

end WebservicePlugin

end Dss
