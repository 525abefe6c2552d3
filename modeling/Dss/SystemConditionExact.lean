import Dss.Scan
import Dss.SystemCondition

/-!
# System conditions as a conjunction

`checkSystemCondition` should say yes exactly if each condition holds. A date with a start and an
end but without a rule is read through a null pointer: the end is tested twice, and the rule not at
all. A system state without a value and a description counts as one that has the value asked for,
and if there are no system states at all, none is asked for. And what cannot be read, or is
incomplete, ends the check even where a later entry of the same list would do.
-/

namespace Dss

open Option

namespace SystemCondition

open Scan

/-! ## One check behind the other -/

def also (check rest : Except Failure Bool) : Except Failure Bool :=
  check >>= fun b => if (!b) = true then pure false else rest

def checkOf (node : Option PropertyNode) (check : PropertyNode → Except Failure Bool) :
    Except Failure Bool :=
  match node with
  | some node => check node
  | none => .ok true

section also

variable {check rest : Except Failure Bool} {failure : Failure} {o : Option PropertyNode}
  {f : PropertyNode → Except Failure Bool}

theorem ok_bind {α β : Type} {a : α} {g : α → Except Failure β} : (Except.ok a >>= g) = g a :=
  rfl

theorem bind_ne_null {α β : Type} {x : Except Failure α} {g : α → Except Failure β}
    (hx : x ≠ .error .nullPointer) (hg : ∀ a, g a ≠ .error .nullPointer) :
    x >>= g ≠ .error .nullPointer := by
  cases x with
  | error failure =>
    intro h
    exact hx (by cases h; rfl)
  | ok a => exact hg a

theorem also_eq_ok_true_iff : also check rest = .ok true ↔ check = .ok true ∧ rest = .ok true := by
  cases check with
  | error failure => exact iff_of_false (fun h => by cases h) fun h => by cases h.1
  | ok b =>
    cases b with
    | false => exact iff_of_false (fun h => by cases h) fun h => by cases h.1
    | true => exact (and_iff_right rfl).symm

theorem also_eq_error_iff :
    also check rest = .error failure ↔
      check = .error failure ∨ check = .ok true ∧ rest = .error failure := by
  cases check with
  | error failure' =>
    refine ⟨Or.inl, ?_⟩
    rintro (h | ⟨h, -⟩)
    · exact h
    · cases h
  | ok b =>
    cases b with
    | false =>
      refine iff_of_false (fun h => by cases h) ?_
      rintro (h | ⟨h, -⟩)
      · cases h
      · cases h
    | true =>
      refine ⟨fun h => Or.inr ⟨rfl, h⟩, ?_⟩
      rintro (h | ⟨-, h⟩)
      · cases h
      · exact h

theorem checkOf_eq_ok_true_iff :
    checkOf o f = .ok true ↔ ∀ node, o = some node → f node = .ok true := by
  cases o with
  | none => exact iff_of_true rfl fun node h => by cases h
  | some node =>
    refine ⟨fun h node' hnode => ?_, fun h => h node rfl⟩
    rw [← some.inj hnode]
    exact h

theorem checkOf_eq_error_iff :
    checkOf o f = .error failure ↔ ∃ node, o = some node ∧ f node = .error failure := by
  cases o with
  | none =>
    refine iff_of_false (fun h => by cases h) ?_
    rintro ⟨node, h, -⟩
    cases h
  | some node =>
    refine ⟨fun h => ⟨node, rfl, h⟩, ?_⟩
    rintro ⟨node', hnode, h⟩
    rw [some.inj hnode]
    exact h

theorem match_eq_also (k : Except Failure Bool) :
    (match o with
      | some node => f node >>= fun b => if (!b) = true then pure false else k
      | _ => k) = also (checkOf o f) k := by
  cases o with
  | none => rfl
  | some node => rfl

theorem match_bool_eq_also {f : PropertyNode → Bool} (k : Except Failure Bool) :
    (match o with
      | some node => if (!f node) = true then pure false else k
      | _ => k) = also (checkOf o fun node => .ok (f node)) k := by
  cases o with
  | none => rfl
  | some node => rfl

end also

variable (rt : Runtime) (c : PropertyNode)

/-! ## The checks -/

def text (node : PropertyNode) : String := node.getAsString rt.doubleToString

def enabledCheck : Except Failure Bool :=
  checkOf (c.getPropertyByName "enabled") PropertyNode.getBoolValue

def statesCheck : Except Failure Bool :=
  checkOf (c.getPropertyByName "states") fun node =>
    checkOf (rt.getProperty "/usr/states") fun states => statesFit rt states.children node.children

def addonsCheck : Except Failure Bool :=
  checkOf (c.getPropertyByName "addon-states") fun node => .ok (node.children.all (addonFits rt))

def orAddonsCheck : Except Failure Bool :=
  checkOf (c.getPropertyByName "or-addon-states") fun node =>
    .ok (node.children.any (orAddonFits rt))

def zonesCheck : Except Failure Bool :=
  checkOf (c.getPropertyByName "zone-states") fun node => .ok (zoneStatesFit rt node.children)

def weekdaysCheck : Except Failure Bool :=
  checkOf (c.getPropertyByName "weekdays") fun node =>
    if text rt node = "" then .ok true else weekdayFits rt (splitString (text rt node) ',')

def timeCheck : Except Failure Bool :=
  if (c.getPropertyByName "time-start").isSome ∨ (c.getPropertyByName "time-end").isSome then
    checkTimeCondition rt (c.getPropertyByName "time-start") (c.getPropertyByName "time-end")
  else .ok true

def dateCheck : Except Failure Bool :=
  checkOf (c.getPropertyByName "date") fun node => dateFits rt node.children

theorem checkConditions_eq :
    checkConditions rt c = also (enabledCheck c) (also (statesCheck rt c) (also (addonsCheck rt c)
      (also (orAddonsCheck rt c) (also (zonesCheck rt c) (also (weekdaysCheck rt c)
        (also (timeCheck rt c) (dateCheck rt c))))))) := by
  have hstates (k : Except Failure Bool) :
      (match c.getPropertyByName "states" with
        | some node =>
          match rt.getProperty "/usr/states" with
          | some states =>
            statesFit rt states.children node.children >>= fun b =>
              if (!b) = true then pure false else k
          | _ => k
        | _ => k) = also (statesCheck rt c) k := by
    rw [statesCheck]
    rcases c.getPropertyByName "states" with - | node
    · rfl
    · exact match_eq_also k
  have hweekdays (k : Except Failure Bool) :
      (match c.getPropertyByName "weekdays" with
        | some node =>
          if (text rt node != "") = true then
            weekdayFits rt (splitString (text rt node) ',') >>= fun b =>
              if (!b) = true then pure false else k
          else k
        | _ => k) = also (weekdaysCheck rt c) k := by
    rw [weekdaysCheck]
    rcases c.getPropertyByName "weekdays" with - | node
    · rfl
    · dsimp only [checkOf]
      by_cases hempty : text rt node = ""
      · rw [hempty]
        rfl
      · rw [if_neg hempty, if_pos (bne_iff_ne.mpr hempty)]
        rfl
  have htime (k : Except Failure Bool) :
      (if ((c.getPropertyByName "time-start").isSome ||
            (c.getPropertyByName "time-end").isSome) = true then
          checkTimeCondition rt (c.getPropertyByName "time-start")
            (c.getPropertyByName "time-end") >>= fun b =>
              if (!b) = true then pure false else k
        else k) = also (timeCheck rt c) k := by
    rw [timeCheck]
    simp only [Bool.or_eq_true]
    split_ifs
    · rfl
    · rfl
  apply Eq.trans (match_eq_also _)
  apply congrArg (also (enabledCheck c))
  apply Eq.trans (hstates _)
  apply congrArg (also (statesCheck rt c))
  apply Eq.trans (match_bool_eq_also _)
  apply congrArg (also (addonsCheck rt c))
  apply Eq.trans (match_bool_eq_also _)
  apply congrArg (also (orAddonsCheck rt c))
  apply Eq.trans (match_bool_eq_also _)
  apply congrArg (also (zonesCheck rt c))
  apply Eq.trans (hweekdays _)
  apply congrArg (also (weekdaysCheck rt c))
  apply Eq.trans (htime _)
  rw [dateCheck]
  rcases c.getPropertyByName "date" with - | node
  · rfl
  · rfl

/-! ## What the conditions mean -/

section meaning

variable {rt}

def Named (name : String) (state : PropertyNode) : Prop :=
  ∃ node, state.getPropertyByName "name" = some node ∧ node.getStringValue = .ok name

/-- It has a value, or a description of it. -/
def Valued (state : PropertyNode) : Prop :=
  (state.getPropertyByName "value").isSome ∨ (state.getPropertyByName "state").isSome

def ValueIs (rt : Runtime) (value : String) (state : PropertyNode) : Prop :=
  (∃ node, state.getPropertyByName "value" = some node ∧ text rt node = value) ∨
    ∃ node, state.getPropertyByName "state" = some node ∧ node.getStringValue = .ok value

def Meant (name : String) (state : PropertyNode) : Prop := Named name state ∧ Valued state

def systemStates (rt : Runtime) : List PropertyNode :=
  ((rt.getProperty "/usr/states").map PropertyNode.children).getD []

def ZoneMatches (rt : Runtime) (state : PropertyNode) : Prop :=
  ∃ zone group scene, state.getPropertyByName "zone" = some zone ∧
    state.getPropertyByName "group" = some group ∧ state.getPropertyByName "scene" = some scene ∧
    lastSceneFits rt zone group scene = true

/-- What is said of a date that has a start, an end and a rule. -/
def DateSays (rt : Runtime) (answer : Except Exception Bool) (date : PropertyNode) : Prop :=
  ∃ start end' rrule, date.getPropertyByName "start" = some start ∧
    date.getPropertyByName "end" = some end' ∧ date.getPropertyByName "rrule" = some rrule ∧
    rt.isDateInside (text rt rrule) (text rt start) (text rt end') = answer

/-- A weekday is the current one. -/
def IsToday (rt : Runtime) (day : String) : Prop := parseInt? day = some rt.weekday

def Within (start end' now : ℕ) : Prop :=
  if start < end' then start ≤ now ∧ now ≤ end' else start ≤ now ∨ now ≤ end'

end meaning

/-- **The conditions hold.** -/
structure Holds : Prop where
  enabled : ∀ node, c.getPropertyByName "enabled" = some node → node.getBoolValue = .ok true
  /-- each system state that is asked for has the value -/
  states : ∀ node, c.getPropertyByName "states" = some node → ∀ wanted ∈ node.children,
    First (Meant wanted.name) (ValueIs rt (text rt wanted)) (systemStates rt)
  addons : ∀ node, c.getPropertyByName "addon-states" = some node → ∀ addon ∈ node.children,
    ∃ states, addonStates rt addon.name = some states ∧ ∀ wanted ∈ addon.children,
      First (·.1 = wanted.name) (·.2 = text rt wanted) states
  orAddons : ∀ node, c.getPropertyByName "or-addon-states" = some node →
    ∃ addon ∈ node.children, ∃ states, addonStates rt addon.name = some states ∧
      ∃ wanted ∈ addon.children, (wanted.name, text rt wanted) ∈ states
  zones : ∀ node, c.getPropertyByName "zone-states" = some node →
    ∃ state ∈ node.children, ZoneMatches rt state
  /-- it is one of these days, if any is given -/
  weekdays : ∀ node, c.getPropertyByName "weekdays" = some node → text rt node ≠ "" →
    ∃ day ∈ splitString (text rt node) ',', IsToday rt day
  time : (c.getPropertyByName "time-start").isSome ∨ (c.getPropertyByName "time-end").isSome →
    ∃ start end', timeBound rt (c.getPropertyByName "time-start") 0 = .ok start ∧
      timeBound rt (c.getPropertyByName "time-end") (24 * 60 * 60) = .ok end' ∧
      Within start end' rt.secNow
  dates : ∀ node, c.getPropertyByName "date" = some node →
    ∃ date ∈ node.children, DateSays rt (.ok true) date

/-! ## The loops -/

section loops

variable {rt}

def NameReadable (state : PropertyNode) : Prop :=
  ∀ node, state.getPropertyByName "name" = some node → ∃ name, node.getStringValue = .ok name

def Unvalued (name : String) (states : List PropertyNode) : Prop :=
  (∃ state ∈ states, Named name state) ∧ ∀ state ∈ states, ¬ Meant name state

/-- A weekday can be read. -/
def IsNumber (day : String) : Prop := (parseInt? day).isSome

def ZoneComplete (state : PropertyNode) : Prop :=
  (state.getPropertyByName "zone").isSome ∧ (state.getPropertyByName "group").isSome

def DateRuled (date : PropertyNode) : Prop :=
  (date.getPropertyByName "start").isSome → (date.getPropertyByName "end").isSome →
    (date.getPropertyByName "rrule").isSome

/-- A date ends the loop: the time is inside, or the calendar library throws. -/
def DateDecides (rt : Runtime) (date : PropertyNode) : Prop :=
  ∃ answer, DateSays rt answer date ∧ answer ≠ .ok false

/-- The loop goes on behind a date: if it has a start and an end, then it has a rule, too, and the
time is outside. -/
def DatePassed (rt : Runtime) (date : PropertyNode) : Prop :=
  DateRuled date ∧ ¬ DateDecides rt date

theorem weekdayFits_eq_ok_true_iff {days : List String} :
    weekdayFits rt days = .ok true ↔
      Reaches (IsToday rt) IsNumber days := by
  induction days with
  | nil => exact iff_of_false (fun h => by cases h) not_reaches_nil
  | cons day days ih =>
    rw [weekdayFits, strToInt]
    rcases hparse : parseInt? day with - | i
    · have hnot : ¬ IsToday rt day := by
        rw [IsToday, hparse]
        exact (some_ne_none _).symm
      refine iff_of_false (fun h => by cases h) fun h => ?_
      rw [reaches_cons_of_neg hnot, IsNumber, hparse] at h
      cases h.1
    · by_cases hday : i = rt.weekday
      · refine iff_of_true ?_ (reaches_cons_of_pos (by rw [IsToday, hparse, hday]))
        rw [ok_bind, hday, if_pos (beq_self_eq_true _)]
        rfl
      · have hnot : ¬ IsToday rt day := by
          rw [IsToday, hparse]
          exact fun h => hday (some.inj h)
        rw [reaches_cons_of_neg hnot, IsNumber, hparse, ← ih, ok_bind,
          if_neg fun h => hday (beq_iff_eq.mp h), and_iff_right isSome_some]

theorem zoneStatesFit_eq_true_iff {states : List PropertyNode} :
    zoneStatesFit rt states = true ↔ Reaches (ZoneMatches rt) ZoneComplete states := by
  induction states with
  | nil => exact iff_of_false (fun h => by cases h) not_reaches_nil
  | cons state states ih =>
    have hincomplete (h : ¬ ZoneComplete state) : ¬ Reaches (ZoneMatches rt) ZoneComplete
        (state :: states) := by
      intro hreaches
      have hnot : ¬ ZoneMatches rt state := by
        rintro ⟨zone, group, scene, hzone, hgroup, -⟩
        exact h ⟨by rw [hzone]; rfl, by rw [hgroup]; rfl⟩
      exact h ((reaches_cons_of_neg hnot).mp hreaches).1
    rw [zoneStatesFit]
    rcases hzone : state.getPropertyByName "zone" with - | zone
    · refine iff_of_false (fun h => by cases h) (hincomplete fun h => ?_)
      rw [ZoneComplete, hzone] at h
      cases h.1
    rcases hgroup : state.getPropertyByName "group" with - | group
    · refine iff_of_false (fun h => by cases h) (hincomplete fun h => ?_)
      rw [ZoneComplete, hgroup] at h
      cases h.2
    have hcomplete : ZoneComplete state := ⟨by rw [hzone]; rfl, by rw [hgroup]; rfl⟩
    have hmatches : (state.getPropertyByName "scene").any (lastSceneFits rt zone group) = true ↔
        ZoneMatches rt state := by
      simp [ZoneMatches, hzone, hgroup, any_eq_true]
    rw [Bool.or_eq_true, hmatches, ih]
    by_cases hstate : ZoneMatches rt state
    · exact iff_of_true (Or.inl hstate) (reaches_cons_of_pos hstate)
    · rw [reaches_cons_of_neg hstate, or_iff_right hstate, and_iff_right hcomplete]

theorem DateSays.unique {answer answer' : Except Exception Bool} {date : PropertyNode}
    (h : DateSays rt answer date) (h' : DateSays rt answer' date) : answer = answer' := by
  obtain ⟨start, end', rrule, hstart, hend, hrrule, hanswer⟩ := h
  obtain ⟨start', end'', rrule', hstart', hend', hrrule', hanswer'⟩ := h'
  rw [hstart] at hstart'
  rw [hend] at hend'
  rw [hrrule] at hrrule'
  rw [← hanswer, some.inj hstart', some.inj hend', some.inj hrrule', hanswer']

theorem DateSays.ruled {answer : Except Exception Bool} {date : PropertyNode}
    (h : DateSays rt answer date) : DateRuled date := by
  obtain ⟨start, end', rrule, -, -, hrrule, -⟩ := h
  intro _ _
  rw [hrrule]
  rfl

theorem dateFits_cons (date : PropertyNode) (dates : List PropertyNode) :
    ¬ DateRuled date ∧ dateFits rt (date :: dates) = .error .nullPointer ∨
    DateSays rt (.ok true) date ∧ dateFits rt (date :: dates) = .ok true ∨
    (∃ e, DateSays rt (.error e) date ∧ dateFits rt (date :: dates) = .error (.exception e)) ∨
    DatePassed rt date ∧ dateFits rt (date :: dates) = dateFits rt dates := by
  rw [dateFits]
  have hskip (h : date.getPropertyByName "start" = none ∨ date.getPropertyByName "end" = none) :
      DatePassed rt date := by
    refine ⟨fun hstart hend => ?_, ?_⟩
    · rcases h with h | h
      · rw [h] at hstart
        cases hstart
      · rw [h] at hend
        cases hend
    · rintro ⟨answer, ⟨start, end', rrule, hstart, hend, -⟩, -⟩
      rcases h with h | h
      · rw [h] at hstart
        cases hstart
      · rw [h] at hend
        cases hend
  rcases hstart : date.getPropertyByName "start" with - | start
  · exact Or.inr (Or.inr (Or.inr ⟨hskip (Or.inl hstart), rfl⟩))
  rcases hend : date.getPropertyByName "end" with - | end'
  · exact Or.inr (Or.inr (Or.inr ⟨hskip (Or.inr hend), rfl⟩))
  rcases hrrule : date.getPropertyByName "rrule" with - | rrule
  · refine Or.inl ⟨fun h => ?_, rfl⟩
    have hsome := h (by rw [hstart]; rfl) (by rw [hend]; rfl)
    rw [hrrule] at hsome
    cases hsome
  dsimp only
  rcases hanswer : rt.isDateInside (text rt rrule) (text rt start) (text rt end') with e | b
  · rw [text, text, text] at hanswer
    rw [hanswer]
    exact Or.inr (Or.inr (Or.inl ⟨e, ⟨start, end', rrule, hstart, hend, hrrule, hanswer⟩, rfl⟩))
  · have hanswered : DateSays rt (.ok b) date := ⟨start, end', rrule, hstart, hend, hrrule, hanswer⟩
    rw [text, text, text] at hanswer
    rw [hanswer]
    cases b with
    | true => exact Or.inr (Or.inl ⟨hanswered, rfl⟩)
    | false =>
      refine Or.inr (Or.inr (Or.inr ⟨⟨fun _ _ => by rw [hrrule]; rfl, ?_⟩, rfl⟩))
      rintro ⟨answer, hanswer', hne⟩
      exact hne (hanswer'.unique hanswered)

theorem dateFits_eq_ok_true_iff {dates : List PropertyNode} :
    dateFits rt dates = .ok true ↔ Reaches (DateSays rt (.ok true)) (DatePassed rt) dates := by
  induction dates with
  | nil => exact iff_of_false (fun h => by cases h) not_reaches_nil
  | cons date dates ih =>
    rcases @dateFits_cons rt date dates with ⟨hruled, hfits⟩ | ⟨hanswered, hfits⟩ |
      ⟨e, hanswered, hfits⟩ | ⟨hpassed, hfits⟩
    · refine iff_of_false (fun h => by rw [hfits] at h; cases h) fun h => ?_
      exact hruled ((reaches_cons_of_neg fun hanswered => hruled hanswered.ruled).mp h).1.1
    · exact iff_of_true hfits (reaches_cons_of_pos hanswered)
    · refine iff_of_false (fun h => by rw [hfits] at h; cases h) fun h => ?_
      have hnot : ¬ DateSays rt (.ok true) date := fun hok => by cases hok.unique hanswered
      exact ((reaches_cons_of_neg hnot).mp h).1.2 ⟨_, hanswered, fun heq => by cases heq⟩
    · have hnot : ¬ DateSays rt (.ok true) date :=
        fun hok => hpassed.2 ⟨_, hok, fun heq => by cases heq⟩
      rw [hfits, ih, reaches_cons_of_neg hnot, and_iff_right hpassed]

theorem dateFits_eq_null_iff {dates : List PropertyNode} :
    dateFits rt dates = .error .nullPointer ↔ ¬ Until (DateDecides rt) DateRuled dates := by
  induction dates with
  | nil => exact iff_of_false (fun h => by cases h) fun h => h until_nil
  | cons date dates ih =>
    rcases @dateFits_cons rt date dates with ⟨hruled, hfits⟩ | ⟨hanswered, hfits⟩ |
      ⟨e, hanswered, hfits⟩ | ⟨hpassed, hfits⟩
    · refine iff_of_true hfits fun h => ?_
      have hnot : ¬ DateDecides rt date := by
        rintro ⟨answer, hanswered, -⟩
        exact hruled hanswered.ruled
      exact hruled ((until_cons_of_neg hnot).mp h).1
    · refine iff_of_false (fun h => by rw [hfits] at h; cases h) fun h => ?_
      exact h (until_cons_of_pos ⟨_, hanswered, fun heq => by cases heq⟩)
    · refine iff_of_false (fun h => by rw [hfits] at h; cases h) fun h => ?_
      exact h (until_cons_of_pos ⟨_, hanswered, fun heq => by cases heq⟩)
    · rw [hfits, ih, until_cons_of_neg hpassed.2, and_iff_right hpassed.1]

theorem named_iff {name : String} {state node : PropertyNode}
    (h : state.getPropertyByName "name" = some node) :
    Named name state ↔ node.getStringValue = .ok name := by
  rw [Named, h]
  constructor
  · rintro ⟨node', hnode, hname⟩
    rw [some.inj hnode]
    exact hname
  · exact fun hname => ⟨node, rfl, hname⟩

theorem description_fits (node : PropertyNode) (value : String) :
    ((node.getStringValue >>= fun description => .ok (value == description)) =
        (.ok true : Except Failure Bool) ↔ node.getStringValue = .ok value) ∧
      (node.getStringValue >>= fun description => .ok (value == description)) ≠
        (.error .nullPointer : Except Failure Bool) := by
  rcases hdescription : node.getStringValue with failure | description
  · refine ⟨iff_of_false (fun h => by cases h) (fun h => by cases h), fun h => ?_⟩
    rw [PropertyNode.getStringValue_eq_error hdescription] at h
    cases h
  · rw [ok_bind]
    refine ⟨?_, fun h => by cases h⟩
    rw [Except.ok.injEq, Except.ok.injEq, beq_iff_eq]
    exact eq_comm

theorem systemStateFits_cons (name value : String) (found : Bool) (state : PropertyNode)
    (states : List PropertyNode) :
    (¬ NameReadable state ∧ ∃ e,
      systemStateFits rt name value found (state :: states) = .error (.exception e)) ∨
    (NameReadable state ∧ ¬ Named name state ∧
      systemStateFits rt name value found (state :: states) =
        systemStateFits rt name value found states) ∨
    (NameReadable state ∧ Named name state ∧ ¬ Valued state ∧
      systemStateFits rt name value found (state :: states) =
        systemStateFits rt name value true states) ∨
    (Meant name state ∧
      (systemStateFits rt name value found (state :: states) = .ok true ↔ ValueIs rt value state) ∧
      systemStateFits rt name value found (state :: states) ≠ .error .nullPointer) := by
  rw [systemStateFits]
  rcases hnode : state.getPropertyByName "name" with - | node
  · refine Or.inr (Or.inl ⟨fun node h => ?_, ?_, rfl⟩)
    · rw [hnode] at h
      cases h
    · rintro ⟨node, h, -⟩
      rw [hnode] at h
      cases h
  dsimp only
  rcases hname : node.getStringValue with failure | name'
  · refine Or.inl ⟨fun h => ?_, ?_⟩
    · obtain ⟨name', hname'⟩ := h node hnode
      rw [hname] at hname'
      cases hname'
    · rw [PropertyNode.getStringValue_eq_error hname]
      exact ⟨_, rfl⟩
  have hreadable : NameReadable state := by
    intro node' h
    rw [hnode] at h
    rw [← some.inj h]
    exact ⟨name', hname⟩
  rw [ok_bind]
  by_cases hne : name ≠ name'
  · rw [if_pos (bne_iff_ne.mpr hne)]
    refine Or.inr (Or.inl ⟨hreadable, fun h => hne ?_, rfl⟩)
    rw [named_iff hnode, hname] at h
    exact (Except.ok.inj h).symm
  obtain rfl := not_not.mp hne
  have hnamed : Named name state := (named_iff hnode).mpr hname
  rw [if_neg fun h => hne (bne_iff_ne.mp h)]
  rcases hvalue : state.getPropertyByName "value" with - | valueNode
  · rcases hdescription : state.getPropertyByName "state" with - | node'
    · refine Or.inr (Or.inr (Or.inl ⟨hreadable, hnamed, ?_, rfl⟩))
      rw [Valued, hvalue, hdescription]
      rintro (h | h)
      · cases h
      · cases h
    · obtain ⟨hfits, hnull⟩ := description_fits node' value
      refine Or.inr (Or.inr (Or.inr ⟨⟨hnamed, Or.inr (by rw [hdescription]; rfl)⟩, ?_, hnull⟩))
      rw [ValueIs, hvalue, hdescription]
      refine hfits.trans ?_
      simp
  · rcases hdescription : state.getPropertyByName "state" with - | node'
    · refine Or.inr (Or.inr (Or.inr ⟨⟨hnamed, Or.inl (by rw [hvalue]; rfl)⟩, ?_, ?_⟩))
      · rw [ValueIs, hvalue, hdescription]
        simp [text, pure, Except.pure]
      · simp [pure, Except.pure]
    · refine Or.inr (Or.inr (Or.inr ⟨⟨hnamed, Or.inl (by rw [hvalue]; rfl)⟩, ?_⟩))
      obtain ⟨hfits, hnull⟩ := description_fits node' value
      rw [ValueIs, hvalue, hdescription]
      rw [map_some,
        show valueNode.getAsString rt.doubleToString = text rt valueNode from rfl]
      dsimp only
      by_cases hequal : text rt valueNode = value
      · rw [if_pos (beq_iff_eq.mpr (congrArg some hequal))]
        refine ⟨iff_of_true rfl (Or.inl ⟨valueNode, rfl, hequal⟩), fun h => by cases h⟩
      · rw [if_neg fun h => hequal (some.inj (beq_iff_eq.mp h))]
        refine ⟨hfits.trans ?_, hnull⟩
        simp [hequal]

/-- **The loop over the system states**, for one that is asked for: the first one that is meant
decides; if none is meant, one of the name is enough. -/
theorem systemStateFits_eq_ok_true_iff {name value : String} {found : Bool}
    {states : List PropertyNode} :
    systemStateFits rt name value found states = .ok true ↔
      Until (Meant name) NameReadable states ∧
        (First (Meant name) (ValueIs rt value) states ∨
          (∀ state ∈ states, ¬ Meant name state) ∧
            (found = true ∨ ∃ state ∈ states, Named name state)) := by
  induction states generalizing found with
  | nil =>
    rw [systemStateFits]
    simp
  | cons state states ih =>
    rcases @systemStateFits_cons rt name value found state states with
      ⟨hreadable, e, hfits⟩ | ⟨hreadable, hnamed, hfits⟩ | ⟨hreadable, hnamed, hvalued, hfits⟩ |
      ⟨hmeant, hfits, -⟩
    · have hnot : ¬ Meant name state := by
        rintro ⟨⟨node, hnode, hname⟩, -⟩
        refine hreadable fun node' hnode' => ?_
        rw [hnode] at hnode'
        rw [← some.inj hnode']
        exact ⟨name, hname⟩
      refine iff_of_false (fun h => by rw [hfits] at h; cases h) fun h => ?_
      exact hreadable ((until_cons_of_neg hnot).mp h.1).1
    · have hnot : ¬ Meant name state := fun h => hnamed h.1
      rw [hfits, ih, until_cons_of_neg hnot, first_cons_of_neg hnot, and_iff_right hreadable,
        List.forall_mem_cons, and_iff_right hnot]
      simp [hnamed]
    · have hnot : ¬ Meant name state := fun h => hvalued h.2
      rw [hfits, ih, until_cons_of_neg hnot, first_cons_of_neg hnot, and_iff_right hreadable,
        List.forall_mem_cons, and_iff_right hnot]
      simp [hnamed]
    · rw [hfits, first_cons_of_pos hmeant, and_iff_right (until_cons_of_pos hmeant), or_iff_left]
      rintro ⟨hall, -⟩
      exact hall state List.mem_cons_self hmeant

theorem systemStateFits_ne_null {name value : String} {found : Bool} {states : List PropertyNode} :
    systemStateFits rt name value found states ≠ .error .nullPointer := by
  induction states generalizing found with
  | nil =>
    intro h
    cases h
  | cons state states ih =>
    rcases @systemStateFits_cons rt name value found state states with
      ⟨-, e, hfits⟩ | ⟨-, -, hfits⟩ | ⟨-, -, -, hfits⟩ | ⟨-, -, hnull⟩
    · rw [hfits]
      intro h
      cases h
    · rw [hfits]
      exact ih
    · rw [hfits]
      exact ih
    · exact hnull

theorem statesFit_cons (states : List PropertyNode) (state : PropertyNode)
    (wanted : List PropertyNode) :
    statesFit rt states (state :: wanted) =
      also (systemStateFits rt state.name (text rt state) false states)
        (statesFit rt states wanted) := by
  rw [statesFit, text]
  rcases systemStateFits rt state.name (state.getAsString rt.doubleToString) false states with e | b
  · rfl
  · cases b with
    | false => rfl
    | true => rfl

theorem statesFit_eq_ok_true_iff {states wanted : List PropertyNode} :
    statesFit rt states wanted = .ok true ↔
      ∀ state ∈ wanted, systemStateFits rt state.name (text rt state) false states = .ok true := by
  induction wanted with
  | nil => exact iff_of_true rfl (List.forall_mem_nil _)
  | cons state wanted ih =>
    rw [statesFit_cons, also_eq_ok_true_iff, List.forall_mem_cons, ih]

theorem statesFit_ne_null {states wanted : List PropertyNode} :
    statesFit rt states wanted ≠ .error .nullPointer := by
  induction wanted with
  | nil =>
    intro h
    cases h
  | cons state wanted ih =>
    rw [statesFit_cons, Ne, also_eq_error_iff]
    rintro (h | ⟨-, h⟩)
    · exact systemStateFits_ne_null h
    · exact ih h

theorem addonFits_eq_true_iff {addon : PropertyNode} :
    addonFits rt addon = true ↔ ∃ states, addonStates rt addon.name = some states ∧
      ∀ wanted ∈ addon.children, First (·.1 = wanted.name) (·.2 = text rt wanted) states := by
  rw [addonFits]
  rcases addonStates rt addon.name with - | states
  · simp
  · simp only [List.all_eq_true, some.injEq, exists_eq_left']
    refine forall₂_congr fun wanted _ => ?_
    have hfirst : First (·.1 = wanted.name) (·.2 = text rt wanted) states ↔
        ∃ state, states.find? (fun state => state.1 == wanted.name) = some state ∧
          state.2 = text rt wanted := first_iff_find? fun state => beq_iff_eq
    rw [hfirst]
    generalize (states.find? fun state => state.1 == wanted.name) = found
    rcases found with - | state
    · simp
    · simp [text]

theorem orAddonFits_eq_true_iff {addon : PropertyNode} :
    orAddonFits rt addon = true ↔ ∃ states, addonStates rt addon.name = some states ∧
      ∃ wanted ∈ addon.children, (wanted.name, text rt wanted) ∈ states := by
  rw [orAddonFits]
  rcases addonStates rt addon.name with - | states
  · simp
  · simp [text, List.any_eq_true]

theorem checkTimeCondition_eq_ok_true_iff {start end' : Option PropertyNode} :
    checkTimeCondition rt start end' = .ok true ↔
      ∃ s e, timeBound rt start 0 = .ok s ∧ timeBound rt end' (24 * 60 * 60) = .ok e ∧
        Within s e rt.secNow := by
  rw [checkTimeCondition]
  rcases hstart : timeBound rt start 0 with failure | s
  · refine iff_of_false (fun h => by cases h) ?_
    rintro ⟨s, e, h, -⟩
    cases h
  rcases hend : timeBound rt end' (24 * 60 * 60) with failure | e
  · refine iff_of_false (fun h => by cases h) ?_
    rintro ⟨s, e, -, h, -⟩
    cases h
  rw [ok_bind, ok_bind]
  simp only [Except.ok.injEq, exists_and_left, exists_eq_left', Within]
  split_ifs with hlt
  · simp [pure, Except.pure]
  · simp [pure, Except.pure]

theorem strToInt_ne_null {number : String} : strToInt number ≠ .error .nullPointer := by
  rw [strToInt]
  rcases parseInt? number with - | i
  · intro h
    cases h
  · intro h
    cases h

theorem secondsFromHMS_ne_null {time : String} : secondsFromHMS time ≠ .error .nullPointer := by
  rw [secondsFromHMS]
  split
  · refine bind_ne_null strToInt_ne_null fun h => bind_ne_null strToInt_ne_null fun m =>
      bind_ne_null strToInt_ne_null fun s => ?_
    intro heq
    cases heq
  · intro h
    cases h

theorem timeBound_ne_null {node : Option PropertyNode} {default : ℕ} :
    timeBound rt node default ≠ .error .nullPointer := by
  cases node with
  | none =>
    intro h
    cases h
  | some node =>
    refine bind_ne_null secondsFromHMS_ne_null fun seconds h => ?_
    cases h

theorem checkTimeCondition_ne_null {start end' : Option PropertyNode} :
    checkTimeCondition rt start end' ≠ .error .nullPointer := by
  refine bind_ne_null timeBound_ne_null fun s => bind_ne_null timeBound_ne_null fun e => ?_
  split_ifs
  · intro h
    cases h
  · intro h
    cases h

theorem weekdayFits_ne_null {days : List String} :
    weekdayFits rt days ≠ .error .nullPointer := by
  induction days with
  | nil =>
    intro h
    cases h
  | cons day days ih =>
    refine bind_ne_null strToInt_ne_null fun i => ?_
    split_ifs
    · intro h
      cases h
    · exact ih

end loops

/-! ## The conjunction -/

/-- All conditions but the dates let it pass: they hold, and what is read on the way can be read;
but a system state without a value is let pass, and so are all if there are no system states. -/
structure Passes : Prop where
  enabled : ∀ node, c.getPropertyByName "enabled" = some node → node.getBoolValue = .ok true
  states : ∀ node, c.getPropertyByName "states" = some node →
    ∀ states, rt.getProperty "/usr/states" = some states → ∀ wanted ∈ node.children,
      Until (Meant wanted.name) NameReadable states.children ∧
        (First (Meant wanted.name) (ValueIs rt (text rt wanted)) states.children ∨
          Unvalued wanted.name states.children)
  addons : ∀ node, c.getPropertyByName "addon-states" = some node → ∀ addon ∈ node.children,
    ∃ states, addonStates rt addon.name = some states ∧ ∀ wanted ∈ addon.children,
      First (·.1 = wanted.name) (·.2 = text rt wanted) states
  orAddons : ∀ node, c.getPropertyByName "or-addon-states" = some node →
    ∃ addon ∈ node.children, ∃ states, addonStates rt addon.name = some states ∧
      ∃ wanted ∈ addon.children, (wanted.name, text rt wanted) ∈ states
  zones : ∀ node, c.getPropertyByName "zone-states" = some node →
    Reaches (ZoneMatches rt) ZoneComplete node.children
  weekdays : ∀ node, c.getPropertyByName "weekdays" = some node → text rt node ≠ "" →
    Reaches (IsToday rt) IsNumber (splitString (text rt node) ',')
  time : (c.getPropertyByName "time-start").isSome ∨ (c.getPropertyByName "time-end").isSome →
    ∃ start end', timeBound rt (c.getPropertyByName "time-start") 0 = .ok start ∧
      timeBound rt (c.getPropertyByName "time-end") (24 * 60 * 60) = .ok end' ∧
      Within start end' rt.secNow

def DatesPass : Prop :=
  ∀ node, c.getPropertyByName "date" = some node →
    Reaches (DateSays rt (.ok true)) (DatePassed rt) node.children

/-- What is read on the way to where a condition holds can be read. -/
structure Readable : Prop where
  names : ∀ node, c.getPropertyByName "states" = some node → ∀ wanted ∈ node.children,
    Until (Meant wanted.name) NameReadable (systemStates rt)
  zones : ∀ node, c.getPropertyByName "zone-states" = some node →
    Until (ZoneMatches rt) ZoneComplete node.children
  weekdays : ∀ node, c.getPropertyByName "weekdays" = some node → text rt node ≠ "" →
    Until (IsToday rt) IsNumber (splitString (text rt node) ',')
  /-- the dates before the one that matches have a rule, and the calendar library answers -/
  dates : ∀ node, c.getPropertyByName "date" = some node →
    Until (DateSays rt (.ok true)) (DatePassed rt) node.children

/-- When the check does well. -/
structure Fits : Prop where
  /-- if all other conditions let it pass, no date is read that has a start and an end but no
  rule -/
  ruled : Passes rt c → ∀ node, c.getPropertyByName "date" = some node →
    Until (DateDecides rt) DateRuled node.children
  valued : Passes rt c → DatesPass rt c → ∀ node, c.getPropertyByName "states" = some node →
    ∀ wanted ∈ node.children, ∃ state ∈ systemStates rt, Meant wanted.name state
  /-- if the conditions hold, what is read on the way can be read -/
  readable : Holds rt c → Readable rt c

/-- What the check should do. -/
def Law : Prop :=
  checkConditions rt c ≠ .error .nullPointer ∧ (checkConditions rt c = .ok true ↔ Holds rt c)

variable {rt c}

theorem statesCheck_eq_ok_true_iff :
    statesCheck rt c = .ok true ↔ ∀ node, c.getPropertyByName "states" = some node →
      ∀ states, rt.getProperty "/usr/states" = some states → ∀ wanted ∈ node.children,
        Until (Meant wanted.name) NameReadable states.children ∧
          (First (Meant wanted.name) (ValueIs rt (text rt wanted)) states.children ∨
            Unvalued wanted.name states.children) := by
  rw [statesCheck, checkOf_eq_ok_true_iff]
  refine forall₂_congr fun node _ => ?_
  rw [checkOf_eq_ok_true_iff]
  refine forall₂_congr fun states _ => ?_
  rw [statesFit_eq_ok_true_iff]
  refine forall₂_congr fun wanted _ => ?_
  rw [systemStateFits_eq_ok_true_iff, Unvalued, and_comm (a := ∃ _ ∈ _, _)]
  simp only [Bool.false_eq_true, false_or]

theorem addonsCheck_eq_ok_true_iff :
    addonsCheck rt c = .ok true ↔ ∀ node, c.getPropertyByName "addon-states" = some node →
      ∀ addon ∈ node.children, ∃ states, addonStates rt addon.name = some states ∧
        ∀ wanted ∈ addon.children, First (·.1 = wanted.name) (·.2 = text rt wanted) states := by
  rw [addonsCheck, checkOf_eq_ok_true_iff]
  refine forall₂_congr fun node _ => ?_
  rw [Except.ok.injEq, List.all_eq_true]
  exact forall₂_congr fun addon _ => addonFits_eq_true_iff

theorem orAddonsCheck_eq_ok_true_iff :
    orAddonsCheck rt c = .ok true ↔ ∀ node, c.getPropertyByName "or-addon-states" = some node →
      ∃ addon ∈ node.children, ∃ states, addonStates rt addon.name = some states ∧
        ∃ wanted ∈ addon.children, (wanted.name, text rt wanted) ∈ states := by
  rw [orAddonsCheck, checkOf_eq_ok_true_iff]
  refine forall₂_congr fun node _ => ?_
  rw [Except.ok.injEq, List.any_eq_true]
  exact exists_congr fun addon => and_congr_right fun _ => orAddonFits_eq_true_iff

theorem zonesCheck_eq_ok_true_iff :
    zonesCheck rt c = .ok true ↔ ∀ node, c.getPropertyByName "zone-states" = some node →
      Reaches (ZoneMatches rt) ZoneComplete node.children := by
  rw [zonesCheck, checkOf_eq_ok_true_iff]
  refine forall₂_congr fun node _ => ?_
  rw [Except.ok.injEq, zoneStatesFit_eq_true_iff]

theorem weekdaysCheck_eq_ok_true_iff :
    weekdaysCheck rt c = .ok true ↔ ∀ node, c.getPropertyByName "weekdays" = some node →
      text rt node ≠ "" → Reaches (IsToday rt) IsNumber (splitString (text rt node) ',') := by
  rw [weekdaysCheck, checkOf_eq_ok_true_iff]
  refine forall₂_congr fun node _ => ?_
  by_cases hempty : text rt node = ""
  · rw [if_pos hempty]
    exact iff_of_true rfl fun h => absurd hempty h
  · rw [if_neg hempty, forall_prop_of_true hempty, weekdayFits_eq_ok_true_iff]

theorem timeCheck_eq_ok_true_iff :
    timeCheck rt c = .ok true ↔
      ((c.getPropertyByName "time-start").isSome ∨ (c.getPropertyByName "time-end").isSome →
        ∃ start end', timeBound rt (c.getPropertyByName "time-start") 0 = .ok start ∧
          timeBound rt (c.getPropertyByName "time-end") (24 * 60 * 60) = .ok end' ∧
          Within start end' rt.secNow) := by
  rw [timeCheck]
  split_ifs with htime
  · rw [forall_prop_of_true htime, checkTimeCondition_eq_ok_true_iff]
  · exact iff_of_true rfl fun h => absurd h htime

theorem passes_iff :
    Passes rt c ↔ enabledCheck c = .ok true ∧ statesCheck rt c = .ok true ∧
      addonsCheck rt c = .ok true ∧ orAddonsCheck rt c = .ok true ∧ zonesCheck rt c = .ok true ∧
      weekdaysCheck rt c = .ok true ∧ timeCheck rt c = .ok true := by
  rw [enabledCheck, checkOf_eq_ok_true_iff, statesCheck_eq_ok_true_iff, addonsCheck_eq_ok_true_iff,
    orAddonsCheck_eq_ok_true_iff, zonesCheck_eq_ok_true_iff, weekdaysCheck_eq_ok_true_iff,
    timeCheck_eq_ok_true_iff]
  constructor
  · intro h
    exact ⟨h.enabled, h.states, h.addons, h.orAddons, h.zones, h.weekdays, h.time⟩
  · rintro ⟨henabled, hstates, haddons, horAddons, hzones, hweekdays, htime⟩
    exact ⟨henabled, hstates, haddons, horAddons, hzones, hweekdays, htime⟩

theorem checkConditions_eq_ok_true_iff :
    checkConditions rt c = .ok true ↔ Passes rt c ∧ DatesPass rt c := by
  have hdates : dateCheck rt c = .ok true ↔ DatesPass rt c := by
    rw [dateCheck, checkOf_eq_ok_true_iff]
    exact forall₂_congr fun node _ => dateFits_eq_ok_true_iff
  rw [checkConditions_eq, passes_iff, ← hdates]
  simp only [also_eq_ok_true_iff, and_assoc]

theorem checkConditions_eq_null_iff :
    checkConditions rt c = .error .nullPointer ↔ Passes rt c ∧
      ∃ node, c.getPropertyByName "date" = some node ∧
        ¬ Until (DateDecides rt) DateRuled node.children := by
  have hdates : dateCheck rt c = .error .nullPointer ↔ ∃ node, c.getPropertyByName "date" =
      some node ∧ ¬ Until (DateDecides rt) DateRuled node.children := by
    rw [dateCheck, checkOf_eq_error_iff]
    exact exists_congr fun node => and_congr_right fun _ => dateFits_eq_null_iff
  have hcheck {o : Option PropertyNode} {f : PropertyNode → Except Failure Bool}
      (hf : ∀ node, f node ≠ .error .nullPointer) : ¬ checkOf o f = .error .nullPointer := by
    rw [checkOf_eq_error_iff]
    rintro ⟨node, -, h⟩
    exact hf node h
  have henabled : ¬ enabledCheck c = .error .nullPointer := hcheck fun node h => by
    rw [PropertyNode.getBoolValue] at h
    split at h
    · cases h
    · cases h
  have hstates : ¬ statesCheck rt c = .error .nullPointer :=
    hcheck fun node => hcheck fun states => statesFit_ne_null
  have haddons : ¬ addonsCheck rt c = .error .nullPointer := hcheck fun node h => by cases h
  have horAddons : ¬ orAddonsCheck rt c = .error .nullPointer := hcheck fun node h => by cases h
  have hzones : ¬ zonesCheck rt c = .error .nullPointer := hcheck fun node h => by cases h
  have hweekdays : ¬ weekdaysCheck rt c = .error .nullPointer := hcheck fun node => by
    split_ifs
    · intro h
      cases h
    · exact weekdayFits_ne_null
  have htime : ¬ timeCheck rt c = .error .nullPointer := by
    rw [timeCheck]
    split_ifs
    · exact checkTimeCondition_ne_null
    · intro h
      cases h
  rw [checkConditions_eq, passes_iff, ← hdates]
  simp only [also_eq_error_iff, henabled, hstates, haddons, horAddons, hzones, hweekdays, htime,
    false_or, and_assoc]

theorem Holds.passes (h : Holds rt c) (hreadable : Readable rt c) :
    Passes rt c ∧ DatesPass rt c := by
  refine ⟨⟨h.enabled, fun node hnode states hstates wanted hwanted => ?_, h.addons, h.orAddons,
    fun node hnode => ⟨h.zones node hnode, hreadable.zones node hnode⟩,
    fun node hnode htext => ⟨h.weekdays node hnode htext, hreadable.weekdays node hnode htext⟩,
    h.time⟩, fun node hnode => ⟨h.dates node hnode, hreadable.dates node hnode⟩⟩
  have hall : systemStates rt = states.children := by
    rw [systemStates, hstates]
    rfl
  rw [← hall]
  exact ⟨hreadable.names node hnode wanted hwanted, Or.inl (h.states node hnode wanted hwanted)⟩

theorem Passes.readable (h : Passes rt c) (hdates : DatesPass rt c) : Readable rt c := by
  refine ⟨fun node hnode wanted hwanted => ?_, fun node hnode => (h.zones node hnode).2,
    fun node hnode htext => (h.weekdays node hnode htext).2,
    fun node hnode => (hdates node hnode).2⟩
  rw [systemStates]
  rcases hstates : rt.getProperty "/usr/states" with - | states
  · exact until_nil
  · exact (h.states node hnode states hstates wanted hwanted).1

theorem Passes.holds (h : Passes rt c) (hdates : DatesPass rt c)
    (hvalued : ∀ node, c.getPropertyByName "states" = some node → ∀ wanted ∈ node.children,
      ∃ state ∈ systemStates rt, Meant wanted.name state) : Holds rt c := by
  refine ⟨h.enabled, fun node hnode wanted hwanted => ?_, h.addons, h.orAddons,
    fun node hnode => (h.zones node hnode).1,
    fun node hnode htext => (h.weekdays node hnode htext).1,
    h.time, fun node hnode => (hdates node hnode).1⟩
  obtain ⟨state, hstate, hmeant⟩ := hvalued node hnode wanted hwanted
  rw [systemStates] at hstate ⊢
  rcases hstates : rt.getProperty "/usr/states" with - | states
  · rw [hstates] at hstate
    cases hstate
  · rw [hstates] at hstate
    obtain ⟨-, hfirst | hunvalued⟩ := h.states node hnode states hstates wanted hwanted
    · exact hfirst
    · exact absurd hmeant (hunvalued.2 state hstate)

/-- **The conjunction.** The check says yes exactly if all conditions hold, and follows no null
pointer, exactly if it reads no date without a rule, no state that is asked for lacks a value, and
nothing unreadable stands before what decides. -/
theorem law_iff_fits : Law rt c ↔ Fits rt c := by
  rw [Law, Ne, checkConditions_eq_null_iff, checkConditions_eq_ok_true_iff]
  constructor
  · rintro ⟨hnull, hiff⟩
    refine ⟨fun hpasses node hnode => ?_, fun hpasses hdates node hnode wanted hwanted => ?_,
      fun hholds => ?_⟩
    · apply Classical.byContradiction
      intro hnot
      exact hnull ⟨hpasses, node, hnode, hnot⟩
    · exact ((hiff.mp ⟨hpasses, hdates⟩).states node hnode wanted hwanted).exists_mem
    · obtain ⟨hpasses, hdates⟩ := hiff.mpr hholds
      exact hpasses.readable hdates
  · intro hfits
    refine ⟨?_, ?_, fun hholds => hholds.passes (hfits.readable hholds)⟩
    · rintro ⟨hpasses, node, hnode, hnot⟩
      exact hnot (hfits.ruled hpasses node hnode)
    · rintro ⟨hpasses, hdates⟩
      exact hpasses.holds hdates (hfits.valued hpasses hdates)

/-- The conditions of a definition, as `checkSystemCondition` finds them. -/
def conditionsOf (path : String) (definition : PropertyNode) : Option PropertyNode :=
  if path.toList.getLast? = some '/' then none else definition.getPropertyByName "conditions"

/-- **System conditions.** For every definition and everything around it: a null pointer is never
followed, and the check says yes exactly if all conditions hold, exactly if it fits. -/
theorem checkSystemCondition_conjunction_iff (rt : Runtime) (path : String)
    (definition : PropertyNode) :
    (checkSystemCondition rt path definition ≠ .error .nullPointer ∧
      (checkSystemCondition rt path definition = .ok true ↔
        ∀ c, conditionsOf path definition = some c → Holds rt c)) ↔
      ∀ c, conditionsOf path definition = some c → Fits rt c := by
  rw [checkSystemCondition, conditionsOf]
  generalize (if path.toList.getLast? = some '/' then none
    else definition.getPropertyByName "conditions") = conditions
  rcases conditions with - | c
  · refine iff_of_true ⟨fun h => ?_, iff_of_true rfl fun c h => ?_⟩ fun c h => ?_
    · cases h
    · cases h
    · cases h
  · simp only [some.injEq, forall_eq']
    exact law_iff_fits

def emptyRuntime : Runtime where
  doubleToString := fun _ => ""
  strtod := fun _ => none
  strptime := fun _ => none
  dsuidFromString := fun _ => none
  unsetDSUID := ""
  now := 0
  nowISO8601 := ""
  weekday := 0
  secNow := 0
  isDateInside := fun _ _ _ => .ok false
  getProperty := fun _ => none
  pushEvent := fun _ => none
  pushTimedEvent := fun _ => ""

def unruled : PropertyNode where
  name := "trigger"
  children :=
    [{ name := "conditions", children := [{ name := "date", children := [{ name := "0", children :=
      [{ name := "start", value := .string "20140601T000000Z" },
        { name := "end", value := .string "20140630T000000Z" }] }] }] }]

/-- It is read through a null pointer. -/
theorem condition_conjunction_fails :
    ¬ ∀ (rt : Runtime) (path : String) (definition : PropertyNode),
      checkSystemCondition rt path definition ≠ .error .nullPointer ∧
        (checkSystemCondition rt path definition = .ok true ↔
          ∀ c, conditionsOf path definition = some c → Holds rt c) := by
  intro h
  exact (h emptyRuntime "/usr/trigger" unruled).1 rfl

end SystemCondition

end Dss
