import Dss.DateTexts
import Dss.SystemTriggerRun

/-!
# Damping

A trigger with a damping interval lets an evaluation pass or damps it. The time that counts is a
text at a node of its definition: of the last evaluation that passed, or with `rewindTimer` of the
last one at all. It is written in whole seconds of UTC and read back through the clocks of the
machine. So what is read must be what was written; and the fractions of a second, which the text
does not have, must not matter.

Times are in microseconds. Their difference is an `int`, so they must not be 68 years apart.
-/

namespace Dss

open Option

namespace TriggerDamping

open DateTime PropertyNode

/-! ## Evaluations -/

def seconds (time : ℕ) : ℕ := time / 1000000

/-- What `damping` asks, at a time and in a time zone. Other texts than those in UTC are read as
before. -/
def runtimeAt (rt : Runtime) (z : TimeZone) (time : ℕ) : Runtime :=
  { rt with
    now := seconds time
    nowISO8601 := toISO8601 (seconds time)
    strptime := fun text =>
      match strptime text.toList with
      | some tm => convertTZ z tm.clock 0
      | none => rt.strptime text }

section Run

variable (rt : Runtime) (z : TimeZone)

/-- An evaluation: whether it is damped, if `damping` does not throw, and the definition that it
leaves. -/
def evaluate (time : ℕ) (definition : PropertyNode) : Option Bool × PropertyNode :=
  match SystemTrigger.damping (runtimeAt rt z time) definition with
  | .ok (damped, definition) => (some damped, definition)
  | .error _ => (none, definition)

def definitionAt (times : ℕ → ℕ) (definition : PropertyNode) : ℕ → PropertyNode
  | 0 => definition
  | n + 1 => (evaluate rt z (times n) (definitionAt times definition n)).2

def result (times : ℕ → ℕ) (definition : PropertyNode) (n : ℕ) : Option Bool :=
  (evaluate rt z (times n) (definitionAt rt z times definition n)).1

end Run

/-! ## The law -/

/-- At least so many seconds lie between two times. -/
def Apart (interval : ℤ) (earlier later : ℕ) : Prop :=
  interval * 1000000 ≤ (later : ℤ) - earlier

instance (interval : ℤ) (earlier later : ℕ) : Decidable (Apart interval earlier later) :=
  inferInstanceAs (Decidable (interval * 1000000 ≤ (later : ℤ) - earlier))

def IsLast (passes : ℕ → Prop) (m n : ℕ) : Prop :=
  m < n ∧ passes m ∧ ∀ k, m < k → k < n → ¬ passes k

/-- The law of damping. Without rewinding, the first evaluation passes and each one at least the
interval after the last that passed; with it, the first one and each at least the interval after
the one before. -/
structure Law (interval : ℤ) (rewind : Bool) (times : ℕ → ℕ) (passes : ℕ → Prop) : Prop where
  first : passes 0
  greedy : rewind = false → ∀ m n, IsLast passes m n →
    (passes n ↔ Apart interval (times m) (times n))
  rewound : rewind = true → ∀ n, passes (n + 1) ↔ Apart interval (times n) (times (n + 1))

def reference (interval : ℤ) (rewind : Bool) (times : ℕ → ℕ) : ℕ → ℕ
  | 0 => times 0
  | n + 1 =>
    if rewind = true ∨ Apart interval (reference interval rewind times n) (times (n + 1)) then
      times (n + 1)
    else reference interval rewind times n

def Passes (interval : ℤ) (rewind : Bool) (times : ℕ → ℕ) : ℕ → Prop
  | 0 => True
  | n + 1 => Apart interval (reference interval rewind times n) (times (n + 1))

section Law

variable {interval : ℤ} {rewind : Bool} {times : ℕ → ℕ} {passes : ℕ → Prop}

theorem IsLast.unique {m m' n : ℕ} (h : IsLast passes m n) (h' : IsLast passes m' n) : m = m' := by
  obtain ⟨hlt, hm, hnot⟩ := h
  obtain ⟨hlt', hm', hnot'⟩ := h'
  rcases Nat.lt_trichotomy m m' with hless | heq | hless
  · exact absurd hm' (hnot m' hless hlt')
  · exact heq
  · exact absurd hm (hnot' m hless hlt)

theorem reference_of_rewind (n : ℕ) : reference interval true times n = times n := by
  cases n with
  | zero => rfl
  | succ n => exact if_pos (Or.inl rfl)

theorem exists_reference_eq (interval : ℤ) (rewind : Bool) (times : ℕ → ℕ) (n : ℕ) :
    ∃ m, reference interval rewind times n = times m := by
  induction n with
  | zero => exact ⟨0, rfl⟩
  | succ n ih =>
    rw [reference]
    split_ifs
    · exact ⟨n + 1, rfl⟩
    · exact ih

theorem exists_isLast {n : ℕ} (hpasses : ∀ k ≤ n, passes k ↔ Passes interval false times k) :
    ∃ m, IsLast passes m (n + 1) ∧ reference interval false times n = times m := by
  induction n with
  | zero =>
    refine ⟨0, ⟨Nat.one_pos, (hpasses 0 le_rfl).mpr trivial, fun k hk hk1 => ?_⟩, rfl⟩
    omega
  | succ n ih =>
    obtain ⟨m, ⟨hlt, hm, hnot⟩, href⟩ := ih fun k hk => hpasses k (Nat.le_succ_of_le hk)
    by_cases hpass : passes (n + 1)
    · refine ⟨n + 1, ⟨Nat.lt_succ_self _, hpass, fun k hk hk1 => ?_⟩, ?_⟩
      · omega
      · exact if_pos (Or.inr ((hpasses (n + 1) le_rfl).mp hpass))
    · refine ⟨m, ⟨Nat.lt_succ_of_lt hlt, hm, fun k hk hk1 => ?_⟩, ?_⟩
      · rcases Nat.lt_succ_iff_lt_or_eq.mp hk1 with hk1 | rfl
        · exact hnot k hk hk1
        · exact hpass
      · have hapart : ¬ Apart interval (reference interval false times n) (times (n + 1)) :=
          fun h => hpass ((hpasses (n + 1) le_rfl).mpr h)
        rw [← href]
        exact if_neg fun h => h.elim Bool.false_ne_true hapart

theorem law_iff : Law interval rewind times passes ↔
    ∀ n, passes n ↔ Passes interval rewind times n := by
  refine ⟨fun h n => ?_, fun h => ⟨(h 0).mpr trivial, ?_, ?_⟩⟩
  · induction n using Nat.strong_induction_on with
    | _ n ih =>
      cases n with
      | zero => exact iff_of_true h.first trivial
      | succ n =>
        cases rewind with
        | true => rw [Passes, reference_of_rewind, h.rewound rfl]
        | false =>
          obtain ⟨m, hlast, href⟩ := exists_isLast fun k hk => ih k (Nat.lt_succ_of_le hk)
          rw [Passes, href, h.greedy rfl m (n + 1) hlast]
  · rintro rfl m n hlast
    cases n with
    | zero => exact absurd hlast.1 (Nat.not_lt_zero m)
    | succ n =>
      obtain ⟨m', hlast', href⟩ := exists_isLast (n := n) fun k _ => h k
      rw [h, Passes, href, hlast.unique hlast']
  · rintro rfl n
    rw [h, Passes, reference_of_rewind]

end Law

/-! ## Definitions with a damping -/

/-- `rewindTimer`, as `damping` reads it. -/
def rewinds (definition : PropertyNode) : Except Failure Bool :=
  match definition.getPropertyIn "damping" "rewindTimer" with
  | none => .ok false
  | some node => node.getBoolValue

structure Configured (interval : ℤ) (rewind : Bool) (definition : PropertyNode) : Prop where
  interval : ∃ node, definition.getPropertyIn "damping" "interval" = some node ∧
    node.getIntegerValue = .ok interval
  /-- `rewindTimer` -/
  rewind : rewinds definition = .ok rewind

structure Fresh (interval : ℤ) (rewind : Bool) (definition : PropertyNode) : Prop
    extends Configured interval rewind definition where
  /-- nothing is called `lastTrigger` -/
  unused : ∀ node, definition.getPropertyByName "damping" = some node →
    "lastTrigger" ∉ node.childNames

structure Stamped (interval : ℤ) (rewind : Bool) (time : ℕ) (definition : PropertyNode) : Prop
    extends Configured interval rewind definition where
  /-- `lastTrigger` -/
  last : ∃ node, definition.getPropertyIn "damping" "lastTrigger" = some node ∧
    node.value = .string (toISO8601 time)

section Definitions

variable {interval : ℤ} {rewind : Bool} {time : ℕ} {definition node : PropertyNode}
  {rt : Runtime} {z : TimeZone}

def stamp (text : String) (definition : PropertyNode) : PropertyNode :=
  definition.modifyByName "damping" (·.modifyByName "lastTrigger" (·.setStringValue text))

def firstStamp (time : ℕ) (definition : PropertyNode) : PropertyNode :=
  definition.modifyByName "damping" (·.createStringProperty "lastTrigger" (toISO8601 time))

theorem Configured.of_eq {definition' : PropertyNode} (h : Configured interval rewind definition)
    (hother : ∀ child, child ≠ "lastTrigger" →
      definition'.getPropertyIn "damping" child = definition.getPropertyIn "damping" child) :
    Configured interval rewind definition' := by
  refine ⟨?_, ?_⟩
  · rw [hother "interval" (by decide)]
    exact h.interval
  · rw [rewinds, hother "rewindTimer" (by decide)]
    exact h.rewind

theorem Stamped.stamp {earlier : ℕ} (h : Stamped interval rewind earlier definition) (time : ℕ) :
    Stamped interval rewind time (stamp (toISO8601 time) definition) := by
  refine ⟨h.toConfigured.of_eq fun child hchild =>
    getPropertyIn_modifyByName_modifyByName keepsName_setStringValue hchild, ?_⟩
  obtain ⟨node, hnode, -⟩ := h.last
  obtain ⟨parent, hparent, hchild⟩ := bind_eq_some_iff.mp hnode
  refine ⟨node.setStringValue (toISO8601 time), ?_, rfl⟩
  rw [getPropertyIn, TriggerDamping.stamp,
    getPropertyByName_modifyByName_self keepsName_modifyByName, hparent, map_some,
    bind_some, getPropertyByName_modifyByName_self keepsName_setStringValue, hchild,
    map_some]

theorem getPropertyByName_eq_none {name : String} (h : name ∉ node.childNames) :
    node.getPropertyByName name = none := by
  rw [getPropertyByName, List.find?_eq_none]
  intro child hmem hnamed
  rw [PropertyNode.isNamed, Bool.and_eq_true, beq_iff_eq] at hnamed
  exact h (hnamed.1 ▸ List.mem_map_of_mem hmem)

theorem getPropertyByName_createStringProperty {name text : String} (h : name ∉ node.childNames)
    (child : String) :
    (node.createStringProperty name text).getPropertyByName child =
      if child = name then some { name := name, value := .string text }
      else node.getPropertyByName child := by
  rw [createStringProperty, getPropertyByName_eq_none h, nextIndex_eq_zero h,
    if_neg (by simp), getPropertyByName, List.find?_append]
  by_cases hchild : child = name
  · have hnone : node.children.find? (PropertyNode.isNamed child) = none := by
      rw [hchild]
      exact getPropertyByName_eq_none h
    rw [hnone, hchild]
    simp [PropertyNode.isNamed]
  · have hnew : [({ name := name, value := .string text } : PropertyNode)].find?
        (PropertyNode.isNamed child) = none := by
      simp [PropertyNode.isNamed, Ne.symm hchild]
    rw [if_neg hchild, hnew, or_none]
    rfl

theorem Fresh.firstStamp (h : Fresh interval rewind definition) (time : ℕ) :
    Stamped interval rewind time (firstStamp time definition) := by
  obtain ⟨intervalNode, hinterval, -⟩ := h.interval
  obtain ⟨parent, hparent, -⟩ := bind_eq_some_iff.mp hinterval
  have hlookup (child : String) :
      (TriggerDamping.firstStamp time definition).getPropertyIn "damping" child =
        if child = "lastTrigger" then
          some { name := "lastTrigger", value := .string (toISO8601 time) }
        else definition.getPropertyIn "damping" child := by
    rw [getPropertyIn, TriggerDamping.firstStamp, getPropertyIn,
      getPropertyByName_modifyByName_self keepsName_createStringProperty, hparent, map_some,
      bind_some, getPropertyByName_createStringProperty (h.unused parent hparent)]
    rfl
  refine ⟨h.toConfigured.of_eq fun child hchild => ?_, ⟨_, hlookup "lastTrigger", rfl⟩⟩
  rw [hlookup, if_neg hchild]

/-! ## One evaluation -/

theorem damping_of_fresh (h : Fresh interval rewind definition) :
    evaluate rt z time definition = (some false, firstStamp (seconds time) definition) := by
  obtain ⟨intervalNode, hinterval, -⟩ := h.interval
  obtain ⟨parent, hparent, -⟩ := bind_eq_some_iff.mp hinterval
  have hlast : definition.getPropertyIn "damping" "lastTrigger" = none := by
    rw [getPropertyIn, hparent]
    exact getPropertyByName_eq_none (h.unused parent hparent)
  rw [evaluate, SystemTrigger.damping, hinterval, hlast]
  rfl

theorem strptime_runtimeAt {earlier later : ℕ} (hend : earlier < endOfTime) :
    (runtimeAt rt z later).strptime (toISO8601 earlier) = convertTZ z earlier 0 := by
  rw [runtimeAt]
  dsimp only
  rw [toISO8601, String.toList_ofList, strptime_strftime (valid_gmtime hend)]
  dsimp only
  rw [clock_gmtime hend]

theorem damping_of_ok {earlier : ℕ} {s : ℤ} (h : Stamped interval rewind earlier definition)
    (hinterval : 0 ≤ interval) (hparse : parseISO8601 rt (toISO8601 earlier) = .ok s) :
    SystemTrigger.damping rt definition =
      if difference rt.now s < interval then
        .ok (true, if rewind then stamp rt.nowISO8601 definition else definition)
      else .ok (false, stamp rt.nowISO8601 definition) := by
  obtain ⟨intervalNode, hintervalNode, hvalue⟩ := h.interval
  obtain ⟨lastNode, hlastNode, htext⟩ := h.last
  have hstring : lastNode.getAsString rt.doubleToString = toISO8601 earlier := by
    rw [getAsString, htext]
  have hrewind := h.rewind
  rw [rewinds] at hrewind
  rw [SystemTrigger.damping, hintervalNode, hlastNode]
  dsimp only
  rw [hvalue, hstring, hparse]
  simp only [bind, Except.bind]
  rw [if_neg (not_lt.mpr hinterval)]
  cases hnode : definition.getPropertyIn "damping" "rewindTimer" with
  | none =>
    rw [hnode] at hrewind
    cases hrewind
    rfl
  | some node =>
    rw [hnode] at hrewind
    dsimp only at hrewind ⊢
    rw [hrewind]
    rfl

theorem evaluate_of_some {earlier later : ℕ} {s : ℤ}
    (h : Stamped interval rewind earlier definition) (hinterval : 0 ≤ interval)
    (hend : earlier < endOfTime) (hread : convertTZ z earlier 0 = some s) :
    evaluate rt z later definition =
      if difference (seconds later) s < interval then
        (some true, if rewind then stamp (toISO8601 (seconds later)) definition else definition)
      else (some false, stamp (toISO8601 (seconds later)) definition) := by
  have hparse : parseISO8601 (runtimeAt rt z later) (toISO8601 earlier) = .ok s := by
    rw [parseISO8601, length_toISO8601, if_neg (by decide), strptime_runtimeAt hend, hread]
  rw [evaluate, damping_of_ok h hinterval hparse]
  by_cases hlt : difference (runtimeAt rt z later).now s < interval
  · rw [if_pos hlt]
    exact (if_pos hlt).symm
  · rw [if_neg hlt]
    exact (if_neg hlt).symm

theorem evaluate_of_none {earlier later : ℕ} (h : Stamped interval rewind earlier definition)
    (hinterval : 0 ≤ interval) (hend : earlier < endOfTime)
    (hread : convertTZ z earlier 0 = none) :
    evaluate rt z later definition = (none, definition) := by
  obtain ⟨intervalNode, hintervalNode, hvalue⟩ := h.interval
  obtain ⟨lastNode, hlastNode, htext⟩ := h.last
  have hstring : lastNode.getAsString (runtimeAt rt z later).doubleToString =
      toISO8601 earlier := by
    rw [getAsString, htext]
  rw [evaluate, SystemTrigger.damping, hintervalNode, hlastNode]
  dsimp only
  rw [hvalue, hstring, parseISO8601, length_toISO8601, if_neg (by decide), strptime_runtimeAt hend,
    hread]
  simp only [bind, Except.bind]
  rw [if_neg (not_lt.mpr hinterval)]

end Definitions

/-! ## Runs -/

/-- What is read back of the earlier time can be compared, and lies on the side of the interval
that the earlier time itself lies on. -/
def KeepsSide (z : TimeZone) (interval : ℤ) (earlier later : ℕ) : Prop :=
  ∃ s, convertTZ z (seconds earlier) 0 = some s ∧
    ((interval ≤ (seconds later : ℤ) - s ∧ (seconds later : ℤ) - s < 2 ^ 31) ↔
      Apart interval earlier later)

def Writable (time : ℕ) : Prop := seconds time < endOfTime

section Runs

variable {interval : ℤ} {rewind : Bool} {times : ℕ → ℕ} {definition : PropertyNode} {rt : Runtime}
  {z : TimeZone} {earlier later : ℕ}

/-- An evaluation is not damped if the interval has passed, and less than 68 years have. -/
theorem not_damped_iff {s : ℤ} (hinterval : 0 ≤ interval) :
    ¬ difference (seconds later) s < interval ↔
      interval ≤ (seconds later : ℤ) - s ∧ (seconds later : ℤ) - s < 2 ^ 31 := by
  rw [not_lt]
  exact le_difference_iff (by omega)

/-- **One evaluation.** It ends as the law asks if and only if the time that counts keeps its
side. -/
theorem evaluate_iff (h : Stamped interval rewind (seconds earlier) definition)
    (hinterval : 0 ≤ interval) (hend : Writable earlier) :
    ((evaluate rt z later definition).1.isSome = true ∧
      ((evaluate rt z later definition).1 = some false ↔ Apart interval earlier later)) ↔
      KeepsSide z interval earlier later := by
  rw [KeepsSide]
  cases hread : convertTZ z (seconds earlier) 0 with
  | none =>
    rw [evaluate_of_none h hinterval hend hread]
    simp
  | some s =>
    rw [evaluate_of_some h hinterval hend hread]
    simp only [some.injEq, exists_eq_left', ← not_damped_iff hinterval]
    by_cases hlt : difference (seconds later) s < interval
    · simp [hlt]
    · simp [hlt]

theorem Stamped.evaluate (h : Stamped interval rewind (seconds earlier) definition)
    (hinterval : 0 ≤ interval) (hend : Writable earlier)
    (hkeeps : KeepsSide z interval earlier later) :
    Stamped interval rewind
      (seconds (if rewind = true ∨ Apart interval earlier later then later else earlier))
      (evaluate rt z later definition).2 := by
  obtain ⟨s, hread, hside⟩ := hkeeps
  rw [evaluate_of_some h hinterval hend hread]
  rw [← not_damped_iff hinterval] at hside
  by_cases hlt : difference (seconds later) s < interval
  · have hapart : ¬ Apart interval earlier later := fun ha => hside.mpr ha hlt
    rw [if_pos hlt]
    cases rewind with
    | true => exact h.stamp (seconds later)
    | false => rwa [if_neg fun hor => hor.elim Bool.false_ne_true hapart]
  · rw [if_neg hlt, if_pos (Or.inr (hside.mp hlt))]
    exact h.stamp (seconds later)

theorem writable_reference (htimes : ∀ n, Writable (times n)) (n : ℕ) :
    Writable (reference interval rewind times n) := by
  obtain ⟨m, hm⟩ := exists_reference_eq interval rewind times n
  rw [hm]
  exact htimes m

/-- The law holds of every evaluation, and none throws. -/
def Lawful (rt : Runtime) (z : TimeZone) (interval : ℤ) (rewind : Bool) (times : ℕ → ℕ)
    (definition : PropertyNode) : Prop :=
  (∀ n, (result rt z times definition n).isSome = true) ∧
    Law interval rewind times fun n => result rt z times definition n = some false

theorem result_zero (rt : Runtime) (z : TimeZone) (times : ℕ → ℕ)
    (h : Fresh interval rewind definition) :
    result rt z times definition 0 = some false ∧
      Stamped interval rewind (seconds (times 0)) (definitionAt rt z times definition 1) := by
  rw [result, definitionAt, definitionAt, definitionAt, damping_of_fresh h]
  exact ⟨rfl, h.firstStamp (seconds (times 0))⟩

variable (rt z)

/-- **Damping.** Whatever the times of the evaluations of a trigger with a damping interval, the
law of damping holds if and only if each time that counts keeps its side of the interval. -/
theorem damping_lawful_iff (h : Fresh interval rewind definition) (hinterval : 0 ≤ interval)
    (htimes : ∀ n, Writable (times n)) :
    Lawful rt z interval rewind times definition ↔
      ∀ n, KeepsSide z interval (reference interval rewind times n) (times (n + 1)) := by
  obtain ⟨hfirst, hstamped⟩ := result_zero rt z times h
  rw [Lawful, law_iff]
  have hiff (n : ℕ) (hn : Stamped interval rewind (seconds (reference interval rewind times n))
      (definitionAt rt z times definition (n + 1))) :
      ((result rt z times definition (n + 1)).isSome = true ∧
        (result rt z times definition (n + 1) = some false ↔
          Passes interval rewind times (n + 1))) ↔
        KeepsSide z interval (reference interval rewind times n) (times (n + 1)) :=
    evaluate_iff hn hinterval (writable_reference htimes n)
  have hall (hkeeps : ∀ n, Stamped interval rewind (seconds (reference interval rewind times n))
      (definitionAt rt z times definition (n + 1)) →
        KeepsSide z interval (reference interval rewind times n) (times (n + 1))) (n : ℕ) :
      Stamped interval rewind (seconds (reference interval rewind times n))
        (definitionAt rt z times definition (n + 1)) := by
    induction n with
    | zero => exact hstamped
    | succ n ih => exact ih.evaluate hinterval (writable_reference htimes n) (hkeeps n ih)
  constructor
  · rintro ⟨hsome, hlaw⟩
    have hkeeps n hn := (hiff n hn).mp ⟨hsome (n + 1), hlaw (n + 1)⟩
    exact fun n => hkeeps n (hall hkeeps n)
  · intro hkeeps
    replace hall := hall fun n _ => hkeeps n
    refine ⟨fun n => ?_, fun n => ?_⟩
    · cases n with
      | zero => rw [hfirst]; rfl
      | succ n => exact ((hiff n (hall n)).mpr (hkeeps n)).1
    · cases n with
      | zero => exact iff_of_true hfirst trivial
      | succ n => exact ((hiff n (hall n)).mpr (hkeeps n)).2

end Runs

/-! ## Clocks that show every time -/

section Clocks

variable {z : TimeZone} {interval : ℤ} {m n : ℕ}

/-- What is written is read back, if the local clocks show its fields at the time that `mktime`
finds for them. -/
theorem convertTZ_of_shows (hshown : z.shows (z.mktime m) = m) (hknown : z.mktime m ≠ -1) :
    convertTZ z m 0 = some m := by
  rw [TimeZone.shows] at hshown
  rw [convertTZ, if_neg hknown]
  exact congrArg some (by omega)

/-- Then a time in whole seconds keeps its side for 68 years. -/
theorem keepsSide_of_shows (hshown : z.shows (z.mktime m) = m) (hknown : z.mktime m ≠ -1)
    (hnear : (n : ℤ) - m < 2 ^ 31) :
    KeepsSide z interval (m * 1000000) (n * 1000000) := by
  have hseconds (k : ℕ) : seconds (k * 1000000) = k := Nat.mul_div_cancel k (by decide)
  refine ⟨m, ?_, ?_⟩
  · rw [hseconds]
    exact convertTZ_of_shows hshown hknown
  · rw [hseconds, Apart]
    push_cast
    omega

end Clocks

/-! ## The hour that is left out -/

/-- The clocks of Zurich around 28 March 2021. For a time that they leave out, `mktime` goes by the
clocks of the hour in front of it. -/
def zurich : TimeZone where
  offset time := if time < 1616893200 then 3600 else 7200
  mktime clock := if clock < 1616900400 then clock - 3600 else clock - 7200

def plainRuntime : Runtime where
  doubleToString := fun _ => ""
  strtod := fun _ => none
  strptime := fun _ => none
  dsuidFromString := fun _ => none
  unsetDSUID := ""
  now := 0
  nowISO8601 := ""
  weekday := 0
  secNow := 0
  isDateInside := fun _ _ _ => .ok false
  getProperty := fun _ => none
  pushEvent := fun _ => none
  pushTimedEvent := fun _ => ""

def minuteTrigger : PropertyNode where
  name := "0"
  children :=
    [{ name := "damping", children := [{ name := "interval", value := .integer 60 }] }]

def aMinuteLater (n : ℕ) : ℕ := (1616898600 + 60 * min n 1) * 1000000

theorem fresh_minuteTrigger : Fresh 60 false minuteTrigger where
  interval := ⟨_, rfl, rfl⟩
  rewind := rfl
  unused := by
    intro node hnode
    cases hnode
    decide

theorem writable_aMinuteLater (n : ℕ) : Writable (aMinuteLater n) := by
  rw [Writable, aMinuteLater, seconds, endOfTime]
  omega

example : toISO8601 (seconds (aMinuteLater 0)) = "2021-03-28T02:30:00Z" := by decide

theorem damping_lawful_iff_minute :
    Lawful plainRuntime zurich 60 false aMinuteLater minuteTrigger ↔
      ∀ n, KeepsSide zurich 60 (reference 60 false aMinuteLater n) (aMinuteLater (n + 1)) :=
  damping_lawful_iff plainRuntime zurich fresh_minuteTrigger (by decide) writable_aMinuteLater

/-- A minute later, the trigger is damped all the same. -/
theorem damping_fails : ¬ Lawful plainRuntime zurich 60 false aMinuteLater minuteTrigger := by
  rintro ⟨-, hlaw⟩
  have hstamped := (result_zero plainRuntime zurich aMinuteLater fresh_minuteTrigger).2
  have hread : convertTZ zurich (seconds (aMinuteLater 0)) 0 = some 1616902200 := by decide
  have hdamped : result plainRuntime zurich aMinuteLater minuteTrigger 1 = some true := by
    rw [result, evaluate_of_some hstamped (by decide) (writable_aMinuteLater 0) hread]
    exact congrArg Prod.fst (if_pos (by decide))
  have hapart : Apart 60 (aMinuteLater 0) (aMinuteLater 1) := by decide
  have hpass : result plainRuntime zurich aMinuteLater minuteTrigger 1 = some false :=
    (law_iff.1 hlaw 1).mpr hapart
  rw [hdamped] at hpass
  cases hpass

end TriggerDamping

end Dss
