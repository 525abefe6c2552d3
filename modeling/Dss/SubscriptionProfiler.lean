import Dss.Accumulation
import Mathlib.Algebra.BigOperators.Group.List.Basic
import Mathlib.Algebra.Order.Ring.Int

/-!
# The profiler of subscriptions

Each run of a subscription for an event is timed, with the times of its scripts. The accumulator
adds every run to the record of its subscription and event. The loop that should add the times of
the scripts works on copies of them.
-/

namespace Dss

open List

/-! ## Runs and records -/

structure ScriptTime : Type where
  name : String
  totalTime : ℤ
  deriving DecidableEq

structure SubscriptionTime : Type where
  eventName : String
  subscriptionName : String
  init : ℤ
  /-- `m_end` -/
  stop : ℤ
  /-- `count`, of 32 bits -/
  count : ℕ
  scripts : List ScriptTime
  deriving DecidableEq

namespace SubscriptionTime

/-- What `operator==` compares. -/
def pair (t : SubscriptionTime) : String × String := (t.subscriptionName, t.eventName)

def total (t : SubscriptionTime) : ℤ :=
  t.scripts.foldl (fun total script => total + script.totalTime) (t.init + t.stop)

end SubscriptionTime

namespace BenchmarkAccumulator

open SubscriptionTime

/-- The loop over the scripts of a record, which are left as they are: `accum` is a copy. -/
def addScripts : List ScriptTime → List ScriptTime → List ScriptTime
  | accum :: scripts, curScript :: newScripts =>
    if accum.name ≠ curScript.name then accum :: scripts
    else
      let _copy := { accum with totalTime := accum.totalTime + curScript.totalTime }
      accum :: addScripts scripts newScripts
  | scripts, _ => scripts

def addTiming (elt newTiming : SubscriptionTime) : SubscriptionTime :=
  let elt := { elt with
    init := elt.init + newTiming.init
    stop := elt.stop + newTiming.stop
    count := (elt.count + 1) % 2 ^ 32 }
  if elt.scripts.length ≠ newTiming.scripts.length then elt
  else { elt with scripts := addScripts elt.scripts newTiming.scripts }

def addRun (subscriptionTimes : List SubscriptionTime) (newTiming : SubscriptionTime) :
    List SubscriptionTime :=
  Accumulation.collect pair pair (fun t => { t with count := 1 }) addTiming subscriptionTimes
    newTiming

/-- The records that runs and uploads lead to. -/
inductive Reached : List SubscriptionTime → List SubscriptionTime → Prop
  /-- there are none -/
  | start : Reached [] []
  | addRun {runs times : List SubscriptionTime} (newTiming : SubscriptionTime) :
      Reached runs times → Reached (runs ++ [newTiming]) (addRun times newTiming)
  | upload {runs times sorted : List SubscriptionTime} : Reached runs times →
      sorted.Perm times → sorted.Pairwise (fun s t => t.total ≤ s.total) → Reached runs sorted

/-! ## The law -/

def runsOf (runs : List SubscriptionTime) (p : String × String) : List SubscriptionTime :=
  runs.filter fun r => r.pair = p

def scriptNames (t : SubscriptionTime) : List String := t.scripts.map ScriptTime.name

def scriptTime (i : ℕ) (t : SubscriptionTime) : ℤ := (t.scripts.map ScriptTime.totalTime).getD i 0

def SameScripts (runs : List SubscriptionTime) : Prop :=
  ∀ r ∈ runs, ∀ s ∈ runs, scriptNames r = scriptNames s

structure Sums (runs : List SubscriptionTime) (t : SubscriptionTime) : Prop where
  count_eq : t.count = runs.length
  init_eq : t.init = (runs.map SubscriptionTime.init).sum
  stop_eq : t.stop = (runs.map SubscriptionTime.stop).sum
  scripts_eq : SameScripts runs → (∀ r ∈ runs, scriptNames t = scriptNames r) ∧
    ∀ i, scriptTime i t = (runs.map (scriptTime i)).sum

/-- There is one record for each subscription and event that ran, with the sums of its runs. -/
structure Lawful (runs times : List SubscriptionTime) : Prop where
  nodup : (times.map pair).Nodup
  pair_mem_iff : ∀ p, p ∈ times.map pair ↔ p ∈ runs.map pair
  sums : ∀ t ∈ times, Sums (runsOf runs t.pair) t

/-- What does not get lost. -/
structure Fits (runs : List SubscriptionTime) : Prop where
  countable : ∀ p, (runsOf runs p).length < 2 ^ 32
  still : ∀ p, SameScripts (runsOf runs p) → ∀ i, ((runsOf runs p).tail.map (scriptTime i)).sum = 0

/-! ## One record -/

variable {runs times rest : List SubscriptionTime} {first t : SubscriptionTime}

theorem addScripts_eq_self (scripts newScripts : List ScriptTime) :
    addScripts scripts newScripts = scripts := by
  induction scripts generalizing newScripts with
  | nil => cases newScripts <;> rfl
  | cons accum scripts ih =>
    cases newScripts with
    | nil => rfl
    | cons curScript newScripts =>
      rw [addScripts, ih]
      exact ite_self _

theorem addTiming_eq (elt newTiming : SubscriptionTime) :
    addTiming elt newTiming = { elt with
      init := elt.init + newTiming.init
      stop := elt.stop + newTiming.stop
      count := (elt.count + 1) % 2 ^ 32 } := by
  rw [addTiming, addScripts_eq_self]
  exact ite_self _

def summed (first : SubscriptionTime) (rest : List SubscriptionTime) : SubscriptionTime :=
  { first with
    init := first.init + (rest.map SubscriptionTime.init).sum
    stop := first.stop + (rest.map SubscriptionTime.stop).sum
    count := (rest.length + 1) % 2 ^ 32 }

theorem foldl_extend (first : SubscriptionTime) (rest : List SubscriptionTime) :
    (first :: rest).foldl (Accumulation.extend (fun t => { t with count := 1 }) addTiming) none =
      some (summed first rest) := by
  rw [foldl_cons]
  induction rest using reverseRecOn with
  | nil => simp [Accumulation.extend, summed]
  | append_singleton rest r ih =>
    rw [foldl_append, ih, foldl_cons, Accumulation.extend,
      Option.elim_some, addTiming_eq, summed, summed]
    simp [add_assoc]

/-- **The record of some runs** is their sum if and only if nothing gets lost. -/
theorem sums_summed_iff : Sums (first :: rest) (summed first rest) ↔
    (first :: rest).length < 2 ^ 32 ∧
      (SameScripts (first :: rest) → ∀ i, (rest.map (scriptTime i)).sum = 0) := by
  have hsame (i : ℕ) : scriptTime i (summed first rest) = scriptTime i first := rfl
  constructor
  · intro h
    refine ⟨?_, fun hscripts i => ?_⟩
    · rw [← h.count_eq]
      exact Nat.mod_lt _ (by decide)
    · have htime := (h.scripts_eq hscripts).2 i
      rw [hsame, map_cons, sum_cons] at htime
      omega
  · rintro ⟨hcount, hscripts⟩
    refine ⟨Nat.mod_eq_of_lt hcount, rfl, rfl, fun h => ⟨fun r hr => ?_, fun i => ?_⟩⟩
    · exact h first mem_cons_self r hr
    · rw [hsame, map_cons, sum_cons, hscripts h i, add_zero]

/-! ## All records -/

theorem Reached.accounts (h : Reached runs times) :
    Accumulation.Accounts pair pair (fun t => { t with count := 1 }) addTiming runs times := by
  induction h with
  | start => exact Accumulation.Accounts.nil
  | addRun newTiming _ ih =>
    refine ih.collect (fun t => rfl) (fun elt t => ?_) newTiming
    rw [addTiming_eq]
    rfl
  | upload _ hperm _ ih => exact ih.perm hperm

theorem Reached.mem_iff (h : Reached runs times) :
    t ∈ times ↔ ∃ first rest, runsOf runs t.pair = first :: rest ∧ t = summed first rest := by
  rw [h.accounts.mem_iff]
  show (runsOf runs t.pair).foldl _ none = some t ↔ _
  rcases hruns : runsOf runs t.pair with - | ⟨first, rest⟩
  · refine iff_of_false (fun h => by cases h) ?_
    rintro ⟨first, rest, hcons, -⟩
    cases hcons
  · rw [foldl_extend]
    constructor
    · exact fun heq => ⟨first, rest, rfl, (Option.some.inj heq).symm⟩
    · rintro ⟨first', rest', hcons, rfl⟩
      obtain ⟨rfl, rfl⟩ := cons.inj hcons
      rfl

theorem pair_of_runsOf {p : String × String} (h : runsOf runs p = first :: rest) :
    first.pair = p := by
  have hmem : first ∈ runsOf runs p := h ▸ mem_cons_self
  exact of_decide_eq_true (mem_filter.mp hmem).2

theorem pair_summed {p : String × String} (h : runsOf runs p = first :: rest) :
    (summed first rest).pair = p := by
  show first.pair = p
  exact pair_of_runsOf h

theorem Reached.summed_mem (h : Reached runs times) {p : String × String}
    (hruns : runsOf runs p = first :: rest) : summed first rest ∈ times := by
  refine h.mem_iff.2 ⟨first, rest, ?_, rfl⟩
  rw [pair_summed hruns, hruns]

theorem Reached.pair_mem_iff (h : Reached runs times) (p : String × String) :
    p ∈ times.map pair ↔ p ∈ runs.map pair := by
  rw [mem_map, mem_map]
  constructor
  · rintro ⟨t, ht, rfl⟩
    obtain ⟨first, rest, hruns, -⟩ := h.mem_iff.1 ht
    have hmem : first ∈ runsOf runs t.pair := hruns ▸ mem_cons_self
    exact ⟨first, (mem_filter.mp hmem).1, pair_of_runsOf hruns⟩
  · rintro ⟨r, hr, rfl⟩
    have hmem : r ∈ runsOf runs r.pair := mem_filter.mpr ⟨hr, decide_eq_true rfl⟩
    obtain ⟨first, rest, hruns⟩ := exists_cons_of_ne_nil (ne_nil_of_mem hmem)
    exact ⟨summed first rest, h.summed_mem hruns, pair_summed hruns⟩

/-- **The accumulator** has one record for each subscription and event, and it is the sum of its
runs, if and only if nothing gets lost. -/
theorem Reached.records_lawful_iff (h : Reached runs times) : Lawful runs times ↔ Fits runs := by
  constructor
  · intro hlaw
    have hsums : ∀ p, runsOf runs p = [] ∨ ∃ first rest, runsOf runs p = first :: rest ∧
        Sums (first :: rest) (summed first rest) := by
      intro p
      rcases hruns : runsOf runs p with - | ⟨first, rest⟩
      · exact Or.inl rfl
      · have hsum := hlaw.sums _ (h.summed_mem hruns)
        rw [pair_summed hruns, hruns] at hsum
        exact Or.inr ⟨first, rest, rfl, hsum⟩
    refine ⟨fun p => ?_, fun p => ?_⟩
    · obtain hnil | ⟨first, rest, hruns, hsum⟩ := hsums p
      · rw [hnil]
        exact Nat.two_pow_pos 32
      · rw [hruns]
        exact (sums_summed_iff.1 hsum).1
    · obtain hnil | ⟨first, rest, hruns, hsum⟩ := hsums p
      · rw [hnil]
        exact fun _ _ => rfl
      · rw [hruns]
        exact (sums_summed_iff.1 hsum).2
  · intro hfits
    refine ⟨h.accounts.nodup, h.pair_mem_iff, fun t ht => ?_⟩
    obtain ⟨first, rest, hruns, ht⟩ := h.mem_iff.1 ht
    have hcount := hfits.countable t.pair
    have hstill := hfits.still t.pair
    rw [hruns] at hcount hstill ⊢
    rw [ht]
    exact sums_summed_iff.2 ⟨hcount, hstill⟩

def oneScript (time : ℤ) : SubscriptionTime where
  eventName := "callScene"
  subscriptionName := "javascript"
  init := 1
  stop := 1
  count := 0
  scripts := [⟨"main.js", time⟩]

/-- Two runs, with an upload between them. -/
theorem Reached.records_lawful_iff_twice :
    Lawful [oneScript 5, oneScript 0]
        (BenchmarkAccumulator.addRun (BenchmarkAccumulator.addRun [] (oneScript 5)) (oneScript 0)) ↔
      Fits [oneScript 5, oneScript 0] :=
  Reached.records_lawful_iff (.addRun (oneScript 0)
    (.upload (.addRun (oneScript 5) .start) (.refl _) (pairwise_singleton _ _)))

/-- The time of a script in the second run is lost. -/
theorem records_lawful_fails :
    ¬ ∀ runs : List SubscriptionTime, Lawful runs (runs.foldl addRun []) := by
  intro h
  have hlaw := h [oneScript 5, oneScript 7]
  have hnames : ∀ r ∈ runsOf [oneScript 5, oneScript 7] ("javascript", "callScene"),
      scriptNames r = ["main.js"] :=
    forall_mem_cons.mpr ⟨rfl, forall_mem_singleton.mpr rfl⟩
  have hsame : SameScripts (runsOf [oneScript 5, oneScript 7] ("javascript", "callScene")) :=
    fun r hr s hs => (hnames r hr).trans (hnames s hs).symm
  have htime := ((hlaw.sums _ (mem_singleton_self _)).scripts_eq hsame).2 0
  exact absurd htime (by decide)

end BenchmarkAccumulator

end Dss
