import Dss.Seconds
import Mathlib.Data.NNRat.Floor
import Mathlib.Data.List.Chain

/-!
# The latest values of meters

`getLatest` goes over the meters of a request once, whether each of them gets an entry of its own or
all together get one. The date of the latest value so far is kept along with the sum. Dates are
compared by a difference that is an `int`, so that what is 68 years ahead does not count as later;
and the sum is an `unsigned long` to which a `double` is added.

A `double` is the rational number that it stands for.
-/

namespace Dss.MeteringRequestHandler

open List

/-! ## Meters and what is reported -/

/-- What the machine does with numbers. -/
structure Doubles : Type where
  /-- the nearest `double` -/
  round : NNRat → NNRat
  exact : ∀ n : ℕ, n ≤ 2 ^ 53 → round n = n
  /-- an `unsigned long` made of what it has no room for, which the language does not define -/
  overflow : NNRat → ℕ

/-- `aggregatedValue += value` -/
def Doubles.add (rt : Doubles) (sum : ℕ) (value : NNRat) : ℕ :=
  let total := rt.round (rt.round sum + value)
  if total < 2 ^ 64 then ⌊total⌋₊ else rt.overflow total

/-- What is read of a `DSMeter`. Time stamps are in seconds since 1970. -/
structure MeterValues : Type where
  /-- `getDSID` -/
  dsuid : String
  /-- `getCachedEnergyMeterValue`, in watt seconds -/
  energyMeterValue : NNRat
  /-- `getCachedEnergyMeterTimeStamp` -/
  energyMeterTimeStamp : ℕ
  /-- `getCachedPowerConsumption` -/
  powerConsumption : ℕ
  /-- `getCachedPowerConsumptionTimeStamp` -/
  powerConsumptionTimeStamp : ℕ
  deriving DecidableEq

structure Entry : Type where
  dsid : String
  dsuid : String
  value : NNRat
  /-- `date`, of which `toString` is written -/
  date : ℕ
  deriving DecidableEq

/-- What is reported. -/
inductive Latest : Type where
  | entries : List Entry → Latest
  /-- one entry for all -/
  | aggregated (dsids dsuids : List String) (value date : ℕ) : Latest
  deriving DecidableEq

/-! ## The loop -/

/-- What is asked for. -/
structure LatestQuery : Type where
  isEnergy : Bool
  energyQuotient : ℕ
  aggregateMeterValues : Bool

/-- `value`, a `double` -/
def LatestQuery.value (rt : Doubles) (query : LatestQuery) (meter : MeterValues) : NNRat :=
  if query.isEnergy then rt.round (meter.energyMeterValue / query.energyQuotient)
  else rt.round meter.powerConsumption

def LatestQuery.timeStamp (query : LatestQuery) (meter : MeterValues) : ℕ :=
  if query.isEnergy then meter.energyMeterTimeStamp else meter.powerConsumptionTimeStamp

/-- The variables of the loop. -/
structure Progress : Type where
  lastUpdateAll : ℕ := 0
  /-- `aggregatedValue`, an `unsigned long` -/
  aggregatedValue : ℕ := 0
  dsuids : List String := []
  entries : List Entry := []

/-- The later one of two dates, by `operator>`. -/
def laterDate (lastUpdateAll lastUpdateGlobal : ℕ) : ℕ :=
  if DateTime.difference lastUpdateGlobal lastUpdateAll > 0 then lastUpdateGlobal
  else lastUpdateAll

/-- The loop body. -/
def report (rt : Doubles) (dsidOf : String → String) (query : LatestQuery) (progress : Progress)
    (meter : MeterValues) : Progress :=
  let value := query.value rt meter
  let lastUpdateAll := laterDate progress.lastUpdateAll (query.timeStamp meter)
  if query.aggregateMeterValues then
    { progress with
      lastUpdateAll
      aggregatedValue := rt.add progress.aggregatedValue value
      dsuids := progress.dsuids ++ [meter.dsuid] }
  else
    { progress with
      lastUpdateAll
      entries := progress.entries ++
        [{ dsid := dsidOf meter.dsuid, dsuid := meter.dsuid, value, date := lastUpdateAll }] }

/-- What `getLatest` reports of the meters it has found. -/
def reportLatest (rt : Doubles) (dsidOf : String → String) (query : LatestQuery)
    (meters : List MeterValues) : Latest :=
  let progress := meters.foldl (report rt dsidOf query) {}
  if query.aggregateMeterValues then
    .aggregated (progress.dsuids.map dsidOf) progress.dsuids progress.aggregatedValue
      progress.lastUpdateAll
  else .entries progress.entries

/-! ## The law -/

section law

variable (rt : Doubles) (dsidOf : String → String) (query : LatestQuery)

def ownEntry (meter : MeterValues) : Entry where
  dsid := dsidOf meter.dsuid
  dsuid := meter.dsuid
  value := query.value rt meter
  date := query.timeStamp meter

/-- The sum of the values, without any rounding. -/
def sum (meters : List MeterValues) : NNRat := (meters.map (query.value rt)).sum

def dates (meters : List MeterValues) : List ℕ := meters.map query.timeStamp

/-- Each meter has its own entry, with its value and date; or all have one, with the sum and the
latest date. -/
def Lawful (meters : List MeterValues) : Latest → Prop
  | .entries entries =>
    query.aggregateMeterValues = false ∧ entries = meters.map (ownEntry rt dsidOf query)
  | .aggregated dsids dsuids value date =>
    query.aggregateMeterValues = true ∧ dsids = dsuids.map dsidOf ∧
      dsuids = meters.map MeterValues.dsuid ∧ (value : NNRat) = sum rt query meters ∧
        date = (dates query meters).foldr max 0

/-- A later date, by less than 68 years. -/
def Ahead (date later : ℕ) : Prop := date < later ∧ later < date + 2 ^ 31

/-- One date leads to another along a list of dates, in steps of less than 68 years. -/
inductive Leads : ℕ → List ℕ → ℕ → Prop where
  | stay {date : ℕ} {l : List ℕ} : Leads date l date
  | skip {date other last : ℕ} {l : List ℕ} : Leads date l last → Leads date (other :: l) last
  | step {date later last : ℕ} {l : List ℕ} : Ahead date later → Leads later l last →
      Leads date (later :: l) last

/-- Each value can be added to those before it without a loss. -/
def ExactSums (meters : List MeterValues) : Prop :=
  ∀ pre meter post, meters = pre ++ meter :: post → ∀ n : ℕ, (n : NNRat) = sum rt query pre →
    (rt.add n (query.value rt meter) : NNRat) = n + query.value rt meter

/-- When the report is right: for the sum, each addition is exact and the dates lead to the latest
one; otherwise, no date is earlier than the one before it, or 68 years later, from 1970 on. -/
def Fits (meters : List MeterValues) : Prop :=
  if query.aggregateMeterValues then
    ExactSums rt query meters ∧ Leads 0 (dates query meters) ((dates query meters).foldr max 0)
  else (0 :: dates query meters).IsChain fun date next => date = next ∨ Ahead date next

/-- The sum as the loop has it behind these meters. -/
def runningSum (meters : List MeterValues) : ℕ := (meters.map (query.value rt)).foldl rt.add 0

/-- No addition of the loop is rounded up. -/
def NeverUp (meters : List MeterValues) : Prop :=
  query.aggregateMeterValues = true → ∀ pre meter post, meters = pre ++ meter :: post →
    (runningSum rt query (pre ++ [meter]) : NNRat) ≤
      runningSum rt query pre + query.value rt meter

/-! ## Dates -/

theorem laterDate_of_ahead {date later : ℕ} (h : Ahead date later) :
    laterDate date later = later := by
  obtain ⟨hlt, hnear⟩ := h
  rw [laterDate, if_pos]
  rw [gt_iff_lt, DateTime.lt_difference_iff (by decide)]
  omega

theorem laterDate_of_not_ahead {date later : ℕ} (h : ¬ Ahead date later) :
    laterDate date later = date := by
  rw [laterDate, if_neg]
  rw [gt_iff_lt, DateTime.lt_difference_iff (by decide)]
  intro hlater
  exact h ⟨by omega, by omega⟩

theorem le_laterDate (date later : ℕ) : date ≤ laterDate date later := by
  by_cases h : Ahead date later
  · rw [laterDate_of_ahead h]
    exact h.1.le
  · rw [laterDate_of_not_ahead h]

theorem le_foldl_laterDate (date : ℕ) (l : List ℕ) : date ≤ l.foldl laterDate date := by
  induction l generalizing date with
  | nil => exact le_rfl
  | cons later l ih => exact (le_laterDate date later).trans (ih _)

/-- The loop gets as far as the dates lead. -/
theorem Leads.le_foldl {date date' last : ℕ} {l : List ℕ} (h : Leads date l last)
    (hle : date ≤ date') : last ≤ l.foldl laterDate date' := by
  induction h generalizing date' with
  | stay => exact hle.trans (le_foldl_laterDate _ _)
  | skip _ ih => exact ih (hle.trans (le_laterDate _ _))
  | @step date later last l hahead _ ih =>
    refine ih ?_
    by_cases hlater : Ahead date' later
    · rw [laterDate_of_ahead hlater]
    · rw [laterDate_of_not_ahead hlater]
      by_contra hlt
      exact hlater ⟨by omega, by have hnear := hahead.2; omega⟩

theorem leads_foldl (date : ℕ) (l : List ℕ) : Leads date l (l.foldl laterDate date) := by
  induction l generalizing date with
  | nil => exact .stay
  | cons later l ih =>
    rw [foldl_cons]
    by_cases h : Ahead date later
    · rw [laterDate_of_ahead h]
      exact .step h (ih later)
    · rw [laterDate_of_not_ahead h]
      exact .skip (ih date)

theorem foldl_laterDate_le (date : ℕ) (l : List ℕ) :
    l.foldl laterDate date ≤ max date (l.foldr max 0) := by
  induction l generalizing date with
  | nil => exact le_max_left _ _
  | cons later l ih =>
    rw [foldl_cons, foldr_cons, ← max_assoc]
    refine (ih _).trans (max_le_max_right _ ?_)
    by_cases h : Ahead date later
    · rw [laterDate_of_ahead h]
      exact le_max_right _ _
    · rw [laterDate_of_not_ahead h]
      exact le_max_left _ _

theorem foldl_laterDate_eq_iff (l : List ℕ) :
    l.foldl laterDate 0 = l.foldr max 0 ↔ Leads 0 l (l.foldr max 0) := by
  constructor
  · intro h
    rw [← h]
    exact leads_foldl 0 l
  · intro h
    have hle := foldl_laterDate_le 0 l
    rw [Nat.zero_max] at hle
    exact hle.antisymm (h.le_foldl le_rfl)

/-! ## What the loop does -/

variable {rt dsidOf query}

theorem lastUpdateAll_report (progress : Progress) (meter : MeterValues) :
    (report rt dsidOf query progress meter).lastUpdateAll =
      laterDate progress.lastUpdateAll (query.timeStamp meter) := by
  rw [report]
  split_ifs
  all_goals rfl

def entriesFrom (rt : Doubles) (dsidOf : String → String) (query : LatestQuery) :
    ℕ → List MeterValues → List Entry
  | _, [] => []
  | lastUpdateAll, meter :: meters =>
    { ownEntry rt dsidOf query meter with
      date := laterDate lastUpdateAll (query.timeStamp meter) } ::
      entriesFrom rt dsidOf query (laterDate lastUpdateAll (query.timeStamp meter)) meters

theorem entries_foldl_report (h : query.aggregateMeterValues = false) (progress : Progress)
    (meters : List MeterValues) :
    (meters.foldl (report rt dsidOf query) progress).entries =
      progress.entries ++ entriesFrom rt dsidOf query progress.lastUpdateAll meters := by
  induction meters generalizing progress with
  | nil => exact (append_nil _).symm
  | cons meter meters ih =>
    have hentries : (report rt dsidOf query progress meter).entries = progress.entries ++
        [{ ownEntry rt dsidOf query meter with
          date := (report rt dsidOf query progress meter).lastUpdateAll }] := by
      rw [report, h]
      rfl
    rw [foldl_cons, ih, hentries, lastUpdateAll_report, entriesFrom, append_assoc,
      singleton_append]

theorem laterDate_eq_iff {date later : ℕ} :
    laterDate date later = later ↔ date = later ∨ Ahead date later := by
  by_cases h : Ahead date later
  · exact iff_of_true (laterDate_of_ahead h) (Or.inr h)
  · rw [laterDate_of_not_ahead h]
    exact (or_iff_left h).symm

theorem entriesFrom_eq_iff (lastUpdateAll : ℕ) (meters : List MeterValues) :
    entriesFrom rt dsidOf query lastUpdateAll meters = meters.map (ownEntry rt dsidOf query) ↔
      (lastUpdateAll :: dates query meters).IsChain fun date next =>
        date = next ∨ Ahead date next := by
  induction meters generalizing lastUpdateAll with
  | nil => exact iff_of_true rfl (.singleton _)
  | cons meter meters ih =>
    have hdate : { ownEntry rt dsidOf query meter with
        date := laterDate lastUpdateAll (query.timeStamp meter) } =
          ownEntry rt dsidOf query meter ↔
        laterDate lastUpdateAll (query.timeStamp meter) = query.timeStamp meter := by
      simp only [ownEntry, Entry.mk.injEq, true_and]
    rw [entriesFrom, map_cons, cons.injEq, hdate, dates, map_cons, isChain_cons_cons,
      ← laterDate_eq_iff]
    refine and_congr_right fun heq => ?_
    rw [heq]
    exact ih _

theorem foldl_report_of_aggregate (h : query.aggregateMeterValues = true) (progress : Progress)
    (meters : List MeterValues) :
    (meters.foldl (report rt dsidOf query) progress).dsuids =
        progress.dsuids ++ meters.map MeterValues.dsuid ∧
      (meters.foldl (report rt dsidOf query) progress).aggregatedValue =
        (meters.map (query.value rt)).foldl rt.add progress.aggregatedValue ∧
      (meters.foldl (report rt dsidOf query) progress).lastUpdateAll =
        (dates query meters).foldl laterDate progress.lastUpdateAll := by
  induction meters generalizing progress with
  | nil => exact ⟨(append_nil _).symm, rfl, rfl⟩
  | cons meter meters ih =>
    obtain ⟨hdsuids, hvalue, hdate⟩ := ih (report rt dsidOf query progress meter)
    have hdsuid : (report rt dsidOf query progress meter).dsuids =
        progress.dsuids ++ [meter.dsuid] := by
      rw [report, h]
      rfl
    have hsum : (report rt dsidOf query progress meter).aggregatedValue =
        rt.add progress.aggregatedValue (query.value rt meter) := by
      rw [report, h]
      rfl
    rw [foldl_cons, hdsuids, hvalue, hdate, hdsuid, hsum, lastUpdateAll_report]
    refine ⟨?_, rfl, rfl⟩
    rw [append_assoc, map_cons, singleton_append]

/-! ## Sums -/

theorem sum_concat (pre : List MeterValues) (meter : MeterValues) :
    sum rt query (pre ++ [meter]) = sum rt query pre + query.value rt meter := by
  rw [sum, map_append, sum_append, map_singleton, sum_singleton, sum]

theorem runningSum_concat (pre : List MeterValues) (meter : MeterValues) :
    runningSum rt query (pre ++ [meter]) =
      rt.add (runningSum rt query pre) (query.value rt meter) := by
  rw [runningSum, map_append, foldl_append]
  rfl

/-- Exact additions make the sum. -/
theorem ExactSums.runningSum_eq {meters : List MeterValues} (h : ExactSums rt query meters) :
    (runningSum rt query meters : NNRat) = sum rt query meters := by
  induction meters using reverseRecOn with
  | nil => exact Nat.cast_zero
  | append_singleton pre meter ih =>
    have hpre := ih fun pre' meter' post hsplit => h pre' meter' (post ++ [meter]) (by
      rw [hsplit, append_assoc, cons_append])
    rw [runningSum_concat, h pre meter [] rfl _ hpre, hpre, sum_concat]

theorem NeverUp.of_concat {pre : List MeterValues} {meter : MeterValues}
    (h : NeverUp rt query (pre ++ [meter])) : NeverUp rt query pre :=
  fun hagg pre' meter' post hsplit =>
    h hagg pre' meter' (post ++ [meter]) (by rw [hsplit, append_assoc, cons_append])

theorem runningSum_le {meters : List MeterValues} (hagg : query.aggregateMeterValues = true)
    (hup : NeverUp rt query meters) :
    (runningSum rt query meters : NNRat) ≤ sum rt query meters := by
  induction meters using reverseRecOn with
  | nil => exact Nat.cast_zero.le
  | append_singleton pre meter ih =>
    rw [sum_concat]
    exact (hup hagg pre meter [] rfl).trans (add_le_add (ih hup.of_concat) le_rfl)

/-- Where nothing is rounded up, a loss is not made good again. -/
theorem ExactSums.of_runningSum_eq {meters : List MeterValues}
    (hagg : query.aggregateMeterValues = true) (hup : NeverUp rt query meters)
    (h : (runningSum rt query meters : NNRat) = sum rt query meters) :
    ExactSums rt query meters := by
  induction meters using reverseRecOn with
  | nil => exact fun pre meter post hsplit => by simp at hsplit
  | append_singleton pre meter ih =>
    have hle := hup hagg pre meter [] rfl
    rw [h, sum_concat] at hle
    -- both the sum before and the last addition are exact
    have hpre : (runningSum rt query pre : NNRat) = sum rt query pre :=
      (runningSum_le hagg hup.of_concat).antisymm (le_of_add_le_add_right hle)
    rw [runningSum_concat, sum_concat] at h
    intro pre' meter' post hsplit n hn
    rcases eq_nil_or_concat' post with rfl | ⟨post', last, rfl⟩
    · obtain ⟨rfl, hmeter⟩ := append_inj' hsplit rfl
      obtain rfl := (cons.inj hmeter).1
      obtain rfl : n = runningSum rt query pre := by
        exact_mod_cast hn.trans hpre.symm
      rw [h, hpre]
    · rw [← cons_append, ← append_assoc] at hsplit
      obtain ⟨rfl, -⟩ := append_inj' hsplit rfl
      exact ih hup.of_concat hpre pre' meter' post' rfl n hn

/-- Whole numbers are added exactly as long as the sum is one of those that a `double` has. -/
theorem exactSums_of_whole {meters : List MeterValues}
    (hwhole : ∀ meter ∈ meters, ∃ n : ℕ, query.value rt meter = n)
    (hsum : sum rt query meters ≤ 2 ^ 53) : ExactSums rt query meters := by
  intro pre meter post hsplit n hn
  obtain ⟨k, hk⟩ := hwhole meter (hsplit ▸ mem_append_right pre mem_cons_self)
  have htotal : n + k ≤ 2 ^ 53 := by
    have hle : (n + k : NNRat) ≤ sum rt query meters := by
      have hparts : sum rt query meters =
          sum rt query (pre ++ [meter]) + (post.map (query.value rt)).sum := by
        rw [hsplit, sum, sum, ← sum_append, ← map_append, append_assoc, singleton_append]
      rw [hparts, sum_concat, hn, hk]
      exact le_add_of_nonneg_right zero_le
    exact_mod_cast hle.trans hsum
  have hround : rt.round (rt.round n + query.value rt meter) = ((n + k : ℕ) : NNRat) := by
    rw [rt.exact n (by omega), hk, ← Nat.cast_add, rt.exact _ htotal]
  have hfits : ((n + k : ℕ) : NNRat) < 2 ^ 64 := by
    exact_mod_cast (show n + k < 2 ^ 64 by omega)
  rw [Doubles.add, hround, if_pos hfits, Nat.floor_natCast, hk, Nat.cast_add]

/-! ## The report -/

/-- **What is reported is right** if it fits; and only then, unless a loss is made good again by an
addition that is rounded up. -/
theorem reportLatest_lawful_iff (rt : Doubles) (dsidOf : String → String) (query : LatestQuery)
    (meters : List MeterValues) :
    (Fits rt query meters → Lawful rt dsidOf query meters (reportLatest rt dsidOf query meters)) ∧
      (NeverUp rt query meters →
        (Lawful rt dsidOf query meters (reportLatest rt dsidOf query meters) ↔
          Fits rt query meters)) := by
  rcases h : query.aggregateMeterValues with - | -
  · have hiff : Lawful rt dsidOf query meters (reportLatest rt dsidOf query meters) ↔
        Fits rt query meters := by
      rw [reportLatest, Fits, h]
      simp only [Bool.false_eq_true, if_false]
      rw [entries_foldl_report h, nil_append, Lawful, and_iff_right h, entriesFrom_eq_iff]
    exact ⟨hiff.2, fun _ => hiff⟩
  · have hlaw : Lawful rt dsidOf query meters (reportLatest rt dsidOf query meters) ↔
        (runningSum rt query meters : NNRat) = sum rt query meters ∧
          Leads 0 (dates query meters) ((dates query meters).foldr max 0) := by
      obtain ⟨hdsuids, hvalue, hdate⟩ := @foldl_report_of_aggregate rt dsidOf query h {} meters
      rw [reportLatest, h]
      simp only [if_true]
      rw [hdsuids, hvalue, hdate, nil_append, Lawful, and_iff_right h, and_iff_right rfl,
        and_iff_right rfl, foldl_laterDate_eq_iff]
      rfl
    rw [hlaw, Fits, if_pos h]
    exact ⟨fun hfits => ⟨hfits.1.runningSum_eq, hfits.2⟩, fun hup =>
      ⟨fun hsum => ⟨.of_runningSum_eq h hup hsum.1, hsum.2⟩, fun hfits =>
        ⟨hfits.1.runningSum_eq, hfits.2⟩⟩⟩

def lateFirst : List MeterValues :=
  [{ dsuid := "a", energyMeterValue := 0, energyMeterTimeStamp := 0, powerConsumption := 10,
      powerConsumptionTimeStamp := 2 },
    { dsuid := "b", energyMeterValue := 0, energyMeterTimeStamp := 0, powerConsumption := 20,
      powerConsumptionTimeStamp := 1 }]

/-- Numbers as they are. -/
def exactDoubles : Doubles where
  round := id
  exact _ _ := rfl
  overflow _ := 0

/-- The second meter gets the date of the first one. -/
theorem reportLatest_fails :
    ¬ Lawful exactDoubles id { isEnergy := false, energyQuotient := 3600, aggregateMeterValues := false }
      lateFirst (reportLatest exactDoubles id
        { isEnergy := false, energyQuotient := 3600, aggregateMeterValues := false }
        lateFirst) := by
  rintro ⟨-, h⟩
  have hdates := congrArg (map Entry.date) h
  exact absurd hdates (by decide)

end law

end Dss.MeteringRequestHandler
