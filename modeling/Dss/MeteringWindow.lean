import Dss.SystemTrigger
import Mathlib.Tactic.Ring

/-!
# The window of a metering query

`getValues` of the web interface hands what it reads of a request to `getSeries`, which asks the
database for the values between a start and an end, both multiples of a step. Where a time is not
given, and no number of values, the window reaches over what is stored. If both times are given,
the number of values is not looked at.

The times are computed as `time_t`, of 64 bits, with a step that is unsigned and as long.
-/

namespace Dss

/-! ## Resolutions -/

structure MeteringConfig : Type where
  resolution : ℤ
  numberOfValues : ℤ
  deriving DecidableEq

namespace Metering

def configChain : List MeteringConfig :=
  [⟨1, 600⟩, ⟨60, 720⟩, ⟨15 * 60, 2976⟩, ⟨24 * 60 * 60, 370⟩, ⟨7 * 24 * 60 * 60, 260⟩,
    ⟨30 * 24 * 60 * 60, 60⟩]

def numberOfValues (resolution : ℤ) : ℤ :=
  configChain.foldl
    (fun n config => if config.resolution ≤ resolution then config.numberOfValues else n) 0

/-! ## Queries -/

inductive SeriesTypes : Type where
  | etConsumption | etEnergyDelta | etEnergy
  deriving DecidableEq

/-- What is asked for. A time is in seconds, and 0 is `NullDate`: no time. -/
structure Query : Type where
  resolution : ℤ
  startTime : ℤ := 0
  endTime : ℤ := 0
  valueCount : ℤ := 0
  deriving DecidableEq

/-- What becomes of a query. -/
inductive Outcome : Type where
  | noMeters : Outcome
  | divisionByZero : Outcome
  /-- `rrd_xport` is called with a start, an end and a step -/
  | xport (start stop step : ℤ) : Outcome
  deriving DecidableEq

/-- What a number is as an `unsigned long`. -/
def toUnsigned (x : ℤ) : ℤ := x % 2 ^ 64

/-- What a number is as a `time_t`. -/
def toTime (x : ℤ) : ℤ := x.bmod (2 ^ 64)

/-- `(time / step) * step` -/
def roundDown (step time : ℤ) : ℤ := toTime (toUnsigned time / step * step)

def span (now step numberOfValues valueCount startTime endTime : ℤ) : ℤ × ℤ :=
  let stop := roundDown step now
  let start := toTime (stop - step * numberOfValues)
  if startTime = 0 ∧ endTime = 0 ∧ valueCount = 0 then (start, stop)
  else if startTime = 0 ∧ endTime = 0 ∧ valueCount ≠ 0 then
    (toTime (stop - step * valueCount), stop)
  else if startTime = 0 ∧ endTime ≠ 0 ∧ valueCount = 0 then (start, roundDown step endTime)
  else if startTime = 0 ∧ endTime ≠ 0 ∧ valueCount ≠ 0 then
    (toTime (roundDown step endTime - step * valueCount), roundDown step endTime)
  else if startTime ≠ 0 ∧ endTime = 0 ∧ valueCount = 0 then (roundDown step startTime, stop)
  else if startTime ≠ 0 ∧ endTime = 0 ∧ valueCount ≠ 0 then
    (roundDown step startTime, toTime (roundDown step startTime + step * valueCount))
  else (roundDown step startTime, roundDown step endTime)

/-- `getSeries`, up to the call of `rrd_xport`. Without meters, all are taken. -/
def getSeries {M : Type} (dsMeters : List M) (now : ℤ) (meters : List M) (query : Query) :
    Outcome :=
  let meters := if meters.isEmpty then dsMeters else meters
  let numberOfValues := numberOfValues query.resolution
  if meters.isEmpty then .noMeters
  else
    let step := toUnsigned query.resolution
    if step = 0 then .divisionByZero
    else
      let valueCount := min query.valueCount numberOfValues
      let (start, stop) := span now step numberOfValues valueCount query.startTime query.endTime
      .xport start (toTime (stop + step)) step

end Metering

/-! ## Requests -/

namespace MeteringRequestHandler

open Metering

structure ValuesRequest : Type where
  dsid : String := ""
  dsuid : String := ""
  resolution : String := ""
  type : String := ""
  unit : String := ""
  startTime : String := ""
  endTime : String := ""
  valueCount : String := ""

def meterSet (text : String) : String :=
  if ".meters(".toList.isPrefixOf text.toList then text else ".meters(" ++ text ++ ")"

def readTime (text : String) : ℤ :=
  if text = "" then 0
  else if strToIntDef text (-1) > -1 then strToIntDef text (-1) else 0

def readCount (text : String) : ℤ := if text = "" then 0 else strToIntDef text 0

def readType (typeString unitString : String) : Except String (SeriesTypes × Bool) := do
  if typeString = "" then .error "Need a type, 'energy', 'energyDelta' or 'consumption'"
  else if typeString = "consumption" then .ok (.etConsumption, false)
  else
    let energy ←
      if typeString = "energyDelta" then .ok SeriesTypes.etEnergyDelta
      else if typeString = "energy" then .ok SeriesTypes.etEnergy
      else .error ("Invalid type '" ++ typeString ++ "'")
    if unitString = "" then .ok (energy, true)
    else if unitString = "Ws" then .ok (energy, false)
    else if unitString = "Wh" then .ok (energy, true)
    else .error ("Invalid unit '" ++ unitString ++ "'")

/-- `getValues`, up to the call of `getSeries`: the meters, the type and the query, or the text of
the failure. -/
def getValues {M : Type} (buildSet : String → Except String (List M)) (request : ValuesRequest) :
    Except String (List M × SeriesTypes × Bool × Query) :=
  let dsuid := if request.dsuid = "" then request.dsid else request.dsuid
  if dsuid = "" then .error "Missing parameter 'dsuid'"
  else
    match buildSet (meterSet dsuid) with
    | .error e => .error ("Couldn't parse parameter 'dsid': '" ++ e ++ "'")
    | .ok meters =>
      let resolution := strToIntDef request.resolution (-1)
      if resolution = -1 then
        .error ("Could not parse resolution '" ++ request.resolution ++ "'")
      else
        let query : Query := {
          resolution := resolution
          startTime := readTime request.startTime
          endTime := readTime request.endTime
          valueCount := readCount request.valueCount }
        (readType request.type request.unit).map fun (energy, energyWh) =>
          (meters, energy, energyWh, query)

end MeteringRequestHandler

namespace Metering

variable {now step time : ℤ} {query : Query} {M : Type}

/-! ## The law -/

/-- What the handler may pass on: numbers that are an `int`, and times that are not in the future.
-/
structure Query.Accepted (query : Query) (now : ℤ) : Prop where
  parsed : query.resolution ≠ -1
  /-- an `int` -/
  resolution_fits : -2 ^ 31 ≤ query.resolution ∧ query.resolution < 2 ^ 31
  /-- an `int` -/
  count_fits : -2 ^ 31 ≤ query.valueCount ∧ query.valueCount < 2 ^ 31
  /-- not before 1970 and not in the future -/
  start_past : 0 ≤ query.startTime ∧ query.startTime ≤ now
  /-- not before 1970 and not in the future -/
  end_past : 0 ≤ query.endTime ∧ query.endTime ≤ now
  ordered : query.startTime ≠ 0 → query.endTime ≠ 0 → query.startTime ≤ query.endTime
  clock : now < 2 ^ 62

/-- No time is given. -/
def Query.Timeless (query : Query) : Prop := query.startTime = 0 ∧ query.endTime = 0

/-- Both times are given. -/
def Query.Bounded (query : Query) : Prop := query.startTime ≠ 0 ∧ query.endTime ≠ 0

/-- The window should not be longer than what is stored. -/
def Query.Limited (query : Query) : Prop :=
  query.Timeless ∨ 0 < query.valueCount ∧ ¬ query.Bounded

/-- The window is made of whole steps: in their order, where it should be, and not longer than what
is stored, where it should not be. -/
def Lawful (query : Query) (ordered limited : Prop) : Outcome → Prop
  | .noMeters => True
  | .divisionByZero => False
  | .xport start stop step => step ∣ start ∧ step ∣ stop ∧ (ordered → start ≤ stop) ∧
      (limited → stop - start ≤ (numberOfValues query.resolution + 1) * step)

/-- What does not turn the window round. -/
structure Query.Ordered (query : Query) (now : ℤ) : Prop where
  /-- the number of values is not negative, or does not matter -/
  count : query.Bounded ∨ -1 ≤ query.valueCount
  stored : query.startTime = 0 → query.endTime ≠ 0 → query.valueCount = 0 →
    now / query.resolution ≤
      query.endTime / query.resolution + numberOfValues query.resolution + 1

/-! ## Arithmetic -/

theorem toTime_eq {x : ℤ} (hlow : -2 ^ 63 ≤ x) (hhigh : x < 2 ^ 63) : toTime x = x := by
  rw [toTime, Int.bmod_eq_of_le_mul_two (by omega) (by omega)]

theorem mul_div_bounds (hstep : 0 < step) (htime : 0 ≤ time) (hclock : time < 2 ^ 62) :
    0 ≤ step * (time / step) ∧ step * (time / step) < 2 ^ 62 :=
  ⟨mul_nonneg hstep.le (Int.ediv_nonneg htime hstep.le),
    (Int.mul_ediv_self_le hstep.ne').trans_lt hclock⟩

theorem roundDown_eq (hstep : 0 < step) (htime : 0 ≤ time) (hclock : time < 2 ^ 62) :
    roundDown step time = step * (time / step) := by
  have hbounds := mul_div_bounds hstep htime hclock
  rw [roundDown, toUnsigned, Int.emod_eq_of_lt htime (by omega), mul_comm, toTime_eq]
  · omega
  · omega

theorem numberOfValues_bounds {resolution : ℤ} (h : 0 < resolution) :
    0 < numberOfValues resolution ∧ numberOfValues resolution ≤ 2976 := by
  simp only [numberOfValues, configChain, List.foldl_cons, List.foldl_nil]
  all_goals omega

theorem mul_bounds {count : ℤ} (hstep : 0 < step) (hfits : step < 2 ^ 31) (hlow : -2 ^ 31 ≤ count)
    (hhigh : count ≤ 2976) : -2 ^ 62 ≤ step * count ∧ step * count ≤ 2 ^ 43 := by
  constructor
  · calc (-2 ^ 62 : ℤ) ≤ step * -2 ^ 31 := by omega
      _ ≤ step * count := mul_le_mul_of_nonneg_left hlow hstep.le
  · calc step * count ≤ step * 2976 := mul_le_mul_of_nonneg_left hhigh hstep.le
      _ ≤ 2 ^ 43 := by omega

section counts

variable {count : ℤ} (hstep : 0 < step) (hfits : step < 2 ^ 31) (htime : 0 ≤ time)
  (hclock : time < 2 ^ 62) (hlow : -2 ^ 31 ≤ count) (hhigh : count ≤ 2976)

include hstep hfits htime hclock hlow hhigh

theorem toTime_sub_eq :
    toTime (step * (time / step) - step * count) = step * (time / step - count) := by
  have hbounds := mul_div_bounds hstep htime hclock
  have hcount := mul_bounds hstep hfits hlow hhigh
  rw [mul_sub, toTime_eq]
  · omega
  · omega

theorem toTime_add_eq :
    toTime (step * (time / step) + step * count) = step * (time / step + count) := by
  have hbounds := mul_div_bounds hstep htime hclock
  have hcount := mul_bounds hstep hfits hlow hhigh
  rw [mul_add, toTime_eq]
  · omega
  · omega

end counts

theorem lawful_xport {ordered limited : Prop} {first last : ℤ}
    (hresolution : 0 < query.resolution) (hordered : ordered → first ≤ last + 1)
    (hlimited : limited → last ≤ first + numberOfValues query.resolution) :
    Lawful query ordered limited (.xport (query.resolution * first)
      (query.resolution * last + query.resolution) query.resolution) := by
  have hlast : query.resolution * last + query.resolution = query.resolution * (last + 1) := by
    ring
  rw [hlast]
  refine ⟨dvd_mul_right _ _, dvd_mul_right _ _, fun h => ?_, fun h => ?_⟩
  · exact mul_le_mul_of_nonneg_left (hordered h) hresolution.le
  · have hlong := hlimited h
    rw [← mul_sub, mul_comm]
    exact mul_le_mul_of_nonneg_right (by omega) hresolution.le

/-! ## The window -/

def InSteps (query : Query) (now : ℤ) (window : ℤ × ℤ) : Prop :=
  ∃ first last, window = (query.resolution * first, query.resolution * last) ∧
    (query.Ordered now → first ≤ last + 1) ∧
      (query.Limited → last ≤ first + numberOfValues query.resolution) ∧
        -2 ^ 62 ≤ query.resolution * last ∧ query.resolution * last < 2 ^ 62 + 2 ^ 43

theorem span_inSteps (haccepted : query.Accepted now) (hpos : 0 < query.resolution) :
    InSteps query now (span now query.resolution (numberOfValues query.resolution)
      (min query.valueCount (numberOfValues query.resolution)) query.startTime query.endTime) := by
  have hfits := haccepted.resolution_fits.2
  have hcount := haccepted.count_fits.1
  have hclock := haccepted.clock
  obtain ⟨hstart, hstartNow⟩ := haccepted.start_past
  obtain ⟨hend, hendNow⟩ := haccepted.end_past
  obtain ⟨hnumber, hnumberLe⟩ := numberOfValues_bounds hpos
  have hnow := hstart.trans hstartNow
  have hstartClock := hstartNow.trans_lt hclock
  have hendClock := hendNow.trans_lt hclock
  have hstartDiv := Int.ediv_le_ediv hpos hstartNow
  have hendDiv := Int.ediv_le_ediv hpos hendNow
  have hnowBounds := mul_div_bounds hpos hnow hclock
  have hendBounds := mul_div_bounds hpos hend hendClock
  -- all times are rounded down to steps
  rw [span, roundDown_eq hpos hnow hclock, roundDown_eq hpos hstart hstartClock,
    roundDown_eq hpos hend hendClock,
    toTime_sub_eq hpos hfits hnow hclock (by omega) hnumberLe,
    toTime_sub_eq hpos hfits hnow hclock (by omega) (by omega),
    toTime_sub_eq hpos hfits hend hendClock (by omega) (by omega),
    toTime_add_eq hpos hfits hstart hstartClock (by omega) (by omega)]
  by_cases hs : query.startTime = 0
  · by_cases he : query.endTime = 0
    · by_cases hc : min query.valueCount (numberOfValues query.resolution) = 0
      · rw [if_pos ⟨hs, he, hc⟩]
        exact ⟨_, _, rfl, fun _ => by omega, fun _ => by omega, by omega, by omega⟩
      · rw [if_neg fun h => hc h.2.2, if_pos ⟨hs, he, hc⟩]
        refine ⟨_, _, rfl, fun h => ?_, fun _ => by omega, by omega, by omega⟩
        have hvalues := h.count.resolve_left fun hboth => hboth.1 hs
        omega
    · rw [if_neg fun h => he h.2.1, if_neg fun h => he h.2.1]
      by_cases hc : min query.valueCount (numberOfValues query.resolution) = 0
      · rw [if_pos ⟨hs, he, hc⟩]
        refine ⟨_, _, rfl, fun h => ?_, fun h => ?_, by omega, by omega⟩
        · have hstored := h.stored hs he (by omega)
          omega
        · omega
      · rw [if_neg fun h => hc h.2.2, if_pos ⟨hs, he, hc⟩]
        refine ⟨_, _, rfl, fun h => ?_, fun _ => by omega, by omega, by omega⟩
        have hvalues := h.count.resolve_left fun hboth => hboth.1 hs
        omega
  · rw [if_neg fun h => hs h.1, if_neg fun h => hs h.1, if_neg fun h => hs h.1,
      if_neg fun h => hs h.1]
    by_cases he : query.endTime = 0
    · by_cases hc : min query.valueCount (numberOfValues query.resolution) = 0
      · rw [if_pos ⟨hs, he, hc⟩]
        refine ⟨_, _, rfl, fun _ => by omega, fun h => ?_, by omega, by omega⟩
        have hvalues := h.resolve_left fun hnone => hs hnone.1
        omega
      · have hcounted := mul_bounds hpos hfits
          (by omega : -2 ^ 31 ≤ min query.valueCount (numberOfValues query.resolution)) (by omega)
        have hstartBounds := mul_div_bounds hpos hstart hstartClock
        rw [if_neg fun h => hc h.2.2, if_pos ⟨hs, he, hc⟩]
        refine ⟨_, _, rfl, fun h => ?_, fun _ => by omega, ?_, ?_⟩
        · have hvalues := h.count.resolve_left fun hboth => hboth.2 he
          omega
        · rw [mul_add]
          omega
        · rw [mul_add]
          omega
    · rw [if_neg fun h => he h.2.1, if_neg fun h => he h.2.1]
      have hordered := Int.ediv_le_ediv hpos (haccepted.ordered hs he)
      refine ⟨_, _, rfl, fun _ => by omega, fun h => ?_, by omega, by omega⟩
      exact absurd ⟨hs, he⟩ (h.resolve_left fun hnone => hs hnone.1).2

/-- **The window of a query** with a positive resolution is made of whole steps, in their order if
nothing turns it round. It is not longer than what is stored, and one step, where no time is given,
or a number of values and not both times. -/
theorem getSeries_lawful (haccepted : query.Accepted now) (hpos : 0 < query.resolution)
    (dsMeters meters : List M) :
    Lawful query (query.Ordered now) query.Limited (getSeries dsMeters now meters query) := by
  have hfits := haccepted.resolution_fits.2
  have hstep : toUnsigned query.resolution = query.resolution :=
    Int.emod_eq_of_lt hpos.le (hfits.trans (by omega))
  obtain ⟨first, last, hspan, hordered, hlimited, hlow, hhigh⟩ := span_inSteps haccepted hpos
  simp only [getSeries, hstep, if_neg hpos.ne', hspan]
  generalize (if meters.isEmpty = true then dsMeters else meters) = asked
  split_ifs with hempty
  · exact trivial
  · rw [toTime_eq (by omega) (by omega)]
    exact lawful_xport hpos hordered hlimited

def quarters : Query := { resolution := 900, valueCount := 48 }

theorem getSeries_lawful_quarters :
    Lawful quarters (quarters.Ordered 1000000) quarters.Limited
      (getSeries [()] 1000000 [] quarters) :=
  getSeries_lawful ⟨by decide, by decide, by decide, by decide, by decide, by decide, by decide⟩
    (by decide) [()] []

def bothTimes : Query := { resolution := 1, startTime := 1000, endTime := 9000, valueCount := 10 }

/-- The window may be longer than what is stored. -/
theorem getSeries_fails :
    ¬ ∀ (query : Query) (now : ℤ), query.Accepted now →
      Lawful query True (query.Timeless ∨ 0 < query.valueCount)
        (getSeries [()] now [] query) := by
  intro h
  have hlaw := h bothTimes 10000
    ⟨by decide, by decide, by decide, by decide, by decide, by decide, by decide⟩
  have hlong := hlaw.2.2.2 (Or.inr (by decide))
  exact absurd hlong (by decide)

end Metering

namespace MeteringRequestHandler

open Metering

theorem strToIntDef_fits {text : String} {default : ℤ} (hlow : -2 ^ 31 ≤ default)
    (hhigh : default < 2 ^ 31) :
    -2 ^ 31 ≤ strToIntDef text default ∧ strToIntDef text default < 2 ^ 31 := by
  rw [strToIntDef]
  rcases h : parseInt? text with - | i
  · exact ⟨hlow, hhigh⟩
  · simp only [parseInt?] at h
    split_ifs at h with hempty hrest
    rw [← Option.some.inj h]
    exact ⟨Int.le_bmod (by decide), Int.bmod_lt (by decide)⟩

theorem readCount_fits {text : String} :
    -2 ^ 31 ≤ readCount text ∧ readCount text < 2 ^ 31 := by
  rw [readCount]
  split_ifs
  · decide
  · exact strToIntDef_fits (by decide) (by decide)

theorem readTime_nonneg {text : String} : 0 ≤ readTime text := by
  rw [readTime]
  split_ifs with hempty hlate
  · exact le_rfl
  · omega
  · exact le_rfl

/-- **A request** that is not refused is an accepted query, if its times are in their order and
not in the future. -/
theorem getValues_accepted {M : Type} {buildSet : String → Except String (List M)}
    {request : ValuesRequest} {meters : List M} {energy : SeriesTypes} {energyWh : Bool}
    {query : Query} {now : ℤ}
    (h : getValues buildSet request = .ok (meters, energy, energyWh, query))
    (hstart : query.startTime ≤ now) (hend : query.endTime ≤ now)
    (hordered : query.startTime ≠ 0 → query.endTime ≠ 0 → query.startTime ≤ query.endTime)
    (hclock : now < 2 ^ 62) : query.Accepted now := by
  simp only [getValues] at h
  generalize (if request.dsuid = "" then request.dsid else request.dsuid) = dsuid at h
  split at h
  · cases h
  split at h
  · cases h
  split at h
  · cases h
  rename_i hresolution
  rcases htype : readType request.type request.unit with e | type
  · rw [htype] at h
    cases h
  · rw [htype] at h
    cases h
    exact ⟨hresolution, strToIntDef_fits (by decide) (by decide), readCount_fits,
      ⟨readTime_nonneg, hstart⟩, ⟨readTime_nonneg, hend⟩, hordered, hclock⟩

end MeteringRequestHandler

end Dss
