import Dss.MeteringWindow
import Mathlib.Algebra.BigOperators.Group.List.Basic
import Mathlib.Data.List.GetD
import Mathlib.Tactic.NormNum

/-!
# The series of a metering query

What `getSeries` makes of the values that `rrd_xport` hands over. A series of counters is counted
back from the counters that the meters have now. The zeros at the beginning are a gap, and stay
zeros. A zero at the end is a value that is not there yet, and is dropped.

A `double` is a rational number here: what rounding does to it is not looked into.
-/

namespace Dss.Metering

open List

/-! ## Values -/

structure Value : Type where
  value : ℚ
  timeStamp : ℤ
  deriving DecidableEq

/-- What a successful `rrd_xport` leaves: the window it has taken, with times in seconds since the
epoch, and a value for each step of it. -/
structure Xport : Type where
  start : ℤ
  /-- `end` -/
  stop : ℤ
  step : ℤ
  data : List ℚ
  start_nonneg : 0 ≤ start
  step_pos : 0 < step
  enough : stop - start ≤ step * data.length

/-- The loop over the time stamps, up to the last one. There is no result if it reads behind the
data. -/
def readData (step last : ℤ) : (timeStamp : ℤ) → (currentData : List ℚ) → Option (List Value)
  | timeStamp, [] => if timeStamp ≤ last then none else some []
  | timeStamp, value :: currentData =>
    if timeStamp ≤ last then
      (readData step last (timeStamp + step) currentData).map (⟨value, timeStamp⟩ :: ·)
    else some []

def Xport.values (x : Xport) : Option (List Value) :=
  readData x.step (x.stop - x.step) (x.start + x.step) x.data

/-! ## Counters -/

/-- `currentCounter`: what the meters have counted, in watt hours or watt seconds. -/
def currentCounter (energyInWh : Bool) (meterValues : List ℚ) : ℚ :=
  let sum := meterValues.foldl (· + ·) 0
  if energyInWh then sum / 3600 else sum

/-- `lastZeroValue`: the last one of the zeros at the beginning. -/
def lastZeroValue (value : Value) : List Value → Value
  | [] => value
  | v :: values => if v.value = 0 then lastZeroValue v values else value

def countBack (lastZero : ℤ) : (counter : ℚ) → List Value → List Value
  | _, [] => []
  | counter, v :: values =>
    if v.timeStamp = lastZero then v :: values
    else { v with value := counter } :: countBack lastZero (counter - v.value) values

def rebuildCounters (counter : ℚ) (values : List Value) : List Value :=
  (countBack (lastZeroValue ⟨0, 0⟩ values).timeStamp counter values.reverse).reverse

/-- `getSeries`, behind the call of `rrd_xport`. -/
def seriesOf (type : SeriesTypes) (energyInWh : Bool) (meterValues : List ℚ) (values : List Value) :
    List Value :=
  let lastValueEmpty := (values.getLast?.map Value.value) = some 0
  let series :=
    if type = .etEnergy then rebuildCounters (currentCounter energyInWh meterValues) values
    else values
  if lastValueEmpty then series.dropLast else series

/-! ## The law -/

/-- The counters `cs` that belong to the energies `ds`, counted back from the last one. -/
structure Rebuilt (counter : ℚ) (ds cs : List ℚ) : Prop where
  /-- only a zero at the end may be missing -/
  length_eq : cs.length = ds.length ∨ cs.length + 1 = ds.length ∧ ds.getLast? = some 0
  leading : ∀ i < cs.length, (∀ j ≤ i, ds.getD j 0 = 0) → cs.getD i 0 = 0
  /-- behind them each energy is a difference -/
  step : ∀ i, i + 1 < cs.length → (∃ j ≤ i, ds.getD j 0 ≠ 0) →
    cs.getD i 0 = cs.getD (i + 1) 0 - ds.getD (i + 1) 0
  last : (∃ d ∈ ds, d ≠ 0) → cs.getLast? = some counter

/-! ## The values that are exported -/

theorem readData_eq_some {step : ℤ} (data : List ℚ) (last timeStamp : ℤ) (hstep : 0 < step)
    (henough : last - timeStamp < step * data.length) :
    ∃ values, readData step last timeStamp data = some values ∧
      (∀ v ∈ values, timeStamp ≤ v.timeStamp) ∧
        values.Pairwise fun v w => v.timeStamp < w.timeStamp := by
  induction data generalizing timeStamp with
  | nil =>
    have hlate : ¬ timeStamp ≤ last := by
      rw [length_nil] at henough
      omega
    exact ⟨[], if_neg hlate, fun v hv => absurd hv not_mem_nil, List.Pairwise.nil⟩
  | cons value data ih =>
    rw [readData]
    by_cases hlate : timeStamp ≤ last
    · have hrest : last - (timeStamp + step) < step * data.length := by
        rw [length_cons, Nat.cast_add, mul_add] at henough
        omega
      obtain ⟨values, hread, hlater, hordered⟩ := ih (timeStamp + step) hrest
      refine ⟨⟨value, timeStamp⟩ :: values, ?_, fun v hv => ?_, ?_⟩
      · rw [if_pos hlate, hread]
        rfl
      · rcases mem_cons.mp hv with rfl | hv
        · exact le_rfl
        · have hv' := hlater v hv
          omega
      · refine pairwise_cons.mpr ⟨fun v hv => ?_, hordered⟩
        have hv' := hlater v hv
        show timeStamp < v.timeStamp
        omega
    · exact ⟨[], if_neg hlate, fun v hv => absurd hv not_mem_nil, List.Pairwise.nil⟩

theorem Xport.values_eq_some (x : Xport) : ∃ values, x.values = some values ∧
    (∀ v ∈ values, v.timeStamp ≠ 0) ∧ values.Pairwise fun v w => v.timeStamp < w.timeStamp := by
  have hstep := x.step_pos
  have hstart := x.start_nonneg
  have henough := x.enough
  obtain ⟨values, hread, hlater, hordered⟩ :=
    readData_eq_some x.data (x.stop - x.step) (x.start + x.step) hstep (by omega)
  refine ⟨values, hread, fun v hv => ?_, hordered⟩
  have hv' := hlater v hv
  omega

/-! ## Counting back -/

section counting

variable {counter : ℚ} {lastZero : ℤ} {values zeros rest : List Value}

def remaining (counter : ℚ) : List ℚ → List ℚ
  | [] => []
  | _ :: ds => (counter - ds.sum) :: remaining counter ds

theorem length_remaining (ds : List ℚ) : (remaining counter ds).length = ds.length := by
  induction ds with
  | nil => rfl
  | cons d ds ih => rw [remaining, length_cons, length_cons, ih]

theorem remaining_step {ds : List ℚ} {i : ℕ} (hi : i + 1 < ds.length) :
    (remaining counter ds).getD i 0 =
      (remaining counter ds).getD (i + 1) 0 - ds.getD (i + 1) 0 := by
  induction ds generalizing i with
  | nil => exact absurd hi (Nat.not_lt_zero _)
  | cons d ds ih =>
    cases i with
    | zero =>
      cases ds with
      | nil => exact absurd hi (lt_irrefl _)
      | cons e ds =>
        show counter - (e :: ds).sum = counter - ds.sum - e
        rw [sum_cons, sub_sub, add_comm]
    | succ i =>
      exact ih (Nat.lt_of_succ_lt_succ hi)

theorem remaining_concat (ds : List ℚ) (d : ℚ) :
    remaining counter (ds ++ [d]) = remaining (counter - d) ds ++ [counter] := by
  induction ds with
  | nil => simp [remaining]
  | cons e ds ih =>
    rw [cons_append, remaining, ih, sum_append, sum_singleton, remaining,
      cons_append, sub_sub, add_comm]

theorem countBack_append (hother : ∀ v ∈ rest, v.timeStamp ≠ lastZero) :
    countBack lastZero counter (rest ++ values) =
      countBack lastZero counter rest ++
        countBack lastZero (counter - (rest.map Value.value).sum) values := by
  induction rest generalizing counter with
  | nil => rw [nil_append, countBack, map_nil, sum_nil, sub_zero, nil_append]
  | cons v rest ih =>
    rw [forall_mem_cons] at hother
    rw [cons_append, countBack, if_neg hother.1, countBack, if_neg hother.1, ih hother.2,
      cons_append, map_cons, sum_cons, sub_sub]

theorem countBack_reverse (hother : ∀ v ∈ rest, v.timeStamp ≠ lastZero) :
    (countBack lastZero counter rest.reverse).reverse.map Value.value =
      remaining counter (rest.map Value.value) := by
  induction rest with
  | nil => rfl
  | cons v rest ih =>
    rw [forall_mem_cons] at hother
    have hsum : (rest.reverse.map Value.value).sum = (rest.map Value.value).sum := by
      rw [map_reverse, sum_reverse]
    rw [reverse_cons, countBack_append fun w hw => hother.2 w (mem_reverse.mp hw),
      reverse_append, map_append, ih hother.2, countBack, if_neg hother.1, hsum]
    rfl

theorem lastZeroValue_append (hzeros : ∀ v ∈ zeros, v.value = 0)
    (hrest : ∀ v ∈ rest.head?, v.value ≠ 0) (value : Value) :
    lastZeroValue value (zeros ++ rest) = zeros.getLastD value := by
  induction zeros generalizing value with
  | nil =>
    cases rest with
    | nil => rfl
    | cons v rest => exact if_neg (hrest v rfl)
  | cons v zeros ih =>
    rw [forall_mem_cons] at hzeros
    rw [cons_append, lastZeroValue, if_pos hzeros.1, ih hzeros.2, getLastD_cons]

variable (counter) in
theorem rebuildCounters_append (hzeros : ∀ v ∈ zeros, v.value = 0)
    (hrest : ∀ v ∈ rest.head?, v.value ≠ 0)
    (hepoch : ∀ v ∈ zeros ++ rest, v.timeStamp ≠ 0)
    (hordered : (zeros ++ rest).Pairwise fun v w => v.timeStamp < w.timeStamp) :
    (rebuildCounters counter (zeros ++ rest)).map Value.value =
      zeros.map Value.value ++ remaining counter (rest.map Value.value) := by
  rw [rebuildCounters, lastZeroValue_append hzeros hrest]
  obtain ⟨-, -, hapart⟩ := List.pairwise_append.mp hordered
  rcases List.eq_nil_or_concat zeros with rfl | ⟨front, z, rfl⟩
  · rw [List.nil_append, List.map_nil, List.nil_append]
    exact countBack_reverse fun v hv => hepoch v hv
  · rw [List.concat_eq_append] at hapart ⊢
    have hother : ∀ v ∈ rest, v.timeStamp ≠ z.timeStamp := fun v hv heq =>
      (hapart z (List.mem_append_right front (List.mem_singleton_self z)) v hv).ne' heq
    rw [List.getLastD_concat, List.reverse_append,
      countBack_append fun v hv => hother v (List.mem_reverse.mp hv), List.reverse_append,
      List.map_append, countBack_reverse hother, List.reverse_append, List.reverse_singleton,
      List.singleton_append, countBack, if_pos rfl, List.reverse_cons, List.reverse_reverse]

end counting

/-! ## Series of counters -/

section series

variable {counter : ℚ} {ds zeros rest : List ℚ}

theorem lt_length_of_leading (hrest : ∀ d ∈ rest.head?, d ≠ 0) {i : ℕ}
    (hi : i < (zeros ++ rest).length) (hleading : ∀ j ≤ i, (zeros ++ rest).getD j 0 = 0) :
    i < zeros.length := by
  by_contra hnot
  have hlen : zeros.length ≤ i := Nat.not_lt.mp hnot
  cases rest with
  | nil =>
    rw [append_nil] at hi
    exact hnot hi
  | cons d rest =>
    have hzero := hleading zeros.length hlen
    rw [getD_append_right _ _ _ _ le_rfl, Nat.sub_self] at hzero
    exact hrest d rfl hzero

theorem length_le_of_energy (hzeros : ∀ d ∈ zeros, d = 0) {i : ℕ}
    (henergy : ∃ j ≤ i, (zeros ++ rest).getD j 0 ≠ 0) : zeros.length ≤ i := by
  obtain ⟨j, hj, hne⟩ := henergy
  by_contra hnot
  have hlt : j < zeros.length := by omega
  rw [getD_append _ _ _ _ hlt, getD_eq_getElem _ _ hlt] at hne
  exact hne (hzeros _ (getElem_mem hlt))

/-- **The gap and the counters behind it,** whole or without a zero at the end. -/
theorem rebuilt_of_prefix {cs : List ℚ} (hzeros : ∀ d ∈ zeros, d = 0)
    (hrest : ∀ d ∈ rest.head?, d ≠ 0)
    (hstart : cs <+: zeros ++ remaining counter rest)
    (hlength : cs.length = (zeros ++ rest).length ∨
      cs.length + 1 = (zeros ++ rest).length ∧ (zeros ++ rest).getLast? = some 0)
    (hlast : (∃ d ∈ zeros ++ rest, d ≠ 0) → cs.getLast? = some counter) :
    Rebuilt counter (zeros ++ rest) cs := by
  have hbound : cs.length ≤ (zeros ++ rest).length := by omega
  have hget : ∀ i < cs.length, cs.getD i 0 = (zeros ++ remaining counter rest).getD i 0 := by
    obtain ⟨more, hmore⟩ := hstart
    intro i hi
    rw [← hmore, getD_append _ _ _ _ hi]
  refine ⟨hlength, fun i hi hleading => ?_, fun i hi henergy => ?_, hlast⟩
  · have hlt := lt_length_of_leading hrest (hi.trans_le hbound) hleading
    rw [hget i hi, getD_append _ _ _ _ hlt, getD_eq_getElem _ _ hlt]
    exact hzeros _ (getElem_mem hlt)
  · have hle := length_le_of_energy hzeros henergy
    rw [length_append] at hbound
    have hle' : zeros.length ≤ i + 1 := by omega
    rw [hget i (Nat.lt_of_succ_lt hi), hget (i + 1) hi, getD_append_right _ _ _ _ hle,
      getD_append_right _ _ _ _ hle', getD_append_right _ _ _ _ hle',
      Nat.sub_add_comm hle]
    exact remaining_step (by omega)

theorem getLast?_gap_remaining (hzeros : ∀ d ∈ zeros, d = 0)
    (henergy : ∃ d ∈ zeros ++ rest, d ≠ 0) :
    (zeros ++ remaining counter rest).getLast? = some counter := by
  obtain ⟨d, hd, hne⟩ := henergy
  rcases eq_nil_or_concat rest with rfl | ⟨front, e, rfl⟩
  · rw [append_nil] at hd
    exact absurd (hzeros d hd) hne
  · rw [concat_eq_append, remaining_concat, ← append_assoc, getLast?_concat]

theorem getLast?_dropLast_gap_remaining (hzeros : ∀ d ∈ zeros, d = 0)
    (hrest : ∀ d ∈ rest.head?, d ≠ 0) (henergy : ∃ d ∈ zeros ++ rest, d ≠ 0)
    (hempty : (zeros ++ rest).getLast? = some 0) :
    (zeros ++ remaining counter rest).dropLast.getLast? = some counter := by
  rcases eq_nil_or_concat rest with rfl | ⟨front, e, rfl⟩
  · obtain ⟨d, hd, hne⟩ := henergy
    rw [append_nil] at hd
    exact absurd (hzeros d hd) hne
  · rw [concat_eq_append] at hrest hempty ⊢
    rw [← append_assoc, getLast?_concat] at hempty
    obtain rfl := Option.some.inj hempty
    rw [remaining_concat, ← append_assoc, dropLast_concat, sub_zero]
    -- the energy is in front of the zero
    cases front with
    | nil => exact absurd rfl (hrest 0 rfl)
    | cons d front =>
      exact getLast?_gap_remaining hzeros
        ⟨d, mem_append_right _ mem_cons_self, hrest d rfl⟩

end series

/-- **A series of energy** is counted back from the counters of the meters. Where there was no
energy at all, there is nothing to count back from: all are zeros. -/
theorem seriesOf_rebuilt (x : Xport) (energyInWh : Bool) (meterValues : List ℚ) :
    ∃ values, x.values = some values ∧
      Rebuilt (currentCounter energyInWh meterValues) (values.map Value.value)
        ((seriesOf .etEnergy energyInWh meterValues values).map Value.value) := by
  obtain ⟨values, hread, hepoch, hordered⟩ := x.values_eq_some
  refine ⟨values, hread, ?_⟩
  set counter := currentCounter energyInWh meterValues
  -- the gap ends in front of the first energy
  let isZero : Value → Bool := fun v => decide (v.value = 0)
  have hsplit : values.takeWhile isZero ++ values.dropWhile isZero = values :=
    takeWhile_append_dropWhile
  have hzeros : ∀ v ∈ values.takeWhile isZero, v.value = 0 := fun v hv =>
    of_decide_eq_true (all_eq_true.mp all_takeWhile v hv)
  have hrest : ∀ v ∈ (values.dropWhile isZero).head?, v.value ≠ 0 := fun v hv =>
    of_decide_eq_false (by simpa [isZero, Option.mem_def.mp hv] using
      List.head?_dropWhile_not isZero values)
  generalize values.takeWhile isZero = zeros at hsplit hzeros
  generalize values.dropWhile isZero = rest at hsplit hrest
  subst hsplit
  have hcounters := rebuildCounters_append counter hzeros hrest hepoch hordered
  have hzeros' : ∀ d ∈ zeros.map Value.value, d = 0 := forall_mem_map.mpr hzeros
  have hrest' : ∀ d ∈ (rest.map Value.value).head?, d ≠ 0 := by
    rw [head?_map]
    intro d hd
    obtain ⟨v, hv, rfl⟩ := Option.map_eq_some_iff.mp hd
    exact hrest v hv
  have hlength : (zeros.map Value.value ++ remaining counter (rest.map Value.value)).length =
      (zeros.map Value.value ++ rest.map Value.value).length := by
    rw [length_append, length_append, length_remaining]
  rw [seriesOf, if_pos rfl, map_append]
  by_cases hempty : (zeros ++ rest).getLast?.map Value.value = some 0
  · rw [if_pos hempty, map_dropLast, hcounters]
    rw [← getLast?_map, map_append] at hempty
    refine rebuilt_of_prefix hzeros' hrest' (List.dropLast_prefix _) (Or.inr ⟨?_, hempty⟩)
      fun henergy => getLast?_dropLast_gap_remaining hzeros' hrest' henergy hempty
    have hpos := length_pos_of_mem (mem_of_getLast? hempty)
    rw [length_dropLast]
    omega
  · rw [if_neg hempty, hcounters]
    exact rebuilt_of_prefix hzeros' hrest' prefix_rfl (Or.inl hlength)
      (getLast?_gap_remaining hzeros')

def idle : Xport where
  start := 1000
  stop := 1003
  step := 1
  data := [0, 0, 0]
  start_nonneg := by decide
  step_pos := by decide
  enough := by decide

/-- Where there was no energy, the last value is not what the meters have counted. -/
theorem seriesOf_fails :
    ¬ ∀ (x : Xport) (energyInWh : Bool) (meterValues : List ℚ), ∃ values,
      x.values = some values ∧
        Rebuilt (currentCounter energyInWh meterValues) (values.map Value.value)
          ((seriesOf .etEnergy energyInWh meterValues values).map Value.value) ∧
        (seriesOf .etEnergy energyInWh meterValues values ≠ [] →
          ((seriesOf .etEnergy energyInWh meterValues values).map Value.value).getLast? =
            some (currentCounter energyInWh meterValues)) := by
  intro h
  obtain ⟨values, hvalues, -, hlast⟩ := h idle false [5]
  have hidle : idle.values = some [⟨0, 1001⟩, ⟨0, 1002⟩] := by decide
  obtain rfl : [⟨0, 1001⟩, ⟨0, 1002⟩] = values := Option.some.inj (hidle.symm.trans hvalues)
  have hseries : seriesOf .etEnergy false [5] [⟨0, 1001⟩, ⟨0, 1002⟩] = [⟨0, 1001⟩] := by decide
  rw [hseries] at hlast
  have hzero : (0 : ℚ) = 5 := by
    simpa [currentCounter] using hlast (cons_ne_nil _ _)
  norm_num at hzero

end Dss.Metering
