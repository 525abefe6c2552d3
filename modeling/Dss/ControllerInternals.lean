import Mathlib.Data.Rat.Floor
import Dss.JsonCalls

/-!
# Controller internals of the meters

`getTemperatureControlInternals` ends the object of a meter at the end of its turn. But unless the
zone is controlled by a PID controller of the meter itself the turn ends before, and the object of
the next meter is written into the one that is still open.
-/

namespace Dss

open List

namespace Heating

open Json

/-! ## The code -/

/-- `HeatingControlMode::PID` -/
def modePID : ℤ := 1

def round (q : ℚ) : ℤ := if 0 ≤ q then ⌊q + 1 / 2⌋ else ⌈q - 1 / 2⌉

def roundDigits (input : ℚ) (digits : ℕ) : ℚ := round (input * 10 ^ digits) / 10 ^ digits

inductive SensorType : Type where
  | roomTemperatureSetpoint : SensorType
  | roomTemperatureControlVariable : SensorType
  deriving DecidableEq

def SensorType.sensorValueToDouble (s : SensorType) (value : ℤ) : ℚ :=
  match s with
  | roomTemperatureSetpoint => roundDigits (value * 0.1 / 4 - 273.15 + 230) 3
  | roomTemperatureControlVariable => value - 100

/-- `ZoneHeatingInternalsSpec_t` -/
structure Internals : Type where
  Trecent : ℤ
  Treference : ℤ
  TError : ℤ
  TErrorPrev : ℤ
  Integral : ℤ
  Yp : ℤ
  Yi : ℤ
  Yd : ℤ
  Y : ℤ
  AntiWindUp : ℤ

/-- A zone, as far as the request looks at it. -/
structure ControlledZone : Type where
  id : ℤ
  /-- `m_mode` -/
  mode : ℤ
  /-- `m_HeatingControlState` -/
  state : ℤ

structure Meter (D : Type) : Type where
  dsid : D
  /-- `getCapability_HasTemperatureControl` -/
  hasTemperatureControl : Bool

structure InternalsRuntime (D : Type) : Type where
  dsuid2str : D → String
  /-- how the writer writes a `double` -/
  double : ℚ → String
  /-- `getZoneHeatingInternals`; nothing, if it throws -/
  getZoneHeatingInternals : D → ℤ → Option Internals

/-- `HeatingControlStateIDInternal` -/
def stateInternal : ℤ := 0

section Code

variable {D : Type} (rt : InternalsRuntime D) (zone : ControlledZone)

def stateMembers : List (String × Value) :=
  [("ControlMode", .integer zone.mode), ("ControlState", .integer zone.state)]

/-- What is added of the internals. The indoor temperature is of the type of a set point here. -/
def Internals.members (x : Internals) : List (String × Value) :=
  let real (name : String) (q : ℚ) : String × Value := (name, .double (rt.double q))
  [real "CtrlTRecent" (SensorType.roomTemperatureSetpoint.sensorValueToDouble x.Trecent),
    real "CtrlTReference" (SensorType.roomTemperatureSetpoint.sensorValueToDouble x.Treference),
    real "CtrlTError" (x.TError * 0.025), real "CtrlTErrorPrev" (x.TErrorPrev * 0.025),
    real "CtrlIntegral" (x.Integral * 0.025), real "CtrlYp" (x.Yp * 0.01),
    real "CtrlYi" (x.Yi * 0.01), real "CtrlYd" (x.Yd * 0.01),
    real "CtrlY" (SensorType.roomTemperatureControlVariable.sensorValueToDouble x.Y),
    ("CtrlAntiWindUp", .integer x.AntiWindUp)]

def busMembers (m : Meter D) : List (String × Value) :=
  match rt.getZoneHeatingInternals m.dsid zone.id with
  | some x => x.members rt
  | none => []

def meterCalls (m : Meter D) : List Call :=
  if m.hasTemperatureControl then
    .string (rt.dsuid2str m.dsid) :: .startObject :: (membersCalls (stateMembers zone) ++
      if zone.mode ≠ modePID then []
      else if zone.state ≠ stateInternal then []
      else membersCalls (busMembers rt zone m) ++ [.endObject])
  else []

/-- The constructor of `JSONWriter`. -/
def openCalls : List Call := [.startObject, .string "result", .startObject]

/-- `successJSON` -/
def successCalls : List Call := [.endObject, .string "ok", .boolean true, .endObject]

/-- `JSONWriter::failure` -/
def failureValue (message : String) : Value :=
  .object [("ok", .boolean false), ("message", .string message)]

def getTemperatureControlInternals (meters : List (Meter D)) : List Call :=
  if zone.id = 0 then (failureValue "Zone id 0 is invalid").calls
  else openCalls ++ (meters.flatMap (meterCalls rt zone) ++ successCalls)

/-! ## The law -/

def meterObject (m : Meter D) : String × Value :=
  (rt.dsuid2str m.dsid, .object (stateMembers zone ++
    if zone.mode = modePID ∧ zone.state = stateInternal then busMembers rt zone m else []))

def resultMembers : Value → List (String × Value)
  | .object members =>
    match members.lookup "result" with
    | some (.object result) => result
    | _ => []
  | _ => []

def controlled (meters : List (Meter D)) : List (Meter D) :=
  meters.filter (·.hasTemperatureControl)

/-- The answer is well-formed, and has one object for each meter with temperature control. -/
def InternalsLawful (meters : List (Meter D)) : Prop :=
  ∃ v, run start (getTemperatureControlInternals rt zone meters) = some (.complete v) ∧
    resultMembers v = (controlled meters).map (meterObject rt zone)

/-- There is no such meter, or the zone has a PID controller in the meter. -/
def InternalsFit (meters : List (Meter D)) : Prop :=
  controlled meters = [] ∨ zone.id ≠ 0 ∧ zone.mode = modePID ∧ zone.state = stateInternal

end Code

variable {D : Type} {rt : InternalsRuntime D} {zone : ControlledZone} {meters : List (Meter D)}

theorem controlled_cons_of_pos {m : Meter D} (hm : m.hasTemperatureControl = true) :
    controlled (m :: meters) = m :: controlled meters :=
  filter_cons_of_pos hm

theorem controlled_cons_of_neg {m : Meter D} (hm : m.hasTemperatureControl = false) :
    controlled (m :: meters) = controlled meters :=
  filter_cons_of_neg (by simp [hm])

/-! ## Objects that are ended -/

theorem flatMap_meterCalls (h : controlled meters = [] ∨
    zone.mode = modePID ∧ zone.state = stateInternal) :
    meters.flatMap (meterCalls rt zone) =
      membersCalls ((controlled meters).map (meterObject rt zone)) := by
  induction meters with
  | nil => rfl
  | cons m meters ih =>
    rw [flatMap_cons, meterCalls]
    cases hm : m.hasTemperatureControl with
    | false =>
      rw [controlled_cons_of_neg hm] at h ⊢
      rw [if_neg Bool.false_ne_true, ih h, nil_append]
    | true =>
      rw [controlled_cons_of_pos hm] at h ⊢
      obtain ⟨hmode, hstate⟩ := h.resolve_left (cons_ne_nil _ _)
      rw [if_pos rfl, if_neg (not_not.mpr hmode), if_neg (not_not.mpr hstate),
        ih (Or.inr ⟨hmode, hstate⟩), map_cons, meterObject, if_pos ⟨hmode, hstate⟩]
      rfl

theorem run_success (members : List (String × Value)) :
    run start (openCalls ++ (membersCalls members ++ successCalls)) =
      some (.complete (.object [("result", .object members), ("ok", .boolean true)])) := by
  have hopen : run start openCalls = some (.within [.object [], .member [] "result"]) := rfl
  rw [run_append_of_some hopen, run_append_of_some (run_membersCalls [] members)]
  rfl

/-! ## Objects that stay open -/

/-- Objects are open, one in the other, so many around the innermost one. -/
def Nested (k : ℕ) (d : Document) : Prop :=
  ∃ (members : List (String × Value)) (outer : List (List (String × Value) × String)),
    outer.length = k ∧
      d = .within (.object members :: outer.map fun o => .member o.1 o.2)

theorem nested_meterCalls (hopen : ¬ (zone.mode = modePID ∧ zone.state = stateInternal)) {k : ℕ}
    {d : Document} (h : Nested k d) :
    ∃ d', run d (meters.flatMap (meterCalls rt zone)) = some d' ∧
      Nested (k + (controlled meters).length) d' := by
  induction meters generalizing k d with
  | nil => exact ⟨d, rfl, h⟩
  | cons m meters ih =>
    rw [flatMap_cons, meterCalls]
    cases hm : m.hasTemperatureControl with
    | false =>
      rw [controlled_cons_of_neg hm]
      exact ih h
    | true =>
      have hturn : (if zone.mode ≠ modePID then ([] : List Call)
          else if zone.state ≠ stateInternal then []
          else membersCalls (busMembers rt zone m) ++ [.endObject]) = [] := by
        split_ifs with hmode hstate
        · rfl
        · rfl
        · exact absurd ⟨not_not.mp hmode, not_not.mp hstate⟩ hopen
      obtain ⟨members, outer, rfl, rfl⟩ := h
      obtain ⟨d', hrun, hnested⟩ := ih (k := outer.length + 1)
        ⟨stateMembers zone, (members, rt.dsuid2str m.dsid) :: outer, rfl, rfl⟩
      refine ⟨d', ?_, ?_⟩
      · rw [hturn]
        exact hrun
      · rwa [controlled_cons_of_pos hm, length_cons, Nat.add_comm _ 1, ← Nat.add_assoc]

theorem run_successCalls_ne {k : ℕ} {d : Document} (h : Nested (k + 2) d) (v : Value) :
    run d successCalls ≠ some (.complete v) := by
  obtain ⟨members, outer, hlength, rfl⟩ := h
  obtain ⟨o, outer, rfl⟩ := exists_cons_of_length_eq_add_one hlength
  obtain ⟨o', outer, rfl⟩ := exists_cons_of_length_eq_add_one (Nat.succ.inj hlength)
  intro hrun
  cases hrun

/-! ## The law -/

/-- **Controller internals per meter** are answered iff there are none to be answered, or the
zone has a PID controller in its meters. -/
theorem internals_lawful_iff (rt : InternalsRuntime D) (zone : ControlledZone)
    (meters : List (Meter D)) : InternalsLawful rt zone meters ↔ InternalsFit zone meters := by
  unfold InternalsLawful InternalsFit getTemperatureControlInternals
  by_cases hzone : zone.id = 0
  · rw [if_pos hzone]
    constructor
    · rintro ⟨v, hv, hmembers⟩
      cases hv
      exact Or.inl (map_eq_nil_iff.mp hmembers.symm)
    · rintro (hnil | ⟨hne, -⟩)
      · exact ⟨_, rfl, by rw [hnil]; rfl⟩
      · exact absurd hzone hne
  · rw [if_neg hzone]
    by_cases hfits : controlled meters = [] ∨ zone.mode = modePID ∧ zone.state = stateInternal
    · rw [flatMap_meterCalls hfits, run_success]
      exact iff_of_true ⟨_, rfl, rfl⟩ (hfits.imp_right fun h => ⟨hzone, h⟩)
    · rw [not_or] at hfits
      refine iff_of_false ?_ (not_or.mpr ⟨hfits.1, fun h => hfits.2 h.2⟩)
      rintro ⟨v, hv, -⟩
      have hopen : run start openCalls = some (.within [.object [], .member [] "result"]) := rfl
      have hstart : Nested 1 (.within [.object [], .member [] "result"]) :=
        ⟨[], [([], "result")], rfl, rfl⟩
      obtain ⟨d, hmeters, hnested⟩ :
          ∃ d, run (.within [.object [], .member [] "result"])
            (meters.flatMap (meterCalls rt zone)) = some d ∧
              Nested (1 + (controlled meters).length) d := nested_meterCalls hfits.2 hstart
      rw [run_append_of_some hopen, run_append_of_some hmeters] at hv
      have hlength : 1 + (controlled meters).length = (controlled meters).length - 1 + 2 := by
        have hpos := length_pos_iff.mpr hfits.1
        omega
      exact run_successCalls_ne (hlength ▸ hnested) v hv

/-- One meter in a zone that is switched off. -/
theorem internals_lawful_fails :
    ¬ InternalsLawful ⟨fun _ : Unit => "m", fun _ => "0", fun _ _ => none⟩ ⟨1, 0, 0⟩
      [⟨(), true⟩] := by
  rintro ⟨v, hv, -⟩
  cases hv

end Heating

end Dss
