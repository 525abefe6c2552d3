import Mathlib.Data.List.Induction
import Mathlib.Tactic.IntervalCases
import Dss.MachineIntegers

/-!
# The registers of a device

A device keeps its configuration in registers of a byte, which are found by a class and an index.
Transition times are stored as a mantissa of four bits with an exponent. The time to store is
searched from the shortest one on, and the search takes 0 for the time below the shortest. The
scene table has the values, the angles and the modes of scenes; the mode functions drop the number
of the scene on the way.
-/

namespace Dss

open List Option

namespace DeviceRegisters

open MachineIntegers IntType

/-! ## Registers -/

structure Registers : Type where
  /-- by class and index -/
  config : UInt8 → UInt8 → UInt8
  /-- what the bus keeps for a scene, apart from the registers -/
  outputChannelSceneConfig : UInt8 → UInt16

namespace Registers

variable (m : Registers) (configClass configIndex value : UInt8)

def setDeviceConfig : Registers :=
  { m with config := fun c i =>
      if c = configClass ∧ i = configIndex then value else m.config c i }

def getDeviceConfig : UInt8 := m.config configClass configIndex

/-- Two registers, the lower byte first. -/
def getDeviceConfigWord : UInt16 :=
  (m.config configClass configIndex).toUInt16 |||
    (m.config configClass (configIndex + 1)).toUInt16 <<< 8

variable {m configClass configIndex value} {c i : UInt8}

theorem getDeviceConfig_setDeviceConfig :
    (m.setDeviceConfig configClass configIndex value).getDeviceConfig c i =
      if c = configClass ∧ i = configIndex then value else m.getDeviceConfig c i := rfl

end Registers

/-- The bytes of a word. -/
theorem bytes_of_word (low high : UInt8) :
    ((low.toUInt16 ||| high.toUInt16 <<< 8) &&& 0xff).toUInt8 = low ∧
      (((low.toUInt16 ||| high.toUInt16 <<< 8) >>> 8) &&& 0xff).toUInt8 = high := by
  constructor <;> apply UInt8.eq_of_toBitVec_eq <;> apply BitVec.eq_of_getLsbD_eq <;>
    intro k hk <;> interval_cases k <;> simp

/-! ## Transition times -/

def cfgClassFunction : UInt8 := 0x03

def cfgFunction_DimTime0 : UInt8 := 0x06

def transitionVal2Time (value : UInt8) : ℤ :=
  let hval := value.toNat / 16
  let lval := value.toNat % 16
  100 * 2 ^ hval - (100 * 2 ^ hval) / 32 * (15 - lval)

/-- The loop of `transitionTimeEval`. -/
def climb (timems : ℤ) (val : UInt8) (tlow thigh : ℤ) : UInt8 × ℤ × ℤ :=
  if val < 255 ∧ thigh < timems then
    climb timems (val + 1) thigh (transitionVal2Time (val + 1))
  else (val, tlow, thigh)
termination_by 255 - val.toNat
decreasing_by
  rename_i h
  have hval : val.toNat < 255 := UInt8.lt_iff_toNat_lt.mp h.1
  have hadd : (val + 1).toNat = val.toNat + 1 := by
    rw [UInt8.toNat_add]
    exact Nat.mod_eq_of_lt (Nat.succ_lt_succ hval)
  omega

/-- What ends a call. -/
inductive Failure : Type where
  | runtimeError : String → Failure
  | dssException : String → Failure
  /-- a difference that is no `int` -/
  | overflow : Failure
  deriving DecidableEq

def difference (a b : ℤ) : Except Failure ℤ :=
  if int32.Fits (a - b) then .ok (a - b) else .error .overflow

def transitionTimeEval (timems : ℤ) : Except Failure UInt8 := do
  let (val, tlow, thigh) := climb timems 0 0 0
  let above ← difference thigh timems
  let below ← difference timems tlow
  return if below < above then val - 1 else val

def setDeviceTransitionTime (m : Registers) (dimtimeIndex : UInt8) (up down : ℤ) :
    Except Failure Registers := do
  if 2 < dimtimeIndex then
    throw (.dssException "Device::setDeviceTransitionTime: index out of range")
  let vup ← transitionTimeEval up
  let vdown ← transitionTimeEval down
  let index := cfgFunction_DimTime0 + dimtimeIndex * 2
  return (m.setDeviceConfig cfgClassFunction index vup).setDeviceConfig cfgClassFunction
    (index + 1) vdown

def getDeviceTransitionTime (m : Registers) (dimtimeIndex : UInt8) : Except Failure (ℤ × ℤ) := do
  if 2 < dimtimeIndex then
    throw (.dssException "Device::getDeviceTransitionTime: index out of range")
  let value := m.getDeviceConfigWord cfgClassFunction (cfgFunction_DimTime0 + dimtimeIndex * 2)
  let vup := (value &&& 0xff).toUInt8
  let vdown := ((value >>> 8) &&& 0xff).toUInt8
  return (transitionVal2Time vup, transitionVal2Time vdown)

/-! ### The law -/

/-- No byte stands for a time that is nearer. -/
def IsNearest (t time : ℤ) : Prop := ∀ v, (time - t).natAbs ≤ (transitionVal2Time v - t).natAbs

/-- A time is stored as one of the nearest. -/
def LawfulEval (t : ℤ) : Prop :=
  ∃ v, transitionTimeEval t = .ok v ∧ IsNearest t (transitionVal2Time v)

/-- What is read back are times that a byte can stand for. -/
def LawfulTransitionTime (m : Registers) (dimtimeIndex : UInt8) (up down : ℤ) : Prop :=
  dimtimeIndex ≤ 2 → ∃ m' vup vdown, setDeviceTransitionTime m dimtimeIndex up down = .ok m' ∧
    getDeviceTransitionTime m' dimtimeIndex =
      .ok (transitionVal2Time vup, transitionVal2Time vdown) ∧
    IsNearest up (transitionVal2Time vup) ∧ IsNearest down (transitionVal2Time vdown)

/-- Neither is the time below 0, nor is it one for which the shortest time is nearer than the one
that comes next, but 0 is not. -/
def IsSearched (t : ℤ) : Prop := 0 ≤ t ∧ ¬(29 ≤ t ∧ t ≤ 56)

/-! ### The search -/

variable {t time tlow thigh : ℤ} {v w : UInt8}

theorem toNat_add_one (h : v < 255) : (v + 1).toNat = v.toNat + 1 := by
  exact Nat.mod_eq_of_lt (Nat.succ_lt_succ (UInt8.lt_iff_toNat_lt.mp h))

theorem transitionVal2Time_le (h : v ≤ w) : transitionVal2Time v ≤ transitionVal2Time w := by
  have hstep : ∀ n < 255,
      transitionVal2Time (UInt8.ofNat n) ≤ transitionVal2Time (UInt8.ofNat (n + 1)) := by
    decide +kernel
  have hle : ∀ n, v.toNat ≤ n → n < 256 →
      transitionVal2Time v ≤ transitionVal2Time (UInt8.ofNat n) := by
    intro n hn
    induction n, hn using Nat.le_induction with
    | base => exact fun _ => by rw [UInt8.ofNat_toNat]
    | succ n _ ih => exact fun hlt => (ih (by omega)).trans (hstep n (by omega))
  have hw := hle w.toNat (UInt8.le_iff_toNat_le.mp h) w.toNat_lt
  rwa [UInt8.ofNat_toNat] at hw

/-- What the loop keeps: the time for the byte, and the one before it, or 0. -/
structure Bracket (t : ℤ) (v : UInt8) (tlow thigh : ℤ) : Prop where
  zero : v = 0 → tlow = 0 ∧ thigh = 0
  pos : v ≠ 0 → thigh = transitionVal2Time v ∧ tlow < t ∧
    tlow = if v = 1 then 0 else transitionVal2Time (v - 1)

theorem climb_spec (hbracket : Bracket t v tlow thigh) :
    Bracket t (climb t v tlow thigh).1 (climb t v tlow thigh).2.1 (climb t v tlow thigh).2.2 ∧
      ((climb t v tlow thigh).1 < 255 → t ≤ (climb t v tlow thigh).2.2) := by
  induction v, tlow, thigh using climb.induct t with
  | case1 v tlow thigh h ih =>
    rw [climb, if_pos h]
    refine ih ⟨fun hzero => ?_, fun _ => ⟨rfl, h.2, ?_⟩⟩
    · have hnat := toNat_add_one h.1
      rw [hzero] at hnat
      cases hnat
    · rw [UInt8.add_sub_cancel]
      by_cases hv : v = 0
      · rw [if_pos (by rw [hv]; rfl), (hbracket.zero hv).2]
      · rw [if_neg fun hone => hv (by simpa using hone), (hbracket.pos hv).1]
  | case2 v tlow thigh h =>
    rw [climb, if_neg h]
    exact ⟨hbracket, fun hlt => Int.not_lt.mp fun hthigh => h ⟨hlt, hthigh⟩⟩

theorem le_sub_one_of_lt (h : w < v) : w ≤ v - 1 := by
  have hone : (1 : UInt8) ≤ v := UInt8.le_iff_toNat_le.mpr (Nat.one_le_of_lt h)
  rw [UInt8.le_iff_toNat_le, UInt8.toNat_sub_of_le v 1 hone]
  exact Nat.le_sub_one_of_lt h

theorem transitionVal2Time_bounds (v : UInt8) :
    55 ≤ transitionVal2Time v ∧ transitionVal2Time v ≤ 3276800 :=
  ⟨transitionVal2Time_le (v := 0) (UInt8.le_iff_toNat_le.mpr (Nat.zero_le _)),
    transitionVal2Time_le (w := 255) (UInt8.le_iff_toNat_le.mpr (Nat.le_of_lt_succ v.toNat_lt))⟩

/-- Of two neighbours, the one that is nearer is the nearest of all. -/
theorem isNearest_neighbour (hlow : transitionVal2Time (v - 1) < t)
    (hhigh : v < 255 → t ≤ transitionVal2Time v) :
    IsNearest t (if t - transitionVal2Time (v - 1) < transitionVal2Time v - t
      then transitionVal2Time (v - 1) else transitionVal2Time v) := by
  intro w
  have hother : transitionVal2Time w ≤ transitionVal2Time (v - 1) ∨
      transitionVal2Time v ≤ transitionVal2Time w := by
    rcases UInt8.lt_or_le w v with h | h
    · exact Or.inl (transitionVal2Time_le (le_sub_one_of_lt h))
    · exact Or.inr (transitionVal2Time_le h)
  by_cases hlast : v < 255
  · have hle := hhigh hlast
    split_ifs <;> omega
  · have hv : transitionVal2Time w ≤ transitionVal2Time v :=
      transitionVal2Time_le (UInt8.le_iff_toNat_le.mpr ((Nat.le_of_lt_succ w.toNat_lt).trans
        (UInt8.le_iff_toNat_le.mp (UInt8.not_lt.mp hlast))))
    split_ifs <;> omega

theorem transitionTimeEval_eq (hclimb : climb t 0 0 0 = (v, tlow, thigh))
    (habove : int32.Fits (thigh - t)) (hbelow : int32.Fits (t - tlow)) :
    transitionTimeEval t = .ok (if t - tlow < thigh - t then v - 1 else v) := by
  rw [transitionTimeEval, hclimb]
  dsimp only
  rw [difference, if_pos habove, difference, if_pos hbelow]
  rfl

/-- The byte wraps around below 0. -/
theorem not_lawfulEval_of_neg (hclimb : climb t 0 0 0 = (0, 0, 0)) (ht : t < 0) :
    ¬LawfulEval t := by
  rintro ⟨v, heval, hnearest⟩
  have hv : v = 255 := by
    by_cases habove : int32.Fits (0 - t)
    · have hbelow : int32.Fits (t - 0) := by
        obtain ⟨hlow, hhigh⟩ := habove
        simp only [int32] at hlow hhigh
        exact ⟨by simp only [int32]; omega, by simp only [int32]; omega⟩
      rw [transitionTimeEval_eq hclimb habove hbelow, if_pos (by omega)] at heval
      exact (Except.ok.inj heval).symm
    · rw [transitionTimeEval, hclimb] at heval
      dsimp only at heval
      rw [difference, if_neg habove] at heval
      cases heval
  subst hv
  have hfar : (3276800 - t).natAbs ≤ (55 - t).natAbs := hnearest 0
  omega

theorem lawfulEval_iff_isNearest (heval : transitionTimeEval t = .ok v) :
    LawfulEval t ↔ IsNearest t (transitionVal2Time v) := by
  refine ⟨?_, fun h => ⟨v, heval, h⟩⟩
  rintro ⟨w, hw, hnearest⟩
  rw [heval] at hw
  cases hw
  exact hnearest

/-- The first step, which takes 0 for the shortest time. -/
theorem lawfulEval_first (hpos : 0 < t) (hle : t ≤ 58)
    (heval : transitionTimeEval t = .ok (if t - 0 < 58 - t then 0 else 1)) :
    LawfulEval t ↔ IsSearched t := by
  rw [lawfulEval_iff_isNearest heval]
  by_cases hshort : t - 0 < 58 - t
  · rw [if_pos hshort]
    refine iff_of_true (fun w => ?_) ⟨hpos.le, by omega⟩
    have hw := (transitionVal2Time_bounds w).1
    rw [show transitionVal2Time 0 = 55 from rfl]
    omega
  · rw [if_neg hshort]
    refine ⟨fun h => ⟨hpos.le, fun hgap => ?_⟩, fun h => ?_⟩
    · have hzero : (58 - t).natAbs ≤ (55 - t).natAbs := h 0
      omega
    · have hgap := h.2
      have hnearest := isNearest_neighbour (v := 1) (show 55 < t by omega) fun _ => hle
      rwa [if_neg (show ¬t - transitionVal2Time (1 - 1) < transitionVal2Time 1 - t from
        (by omega : ¬t - 55 < 58 - t))] at hnearest

/-- **The search** finds the nearest time, unless it ends at the first step or before. -/
theorem lawfulEval_iff (t : int32.Value) : LawfulEval t.val ↔ IsSearched t.val := by
  obtain ⟨t, hmin, hmax⟩ := t
  simp only [int32] at hmin hmax
  have hfits {a : ℤ} (hlow : -2 ^ 31 ≤ a) (hhigh : a < 2 ^ 31) : int32.Fits a :=
    ⟨hlow, by simp only [int32]; omega⟩
  have hstart : Bracket t 0 0 0 := ⟨fun _ => ⟨rfl, rfl⟩, fun h => absurd rfl h⟩
  obtain ⟨hbracket, hend⟩ := climb_spec hstart
  rcases hclimb : climb t 0 0 0 with ⟨v, tlow, thigh⟩
  rw [hclimb] at hbracket hend
  dsimp only at hbracket hend ⊢
  by_cases hv : v = 0
  · subst hv
    obtain ⟨rfl, rfl⟩ := hbracket.zero rfl
    rcases (hend (by decide)).lt_or_eq with hneg | rfl
    · exact iff_of_false (not_lawfulEval_of_neg hclimb hneg) fun h => absurd hneg h.1.not_gt
    · rw [lawfulEval_iff_isNearest (transitionTimeEval_eq hclimb (by decide) (by decide))]
      refine iff_of_true (fun w => ?_) ⟨le_rfl, by omega⟩
      have hw := (transitionVal2Time_bounds w).1
      rw [if_neg (by decide), show transitionVal2Time 0 = 55 from rfl]
      omega
  · obtain ⟨rfl, hlow, htlow⟩ := hbracket.pos hv
    have htime := transitionVal2Time_bounds v
    by_cases hone : v = 1
    · subst hone
      rw [if_pos rfl] at htlow
      subst htlow
      exact lawfulEval_first hlow (hend (by decide)) (transitionTimeEval_eq hclimb
        (hfits (by omega) (by omega)) (hfits (by omega) (by omega)))
    · rw [if_neg hone] at htlow
      subst htlow
      have htwo : 1 < v := by
        have hzero : v.toNat ≠ 0 := fun h => hv (UInt8.toNat_inj.mp h)
        have hone : v.toNat ≠ 1 := fun h => hone (UInt8.toNat_inj.mp h)
        exact UInt8.lt_iff_toNat_lt.mpr (show 1 < v.toNat by omega)
      have hlong : 58 ≤ transitionVal2Time (v - 1) := transitionVal2Time_le (le_sub_one_of_lt htwo)
      rw [lawfulEval_iff_isNearest (transitionTimeEval_eq hclimb (hfits (by omega) (by omega))
        (hfits (by omega) (by omega))), apply_ite transitionVal2Time]
      exact iff_of_true (isNearest_neighbour hlow hend) ⟨by omega, by omega⟩

theorem getDeviceTransitionTime_written {m : Registers} {dimtimeIndex vup vdown : UInt8}
    (hindex : dimtimeIndex ≤ 2) :
    getDeviceTransitionTime ((m.setDeviceConfig cfgClassFunction
        (cfgFunction_DimTime0 + dimtimeIndex * 2) vup).setDeviceConfig cfgClassFunction
        (cfgFunction_DimTime0 + dimtimeIndex * 2 + 1) vdown) dimtimeIndex =
      .ok (transitionVal2Time vup, transitionVal2Time vdown) := by
  obtain ⟨hup, hdown⟩ := bytes_of_word vup vdown
  have hne (i : UInt8) : i ≠ i + 1 := fun h => by simp at h
  rw [getDeviceTransitionTime, if_neg (UInt8.not_lt.mpr hindex), Registers.getDeviceConfigWord]
  simp only [Registers.setDeviceConfig, hne, and_false, if_false, and_self, if_true, hup, hdown]
  rfl

theorem setDeviceTransitionTime_eq {m : Registers} {dimtimeIndex : UInt8} {up down : ℤ}
    (hindex : dimtimeIndex ≤ 2) :
    setDeviceTransitionTime m dimtimeIndex up down = do
      let vup ← transitionTimeEval up
      let vdown ← transitionTimeEval down
      let index := cfgFunction_DimTime0 + dimtimeIndex * 2
      return (m.setDeviceConfig cfgClassFunction index vup).setDeviceConfig cfgClassFunction
        (index + 1) vdown := by
  rw [setDeviceTransitionTime, if_neg (UInt8.not_lt.mpr hindex)]

/-- **Transition times.** The nearest time is found for a time that the search starts below, and
what is set is read back. -/
theorem transitionTimes_lawful_iff (m : Registers) (dimtimeIndex : UInt8) :
    (∀ t : int32.Value, LawfulEval t.val ↔ IsSearched t.val) ∧
      ∀ up down : int32.Value, LawfulTransitionTime m dimtimeIndex up.val down.val ↔
        (dimtimeIndex ≤ 2 → IsSearched up.val ∧ IsSearched down.val) := by
  refine ⟨lawfulEval_iff, fun up down => forall_congr' fun hindex => ?_⟩
  rw [← lawfulEval_iff up, ← lawfulEval_iff down, setDeviceTransitionTime_eq hindex]
  constructor
  · rintro ⟨m', vup, vdown, hset, hget, hup, hdown⟩
    cases hvup : transitionTimeEval up.val with
    | error failure =>
      rw [hvup] at hset
      cases hset
    | ok wup =>
      cases hvdown : transitionTimeEval down.val with
      | error failure =>
        rw [hvup, hvdown] at hset
        cases hset
      | ok wdown =>
        rw [hvup, hvdown] at hset
        obtain rfl := Except.ok.inj hset
        have htimes := (getDeviceTransitionTime_written hindex).symm.trans hget
        obtain ⟨htime, htime'⟩ := Prod.mk.inj (Except.ok.inj htimes)
        exact ⟨⟨wup, hvup, htime ▸ hup⟩, ⟨wdown, hvdown, htime' ▸ hdown⟩⟩
  · rintro ⟨⟨vup, hvup, hup⟩, vdown, hvdown, hdown⟩
    rw [hvup, hvdown]
    exact ⟨_, vup, vdown, rfl, getDeviceTransitionTime_written hindex, hup, hdown⟩

/-- Byte 0 is nearer to 40 milliseconds than byte 1, which is found. -/
theorem transitionTimes_lawful_fails : ¬LawfulEval 40 := by
  intro h
  have hsearched := (lawfulEval_iff (int32.cast 40)).mp h
  exact hsearched.2 (by decide)

/-! ## Scenes -/

def cfgClassScene : UInt8 := 0x80

def cfgClassSceneExtention : UInt8 := 0x81

def cfgClassSceneAngle : UInt8 := 0x82

def sceneImpulse : UInt8 := 0x29

def groupIDGray : ℕ := 2

def deviceTypeKL : ℕ := 3

def productID_UMV_210 : ℕ := 0x2CD2

/-- What tells the type of a device. -/
structure DeviceIDs : Type where
  productID : ℕ
  functionID : ℕ

/-- `DeviceSceneSpec_t` -/
structure SceneSpec : Type where
  dontcare : Bool
  localprio : Bool
  specialmode : Bool
  flashmode : Bool
  ledconIndex : UInt8
  dimtimeIndex : UInt8
  deriving DecidableEq

namespace SceneSpec

/-- The mode of an output channel. -/
def toWord (config : SceneSpec) : UInt16 :=
  let flags : UInt16 := (bif config.dontcare then 1 else 0) ||| (bif config.localprio then 2 else 0) |||
    (bif config.specialmode then 4 else 0)
  let flash : UInt16 := bif config.flashmode then 0x100 else 0
  flags ||| (config.ledconIndex &&& 7).toUInt16 <<< 4 ||| flash

def ofWord (mode : UInt16) : SceneSpec where
  dontcare := 0 < mode &&& 1
  localprio := 0 < mode &&& 2
  specialmode := 0 < mode &&& 4
  ledconIndex := (mode >>> 4 &&& 7).toUInt8
  dimtimeIndex := 0
  flashmode := 0 < mode &&& 0x100

/-- The standard mode. -/
def toByte (config : SceneSpec) : UInt8 :=
  let flags : UInt8 := (bif config.dontcare then 1 else 0) ||| (bif config.localprio then 2 else 0) |||
    (bif config.specialmode then 4 else 0) ||| (bif config.flashmode then 8 else 0)
  flags ||| (config.ledconIndex &&& 3) <<< 4 ||| (config.dimtimeIndex &&& 3) <<< 6

def ofByte (mode : UInt8) : SceneSpec where
  dontcare := 0 < mode &&& 1
  localprio := 0 < mode &&& 2
  specialmode := 0 < mode &&& 4
  flashmode := 0 < mode &&& 8
  ledconIndex := mode >>> 4 &&& 3
  dimtimeIndex := mode >>> 6 &&& 3

end SceneSpec

section Scenes

variable (d : DeviceIDs) (m : Registers)

def hasExtendendSceneTable : Bool :=
  d.functionID / 4096 % 16 = groupIDGray && d.productID / 1024 % 64 = deviceTypeKL

/-- `getDeviceFeatures().hasOutputAngle`: GR-KL220 and GR-KL230 -/
def hasOutputAngle : Bool :=
  d.productID ≠ 0 && d.functionID ≠ 0 && d.functionID / 4096 % 16 = groupIDGray &&
    d.productID / 1024 % 64 = deviceTypeKL &&
    (d.productID % 1024 = 220 || d.productID % 1024 = 230)

def setSceneValue (scene value : ℤ) : Registers :=
  if hasExtendendSceneTable d then
    let extValue := m.getDeviceConfig cfgClassSceneExtention (UInt8.ofInt (scene.tdiv 2))
    let shifted := UInt8.ofInt (value >>> (4 : ℕ))
    let extValue :=
      if scene.tmod 2 = 0 then (extValue &&& 0xF0) ||| (shifted &&& 0x0F)
      else (extValue &&& 0x0F) ||| (UInt8.ofInt value &&& 0xF0)
    (m.setDeviceConfig cfgClassScene (UInt8.ofInt scene)
      (UInt8.ofInt (value >>> (8 : ℕ)))).setDeviceConfig
        cfgClassSceneExtention (UInt8.ofInt (scene.tdiv 2)) extValue
  else m.setDeviceConfig cfgClassScene (UInt8.ofInt scene) (UInt8.ofInt value)

def getSceneValue (scene : ℤ) : ℕ :=
  let value := (m.getDeviceConfig cfgClassScene (UInt8.ofInt scene)).toNat
  if hasExtendendSceneTable d then
    let extValue := m.getDeviceConfig cfgClassSceneExtention (UInt8.ofInt (scene.tdiv 2))
    let high : UInt8 := extValue &&& 0xF0
    let low : UInt8 := extValue &&& 0x0F
    -- high bits for odd scene numbers
    let extValue := if scene.tmod 2 = 1 then high ||| high >>> 4 else low ||| low <<< 4
    value <<< 8 ||| extValue.toNat
  else value

def noOutputAngle : Failure := .runtimeError "Device does not support output angle setting"

def getSceneAngle (scene : ℤ) : Except Failure ℕ :=
  if hasOutputAngle d then .ok (m.getDeviceConfig cfgClassSceneAngle (UInt8.ofInt scene)).toNat
  else .error noOutputAngle

def setSceneAngle (scene angle : ℤ) : Except Failure Registers :=
  if !hasOutputAngle d then .error noOutputAngle
  else if angle < 0 ∨ 255 < angle then .error (.runtimeError "Device angle value out of bounds")
  else .ok (m.setDeviceConfig cfgClassSceneAngle (UInt8.ofInt scene) (UInt8.ofInt angle))

def getDeviceOutputChannelSceneConfig (scene : UInt8) : SceneSpec :=
  SceneSpec.ofWord (m.outputChannelSceneConfig scene)

def setDeviceOutputChannelSceneConfig (scene : UInt8) (config : SceneSpec) : Registers :=
  { m with outputChannelSceneConfig := fun s =>
      if s = scene then config.toWord else m.outputChannelSceneConfig s }

def setDeviceSceneModeStandard (sceneId : UInt8) (config : SceneSpec) : Registers :=
  m.setDeviceConfig cfgClassScene (128 + sceneId) config.toByte

def getDeviceSceneModeStandard (sceneId : UInt8) : SceneSpec :=
  SceneSpec.ofByte (m.getDeviceConfig cfgClassScene (128 + sceneId))

/-- The number of the scene is dropped. -/
def setDeviceSceneMode (_sceneId : UInt8) (config : SceneSpec) : Registers :=
  if d.productID = productID_UMV_210 then setDeviceOutputChannelSceneConfig m sceneImpulse config
  else setDeviceSceneModeStandard m sceneImpulse config

def getDeviceSceneMode (_sceneId : UInt8) : SceneSpec :=
  if d.productID = productID_UMV_210 then getDeviceOutputChannelSceneConfig m sceneImpulse
  else getDeviceSceneModeStandard m sceneImpulse

end Scenes

/-! ### The law -/

/-- `MaxSceneNumber` is 127, which the callers check. -/
abbrev Scene : Type := Fin 128

/-- The calls that write registers of a scene. -/
inductive Call : Type where
  | setSceneValue (scene : Scene) (value : ℤ) : Call
  | setSceneAngle (scene : Scene) (angle : ℤ) : Call
  | setDeviceSceneMode (sceneId : UInt8) (config : SceneSpec) : Call

/-- An entry of the scene table. -/
inductive Slot : Type where
  | value (scene : Scene) : Slot
  | angle (scene : Scene) : Slot
  | mode (sceneId : UInt8) : Slot
  deriving DecidableEq

inductive Entry : Type where
  | number : ℤ → Entry
  | mode : SceneSpec → Entry
  deriving DecidableEq

def Slot.scene : Slot → ℕ
  | value scene | angle scene => scene
  | mode sceneId => sceneId.toNat

def Call.slot : Call → Slot
  | setSceneValue scene _ => .value scene
  | setSceneAngle scene _ => .angle scene
  | setDeviceSceneMode sceneId _ => .mode sceneId

section Laws

variable (d : DeviceIDs) (m : Registers)

/-- A call that throws changes nothing. -/
def step : Call → Registers
  | .setSceneValue scene value => setSceneValue d m scene value
  | .setSceneAngle scene angle => (setSceneAngle d m scene angle).toOption.getD m
  | .setDeviceSceneMode sceneId config => setDeviceSceneMode d m sceneId config

def read : Slot → Except Failure Entry
  | .value scene => .ok (.number (getSceneValue d m scene))
  | .angle scene => (getSceneAngle d m scene).map fun angle => .number angle
  | .mode sceneId => .ok (.mode (getDeviceSceneMode d m sceneId))

/-- The fields that the layout can hold. -/
def held (config : SceneSpec) : SceneSpec :=
  if d.productID = productID_UMV_210 then
    { config with ledconIndex := config.ledconIndex &&& 7, dimtimeIndex := 0 }
  else
    { config with ledconIndex := config.ledconIndex &&& 3, dimtimeIndex := config.dimtimeIndex &&& 3 }

/-- What a call stores, unless it throws. -/
def Call.stored : Call → Option Entry
  | setSceneValue _ value => some (.number
      (if hasExtendendSceneTable d then value / 16 * 16 + value / 16 % 16 else value))
  | setSceneAngle _ angle =>
    if hasOutputAngle d ∧ 0 ≤ angle ∧ angle ≤ 255 then some (.number angle) else none
  | setDeviceSceneMode _ config => some (.mode (held d config))

def run (calls : List Call) : Registers := calls.foldl (step d) m

def lastStored (slot : Slot) (calls : List Call) : Option Entry :=
  ((calls.filter (·.slot = slot)).filterMap (·.stored d)).getLast?

/-- At each time, an entry is what was stored last, and no call changes one of another scene. -/
structure LawfulRun (calls : List Call) : Prop where
  reads : ∀ done, done <+: calls → ∀ slot entry, lastStored d slot done = some entry →
    read d (run d m done) slot = .ok entry
  others : ∀ done call, done ++ [call] <+: calls → ∀ slot, slot.scene ≠ call.slot.scene →
    read d (run d m (done ++ [call])) slot = read d (run d m done) slot

/-- The fields in the one register for modes. -/
def modeRegister : SceneSpec :=
  if d.productID = productID_UMV_210 then getDeviceOutputChannelSceneConfig m sceneImpulse
  else getDeviceSceneModeStandard m sceneImpulse

/-- The value fits into the table, and the mode is the one in the register already. -/
def Call.Fits : Call → Prop
  | setSceneValue _ value =>
    0 ≤ value ∧ value < if hasExtendendSceneTable d then 2 ^ 16 else 2 ^ 8
  | setSceneAngle _ _ => True
  | setDeviceSceneMode _ config => held d config = modeRegister d m

end Laws

/-! ### One call -/

section Bytes

theorem nibbles (e b : UInt8) : ((e &&& 0xF0) ||| (b &&& 0x0F)) &&& 0x0F = b &&& 0x0F ∧
    ((e &&& 0xF0) ||| (b &&& 0x0F)) &&& 0xF0 = e &&& 0xF0 := by
  constructor <;> apply UInt8.eq_of_toBitVec_eq <;> apply BitVec.eq_of_getLsbD_eq <;>
    intro k hk <;> interval_cases k <;> simp

theorem halves (b high low : UInt8) (hhigh : b &&& 0xF0 = high) (hlow : b &&& 0x0F = low) :
    high.toNat = b.toNat / 16 * 16 ∧ low.toNat = b.toNat % 16 ∧
      (high ||| high >>> 4).toNat = 17 * (b.toNat / 16) ∧
      (low ||| low <<< 4).toNat = 17 * (b.toNat % 16) := by
  subst hhigh hlow
  have hall : ∀ n < 256,
      let high := UInt8.ofNat n &&& 0xF0
      let low := UInt8.ofNat n &&& 0x0F
      high.toNat = n / 16 * 16 ∧ low.toNat = n % 16 ∧
        (high ||| high >>> 4).toNat = 17 * (n / 16) ∧
        (low ||| low <<< 4).toNat = 17 * (n % 16) := by
    decide +kernel
  have hb := hall b.toNat b.toNat_lt
  rwa [UInt8.ofNat_toNat] at hb

theorem toNat_nibbles (e b : UInt8) : ((e &&& 0xF0) ||| (b &&& 0x0F)).toNat =
    e.toNat / 16 * 16 + b.toNat % 16 := by
  obtain ⟨hlow, hhigh⟩ := nibbles e b
  generalize (e &&& 0xF0) ||| (b &&& 0x0F) = x at hlow hhigh
  obtain ⟨hx, hx', -⟩ := halves x _ _ rfl rfl
  obtain ⟨he, -⟩ := halves e _ _ rfl rfl
  obtain ⟨-, hb, -⟩ := halves b _ _ rfl rfl
  rw [hhigh] at hx
  rw [hlow] at hx'
  omega

theorem toNat_ofInt (n : ℤ) : ((UInt8.ofInt n).toNat : ℤ) = n % 256 := by
  have hval : (UInt8.ofInt n).toNat = (n % 256).toNat % 256 := rfl
  omega

theorem toNat_ofInt_shiftRight (n : ℤ) (k : ℕ) :
    ((UInt8.ofInt (n >>> k)).toNat : ℤ) = n / ((2 ^ k : ℕ) : ℤ) % 256 := by
  rw [toNat_ofInt, Int.shiftRight_eq_div_pow]

theorem ofInt_scene {n k : ℕ} (hn : n < 256) (hk : k < 256) :
    UInt8.ofInt n = UInt8.ofInt k ↔ n = k := by
  refine ⟨fun h => ?_, fun h => h ▸ rfl⟩
  have hn' := toNat_ofInt n
  rw [h, toNat_ofInt k] at hn'
  omega

/-- The table for values lies in front of the one for modes. -/
theorem modeIndex_ne (scene : Scene) : 128 + sceneImpulse ≠ UInt8.ofInt (scene : ℕ) := by
  intro h
  have hscene := toNat_ofInt (scene : ℕ)
  rw [← h] at hscene
  have hindex : ((128 + sceneImpulse).toNat : ℤ) = 169 := rfl
  omega

end Bytes

section Step

variable {d : DeviceIDs} {m : Registers} {scene scene' : Scene} {value angle : ℤ}

/-- What belongs to a scene in the register that two scenes share. -/
def half (scene : Scene) (extValue : UInt8) : ℕ :=
  if scene.val % 2 = 1 then extValue.toNat / 16 else extValue.toNat % 16

/-- What the getter makes of the two registers of a scene. -/
def shownValue (d : DeviceIDs) (scene : Scene) (value extValue : UInt8) : ℕ :=
  if hasExtendendSceneTable d then value.toNat * 256 + 17 * half scene extValue else value.toNat

theorem getSceneValue_eq : getSceneValue d m (scene : ℕ) =
    shownValue d scene (m.getDeviceConfig cfgClassScene (UInt8.ofInt (scene : ℕ)))
      (m.getDeviceConfig cfgClassSceneExtention (UInt8.ofInt (scene / 2 : ℕ))) := by
  have hdiv : ((scene : ℕ) : ℤ).tdiv 2 = ((scene / 2 : ℕ) : ℤ) := rfl
  have hmod : ((scene : ℕ) : ℤ).tmod 2 = 1 ↔ scene.val % 2 = 1 := Int.natCast_inj
  rw [getSceneValue, shownValue, half, hdiv]
  generalize m.getDeviceConfig cfgClassSceneExtention _ = extValue
  obtain ⟨-, -, hhigh, hlow⟩ := halves extValue _ _ rfl rfl
  have hext := extValue.toNat_lt
  simp only [hmod]
  split_ifs
  · rw [hhigh, ← Nat.shiftLeft_add_eq_or_of_lt (show 17 * (extValue.toNat / 16) < 2 ^ 8 by omega),
      Nat.shiftLeft_eq]
  · rw [hlow, ← Nat.shiftLeft_add_eq_or_of_lt (show 17 * (extValue.toNat % 16) < 2 ^ 8 by omega),
      Nat.shiftLeft_eq]
  · rfl

/-- What the setter makes of the register that two scenes share. -/
def sharedValue (scene : Scene) (extValue : UInt8) (value : ℤ) : UInt8 :=
  let shifted := UInt8.ofInt (value >>> (4 : ℕ))
  if scene.val % 2 = 0 then (extValue &&& 0xF0) ||| (shifted &&& 0x0F)
  else (extValue &&& 0x0F) ||| (UInt8.ofInt value &&& 0xF0)

theorem setSceneValue_eq : setSceneValue d m (scene : ℕ) value =
    if hasExtendendSceneTable d then
      (m.setDeviceConfig cfgClassScene (UInt8.ofInt (scene : ℕ))
          (UInt8.ofInt (value >>> (8 : ℕ)))).setDeviceConfig cfgClassSceneExtention
        (UInt8.ofInt (scene / 2 : ℕ)) (sharedValue scene
          (m.getDeviceConfig cfgClassSceneExtention (UInt8.ofInt (scene / 2 : ℕ))) value)
    else m.setDeviceConfig cfgClassScene (UInt8.ofInt (scene : ℕ)) (UInt8.ofInt value) := by
  have hdiv : ((scene : ℕ) : ℤ).tdiv 2 = ((scene / 2 : ℕ) : ℤ) := rfl
  have hmod : ((scene : ℕ) : ℤ).tmod 2 = 0 ↔ scene.val % 2 = 0 := Int.natCast_inj
  rw [setSceneValue, hdiv]
  simp only [hmod, sharedValue]

theorem half_sharedValue {extValue : UInt8} :
    (half scene (sharedValue scene extValue value) : ℤ) = value / 16 % 16 ∧
      ∀ scene' : Scene, scene' / 2 = scene.val / 2 → scene'.val ≠ scene →
        half scene' (sharedValue scene extValue value) = half scene' extValue := by
  have hvalue := toNat_ofInt value
  have hshifted : ((UInt8.ofInt (value >>> (4 : ℕ))).toNat : ℤ) = value / 16 % 256 :=
    toNat_ofInt_shiftRight value 4
  simp only [sharedValue, half]
  by_cases heven : scene.val % 2 = 0
  · rw [if_pos heven, toNat_nibbles]
    refine ⟨?_, fun scene' hdiv hne => ?_⟩ <;> split_ifs <;> omega
  · rw [if_neg heven, UInt8.or_comm, toNat_nibbles]
    refine ⟨?_, fun scene' hdiv hne => ?_⟩ <;> split_ifs <;> omega

theorem getSceneValue_setSceneValue (hrange : 0 ≤ value)
    (hfits : value < if hasExtendendSceneTable d then 2 ^ 16 else 2 ^ 8) :
    (getSceneValue d (setSceneValue d m (scene : ℕ) value) (scene : ℕ) : ℤ) =
      if hasExtendendSceneTable d then value / 16 * 16 + value / 16 % 16 else value := by
  have hclasses : cfgClassScene ≠ cfgClassSceneExtention := by decide
  rw [getSceneValue_eq, setSceneValue_eq, shownValue]
  split_ifs at hfits ⊢ with htable <;>
    simp only [Registers.getDeviceConfig_setDeviceConfig, hclasses, hclasses.symm, false_and,
      if_false, and_self, if_true]
  · have hbyte : ((UInt8.ofInt (value >>> (8 : ℕ))).toNat : ℤ) = value / 256 % 256 :=
      toNat_ofInt_shiftRight value 8
    have hhalf : (half scene (sharedValue scene (m.getDeviceConfig cfgClassSceneExtention
        (UInt8.ofInt (scene / 2 : ℕ))) value) : ℤ) = value / 16 % 16 := half_sharedValue.1
    omega
  · have hbyte := toNat_ofInt value
    omega

theorem getSceneValue_setSceneValue_of_ne (hne : scene'.val ≠ scene) :
    getSceneValue d (setSceneValue d m (scene : ℕ) value) (scene' : ℕ) =
      getSceneValue d m (scene' : ℕ) := by
  have hindex : UInt8.ofInt (scene' : ℕ) ≠ UInt8.ofInt (scene : ℕ) :=
    mt (ofInt_scene (by omega) (by omega)).mp hne
  have hclasses : cfgClassScene ≠ cfgClassSceneExtention := by decide
  rw [getSceneValue_eq, getSceneValue_eq, setSceneValue_eq, shownValue, shownValue]
  split_ifs <;>
    simp only [Registers.getDeviceConfig_setDeviceConfig, hclasses, hclasses.symm, hindex,
      false_and, and_false, if_false, true_and, ofInt_scene (show scene'.val / 2 < 256 by omega)
        (show scene.val / 2 < 256 by omega)]
  by_cases hdiv : scene'.val / 2 = scene.val / 2
  · rw [if_pos hdiv, half_sharedValue.2 scene' hdiv hne, hdiv]
  · rw [if_neg hdiv]

theorem low_bits (x : UInt8) :
    (∃ k : Fin 4, x &&& 3 = UInt8.ofNat k) ∧ ∃ k : Fin 8, x &&& 7 = UInt8.ofNat k := by
  have hall : ∀ n < 256, (∃ k : Fin 4, UInt8.ofNat n &&& 3 = UInt8.ofNat k) ∧
      ∃ k : Fin 8, UInt8.ofNat n &&& 7 = UInt8.ofNat k := by
    decide +kernel
  have hx := hall x.toNat x.toNat_lt
  rwa [UInt8.ofNat_toNat] at hx

theorem modeRegister_setDeviceSceneMode (sceneId : UInt8) (config : SceneSpec) :
    modeRegister d (setDeviceSceneMode d m sceneId config) = held d config := by
  obtain ⟨dontcare, localprio, specialmode, flashmode, ledconIndex, dimtimeIndex⟩ := config
  obtain ⟨⟨led, hled⟩, led', hled'⟩ := low_bits ledconIndex
  obtain ⟨⟨dim, hdim⟩, -⟩ := low_bits dimtimeIndex
  rw [modeRegister, setDeviceSceneMode, held]
  split_ifs
  · rw [getDeviceOutputChannelSceneConfig, setDeviceOutputChannelSceneConfig]
    dsimp only
    rw [if_pos rfl, SceneSpec.toWord]
    dsimp only
    rw [hled']
    clear hled hled' hdim ledconIndex dimtimeIndex
    decide +revert +kernel
  · rw [getDeviceSceneModeStandard, setDeviceSceneModeStandard,
      Registers.getDeviceConfig_setDeviceConfig, if_pos ⟨rfl, rfl⟩, SceneSpec.toByte]
    dsimp only
    rw [hled, hdim]
    clear hled hled' hdim ledconIndex dimtimeIndex
    decide +revert +kernel

/-- Only a call for a mode writes the register for modes. -/
theorem modeRegister_setSceneValue :
    modeRegister d (setSceneValue d m (scene : ℕ) value) = modeRegister d m := by
  have hclasses : cfgClassScene ≠ cfgClassSceneExtention := by decide
  rw [setSceneValue_eq]
  split_ifs <;>
    simp only [modeRegister, getDeviceOutputChannelSceneConfig, getDeviceSceneModeStandard,
      Registers.getDeviceConfig_setDeviceConfig, hclasses, modeIndex_ne, false_and, and_false,
      if_false]
  all_goals rfl

theorem modeRegister_setSceneAngle :
    modeRegister d ((setSceneAngle d m (scene : ℕ) angle).toOption.getD m) = modeRegister d m := by
  have hclasses : cfgClassScene ≠ cfgClassSceneAngle := by decide
  rw [setSceneAngle]
  split_ifs <;>
    simp only [modeRegister, getDeviceOutputChannelSceneConfig, getDeviceSceneModeStandard,
      Except.toOption, getD_some, getD_none, Registers.getDeviceConfig_setDeviceConfig,
      hclasses, false_and, if_false]
  all_goals rfl

theorem getSceneValue_setSceneAngle :
    getSceneValue d ((setSceneAngle d m (scene : ℕ) angle).toOption.getD m) (scene' : ℕ) =
      getSceneValue d m (scene' : ℕ) := by
  have hclass : cfgClassScene ≠ cfgClassSceneAngle := by decide
  have hclass' : cfgClassSceneExtention ≠ cfgClassSceneAngle := by decide
  rw [getSceneValue_eq, getSceneValue_eq, setSceneAngle]
  split_ifs <;>
    simp only [Except.toOption, getD_some, getD_none,
      Registers.getDeviceConfig_setDeviceConfig, hclass, hclass', false_and, if_false]

theorem getSceneValue_setDeviceSceneMode {sceneId : UInt8} {config : SceneSpec} :
    getSceneValue d (setDeviceSceneMode d m sceneId config) (scene : ℕ) =
      getSceneValue d m (scene : ℕ) := by
  have hclass : cfgClassSceneExtention ≠ cfgClassScene := by decide
  rw [getSceneValue_eq, getSceneValue_eq, setDeviceSceneMode]
  split_ifs
  · rfl
  · rw [setDeviceSceneModeStandard]
    simp only [Registers.getDeviceConfig_setDeviceConfig, hclass, false_and, if_false,
      (modeIndex_ne scene).symm, and_false]

theorem getSceneAngle_setSceneValue :
    getSceneAngle d (setSceneValue d m (scene : ℕ) value) (scene' : ℕ) =
      getSceneAngle d m (scene' : ℕ) := by
  have hclass : cfgClassSceneAngle ≠ cfgClassScene := by decide
  have hclass' : cfgClassSceneAngle ≠ cfgClassSceneExtention := by decide
  rw [getSceneAngle, getSceneAngle, setSceneValue_eq]
  split_ifs <;>
    simp only [Registers.getDeviceConfig_setDeviceConfig, hclass, hclass', false_and, if_false]

theorem getSceneAngle_setDeviceSceneMode {sceneId : UInt8} {config : SceneSpec} :
    getSceneAngle d (setDeviceSceneMode d m sceneId config) (scene : ℕ) =
      getSceneAngle d m (scene : ℕ) := by
  have hclass : cfgClassSceneAngle ≠ cfgClassScene := by decide
  rw [getSceneAngle, getSceneAngle, setDeviceSceneMode]
  split_ifs <;>
    simp only [setDeviceOutputChannelSceneConfig, setDeviceSceneModeStandard,
      Registers.getDeviceConfig_setDeviceConfig, hclass, false_and, if_false]
  all_goals rfl

theorem getSceneAngle_setSceneAngle_of_ne (hne : scene'.val ≠ scene) :
    getSceneAngle d ((setSceneAngle d m (scene : ℕ) angle).toOption.getD m) (scene' : ℕ) =
      getSceneAngle d m (scene' : ℕ) := by
  have hindex : UInt8.ofInt (scene' : ℕ) ≠ UInt8.ofInt (scene : ℕ) :=
    mt (ofInt_scene (by omega) (by omega)).mp hne
  rw [getSceneAngle, getSceneAngle, setSceneAngle]
  split_ifs <;>
    simp only [Except.toOption, getD_some, getD_none,
      Registers.getDeviceConfig_setDeviceConfig, hindex, and_false, if_false]

variable {call : Call} {slot : Slot} {entry : Entry}

theorem modeRegister_step (hfits : call.Fits d m) :
    modeRegister d (step d m call) = modeRegister d m := by
  cases call with
  | setSceneValue scene value => exact modeRegister_setSceneValue
  | setSceneAngle scene angle => exact modeRegister_setSceneAngle
  | setDeviceSceneMode sceneId config =>
    exact (modeRegister_setDeviceSceneMode sceneId config).trans hfits

/-- A call that fits stores its entry, -/
theorem read_step (hfits : call.Fits d m) (hstored : call.stored d = some entry) :
    read d (step d m call) call.slot = .ok entry := by
  cases call with
  | setSceneValue scene value =>
    obtain rfl := some.inj hstored
    exact congrArg (Except.ok ∘ Entry.number) (getSceneValue_setSceneValue hfits.1 hfits.2)
  | setSceneAngle scene angle =>
    rw [Call.stored] at hstored
    split_ifs at hstored with haccepted
    obtain rfl := some.inj hstored
    obtain ⟨hfeature, hlow, hhigh⟩ := haccepted
    have hbyte := toNat_ofInt angle
    rw [Int.emod_eq_of_lt hlow (by omega)] at hbyte
    rw [step, setSceneAngle, hfeature, Bool.not_true, if_neg Bool.false_ne_true,
      if_neg (by omega), Call.slot, read, getSceneAngle, if_pos hfeature]
    simp only [Except.toOption, getD_some, Registers.getDeviceConfig_setDeviceConfig,
      and_self, if_true]
    exact congrArg (Except.ok ∘ Entry.number) hbyte
  | setDeviceSceneMode sceneId config =>
    obtain rfl := some.inj hstored
    exact congrArg (Except.ok ∘ Entry.mode) (modeRegister_setDeviceSceneMode sceneId config)

/-- and leaves all others. -/
theorem read_step_of_ne (hfits : call.Fits d m) (hne : slot ≠ call.slot) :
    read d (step d m call) slot = read d m slot := by
  have hmode (sceneId : UInt8) :
      read d (step d m call) (.mode sceneId) = read d m (.mode sceneId) :=
    congrArg (Except.ok ∘ Entry.mode) (modeRegister_step hfits)
  cases call with
  | setSceneValue scene value =>
    cases slot with
    | value scene' =>
      have hval : scene'.val ≠ scene := fun h => hne (congrArg Slot.value (Fin.ext h))
      rw [read, read, step, getSceneValue_setSceneValue_of_ne hval]
    | angle scene' => rw [read, read, step, getSceneAngle_setSceneValue]
    | mode sceneId => exact hmode sceneId
  | setSceneAngle scene angle =>
    cases slot with
    | value scene' => rw [read, read, step, getSceneValue_setSceneAngle]
    | angle scene' =>
      have hval : scene'.val ≠ scene := fun h => hne (congrArg Slot.angle (Fin.ext h))
      rw [read, read, step, getSceneAngle_setSceneAngle_of_ne hval]
    | mode sceneId => exact hmode sceneId
  | setDeviceSceneMode sceneId config =>
    cases slot with
    | value scene' => rw [read, read, step, getSceneValue_setDeviceSceneMode]
    | angle scene' => rw [read, read, step, getSceneAngle_setDeviceSceneMode]
    | mode sceneId' => exact hmode sceneId'

theorem step_of_not_stored (hstored : call.stored d = none) : step d m call = m := by
  cases call with
  | setSceneValue scene value => cases hstored
  | setSceneAngle scene angle =>
    rw [Call.stored] at hstored
    split_ifs at hstored with haccepted
    rw [step, setSceneAngle]
    split_ifs with hfeature hrange
    · rfl
    · rfl
    · exact absurd ⟨by simpa using hfeature, by omega, by omega⟩ haccepted
  | setDeviceSceneMode sceneId config => cases hstored

theorem getSceneValue_lt : getSceneValue d m (scene : ℕ) <
    if hasExtendendSceneTable d then 2 ^ 16 else 2 ^ 8 := by
  rw [getSceneValue_eq, shownValue, half]
  generalize m.getDeviceConfig cfgClassScene _ = high
  generalize m.getDeviceConfig cfgClassSceneExtention _ = extValue
  have hhigh := high.toNat_lt
  have hext := extValue.toNat_lt
  split_ifs <;> omega

end Step

/-! ### Runs -/

section Runs

variable {d : DeviceIDs} {m : Registers} {calls : List Call} {call : Call} {slot : Slot}
  {entry : Entry}

theorem run_concat (calls : List Call) (call : Call) :
    run d m (calls ++ [call]) = step d (run d m calls) call := by
  rw [run, foldl_append]
  rfl

theorem lastStored_concat : lastStored d slot (calls ++ [call]) =
    if call.slot = slot then (call.stored d).or (lastStored d slot calls)
    else lastStored d slot calls := by
  split_ifs with h
  · cases hstored : call.stored d <;> simp [lastStored, h, hstored]
  · simp [lastStored, h]

theorem fits_congr {m' : Registers} (h : modeRegister d m = modeRegister d m') :
    call.Fits d m ↔ call.Fits d m' := by
  cases call with
  | setSceneValue scene value => exact Iff.rfl
  | setSceneAngle scene angle => exact Iff.rfl
  | setDeviceSceneMode sceneId config =>
    rw [Call.Fits, Call.Fits, h]

theorem modeRegister_run (hfits : ∀ call ∈ calls, call.Fits d m) :
    modeRegister d (run d m calls) = modeRegister d m := by
  induction calls using reverseRecOn with
  | nil => rfl
  | append_singleton calls call ih =>
    have hcalls := ih fun other hother => hfits other (mem_append_left _ hother)
    have hcall := hfits call mem_concat_self
    rw [run_concat, modeRegister_step ((fits_congr hcalls).mpr hcall), hcalls]

theorem read_run (hfits : ∀ call ∈ calls, call.Fits d m)
    (hstored : lastStored d slot calls = some entry) : read d (run d m calls) slot = .ok entry := by
  induction calls using reverseRecOn with
  | nil => cases hstored
  | append_singleton calls call ih =>
    have hfits' : ∀ other ∈ calls, other.Fits d m :=
      fun other hother => hfits other (mem_append_left _ hother)
    have hcall := (fits_congr (modeRegister_run hfits')).mpr (hfits call mem_concat_self)
    rw [run_concat]
    rw [lastStored_concat] at hstored
    split_ifs at hstored with hslot
    · subst hslot
      cases hown : call.stored d with
      | none =>
        rw [hown] at hstored
        rw [step_of_not_stored hown, ih hfits' hstored]
      | some own =>
        rw [hown] at hstored
        exact read_step hcall (hown.trans hstored)
    · rw [read_step_of_ne hcall fun h => hslot h.symm, ih hfits' hstored]

/-- What the law says about one call, after calls that fit. -/
theorem fits_of_lawful (h : LawfulRun d m calls) {done : List Call}
    (hcalls : done ++ [call] <+: calls) (hdone : ∀ other ∈ done, other.Fits d m) :
    call.Fits d m := by
  cases call with
  | setSceneValue scene value =>
    have hread := h.reads _ hcalls (.value scene) _ (by
      rw [lastStored_concat, if_pos (by rfl)]
      exact some_or)
    have hlt : getSceneValue d (run d m (done ++ [.setSceneValue scene value])) (scene : ℕ) < _ :=
      getSceneValue_lt
    have hnumber := Entry.number.inj (Except.ok.inj hread)
    rw [Call.Fits]
    split_ifs at hlt hnumber ⊢ <;> omega
  | setSceneAngle scene angle => exact trivial
  | setDeviceSceneMode sceneId config =>
    have hother : (Slot.mode (sceneId + 1)).scene ≠ (Slot.mode sceneId).scene := fun h => by
      have heq : sceneId + 1 = sceneId := UInt8.toNat_inj.mp h
      simp at heq
    have hread := h.others done _ hcalls (.mode (sceneId + 1)) hother
    have hmode : modeRegister d (run d m (done ++ [.setDeviceSceneMode sceneId config])) =
        modeRegister d (run d m done) := Entry.mode.inj (Except.ok.inj hread)
    rw [run_concat, modeRegister_run hdone] at hmode
    exact (modeRegister_setDeviceSceneMode sceneId config).symm.trans hmode

end Runs

/-- **The scene table.** A run is lawful iff each value fits into the table, and no call changes the
one mode. -/
theorem sceneTable_lawful_iff (d : DeviceIDs) (m : Registers) (calls : List Call) :
    LawfulRun d m calls ↔ ∀ call ∈ calls, call.Fits d m := by
  constructor
  · intro h
    have hall : ∀ done, done <+: calls → ∀ call ∈ done, call.Fits d m := by
      intro done
      induction done using reverseRecOn with
      | nil => exact fun _ call hcall => absurd hcall not_mem_nil
      | append_singleton done call ih =>
        intro hcalls other hother
        have hdone := ih ((prefix_append _ _).trans hcalls)
        rcases mem_append.mp hother with hother | hother
        · exact hdone other hother
        · rw [mem_singleton.mp hother]
          exact fits_of_lawful h hcalls hdone
    exact hall calls (prefix_refl calls)
  · refine fun hfits => ⟨fun done hdone slot entry => ?_, fun done call hdone slot hne => ?_⟩
    · exact read_run fun call hcall => hfits call (hdone.mem hcall)
    · have hdone' : ∀ other ∈ done, other.Fits d m :=
        fun other hother => hfits other (hdone.mem (mem_append_left _ hother))
      have hcall := (fits_congr (modeRegister_run hdone')).mpr
        (hfits call (hdone.mem mem_concat_self))
      rw [run_concat, read_step_of_ne hcall fun h => hne (congrArg Slot.scene h)]

/-- The mode of scene 0 is the mode of scene 1. -/
theorem sceneTable_lawful_fails :
    ¬LawfulRun ⟨1, 0x1000⟩ ⟨fun _ _ => 0, fun _ => 0⟩
      [.setDeviceSceneMode 0 ⟨true, false, false, false, 0, 0⟩] := by
  intro h
  have hother := h.others [] _ (prefix_refl _) (.mode 1) (by decide)
  exact absurd hother (by decide)

end DeviceRegisters

end Dss
