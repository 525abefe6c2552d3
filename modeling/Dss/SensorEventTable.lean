import Dss.DeviceRegisters
import Dss.PropertyPath

/-!
# The sensor event table

An entry is packed into six registers, most of its fields into a few bits. The setter for the
generic layout checks none of them, writes the last register only for a button, and does not store
the scene or the minimal duration; the one for the ZWS205 checks three, and does not store the name.
What the getter for the generic layout does not read stays as it is in the variable.
-/

namespace Dss

namespace SensorEventTable

open DeviceRegisters

/-- `DeviceSensorEventSpec_t` -/
@[ext]
structure SensorEventSpec : Type where
  name : String := ""
  sensorIndex : UInt8 := 0
  test : UInt8 := 0
  action : UInt8 := 0
  value : UInt16 := 0
  hysteresis : UInt16 := 0
  sceneDeviceMode : UInt8 := 0
  validity : UInt8 := 0
  buttonNumber : UInt8 := 0
  clickType : UInt8 := 0
  sceneID : UInt8 := 0
  minimalDuration : UInt8 := 0
  deriving DecidableEq

structure Device : Type where
  registers : Registers
  productID : ℕ
  revisionID : ℕ
  /-- the nodes below `sensorEvents`, if the device is in the property tree -/
  names : Option (ℕ → Option String)

/-! ## The code -/

def cfgClassSensorEvent : UInt8 := 0x06

def cfgFSensorEvent_TableSize : ℕ := 6

namespace Device

variable (device : Device)

def isZws205 : Bool :=
  device.productID ≠ 0 && device.productID / 1024 % 64 = 5 && device.productID % 1024 = 205

def setDeviceConfig (index : ℕ) (value : UInt8) : Device :=
  { device with registers :=
      device.registers.setDeviceConfig cfgClassSensorEvent (UInt8.ofNat index) value }

def getDeviceConfig (index : ℕ) : UInt8 :=
  device.registers.getDeviceConfig cfgClassSensorEvent (UInt8.ofNat index)

def getDeviceConfigWord (index : ℕ) : UInt16 :=
  device.registers.getDeviceConfigWord cfgClassSensorEvent (UInt8.ofNat index)

def getSensorEventName (eventIndex : ℕ) : String :=
  (device.names.bind fun names => names eventIndex).getD ""

def setSensorEventName (eventIndex : ℕ) (name : String) : Device :=
  { device with names := device.names.map fun names i =>
      if i = eventIndex then if name = "" then none else some (cString name) else names i }

def minimalDurationOffset (row : ℕ) : ℕ := if row = 0 then 0x30 else 0x32

def exceeded : Exception := .runtimeError "row index exceeds table size"

def onlyOnOff : Exception := .runtimeError "ZWS205 only supports on/off consumption event"

def getSensorEventTableEntryZws205 (row : ℕ) : Except Exception SensorEventSpec :=
  if ¬row < 2 then .error onlyOnOff
  else
    let value0_1 := device.getDeviceConfigWord (row * cfgFSensorEvent_TableSize)
    let value2_3 := device.getDeviceConfigWord (row * cfgFSensorEvent_TableSize + 2)
    .ok {
      name := device.getSensorEventName row
      action := (value0_1 &&& 0x0003).toUInt8
      test := ((value0_1 &&& 0x000C) >>> 2).toUInt8
      sensorIndex := ((value0_1 &&& 0x00F0) >>> 4).toUInt8
      value := ((value0_1 &&& 0xFF00) ||| (value2_3 &&& 0x00F0)) >>> 4
      hysteresis := 0
      minimalDuration := device.getDeviceConfig (minimalDurationOffset row) }

/-- `getSensorEventEntry`, into a variable. -/
def getSensorEventEntry (eventIndex : ℕ) (entry : SensorEventSpec) :
    Except Exception SensorEventSpec :=
  if ¬eventIndex ≤ 7 then .error exceeded
  else if device.isZws205 then device.getSensorEventTableEntryZws205 eventIndex
  else
    let value0_1 := device.getDeviceConfigWord (cfgFSensorEvent_TableSize * eventIndex)
    let value2_3 := device.getDeviceConfigWord (cfgFSensorEvent_TableSize * eventIndex + 2)
    let value4_5 := device.getDeviceConfigWord (cfgFSensorEvent_TableSize * eventIndex + 4)
    .ok { entry with
      name := device.getSensorEventName eventIndex
      sensorIndex := ((value0_1 &&& 0x00F0) >>> 4).toUInt8
      test := ((value0_1 &&& 0x000C) >>> 2).toUInt8
      action := (value0_1 &&& 0x0003).toUInt8
      value := (value0_1 &&& 0xFF00) >>> 4 ||| (value2_3 &&& 0x00F0) >>> 4
      hysteresis := (value2_3 &&& 0x000F) <<< 8 ||| (value2_3 &&& 0xFF00) >>> 8
      sceneDeviceMode := ((value4_5 &&& 0x000C) >>> 2).toUInt8
      validity := (value4_5 &&& 0x0003).toUInt8
      buttonNumber := ((value4_5 &&& 0xF000) >>> 12).toUInt8
      clickType := ((value4_5 &&& 0x0F00) >>> 8).toUInt8
      sceneID := ((value4_5 &&& 0x7F00) >>> 8).toUInt8 }

def setSensorEventTableEntryZws205 (row : ℕ) (entry : SensorEventSpec) : Except Exception Device :=
  if ¬row < 2 then .error onlyOnOff
  else if entry.test = 0x3 then .error (.runtimeError "invalid comparison operator")
  else if ¬(entry.action = 0 ∨ entry.action = 0x3) then .error (.runtimeError "on/off action only")
  else if entry.value < 5 then .error (.runtimeError "ZWS205 has 5W lower bound limit")
  else
    let offset0 := entry.sensorIndex <<< 4 ||| entry.test <<< 2 ||| entry.action
    let offset1 := ((entry.value &&& 0xFF0) >>> 4).toUInt8
    let offset2 := ((entry.value &&& 0x00F) <<< 4).toUInt8
    let base := row * cfgFSensorEvent_TableSize
    .ok ((((((device.setDeviceConfig base offset0).setDeviceConfig (base + 1) offset1).setDeviceConfig
      (base + 2) offset2).setDeviceConfig (base + 3) 0).setDeviceConfig (base + 4) 0).setDeviceConfig
      (minimalDurationOffset row) entry.minimalDuration)

/-- The bytes of an entry, without the one for a button. -/
def writeEntry (base : ℕ) (entry : SensorEventSpec) : Device :=
  let value0 := entry.sensorIndex <<< 4 ||| entry.test <<< 2 ||| entry.action
  let value1 := ((entry.value &&& 0xFF0) >>> 4).toUInt8
  let value2 := ((entry.value &&& 0x00F) <<< 4 ||| (entry.hysteresis &&& 0xF00) >>> 8).toUInt8
  let value3 := (entry.hysteresis &&& 0x0FF).toUInt8
  let value4 := (entry.sceneDeviceMode &&& 0x03) <<< 2 ||| (entry.validity &&& 0x03)
  ((((device.setDeviceConfig base value0).setDeviceConfig (base + 1) value1).setDeviceConfig
    (base + 2) value2).setDeviceConfig (base + 3) value3).setDeviceConfig (base + 4) value4

def setSensorEventEntry (eventIndex : ℕ) (entry : SensorEventSpec) : Except Exception Device :=
  if ¬eventIndex ≤ 7 then .error exceeded
  else if device.isZws205 then device.setSensorEventTableEntryZws205 eventIndex entry
  else
    -- older devices have a bug
    let hysteresis := if device.revisionID < 0x0328 then 0 else entry.hysteresis
    let base := cfgFSensorEvent_TableSize * eventIndex
    let written := (device.setSensorEventName eventIndex entry.name).writeEntry base
      { entry with hysteresis := hysteresis }
    .ok (if entry.action = 2 then
        written.setDeviceConfig (base + 5) (entry.buttonNumber <<< 4 ||| entry.clickType)
      else written)

end Device

/-! ## The law -/

/-- An entry that is accepted is read back; where it cannot be, it is refused, and nothing is
written. -/
def RoundTrips (device : Device) (eventIndex : ℕ) (old entry : SensorEventSpec) : Prop :=
  ∀ device', device.setSensorEventEntry eventIndex entry = .ok device' →
    device'.getSensorEventEntry eventIndex old = .ok entry

/-- The last byte of the entry, once it is written. -/
def buttonByte (device : Device) (eventIndex : ℕ) (entry : SensorEventSpec) : UInt8 :=
  if entry.action = 2 then entry.buttonNumber <<< 4 ||| entry.clickType
  else device.getDeviceConfig (cfgFSensorEvent_TableSize * eventIndex + 5)

/-- Each field fits into its bits, what is not stored is there already, and the last byte shows the
button and the scene. -/
structure FitsGeneric (device : Device) (eventIndex : ℕ) (old entry : SensorEventSpec) : Prop where
  name : if device.names.isSome then cString entry.name = entry.name else entry.name = ""
  sensorIndex : entry.sensorIndex < 16
  test : entry.test < 4
  action : entry.action < 4
  value : entry.value < 0x1000
  hysteresis : entry.hysteresis < 0x1000
  older : device.revisionID < 0x0328 → entry.hysteresis = 0
  sceneDeviceMode : entry.sceneDeviceMode < 4
  validity : entry.validity < 4
  buttonNumber : entry.buttonNumber = buttonByte device eventIndex entry >>> 4
  clickType : entry.clickType = buttonByte device eventIndex entry &&& 0x0F
  sceneID : entry.sceneID = buttonByte device eventIndex entry &&& 0x7F
  minimalDuration : entry.minimalDuration = old.minimalDuration

/-- What the ZWS205 stores fits into its bits, and the rest is as in a new entry. -/
structure FitsZws205 (device : Device) (eventIndex : ℕ) (entry : SensorEventSpec) : Prop where
  name : entry.name = device.getSensorEventName eventIndex
  sensorIndex : entry.sensorIndex < 16
  test : entry.test < 4
  value : entry.value < 0x1000
  hysteresis : entry.hysteresis = 0
  sceneDeviceMode : entry.sceneDeviceMode = 0
  validity : entry.validity = 0
  buttonNumber : entry.buttonNumber = 0
  clickType : entry.clickType = 0
  sceneID : entry.sceneID = 0

/-- The checks for a ZWS205. -/
structure Accepted (row : ℕ) (entry : SensorEventSpec) : Prop where
  row : row < 2
  test : entry.test ≠ 3
  action : entry.action = 0 ∨ entry.action = 3
  value : ¬entry.value < 5

/-- When an entry that is not refused is read back. -/
def Fits (device : Device) (eventIndex : ℕ) (old entry : SensorEventSpec) : Prop :=
  if device.isZws205 then Accepted eventIndex entry → FitsZws205 device eventIndex entry
  else eventIndex ≤ 7 → FitsGeneric device eventIndex old entry

/-! ## Bits -/

section Bits

theorem fields_of_word (low high : UInt8) (w : UInt16)
    (hw : w = low.toUInt16 ||| high.toUInt16 <<< 8) :
    ((w &&& 0x00F0) >>> 4).toUInt8 = low >>> 4 ∧ ((w &&& 0x000C) >>> 2).toUInt8 = low >>> 2 &&& 3 ∧
      (w &&& 0x0003).toUInt8 = low &&& 3 ∧ ((w &&& 0xF000) >>> 12).toUInt8 = high >>> 4 ∧
      ((w &&& 0x0F00) >>> 8).toUInt8 = high &&& 0x0F ∧
      ((w &&& 0x7F00) >>> 8).toUInt8 = high &&& 0x7F := by
  subst hw
  refine ⟨?_, ?_, ?_, ?_, ?_, ?_⟩ <;> apply UInt8.eq_of_toBitVec_eq <;>
    apply BitVec.eq_of_getLsbD_eq <;> intro k hk <;> interval_cases k <;> simp

/-- The two numbers of twelve bits, in the last three of four bytes. -/
theorem numbers_of_words (value hysteresis : UInt16) (low : UInt8) (w w' : UInt16)
    (hw : w = low.toUInt16 ||| ((value &&& 0xFF0) >>> 4).toUInt8.toUInt16 <<< 8)
    (hw' : w' = ((value &&& 0x00F) <<< 4 ||| (hysteresis &&& 0xF00) >>> 8).toUInt8.toUInt16 |||
      (hysteresis &&& 0x0FF).toUInt8.toUInt16 <<< 8) :
    (w &&& 0xFF00) >>> 4 ||| (w' &&& 0x00F0) >>> 4 = value &&& 0xFFF ∧
      (w' &&& 0x000F) <<< 8 ||| (w' &&& 0xFF00) >>> 8 = hysteresis &&& 0xFFF := by
  subst hw hw'
  constructor <;> apply UInt16.eq_of_toBitVec_eq <;>
    simp only [UInt16.toBitVec_or, UInt16.toBitVec_and, UInt16.toBitVec_shiftLeft,
      UInt16.toBitVec_shiftRight, UInt8.toBitVec_toUInt16, UInt16.toBitVec_toUInt8] <;>
    apply BitVec.eq_of_getLsbD_eq <;> intro k hk <;> interval_cases k <;> simp

theorem firstByte_iff (sensorIndex test action b : UInt8)
    (hb : b = sensorIndex <<< 4 ||| test <<< 2 ||| action) :
    (b >>> 4 = sensorIndex ∧ b >>> 2 &&& 3 = test ∧ b &&& 3 = action) ↔
      sensorIndex < 16 ∧ test < 4 ∧ action < 4 := by
  have hsmall : ∀ n < 256, UInt8.ofNat n >>> 4 < 16 ∧ UInt8.ofNat n >>> 2 &&& 3 < 4 ∧
      UInt8.ofNat n &&& 3 < 4 := by
    decide +kernel
  have hexact : ∀ i : Fin 16, ∀ j k : Fin 4,
      let b := UInt8.ofNat i <<< 4 ||| UInt8.ofNat j <<< 2 ||| UInt8.ofNat k
      b >>> 4 = UInt8.ofNat i ∧ b >>> 2 &&& 3 = UInt8.ofNat j ∧ b &&& 3 = UInt8.ofNat k := by
    decide +kernel
  constructor
  · rintro ⟨rfl, rfl, rfl⟩
    have h := hsmall b.toNat b.toNat_lt
    rwa [UInt8.ofNat_toNat] at h
  · rintro ⟨hsensor, htest, haction⟩
    have h := hexact ⟨_, UInt8.lt_iff_toNat_lt.mp hsensor⟩ ⟨_, UInt8.lt_iff_toNat_lt.mp htest⟩
      ⟨_, UInt8.lt_iff_toNat_lt.mp haction⟩
    simp only [UInt8.ofNat_toNat] at h
    rwa [hb]

theorem fourthByte (mode validity b : UInt8) (hb : b = (mode &&& 0x03) <<< 2 ||| (validity &&& 0x03)) :
    b >>> 2 &&& 3 = mode &&& 3 ∧ b &&& 3 = validity &&& 3 := by
  subst hb
  constructor <;> apply UInt8.eq_of_toBitVec_eq <;> apply BitVec.eq_of_getLsbD_eq <;>
    intro k hk <;> interval_cases k <;> simp

theorem and_three_eq_iff (x : UInt8) : x &&& 3 = x ↔ x < 4 := by
  have hall : ∀ n < 256, UInt8.ofNat n &&& 3 = UInt8.ofNat n ↔ UInt8.ofNat n < 4 := by
    decide +kernel
  have hx := hall x.toNat x.toNat_lt
  rwa [UInt8.ofNat_toNat] at hx

theorem and_fff_eq_iff (x : UInt16) : x &&& 0xFFF = x ↔ x < 0x1000 := by
  rw [← UInt16.toNat_inj, UInt16.toNat_and]
  have hmod : x.toNat &&& (0xFFF : UInt16).toNat = x.toNat % 0x1000 :=
    Nat.and_two_pow_sub_one_eq_mod x.toNat 12
  rw [hmod]
  exact Nat.mod_eq_iff_lt (by decide)

end Bits

/-! ## Reading what is written -/

namespace Device

variable {device : Device} {i j : ℕ} {value : UInt8}

theorem getDeviceConfig_setDeviceConfig_self :
    (device.setDeviceConfig i value).getDeviceConfig i = value := if_pos ⟨rfl, rfl⟩

theorem getDeviceConfig_setDeviceConfig_of_ne (hi : i < 256) (hj : j < 256) (hne : j ≠ i) :
    (device.setDeviceConfig i value).getDeviceConfig j = device.getDeviceConfig j := by
  refine if_neg fun h => hne ?_
  have hnat := congrArg UInt8.toNat h.2
  rwa [UInt8.toNat_ofNat_of_lt' hj, UInt8.toNat_ofNat_of_lt' hi] at hnat

theorem getDeviceConfigWord_eq : device.getDeviceConfigWord i =
    (device.getDeviceConfig i).toUInt16 ||| (device.getDeviceConfig (i + 1)).toUInt16 <<< 8 := by
  have hadd : UInt8.ofNat (i + 1) = UInt8.ofNat i + 1 := UInt8.ofNat_add i 1
  rw [getDeviceConfig, getDeviceConfig, hadd]
  rfl

theorem getSensorEventName_setSensorEventName {eventIndex : ℕ} {name : String} :
    (device.setSensorEventName eventIndex name).getSensorEventName eventIndex =
      if device.names.isSome then cString name else "" := by
  rw [getSensorEventName, setSensorEventName]
  cases device.names with
  | none => rfl
  | some names =>
    by_cases hname : name = ""
    · simp [hname, cString]
    · simp [hname]

end Device

section Generic

variable {device : Device} {eventIndex : ℕ} {old entry : SensorEventSpec}

/-- What the getter for the generic layout returns once an entry is written. -/
def shown (device : Device) (eventIndex : ℕ) (old entry : SensorEventSpec) : SensorEventSpec :=
  let value0 := entry.sensorIndex <<< 4 ||| entry.test <<< 2 ||| entry.action
  let button := buttonByte device eventIndex entry
  { name := if device.names.isSome then cString entry.name else ""
    sensorIndex := value0 >>> 4
    test := value0 >>> 2 &&& 3
    action := value0 &&& 3
    value := entry.value &&& 0xFFF
    hysteresis := (if device.revisionID < 0x0328 then 0 else entry.hysteresis) &&& 0xFFF
    sceneDeviceMode := entry.sceneDeviceMode &&& 3
    validity := entry.validity &&& 3
    buttonNumber := button >>> 4
    clickType := button &&& 0x0F
    sceneID := button &&& 0x7F
    minimalDuration := old.minimalDuration }

theorem getDeviceConfig_writeEntry (device : Device) (entry : SensorEventSpec) {base : ℕ}
    (hbase : base + 5 < 256) :
    (device.writeEntry base entry).getDeviceConfig base =
        entry.sensorIndex <<< 4 ||| entry.test <<< 2 ||| entry.action ∧
      (device.writeEntry base entry).getDeviceConfig (base + 1) =
        ((entry.value &&& 0xFF0) >>> 4).toUInt8 ∧
      (device.writeEntry base entry).getDeviceConfig (base + 2) =
        ((entry.value &&& 0x00F) <<< 4 ||| (entry.hysteresis &&& 0xF00) >>> 8).toUInt8 ∧
      (device.writeEntry base entry).getDeviceConfig (base + 3) =
        (entry.hysteresis &&& 0x0FF).toUInt8 ∧
      (device.writeEntry base entry).getDeviceConfig (base + 4) =
        (entry.sceneDeviceMode &&& 0x03) <<< 2 ||| (entry.validity &&& 0x03) ∧
      (device.writeEntry base entry).getDeviceConfig (base + 5) =
        device.getDeviceConfig (base + 5) := by
  rw [Device.writeEntry]
  refine ⟨?_, ?_, ?_, ?_, ?_, ?_⟩ <;>
    simp (disch := omega) only [Device.getDeviceConfig_setDeviceConfig_self,
      Device.getDeviceConfig_setDeviceConfig_of_ne]

/-- What the first four registers show. -/
theorem words_eq {base : ℕ} {value0 : UInt8} {value hysteresis : UInt16}
    (h0 : device.getDeviceConfig base = value0)
    (h1 : device.getDeviceConfig (base + 1) = ((value &&& 0xFF0) >>> 4).toUInt8)
    (h2 : device.getDeviceConfig (base + 2) =
      ((value &&& 0x00F) <<< 4 ||| (hysteresis &&& 0xF00) >>> 8).toUInt8)
    (h3 : device.getDeviceConfig (base + 3) = (hysteresis &&& 0x0FF).toUInt8) :
    let value0_1 := device.getDeviceConfigWord base
    let value2_3 := device.getDeviceConfigWord (base + 2)
    ((value0_1 &&& 0x00F0) >>> 4).toUInt8 = value0 >>> 4 ∧
      ((value0_1 &&& 0x000C) >>> 2).toUInt8 = value0 >>> 2 &&& 3 ∧
      (value0_1 &&& 0x0003).toUInt8 = value0 &&& 3 ∧
      (value0_1 &&& 0xFF00) >>> 4 ||| (value2_3 &&& 0x00F0) >>> 4 = value &&& 0xFFF ∧
      (value2_3 &&& 0x000F) <<< 8 ||| (value2_3 &&& 0xFF00) >>> 8 = hysteresis &&& 0xFFF := by
  rw [Device.getDeviceConfigWord_eq, Device.getDeviceConfigWord_eq, h0, h1, h2, h3]
  obtain ⟨hsensor, htest, haction, -⟩ := fields_of_word value0 _ _ rfl
  exact ⟨hsensor, htest, haction, numbers_of_words value hysteresis value0 _ _ rfl rfl⟩

/-- What all six show. -/
theorem getSensorEventEntry_eq (hkind : device.isZws205 = false) (hindex : eventIndex ≤ 7)
    {base : ℕ} {value0 value4 button : UInt8} {value hysteresis : UInt16}
    (hbase : cfgFSensorEvent_TableSize * eventIndex = base)
    (h0 : device.getDeviceConfig base = value0)
    (h1 : device.getDeviceConfig (base + 1) = ((value &&& 0xFF0) >>> 4).toUInt8)
    (h2 : device.getDeviceConfig (base + 2) =
      ((value &&& 0x00F) <<< 4 ||| (hysteresis &&& 0xF00) >>> 8).toUInt8)
    (h3 : device.getDeviceConfig (base + 3) = (hysteresis &&& 0x0FF).toUInt8)
    (h4 : device.getDeviceConfig (base + 4) = value4)
    (h5 : device.getDeviceConfig (base + 5) = button) :
    device.getSensorEventEntry eventIndex old = .ok
      { name := device.getSensorEventName eventIndex
        sensorIndex := value0 >>> 4
        test := value0 >>> 2 &&& 3
        action := value0 &&& 3
        value := value &&& 0xFFF
        hysteresis := hysteresis &&& 0xFFF
        sceneDeviceMode := value4 >>> 2 &&& 3
        validity := value4 &&& 3
        buttonNumber := button >>> 4
        clickType := button &&& 0x0F
        sceneID := button &&& 0x7F
        minimalDuration := old.minimalDuration } := by
  obtain ⟨hsensor, htest, haction, hvalue, hhysteresis⟩ := words_eq h0 h1 h2 h3
  obtain ⟨-, hmode, hvalidity, hbutton, hclick, hscene⟩ :=
    fields_of_word value4 button (device.getDeviceConfigWord (base + 4)) (by
      rw [Device.getDeviceConfigWord_eq, h4, h5])
  rw [Device.getSensorEventEntry, if_neg (not_not_intro hindex), hkind, if_neg Bool.false_ne_true,
    hbase]
  dsimp only
  rw [hsensor, htest, haction, hvalue, hhysteresis, hmode, hvalidity, hbutton, hclick, hscene]

theorem getSensorEventEntry_written (hkind : device.isZws205 = false) (hindex : eventIndex ≤ 7) :
    ∃ device', device.setSensorEventEntry eventIndex entry = .ok device' ∧
      device'.getSensorEventEntry eventIndex old = .ok (shown device eventIndex old entry) := by
  rw [Device.setSensorEventEntry, if_neg (not_not_intro hindex), hkind]
  refine ⟨_, rfl, ?_⟩
  have hbase : cfgFSensorEvent_TableSize * eventIndex + 5 < 256 := by
    rw [cfgFSensorEvent_TableSize]
    omega
  generalize hhysteresis : (if device.revisionID < 0x0328 then 0 else entry.hysteresis) = hysteresis
  obtain ⟨h0, h1, h2, h3, h4, h5⟩ := getDeviceConfig_writeEntry
    (device.setSensorEventName eventIndex entry.name) { entry with hysteresis } hbase
  generalize hvalue4 : (entry.sceneDeviceMode &&& 0x03) <<< 2 ||| (entry.validity &&& 0x03) = value4
    at h4
  obtain ⟨hmode, hvalidity⟩ := fourthByte entry.sceneDeviceMode entry.validity value4 hvalue4.symm
  generalize hwritten : (device.setSensorEventName eventIndex entry.name).writeEntry
    (cfgFSensorEvent_TableSize * eventIndex) { entry with hysteresis } = written at h0 h1 h2 h3 h4 h5 ⊢
  have hname : written.getSensorEventName eventIndex =
      if device.names.isSome then cString entry.name else "" := by
    rw [← hwritten]
    exact Device.getSensorEventName_setSensorEventName
  have hkind' : written.isZws205 = false := by
    rw [← hwritten]
    exact hkind
  rw [shown, ← hname, hhysteresis, buttonByte, ← hmode, ← hvalidity]
  split_ifs with haction
  · generalize hbutton : entry.buttonNumber <<< 4 ||| entry.clickType = button
    have hother {k : ℕ} (hk : k < 5) : (written.setDeviceConfig
          (cfgFSensorEvent_TableSize * eventIndex + 5) button).getDeviceConfig
        (cfgFSensorEvent_TableSize * eventIndex + k) =
        written.getDeviceConfig (cfgFSensorEvent_TableSize * eventIndex + k) :=
      Device.getDeviceConfig_setDeviceConfig_of_ne hbase (by omega) (by omega)
    have hkind'' : (written.setDeviceConfig (cfgFSensorEvent_TableSize * eventIndex + 5)
        button).isZws205 = false := hkind'
    exact getSensorEventEntry_eq hkind'' hindex rfl ((hother (by decide : 0 < 5)).trans h0)
      ((hother (by decide)).trans h1) ((hother (by decide)).trans h2) ((hother (by decide)).trans h3)
      ((hother (by decide)).trans h4) Device.getDeviceConfig_setDeviceConfig_self
  · exact getSensorEventEntry_eq hkind' hindex rfl h0 h1 h2 h3 h4 h5

theorem shown_hysteresis_iff :
    (if device.revisionID < 0x0328 then 0 else entry.hysteresis) &&& 0xFFF = entry.hysteresis ↔
      entry.hysteresis < 0x1000 ∧ (device.revisionID < 0x0328 → entry.hysteresis = 0) := by
  split_ifs with holder
  · rw [eq_comm]
    exact ⟨fun h => ⟨h ▸ by decide, fun _ => h⟩, fun h => h.2 holder⟩
  · rw [and_fff_eq_iff]
    exact ⟨fun h => ⟨h, fun h' => absurd h' holder⟩, fun h => h.1⟩

theorem shown_name_iff : (if device.names.isSome then cString entry.name else "") = entry.name ↔
    if device.names.isSome then cString entry.name = entry.name else entry.name = "" := by
  split_ifs
  · exact Iff.rfl
  · exact eq_comm

theorem shown_eq_iff :
    shown device eventIndex old entry = entry ↔ FitsGeneric device eventIndex old entry := by
  have hfirst := firstByte_iff entry.sensorIndex entry.test entry.action _ rfl
  rw [SensorEventSpec.ext_iff]
  constructor
  · rintro ⟨hname, hsensor, htest, haction, hvalue, hhysteresis, hmode, hvalidity, hbutton, hclick,
      hscene, hduration⟩
    obtain ⟨hsensor', htest', haction'⟩ := hfirst.mp ⟨hsensor, htest, haction⟩
    obtain ⟨hhysteresis', holder⟩ := shown_hysteresis_iff.1 hhysteresis
    exact ⟨shown_name_iff.1 hname, hsensor', htest', haction', (and_fff_eq_iff _).mp hvalue,
      hhysteresis', holder, (and_three_eq_iff _).mp hmode, (and_three_eq_iff _).mp hvalidity,
      hbutton.symm, hclick.symm, hscene.symm, hduration.symm⟩
  · intro h
    obtain ⟨hsensor, htest, haction⟩ := hfirst.mpr ⟨h.sensorIndex, h.test, h.action⟩
    exact ⟨shown_name_iff.2 h.name, hsensor, htest, haction, (and_fff_eq_iff _).mpr h.value,
      shown_hysteresis_iff.2 ⟨h.hysteresis, h.older⟩, (and_three_eq_iff _).mpr h.sceneDeviceMode,
      (and_three_eq_iff _).mpr h.validity, h.buttonNumber.symm, h.clickType.symm, h.sceneID.symm,
      h.minimalDuration.symm⟩

theorem roundTrips_generic_iff (hkind : device.isZws205 = false) :
    RoundTrips device eventIndex old entry ↔
      (eventIndex ≤ 7 → FitsGeneric device eventIndex old entry) := by
  by_cases hindex : eventIndex ≤ 7
  · obtain ⟨device', hset, hget⟩ := getSensorEventEntry_written hkind hindex
    rw [forall_prop_of_true hindex, ← shown_eq_iff]
    constructor
    · intro h
      exact Except.ok.inj (hget.symm.trans (h device' hset))
    · intro h other hother
      rw [← Except.ok.inj (hset.symm.trans hother), hget, h]
  · refine iff_of_true (fun device' hset => ?_) fun h => absurd h hindex
    rw [Device.setSensorEventEntry, if_pos hindex] at hset
    cases hset

end Generic

/-! ## The ZWS205 -/

section Zws205

variable {device : Device} {row : ℕ} {old entry : SensorEventSpec}

theorem setSensorEventEntry_refused (hkind : device.isZws205 = true) (h : ¬Accepted row entry)
    (device' : Device) : device.setSensorEventEntry row entry ≠ .ok device' := by
  intro hset
  rw [Device.setSensorEventEntry, hkind, if_pos rfl, Device.setSensorEventTableEntryZws205] at hset
  split_ifs at hset with hindex hrow htest haction hvalue
  exact h ⟨hrow, htest, haction, hvalue⟩

/-- What the getter for the ZWS205 returns once an entry is written. -/
def shownZws205 (device : Device) (row : ℕ) (entry : SensorEventSpec) : SensorEventSpec :=
  let value0 := entry.sensorIndex <<< 4 ||| entry.test <<< 2 ||| entry.action
  { name := device.getSensorEventName row
    sensorIndex := value0 >>> 4
    test := value0 >>> 2 &&& 3
    action := value0 &&& 3
    value := entry.value &&& 0xFFF
    minimalDuration := entry.minimalDuration }

theorem getSensorEventEntry_writtenZws205 (hkind : device.isZws205 = true)
    (h : Accepted row entry) :
    ∃ device', device.setSensorEventEntry row entry = .ok device' ∧
      device'.getSensorEventEntry row old = .ok (shownZws205 device row entry) := by
  have hrow := h.row
  rw [Device.setSensorEventEntry, if_neg (not_not_intro (by omega)), hkind,
    Device.setSensorEventTableEntryZws205, if_neg (not_not_intro hrow), if_neg h.test,
    if_neg (not_not_intro h.action), if_neg h.value]
  refine ⟨_, rfl, ?_⟩
  generalize hwritten : Device.setDeviceConfig (Device.setDeviceConfig _ _ _) _ _ = written
  have hname : written.getSensorEventName row = device.getSensorEventName row := by
    rw [← hwritten]
    rfl
  have hkind' : written.isZws205 = true := by
    rw [← hwritten]
    exact hkind
  have hbytes : written.getDeviceConfig (row * cfgFSensorEvent_TableSize) =
        entry.sensorIndex <<< 4 ||| entry.test <<< 2 ||| entry.action ∧
      written.getDeviceConfig (row * cfgFSensorEvent_TableSize + 1) =
        ((entry.value &&& 0xFF0) >>> 4).toUInt8 ∧
      written.getDeviceConfig (row * cfgFSensorEvent_TableSize + 2) =
        ((entry.value &&& 0x00F) <<< 4).toUInt8 ∧
      written.getDeviceConfig (row * cfgFSensorEvent_TableSize + 3) = 0 ∧
      written.getDeviceConfig (Device.minimalDurationOffset row) = entry.minimalDuration := by
    rw [← hwritten, cfgFSensorEvent_TableSize, Device.minimalDurationOffset]
    refine ⟨?_, ?_, ?_, ?_, ?_⟩ <;> split_ifs <;>
      simp (disch := omega) only [Device.getDeviceConfig_setDeviceConfig_self,
        Device.getDeviceConfig_setDeviceConfig_of_ne]
  obtain ⟨h0, h1, h2, h3, hduration⟩ := hbytes
  have hzero : ((entry.value &&& 0x00F) <<< 4).toUInt8 =
      ((entry.value &&& 0x00F) <<< 4 ||| ((0 : UInt16) &&& 0xF00) >>> 8).toUInt8 :=
    congrArg UInt16.toUInt8 UInt16.or_zero.symm
  obtain ⟨hsensor, htest, haction, hvalue, -⟩ := words_eq h0 h1 (h2.trans hzero) h3
  rw [Device.getSensorEventEntry, if_neg (not_not_intro (by omega)), hkind', if_pos rfl,
    Device.getSensorEventTableEntryZws205, if_neg (not_not_intro hrow)]
  dsimp only
  rw [hsensor, htest, haction, UInt16.shiftRight_or, hvalue, hduration, hname, shownZws205]

theorem shownZws205_eq_iff (h : Accepted row entry) :
    shownZws205 device row entry = entry ↔ FitsZws205 device row entry := by
  have hfirst := firstByte_iff entry.sensorIndex entry.test entry.action _ rfl
  have haction : entry.action < 4 := by
    rcases h.action with h | h <;> rw [h] <;> decide
  rw [SensorEventSpec.ext_iff]
  constructor
  · rintro ⟨hname, hsensor, htest, haction, hvalue, hhysteresis, hmode, hvalidity, hbutton, hclick,
      hscene, -⟩
    obtain ⟨hsensor', htest', -⟩ := hfirst.mp ⟨hsensor, htest, haction⟩
    exact ⟨hname.symm, hsensor', htest', (and_fff_eq_iff _).mp hvalue, hhysteresis.symm, hmode.symm,
      hvalidity.symm, hbutton.symm, hclick.symm, hscene.symm⟩
  · intro h
    obtain ⟨hsensor, htest, haction⟩ := hfirst.mpr ⟨h.sensorIndex, h.test, haction⟩
    exact ⟨h.name.symm, hsensor, htest, haction, (and_fff_eq_iff _).mpr h.value, h.hysteresis.symm,
      h.sceneDeviceMode.symm, h.validity.symm, h.buttonNumber.symm, h.clickType.symm,
      h.sceneID.symm, rfl⟩

theorem roundTrips_zws205_iff (hkind : device.isZws205 = true) :
    RoundTrips device row old entry ↔ (Accepted row entry → FitsZws205 device row entry) := by
  by_cases haccepted : Accepted row entry
  · obtain ⟨device', hset, hget⟩ := getSensorEventEntry_writtenZws205 hkind haccepted
    rw [forall_prop_of_true haccepted, ← shownZws205_eq_iff haccepted]
    constructor
    · intro h
      exact Except.ok.inj (hget.symm.trans (h device' hset))
    · intro h other hother
      rw [← Except.ok.inj (hset.symm.trans hother), hget, h]
  · exact iff_of_true (fun device' hset => absurd hset
      (setSensorEventEntry_refused hkind haccepted device')) fun h => absurd h haccepted

end Zws205

/-- **Sensor events.** An entry is read back iff it is refused, or fits. -/
theorem sensorEvents_roundTrip_iff (device : Device) (eventIndex : ℕ)
    (old entry : SensorEventSpec) :
    RoundTrips device eventIndex old entry ↔ Fits device eventIndex old entry := by
  rw [Fits]
  split_ifs with hkind
  · exact roundTrips_zws205_iff hkind
  · exact roundTrips_generic_iff (Bool.not_eq_true _ ▸ hkind)

/-- The sensor 16 becomes the sensor 0. -/
theorem sensorEvents_roundTrip_fails :
    ¬RoundTrips ⟨⟨fun _ _ => 0, fun _ => 0⟩, 0, 0, none⟩ 0 {} { sensorIndex := 16 } := by
  intro h
  exact absurd (h _ rfl) (by decide)

end SensorEventTable

end Dss
