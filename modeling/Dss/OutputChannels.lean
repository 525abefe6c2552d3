import Mathlib.Data.Rat.Floor
import Dss.AbortingLoop
import Dss.Numbers
import Dss.PropertyPath

/-!
# A batch of output channels

`setOutputChannelValue2` gets an object with a value for each of some channels. What is wrong with a
later member is seen when earlier ones have been written. And the write that is to be applied is
the one of the last member, which may have nothing to be written. `setOutputChannelValue` parses
everything first.
-/

namespace Dss

open List

namespace OutputChannels

/-! ## The code -/

/-- `rapidjson::Value`; the items of an array are not looked at. -/
inductive Value : Type where
  | null : Value
  /-- `true` or `false` -/
  | boolean : Bool → Value
  /-- a number, as `GetDouble` gives it -/
  | number : ℚ → Value
  /-- a text -/
  | string : String → Value
  | array : Value
  | object : List (String × Value) → Value

/-- `DeviceChannel_t`, as far as it is looked at here. -/
structure DeviceChannel : Type where
  channelId : String
  channelIndex : ℤ
  deriving DecidableEq

/-- What is written to the device. -/
structure Write : Type where
  channel : ℕ
  size : ℕ
  value : ℕ
  applyNow : Bool
  deriving DecidableEq

/-- How a request ends. -/
inductive Answer : Type where
  /-- `JSONWriter::success` -/
  | success : Answer
  /-- `JSONWriter::failure` -/
  | failure : String → Answer
  | exception : Exception → Answer
  | busError : String → Answer
  deriving DecidableEq

/-- What a request is handled with. -/
structure Setting : Type where
  /-- `m_outputChannels` -/
  channels : List DeviceChannel
  /-- `Document::Parse` -/
  parse : String → Value
  /-- the number that `strtod` makes of all of a text -/
  strtod : String → Option Double
  /-- `(uint16_t)` of a number that is none of 16 bits -/
  narrow : Double → ℕ
  /-- what the write for the member at a place throws -/
  bus : ℕ → Option String

/-- `kOutputChannels`, from 1 on -/
def kOutputChannels : List (String × ℕ) :=
  [("brightness", 8), ("hue", 8), ("saturation", 8), ("colortemp", 8), ("x", 8), ("y", 8),
    ("shadePositionOutside", 16), ("shadePositionIndoor", 16), ("shadeOpeningAngleOutside", 8),
    ("shadeOpeningAngleIndoor", 8), ("transparency", 8), ("airFlowIntensity", 8),
    ("airFlowDirection", 8), ("airFlapPosition", 8), ("airLouverPosition", 8),
    ("heatingPower", 8), ("coolingCapacity", 8), ("audioVolume", 8), ("powerState", 8),
    ("airLouverAuto", 8), ("airFlowAuto", 8)]

/-- The size that `getOutputChannelIdAndSize` returns. -/
def outputChannelSize (channelName : String) : Except Answer ℕ :=
  match kOutputChannels.lookup channelName with
  | some size => .ok size
  | none =>
    .error (.exception (.invalidArgument ("invalid channel name: '" ++ channelName ++ "'")))

section Request

variable (x : Setting)

def getOutputChannelById (channelId : String) : Except Answer DeviceChannel :=
  match x.channels.find? fun c => c.channelId = channelId with
  | some c => .ok c
  | none =>
    .error (.exception (.itemNotFound "Device::getOutputChannelById: channelId invalid"))

def strToDouble (strValue : String) : Except Answer Double :=
  match if strValue = "" then none else x.strtod strValue with
  | some value => .ok value
  | none =>
    .error (.exception
      (.invalidArgument ("strToDouble: Could not parse value: '" ++ strValue ++ "'")))

/-- `(uint16_t)` -/
def toUInt16 (value : Double) : ℕ :=
  match value with
  | .finite q => if -1 < q ∧ q < 65536 then q.floor.toNat else x.narrow value
  | .other => x.narrow value

def valueObj : Value → Value
  | .object members =>
    match members.find? fun member => member.1 = "value" with
    | some member => member.2
    | none => .object members
  | value => value

def readValue (value : Value) : Except Answer (Option Double) :=
  match valueObj value with
  | .number q => .ok (some (.finite q))
  | .boolean b => .ok (some (.finite (if b then 1 else 0)))
  | .string s => (strToDouble x (cString s)).map some
  | .object _ => .ok none
  | .null => .ok none
  | .array => .error (.failure "Invalid parameter channels: value type unsupported")

def prepare (member : String × Value) : Except Answer (Option (ℕ × ℕ × ℕ)) :=
  match getOutputChannelById x (cString member.1) with
  | .error e => .error e
  | .ok channel =>
    match outputChannelSize channel.channelId with
    | .error e => .error e
    | .ok size =>
      (readValue x member.2).map fun value =>
        value.map fun value => ((channel.channelIndex % 256).toNat, size, toUInt16 x value)

def writeMember (applyNow : Bool) (count : ℕ) (item : (String × Value) × ℕ) :
    AbortingLoop.Outcome Unit Write Answer :=
  match prepare x item.1 with
  | .error e => ⟨[], (), some e⟩
  | .ok none => ⟨[], (), none⟩
  | .ok (some (channel, size, value)) =>
    ⟨[⟨channel, size, value, applyNow && item.2 + 1 = count⟩], (),
      (x.bus item.2).map Answer.busError⟩

def writeMembers (applyNow : Bool) (members : List (String × Value)) :
    AbortingLoop.Trace Unit Write Answer :=
  AbortingLoop.run (fun _ item => writeMember x applyNow members.length item) () members.zipIdx

/-- What a request does. -/
structure Response : Type where
  writes : List Write
  answer : Answer

def setOutputChannelValue2 (applyNow channels : String) : Response :=
  let applyNow : Bool := strToIntDef applyNow 1 ≠ 0
  if channels = "" then ⟨[], .failure "Missing or invalid parameter 'channels'"⟩
  else
    match x.parse (cString channels) with
    | .object members =>
      let trace := writeMembers x applyNow members
      ⟨trace.effects.flatten, trace.failure.getD .success⟩
    | _ => ⟨[], .failure "Invalid parameter channels: not a JSON object"⟩

/-! ## The law -/

variable (m : String × Value)

def Denotes (n : ℕ) : Prop :=
  n < 65536 ∧
    match valueObj m.2 with
    | .number q => q = n
    | .boolean b => n = if b then 1 else 0
    | .string s => strToDouble x (cString s) = .ok (.finite n)
    | _ => False

/-- A member that is left out: nothing, or an object without a value. -/
def skipped : Bool :=
  match valueObj m.2 with
  | .null => true
  | .object _ => true
  | _ => false

/-- The device does not have the channel of a member, or there is no size for it. -/
def Unknown : Prop :=
  ∀ channel, getOutputChannelById x (cString m.1) = .ok channel →
    ∀ size, outputChannelSize channel.channelId ≠ .ok size

/-- The value of a member is an array, or a text that is no number. -/
def Unreadable : Prop :=
  match valueObj m.2 with
  | .array => True
  | .string s => ∀ value, strToDouble x (cString s) ≠ .ok value
  | _ => False

/-- A member that is wrong. -/
def Bad : Prop := Unknown x m ∨ Unreadable x m

structure Writes (w : Write) : Prop where
  channel : ∃ channel, getOutputChannelById x (cString m.1) = .ok channel ∧
    w.channel = (channel.channelIndex % 256).toNat ∧
    outputChannelSize channel.channelId = .ok w.size
  value : ∀ n, Denotes x m n → w.value = n

def applies (applyNow : String) : Bool := strToIntDef applyNow 1 ≠ 0

def LastApplied (writes : List Write) (apply : Bool) : Prop :=
  ∀ i w, writes[i]? = some w → (w.applyNow = true ↔ apply = true ∧ i + 1 = writes.length)

/-- **The law of a request**: if it is answered with success, each member with a value is written
to its channel once, in order, and if the values are to be applied it is with the last write; if
a member is wrong nothing has been written. Nothing is said of what the bus throws. -/
def Lawful (applyNow channels : String) : Prop :=
  match (setOutputChannelValue2 x applyNow channels).answer with
  | .success =>
    ∃ members, x.parse (cString channels) = .object members ∧
      List.Forall₂ (fun w m => Writes x m w) (setOutputChannelValue2 x applyNow channels).writes
        (members.filter fun m => !skipped m) ∧
      LastApplied (setOutputChannelValue2 x applyNow channels).writes (applies applyNow)
  | .busError _ => True
  | _ => (setOutputChannelValue2 x applyNow channels).writes = []

def Quiet (members : List (String × Value)) : Prop :=
  ∀ i m, members[i]? = some m → skipped m = false → x.bus i = none

/-- When members meet the law: in front of the first one that is wrong all are left out, and
without such a member the last one is not left out, or all of them are, or nothing is to be
applied; all of this as far as the bus does not throw. -/
structure MembersFit (apply : Bool) (members : List (String × Value)) : Prop where
  front : ∀ pre m post, members = pre ++ m :: post → Bad x m → (∀ b ∈ pre, ¬ Bad x b) →
    Quiet x pre → ∀ b ∈ pre, skipped b = true
  last : (∀ m ∈ members, ¬ Bad x m) → Quiet x members → apply = true →
    (∀ m ∈ members, skipped m = true) ∨ ∀ m, members.getLast? = some m → skipped m = false

/-- When a request meets the law: it has no members, or they do. -/
def Fits (applyNow channels : String) : Prop :=
  ∀ members, channels ≠ "" → x.parse (cString channels) = .object members →
    MembersFit x (applies applyNow) members

/-! ## One member -/

variable {x} {m} {applyNow : Bool} {i count : ℕ}

def Answer.IsMember : Answer → Prop
  | .failure _ => True
  | .exception _ => True
  | _ => False

theorem getOutputChannelById_isMember {channelId : String} {e : Answer}
    (h : getOutputChannelById x channelId = .error e) : e.IsMember := by
  rw [getOutputChannelById] at h
  split at h
  · cases h
  · obtain rfl := Except.error.inj h
    trivial

theorem outputChannelSize_isMember {channelName : String} {e : Answer}
    (h : outputChannelSize channelName = .error e) : e.IsMember := by
  rw [outputChannelSize] at h
  split at h
  · cases h
  · obtain rfl := Except.error.inj h
    trivial

theorem strToDouble_isMember {strValue : String} {e : Answer}
    (h : strToDouble x strValue = .error e) : e.IsMember := by
  rw [strToDouble] at h
  split at h
  · cases h
  · obtain rfl := Except.error.inj h
    trivial

theorem toUInt16_natCast {n : ℕ} (h : n < 65536) : toUInt16 x (.finite n) = n := by
  have hlow : (-1 : ℚ) < n := lt_of_lt_of_le neg_one_lt_zero n.cast_nonneg
  have hhigh : (n : ℚ) < 65536 := Nat.cast_lt_ofNat.mpr h
  have htoNat : toUInt16 x (.finite n) = (n : ℚ).floor.toNat := if_pos ⟨hlow, hhigh⟩
  rw [htoNat, ← Int.cast_natCast n, Rat.floor_intCast, Int.toNat_natCast]

inductive ValueCase (x : Setting) (m : String × Value) : Prop where
  /-- it is left out -/
  | skipped : skipped m = true → ¬ Unreadable x m → readValue x m.2 = .ok none → ValueCase x m
  /-- it is wrong -/
  | unreadable (e : Answer) : Unreadable x m → readValue x m.2 = .error e → e.IsMember →
      ValueCase x m
  | read (value : Double) : skipped m = false → ¬ Unreadable x m →
      readValue x m.2 = .ok (some value) → (∀ n, Denotes x m n → toUInt16 x value = n) →
      ValueCase x m

theorem readValue_string {value : Value} {s : String} {r : Except Answer Double}
    (hvalue : valueObj value = .string s) (hread : strToDouble x (cString s) = r) :
    readValue x value = r.map some := by
  rw [readValue, hvalue, ← hread]

theorem valueCase (x : Setting) (m : String × Value) : ValueCase x m := by
  cases hvalue : valueObj m.2 with
  | null | object members =>
    exact .skipped (by rw [skipped, hvalue]) (by simp [Unreadable, hvalue])
      (by rw [readValue, hvalue])
  | array =>
    exact .unreadable (.failure "Invalid parameter channels: value type unsupported")
      (by simp [Unreadable, hvalue]) (by rw [readValue, hvalue]) trivial
  | boolean b =>
    refine .read _ (by rw [skipped, hvalue]) (by simp [Unreadable, hvalue])
      (by rw [readValue, hvalue]) fun n hn => ?_
    rw [Denotes, hvalue] at hn
    have hcast : (if b then 1 else 0 : ℚ) = (n : ℚ) := by
      rw [hn.2, Nat.cast_ite, Nat.cast_one, Nat.cast_zero]
    rw [hcast]
    exact toUInt16_natCast hn.1
  | number q =>
    refine .read _ (by rw [skipped, hvalue]) (by simp [Unreadable, hvalue])
      (by rw [readValue, hvalue]) fun n hn => ?_
    rw [Denotes, hvalue] at hn
    rw [hn.2]
    exact toUInt16_natCast hn.1
  | string s =>
    rcases hread : strToDouble x (cString s) with e | value
    · refine .unreadable e ?_ (readValue_string hvalue hread) (strToDouble_isMember hread)
      rw [Unreadable, hvalue]
      intro value
      rw [hread]
      exact nofun
    · refine .read value (by rw [skipped, hvalue]) ?_ (readValue_string hvalue hread)
        fun n hn => ?_
      · rw [Unreadable, hvalue]
        exact fun h => h value hread
      · rw [Denotes, hvalue] at hn
        rw [Except.ok.inj (hread.symm.trans hn.2)]
        exact toUInt16_natCast hn.1

inductive Turn (x : Setting) (applyNow : Bool) (count : ℕ) (m : String × Value) (i : ℕ) : Prop where
  /-- it is wrong -/
  | bad (e : Answer) : Bad x m → e.IsMember →
      writeMember x applyNow count (m, i) = ⟨[], (), some e⟩ → Turn x applyNow count m i
  /-- it is left out -/
  | skipped : ¬ Bad x m → skipped m = true →
      writeMember x applyNow count (m, i) = ⟨[], (), none⟩ → Turn x applyNow count m i
  | written (w : Write) : ¬ Bad x m → skipped m = false → Writes x m w →
      w.applyNow = (applyNow && i + 1 = count) →
      writeMember x applyNow count (m, i) = ⟨[w], (), (x.bus i).map Answer.busError⟩ →
      Turn x applyNow count m i

theorem turn (x : Setting) (applyNow : Bool) (count : ℕ) (m : String × Value) (i : ℕ) :
    Turn x applyNow count m i := by
  rcases hchannel : getOutputChannelById x (cString m.1) with e | channel
  · refine .bad e (Or.inl fun channel h => ?_) (getOutputChannelById_isMember hchannel) ?_
    · rw [hchannel] at h
      cases h
    · simp only [writeMember, prepare, hchannel]
  · rcases hsize : outputChannelSize channel.channelId with e | size
    · refine .bad e (Or.inl fun c h n => ?_) (outputChannelSize_isMember hsize) ?_
      · rw [hchannel] at h
        rw [← Except.ok.inj h, hsize]
        simp
      · simp only [writeMember, prepare, hchannel, hsize]
    · have hknown : ¬ Unknown x m := fun h => h channel hchannel size hsize
      cases valueCase x m with
      | skipped hskipped hreadable hread =>
        refine .skipped (not_or.mpr ⟨hknown, hreadable⟩) hskipped ?_
        simp only [writeMember, prepare, hchannel, hsize, hread, Except.map, Option.map_none]
      | unreadable e hunreadable hread he =>
        refine .bad e (Or.inr hunreadable) he ?_
        simp only [writeMember, prepare, hchannel, hsize, hread, Except.map]
      | read value hskipped hreadable hread hvalue =>
        refine .written
          ⟨(channel.channelIndex % 256).toNat, size, toUInt16 x value, applyNow && i + 1 = count⟩
          (not_or.mpr ⟨hknown, hreadable⟩) hskipped
          ⟨⟨channel, hchannel, rfl, hsize⟩, hvalue⟩ rfl ?_
        simp only [writeMember, prepare, hchannel, hsize, hread, Except.map, Option.map_some]

/-! ## All members -/

variable (x applyNow count) in
/-- What is written for members from a place on, if none of them ends the loop. -/
def writesFrom (members : List (String × Value)) (i : ℕ) : List Write :=
  (members.zipIdx i).flatMap fun item => (writeMember x applyNow count item).effects

theorem writesFrom_nil : writesFrom x applyNow count [] i = [] := rfl

theorem writesFrom_append {members behind : List (String × Value)} :
    writesFrom x applyNow count (members ++ behind) i =
      writesFrom x applyNow count members i ++
        writesFrom x applyNow count behind (i + members.length) := by
  rw [writesFrom, zipIdx_append, flatMap_append]
  rfl

theorem writesFrom_cons {members : List (String × Value)} :
    writesFrom x applyNow count (m :: members) i =
      (writeMember x applyNow count (m, i)).effects ++
        writesFrom x applyNow count members (i + 1) := by
  rfl

theorem writes_members {members : List (String × Value)} (h : ∀ m ∈ members, ¬ Bad x m) :
    List.Forall₂ (fun w m => Writes x m w) (writesFrom x applyNow count members i)
      (members.filter fun m => !skipped m) := by
  induction members generalizing i with
  | nil => exact List.Forall₂.nil
  | cons m members ih =>
    rw [forall_mem_cons] at h
    rw [writesFrom_cons]
    cases turn x applyNow count m i with
    | bad e hbad => exact absurd hbad h.1
    | skipped _ hskipped hwrite =>
      rw [hwrite, filter_cons_of_neg (by simp [hskipped])]
      exact ih h.2
    | written w _ hskipped hw _ hwrite =>
      rw [hwrite, filter_cons_of_pos (by simp [hskipped])]
      exact List.Forall₂.cons hw (ih h.2)

theorem writesFrom_eq_nil {members : List (String × Value)} (h : ∀ m ∈ members, ¬ Bad x m) :
    writesFrom x applyNow count members i = [] ↔ ∀ m ∈ members, skipped m = true := by
  rw [← length_eq_zero_iff, (writes_members h).length_eq]
  simp

theorem applyNow_writesFrom {members : List (String × Value)} {w : Write}
    (h : w ∈ writesFrom x applyNow count members i) :
    ∃ j, i ≤ j ∧ j < i + members.length ∧ w.applyNow = (applyNow && j + 1 = count) := by
  obtain ⟨⟨m, j⟩, hitem, hw⟩ := mem_flatMap.mp h
  obtain ⟨hle, hlt, -⟩ := mem_zipIdx hitem
  refine ⟨j, hle, by omega, ?_⟩
  cases turn x applyNow count m j with
  | bad e _ _ hwrite =>
    rw [hwrite] at hw
    cases hw
  | skipped _ _ hwrite =>
    rw [hwrite] at hw
    cases hw
  | written v _ _ _ happly hwrite =>
    rw [hwrite] at hw
    rw [mem_singleton.mp hw]
    exact happly

theorem lastApplied_of_forall {writes : List Write} (h : ∀ w ∈ writes, w.applyNow = false) :
    LastApplied writes applyNow ↔ applyNow = true → writes = [] := by
  refine ⟨fun hlast happly => ?_, fun hnil i w hw => ?_⟩
  · rcases eq_nil_or_concat writes with hnil | ⟨init, w, rfl⟩
    · exact hnil
    · have hw := (hlast init.length w (by simp)).mpr ⟨happly, by simp⟩
      rw [h w (by simp)] at hw
      cases hw
  · rw [h w (mem_of_getElem? hw)]
    refine iff_of_false Bool.false_ne_true fun happly => ?_
    rw [hnil happly.1] at hw
    cases hw

theorem lastApplied_append {writes : List Write} {w : Write}
    (h : ∀ w ∈ writes, w.applyNow = false) (hw : w.applyNow = applyNow) :
    LastApplied (writes ++ [w]) applyNow := by
  intro i v hv
  rw [length_append, length_singleton]
  rcases Nat.lt_or_ge i writes.length with hlt | hge
  · rw [getElem?_append_left hlt] at hv
    rw [h v (mem_of_getElem? hv)]
    exact iff_of_false Bool.false_ne_true fun happly => by omega
  · rw [getElem?_append_right hge] at hv
    obtain ⟨hi, rfl⟩ : i - writes.length = 0 ∧ v = w := by
      simpa [getElem?_singleton, eq_comm] using hv
    rw [hw]
    exact ⟨fun happly => ⟨happly, by omega⟩, fun happly => happly.1⟩

theorem lastApplied_iff {members : List (String × Value)} (h : ∀ m ∈ members, ¬ Bad x m) :
    LastApplied (writesFrom x applyNow members.length members 0) applyNow ↔
      (applyNow = true → (∀ m ∈ members, skipped m = true) ∨
        ∀ m, members.getLast? = some m → skipped m = false) := by
  rcases eq_nil_or_concat members with rfl | ⟨init, m, rfl⟩
  · exact iff_of_true (fun i w hw => by cases hw) fun _ => Or.inl (forall_mem_nil _)
  · rw [concat_eq_append] at h ⊢
    rw [writesFrom_append, length_append, length_singleton, Nat.zero_add,
      getLast?_concat]
    have hinit : ∀ b ∈ init, ¬ Bad x b := fun b hb => h b (mem_append_left _ hb)
    have hflags : ∀ w ∈ writesFrom x applyNow (init.length + 1) init 0, w.applyNow = false := by
      intro w hw
      obtain ⟨j, -, hj, happly⟩ := applyNow_writesFrom hw
      rw [happly, decide_eq_false (by omega), Bool.and_false]
    cases turn x applyNow (init.length + 1) m init.length with
    | bad e hbad => exact absurd hbad (h m (by simp))
    | skipped _ hskipped hwrite =>
      rw [writesFrom_cons, hwrite, nil_append, writesFrom_nil, append_nil,
        lastApplied_of_forall hflags, writesFrom_eq_nil hinit]
      have hall : (∀ b ∈ init ++ [m], skipped b = true) ↔ ∀ b ∈ init, skipped b = true := by
        rw [forall_mem_append, forall_mem_singleton, and_iff_left hskipped]
      have hlast : ¬ ∀ b, some m = some b → skipped b = false := fun hlast => by
        rw [hlast m rfl] at hskipped
        cases hskipped
      rw [hall, or_iff_left hlast]
    | written w _ hskipped _ happly hwrite =>
      rw [writesFrom_cons, hwrite]
      refine iff_of_true (lastApplied_append hflags ?_) fun _ => Or.inr fun b hb => ?_
      · rw [happly, decide_eq_true rfl, Bool.and_true]
      · rw [← Option.some.inj hb]
        exact hskipped

/-! ## The loop -/

theorem failure_eq_none_iff : (writeMember x applyNow count (m, i)).failure = none ↔
    ¬ Bad x m ∧ (skipped m = false → x.bus i = none) := by
  cases turn x applyNow count m i with
  | bad e hbad _ hwrite =>
    rw [hwrite]
    exact iff_of_false (Option.some_ne_none e) fun h => h.1 hbad
  | skipped hgood hskipped hwrite =>
    rw [hwrite, hskipped]
    exact iff_of_true rfl ⟨hgood, fun h => by cases h⟩
  | written w hgood hskipped _ _ hwrite =>
    rw [hwrite, Option.map_eq_none_iff]
    exact ⟨fun h => ⟨hgood, fun _ => h⟩, fun h => h.2 hskipped⟩

theorem forall_failure_eq_none {members : List (String × Value)} :
    (∀ item ∈ members.zipIdx, (writeMember x applyNow count item).failure = none) ↔
      (∀ m ∈ members, ¬ Bad x m) ∧ Quiet x members := by
  refine ⟨fun h => ⟨fun m hm => ?_, fun i m hm => ?_⟩, fun h item hitem => ?_⟩
  · obtain ⟨i, hi⟩ := mem_iff_getElem?.mp hm
    exact (failure_eq_none_iff.1 (h (m, i) (mk_mem_zipIdx_iff_getElem?.mpr hi))).1
  · exact (failure_eq_none_iff.1 (h (m, i) (mk_mem_zipIdx_iff_getElem?.mpr hm))).2
  · have hm : members[item.2]? = some item.1 := mk_mem_zipIdx_iff_getElem?.mp hitem
    exact failure_eq_none_iff.2 ⟨h.1 item.1 (mem_of_getElem? hm), h.2 item.2 item.1 hm⟩

/-- How the loop ends: with all members written, at a member that is wrong, or because of the
bus. -/
inductive Course (x : Setting) (applyNow : Bool) (members : List (String × Value)) : Prop where
  | complete : (∀ m ∈ members, ¬ Bad x m) → Quiet x members →
      (writeMembers x applyNow members).failure = none →
      (writeMembers x applyNow members).effects.flatten =
        writesFrom x applyNow members.length members 0 → Course x applyNow members
  | wrong (pre : List (String × Value)) (m : String × Value) (post : List (String × Value))
      (e : Answer) : members = pre ++ m :: post → (∀ b ∈ pre, ¬ Bad x b) → Quiet x pre →
      Bad x m → e.IsMember → (writeMembers x applyNow members).failure = some e →
      (writeMembers x applyNow members).effects.flatten =
        writesFrom x applyNow members.length pre 0 → Course x applyNow members
  /-- the bus throws -/
  | interrupted (pre : List (String × Value)) (m : String × Value)
      (post : List (String × Value)) (e : String) : members = pre ++ m :: post →
      (∀ b ∈ pre, ¬ Bad x b) → ¬ Bad x m → skipped m = false → x.bus pre.length = some e →
      (writeMembers x applyNow members).failure = some (.busError e) → Course x applyNow members

theorem course (x : Setting) (applyNow : Bool) (members : List (String × Value)) :
    Course x applyNow members := by
  let step : Unit → (String × Value) × ℕ → AbortingLoop.Outcome Unit Write Answer :=
    fun _ item => writeMember x applyNow members.length item
  have hundisturbed (items : List ((String × Value) × ℕ)) :
      AbortingLoop.Undisturbed step (fun _ _ => True) () items :=
    AbortingLoop.undisturbed_of_same fun _ _ _ => ⟨rfl, rfl⟩
  rcases hfailure : (writeMembers x applyNow members).failure with - | e
  · have hok := (AbortingLoop.run_failure_eq_none (hundisturbed _) fun _ _ => trivial).mp hfailure
    obtain ⟨hgood, hquiet⟩ := forall_failure_eq_none.1 hok
    refine .complete hgood hquiet hfailure ?_
    rw [writeMembers, AbortingLoop.effects_eq_map (hundisturbed _) (fun _ _ => trivial) hok]
    exact (flatMap_def ..).symm
  · obtain ⟨⟨m, i⟩, post, pre, hsplit, hpre, hm⟩ :=
      (AbortingLoop.run_failure_eq_some (hundisturbed _) fun _ _ => trivial).mp hfailure
    have heffects : (writeMembers x applyNow members).effects =
        (pre.map fun b => (step () b).effects) ++ [(step () (m, i)).effects] := by
      rw [writeMembers, hsplit]
      exact AbortingLoop.effects_of_firstFailure (hundisturbed _) (fun _ _ => trivial) hpre hm
    obtain ⟨pre, rest, hmembers, rfl, hrest⟩ := zipIdx_eq_append_iff.mp hsplit
    obtain ⟨b, post, rfl, hitem, -⟩ := zipIdx_eq_cons_iff.mp hrest.symm
    obtain ⟨rfl, rfl⟩ := Prod.mk.inj hitem
    obtain ⟨hgood, hquiet⟩ := forall_failure_eq_none.1 hpre
    have hm : (writeMember x applyNow members.length (m, 0 + pre.length)).failure = some e := hm
    have hwrites : (writeMembers x applyNow members).effects.flatten =
        writesFrom x applyNow members.length pre 0 ++
          (writeMember x applyNow members.length (m, 0 + pre.length)).effects := by
      rw [heffects, flatten_append, flatten_singleton, writesFrom, flatMap_def]
    cases turn x applyNow members.length m (0 + pre.length) with
    | bad f hbad hf hwrite =>
      rw [hwrite] at hm hwrites
      rw [← Option.some.inj hm] at hfailure
      rw [append_nil] at hwrites
      exact .wrong pre m post f hmembers hgood hquiet hbad hf hfailure hwrites
    | skipped _ _ hwrite =>
      rw [hwrite] at hm
      cases hm
    | written w hright hskipped _ _ hwrite =>
      rw [hwrite] at hm
      obtain ⟨text, hbus, rfl⟩ := Option.map_eq_some_iff.mp hm
      rw [Nat.zero_add] at hbus
      exact .interrupted pre m post text hmembers hgood hright hskipped hbus hfailure

/-! ## When a request meets the law -/

theorem split_cases {α : Type*} {P : α → Prop} {a b : α} {pre post front back : List α}
    (h : pre ++ a :: post = front ++ b :: back) (hpre : ∀ c ∈ pre, ¬ P c) (hb : P b) :
    front = pre ∧ b = a ∨ ∃ between, front = pre ++ a :: between := by
  rcases append_eq_append_iff.mp h with ⟨between, rfl, hrest⟩ | ⟨between, rfl, hrest⟩
  · cases between with
    | nil => exact Or.inl ⟨append_nil pre, (cons.inj hrest).1.symm⟩
    | cons c between =>
      obtain ⟨rfl, -⟩ := cons.inj hrest
      exact Or.inr ⟨between, rfl⟩
  · cases between with
    | nil => exact Or.inl ⟨(append_nil front).symm, (cons.inj hrest).1⟩
    | cons c between =>
      obtain ⟨rfl, -⟩ := cons.inj hrest
      exact absurd hb (hpre b (by simp))

variable {applyNow channels : String}

theorem response_of_object {members : List (String × Value)} (hchannels : channels ≠ "")
    (hparse : x.parse (cString channels) = .object members) :
    setOutputChannelValue2 x applyNow channels =
      ⟨(writeMembers x (applies applyNow) members).effects.flatten,
        (writeMembers x (applies applyNow) members).failure.getD .success⟩ := by
  rw [setOutputChannelValue2, if_neg hchannels, hparse]
  rfl

theorem response_of_not_object
    (h : ∀ members, channels ≠ "" → x.parse (cString channels) ≠ .object members) :
    (setOutputChannelValue2 x applyNow channels).writes = [] ∧
      (setOutputChannelValue2 x applyNow channels).answer.IsMember := by
  rw [setOutputChannelValue2]
  split_ifs with hchannels
  · exact ⟨rfl, trivial⟩
  · split
    · exact absurd (by assumption) (h _ hchannels)
    · exact ⟨rfl, trivial⟩

theorem lawful_of_isMember (h : (setOutputChannelValue2 x applyNow channels).answer.IsMember) :
    Lawful x applyNow channels ↔ (setOutputChannelValue2 x applyNow channels).writes = [] := by
  rw [Lawful]
  cases hanswer : (setOutputChannelValue2 x applyNow channels).answer with
  | success =>
    rw [hanswer] at h
    exact h.elim
  | failure text => rfl
  | exception e => rfl
  | busError text =>
    rw [hanswer] at h
    exact h.elim

theorem lawful_of_complete {members : List (String × Value)} (hchannels : channels ≠ "")
    (hparse : x.parse (cString channels) = .object members) (hgood : ∀ m ∈ members, ¬ Bad x m)
    (hfailure : (writeMembers x (applies applyNow) members).failure = none)
    (hwrites : (writeMembers x (applies applyNow) members).effects.flatten =
      writesFrom x (applies applyNow) members.length members 0) :
    Lawful x applyNow channels ↔
      LastApplied (writesFrom x (applies applyNow) members.length members 0)
        (applies applyNow) := by
  rw [Lawful, response_of_object hchannels hparse, hfailure, hwrites]
  refine ⟨?_, fun hlast => ⟨members, hparse, writes_members hgood, hlast⟩⟩
  rintro ⟨-, -, -, hlast⟩
  exact hlast

theorem fits_iff {members : List (String × Value)} (hchannels : channels ≠ "")
    (hparse : x.parse (cString channels) = .object members) :
    Fits x applyNow channels ↔ MembersFit x (applies applyNow) members := by
  refine ⟨fun h => h members hchannels hparse, fun h others _ hothers => ?_⟩
  obtain rfl := Value.object.inj (hparse.symm.trans hothers)
  exact h

variable (x applyNow channels)

/-- **A request meets the law if and only if nothing is written in front of the first member that
is wrong, and the last member is one that is written if the values are to be applied.** -/
theorem setOutputChannelValue2_lawful_iff :
    Lawful x applyNow channels ↔ Fits x applyNow channels := by
  by_cases hobject : ∃ members, channels ≠ "" ∧ x.parse (cString channels) = .object members
  · obtain ⟨members, hchannels, hparse⟩ := hobject
    rw [fits_iff hchannels hparse]
    cases course x (applies applyNow) members with
    | complete hgood hquiet hfailure hwrites =>
      rw [lawful_of_complete hchannels hparse hgood hfailure hwrites, lastApplied_iff hgood]
      refine ⟨fun h => ⟨fun pre m post hsplit hbad => ?_, fun _ _ => h⟩,
        fun h => h.last hgood hquiet⟩
      exact absurd hbad (hgood m (by rw [hsplit]; simp))
    | wrong pre m post e hsplit hgood hquiet hbad he hfailure hwrites =>
      have hresponse : setOutputChannelValue2 x applyNow channels =
          ⟨writesFrom x (applies applyNow) members.length pre 0, e⟩ := by
        rw [response_of_object hchannels hparse, hfailure, hwrites]
        rfl
      rw [lawful_of_isMember (by rw [hresponse]; exact he), hresponse, writesFrom_eq_nil hgood]
      refine ⟨fun h => ⟨fun front b back hother hb hfront _ => ?_, fun hall => ?_⟩, fun h => ?_⟩
      · rcases split_cases (hsplit.symm.trans hother) hgood hb with ⟨rfl, -⟩ | ⟨between, rfl⟩
        · exact h
        · exact absurd hbad (hfront m (by simp))
      · exact absurd hbad (hall m (by rw [hsplit]; simp))
      · exact h.front pre m post hsplit hbad hgood hquiet
    | interrupted pre m post text hsplit hgood hright hskipped hbus hfailure =>
      have hnoisy {between : List (String × Value)} : ¬ Quiet x (pre ++ m :: between) := by
        intro hquiet
        rw [hquiet pre.length m (by simp) hskipped] at hbus
        cases hbus
      refine iff_of_true ?_ ⟨fun front b back hother hb hfront hquiet => ?_, fun _ hquiet => ?_⟩
      · rw [Lawful, response_of_object hchannels hparse, hfailure]
        trivial
      · rcases split_cases (hsplit.symm.trans hother) hgood hb with ⟨-, rfl⟩ | ⟨between, rfl⟩
        · exact absurd hb hright
        · exact absurd hquiet hnoisy
      · rw [hsplit] at hquiet
        exact absurd hquiet hnoisy
  · have hnone : ∀ members, channels ≠ "" → x.parse (cString channels) ≠ .object members :=
      fun members hchannels hparse => hobject ⟨members, hchannels, hparse⟩
    obtain ⟨hwrites, hanswer⟩ := response_of_not_object hnone
    refine iff_of_true ((lawful_of_isMember hanswer).mpr hwrites) ?_
    exact fun members hchannels hparse => absurd hparse (hnone members hchannels)

end Request

def brightnessOnly : String := "\x7b\"brightness\":100,\"airFlowAuto\":\x7b\x7d\x7d"

/-- The brightness, and the flow of the air with a value that is none. -/
def brokenFlow : String := "\x7b\"brightness\":100,\"airFlowAuto\":[]\x7d"

def lampWithFan : Setting where
  channels := [⟨"brightness", 0⟩, ⟨"airFlowAuto", 1⟩]
  parse text :=
    .object [("brightness", .number 100),
      ("airFlowAuto", if text = brightnessOnly then .object [] else .array)]
  strtod := fun _ => none
  narrow := fun _ => 0
  bus := fun _ => none

/-- The brightness is written but not applied, and it is written although the request fails. -/
theorem setOutputChannelValue2_lawful_fails :
    ¬ Lawful lampWithFan "1" brightnessOnly ∧ ¬ Lawful lampWithFan "1" brokenFlow := by
  refine ⟨?_, ?_⟩
  · rintro ⟨-, -, -, hlast⟩
    have happly := (hlast 0 ⟨0, 8, 100, false⟩ rfl).mpr ⟨rfl, rfl⟩
    cases happly
  · exact cons_ne_nil _ _

end OutputChannels

end Dss
