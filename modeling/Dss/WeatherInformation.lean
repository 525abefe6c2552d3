import Dss.DateTexts
import Dss.JsonCalls

/-!
# Weather data from the cloud

`EventInterpreterWebserviceGetWeatherInformationDone` takes the answer to a request for the
weather apart. `parseISO8601` is static: what `ts.parseISO8601(…)` reads is dropped, and `ts`
stays what the clock has shown. That the return code is not zero is asked about only where there
was none. And where the answer is no object, the loop over its members uses it as one.
-/

namespace Dss

open Json List

/-! ## Time stamps -/

/-- What `strptime` has read: the fields, and the text behind them. -/
structure Scanned : Type where
  clock : ℤ
  /-- `tm_gmtoff` -/
  gmtoff : ℤ
  /-- from `end` on -/
  rest : List Char

/-- What `strtod` has read. -/
structure Converted : Type where
  value : ℤ
  /-- whether `end` is where it began -/
  unread : Bool
  /-- from `end` on -/
  rest : List Char
  /-- whether `errno` is `ERANGE` -/
  range : Bool

/-- What the C library makes of texts and times. -/
structure Libc : Type where
  /-- `strptime` with `%FT%TZ` if the flag is set, and with `%FT%T%z` otherwise -/
  strptime : Bool → List Char → Option Scanned
  strtod : List Char → Converted
  zone : TimeZone

namespace DateTime

/-- `parseISO8601`: the offset, with the minutes that `strptime` leaves behind a colon. -/
def tzOffset (c : Libc) (text : String) (tm : Scanned) : Except String ℤ :=
  match tm.rest with
  | [] => .ok tm.gmtoff
  | ':' :: [] => .ok tm.gmtoff
  | ':' :: tzMinutes =>
    let ret := c.strtod tzMinutes
    -- an integer is never `HUGE_VAL`
    if ret.unread ∨ ret.rest ≠ [] ∨ ret.value = 0 ∧ ret.range then
      .error ("ISO8601: invalid tz minutes " ++ text)
    else .ok (tm.gmtoff + ret.value * 60)
  | _ :: _ => .error ("ISO8601: invalid format " ++ text)

def parseISO8601 (c : Libc) (text : String) : Except String ℤ :=
  let utc := text.toList.getLast? = some 'Z'
  if text.utf8ByteSize ∉ [25, 24, 23, 22, 20] then .error ("ISO8601: invalid length " ++ text)
  else
    match c.strptime utc (cString text).toList with
    | none => .error ("ISO8601: invalid format " ++ text)
    | some tm =>
      match tzOffset c text tm with
      | .error what => .error what
      | .ok offset =>
        match convertTZ c.zone tm.clock offset with
        | none => .error ("ISO8601: mktime " ++ text)
        | some time => .ok time

end DateTime

namespace Weather

def sensorMaxLifeTime : ℤ := 3600

/-- `json_tokener_parse`; `null` is a pointer to nothing, as what it refuses. An object has each
key once. -/
structure JsonC : Type where
  jsonTokenerParse : String → Value
  keys : ∀ {body : String} {members : List (String × Value)},
    jsonTokenerParse body = .object members → (members.map Prod.fst).Nodup
  innerKeys : ∀ {body key : String} {members inner : List (String × Value)},
    jsonTokenerParse body = .object members → (key, .object inner) ∈ members →
      (inner.map Prod.fst).Nodup

/-- `json_object_get_int` of a whole number -/
def getInt (n : ℤ) : ℤ := max (-2 ^ 31) (min n (2 ^ 31 - 1))

/-- What the loops gather. -/
structure Reply : Type where
  /-- `ReturnCode`, which is not set at the beginning -/
  returnCode : ℤ := 0
  returnCodeSeen : Bool := false
  returnMessage : String := ""
  weatherTime : String := ""
  weatherIconID : String := ""
  weatherConditionID : String := ""
  weatherService : String := ""
  valOutdoorTemperature : String := "0"
  valueSeen : Bool := false
  deriving DecidableEq

/-- `json_object_get_string` of a text, and `intToString` of a number. -/
def identifier : Value → Option String
  | .string s => some (cString s)
  | .integer n => some (toString (getInt n))
  | _ => none

/-- One turn of the loop over the members of `Response`. -/
def readResponse (r : Reply) (member : String × Value) : Reply :=
  if member.1 = "MeasurementTime" then
    match member.2 with
    | .string s => { r with weatherTime := cString s }
    | _ => r
  else if member.1 = "WeatherIconID" then
    { r with weatherIconID := (identifier member.2).getD r.weatherIconID }
  else if member.1 = "WeatherID" then
    { r with weatherConditionID := (identifier member.2).getD r.weatherConditionID }
  else if member.1 = "WeatherService" then
    { r with weatherService := (identifier member.2).getD r.weatherService }
  else if member.1 = "OutdoorTemperature" then
    match member.2 with
    | .double d => { r with valOutdoorTemperature := d, valueSeen := true }
    | _ => r
  else r

def readMember (r : Reply) (member : String × Value) : Except String Reply :=
  if member.1 = "ReturnCode" then
    match member.2 with
    | .integer n => .ok { r with returnCode := getInt n, returnCodeSeen := true }
    | _ => .ok r
  else if member.1 = "ReturnMessage" then
    match member.2 with
    | .string s => .ok { r with returnMessage := cString s }
    | _ => .ok r
  else if member.1 = "Response" then
    match member.2 with
    | .object inner => .ok (inner.foldl readResponse r)
    | _ => .error "Invalid type for Response"
  else .ok r

/-- What is called of the model. -/
inductive Change : Type where
  | setWeatherInformation : String → String → String → ℤ → Change
  /-- `pushSensor` of the outdoor temperature to the zone 0 -/
  | pushSensor : String → Change
  deriving DecidableEq

/-- What the callback finds. -/
structure Setting : Type where
  libc : Libc
  json : JsonC
  /-- what the clock shows when `now` is made -/
  now : ℤ
  /-- what it shows when `ts` is made -/
  ts : ℤ
  /-- `isSensorAssigned` of the zone 0, for the outdoor temperature -/
  isSensorAssigned : Bool

/-- `age`; what is read is not kept in `ts`. -/
def age (x : Setting) (r : Reply) : ℤ :=
  match DateTime.parseISO8601 x.libc r.weatherTime with
  | .ok _ => DateTime.difference x.now x.ts
  | .error _ => 0

def take (x : Setting) (r : Reply) : List Change :=
  .setWeatherInformation r.weatherIconID r.weatherConditionID r.weatherService x.ts ::
    if ¬ r.valueSeen then []
    else if ¬ x.isSensorAssigned then [.pushSensor r.valOutdoorTemperature] else []

def store (x : Setting) (r : Reply) : List Change :=
  if ¬ r.returnCodeSeen then []
  else if ¬ r.returnCodeSeen ∧ r.returnCode ≠ 0 then []
  else if age x r > sensorMaxLifeTime then []
  else take x r

/-- `result`; the loop over the members of what is no object follows a null pointer. -/
def result (x : Setting) (code : ℤ) (res : String) : Option (List Change) :=
  if code ≠ 200 then some []
  else
    match x.json.jsonTokenerParse (cString res) with
    | .null => some []
    | .object members =>
      match members.foldlM readMember {} with
      | .error _ => some []
      | .ok r => some (store x r)
    | _ => none

/-! ## What the loops gather -/

section Loops

variable {r r' : Reply} {v : Value} {m : String × Value} {members inner : List (String × Value)}

theorem readResponse_of_ne (h : m.1 ≠ "MeasurementTime") :
    (readResponse r m).weatherTime = r.weatherTime := by
  rw [readResponse, if_neg h]
  split_ifs
  any_goals rfl
  split <;> rfl

theorem readResponse_code :
    (readResponse r m).returnCodeSeen = r.returnCodeSeen ∧
      (readResponse r m).returnCode = r.returnCode := by
  rw [readResponse]
  split_ifs
  any_goals exact ⟨rfl, rfl⟩
  all_goals split <;> exact ⟨rfl, rfl⟩

theorem foldl_readResponse_code :
    (inner.foldl readResponse r).returnCodeSeen = r.returnCodeSeen ∧
      (inner.foldl readResponse r).returnCode = r.returnCode := by
  induction inner generalizing r with
  | nil => exact ⟨rfl, rfl⟩
  | cons m inner ih =>
    obtain ⟨hseen, hcode⟩ := ih (r := readResponse r m)
    exact ⟨hseen.trans readResponse_code.1, hcode.trans readResponse_code.2⟩

def stampOf : Value → String → String
  | .string s, _ => cString s
  | _, stamp => stamp

theorem weatherTime_foldl (hnodup : (inner.map Prod.fst).Nodup) :
    (inner.foldl readResponse r).weatherTime =
      (inner.lookup "MeasurementTime").elim r.weatherTime fun v => stampOf v r.weatherTime := by
  have hrun : inner.foldlM (fun r m => Except.ok (ε := String) (readResponse r m)) r =
      .ok (inner.foldl readResponse r) := foldlM_pure
  refine KeyedList.foldlM_field (p := Reply.weatherTime) (g := stampOf) ?_ ?_ hnodup hrun
  · intro r r' v _ h
    obtain rfl := Except.ok.inj h
    cases v <;> rfl
  · intro r r' m hne h
    obtain rfl := Except.ok.inj h
    exact readResponse_of_ne hne

def Reply.code (r : Reply) : Bool × ℤ := (r.returnCodeSeen, r.returnCode)

def codeOf : Value → Bool × ℤ → Bool × ℤ
  | .integer n, _ => (true, getInt n)
  | _, code => code

theorem readMember_of_ne (h : m.1 ≠ "ReturnCode") (hr : readMember r m = .ok r') :
    r'.code = r.code := by
  rw [readMember, if_neg h] at hr
  split_ifs at hr with hmessage hresponse
  · split at hr <;> obtain rfl := Except.ok.inj hr <;> rfl
  · split at hr
    · obtain rfl := Except.ok.inj hr
      exact Prod.ext foldl_readResponse_code.1 foldl_readResponse_code.2
    · cases hr
  · obtain rfl := Except.ok.inj hr
    rfl

theorem code_foldlM (hnodup : (members.map Prod.fst).Nodup)
    (h : members.foldlM readMember r = .ok r') :
    r'.code = (members.lookup "ReturnCode").elim r.code fun v => codeOf v r.code := by
  refine KeyedList.foldlM_field (p := Reply.code) (g := codeOf) ?_ readMember_of_ne hnodup h
  intro r r' v _ hv
  cases v <;> obtain rfl := Except.ok.inj hv <;> rfl

theorem weatherTime_of_ne (h : m.1 ≠ "Response") (hr : readMember r m = .ok r') :
    r'.weatherTime = r.weatherTime := by
  rw [readMember] at hr
  split_ifs at hr with hcode hmessage
  · split at hr <;> obtain rfl := Except.ok.inj hr <;> rfl
  · split at hr <;> obtain rfl := Except.ok.inj hr <;> rfl
  · obtain rfl := Except.ok.inj hr
    rfl

/-- What `Response` makes of the time stamp. -/
def responseStamp : Value → String → String
  | .object inner, stamp =>
    (inner.lookup "MeasurementTime").elim stamp fun v => stampOf v stamp
  | _, stamp => stamp

theorem weatherTime_foldlM (hnodup : (members.map Prod.fst).Nodup)
    (hinner : ∀ {inner : List (String × Value)}, ("Response", .object inner) ∈ members →
      (inner.map Prod.fst).Nodup)
    (h : members.foldlM readMember r = .ok r') :
    r'.weatherTime =
      (members.lookup "Response").elim r.weatherTime fun v => responseStamp v r.weatherTime := by
  refine KeyedList.foldlM_field (p := Reply.weatherTime) (g := responseStamp) ?_
    weatherTime_of_ne hnodup h
  intro r r' v hmem hv
  cases v
  case object inner =>
    obtain rfl := Except.ok.inj hv
    exact weatherTime_foldl (hinner hmem)
  all_goals cases hv

theorem readMember_isOk :
    (∃ r', readMember r m = .ok r') ↔ (m.1 = "Response" → ∃ inner, m.2 = .object inner) := by
  obtain ⟨key, v⟩ := m
  by_cases hkey : key = "Response"
  · subst hkey
    cases v
    case object inner => exact iff_of_true ⟨_, rfl⟩ fun _ => ⟨inner, rfl⟩
    all_goals
      refine iff_of_false (fun h => ?_) fun h => ?_
      · obtain ⟨r', hr'⟩ := h
        cases hr'
      · obtain ⟨inner, hinner⟩ := h rfl
        cases hinner
  · refine iff_of_true ?_ fun h => absurd h hkey
    rw [readMember]
    split_ifs
    · cases v <;> exact ⟨_, rfl⟩
    · cases v <;> exact ⟨_, rfl⟩
    · exact ⟨_, rfl⟩

theorem foldlM_readMember_isOk :
    (∃ r', members.foldlM readMember r = .ok r') ↔
      ∀ v, ("Response", v) ∈ members → ∃ inner, v = .object inner := by
  induction members generalizing r with
  | nil => exact iff_of_true ⟨r, rfl⟩ fun v hmem => absurd hmem not_mem_nil
  | cons m members ih =>
    rw [foldlM_cons]
    rcases hm : readMember r m with what | r₁
    · -- the loop ends with the error of this turn
      refine iff_of_false (fun h => ?_) fun h => ?_
      · obtain ⟨r', hr'⟩ := h
        cases hr'
      · obtain ⟨r', hr'⟩ := readMember_isOk.2 fun hkey => h m.2 <| by
          rw [← hkey]
          exact mem_cons_self
        rw [hm] at hr'
        cases hr'
    · have hturn := readMember_isOk.1 ⟨r₁, hm⟩
      refine (ih (r := r₁)).trans ⟨fun h v hmem => ?_, fun h v hmem => ?_⟩
      · rcases mem_cons.mp hmem with rfl | hmem
        · exact hturn rfl
        · exact h v hmem
      · exact h v (mem_cons_of_mem m hmem)

end Loops

/-! ## The law -/

section Law

variable (x : Setting)

def MeasuredAt (members : List (String × Value)) (time : ℤ) : Prop :=
  ∃ inner text, members.lookup "Response" = some (.object inner) ∧
    inner.lookup "MeasurementTime" = some (.string text) ∧
    DateTime.parseISO8601 x.libc (cString text) = .ok time

/-- An answer that is to be taken: weather that has been measured then. -/
def Valid (res : String) (time : ℤ) : Prop :=
  ∃ members, x.json.jsonTokenerParse (cString res) = .object members ∧
    members.lookup "ReturnCode" = some (.integer 0) ∧ MeasuredAt x members time ∧
    x.now - time ≤ sensorMaxLifeTime

/-- **The law of the callback**: it follows no null pointer, and changes the model only for an
answer that is to be taken, and then as of the time at which the weather has been measured. -/
def Lawful (code : ℤ) (res : String) : Prop :=
  ∃ changes, result x code res = some changes ∧
    ∀ change ∈ changes, code = 200 ∧ ∃ time, Valid x res time ∧
      ∀ icon condition service ts,
        change = .setWeatherInformation icon condition service ts → ts = time

/-- What the loops and the clock reject, whatever the answer says otherwise. -/
def Rejected (members : List (String × Value)) : Prop :=
  (∃ v, ("Response", v) ∈ members ∧ ∀ inner, v ≠ .object inner) ∨
    (∀ n, members.lookup "ReturnCode" ≠ some (.integer n)) ∨
    sensorMaxLifeTime < DateTime.difference x.now x.ts ∧ ∃ time, MeasuredAt x members time

/-- When the callback meets the law. -/
def Fits (code : ℤ) (res : String) : Prop :=
  code ≠ 200 ∨ x.json.jsonTokenerParse (cString res) = .null ∨
    (∃ members, x.json.jsonTokenerParse (cString res) = .object members ∧ Rejected x members) ∨
    Valid x res x.ts

variable {x} {r : Reply} {res : String} {members : List (String × Value)} {time : ℤ}

theorem parseISO8601_empty {c : Libc} (h : DateTime.parseISO8601 c "" = .ok time) : False := by
  cases h

theorem parse_responseStamp {v : Value} :
    DateTime.parseISO8601 x.libc (responseStamp v "") = .ok time ↔
      ∃ inner text, v = .object inner ∧ inner.lookup "MeasurementTime" = some (.string text) ∧
        DateTime.parseISO8601 x.libc (cString text) = .ok time := by
  constructor
  · intro h
    cases v
    case object inner =>
      rw [responseStamp] at h
      rcases hlookup : inner.lookup "MeasurementTime" with - | w
      · rw [hlookup] at h
        exact (parseISO8601_empty h).elim
      · rw [hlookup] at h
        cases w
        case string text => exact ⟨inner, text, rfl, hlookup, h⟩
        all_goals exact (parseISO8601_empty h).elim
    all_goals exact (parseISO8601_empty h).elim
  · rintro ⟨inner, text, rfl, hlookup, h⟩
    rw [responseStamp, hlookup]
    exact h

theorem parse_weatherTime (hparse : x.json.jsonTokenerParse (cString res) = .object members)
    (h : members.foldlM readMember {} = .ok r) :
    DateTime.parseISO8601 x.libc r.weatherTime = .ok time ↔ MeasuredAt x members time := by
  rw [weatherTime_foldlM (x.json.keys hparse) (x.json.innerKeys hparse) h, MeasuredAt]
  rcases hlookup : members.lookup "Response" with - | v
  · refine iff_of_false parseISO8601_empty ?_
    rintro ⟨inner, text, hresponse, -⟩
    cases hresponse
  · refine parse_responseStamp.trans (exists_congr fun inner => exists_congr fun text => ?_)
    rw [Option.some.injEq]

theorem returnCode_iff (hparse : x.json.jsonTokenerParse (cString res) = .object members)
    (h : members.foldlM readMember {} = .ok r) :
    r.returnCodeSeen = true ↔ ∃ n, members.lookup "ReturnCode" = some (.integer n) := by
  have hcode : r.returnCodeSeen = (Reply.code r).1 := rfl
  rw [hcode, code_foldlM (x.json.keys hparse) h]
  rcases members.lookup "ReturnCode" with - | v
  · refine iff_of_false Bool.false_ne_true ?_
    rintro ⟨n, hn⟩
    cases hn
  · cases v
    case integer n => exact iff_of_true rfl ⟨n, rfl⟩
    all_goals
      refine iff_of_false Bool.false_ne_true ?_
      rintro ⟨n, hn⟩
      cases hn

theorem age_gt_iff : age x r > sensorMaxLifeTime ↔
    sensorMaxLifeTime < DateTime.difference x.now x.ts ∧
      ∃ time, DateTime.parseISO8601 x.libc r.weatherTime = .ok time := by
  rw [age]
  rcases DateTime.parseISO8601 x.libc r.weatherTime with what | time
  · refine iff_of_false (show ¬ (0 : ℤ) > sensorMaxLifeTime by decide) ?_
    rintro ⟨-, time, h⟩
    cases h
  · exact (and_iff_left ⟨time, rfl⟩).symm

theorem take_ne_nil : take x r ≠ [] := by
  exact cons_ne_nil _ _

theorem mem_take_iff {icon condition service : String} {ts : ℤ} :
    .setWeatherInformation icon condition service ts ∈ take x r ↔
      icon = r.weatherIconID ∧ condition = r.weatherConditionID ∧ service = r.weatherService ∧
        ts = x.ts := by
  rw [take]
  split_ifs <;> simp

theorem store_eq_nil_iff : store x r = [] ↔ r.returnCodeSeen = false ∨
    sensorMaxLifeTime < DateTime.difference x.now x.ts ∧
      ∃ time, DateTime.parseISO8601 x.libc r.weatherTime = .ok time := by
  rw [← age_gt_iff, store]
  cases r.returnCodeSeen
  · exact iff_of_true rfl (Or.inl rfl)
  · by_cases hage : age x r > sensorMaxLifeTime
    · simp [hage]
    · simp [hage, take_ne_nil]

theorem store_of_ne_nil (h : store x r ≠ []) : store x r = take x r := by
  rw [store] at h ⊢
  split_ifs at h ⊢
  all_goals first | exact absurd rfl h | rfl

theorem rejected_iff (hparse : x.json.jsonTokenerParse (cString res) = .object members)
    (h : members.foldlM readMember {} = .ok r) : Rejected x members ↔ store x r = [] := by
  have htyped := foldlM_readMember_isOk.1 ⟨r, h⟩
  have hseen : r.returnCodeSeen = false ↔
      ∀ n, members.lookup "ReturnCode" ≠ some (.integer n) := by
    rw [← Bool.not_eq_true, returnCode_iff hparse h, not_exists]
  rw [store_eq_nil_iff, hseen]
  simp only [parse_weatherTime hparse h]
  refine or_iff_right ?_
  rintro ⟨v, hmem, hnot⟩
  obtain ⟨inner, hinner⟩ := htyped v hmem
  exact hnot inner hinner

/-- What is taken is to be taken if it has been measured right now, and no return code tells of
an error. -/
theorem lawful_take_iff :
    (∀ change ∈ take x r, ∃ time, Valid x res time ∧ ∀ icon condition service ts,
      change = .setWeatherInformation icon condition service ts → ts = time) ↔
      Valid x res x.ts := by
  constructor
  · intro h
    obtain ⟨time, hvalid, htime⟩ := h _ (mem_take_iff.2 ⟨rfl, rfl, rfl, rfl⟩)
    rw [htime _ _ _ _ rfl]
    exact hvalid
  · rintro hvalid change hmem
    refine ⟨x.ts, hvalid, ?_⟩
    rintro icon condition service ts rfl
    exact (mem_take_iff.1 hmem).2.2.2

theorem lawful_iff_of_eq {changes : List Change} (h : result x 200 res = some changes) :
    Lawful x 200 res ↔ ∀ change ∈ changes, ∃ time, Valid x res time ∧
      ∀ icon condition service ts,
        change = .setWeatherInformation icon condition service ts → ts = time := by
  rw [Lawful, h]
  simp

theorem result_eq (x : Setting) (res : String) : result x 200 res =
    match x.json.jsonTokenerParse (cString res) with
    | .null => some []
    | .object members =>
      match members.foldlM readMember {} with
      | .error _ => some []
      | .ok r => some (store x r)
    | _ => none :=
  if_neg (not_not.mpr rfl)

theorem lawful_object_iff (hparse : x.json.jsonTokenerParse (cString res) = .object members) :
    Lawful x 200 res ↔ Rejected x members ∨ Valid x res x.ts := by
  have hresult := result_eq x res
  rw [hparse] at hresult
  dsimp only at hresult
  rcases hrun : members.foldlM readMember {} with what | r
  · -- some `Response` is no object
    rw [hrun] at hresult
    refine iff_of_true ((lawful_iff_of_eq hresult).mpr (forall_mem_nil _)) (Or.inl ?_)
    by_contra hnot
    rw [Rejected, not_or] at hnot
    obtain ⟨r, hr⟩ := foldlM_readMember_isOk (r := {}).mpr fun v hmem => by
      by_contra hno
      exact hnot.1 ⟨v, hmem, fun inner hinner => hno ⟨inner, hinner⟩⟩
    rw [hrun] at hr
    cases hr
  · rw [hrun] at hresult
    rw [lawful_iff_of_eq hresult, rejected_iff hparse hrun]
    by_cases hnil : store x r = []
    · rw [hnil]
      exact iff_of_true (forall_mem_nil _) (Or.inl rfl)
    · rw [store_of_ne_nil hnil, lawful_take_iff, or_iff_right take_ne_nil]

theorem not_lawful_of_result_eq_none (h : result x 200 res = none) : ¬ Lawful x 200 res := by
  rintro ⟨changes, hchanges, -⟩
  rw [h] at hchanges
  cases hchanges

theorem not_fits_of_ne (hnull : x.json.jsonTokenerParse (cString res) ≠ .null)
    (hobject : ∀ members, x.json.jsonTokenerParse (cString res) ≠ .object members) :
    ¬ Fits x 200 res := by
  rintro (h | h | ⟨members, h, -⟩ | ⟨members, h, -⟩)
  · exact h rfl
  · exact hnull h
  · exact hobject members h
  · exact hobject members h

/-- **What the callback stores**: it meets the law exactly where it stores nothing, or where the
weather has been measured in the second in which it is stored. -/
theorem result_lawful_iff (x : Setting) (code : ℤ) (res : String) :
    Lawful x code res ↔ Fits x code res := by
  by_cases hcode : code = 200
  · subst hcode
    have hresult := result_eq x res
    cases hparse : x.json.jsonTokenerParse (cString res) with
    | object members =>
      rw [lawful_object_iff hparse, Fits, hparse]
      simp
    | null =>
      rw [hparse] at hresult
      exact iff_of_true ⟨[], hresult, forall_mem_nil _⟩ (Or.inr (Or.inl hparse))
    | _ =>
      rw [hparse] at hresult
      exact iff_of_false (not_lawful_of_result_eq_none hresult)
        (not_fits_of_ne (by simp [hparse]) (by simp [hparse]))
  · exact iff_of_true ⟨[], if_pos hcode, forall_mem_nil _⟩ (Or.inl hcode)

end Law

def refusal : String := "\x7b\"ReturnCode\":5\x7d"

def refused : Setting where
  libc :=
    { strptime _ _ := none
      strtod text := { value := 0, unread := true, rest := text, range := false }
      zone := TimeZone.fixed 0 }
  json :=
    { jsonTokenerParse body :=
        if body = refusal then .object [("ReturnCode", .integer 5)] else .null
      keys h := by
        split_ifs at h
        obtain rfl := Value.object.inj h
        decide
      innerKeys h hmem := by
        split_ifs at h
        obtain rfl := Value.object.inj h
        cases (Prod.mk.inj (List.mem_singleton.mp hmem)).2 }
  now := 1421316900
  ts := 1421316900
  isSensorAssigned := false

/-- The error is stored as the weather. -/
theorem result_lawful_fails : ¬ Lawful refused 200 refusal := by
  rintro ⟨changes, hchanges, h⟩
  obtain rfl := Option.some.inj hchanges
  obtain ⟨-, time, ⟨members, hmembers, hcode, -⟩, -⟩ := h _ mem_cons_self
  obtain rfl := Value.object.inj hmembers
  cases hcode

end Weather

end Dss
