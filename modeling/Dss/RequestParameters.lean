import Dss.MachineIntegers
import Dss.MarkedRecords
import Dss.PropertyParser
import Dss.Replacing
import Dss.StringLists

/-!
# The parameters of a request

`tryGetParameter` looks a name up in a query string as a text: it searches for `&`, the name and
`=`, and what follows up to the next `&` is decoded. The typed getters parse the text through a
wider type. A number that the type cannot represent is cut, where the getter should refuse it.

`urlDecode` itself goes by positions: it keeps the one behind the last escape that it has read, and
asks for the text in front of the next one and for two characters of it. Every part that it asks for
lies within the text.

`strToInt` and `strToUInt`, through which the file parser reads integers as well, go through a
wider type in the same way.
-/

namespace Dss

open List Option

namespace RestfulRequest

open MarkedRecords

/-- A `std::string`, as bytes. -/
abbrev Text : Type := List UInt8

def text (s : String) : Text := s.toList.map Char.toUInt8

def ampersand : UInt8 := '&'.toUInt8

def equals : UInt8 := '='.toUInt8

def percent : UInt8 := '%'.toUInt8

def plus : UInt8 := '+'.toUInt8

def space : UInt8 := ' '.toUInt8

/-! ## The code -/

/-- `strtol` with base 16, of two characters at most, which leave no room for a prefix. -/
def strtolHex (cs : List Char) : ℤ × List Char :=
  let signed := takeSign (cs.dropWhile isSpace)
  match magnitude? 16 signed.2 with
  | none => (0, cs)
  | some (n, rest) => (if signed.1 then -n else n, rest)

/-- The byte behind a `%`, if it is one. -/
def hexByte (a b : UInt8) : Option UInt8 :=
  let (value, rest) := strtolHex (([a, b].map Char.ofUInt8).takeWhile (· ≠ '\x00'))
  if rest = [] then some (UInt8.ofNat (value % 256).toNat) else none

def plusToSpace (b : UInt8) : UInt8 := if b = plus then space else b

/-- The loop of `urlDecode`, unless it meets a `%` that no byte follows. The last two characters
are no byte. -/
def urlDecodeFrom : Text → Option Text
  | a :: b :: c :: rest =>
    if a = percent then (hexByte b c).bind fun x => (urlDecodeFrom rest).map (x :: ·)
    else (urlDecodeFrom (b :: c :: rest)).map (plusToSpace a :: ·)
  | short => some (short.map plusToSpace)

def urlDecode (t : Text) : Text := (urlDecodeFrom t).getD t

/-- `m_queryString`, for the query part of an URL. -/
def queryString (params : Text) : Text := ampersand :: params

def tryGetParameter (query name : Text) : Option Text :=
  (findBehind (ampersand :: (name ++ [equals])) query).map fun behind =>
    urlDecode (behind.takeWhile (· ≠ ampersand))

def getParameter (query name : Text) : Text := (tryGetParameter query name).getD []

/-- `urlEncode`, given `curl_easy_escape`. -/
def urlEncode (curlEasyEscape : Text → Text) (t : Text) : Text := curlEasyEscape t

/-! ## Looking up -/

def isUnreserved (b : UInt8) : Bool :=
  let c := Char.ofUInt8 b
  c.isAlphanum || c = '-' || c = '.' || c = '_' || c = '~'

def hexDigit (n : UInt8) : UInt8 := if n < 10 then 48 + n else 55 + n

/-- What libcurl says of `curl_easy_escape`. -/
structure Escapes (curlEasyEscape : Text → Text) : Prop where
  nil : curlEasyEscape [] = []
  unreserved : ∀ b t, isUnreserved b = true → curlEasyEscape (b :: t) = b :: curlEasyEscape t
  reserved : ∀ b t, isUnreserved b = false → curlEasyEscape (b :: t) =
    percent :: hexDigit (b / 16) :: hexDigit (b % 16) :: curlEasyEscape t

structure Named (pairs : List (Text × Text)) : Prop where
  ne_nil : ∀ p ∈ pairs, p.1 ≠ []
  unreserved : ∀ p ∈ pairs, ∀ b ∈ p.1, isUnreserved b = true
  nul_free : ∀ p ∈ pairs, 0 ∉ p.2

def build (curlEasyEscape : Text → Text) (pairs : List (Text × Text)) : Text :=
  List.intercalate [ampersand]
    (pairs.map fun p => p.1 ++ equals :: urlEncode curlEasyEscape p.2)

def Lookup (curlEasyEscape : Text → Text) (pairs : List (Text × Text)) (name : Text) : Prop :=
  tryGetParameter (queryString (build curlEasyEscape pairs)) name =
    (pairs.find? (·.1 = name)).map (·.2)

section Lookup

variable {curlEasyEscape : Text → Text} {a b : UInt8} {t name : Text}
  {pairs : List (Text × Text)}

theorem hexDigit_spec (b : UInt8) :
    hexByte (hexDigit (b / 16)) (hexDigit (b % 16)) = some b ∧
      hexDigit (b / 16) ≠ ampersand ∧ hexDigit (b / 16) ≠ equals ∧
      hexDigit (b % 16) ≠ ampersand ∧ hexDigit (b % 16) ≠ equals := by
  have hall : ∀ n < 256,
      hexByte (hexDigit (UInt8.ofNat n / 16)) (hexDigit (UInt8.ofNat n % 16)) =
        some (UInt8.ofNat n) ∧
      hexDigit (UInt8.ofNat n / 16) ≠ ampersand ∧ hexDigit (UInt8.ofNat n / 16) ≠ equals ∧
      hexDigit (UInt8.ofNat n % 16) ≠ ampersand ∧ hexDigit (UInt8.ofNat n % 16) ≠ equals := by
    decide +kernel
  have hb := hall b.toNat b.toNat_lt
  rwa [UInt8.ofNat_toNat] at hb

theorem urlDecodeFrom_cons (h : a ≠ percent) :
    urlDecodeFrom (a :: t) = (urlDecodeFrom t).map (plusToSpace a :: ·) := by
  rcases t with - | ⟨b, - | ⟨c, t⟩⟩
  · rfl
  · rfl
  · rw [urlDecodeFrom, if_neg h]

theorem unreserved_spec (h : isUnreserved b = true) :
    b ≠ ampersand ∧ b ≠ equals ∧ b ≠ percent ∧ plusToSpace b = b := by
  refine ⟨?_, ?_, ?_, if_neg ?_⟩ <;> rintro rfl <;> exact absurd h (by decide)

theorem urlDecodeFrom_urlEncode (h : Escapes curlEasyEscape) (t : Text) :
    urlDecodeFrom (urlEncode curlEasyEscape t) = some t := by
  unfold urlEncode
  induction t with
  | nil => rw [h.nil]; rfl
  | cons b t ih =>
    cases hb : isUnreserved b with
    | true =>
      obtain ⟨-, -, hpercent, hplus⟩ := unreserved_spec hb
      rw [h.unreserved b t hb, urlDecodeFrom_cons hpercent, ih, map_some, hplus]
    | false =>
      rw [h.reserved b t hb, urlDecodeFrom, if_pos rfl, (hexDigit_spec b).1, bind_some, ih,
        map_some]

theorem urlDecode_urlEncode (h : Escapes curlEasyEscape) (t : Text) :
    urlDecode (urlEncode curlEasyEscape t) = t := by
  rw [urlDecode, urlDecodeFrom_urlEncode h, getD_some]

theorem not_mem_urlEncode (h : Escapes curlEasyEscape) (t : Text) :
    ampersand ∉ urlEncode curlEasyEscape t ∧ equals ∉ urlEncode curlEasyEscape t := by
  unfold urlEncode
  induction t with
  | nil => rw [h.nil]; exact ⟨not_mem_nil, not_mem_nil⟩
  | cons b t ih =>
    cases hb : isUnreserved b with
    | true =>
      obtain ⟨hampersand, hequals, -, -⟩ := unreserved_spec hb
      rw [h.unreserved b t hb, mem_cons, mem_cons, not_or, not_or]
      exact ⟨⟨hampersand.symm, ih.1⟩, hequals.symm, ih.2⟩
    | false =>
      obtain ⟨-, hhigh, hhigh', hlow, hlow'⟩ := hexDigit_spec b
      rw [h.reserved b t hb]
      simp only [mem_cons, not_or]
      exact ⟨⟨by decide, hhigh.symm, hlow.symm, ih.1⟩, by decide, hhigh'.symm, hlow'.symm, ih.2⟩

/-- **Query parameter lookup:** the value of the first pair of the name, or none. -/
theorem tryGetParameter_lookup (hescapes : Escapes curlEasyEscape) (hnamed : Named pairs)
    (hname : ampersand ∉ name) : Lookup curlEasyEscape pairs name := by
  unfold Lookup tryGetParameter queryString build
  cases pairs with
  | nil =>
    have hnone : ¬ ampersand :: (name ++ [equals]) <+: [ampersand] := by
      intro hpre
      have hlength := hpre.length_le
      simp at hlength
    simp [findBehind, hnone]
  | cons p pairs =>
    generalize hpairs : p :: pairs = all at hnamed ⊢
    have hplain : ∀ r ∈ all.map fun p => (p.1, urlEncode curlEasyEscape p.2),
        Plain ampersand equals r := by
      intro r hr
      obtain ⟨q, hq, rfl⟩ := mem_map.mp hr
      obtain ⟨hampersand, hequals⟩ := not_mem_urlEncode hescapes q.2
      have hkey := hnamed.unreserved q hq
      exact ⟨fun hmem => (unreserved_spec (hkey _ hmem)).1 rfl,
        fun hmem => (unreserved_spec (hkey _ hmem)).2.1 rfl, hampersand, hequals⟩
    have hne : all.map (fun p => (p.1, urlEncode curlEasyEscape p.2)) ≠ [] := by
      rw [← hpairs]
      exact cons_ne_nil _ _
    have hfind := findBehind_flatMap (by decide) hplain hname
    rw [← cons_intercalate hne, List.map_map, find?_map, Option.map_map] at hfind
    have hdecode := congrArg (Option.map urlDecode) hfind
    rw [Option.map_map, Option.map_map] at hdecode
    refine hdecode.trans (congrFun (congrArg Option.map (funext fun p => ?_)) _)
    exact urlDecode_urlEncode hescapes p.2

/-- `curl_easy_escape` with capital digits. -/
def percentEscape (t : Text) : Text :=
  t.flatMap fun b =>
    if isUnreserved b then [b] else [percent, hexDigit (b / 16), hexDigit (b % 16)]

theorem escapes_percentEscape : Escapes percentEscape where
  nil := rfl
  unreserved b t hb := by
    rw [percentEscape, flatMap_cons, hb]
    rfl
  reserved b t hb := by
    rw [percentEscape, flatMap_cons, hb]
    rfl

theorem unreserved_of_all {pairs : List (Text × Text)}
    (h : pairs.all (fun p => p.1.all isUnreserved) = true) :
    ∀ p ∈ pairs, ∀ b ∈ p.1, isUnreserved b = true := fun p hp =>
  all_eq_true.mp (all_eq_true.mp h p hp)

theorem tryGetParameter_lookup_floor :
    Lookup percentEscape [(text "zone", text "1&2"), (text "name", text "50 %")] (text "name") :=
  tryGetParameter_lookup escapes_percentEscape
    { ne_nil := by decide, unreserved := unreserved_of_all (by decide), nul_free := by decide }
    (by decide)

/-- A name with a `&` is found across two pairs. -/
theorem lookup_fails : Escapes percentEscape ∧
    Named [(text "x", text "1"), (text "y", text "2")] ∧
    ¬ Lookup percentEscape [(text "x", text "1"), (text "y", text "2")] (text "x=1&y") :=
  ⟨escapes_percentEscape,
    { ne_nil := by decide, unreserved := unreserved_of_all (by decide), nul_free := by decide },
    by unfold Lookup; decide⟩

end Lookup

/-! ## Decoding by positions -/

namespace ByPosition

open StringList (find)

inductive Failure : Type where
  /-- not all of a part that is read lies within the text -/
  | misread (pos count : ℕ) : Failure
  /-- the loop goes on -/
  | endless : Failure
  deriving DecidableEq

/-- `substr`. The standard cuts a part off at the end of the text, which counts as a misread. -/
def substr (str : Text) (pos count : ℕ) : Except Failure Text :=
  if pos + count ≤ str.length then .ok ((str.drop pos).take count)
  else .error (.misread pos count)

/-- `replaceAll`, for a plus -/
def replacePlus (add : Text) : Text := Replacing.replaceAll [plus] [space] add

/-- What `strtol` makes of two characters, if it reads them to the end. -/
def parseHex (hex : Text) : Option UInt8 :=
  let (value, rest) := strtolHex ((hex.map Char.ofUInt8).takeWhile (· ≠ '\x00'))
  if rest = [] then some (UInt8.ofNat (value % 256).toNat) else none

/-- What `urlDecode` does behind its loop. -/
def finish (input : Text) (lastPos : ℕ) (result : Text) : Except Failure Text :=
  if lastPos < input.length then
    (substr input lastPos (input.length - lastPos)).map fun rest => result ++ replacePlus rest
  else .ok result

/-- What a turn adds of the text in front of an escape. -/
def addFront (input : Text) (lastPos pos : ℕ) (result : Text) : Except Failure Text :=
  if lastPos ≠ pos then
    (substr input lastPos (pos - lastPos)).map fun add => result ++ replacePlus add
  else .ok result

def decodeLoop (input : Text) : ℕ → ℕ → Option ℕ → Text → Except Failure Text
  | 0, _, _, _ => .error .endless
  | _ + 1, lastPos, none, result => finish input lastPos result
  | fuel + 1, lastPos, some pos, result =>
    if pos + 2 < input.length then do
      let result ← addFront input lastPos pos result
      let hex ← substr input (pos + 1) 2
      match parseHex hex with
      | none => .ok input
      | some tmp =>
        decodeLoop input fuel (pos + 3) (find input percent (pos + 3)) (result ++ [tmp])
    else finish input lastPos result

def urlDecode (input : Text) : Except Failure Text :=
  decodeLoop input (input.length + 1) 0 (find input percent 0) []

variable {front xs rest result : Text} {fuel : ℕ}

theorem substr_append (front xs rest : Text) :
    substr (front ++ (xs ++ rest)) front.length xs.length = .ok xs := by
  have hin : front.length + xs.length ≤ (front ++ (xs ++ rest)).length := by
    simp only [length_append]
    omega
  rw [substr, if_pos hin, drop_left, take_left]

theorem replacePlus_eq (add : Text) : replacePlus add = add.map plusToSpace := by
  rw [replacePlus, Replacing.replaceAll_singleton, map_eq_flatMap]
  refine flatMap_congr fun b _ => ?_
  unfold plusToSpace
  split_ifs <;> rfl

theorem finish_append (front rest result : Text) :
    finish (front ++ rest) front.length result = .ok (result ++ rest.map plusToSpace) := by
  unfold finish
  split_ifs with hin
  · have hpart := substr_append front rest []
    rw [append_nil] at hpart
    rw [length_append, Nat.add_sub_cancel_left, hpart]
    exact congrArg (fun text => Except.ok (result ++ text)) (replacePlus_eq rest)
  · have hrest : rest = [] := by
      rw [length_append] at hin
      exact length_eq_zero_iff.mp (by omega)
    rw [hrest, map_nil, append_nil]

theorem addFront_append (front xs rest result : Text) :
    addFront (front ++ (xs ++ rest)) front.length (front.length + xs.length) result =
      .ok (result ++ xs.map plusToSpace) := by
  unfold addFront
  split_ifs with hne
  · rw [Nat.add_sub_cancel_left, substr_append]
    exact congrArg (fun text => Except.ok (result ++ text)) (replacePlus_eq xs)
  · have hxs : xs = [] := length_eq_zero_iff.mp (by omega)
    rw [hxs, map_nil, append_nil]

theorem urlDecodeFrom_append (h : percent ∉ xs) :
    urlDecodeFrom (xs ++ rest) = (urlDecodeFrom rest).map (xs.map plusToSpace ++ ·) := by
  induction xs with
  | nil => exact map_id'.symm
  | cons x xs ih =>
    obtain ⟨hx, hxs⟩ := not_or.mp fun hmem => h (mem_cons.mpr hmem)
    rw [cons_append, urlDecodeFrom_cons (Ne.symm hx), ih hxs, Option.map_map]
    rfl

theorem urlDecodeFrom_of_short (h : rest.length ≤ 2) :
    urlDecodeFrom rest = some (rest.map plusToSpace) := by
  rcases rest with - | ⟨a, - | ⟨b, - | ⟨c, rest⟩⟩⟩
  · rfl
  · rfl
  · rfl
  · simp only [length_cons] at h
    omega

/-- **The loop** from the start of what is left on. -/
theorem decodeLoop_spec (hfuel : rest.length < fuel) :
    decodeLoop (front ++ rest) fuel front.length (find (front ++ rest) percent front.length)
        result =
      .ok ((urlDecodeFrom rest).elim (front ++ rest) (result ++ ·)) := by
  induction fuel generalizing front rest result with
  | zero => exact absurd hfuel (Nat.not_lt_zero _)
  | succ fuel ih =>
    by_cases hmem : percent ∈ rest
    · obtain ⟨xs, behind, rfl, hxs⟩ := eq_append_cons_of_mem hmem
      have hlength : (front ++ (xs ++ percent :: behind)).length =
          front.length + xs.length + 1 + behind.length := by
        simp only [length_append, length_cons]
        omega
      rw [StringList.find_append hxs, decodeLoop, urlDecodeFrom_append hxs]
      rcases lt_or_ge behind.length 2 with hshort | hlong
      · have hrest : (percent :: behind).length ≤ 2 := Nat.succ_le_of_lt hshort
        rw [if_neg (by omega), finish_append, urlDecodeFrom_of_short hrest, map_append]
        rfl
      · obtain ⟨b, c, behind, rfl⟩ : ∃ b c rest, behind = b :: c :: rest := by
          rcases behind with - | ⟨b, - | ⟨c, behind⟩⟩
          · simp at hlong
          · simp at hlong
          · exact ⟨b, c, behind, rfl⟩
        have hhex : substr (front ++ (xs ++ percent :: b :: c :: behind))
            (front.length + xs.length + 1) 2 = .ok [b, c] := by
          have h := substr_append (front ++ (xs ++ [percent])) [b, c] behind
          simpa [Nat.add_assoc] using h
        have hbyte : parseHex [b, c] = hexByte b c := rfl
        rw [if_pos (by omega), addFront_append,
          urlDecodeFrom]
        dsimp only [bind, Except.bind]
        rw [hhex]
        dsimp only
        rw [hbyte]
        cases hexByte b c with
        | none => rfl
        | some tmp =>
          have hline : front ++ (xs ++ percent :: b :: c :: behind) =
              front ++ (xs ++ [percent, b, c]) ++ behind := by
            simp
          have hplace : front.length + xs.length + 3 =
              (front ++ (xs ++ [percent, b, c])).length := by
            simp [Nat.add_assoc]
          have hin : behind.length < fuel := by
            simp only [length_append, length_cons] at hfuel
            omega
          dsimp only
          rw [hplace, hline, ih hin]
          cases urlDecodeFrom behind with
          | none => rfl
          | some text => simp
    · have hread : urlDecodeFrom (rest ++ []) =
          (urlDecodeFrom []).map (rest.map plusToSpace ++ ·) := urlDecodeFrom_append hmem
      rw [append_nil] at hread
      rw [StringList.find_append_of_not_mem hmem, decodeLoop, finish_append, hread]
      simp [urlDecodeFrom]

theorem urlDecode_eq (input : Text) : urlDecode input = .ok (RestfulRequest.urlDecode input) := by
  have hloop := @decodeLoop_spec [] input [] (input.length + 1) (Nat.lt_succ_self _)
  rw [RestfulRequest.urlDecode]
  refine hloop.trans (congrArg Except.ok ?_)
  cases urlDecodeFrom input <;> rfl

/-- **Decoding** inverts encoding, and whatever the text is it reads nothing outside of it. -/
theorem urlDecode_inverts {curlEasyEscape : Text → Text} (h : Escapes curlEasyEscape) :
    (∀ s, 0 ∉ s → urlDecode (urlEncode curlEasyEscape s) = .ok s) ∧
      ∀ input, ∃ result, urlDecode input = .ok result := by
  refine ⟨fun s _ => ?_, fun input => ⟨_, urlDecode_eq input⟩⟩
  rw [urlDecode_eq, urlDecode_urlEncode h]

/-- The escapes are percent signs with two capital digits. -/
theorem urlDecode_inverts_percentEscape :
    urlDecode (urlEncode percentEscape [0xff, plus, percent]) = .ok [0xff, plus, percent] ∧
      ∃ result, urlDecode [percent, 0x34] = .ok result :=
  ⟨(urlDecode_inverts escapes_percentEscape).1 _ (by decide),
    (urlDecode_inverts escapes_percentEscape).2 _⟩

end ByPosition

/-! ## The typed getters -/

open MachineIntegers IntType

def asString (t : Text) : String := String.ofList (t.map Char.ofUInt8)

inductive ParameterType : Type where
  | int | unsignedInt | uint8 | uint16 | bool
  deriving DecidableEq

def ParameterType.Value : ParameterType → Type
  | int => int32.Value
  | unsignedInt => uint32.Value
  | uint8 => IntType.uint8.Value
  | uint16 => IntType.uint16.Value
  | bool => Bool

section Getters

variable (query name : Text)

/-- A getter that parses the text: what it returns, and the variable afterwards. -/
def getParsed {V : Type} (parse : String → Option V) (out : V) : Bool × V :=
  let tmp := getParameter query name
  if tmp = [] then (false, out)
  else
    match parse (asString tmp) with
    | some value => (true, value)
    | none => (false, out)

/-- `getParameter<int>` -/
def getInt : int32.Value → Bool × int32.Value :=
  getParsed query name fun s => (parseInt? s).map int32.cast

/-- `getParameter<unsigned int>`, `getParameter<uint8_t>` and `getParameter<uint16_t>` -/
def getUnsigned (t : IntType) : t.Value → Bool × t.Value :=
  getParsed query name fun s => (parseUInt? s).map fun n : ℕ => t.cast n

/-- `getParameter<bool>` -/
def getBool (out : Bool) : Bool × Bool :=
  let tmp := getParameter query name
  if tmp = [] then (false, out)
  else
    let value := strToIntDef (asString tmp) (-1)
    if 0 ≤ value then
      (true, if value = 0 then false else if value = 1 then true else out)
    else if asString tmp = "true" then (true, true)
    else if asString tmp = "false" then (true, false)
    else (false, out)

def getParameterAs : (t : ParameterType) → t.Value → Bool × t.Value
  | .int => getInt query name
  | .unsignedInt => getUnsigned query name uint32
  | .uint8 => getUnsigned query name IntType.uint8
  | .uint16 => getUnsigned query name IntType.uint16
  | .bool => getBool query name

end Getters

/-! ## What a text denotes -/

def wholeNumber (s : String) : Option ℤ := if '\x00' ∈ s.toList then none else denotedInt? s

def flag (n : ℤ) : Option Bool := if n = 0 then some false else if n = 1 then some true else none

def denotedBool (s : String) : Option Bool :=
  if s = "true" then some true
  else if s = "false" then some false
  else (wholeNumber s).bind flag

def denotes : (t : ParameterType) → String → Option t.Value
  | .int, s => (wholeNumber s).bind int32.check
  | .unsignedInt, s => (wholeNumber s).bind uint32.check
  | .uint8, s => (wholeNumber s).bind IntType.uint8.check
  | .uint16, s => (wholeNumber s).bind IntType.uint16.check
  | .bool, s => denotedBool s

def expected {V : Type} (out : V) : Option V → Bool × V
  | some value => (true, value)
  | none => (false, out)

/-- A getter returns true iff the parameter denotes a value of the type, and then has this value
in the variable. -/
def LawfulGetter (query name : Text) (t : ParameterType) (out : t.Value) : Prop :=
  getParameterAs query name t out =
    expected out ((tryGetParameter query name).bind fun tmp => denotes t (asString tmp))

/-! ## The condition -/

def ParameterType.Represents : ParameterType → ℤ → Prop
  | int, n => int32.Fits n
  | unsignedInt, n => uint32.Fits n
  | uint8, n => IntType.uint8.Fits n
  | uint16, n => IntType.uint16.Fits n
  | bool, n => n = 0 ∨ n = 1

/-- What becomes of a number in a `long` that is then an `int`. -/
def longToInt (n : ℤ) : ℤ := (max (-2 ^ 63) (min n (2 ^ 63 - 1))).bmod (2 ^ 32)

/-- The text is not cut at once, and a number that it is up to the first NUL is all of it, and a
value of the type; or, for a `bool`, one that becomes a negative `int`. -/
structure FitsType (t : ParameterType) (s : String) : Prop where
  head : s.toList.head? ≠ some '\x00'
  number : ∀ n, denotedInt? s = some n →
    ('\x00' ∉ s.toList ∧ t.Represents n) ∨ (t = .bool ∧ longToInt n < 0)

/-! ## The parsers -/

section Parsers

variable {s : String} {n : ℤ} {t : IntType}

/-- What `c_str` shows of a text that is not cut at once. -/
theorem takeWhile_ne_nil (hne : s ≠ "") (hhead : s.toList.head? ≠ some '\x00') :
    s.toList.takeWhile (· ≠ '\x00') ≠ [] := by
  cases hs : s.toList with
  | nil => exact absurd (String.toList_eq_nil_iff.mp hs) hne
  | cons c cs =>
    have hc : c ≠ '\x00' := by
      rintro rfl
      exact hhead (by rw [hs]; rfl)
    rw [takeWhile_cons_of_pos (by simpa using hc)]
    exact cons_ne_nil _ _

theorem parse_of_not_head (hne : s ≠ "") (hhead : s.toList.head? ≠ some '\x00') :
    parseInt? s = (denotedInt? s).map longToInt ∧
      (parseUInt? s).isSome = (denotedInt? s).isSome := by
  have hcut := takeWhile_ne_nil hne hhead
  rw [parseInt?, if_neg hne, strtol_eq, parseUInt?, if_neg hne, strtoul_eq, denotedInt?]
  cases hnumeral : numeral? (s.toList.takeWhile (· ≠ '\x00')) with
  | none =>
    dsimp only [elim_none]
    rw [if_neg hcut, if_neg hcut]
    exact ⟨rfl, rfl⟩
  | some found =>
    obtain ⟨value, rest⟩ := found
    cases rest with
    | nil => exact ⟨rfl, rfl⟩
    | cons c rest => exact ⟨rfl, rfl⟩

theorem parse_of_head (hhead : s.toList.head? = some '\x00') :
    parseInt? s = some 0 ∧ parseUInt? s = some 0 ∧ '\x00' ∈ s.toList := by
  obtain ⟨cs, hcs⟩ := head?_eq_some_iff.mp hhead
  have hne : s ≠ "" := by
    rintro rfl
    cases hcs
  rw [parseInt?, parseUInt?, if_neg hne, if_neg hne, hcs]
  exact ⟨rfl, rfl, mem_cons_self⟩

theorem parseUInt?_map_cast (ht : t.low = 0) (hdvd : t.size ∣ 2 ^ 32)
    (hn : denotedInt? s = some n) (hfits : t.Fits n) :
    (parseUInt? s).map (fun m : ℕ => t.cast m) = some (t.cast n) := by
  have hle : t.size ≤ 2 ^ 32 := Int.le_of_dvd (by decide) hdvd
  obtain ⟨hlow, hhigh⟩ := hfits
  obtain ⟨m, hm, hmod⟩ := parseUInt?_of_denotedInt? hn (by omega)
  rw [hm]
  exact congrArg some (cast_eq_of_modEq (hmod ▸ (Int.mod_modEq n (2 ^ 32)).of_dvd hdvd))

theorem eq_check_iff {o : Option t.Value}
    (hhead : s.toList.head? = some '\x00' → o.isSome)
    (hisSome : s.toList.head? ≠ some '\x00' → o.isSome = (denotedInt? s).isSome)
    (hvalue : ∀ n, denotedInt? s = some n → t.Fits n → o = some (t.cast n)) :
    o = (wholeNumber s).bind t.check ↔
      s.toList.head? ≠ some '\x00' ∧
        ∀ n, denotedInt? s = some n → '\x00' ∉ s.toList ∧ t.Fits n := by
  have hnever (h : o.isSome) : o ≠ none := isSome_iff_ne_none.mp h
  by_cases hcut : s.toList.head? = some '\x00'
  · obtain ⟨-, -, hmem⟩ := parse_of_head hcut
    rw [wholeNumber, if_pos hmem]
    exact iff_of_false (hnever (hhead hcut)) fun h => h.1 hcut
  · have ho := hisSome hcut
    rw [and_iff_right hcut, wholeNumber]
    cases hn : denotedInt? s with
    | none =>
      rw [hn, isSome_none, isSome_eq_false_iff, isNone_iff_eq_none] at ho
      rw [ho, ite_self]
      exact iff_of_true rfl fun n h => by cases h
    | some n =>
      rw [hn] at ho
      by_cases hmem : '\x00' ∈ s.toList
      · rw [if_pos hmem]
        exact iff_of_false (hnever ho) fun h => (h n rfl).1 hmem
      · rw [if_neg hmem, bind_some]
        by_cases hfits : t.Fits n
        · rw [hvalue n hn hfits, eq_comm, check_eq_some_iff, val_cast hfits]
          exact iff_of_true rfl fun m h => by cases h; exact ⟨hmem, hfits⟩
        · rw [check, dif_neg hfits]
          exact iff_of_false (hnever ho) fun h => hfits (h n rfl).2

theorem parseUInt?_eq_iff (hne : s ≠ "") (ht : t.low = 0) (hdvd : t.size ∣ 2 ^ 32) :
    ((parseUInt? s).map fun n : ℕ => t.cast n) = (wholeNumber s).bind t.check ↔
      s.toList.head? ≠ some '\x00' ∧
        ∀ n, denotedInt? s = some n → '\x00' ∉ s.toList ∧ t.Fits n := by
  refine eq_check_iff (fun h => ?_) (fun h => ?_) fun n => parseUInt?_map_cast ht hdvd
  · rw [(parse_of_head h).2.1]
    rfl
  · rw [isSome_map, (parse_of_not_head hne h).2]

theorem parseInt?_eq_iff (hne : s ≠ "") :
    (parseInt? s).map int32.cast = (wholeNumber s).bind int32.check ↔
      s.toList.head? ≠ some '\x00' ∧
        ∀ n, denotedInt? s = some n → '\x00' ∉ s.toList ∧ int32.Fits n := by
  refine eq_check_iff (fun h => ?_) (fun h => ?_) fun n hn hrange => ?_
  · rw [(parse_of_head h).1]
    rfl
  · rw [isSome_map, (parse_of_not_head hne h).1, isSome_map]
  · obtain ⟨hlow, hhigh⟩ := hrange
    simp only [int32] at hlow hhigh
    rw [parseInt?_of_denotedInt? hn (by omega) (by omega)]
    rfl

/-- What `getParameter<bool>` makes of a text that is not empty. -/
def parsedBool (out : Bool) (s : String) : Option Bool :=
  if 0 ≤ strToIntDef s (-1) then
    some (if strToIntDef s (-1) = 0 then false
      else if strToIntDef s (-1) = 1 then true else out)
  else if s = "true" then some true
  else if s = "false" then some false
  else none

def parsed : (t : ParameterType) → t.Value → String → Option t.Value
  | .int, _, s => (parseInt? s).map int32.cast
  | .unsignedInt, _, s => (parseUInt? s).map fun n : ℕ => uint32.cast n
  | .uint8, _, s => (parseUInt? s).map fun n : ℕ => IntType.uint8.cast n
  | .uint16, _, s => (parseUInt? s).map fun n : ℕ => IntType.uint16.cast n
  | .bool, out, s => parsedBool out s

theorem getParsed_eq {V : Type} {query name : Text} (parse : String → Option V) (out : V) :
    getParsed query name parse out =
      if getParameter query name = [] then (false, out)
      else expected out (parse (asString (getParameter query name))) := by
  rw [getParsed]
  cases parse (asString (getParameter query name)) <;> rfl

theorem getBool_eq {query name : Text} (out : Bool) :
    getBool query name out =
      if getParameter query name = [] then (false, out)
      else expected out (parsedBool out (asString (getParameter query name))) := by
  rw [parsedBool]
  simp only [apply_ite (expected out)]
  rfl

theorem getParameterAs_eq {query name : Text} (t : ParameterType) (out : t.Value) :
    getParameterAs query name t out =
      if getParameter query name = [] then (false, out)
      else expected out (parsed t out (asString (getParameter query name))) := by
  cases t with
  | int => exact getParsed_eq (parsed .int out) out
  | unsignedInt => exact getParsed_eq (parsed .unsignedInt out) out
  | uint8 => exact getParsed_eq (parsed .uint8 out) out
  | uint16 => exact getParsed_eq (parsed .uint16 out) out
  | bool => exact getBool_eq out

theorem parsedBool_of_parseInt? {out : Bool} (htrue : s ≠ "true") (hfalse : s ≠ "false")
    (hint : parseInt? s = some n) :
    parsedBool out s =
      if 0 ≤ n then some (if n = 0 then false else if n = 1 then true else out) else none := by
  rw [parsedBool, strToIntDef, hint, getD_some, if_neg htrue, if_neg hfalse]

theorem flag_of_neg (hneg : longToInt n < 0) : flag n = none := by
  have hzero : n ≠ 0 := by rintro rfl; exact absurd hneg (by decide)
  have hone : n ≠ 1 := by rintro rfl; exact absurd hneg (by decide)
  rw [flag, if_neg hzero, if_neg hone]

theorem some_eq_flag_iff {value : Bool} (hzero : n = 0 → value = false)
    (hone : n = 1 → value = true) : some value = flag n ↔ n = 0 ∨ n = 1 := by
  rw [flag]
  split_ifs with h h'
  · exact iff_of_true (congrArg some (hzero h)) (Or.inl h)
  · exact iff_of_true (congrArg some (hone h')) (Or.inr h')
  · exact iff_of_false (fun heq => by cases heq) (not_or.mpr ⟨h, h'⟩)

theorem parsedBool_eq_denotedBool_iff {out : Bool} (hne : s ≠ "") :
    parsedBool out s = denotedBool s ↔ FitsType .bool s := by
  have hdenotes (htrue : s ≠ "true") (hfalse : s ≠ "false") :
      denotedBool s = (wholeNumber s).bind flag := by
    rw [denotedBool, if_neg htrue, if_neg hfalse]
  by_cases hcut : s.toList.head? = some '\x00'
  · obtain ⟨hint, -, hmem⟩ := parse_of_head hcut
    have htrue : s ≠ "true" := by rintro rfl; exact absurd hmem (by decide)
    have hfalse : s ≠ "false" := by rintro rfl; exact absurd hmem (by decide)
    rw [parsedBool_of_parseInt? htrue hfalse hint, hdenotes htrue hfalse, wholeNumber, if_pos hmem]
    exact iff_of_false (fun h => by cases h) fun h => h.head hcut
  · have hint := (parse_of_not_head hne hcut).1
    cases hn : denotedInt? s with
    | none =>
      have hnumber : FitsType .bool s := ⟨hcut, fun n h => by rw [hn] at h; cases h⟩
      refine iff_of_true ?_ hnumber
      rw [parsedBool, denotedBool, strToIntDef, hint, wholeNumber, hn, ite_self]
      rfl
    | some n =>
      rw [hn] at hint
      have htrue : s ≠ "true" := by rintro rfl; cases hn
      have hfalse : s ≠ "false" := by rintro rfl; cases hn
      have hfits : FitsType .bool s ↔
          ('\x00' ∉ s.toList ∧ (n = 0 ∨ n = 1)) ∨ longToInt n < 0 := by
        constructor
        · intro h
          exact (h.number n hn).imp_right And.right
        · refine fun h => ⟨hcut, fun m hm => ?_⟩
          obtain rfl := some.inj (hn.symm.trans hm)
          exact h.imp_right fun hneg => ⟨rfl, hneg⟩
      rw [parsedBool_of_parseInt? htrue hfalse hint, hdenotes htrue hfalse, wholeNumber, hn, hfits]
      by_cases hneg : longToInt n < 0
      · rw [if_neg (not_le.mpr hneg)]
        refine iff_of_true ?_ (Or.inr hneg)
        split_ifs
        · rfl
        · exact (flag_of_neg hneg).symm
      · rw [if_pos (not_lt.mp hneg), or_iff_left hneg]
        by_cases hmem : '\x00' ∈ s.toList
        · rw [if_pos hmem]
          exact iff_of_false (fun h => by cases h) fun h => h.1 hmem
        · rw [if_neg hmem, and_iff_right hmem]
          exact some_eq_flag_iff (fun h => by rw [h]; rfl) fun h => by rw [h]; rfl

theorem parsed_eq_denotes_iff (hne : s ≠ "") (t : ParameterType) (out : t.Value) :
    parsed t out s = denotes t s ↔ FitsType t s := by
  have hfits : t ≠ .bool → (FitsType t s ↔ s.toList.head? ≠ some '\x00' ∧
      ∀ n, denotedInt? s = some n → '\x00' ∉ s.toList ∧ t.Represents n) := by
    intro hbool
    refine ⟨fun h => ⟨h.head, fun n hn => (h.number n hn).resolve_right fun h => hbool h.1⟩, ?_⟩
    exact fun h => ⟨h.1, fun n hn => Or.inl (h.2 n hn)⟩
  cases t with
  | bool => exact parsedBool_eq_denotedBool_iff hne
  | int => exact (parseInt?_eq_iff hne).trans (hfits (by decide)).symm
  | unsignedInt | uint8 | uint16 =>
    exact (parseUInt?_eq_iff hne rfl (by decide)).trans (hfits (by decide)).symm

theorem expected_inj {V : Type} {out : V} {o o' : Option V} :
    expected out o = expected out o' ↔ o = o' := by
  cases o <;> cases o' <;> simp [expected]

end Parsers

/-! ## The law -/

/-- **Typed request parameters.** A getter does what it should iff the text of the parameter fits
its type. -/
theorem lawfulGetter_iff (query name : Text) (t : ParameterType) (out : t.Value) :
    LawfulGetter query name t out ↔
      ∀ tmp, tryGetParameter query name = some tmp → tmp ≠ [] → FitsType t (asString tmp) := by
  rw [LawfulGetter, getParameterAs_eq, getParameter]
  cases htmp : tryGetParameter query name with
  | none =>
    exact iff_of_true rfl fun tmp h => by cases h
  | some tmp =>
    rw [getD_some, bind_some]
    by_cases hnil : tmp = []
    · subst hnil
      refine iff_of_true ?_ fun tmp h hne => absurd (some.inj h).symm hne
      cases t <;> rfl
    · have hne : asString tmp ≠ "" := by
        intro h
        have hlist := congrArg String.toList h
        rw [asString, String.toList_ofList] at hlist
        exact hnil (map_eq_nil_iff.mp hlist)
      rw [if_neg hnil, expected_inj, parsed_eq_denotes_iff hne]
      refine ⟨fun h tmp' htmp' _ => ?_, fun h => h tmp rfl hnil⟩
      rwa [← some.inj htmp']

/-- 256 as a byte is 0. -/
theorem lawfulGetter_fails :
    ¬ LawfulGetter (text "&value=256") (text "value") .uint8 (IntType.uint8.cast 7) := by
  intro h
  exact absurd (congrArg Prod.fst h) (by decide)

end RestfulRequest

/-! ## The parsers of `base.cpp` -/

namespace NumberParsers

open MachineIntegers IntType PropertyTree
open RestfulRequest (wholeNumber parseInt?_eq_iff parseUInt?_eq_iff)

def couldNotParse (function strValue : String) : Exception :=
  .invalidArgument (function ++ ": Could not parse value: '" ++ strValue ++ "'")

def strToInt (strValue : String) : Except Exception int32.Value :=
  match parseInt? strValue with
  | some result => .ok (int32.cast result)
  | none => .error (couldNotParse "strToInt" strValue)

def strToIntDef (strValue : String) (default : int32.Value) : int32.Value :=
  match parseInt? strValue with
  | some result => int32.cast result
  | none => default

def strToUInt (strValue : String) : Except Exception uint32.Value :=
  match parseUInt? strValue with
  | some result => .ok (uint32.cast result)
  | none => .error (couldNotParse "strToUInt" strValue)

def strToUIntDef (strValue : String) (default : uint32.Value) : uint32.Value :=
  match parseUInt? strValue with
  | some result => uint32.cast result
  | none => default

/-- The integer of the type that the whole text denotes. -/
def denoted (t : IntType) (s : String) : Option t.Value := (wholeNumber s).bind t.check

/-- The two variants return what the text denotes, and throw, or return the default, if there is no
such number. It is also what the parser of property files stores. -/
structure LawfulParsers (t : IntType) (function : String) (parse : String → Except Exception t.Value)
    (parseDef : String → t.Value → t.Value) (type : ValueType) (value : t.Value → PropertyValue)
    (s : String) : Prop where
  returns : parse s = (denoted t s).elim (.error (couldNotParse function s)) .ok
  returnsDef : ∀ default, parseDef s default = (denoted t s).getD default
  stores : ∀ io, PropertyParser.valueFrom io type s =
    (denoted t s).elim (.error .forceStop) fun v => .ok (value v)

def LawfulInt : String → Prop :=
  LawfulParsers int32 "strToInt" strToInt strToIntDef .integer fun v => .integer v.val

def LawfulUInt : String → Prop :=
  LawfulParsers uint32 "strToUInt" strToUInt strToUIntDef .unsignedInteger
    fun v => .unsigned v.val.toNat

/-- The text is not cut at once, and a number that it is up to the first NUL is all of it and in
the range of the type. -/
structure InRange (t : IntType) (s : String) : Prop where
  head : s.toList.head? ≠ some '\x00'
  number : ∀ n, denotedInt? s = some n → '\x00' ∉ s.toList ∧ t.Fits n

variable {t : IntType} {s : String}

/-- What is parsed decides about both variants and about what is stored. -/
theorem lawfulParsers_iff {function : String} {parse : String → Except Exception t.Value}
    {parseDef : String → t.Value → t.Value} {type : ValueType} {value : t.Value → PropertyValue}
    (found : Option t.Value)
    (hparse : parse s = found.elim (.error (couldNotParse function s)) .ok)
    (hparseDef : ∀ default, parseDef s default = found.getD default)
    (hstores : ∀ io, PropertyParser.valueFrom io type s =
      found.elim (.error .forceStop) fun v => .ok (value v)) :
    LawfulParsers t function parse parseDef type value s ↔ found = denoted t s := by
  constructor
  · intro h
    have hreturns := hparse.symm.trans h.returns
    cases found with
    | none =>
      cases hdenoted : denoted t s with
      | none => rfl
      | some v =>
        rw [hdenoted] at hreturns
        cases hreturns
    | some v =>
      cases hdenoted : denoted t s with
      | none =>
        rw [hdenoted] at hreturns
        cases hreturns
      | some w =>
        rw [hdenoted] at hreturns
        exact congrArg some (Except.ok.inj hreturns)
  · rintro rfl
    exact ⟨hparse, hparseDef, hstores⟩

theorem inRange_iff : InRange t s ↔ s.toList.head? ≠ some '\x00' ∧
    ∀ n, denotedInt? s = some n → '\x00' ∉ s.toList ∧ t.Fits n :=
  ⟨fun h => ⟨h.head, h.number⟩, fun h => ⟨h.1, h.2⟩⟩

theorem inRange_empty : InRange t "" where
  head := by decide
  number n h := by cases h

theorem lawfulInt_iff (s : String) : LawfulInt s ↔ InRange int32 s := by
  have hlaw : LawfulInt s ↔ (parseInt? s).map int32.cast = denoted int32 s := by
    refine lawfulParsers_iff _ ?_ (fun default => ?_) fun io => ?_
    · rw [strToInt]
      cases parseInt? s <;> rfl
    · rw [strToIntDef]
      cases parseInt? s <;> rfl
    · rw [PropertyParser.valueFrom]
      cases hparse : parseInt? s with
      | none => rfl
      | some n =>
        have hfits : int32.Fits n := by
          unfold parseInt? at hparse
          dsimp only at hparse
          split_ifs at hparse
          cases hparse
          exact ⟨Int.le_bmod (by decide), Int.bmod_lt (by decide)⟩
        rw [map_some, elim_some, val_cast hfits]
  rw [hlaw]
  by_cases hne : s = ""
  · subst hne
    exact iff_of_true rfl inRange_empty
  · exact (parseInt?_eq_iff hne).trans inRange_iff.symm

theorem lawfulUInt_iff (s : String) : LawfulUInt s ↔ InRange uint32 s := by
  have hlaw : LawfulUInt s ↔
      ((parseUInt? s).map fun n : ℕ => uint32.cast n) = denoted uint32 s := by
    refine lawfulParsers_iff _ ?_ (fun default => ?_) fun io => ?_
    · rw [strToUInt]
      cases parseUInt? s <;> rfl
    · rw [strToUIntDef]
      cases parseUInt? s <;> rfl
    · rw [PropertyParser.valueFrom]
      cases hparse : parseUInt? s with
      | none => rfl
      | some n =>
        have hfits : uint32.Fits n := by
          unfold parseUInt? at hparse
          dsimp only at hparse
          split_ifs at hparse
          cases hparse
          exact ⟨Int.natCast_nonneg _, Int.ofNat_lt.mpr (Nat.mod_lt _ (by decide))⟩
        rw [map_some, elim_some, val_cast hfits]
        rfl
  rw [hlaw]
  by_cases hne : s = ""
  · subst hne
    exact iff_of_true rfl inRange_empty
  · exact (parseUInt?_eq_iff hne rfl (by decide)).trans inRange_iff.symm

/-- **Parsing integers** is checked exactly for the texts that are in range, and what is written is
read back. -/
theorem parsers_lawful_iff (s : String) :
    (LawfulInt s ↔ InRange int32 s) ∧ (LawfulUInt s ↔ InRange uint32 s) ∧
      ∀ v : int32.Value, strToInt (toString v.val) = .ok v := by
  refine ⟨lawfulInt_iff s, lawfulUInt_iff s, fun v => ?_⟩
  obtain ⟨hlow, hhigh⟩ := v.property
  rw [strToInt, parseInt?_toString_int hlow (by simp only [int32] at hlow hhigh; omega)]
  exact congrArg Except.ok (cast_val v)

/-- 2 ^ 32 as an `int`, and -1 as an `unsigned int`. -/
theorem parsers_lawful_fails :
    ¬LawfulInt "4294967296" ∧ ¬LawfulUInt "-1" := by
  refine ⟨fun h => ?_, fun h => ?_⟩
  · exact absurd (((lawfulInt_iff _).mp h).number (2 ^ 32) (by decide)).2 (by decide)
  · exact absurd (((lawfulUInt_iff _).mp h).number (-1) (by decide)).2 (by decide)

end NumberParsers

end Dss
