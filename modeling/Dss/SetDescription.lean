import Dss.Position
import Dss.SetBuilder

/-!
# How the description of a set reads

A text reads as a list of steps: restrictions of the set at hand, and, for `add` and `remove`, the
entry into a set of its own and the way back. Where the reading ends is said next to the steps:
the text is read through, it is refused, or a call in it is cut short.

The steps work on a stack, the set at hand in front. The parser takes them while it reads.
-/

namespace Dss

namespace SetBuilder

open Position

variable {D α β : Type}

/-! ## The steps -/

inductive Restriction (D : Type) : Type where
  /-- `.`, the whole apartment -/
  | apartment
  | identifier (name : String)
  /-- `dsid` and `dsuid` -/
  | dsid (dsuid : D)
  /-- `zone`, for a name -/
  | zoneName (name : String)
  /-- `zone`, for an id -/
  | zoneID (id : ℤ)
  /-- `group`, for a name -/
  | groupName (name : String)
  /-- `group`, for an id -/
  | groupID (id : ℤ)
  /-- `fid` -/
  | functionID (id : ℤ)
  | tag (name : String)
  /-- `empty`, and functions that are not known -/
  | empty
  /-- a parameter of `addDevices`, a name -/
  | deviceName (name : String)
  /-- a parameter of `addDevices`, a dSUID -/
  | device (dsuid : D)

inductive Step (D : Type) : Type where
  | restrict (r : Restriction D)
  /-- the set between the brackets of `add` or `remove` is entered -/
  | enter
  /-- it is left, for `add` -/
  | add
  /-- it is left, for `remove` -/
  | remove

inductive Ending : Type where
  /-- the text is read through -/
  | complete
  | refused (e : Exception)
  | cut (v : Violation)
  /-- the fuel is used up -/
  | unread
  deriving DecidableEq

structure Reading (D : Type) : Type where
  steps : List (Step D) := []
  ending : Ending

def Step.andThen (s : Step D) (r : Reading D) : Reading D := ⟨s :: r.steps, r.ending⟩

section Apply

variable [DecidableEq D] (rt : Runtime D) (ap : Apartment D)

def Restriction.apply (context : Group) (set : List D) :
    Restriction D → Except Exception (List D)
  | apartment => .ok ap.getDevices
  | identifier name => restrictBy rt ap name set context
  | dsid dsuid => (getByDSID rt ap set dsuid).map fun d => [d]
  | zoneName name => getByZoneName rt ap set name
  | zoneID id => getByZone rt ap set id
  | groupName name => getByGroupName rt ap set name
  | groupID id => getByGroup rt ap set id
  | functionID id => getByFunctionID rt ap set id
  | tag name => getByTag rt ap set name
  | empty => .ok []
  | deviceName name => (ap.getDeviceByName name).map fun d => addDevice set d.dsid
  | device dsuid => (ap.getDeviceByDSID rt dsuid).map fun d => addDevice set d.dsid

def Step.apply (context : Group) : Step D → List (List D) → Except Exception (List (List D))
  | restrict r, set :: sets => (r.apply rt ap context set).map (· :: sets)
  | enter, sets => (context.getDevices rt ap).map (· :: sets)
  | add, inner :: set :: sets => .ok (combine set inner :: sets)
  | remove, inner :: set :: sets => .ok (SetBuilder.remove set inner :: sets)
  | _, sets => .ok sets

/-- The steps are taken, with nothing said about the text behind them. -/
def Reading.evaluate (context : Group) (r : Reading D) (sets : List (List D)) :
    Except Exception (List (List D)) :=
  r.steps.foldlM (fun sets s => s.apply rt ap context sets) sets

def Reading.run (context : Group) (r : Reading D) (sets : List (List D)) : Build (List D) := do
  let sets ← lookup (r.evaluate rt ap context sets)
  match r.ending with
  | .complete => return sets.headD []
  | .refused e => raise e
  | .cut v => .error (.broke v)
  | .unread => .error .unfinished

end Apply

/-! ## Parameters -/

def parameter (tail : List Char) : Except Exception (List Char × List Char) :=
  let tail := tail.dropWhile isSpace
  match tail.dropWhile fun c => !decide (c ∈ [',', ')']) with
  | [] => .error (.runtimeError "expected , or )")
  | c :: rest => .ok (tail.takeWhile fun c => !decide (c ∈ [',', ')']), c :: rest)

def parameterAs (f : List Char → Except Exception α) (tail : List Char) :
    Except Exception (α × List Char) := do
  let (p, rest) ← parameter tail
  return (← f (trim p), rest)

def toInt (p : List Char) : Except Exception ℤ := strToInt (String.ofList p)

def withParameter (x : Except Exception (α × List Char)) (k : α → List Char → Reading D) :
    Reading D :=
  match x with
  | .ok (a, rest) => k a rest
  | .error e => ⟨[], .refused e⟩

/-! ## Calls -/

section Read

variable (rt : Runtime D) (size : ℕ)

/-- A parameter of `addDevices`. -/
def readDevice (tail : List Char) (k : List Char → Reading D) : Reading D :=
  match tail with
  | [] => ⟨[], .cut .outside⟩
  | c :: tail =>
    if c = '\'' then
      withParameter (parameterAs unquote (c :: tail)) fun name rest =>
        (Step.restrict (.deviceName name)).andThen (k rest)
    else
      withParameter (parameterAs (toDsuid rt) (c :: tail)) fun dsuid rest =>
        (Step.restrict (.device dsuid)).andThen (k rest)

/-- The parameters of `addDevices`. -/
def readDevices : ℕ → List Char → (List Char → Reading D) → Reading D
  | 0, _, _ => ⟨[], .unread⟩
  | fuel + 1, tail, k =>
    readDevice rt (if tail.head? = some ',' then tail.tail else tail) fun rest =>
      match rest with
      | [] => ⟨[], .cut .outside⟩
      | c :: rest => if c = ',' then readDevices fuel (c :: rest) k else k (c :: rest)

/-- What stands between the brackets of a call. A set of its own is read by `read`. -/
def readFunction (read : List Char → (List Char → Reading D) → Reading D)
    (function : Option Function) (tail : List Char) (k : List Char → Reading D) : Reading D :=
  match function with
  | some .dsid =>
    withParameter (parameterAs (toDsuid rt) tail) fun dsuid rest =>
      (Step.restrict (.dsid dsuid)).andThen (k rest)
  | some .zone =>
    if tail.head? = some '\'' then
      withParameter (parameterAs unquote tail) fun name rest =>
        (Step.restrict (.zoneName name)).andThen (k rest)
    else
      withParameter (parameterAs toInt tail) fun id rest =>
        (Step.restrict (.zoneID id)).andThen (k rest)
  | some .group =>
    if tail.head? = some '\'' then
      withParameter (parameterAs unquote tail) fun name rest =>
        (Step.restrict (.groupName name)).andThen (k rest)
    else
      withParameter (parameterAs toInt tail) fun id rest =>
        (Step.restrict (.groupID id)).andThen (k rest)
  | some .fid =>
    withParameter (parameterAs toInt tail) fun id rest =>
      (Step.restrict (.functionID id)).andThen (k rest)
  | some .tag =>
    withParameter (parameterAs unquote tail) fun name rest =>
      (Step.restrict (.tag name)).andThen (k rest)
  | some .add => Step.enter.andThen (read tail fun rest => Step.add.andThen (k rest))
  | some .remove => Step.enter.andThen (read tail fun rest => Step.remove.andThen (k rest))
  | some .addDevices => readDevices rt (size + 1) tail k
  | some .empty | none => (Step.restrict .empty).andThen (k tail)

/-- The end of a call: it is cut short unless the text goes on with a bracket or a comma. -/
def close (tail : List Char) (k : List Char → Reading D) : Reading D :=
  match tail with
  | [] => ⟨[], .cut .outside⟩
  | c :: rest =>
    if c = ',' then
      ⟨[], .refused (.runtimeError
        ("superfluous parameter detected at position " ++ toString (size - (c :: rest).length)))⟩
    else if c = ')' then k rest
    else ⟨[], .cut .assertion⟩

def readCall (read : List Char → (List Char → Reading D) → Reading D) (functionName : List Char)
    (tail : List Char) (k : List Char → Reading D) : Reading D :=
  if tail = [] then ⟨[], .refused (.runtimeError "_index is out of bounds")⟩
  else readFunction rt size read (function? functionName) tail fun rest => close size rest k

/-! ## Sets -/

def readBehindCall (read : List Char → (List Char → Reading D) → Reading D)
    (tail : List Char) (k : List Char → Reading D) : Reading D :=
  match tail.dropWhile isSpace with
  | [] => k []
  | c :: rest => if c ≠ ',' ∧ c ≠ ')' then read rest k else k (c :: rest)

def readItem (item : List Char) (r : Reading D) : Reading D :=
  (Step.restrict (.identifier (String.ofList (trim item)))).andThen r

def readSet : ℕ → List Char → (List Char → Reading D) → Reading D
  | 0, _, _ => ⟨[], .unread⟩
  | fuel + 1, tail, k =>
    let tail := tail.dropWhile isSpace
    let entry := tail.takeWhile fun c => !decide (c ∈ delimiters)
    match tail.dropWhile fun c => !decide (c ∈ delimiters) with
    | [] => if tail = [] then k [] else readItem entry (k [])
    | c :: rest =>
      if c = '(' then
        readCall rt size (readSet fuel) entry rest fun rest =>
          readBehindCall (readSet fuel) rest k
      else if c = '.' then
        if entry = [] then (Step.restrict .apartment).andThen (readSet fuel rest k)
        -- a dot at the end of the text stays with the name
        else if rest = [] then readItem (entry ++ ['.']) (k [])
        else readItem entry (readSet fuel rest k)
      else readItem entry (k (c :: rest))

end Read

/-! ## Descriptions -/

def readText (rt : Runtime D) (text tail : List Char) : Reading D :=
  readSet rt text.length (text.length + 1) tail fun _ => ⟨[], .complete⟩

theorem Zone.isSome_getGroup (zone : Zone D) : (zone.getGroup groupIDBroadcast).isSome := by
  obtain ⟨group, hmem, hid⟩ := zone.broadcast
  rw [Zone.getGroup, List.find?_isSome]
  exact ⟨group, hmem, by simpa using hid⟩

def Zone.broadcastGroup (zone : Zone D) : Group :=
  (zone.getGroup groupIDBroadcast).get zone.isSome_getGroup

section Start

variable [DecidableEq D] (rt : Runtime D) (ap : Apartment D)

/-- The context and the set that a description starts from, and what is to be read: with a dot in
front it starts from the whole apartment, and otherwise from its context. -/
def start (text : List Char) (context : Option Group) :
    Except Exception (Group × List D × List Char) :=
  if text.head? = some '.' then do
    let zone ← ap.getZone 0
    let set ← zone.broadcastGroup.getDevices rt ap
    return (zone.broadcastGroup, set, text.tail)
  else
    match context with
    | some group => do
      let set ← group.getDevices rt ap
      return (group, set, text)
    | none => do
      let zone ← ap.getZone 0
      return (zone.broadcastGroup, [], text)

/-- If the reading of a description ends in a call that is cut short, one of the steps in front of
it throws. -/
def StopsBeforeCut (text : List Char) (context : Option Group) : Prop :=
  ∀ group set tail v, start rt ap text context = .ok (group, set, tail) →
    (readText rt text tail).ending = .cut v →
      ∃ e, (readText rt text tail).evaluate rt ap group [set] = .error e

end Start

end SetBuilder

end Dss
