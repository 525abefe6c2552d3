import Dss.Group
import Dss.PropertyPath

/-!
# Sets from text

`SetBuilder` turns a text such as `.yellow.zone(3).remove(dsid(…))` into a set of devices. The
text is a chain of restrictions, which are names or calls of functions; `add` and `remove` have a
set of their own between their brackets, which is read in the same way.

The parser goes through the text by an index, an `unsigned int`. An exception, a failed assertion,
a null pointer that is followed and a position behind the last character are told apart. A loop
has one more unit of fuel than the text has characters, and so has the parser.

Sets refer to devices by their dSUIDs. The functions of the library for them are parameters.
-/

namespace Dss

namespace SetBuilder

variable {D : Type}

/-! ## The apartment -/

/-- The functions of the library for dSUIDs, and `dsuid2str`. -/
structure Runtime (D : Type) : Type where
  /-- `dsuid_from_dsid`, for the bytes of a dSID -/
  dsuidFromDsid : List ℕ → D
  /-- `dsuid_from_string`, if it can be read -/
  dsuidFromString : String → Option D
  dsuid2str : D → String

/-- `Device`, as far as a set looks at it. -/
structure Device (D : Type) : Type where
  /-- `getDSID` -/
  dsid : D
  /-- `getName` -/
  name : String
  /-- `getZoneID` -/
  zoneID : ℤ
  /-- `getFunctionID` -/
  functionID : ℤ
  groupIds : List ℕ := []
  tagsNode : Option PropertyNode := none

def Device.isInGroup (device : Device D) (groupID : ℤ) : Bool :=
  if groupID = 0 then true
  else if groupID < 0 ∨ isValidGroup groupID.toNat = false then false
  else groupID.toNat ∈ device.groupIds

def Device.hasTag (device : Device D) (tagName : String) : Bool :=
  match device.tagsNode with
  | some node => (node.position tagName).isSome
  | none => false

structure Group : Type where
  /-- `m_GroupID` -/
  id : ℤ
  zoneID : ℤ
  /-- `getName` -/
  name : String
  deriving DecidableEq

/-- `Zone`. The broadcast group is one of the groups a zone is allocated with, and no request
removes it. -/
structure Zone (D : Type) : Type where
  /-- `getID` -/
  id : ℤ
  /-- `getName` -/
  name : String
  devices : List D
  groups : List Group
  broadcast : ∃ group ∈ groups, group.id = groupIDBroadcast

/-- `Zone::getGroup`, for an id -/
def Zone.getGroup (zone : Zone D) (id : ℤ) : Option Group :=
  zone.groups.find? fun group => group.id = id

structure Apartment (D : Type) : Type where
  devices : List (Device D)
  zones : List (Zone D)

/-- What is looked up; if there is none, `ItemNotFoundException`. -/
def found {α : Type} (name : String) : Option α → Except Exception α
  | some x => .ok x
  | none => .error (.itemNotFound name)

/-- `catch(ItemNotFoundException&)` -/
def ifNotFound {α : Type} (x y : Except Exception α) : Except Exception α :=
  match x with
  | .error (.itemNotFound _) => y
  | x => x

section Apartment

variable [DecidableEq D] (rt : Runtime D) (ap : Apartment D)

/-- `getDeviceByDSID`, which is what a reference to a device calls. -/
def Apartment.getDeviceByDSID (dsid : D) : Except Exception (Device D) :=
  found (rt.dsuid2str dsid) (ap.devices.find? fun device => device.dsid = dsid)

def Apartment.getDeviceByName (name : String) : Except Exception (Device D) :=
  found name (ap.devices.find? fun device => device.name = name)

def Apartment.getDevices : List D := ap.devices.map Device.dsid

/-- `Apartment::getZone`, for an id -/
def Apartment.getZone (id : ℤ) : Except Exception (Zone D) :=
  found (toString id) (ap.zones.find? fun zone => zone.id = id)

/-- `Apartment::getZone`, for a name -/
def Apartment.getZoneByName (name : String) : Except Exception (Zone D) :=
  found name (ap.zones.find? fun zone => zone.name = name)

/-- `Apartment::getGroup`, for a name -/
def Apartment.getGroup (name : String) : Except Exception Group := do
  let zone ← ap.getZone 0
  found name (zone.groups.find? fun group => group.name = name)

/-! ## Sets -/

def addDevice (set : List D) (dsid : D) : List D := if dsid ∈ set then set else set ++ [dsid]

def getSubset (selectDevice : Device D → Bool) (set : List D) : Except Exception (List D) :=
  set.foldlM (fun result dsid => do
    let device ← ap.getDeviceByDSID rt dsid
    return if selectDevice device then addDevice result dsid else result) []

/-- `getByGroup`, for an id -/
def getByGroup (set : List D) (groupNr : ℤ) : Except Exception (List D) :=
  if groupNr ≠ groupIDBroadcast then getSubset rt ap (·.isInGroup groupNr) set else .ok set

/-- `getByGroup`, for a name -/
def getByGroupName (set : List D) (name : String) : Except Exception (List D) :=
  match set with
  | [] => .ok []
  | first :: _ => do
    let _ ← ap.getDeviceByDSID rt first
    let group ← ap.getGroup name
    getByGroup rt ap set group.id

/-- `getByZone`, for an id -/
def getByZone (set : List D) (zoneID : ℤ) : Except Exception (List D) :=
  if zoneID ≠ 0 then getSubset rt ap (·.zoneID = zoneID) set else .ok set

/-- `getByZone`, for a name -/
def getByZoneName (set : List D) (zoneName : String) : Except Exception (List D) :=
  match set with
  | [] => .ok []
  | first :: _ => do
    let _ ← ap.getDeviceByDSID rt first
    let zone ← ap.getZoneByName zoneName
    getByZone rt ap set zone.id

def getByFunctionID (set : List D) (functionID : ℤ) : Except Exception (List D) :=
  getSubset rt ap (·.functionID = functionID) set

def getByTag (set : List D) (tagName : String) : Except Exception (List D) :=
  getSubset rt ap (·.hasTag tagName) set

def getByName (set : List D) (name : String) : Except Exception D := do
  let resultSet ← getSubset rt ap (·.name = name) set
  found name resultSet.head?

def getByDSID (set : List D) (dsid : D) : Except Exception D := do
  let resultSet ← getSubset rt ap (·.dsid = dsid) set
  found ("with dsid " ++ rt.dsuid2str dsid) resultSet.head?

def combine (set other : List D) : List D := set.foldl addDevice other

def remove (set other : List D) : List D := other.foldl List.erase set

def Group.getDevices (group : Group) : Except Exception (List D) := do
  let zone ← ap.getZone group.zoneID
  getByGroup rt ap zone.devices group.id

/-- `restrictBy`, behind the pointer to the group. -/
def restrictBy (identifier : String) (set : List D) (group : Group) :
    Except Exception (List D) :=
  ifNotFound
    (do
      let ref ← getByName rt ap (← group.getDevices rt ap) identifier
      return [ref])
    (ifNotFound (getByGroupName rt ap set identifier)
      (ifNotFound (getByZoneName rt ap set identifier) (.ok [])))

end Apartment

/-! ## How a routine of the parser ends -/

/-- What no text may make the parser do. -/
inductive Violation : Type where
  | assertion : Violation
  | nullPointer : Violation
  /-- a character is read at a position the text does not have -/
  | outside : Violation
  deriving DecidableEq

/-- Why a routine does not come to its end. -/
inductive Stop : Type where
  | threw (e : Exception) : Stop
  /-- it does what it may not -/
  | broke (v : Violation) : Stop
  /-- the fuel is used up -/
  | unfinished : Stop
  deriving DecidableEq

abbrev Build (α : Type) : Type := Except Stop α

variable {α : Type}

def lookup (x : Except Exception α) : Build α := x.mapError .threw

def raise (e : Exception) : Build α := .error (.threw e)

def deref : Option α → Build α
  | some x => .ok x
  | none => .error (.broke .nullPointer)

def assert (p : Bool) : Build Unit := if p then .ok () else .error (.broke .assertion)

/-! ## Positions -/

section Text

variable (text : List Char)

/-- `_index++` on an `unsigned int` -/
def next (index : ℕ) : ℕ := (index + 1) % 2 ^ 32

/-- A position, assigned to an `unsigned int`. -/
def toIndex (pos : ℕ) : ℕ := pos % 2 ^ 32

/-- `m_SetDescription[_index]` -/
def charAt (index : ℕ) : Build Char :=
  match text[index]? with
  | some c => .ok c
  | none => .error (.broke .outside)

/-- `m_SetDescription.find_first_of(chars, _index)` -/
def findFirstOf (chars : List Char) (index : ℕ) : Option ℕ :=
  ((text.drop index).findIdx? fun c => c ∈ chars).map (index + ·)

/-- `m_SetDescription.substr(pos, count)`. A negative position is one behind the end. -/
def substr (pos : ℤ) (count : ℕ) : Build (List Char) :=
  if pos < 0 ∨ (text.length : ℤ) < pos then raise .outOfRange
  else .ok ((text.drop pos.toNat).take count)

/-- The loop of `skipWhitespace` -/
def skipBlanks : ℕ → ℕ → Build ℕ
  | 0, _ => .error .unfinished
  | fuel + 1, index =>
    match text[index]? with
    | some c => if isSpace c then skipBlanks fuel (next index) else .ok index
    | none => .ok index

def skipWhitespace (index : ℕ) : Build ℕ := skipBlanks text (text.length + 1) index

/-! ## Parameters -/

/-- `readParameter`. Where it starts is kept in an `int`. -/
def readParameter (index : ℕ) : Build (List Char × ℕ) := do
  let index ← skipWhitespace text index
  let start := (index : ℤ).bmod (2 ^ 32)
  match findFirstOf text [',', ')'] index with
  | none => raise (.runtimeError "expected , or )")
  | some pos =>
    let index := toIndex pos
    let result ← substr text start (((index : ℤ) - start) % 2 ^ 32).toNat
    let index ← skipWhitespace text index
    return (result, index)

def strToInt (strValue : String) : Except Exception ℤ :=
  match parseInt? strValue with
  | some value => .ok value
  | none => .error (.invalidArgument ("strToInt: Could not parse value: '" ++ strValue ++ "'"))

def readInt (index : ℕ) : Build (ℤ × ℕ) := do
  let (parameter, index) ← readParameter text index
  return (← lookup (strToInt (String.ofList (trim parameter))), index)

/-- `strtol` with base 16, for two characters, as an `unsigned char`. -/
def hexByte (number : List Char) : ℕ :=
  let (negative, body) :=
    match number.dropWhile isSpace with
    | '-' :: cs => (true, cs)
    | '+' :: cs => (false, cs)
    | cs => (false, cs)
  let magnitude := (readDigits 16 0 body).1
  ((if negative then -(magnitude : ℤ) else magnitude) % 256).toNat

/-- `str2dsid`: the bytes -/
def str2dsid (id : List Char) : Except Exception (List ℕ) :=
  if id.length ≠ 24 then .error (.runtimeError "can not convert from string, invalid dSID")
  else .ok ((List.range 12).map fun i => hexByte ((id.drop (2 * i)).take 2))

def str2dsuid (rt : Runtime D) (id : List Char) : Except Exception D :=
  match rt.dsuidFromString (String.ofList id) with
  | some dsuid => .ok dsuid
  | none => .error (.runtimeError "can not convert from string, invalid dSUID")

/-- The dSUID that `readDSID` makes of its parameter. -/
def toDsuid (rt : Runtime D) (id : List Char) : Except Exception D :=
  if id.length ≤ 24 then (str2dsid id).map rt.dsuidFromDsid else str2dsuid rt id

def readDSID (rt : Runtime D) (index : ℕ) : Build (D × ℕ) := do
  let (parameter, index) ← readParameter text index
  return (← lookup (toDsuid rt (trim parameter)), index)

/-- What `readString` finds between the quotes. -/
def unquote (parameter : List Char) : Except Exception String :=
  if 2 ≤ parameter.length ∧ parameter.head? = some '\'' ∧ parameter.getLast? = some '\'' then
    .ok (String.ofList (parameter.tail.take (parameter.length - 2)))
  else .error (.runtimeError "String should be enclosed by \"'\"")

def readString (index : ℕ) : Build (String × ℕ) := do
  let (parameter, index) ← readParameter text index
  return (← lookup (unquote (trim parameter)), index)

/-! ## Calls -/

/-- The functions that `restrictByFunction` knows. -/
inductive Function : Type where
  /-- `dsid` and `dsuid` -/
  | dsid
  | zone | group | fid | tag | add | remove | empty | addDevices
  deriving DecidableEq

def function? (functionName : List Char) : Option Function :=
  if functionName = ['d', 's', 'i', 'd'] ∨ functionName = ['d', 's', 'u', 'i', 'd'] then
    some .dsid
  else if functionName = ['z', 'o', 'n', 'e'] then some .zone
  else if functionName = ['g', 'r', 'o', 'u', 'p'] then some .group
  else if functionName = ['f', 'i', 'd'] then some .fid
  else if functionName = ['t', 'a', 'g'] then some .tag
  else if functionName = ['a', 'd', 'd'] then some .add
  else if functionName = ['r', 'e', 'm', 'o', 'v', 'e'] then some .remove
  else if functionName = ['e', 'm', 'p', 't', 'y'] then some .empty
  else if functionName = ['a', 'd', 'd', 'D', 'e', 'v', 'i', 'c', 'e', 's'] then some .addDevices
  else none

variable [DecidableEq D] (rt : Runtime D) (ap : Apartment D)

/-- A parameter of `addDevices`, and the device it names. -/
def addParameter (index : ℕ) (result : List D) : Build (List D × ℕ) := do
  if (← charAt text index) = '\'' then
    let (name, index) ← readString text index
    let device ← lookup (ap.getDeviceByName name)
    return (addDevice result device.dsid, index)
  else
    let (dsuid, index) ← readDSID text rt index
    let device ← lookup (ap.getDeviceByDSID rt dsuid)
    return (addDevice result device.dsid, index)

/-- The loop of `addDevices` -/
def addDevices : ℕ → ℕ → List D → Build (List D × ℕ)
  | 0, _, _ => .error .unfinished
  | fuel + 1, index, result => do
    let index := if (← charAt text index) = ',' then next index else index
    let (result, index) ← addParameter text rt ap index result
    if (← charAt text index) = ',' then addDevices fuel index result else return (result, index)

/-- What a function makes of a set. For `empty`, and for any other name, the result is empty, and
nothing is read. The set between brackets is parsed by `parse`. -/
def callFunction (parse : ℕ → List D → Build (List D × ℕ)) (function : Option Function)
    (index : ℕ) (set : List D) (group : Option Group) : Build (List D × ℕ) :=
  match function with
  | some .dsid => do
    let (dsuid, index) ← readDSID text rt index
    return ([← lookup (getByDSID rt ap set dsuid)], index)
  | some .zone => do
    if (← charAt text index) = '\'' then do
      let (zoneName, index) ← readString text index
      return (← lookup (getByZoneName rt ap set zoneName), index)
    else do
      let (zoneID, index) ← readInt text index
      return (← lookup (getByZone rt ap set zoneID), index)
  | some .group => do
    if (← charAt text index) = '\'' then do
      let (groupName, index) ← readString text index
      return (← lookup (getByGroupName rt ap set groupName), index)
    else do
      let (groupID, index) ← readInt text index
      return (← lookup (getByGroup rt ap set groupID), index)
  | some .fid => do
    let (fid, index) ← readInt text index
    return (← lookup (getByFunctionID rt ap set fid), index)
  | some .tag => do
    let (tagName, index) ← readString text index
    return (← lookup (getByTag rt ap set tagName), index)
  | some .add => do
    let devices ← lookup ((← deref group).getDevices rt ap)
    let (inner, index) ← parse index devices
    return (combine set inner, index)
  | some .remove => do
    let devices ← lookup ((← deref group).getDevices rt ap)
    let (inner, index) ← parse index devices
    return (SetBuilder.remove set inner, index)
  | some .addDevices => addDevices text rt ap (text.length + 1) index set
  | some .empty | none => return ([], index)

/-- The end of `restrictByFunction`: the closing bracket is skipped. -/
def closeCall (result : List D) (index : ℕ) : Build (List D × ℕ) := do
  let c ← charAt text index
  assert (c = ')' || c = ',')
  if c = ',' then
    raise (.runtimeError ("superfluous parameter detected at position " ++ toString index))
  else return (result, next index)

def restrictByFunction (parse : ℕ → List D → Build (List D × ℕ)) (functionName : List Char)
    (index : ℕ) (set : List D) (group : Option Group) : Build (List D × ℕ) :=
  if text.length ≤ index then raise (.runtimeError "_index is out of bounds")
  else do
    assert ((← charAt text ((index + 2 ^ 32 - 1) % 2 ^ 32)) = '(')
    let (result, index) ← callFunction text rt ap parse (function? functionName) index set group
    closeCall text result index

/-! ## The parser -/

def delimiters : List Char := ['.', '(', ')', ',']

/-- `parseSet`, behind a call. -/
def parseBehindCall (parse : ℕ → List D → Build (List D × ℕ)) (tmp : List D) (index : ℕ) :
    Build (List D × ℕ) := do
  let index ← skipWhitespace text index
  -- don't recurse if we're at the end or we were parsing a parameter
  match text[index]? with
  | some c => if c ≠ ',' ∧ c ≠ ')' then parse (next index) tmp else return (tmp, index)
  | none => return (tmp, index)

/-- `parseSet`, for a name. Its last character is at `pos`; `last` is called `end` in the code. -/
def parseItem (parse : ℕ → List D → Build (List D × ℕ)) (entry : List Char) (pos : ℕ)
    (set : List D) (context : Option Group) : Build (List D × ℕ) := do
  let last : Bool := pos = text.length - 1
  let parsingParam : Bool := entry.getLast? = some ',' || entry.getLast? = some ')'
  let item := if !last || parsingParam then entry.dropLast else entry
  let group ← deref context
  let tmp ← lookup (restrictBy rt ap (String.ofList (trim item)) set group)
  let index := toIndex (pos + 1)
  if !last && !parsingParam then parse index tmp
  -- make sure we're positioned on the closing token
  else if parsingParam then return (tmp, (index + 2 ^ 32 - 1) % 2 ^ 32)
  else return (tmp, index)

def parseSet (context : Option Group) : ℕ → ℕ → List D → Build (List D × ℕ)
  | 0, _, _ => .error .unfinished
  | fuel + 1, index, set => do
    let index ← skipWhitespace text index
    if text.length ≤ index then return (set, index)
    else do
      -- scan forward to a delimiter
      let pos := (findFirstOf text delimiters index).getD (text.length - 1)
      let entry ← substr text index (pos + 1 - index)
      if entry = ['.'] then parseSet context fuel (toIndex (pos + 1)) ap.getDevices
      else do
        if (← charAt text pos) = '(' then
          let (tmp, index) ← restrictByFunction text rt ap (parseSet context fuel)
            entry.dropLast (toIndex (pos + 1)) set context
          parseBehindCall text (parseSet context fuel) tmp index
        else parseItem text rt ap (parseSet context fuel) entry pos set context

end Text

/-- The set, the context and the index that `buildSet` starts with. -/
def startSet [DecidableEq D] (rt : Runtime D) (ap : Apartment D) (text : List Char)
    (context : Option Group) : Build (List D × Option Group × ℕ) :=
  if text.head? = some '.' then do
    let zone ← lookup (ap.getZone 0)
    let group ← deref (zone.getGroup groupIDBroadcast)
    return (← lookup (group.getDevices rt ap), some group, 1)
  else
    match context with
    | some group => do return (← lookup (group.getDevices rt ap), some group, 0)
    | none => do
      let zone ← lookup (ap.getZone 0)
      return ([], zone.getGroup groupIDBroadcast, 0)

/-- `buildSet`, for a group -/
def buildSet [DecidableEq D] (rt : Runtime D) (ap : Apartment D) (setDescription : String)
    (context : Option Group) : Build (List D) := do
  let text := setDescription.toList
  let (result, context, index) ← startSet rt ap text context
  let (result, _) ← parseSet text rt ap context (text.length + 1) index result
  return result

/-- `buildSet`, for a zone -/
def buildSetOfZone [DecidableEq D] (rt : Runtime D) (ap : Apartment D) (setDescription : String)
    (context : Option (Zone D)) : Build (List D) :=
  match context with
  | some zone => buildSet rt ap setDescription (zone.getGroup groupIDBroadcast)
  | none => buildSet rt ap setDescription none

end SetBuilder

end Dss
