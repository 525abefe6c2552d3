import Dss.SystemTrigger

/-!
# System conditions

`checkSystemCondition`: the conditions under a trigger definition, each of them optional, checked in
a fixed order. What they are compared with lives elsewhere in the property tree
(`Runtime.getProperty`).
-/

namespace Dss

namespace SystemCondition

variable (rt : Runtime)

/-! ## States -/

/-- The inner loop over the system states for one state that is asked for:
whether the check goes on after it. `found` tells whether a state of the name
was seen; one without value and description is seen, but not compared. -/
def systemStateFits (sName sValue : String) : Bool → List PropertyNode → Except Failure Bool
  | found, [] => .ok found
  | found, state :: states =>
    match state.getPropertyByName "name" with
    | none => systemStateFits sName sValue found states
    | some nameNode => do
      if sName != (← nameNode.getStringValue) then
        systemStateFits sName sValue found states
      else
        let value := (state.getPropertyByName "value").map (·.getAsString rt.doubleToString)
        match value, state.getPropertyByName "state" with
        | none, none => systemStateFits sName sValue true states
        | value, none => return value == some sValue
        | value, some stateDescNode =>
          if value == some sValue then return true
          return sValue == (← stateDescNode.getStringValue)

/-- The `states` condition: every state that is asked for. -/
def statesFit (systemStates : List PropertyNode) : List PropertyNode → Except Failure Bool
  | [] => .ok true
  | wanted :: rest => do
    if ← systemStateFits rt wanted.name (wanted.getAsString rt.doubleToString)
        false systemStates then
      statesFit systemStates rest
    else return false

def addonState (state : PropertyNode) : Option (String × String) :=
  match state.getPropertyByName "name", state.getPropertyByName "value" with
  | some nameNode, some valueNode =>
    some (nameNode.getAsString rt.doubleToString, valueNode.getAsString rt.doubleToString)
  | _, _ => none

/-- The states of an add-on, by `/usr/addon-states`. -/
def addonStates (addonID : String) : Option (List (String × String)) :=
  (rt.getProperty ("/usr/addon-states/" ++ addonID)).map
    (·.children.filterMap (addonState rt))

/-- The `addon-states` condition for one add-on: the first state of each name
that is asked for has to have the value. -/
def addonFits (addon : PropertyNode) : Bool :=
  match addonStates rt addon.name with
  | none => false
  | some states => addon.children.all fun wanted =>
    match states.find? (·.1 == wanted.name) with
    | none => false
    | some state => state.2 == wanted.getAsString rt.doubleToString

/-- The `or-addon-states` condition for one add-on: some state that is asked
for has the value. -/
def orAddonFits (addon : PropertyNode) : Bool :=
  match addonStates rt addon.name with
  | none => false
  | some states => addon.children.any fun wanted =>
    states.any (· == (wanted.name, wanted.getAsString rt.doubleToString))

/-! ## Zones -/

def lastSceneFits (zone group scene : PropertyNode) : Bool :=
  let text := PropertyNode.getAsString rt.doubleToString
  match rt.getProperty ("/apartment/zones/zone" ++ text zone ++ "/groups/group" ++ text group) with
  | none => false
  | some groupNode =>
    match (groupNode.getPropertyByName "lastCalledBasicScene").or
        (groupNode.getPropertyByName "lastCalledScene") with
    | none => false
    | some lastCalledScene => text lastCalledScene == text scene

/-- The `zone-states` condition: the first state that matches decides, and one
without zone or group before it refuses. -/
def zoneStatesFit : List PropertyNode → Bool
  | [] => false
  | state :: states =>
    match state.getPropertyByName "zone", state.getPropertyByName "group" with
    | some zone, some group =>
      (state.getPropertyByName "scene").any (lastSceneFits rt zone group) || zoneStatesFit states
    | _, _ => false

/-! ## Time -/

/-- The `weekdays` condition: the entries up to the current weekday are read as
numbers. -/
def weekdayFits : List String → Except Failure Bool
  | [] => .ok false
  | day :: days => do
    if (← strToInt day) == rt.weekday then return true
    weekdayFits days

/-- `secondsFromHMS`: nothing is set when there are not three fields; the sum is
an `unsigned`. -/
def secondsFromHMS (text : String) : Except Failure (Option ℕ) :=
  match splitString text ':' with
  | [hours, minutes, seconds] => do
    let tmp := (← strToInt hours) * 60 * 60 + (← strToInt minutes) * 60 + (← strToInt seconds)
    return some (tmp % 2 ^ 32).toNat
  | _ => .ok none

/-- A bound of the time of day; the default stands when the node is missing or
has not three fields. -/
def timeBound (node : Option PropertyNode) (default : ℕ) : Except Failure ℕ :=
  match node with
  | none => .ok default
  | some node => do
    return (← secondsFromHMS (node.getAsString rt.doubleToString)).getD default

/-- `checkTimeCondition`. A start behind the end goes over midnight. -/
def checkTimeCondition (timeStart timeEnd : Option PropertyNode) : Except Failure Bool := do
  let startSinceMidnight ← timeBound rt timeStart 0
  let endSinceMidnight ← timeBound rt timeEnd (24 * 60 * 60)
  if startSinceMidnight < endSinceMidnight then
    return !(rt.secNow < startSinceMidnight || rt.secNow > endSinceMidnight)
  return !(rt.secNow < startSinceMidnight && rt.secNow > endSinceMidnight)

/-- The `date` condition. Only start and end are tested for null, the end twice
and the rule never. -/
def dateFits : List PropertyNode → Except Failure Bool
  | [] => .ok false
  | date :: dates =>
    match date.getPropertyByName "start", date.getPropertyByName "end" with
    | some dateStart, some dateEnd =>
      match date.getPropertyByName "rrule" with
      | none => .error .nullPointer
      | some dateRrule =>
        let text := PropertyNode.getAsString rt.doubleToString
        match rt.isDateInside (text dateRrule) (text dateStart) (text dateEnd) with
        | .error e => .error (.exception e)
        | .ok true => .ok true
        | .ok false => dateFits dates
    | _, _ => dateFits dates

end SystemCondition

open SystemCondition in
/-- The body of `checkSystemCondition` on the conditions of a definition. -/
def checkConditions (rt : Runtime) (conditions : PropertyNode) : Except Failure Bool := do
  if let some oEnabledNode := conditions.getPropertyByName "enabled" then
    if !(← oEnabledNode.getBoolValue) then return false
  if let some oStateNode := conditions.getPropertyByName "states" then
    if let some oSystemStates := rt.getProperty "/usr/states" then
      if !(← statesFit rt oSystemStates.children oStateNode.children) then return false
  if let some oAddonStateNode := conditions.getPropertyByName "addon-states" then
    if !oAddonStateNode.children.all (addonFits rt) then return false
  if let some oOrAddonStateNode := conditions.getPropertyByName "or-addon-states" then
    if !oOrAddonStateNode.children.any (orAddonFits rt) then return false
  if let some oZoneNode := conditions.getPropertyByName "zone-states" then
    if !zoneStatesFit rt oZoneNode.children then return false
  if let some oWeekdayNode := conditions.getPropertyByName "weekdays" then
    let sWeekdayString := oWeekdayNode.getAsString rt.doubleToString
    if sWeekdayString != "" then
      if !(← weekdayFits rt (splitString sWeekdayString ',')) then return false
  let timeStart := conditions.getPropertyByName "time-start"
  let timeEnd := conditions.getPropertyByName "time-end"
  if timeStart.isSome || timeEnd.isSome then
    if !(← checkTimeCondition rt timeStart timeEnd) then return false
  if let some oDateNode := conditions.getPropertyByName "date" then
    return (← dateFits rt oDateNode.children)
  return true

/-- `checkSystemCondition`, for the path of a definition and what is there. The
conditions are looked up under the path with `/conditions` behind it, which
finds nothing when the path ends with a slash. -/
def checkSystemCondition (rt : Runtime) (path : String) (definition : PropertyNode) :
    Except Failure Bool :=
  match if path.toList.getLast? = some '/' then none
      else definition.getPropertyByName "conditions" with
  | none => .ok true
  | some conditions => checkConditions rt conditions

end Dss
