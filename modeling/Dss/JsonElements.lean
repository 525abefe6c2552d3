import Dss.JsonCalls
import Dss.PropertyPath

/-!
# JSON and the property elements of a vDC

`jsonToElement` makes property elements of a JSON document, and `processElementsPretty` writes
property elements as JSON. Elements do not say whether they were an object or an array: they are
written as an object if the first of them has a name.
-/

namespace Dss

open List

/-! ## Property elements -/

namespace Vdcapi

/-- `vdcapi::PropertyValue`, of which one field should be set. What a floating-point number is, is
not looked into. -/
structure PropertyValue : Type where
  vBool : Option Bool := none
  vUint64 : Option ℕ := none
  vInt64 : Option ℤ := none
  vDouble : Option String := none
  vString : Option String := none
  deriving DecidableEq

structure PropertyElement : Type where
  /-- `name`, empty if it is not set -/
  name : String := ""
  /-- `value`, if it is set -/
  value : Option PropertyValue := none
  elements : List PropertyElement := []

end Vdcapi

open Json Vdcapi

/-! ## From JSON -/

/-- What reads JSON. A `json_object` is the value that it stands for, the null pointer is `null`. -/
structure JsonRuntime : Type where
  /-- `json_tokener_parse_ex`; also `null` if it refuses the text -/
  jsonTokenerParse : String → Value
  /-- `json_tokener_error_desc`, for what it says of the text -/
  jsonTokenerErrorDesc : String → String
  /-- `json_object_get_int64` of a whole number -/
  jsonObjectGetInt64 : ℤ → ℤ

/-- A number that fits is what it is. -/
def JsonRuntime.Sound (lib : JsonRuntime) : Prop :=
  ∀ i : ℤ, -2 ^ 63 ≤ i → i < 2 ^ 63 → lib.jsonObjectGetInt64 i = i

namespace JsonRuntime

variable (lib : JsonRuntime)

mutual

def jsonToElementRecursive : Value → PropertyElement
  | .null => {}
  | .boolean b => { value := some { vBool := some b } }
  | .double d => { value := some { vDouble := some d } }
  | .integer i => { value := some { vInt64 := some (lib.jsonObjectGetInt64 i) } }
  | .string s => { value := some { vString := some (cString s) } }
  | .object members => { elements := memberElements members }
  | .array items => { elements := itemElements items }

def memberElements : List (String × Value) → List PropertyElement
  | [] => []
  | (key, value) :: members =>
    { jsonToElementRecursive value with name := cString key } :: memberElements members

def itemElements : List Value → List PropertyElement
  | [] => []
  | item :: items => jsonToElementRecursive item :: itemElements items

end

end JsonRuntime

/-! ## To JSON -/

namespace ProtobufToJSon

def processValuePretty (value : Vdcapi.PropertyValue) (name : String) : List Call :=
  (if name ≠ "" then [.string (cString name)] else []) ++
    match value.vBool, value.vDouble, value.vInt64, value.vUint64, value.vString with
    | some b, _, _, _, _ => [.boolean b]
    | none, some d, _, _, _ => [.double d]
    | none, none, some i, _, _ => [.integer i]
    | none, none, none, some n, _ => [.integer n]
    | none, none, none, none, some s => [.string (cString s)]
    | none, none, none, none, none => [.null]

def isObject : List PropertyElement → Bool
  | [] => true
  | element :: _ => element.name ≠ ""

def enclose (object : Bool) (calls : List Call) : List Call :=
  if object then .startObject :: (calls ++ [.endObject])
  else .startArray :: (calls ++ [.endArray])

mutual

/-- One round of the loop in `processElementsPretty`. -/
def processElement (object : Bool) : PropertyElement → List Call
  | { name, value, elements } =>
    (if object then [.string (cString name)] else []) ++
      match value with
      | some value => processValuePretty value ""
      | none =>
        if elements.isEmpty then [.null]
        else enclose (isObject elements) (processEach (isObject elements) elements)

def processEach (object : Bool) : List PropertyElement → List Call
  | [] => []
  | element :: elements => processElement object element ++ processEach object elements

end

end ProtobufToJSon

namespace JsonElements

open ProtobufToJSon

variable {lib : JsonRuntime} {value : Value} {members : List (String × Value)} {items : List Value}
  {element : PropertyElement} {elements : List PropertyElement} {key : String}

/-! ## Documents -/

/-- A value in which no object or array is empty, no key is empty, no text has a NUL and every
whole number fits. Repeated keys do no harm. -/
inductive Plain : Value → Prop
  /-- nothing -/
  | null : Plain .null
  /-- `true` or `false` -/
  | boolean (b : Bool) : Plain (.boolean b)
  /-- a floating-point number -/
  | double (d : String) : Plain (.double d)
  /-- a whole number -/
  | integer {i : ℤ} (hlow : -2 ^ 63 ≤ i) (hhigh : i < 2 ^ 63) : Plain (.integer i)
  /-- a text -/
  | string {s : String} (h : '\x00' ∉ s.toList) : Plain (.string s)
  | array {items : List Value} (hne : items ≠ []) (h : ∀ item ∈ items, Plain item) :
      Plain (.array items)
  | object {members : List (String × Value)} (hne : members ≠ [])
      (hkeys : ∀ member ∈ members, member.1 ≠ "" ∧ '\x00' ∉ member.1.toList)
      (h : ∀ member ∈ members, Plain member.2) : Plain (.object members)

end JsonElements

end Dss
