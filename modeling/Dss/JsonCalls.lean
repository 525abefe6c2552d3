import Mathlib.Algebra.BigOperators.Group.List.Basic
import Mathlib.Algebra.Order.Ring.Int

/-!
# JSON, written call by call

A streaming writer is told one after the other that an object or an array begins or ends, and what
stands in it. What it is told makes a document, or fails at the first call that does not fit.
`run` is this machine. Wherever a value fits, its `calls` put just this value there.
-/

namespace Json

open List

inductive Value : Type where
  /-- a text -/
  | string : String → Value
  /-- a whole number -/
  | integer : ℤ → Value
  /-- `true` or `false` -/
  | boolean : Bool → Value
  /-- a floating-point number, which is not looked into, by its text -/
  | double : String → Value
  /-- nothing -/
  | null : Value
  | array : List Value → Value
  | object : List (String × Value) → Value

/-- What a writer is told. -/
inductive Call : Type where
  /-- a text, or the name of a member -/
  | string : String → Call
  /-- a whole number -/
  | integer : ℤ → Call
  /-- `true` or `false` -/
  | boolean : Bool → Call
  /-- a floating-point number -/
  | double : String → Call
  /-- nothing -/
  | null : Call
  | startObject : Call
  | endObject : Call
  | startArray : Call
  | endArray : Call
  deriving DecidableEq

/-! ## How a value is written -/

mutual

def Value.calls : Value → List Call
  | .string s => [.string s]
  | .integer i => [.integer i]
  | .boolean b => [.boolean b]
  | .double d => [.double d]
  | .null => [.null]
  | .array items => .startArray :: (itemsCalls items ++ [.endArray])
  | .object members => .startObject :: (membersCalls members ++ [.endObject])

def itemsCalls : List Value → List Call
  | [] => []
  | v :: items => v.calls ++ itemsCalls items

def membersCalls : List (String × Value) → List Call
  | [] => []
  | (name, v) :: members => .string name :: (v.calls ++ membersCalls members)

end

theorem itemsCalls_append {items items' : List Value} :
    itemsCalls (items ++ items') = itemsCalls items ++ itemsCalls items' := by
  induction items with
  | nil => rfl
  | cons v items ih => simp [itemsCalls, ih]

theorem membersCalls_append {members members' : List (String × Value)} :
    membersCalls (members ++ members') = membersCalls members ++ membersCalls members' := by
  induction members with
  | nil => rfl
  | cons member members ih => simp [membersCalls, ih]

/-! ## What is built -/

inductive Frame : Type where
  | array : List Value → Frame
  | object : List (String × Value) → Frame
  | member : List (String × Value) → String → Frame

inductive Document : Type where
  /-- what is open in it, innermost first -/
  | within : List Frame → Document
  | complete : Value → Document

def start : Document := .within []

def put (v : Value) : List Frame → Option Document
  | [] => some (.complete v)
  | .array items :: frames => some (.within (.array (items ++ [v]) :: frames))
  | .member members name :: frames => some (.within (.object (members ++ [(name, v)]) :: frames))
  | .object members :: frames =>
    match v with
    | .string name => some (.within (.member members name :: frames))
    | _ => none

def expectsValue : List Frame → Bool
  | .object _ :: _ => false
  | _ => true

/-- One call of the writer; `none` is a failed assertion. -/
def step : Document → Call → Option Document
  | .complete _, _ => none
  | .within frames, .string s => put (.string s) frames
  | .within frames, .integer i => put (.integer i) frames
  | .within frames, .boolean b => put (.boolean b) frames
  | .within frames, .double d => put (.double d) frames
  | .within frames, .null => put .null frames
  | .within frames, .startObject =>
    if expectsValue frames then some (.within (.object [] :: frames)) else none
  | .within frames, .startArray =>
    if expectsValue frames then some (.within (.array [] :: frames)) else none
  | .within (.object members :: frames), .endObject => put (.object members) frames
  | .within (.array items :: frames), .endArray => put (.array items) frames
  | .within _, _ => none

def run : Document → List Call → Option Document
  | d, [] => some d
  | d, c :: calls => (step d c).bind fun d => run d calls

variable {d d' : Document} {c : Call} {calls calls' : List Call} {v : Value} {items : List Value}
  {members members' : List (String × Value)} {frames : List Frame} {name : String}

@[simp]
theorem run_nil : run d [] = some d :=
  rfl

theorem run_cons : run d (c :: calls) = (step d c).bind fun d => run d calls :=
  rfl

theorem run_singleton : run d [c] = step d c :=
  Option.bind_fun_some (step d c)

theorem run_append : run d (calls ++ calls') = (run d calls).bind fun d => run d calls' := by
  induction calls generalizing d with
  | nil => rfl
  | cons c calls ih =>
    rw [cons_append, run_cons, run_cons, Option.bind_assoc]
    exact congrArg _ (funext fun d => ih)

theorem run_append_of_some (h : run d calls = some d') :
    run d (calls ++ calls') = run d' calls' := by
  rw [run_append, h, Option.bind_some]

theorem run_startObject_of_object :
    run (.within (.object members :: frames)) (.startObject :: calls) = none :=
  rfl

theorem run_endArray_of_object :
    run (.within (.object members :: frames)) (.endArray :: calls) = none :=
  rfl

theorem run_endObject_of_array :
    run (.within (.array items :: frames)) (.endObject :: calls) = none :=
  rfl

theorem run_startObject_of_array :
    run (.within (.array items :: frames)) (.startObject :: calls) =
      run (.within (.object [] :: .array items :: frames)) calls :=
  rfl

theorem run_startObject_of_member :
    run (.within (.object members :: frames)) (.string name :: .startObject :: calls) =
      run (.within (.object [] :: .member members name :: frames)) calls :=
  rfl

theorem run_endObject_of_within_array :
    run (.within (.object members :: .array items :: frames)) (.endObject :: calls) =
      run (.within (.array (items ++ [.object members]) :: frames)) calls :=
  rfl

mutual

/-- **Round trip.** Where a value fits, the calls that write it put it there. -/
theorem run_calls : (v : Value) → {frames : List Frame} → expectsValue frames = true →
    run (.within frames) v.calls = put v frames
  | .string s, frames, _ => by rw [Value.calls, run_singleton, step]
  | .integer i, frames, _ => by rw [Value.calls, run_singleton, step]
  | .boolean b, frames, _ => by rw [Value.calls, run_singleton, step]
  | .double d, frames, _ => by rw [Value.calls, run_singleton, step]
  | .null, frames, _ => by rw [Value.calls, run_singleton, step]
  | .array items, frames, hexpects => by
    rw [Value.calls, run_cons, step, if_pos hexpects, Option.bind_some,
      run_append_of_some (run_itemsCalls [] items), List.nil_append, run_singleton, step]
  | .object members, frames, hexpects => by
    rw [Value.calls, run_cons, step, if_pos hexpects, Option.bind_some,
      run_append_of_some (run_membersCalls [] members), List.nil_append, run_singleton, step]

theorem run_itemsCalls (items : List Value) : (items' : List Value) → {frames : List Frame} →
    run (.within (.array items :: frames)) (itemsCalls items') =
      some (.within (.array (items ++ items') :: frames))
  | [], frames => by rw [itemsCalls, run_nil, List.append_nil]
  | v :: items', frames => by
    have hput : run (.within (.array items :: frames)) v.calls =
        some (.within (.array (items ++ [v]) :: frames)) := run_calls v rfl
    rw [itemsCalls, run_append_of_some hput, run_itemsCalls (items ++ [v]) items',
      List.append_assoc, List.singleton_append]

theorem run_membersCalls (members : List (String × Value)) :
    (members' : List (String × Value)) → {frames : List Frame} →
    run (.within (.object members :: frames)) (membersCalls members') =
      some (.within (.object (members ++ members') :: frames))
  | [], frames => by rw [membersCalls, run_nil, List.append_nil]
  | (name, v) :: members', frames => by
    have hput : run (.within (.member members name :: frames)) v.calls =
        some (.within (.object (members ++ [(name, v)]) :: frames)) := run_calls v rfl
    rw [membersCalls, run_cons, step, put, Option.bind_some, run_append_of_some hput,
      run_membersCalls (members ++ [(name, v)]) members', List.append_assoc,
      List.singleton_append]

end

theorem run_start_calls : run start v.calls = some (.complete v) :=
  run_calls v rfl

/-! ## The text -/

def hexDigit (n : ℕ) : Char := Char.ofNat (if n < 10 then 48 + n else 55 + n)

def unicodeEscape (n : ℕ) : List Char :=
  ['\\', 'u', hexDigit (n / 4096 % 16), hexDigit (n / 256 % 16), hexDigit (n / 16 % 16),
    hexDigit (n % 16)]

def escape (c : Char) : List Char :=
  if c = '"' then ['\\', '"']
  else if c = '\\' then ['\\', '\\']
  else if c = '\x08' then ['\\', 'b']
  else if c = '\t' then ['\\', 't']
  else if c = '\n' then ['\\', 'n']
  else if c = '\x0c' then ['\\', 'f']
  else if c = '\r' then ['\\', 'r']
  else if 32 ≤ c.toNat ∧ c.toNat < 128 then [c]
  else if c.toNat < 65536 then unicodeEscape c.toNat
  else
    unicodeEscape (55296 + (c.toNat - 65536) / 1024) ++
      unicodeEscape (56320 + (c.toNat - 65536) % 1024)

def quote (s : String) : List Char := '"' :: (s.toList.flatMap escape ++ ['"'])

mutual

def Value.chars : Value → List Char
  | .string s => quote s
  | .integer i => (toString i).toList
  | .boolean b => (toString b).toList
  | .double d => d.toList
  | .null => "null".toList
  | .array items => '[' :: (itemsChars items ++ [']'])
  | .object members => '\x7b' :: (membersChars members ++ ['\x7d'])

def itemsChars : List Value → List Char
  | [] => []
  | [v] => v.chars
  | v :: w :: items => v.chars ++ ',' :: itemsChars (w :: items)

def membersChars : List (String × Value) → List Char
  | [] => []
  | [(name, v)] => quote name ++ ':' :: v.chars
  | (name, v) :: member :: members =>
    quote name ++ ':' :: (v.chars ++ ',' :: membersChars (member :: members))

end

def Value.text (v : Value) : String := String.ofList v.chars

theorem length_itemsChars (h : items ≠ []) :
    (itemsChars items).length + 1 = (items.map fun v => v.chars.length + 1).sum := by
  induction items with
  | nil => exact absurd rfl h
  | cons v items ih =>
    cases items with
    | nil => simp [itemsChars]
    | cons w items =>
      have htail := ih (cons_ne_nil w items)
      rw [itemsChars, map_cons, sum_cons]
      simp only [length_append, length_cons]
      omega

theorem length_lt_of_sublist {l : List Value} (h : List.Sublist l items)
    (hlength : l.length < items.length) (hne : l ≠ []) :
    (itemsChars l).length < (itemsChars items).length := by
  have hsum : (l.map fun v => v.chars.length + 1).sum <
      (items.map fun v => v.chars.length + 1).sum := by
    clear hne
    induction h with
    | slnil => exact absurd hlength (Nat.lt_irrefl _)
    | @cons l items v hsub ih =>
      rw [map_cons, sum_cons]
      rcases Nat.lt_or_eq_of_le hsub.length_le with hlt | heq
      · exact Nat.lt_of_lt_of_le (ih hlt) (Nat.le_add_left _ _)
      · rw [hsub.eq_of_length heq]
        omega
    | @cons_cons l items v hsub ih =>
      exact Nat.add_lt_add_left (ih (Nat.lt_of_succ_lt_succ hlength)) _
  have hne' : items ≠ [] := by
    rintro rfl
    exact absurd hlength (Nat.not_lt_zero _)
  have hl := length_itemsChars hne
  have hitems := length_itemsChars hne'
  omega

/-! ## Writers -/

/-- A streaming writer, seen from outside: whether it takes these calls, and the text it has
written then. -/
structure Writer : Type where
  accepts : List Call → Bool
  text : List Call → String

structure Writer.Sound (w : Writer) : Prop where
  /-- it takes the calls that make a document, or the beginning of one -/
  accepts_eq : ∀ calls, w.accepts calls = (run start calls).isSome
  text_eq : ∀ calls v, run start calls = some (.complete v) → w.text calls = v.text

def writer : Writer where
  accepts calls := (run start calls).isSome
  text calls :=
    match run start calls with
    | some (.complete v) => v.text
    | _ => ""

theorem writer_sound : writer.Sound where
  accepts_eq _ := rfl
  text_eq calls v h := by
    show (match run start calls with
      | some (.complete v) => v.text
      | _ => "") = v.text
    rw [h]

end Json
