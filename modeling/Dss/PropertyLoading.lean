import Dss.PropertyText

/-!
# Loading what was saved

The parser walks through the report of a tree with a place in the tree it builds. Where the names
of the nodes survive, and no two nodes side by side have the same name, what is loaded is the tree
that was saved, but for its flags and the texts and floating values that are not given back.
-/

namespace Dss

open List

namespace PropertyTree

open Xml

/-! ## Places -/

section Places

variable {f : Nodes} {t x leaf : Tree} {g g' : Tree → Tree} {i : ℕ} {p q : List ℕ}

/-- `addChild` of a node. -/
def Tree.push (t child : Tree) : Tree where
  data := { t.data with hasChildNodes := true }
  children := t.children.append child

theorem Tree.addChild_eq_push (name : String) (t : Tree) :
    t.addChild name =
      t.push ⟨{ name := name, index := t.children.nextIndex name }, .nil⟩ := rfl

theorem Nodes.get?_append_length (f : Nodes) (x : Tree) : (f.append x).get? f.length = some x := by
  induction f with
  | nil => rfl
  | cons d children rest _ ih => exact ih

theorem Nodes.modify_append_length (g : Tree → Tree) (f : Nodes) (x : Tree) :
    (f.append x).modify g f.length = f.append (g x) := by
  induction f with
  | nil => rfl
  | cons d children rest _ ih => rw [append, length, modify, ih, append]

theorem Nodes.get?_modify (g : Tree → Tree) (i : ℕ) (f : Nodes) :
    (f.modify g i).get? i = (f.get? i).map g := by
  induction f generalizing i with
  | nil => cases i <;> rfl
  | cons d children rest _ ih =>
    cases i with
    | zero => rfl
    | succ i => exact ih i

theorem Nodes.modify_modify (g g' : Tree → Tree) (i : ℕ) (f : Nodes) :
    (f.modify g i).modify g' i = f.modify (g' ∘ g) i := by
  induction f generalizing i with
  | nil => cases i <;> rfl
  | cons d children rest _ ih =>
    cases i with
    | zero => rfl
    | succ i => rw [modify, modify, ih, modify]

theorem Nodes.modify_id (i : ℕ) (f : Nodes) : f.modify id i = f := by
  induction f generalizing i with
  | nil => cases i <;> rfl
  | cons d children rest _ ih =>
    cases i with
    | zero => rfl
    | succ i => rw [modify, ih]

theorem Nodes.modify_congr (hx : f.get? i = some x) (h : g x = g' x) :
    f.modify g i = f.modify g' i := by
  induction f generalizing i with
  | nil => cases i <;> cases hx
  | cons d children rest _ ih =>
    cases i with
    | zero =>
      obtain rfl : (⟨d, children⟩ : Tree) = x := Option.some.inj hx
      rw [modify, modify, h]
    | succ i => rw [modify, modify, ih hx]

namespace Tree

theorem getAt_modifyAt (g : Tree → Tree) (p : List ℕ) (t : Tree) :
    (t.modifyAt g p).getAt p = (t.getAt p).map g := by
  induction p generalizing t with
  | nil => rfl
  | cons i p ih =>
    show ((t.children.modify (modifyAt g p) i).get? i).bind (getAt p) = _
    rw [Nodes.get?_modify, getAt]
    cases t.children.get? i with
    | none => rfl
    | some x => exact ih x

theorem modifyAt_modifyAt (g g' : Tree → Tree) (p : List ℕ) (t : Tree) :
    (t.modifyAt g p).modifyAt g' p = t.modifyAt (g' ∘ g) p := by
  induction p generalizing t with
  | nil => rfl
  | cons i p ih =>
    have hcomp : modifyAt g' p ∘ modifyAt g p = modifyAt (g' ∘ g) p := funext ih
    rw [modifyAt, modifyAt, modifyChild, modifyChild, Nodes.modify_modify, hcomp]
    rfl

theorem modifyAt_congr (hx : t.getAt p = some x) (h : g x = g' x) :
    t.modifyAt g p = t.modifyAt g' p := by
  induction p generalizing t with
  | nil =>
    obtain rfl : t = x := Option.some.inj hx
    exact h
  | cons i p ih =>
    obtain ⟨y, hy, hxy⟩ := Option.bind_eq_some_iff.mp hx
    rw [modifyAt, modifyAt, modifyChild, modifyChild, Nodes.modify_congr hy (ih hxy)]

theorem modifyAt_id (p : List ℕ) (t : Tree) : t.modifyAt id p = t := by
  induction p generalizing t with
  | nil => rfl
  | cons i p ih =>
    have hid : modifyAt id p = id := funext ih
    rw [modifyAt, hid, modifyChild, Nodes.modify_id]

theorem modifyAt_eq_self (hx : t.getAt p = some x) (h : g x = x) : t.modifyAt g p = t :=
  (modifyAt_congr hx h).trans (modifyAt_id p t)

theorem getAt_append : t.getAt (p ++ q) = (t.getAt p).bind (getAt q) := by
  induction p generalizing t with
  | nil => rfl
  | cons i p ih =>
    rw [cons_append, getAt, getAt, Option.bind_assoc]
    congr 1
    exact funext fun y => ih

theorem modifyAt_append : t.modifyAt g (p ++ q) = t.modifyAt (modifyAt g q) p := by
  induction p generalizing t with
  | nil => rfl
  | cons i p ih =>
    have hcomp : modifyAt g (p ++ q) = modifyAt (modifyAt g q) p := funext fun y => ih
    rw [cons_append, modifyAt, modifyAt, hcomp]

theorem getAt_push (hx : t.getAt p = some x) :
    (t.modifyAt (push · leaf) p).getAt (p ++ [x.children.length]) = some leaf := by
  rw [getAt_append, getAt_modifyAt, hx]
  show ((x.children.append leaf).get? x.children.length).bind some = some leaf
  rw [Nodes.get?_append_length]
  rfl

theorem modifyAt_push (hx : t.getAt p = some x) :
    (t.modifyAt (push · leaf) p).modifyAt g (p ++ [x.children.length]) =
      t.modifyAt (push · (g leaf)) p := by
  rw [modifyAt_append, modifyAt_modifyAt]
  refine modifyAt_congr hx ?_
  show modifyChild g x.children.length (x.push leaf) = x.push (g leaf)
  rw [modifyChild, push, push, Nodes.modify_append_length]

end Tree

end Places

/-! ## Names -/

/-- A character that survives in a name. -/
def isPlain (c : Char) : Bool := c ≠ '[' && c ≠ '/' && !isBreak c

/-- A name that survives as it is. -/
def Plain (name : String) : Prop := ∀ c ∈ name.toList, isPlain c = true

instance (name : String) : Decidable (Plain name) := List.decidableBAll _ name.toList

section Names

variable {name part : String} {c : Char}

theorem isPlain_iff : isPlain c = true ↔ c ≠ '[' ∧ c ≠ '/' ∧ isBreak c = false := by
  simp [isPlain, and_assoc]

theorem isBreak_reportedAttribute (h : c ∈ (reportedAttribute name).toList) :
    isBreak c = false := by
  rw [reportedAttribute, String.toList_ofList] at h
  exact isBreak_of_mem_normalizeBlanks h

theorem reportedAttribute_eq_self (h : ∀ c ∈ name.toList, isBreak c = false) :
    reportedAttribute name = name := by
  have hreturn : '\r' ∉ name.toList := fun hmem => absurd (h _ hmem) (by decide)
  rw [reportedAttribute, normalizeLines_eq_self hreturn, normalizeBlanks_eq_self h,
    String.ofList_toList]

/-- What stands between separators. -/
theorem mem_of_mem_splitOn {sep : Char} {cs l : List Char} (hl : l ∈ cs.splitOn sep)
    (hc : c ∈ l) : c ∈ cs ∧ c ≠ sep := by
  induction cs generalizing l with
  | nil =>
    rw [splitOn_nil, mem_singleton] at hl
    subst hl
    cases hc
  | cons d cs ih =>
    rw [splitOn_cons_eq_if_modifyHead] at hl
    split_ifs at hl with hd
    · rcases mem_cons.mp hl with rfl | hl
      · cases hc
      · obtain ⟨hmem, hne⟩ := ih hl hc
        exact ⟨mem_cons_of_mem _ hmem, hne⟩
    · obtain ⟨head, tail, heq⟩ := exists_cons_of_ne_nil (splitOn_ne_nil sep cs)
      rw [heq] at hl
      rw [heq] at ih
      rcases mem_cons.mp hl with rfl | hl
      · rcases mem_cons.mp hc with rfl | hc
        · exact ⟨mem_cons_self, by simpa using hd⟩
        · obtain ⟨hmem, hne⟩ := ih mem_cons_self hc
          exact ⟨mem_cons_of_mem _ hmem, hne⟩
      · obtain ⟨hmem, hne⟩ := ih (mem_cons_of_mem _ hl) hc
        exact ⟨mem_cons_of_mem _ hmem, hne⟩

theorem plain_of_mem_partsOf (hname : ∀ c ∈ name.toList, isBreak c = false)
    (h : part ∈ partsOf name) : Plain part := by
  obtain ⟨l, hl, rfl⟩ := mem_map.mp h
  intro c hc
  rw [String.toList_ofList] at hc
  have hbracket : c ≠ '[' := by simpa using mem_takeWhile_imp hc
  obtain ⟨hmem, hslash⟩ := mem_of_mem_splitOn hl ((takeWhile_sublist _).subset hc)
  exact isPlain_iff.2 ⟨hbracket, hslash, hname c hmem⟩

theorem partsOf_ne_nil (name : String) : partsOf name ≠ [] := by simp [partsOf]

theorem partsOf_plain (h : Plain name) : partsOf name = [name] := by
  have hslash : '/' ∉ name.toList := fun hmem => absurd (h _ hmem) (by decide)
  have htake : name.toList.takeWhile (· ≠ '[') = name.toList :=
    takeWhile_eq_self_iff.mpr fun c hc => decide_eq_true (isPlain_iff.1 (h c hc)).1
  rw [partsOf, splitOn_eq_singleton hslash, map_singleton, htake, String.ofList_toList]

theorem partsOf_index (h : Plain name) (i : ℕ) :
    partsOf (name ++ "[" ++ toString i ++ "]") = [name] := by
  have htext : (name ++ "[" ++ toString i ++ "]").toList =
      name.toList ++ '[' :: ((toString i).toList ++ [']']) := by simp
  have hslash : '/' ∉ name.toList ++ '[' :: ((toString i).toList ++ [']']) := by
    simp only [mem_append, mem_cons, not_mem_nil, or_false, not_or]
    refine ⟨fun hmem => absurd (h _ hmem) (by decide), by decide, fun hmem => ?_, by decide⟩
    rw [Nat.toString_eq_ofList_toDigits, String.toList_ofList] at hmem
    exact absurd (Nat.isDigit_of_mem_toDigits (by decide) (by decide) hmem) (by decide)
  have htake : (name.toList ++ '[' :: ((toString i).toList ++ [']'])).takeWhile (· ≠ '[') =
      name.toList := by
    rw [takeWhile_append_of_pos fun c hc => decide_eq_true (isPlain_iff.1 (h c hc)).1]
    simp
  rw [partsOf, htext, splitOn_eq_singleton hslash, map_singleton, htake,
    String.ofList_toList]

theorem reportedAttribute_getDisplayName {d : NodeData} (h : Plain d.name) (several : Bool) :
    reportedAttribute (d.getDisplayName several) = d.getDisplayName several := by
  refine reportedAttribute_eq_self fun c hc => ?_
  have hname : ∀ c ∈ d.name.toList, isBreak c = false := fun c hc => (isPlain_iff.1 (h c hc)).2.2
  rw [NodeData.getDisplayName] at hc
  split_ifs at hc
  · simp only [String.toList_append, mem_append] at hc
    rcases hc with ((hc | hc) | hc) | hc
    · exact hname c hc
    · obtain rfl : c = '[' := by simpa using hc
      decide
    · rw [Nat.toString_eq_ofList_toDigits, String.toList_ofList] at hc
      have hdigit := Nat.isDigit_of_mem_toDigits (by decide) (by decide) hc
      have hplain : ¬ isBreak c = true := by
        intro hbreak
        simp only [isBreak, Bool.or_eq_true, decide_eq_true_eq] at hbreak
        rcases hbreak with (rfl | rfl) | rfl <;> exact absurd hdigit (by decide)
      exact eq_false_of_ne_true hplain
    · obtain rfl : c = ']' := by simpa using hc
      decide
  · exact hname c hc

theorem partsOf_getDisplayName {d : NodeData} (h : Plain d.name) (several : Bool) :
    partsOf (d.getDisplayName several) = [d.name] := by
  rw [NodeData.getDisplayName]
  split_ifs
  · exact partsOf_index h d.index
  · exact partsOf_plain h

end Names

/-! ## Values -/

def rereadValue (io : DoubleText) : PropertyValue → PropertyValue
  | .string text => .string (reportedText text)
  | .floating x => .floating (io.strtod (io.doubleToString x))
  | value => value

def InRange : PropertyValue → Prop
  | .integer z => -2 ^ 31 ≤ z ∧ z < 2 ^ 31
  | .unsigned n => n < 2 ^ 32
  | _ => True

theorem reportedText_eq_self {text : String} (h : '\r' ∉ text.toList) :
    reportedText text = text := by
  rw [reportedText, normalizeLines_eq_self h, String.ofList_toList]

theorem return_not_mem_toString (n : ℕ) : '\r' ∉ (toString n).toList := by
  rw [Nat.toString_eq_ofList_toDigits, String.toList_ofList]
  exact fun hmem => absurd (Nat.isDigit_of_mem_toDigits (by decide) (by decide) hmem) (by decide)

theorem return_not_mem_toString_int (z : ℤ) : '\r' ∉ (toString z).toList := by
  rcases z with n | n
  · exact return_not_mem_toString n
  · have htext : (toString (Int.negSucc n)).toList = '-' :: (toString (n + 1)).toList := by
      show ("-" ++ toString (n + 1)).toList = _
      rw [String.toList_append]
      rfl
    rw [htext, mem_cons, not_or]
    exact ⟨by decide, return_not_mem_toString (n + 1)⟩

theorem return_not_mem_doubleToString (io : DoubleText) (x : Float) :
    '\r' ∉ (io.doubleToString x).toList := by
  intro hmem
  rcases io.plain x _ hmem with h | h | h | h <;> exact absurd h (by decide)

theorem valueFrom_reportedText (io : DoubleText) {d : NodeData} (h : InRange d.value)
    (hne : valueType d.value ≠ .none) :
    PropertyParser.valueFrom io (valueType d.value) (reportedText (d.getAsString io)) =
      .ok (rereadValue io d.value) := by
  rw [NodeData.getAsString, PropertyNode.getAsString]
  rcases hvalue : d.value with - | z | n | b | text | x
  · rw [hvalue] at hne
    exact absurd rfl hne
  · rw [hvalue] at h
    rw [reportedText_eq_self (return_not_mem_toString_int z), valueType, PropertyParser.valueFrom,
      parseInt?_toString_int h.1 h.2]
    rfl
  · rw [hvalue] at h
    rw [reportedText_eq_self (return_not_mem_toString n), valueType, PropertyParser.valueFrom,
      parseUInt?_toString h]
    rfl
  · dsimp only
    cases b <;> rfl
  · rfl
  · rw [reportedText_eq_self (return_not_mem_doubleToString io x)]
    rfl

theorem valueType_eq_none {value : PropertyValue} (h : valueType value = .none) :
    value = .none := by
  cases value <;> first | rfl | cases h

structure NodeData.IsLoadable (d : NodeData) : Prop where
  name : Plain d.name
  value : InRange d.value

/-! ## Callbacks -/

namespace PropertyParser

structure Idle (s : PropertyParser) : Prop where
  halt : s.halt = none
  ignore : s.ignore = false
  expectValue : s.expectValue = false
  temporaryValue : s.temporaryValue = ""

variable {io : DoubleText} {s : PropertyParser} {attributes : Attributes} {d : NodeData}
  {name : String}

theorem characterData_idle (hs : s.Idle) (text : String) : characterData text s = s := by
  rw [characterData, hs.expectValue]
  simp

theorem feed_text (hs : s.Idle) (text : String) (rest : Content) :
    (handler io).feed (.text text rest) s = (handler io).feed rest s := by
  show (handler io).feed rest (characterData text s) = _
  rw [characterData_idle hs]

theorem elementStart_property (hs : s.Idle) (hlevel : 0 < s.level) :
    elementStart "property" attributes s = s.startProperty attributes := by
  obtain ⟨hhalt, hignore, hexpect, -⟩ := hs
  have hne : ¬ s.level = 0 := by omega
  rw [elementStart, hhalt, if_neg (by simp), if_neg hne]
  by_cases hone : s.level = 1
  · rw [if_pos hone]
    rcases s with ⟨_, _, expectValue, ignore, _, _, _, _, _, _⟩
    subst hhalt hignore hexpect
    rfl
  · rw [if_neg hone, if_neg]
    · rfl
    · simp [hignore]

/-! ### Attributes -/

theorem value?_attributes (d : NodeData) (name : String) :
    (d.attributes name).value? "name" = some name ∧
      (d.attributes name).value? "type" = some (getValueTypeAsString (valueType d.value)) ∧
      (d.attributes name).value? "writable" = none ∧
      (d.attributes name).value? "readable" = (if d.flags.readable then some "true" else none) ∧
      (d.attributes name).value? "archive" = if d.flags.archive then some "true" else none := by
  rcases d with ⟨_, _, _, ⟨readable, writeable, archive⟩, _⟩
  cases readable <;> cases writeable <;> cases archive <;> exact ⟨rfl, rfl, rfl, rfl, rfl⟩

theorem setFlags_attributes (leaf : Tree) (hflags : leaf.data.flags = {}) :
    setFlags (d.attributes name) leaf =
      { leaf with data := { leaf.data with flags := { archive := d.flags.archive } } } := by
  obtain ⟨-, -, hwritable, hreadable, harchive⟩ := value?_attributes d name
  rw [setFlags, hreadable, hwritable, harchive, hflags]
  cases d.flags.readable <;> cases d.flags.archive <;> rfl

theorem getValueTypeFromString_asString (type : ValueType) :
    getValueTypeFromString (getValueTypeAsString type) = some type := by
  cases type <;> rfl

def entered (s : PropertyParser) (name : String) : List ℕ × Tree :=
  (partsOf name).foldl (enter s.level s.currentNode) (s.currentNode, s.root)

theorem startProperty_attributes (d : NodeData) (name : String) :
    s.startProperty (d.attributes name) =
      { s with
        currentValueType := valueType d.value
        root := (s.entered name).2.modifyAt (setFlags (d.attributes name)) (s.entered name).1
        nodes := s.currentNode :: s.nodes
        currentNode := (s.entered name).1
        level := s.level + 1 } := by
  obtain ⟨hname, htype, -⟩ := value?_attributes d name
  rw [startProperty, hname, htype]
  dsimp only [Option.elim]
  rw [getValueTypeFromString_asString]
  rfl

/-! ### Values -/

theorem elementStart_value (hhalt : s.halt = none) (hlevel : 1 < s.level)
    (hignore : s.ignore = false) (htype : s.currentValueType ≠ .none) :
    elementStart "value" [] s = { s with expectValue := true, level := s.level + 1 } := by
  have hzero : ¬ s.level = 0 := by omega
  have hone : ¬ s.level = 1 := by omega
  rw [elementStart, if_neg (by simp [hhalt]), if_neg hzero, if_neg hone,
    if_neg (by simp [hignore]), startInner, if_neg (by decide), if_pos rfl, if_neg htype]

theorem characterData_value (hhalt : s.halt = none) (hexpect : s.expectValue = true)
    (htype : s.currentValueType ≠ .none) (text : String) :
    characterData text s = { s with temporaryValue := s.temporaryValue ++ text } := by
  rw [characterData, if_neg (by simp [hhalt]), if_pos ⟨hexpect, htype⟩]

theorem elementEnd_value (hhalt : s.halt = none) (hlevel : 0 < s.level)
    (hignore : s.ignore = false) {value : PropertyValue}
    (hvalue : valueFrom io s.currentValueType s.temporaryValue = .ok value) :
    elementEnd io "value" s =
      { s with
        level := s.level - 1
        expectValue := false
        root := s.root.modifyAt (Tree.setValue value) s.currentNode
        temporaryValue := "" } := by
  have hnonneg : ¬ s.level - 1 < 0 := by omega
  rw [elementEnd, if_neg (by simp [hhalt])]
  rw [if_neg hnonneg, if_neg (by simp [hignore]), if_neg (by decide), if_pos rfl, hvalue]

theorem elementEnd_property (hhalt : s.halt = none) (hlevel : 0 < s.level)
    (hignore : s.ignore = false) {place : List ℕ} {nodes : List (List ℕ)}
    (hnodes : s.nodes = place :: nodes) :
    elementEnd io "property" s =
      { s with
        level := s.level - 1
        expectValue := false
        currentNode := place
        nodes := nodes
        currentValueType := .none
        temporaryValue := "" } := by
  have hnonneg : ¬ s.level - 1 < 0 := by omega
  rw [elementEnd, if_neg (by simp [hhalt])]
  rw [if_neg hnonneg, if_neg (by simp [hignore]), if_pos rfl, hnodes]

theorem feed_value (hs : s.Idle) (hlevel : 1 < s.level) {text : String} {value : PropertyValue}
    (htype : s.currentValueType ≠ .none)
    (hvalue : valueFrom io s.currentValueType text = .ok value) (rest : Content) :
    (handler io).feed (.element "value" [] (.text text .nil) rest) s =
      (handler io).feed rest
        { s with root := s.root.modifyAt (Tree.setValue value) s.currentNode } := by
  rcases s with ⟨level, _, expectValue, ignore, type, temporaryValue, place, _, root, _⟩
  obtain ⟨hhalt, hignore, hexpect, htemporary⟩ := hs
  dsimp only at hhalt hignore hexpect htemporary hlevel htype hvalue
  subst hhalt hignore hexpect htemporary
  have hback : level + 1 - 1 = level := by omega
  show (handler io).feed rest (elementEnd io "value" (characterData text
    (elementStart "value" [] _))) = _
  rw [elementStart_value rfl hlevel rfl htype, characterData_value rfl rfl htype]
  dsimp only
  rw [elementEnd_value rfl (Int.lt_add_one_of_le (by omega)) rfl hvalue]
  rw [hback]

theorem feed_valueContent (hs : s.Idle) (hlevel : 1 < s.level) {x : Tree}
    (hx : s.root.getAt s.currentNode = some x) (hnone : x.data.value = .none)
    (htype : s.currentValueType = valueType d.value) (hrange : InRange d.value) (indent : ℕ)
    (rest : Content) :
    (handler io).feed (d.valueContent io reportedText indent rest) s =
      (handler io).feed rest
        { s with
          root := s.root.modifyAt (Tree.setValue (rereadValue io d.value)) s.currentNode } := by
  have hidle : ∀ root, { s with root := root }.Idle := fun root => ⟨hs.1, hs.2, hs.3, hs.4⟩
  have hvalue := valueFrom_reportedText io hrange
  by_cases hd : valueType d.value = .none
  · have hsame : Tree.setValue (rereadValue io d.value) x = x := by
      rw [valueType_eq_none hd]
      show ({ x with data := { x.data with value := .none } } : Tree) = x
      rw [← hnone]
    rw [Tree.modifyAt_eq_self hx hsame, NodeData.valueContent, hd]
  · have hcontent : d.valueContent io reportedText indent rest =
        .text (doIndent indent) (.element "value" []
          (.text (reportedText (d.getAsString io)) .nil) (.text "\n" rest)) := by
      rw [NodeData.valueContent]
      cases htype : valueType d.value with
      | none => exact absurd htype hd
      | _ => rfl
    rw [← htype] at hd
    rw [← htype] at hvalue
    rw [hcontent, feed_text hs, feed_value hs hlevel hd (hvalue hd), feed_text (hidle _)]

end PropertyParser

/-! ## Nodes -/

namespace Tree

def pushAll (t : Tree) : Nodes → Tree
  | .nil => t
  | .cons d children rest => (t.push ⟨d, children⟩).pushAll rest

end Tree

namespace Nodes

def appendAll : Nodes → Nodes → Nodes
  | nil, g => g
  | cons d children rest, g => cons d children (rest.appendAll g)

def Distinct : Nodes → Prop
  | nil => True
  | cons d children rest => rest.count d.name = 0 ∧ children.Distinct ∧ rest.Distinct

variable {f : Nodes} {name : String}

theorem append_appendAll (f g : Nodes) (x : Tree) :
    (f.append x).appendAll g = f.appendAll (cons x.data x.children g) := by
  induction f with
  | nil => rfl
  | cons d children rest _ ih => rw [append, appendAll, appendAll, ih]

theorem appendAll_nil (f : Nodes) : f.appendAll nil = f := by
  induction f with
  | nil => rfl
  | cons d children rest _ ih => rw [appendAll, ih]

theorem count_append (f : Nodes) (x : Tree) (name : String) :
    (f.append x).count name = f.count name + if x.data.name = name then 1 else 0 := by
  induction f with
  | nil => simp [append, count]
  | cons d children rest _ ih => rw [append, count, count, ih, Nat.add_assoc]

theorem Distinct.count_le_one (h : f.Distinct) (name : String) : f.count name ≤ 1 := by
  induction f with
  | nil => exact Nat.zero_le 1
  | cons d children rest _ ih =>
    obtain ⟨hname, -, hrest⟩ := h
    rw [count]
    split_ifs with heq
    · rw [← heq, hname]
    · rw [Nat.zero_add]
      exact ih hrest

theorem position_eq_none (h : f.count name = 0) : f.position name = none := by
  induction f with
  | nil => rfl
  | cons d children rest _ ih =>
    rw [count] at h
    have hne : ¬ d.name = name := by
      intro heq
      rw [if_pos heq] at h
      omega
    rw [if_neg hne, Nat.zero_add] at h
    rw [position, if_neg fun hboth => hne hboth.1, ih h]
    rfl

theorem nextIndex_eq_zero (h : f.count name = 0) : f.nextIndex name = 0 := by
  induction f with
  | nil => rfl
  | cons d children rest _ ih =>
    rw [count] at h
    have hne : ¬ d.name = name := by
      intro heq
      rw [if_pos heq] at h
      omega
    rw [if_neg hne, Nat.zero_add] at h
    rw [nextIndex, if_neg hne, ih h]
    rfl

end Nodes

def NodeData.reread (io : DoubleText) (children : Nodes) (d : NodeData) : NodeData where
  name := d.name
  value := rereadValue io d.value
  flags := { archive := d.flags.archive }
  hasChildNodes := decide (children.length ≠ 0)

def Nodes.reread (io : DoubleText) : Nodes → Nodes
  | nil => nil
  | cons d children rest => cons (d.reread io children) (children.reread io) (rest.reread io)

theorem Nodes.count_reread (io : DoubleText) (f : Nodes) (name : String) :
    (f.reread io).count name = f.count name := by
  induction f with
  | nil => rfl
  | cons d children rest _ ih =>
    rw [reread, count, ih]
    rfl

theorem Nodes.length_reread (io : DoubleText) (f : Nodes) :
    (f.reread io).length = f.length := by
  induction f with
  | nil => rfl
  | cons d children rest _ ih => rw [reread, length, length, ih]

theorem Tree.pushAll_eq (t : Tree) (f : Nodes) :
    t.pushAll f =
      ⟨{ t.data with hasChildNodes := t.data.hasChildNodes || decide (f.length ≠ 0) },
        t.children.appendAll f⟩ := by
  induction f generalizing t with
  | nil =>
    rw [pushAll, Nodes.appendAll_nil, Nodes.length]
    simp
  | cons d children rest _ ih =>
    rw [pushAll, ih, push, Nodes.append_appendAll, Nodes.length]
    simp

theorem enter_new {level : ℤ} {current : List ℕ} {p : List ℕ × Tree} {part : String} {x : Tree}
    (hx : p.2.getAt p.1 = some x) (hcount : x.children.count part = 0)
    (hroot : ¬ (level = 1 ∧ (p.2.getAt current).map (·.data.name) = some part)) :
    enter level current p part = (p.1 ++ [x.children.length],
      p.2.modifyAt (Tree.push · ⟨{ name := part }, .nil⟩) p.1) := by
  have hadd : (fun t : Tree => t.addChild part) x =
      (fun t : Tree => t.push ⟨{ name := part }, .nil⟩) x := by
    show x.addChild part = x.push _
    rw [Tree.addChild_eq_push, Nodes.nextIndex_eq_zero hcount]
  rw [enter, if_neg hroot, hx]
  dsimp only
  rw [Nodes.position_eq_none hcount]
  exact Prod.ext rfl (Tree.modifyAt_congr hx hadd)

namespace PropertyParser

variable {io : DoubleText} {s : PropertyParser} {d : NodeData} {x : Tree}

theorem Idle.setRoot (hs : s.Idle) (root : Tree) (type : ValueType) :
    { s with root := root, currentValueType := type }.Idle :=
  ⟨hs.halt, hs.ignore, hs.expectValue, hs.temporaryValue⟩

def Loads (io : DoubleText) (written : Content → Content) (loaded : Nodes) : Prop :=
  ∀ (s : PropertyParser) (x : Tree) (more : Content), s.Idle → 1 < s.level →
    s.root.getAt s.currentNode = some x →
    (∀ name, x.children.count name + loaded.count name ≤ 1) →
    ∃ type, (handler io).feed (written more) s = (handler io).feed more { s with
      root := s.root.modifyAt (Tree.pushAll · loaded) s.currentNode
      currentValueType := type }

theorem feed_nodeContent {children loaded : Nodes} {written : Content → Content}
    (hwritten : Loads io written loaded) (hdistinct : ∀ name, loaded.count name ≤ 1)
    (hempty : children.length = 0 → loaded = .nil) (hs : s.Idle) (hlevel : 1 < s.level)
    (hx : s.root.getAt s.currentNode = some x) (hnone : x.data.value = .none)
    (hchildren : x.children = .nil) (htype : s.currentValueType = valueType d.value)
    (hrange : InRange d.value) (indent : ℕ) :
    ∃ type, (handler io).feed (d.content io reportedText indent children written) s = { s with
      root := s.root.modifyAt (fun t => (t.setValue (rereadValue io d.value)).pushAll loaded)
        s.currentNode
      currentValueType := type } := by
  rw [NodeData.content]
  split_ifs with hisEmpty
  · rw [NodeData.isEmptyElement, Bool.and_eq_true, Bool.and_eq_true, decide_eq_true_iff,
      decide_eq_true_iff] at hisEmpty
    have hsame : (x.setValue (rereadValue io d.value)).pushAll loaded = x := by
      rw [hempty hisEmpty.1.2, valueType_eq_none hisEmpty.2]
      show ({ x with data := { x.data with value := .none } } : Tree) = x
      rw [← hnone]
    refine ⟨s.currentValueType, ?_⟩
    rw [Tree.modifyAt_eq_self hx hsame]
    rfl
  · have hidle := hs.setRoot
      (s.root.modifyAt (Tree.setValue (rereadValue io d.value)) s.currentNode) s.currentValueType
    have hplace : (s.root.modifyAt (Tree.setValue (rereadValue io d.value)) s.currentNode).getAt
        s.currentNode = some (x.setValue (rereadValue io d.value)) := by
      rw [Tree.getAt_modifyAt, hx]
      rfl
    have hcount : ∀ name, (x.setValue (rereadValue io d.value)).children.count name +
        loaded.count name ≤ 1 := by
      intro name
      show x.children.count name + _ ≤ 1
      rw [hchildren, Nodes.count, Nat.zero_add]
      exact hdistinct name
    obtain ⟨type, hload⟩ := hwritten _ _ (.text (doIndent indent) .nil) hidle hlevel hplace hcount
    refine ⟨type, ?_⟩
    rw [feed_text hs, feed_valueContent hs hlevel hx hnone htype hrange]
    refine Eq.trans hload ?_
    rw [feed_text (hs.setRoot _ type), Tree.modifyAt_modifyAt]
    rfl

def loadedNode (io : DoubleText) (leaf : Tree) (d : NodeData) (loaded : Nodes) : Tree :=
  Tree.pushAll
    ⟨{ leaf.data with
        value := rereadValue io d.value, flags := { archive := d.flags.archive } },
      leaf.children⟩ loaded

theorem feed_element {children loaded : Nodes} {written : Content → Content} {name : String}
    (hwritten : Loads io written loaded) (hdistinct : ∀ name, loaded.count name ≤ 1)
    (hempty : children.length = 0 → loaded = .nil) (hs : s.Idle) (hlevel : 0 < s.level)
    {leaf : Tree} (hleaf : (s.entered name).2.getAt (s.entered name).1 = some leaf)
    (hnone : leaf.data.value = .none) (hflags : leaf.data.flags = {})
    (hchildren : leaf.children = .nil) (hrange : InRange d.value) (indent : ℕ) (rest : Content) :
    (handler io).feed (.element "property" (d.attributes name)
        (d.content io reportedText indent children written) rest) s =
      (handler io).feed rest { s with
        root := (s.entered name).2.modifyAt (fun _ => loadedNode io leaf d loaded)
          (s.entered name).1
        currentValueType := .none } := by
  let flagged := (s.entered name).2.modifyAt (setFlags (d.attributes name)) (s.entered name).1
  let started : PropertyParser := { s with
    currentValueType := valueType d.value
    root := flagged
    nodes := s.currentNode :: s.nodes
    currentNode := (s.entered name).1
    level := s.level + 1 }
  have hstart : elementStart "property" (d.attributes name) s = started := by
    rw [elementStart_property hs hlevel, startProperty_attributes]
  have hidle : started.Idle := ⟨hs.halt, hs.ignore, hs.expectValue, hs.temporaryValue⟩
  have hplace : started.root.getAt started.currentNode =
      some (setFlags (d.attributes name) leaf) := by
    rw [Tree.getAt_modifyAt, hleaf]
    rfl
  have hlevel' : 1 < started.level := Int.lt_add_of_pos_left 1 hlevel
  obtain ⟨type, hcontent⟩ := feed_nodeContent (d := d) hwritten hdistinct hempty hidle hlevel'
    hplace hnone hchildren rfl hrange indent
  have hroot : started.root.modifyAt (fun t => (t.setValue (rereadValue io d.value)).pushAll loaded)
      started.currentNode =
      (s.entered name).2.modifyAt (fun _ => loadedNode io leaf d loaded) (s.entered name).1 := by
    rw [Tree.modifyAt_modifyAt]
    refine Tree.modifyAt_congr hleaf ?_
    rw [Function.comp_apply, setFlags_attributes leaf hflags]
    rfl
  have hback : s.level + 1 - 1 = s.level := by omega
  have hidle' := hidle.setRoot
    ((s.entered name).2.modifyAt (fun _ => loadedNode io leaf d loaded) (s.entered name).1) type
  show (handler io).feed rest (elementEnd io "property" ((handler io).feed _
    (elementStart "property" (d.attributes name) s))) = _
  rw [hstart, hcontent, hroot, elementEnd_property hidle'.halt
    (Int.lt_trans Int.zero_lt_one hlevel') hidle'.ignore rfl]
  rw [hback, ← hs.expectValue, ← hs.temporaryValue]

theorem entered_of_count {name : String} (hlevel : 1 < s.level)
    (hx : s.root.getAt s.currentNode = some x) (hname : Plain name)
    (hcount : x.children.count name = 0) :
    s.entered name = (s.currentNode ++ [x.children.length],
      s.root.modifyAt (Tree.push · ⟨{ name := name }, .nil⟩) s.currentNode) := by
  rw [entered, partsOf_plain hname]
  exact enter_new hx hcount fun h => by omega

/-- **The nodes side by side.** Where their names survive and are distinct, they are loaded behind
the ones that are there. -/
theorem loads_content (io : DoubleText) {f : Nodes} (hall : f.All NodeData.IsLoadable)
    (hf : f.Distinct) {siblings : Nodes} (hsiblings : ∀ name, siblings.count name ≤ 1)
    (indent : ℕ) :
    Loads io (Nodes.content io reportedAttribute reportedText siblings indent f)
      (f.reread io) := by
  induction f generalizing siblings indent with
  | nil =>
    intro s x more _ _ hx _
    refine ⟨s.currentValueType, ?_⟩
    rw [Nodes.content, Tree.modifyAt_eq_self hx (Tree.pushAll.eq_1 x)]
  | cons d children rest ihchildren ihrest =>
    obtain ⟨hd, hallchildren, hallrest⟩ := hall
    obtain ⟨-, hchildren, hrest⟩ := hf
    intro s x more hs hlevel hx hcount
    have hself := hcount d.name
    rw [Nodes.count_reread, Nodes.count, if_pos rfl] at hself
    have hnone : x.children.count d.name = 0 := by omega
    have hname : reportedAttribute (d.getDisplayName (1 < siblings.count d.name)) = d.name := by
      have hsingle : ¬ 1 < siblings.count d.name := Nat.not_lt.mpr (hsiblings d.name)
      rw [reportedAttribute_getDisplayName hd.name, NodeData.getDisplayName,
        decide_eq_false hsingle, if_neg Bool.false_ne_true]
    have hentered := entered_of_count hlevel hx hd.name hnone
    have hleaf : (s.entered d.name).2.getAt (s.entered d.name).1 =
        some ⟨{ name := d.name }, .nil⟩ := by
      rw [hentered]
      exact Tree.getAt_push hx
    have hempty : children.length = 0 → children.reread io = .nil := by
      intro hzero
      cases children with
      | nil => rfl
      | cons d' children' rest' => cases hzero
    -- the node with its children is put behind those that are there
    have hnode : (s.entered d.name).2.modifyAt (fun _ => loadedNode io ⟨{ name := d.name }, .nil⟩ d
        (children.reread io)) (s.entered d.name).1 =
        s.root.modifyAt (Tree.push · ⟨d.reread io children, children.reread io⟩)
          s.currentNode := by
      rw [hentered, Tree.modifyAt_push hx, loadedNode, Tree.pushAll_eq, Nodes.length_reread]
      rfl
    have hdistinct : ∀ name, (children.reread io).count name ≤ 1 := fun name => by
      rw [Nodes.count_reread]
      exact hchildren.count_le_one name
    have hwritten := ihchildren hallchildren hchildren hchildren.count_le_one (indent + 1)
    have hidle := hs.setRoot (s.root.modifyAt
      (Tree.push · ⟨d.reread io children, children.reread io⟩) s.currentNode) .none
    have hplace : (s.root.modifyAt (Tree.push · ⟨d.reread io children, children.reread io⟩)
        s.currentNode).getAt s.currentNode =
        some (x.push ⟨d.reread io children, children.reread io⟩) := by
      rw [Tree.getAt_modifyAt, hx]
      rfl
    have hcount' : ∀ name, (x.push ⟨d.reread io children, children.reread io⟩).children.count name +
        (rest.reread io).count name ≤ 1 := by
      intro name
      have hname : x.children.count name +
          ((if d.name = name then 1 else 0) + (rest.reread io).count name) ≤ 1 := hcount name
      show (x.children.append _).count name + _ ≤ 1
      rw [Nodes.count_append]
      exact (Nat.add_assoc _ _ _).trans_le hname
    obtain ⟨type, hload⟩ := ihrest hallrest hrest hsiblings indent _ _ more hidle hlevel hplace
      hcount'
    refine ⟨type, ?_⟩
    rw [Nodes.content, feed_text hs, hname,
      feed_element hwritten hdistinct hempty hs (Int.lt_trans Int.zero_lt_one hlevel) hleaf rfl rfl
        rfl hd.value, hnode, feed_text hidle, hload]
    rw [Tree.modifyAt_modifyAt]
    rfl

end PropertyParser

end PropertyTree

end Dss
