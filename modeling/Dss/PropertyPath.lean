import Mathlib.Data.List.TakeWhile
import Dss.KeyedList
import Dss.PropertyNode

/-!
# Property paths

A path is split at its slashes, and every part may end in an index in brackets. The empty path and
the path "/" name the node itself, and a slash at the end is ignored.

A node that is found comes with its place: which child was taken at each part.
-/

namespace Dss

open List Option

/-- What `c_str()` hands over: the text up to the first NUL. -/
def cString (s : String) : String := String.ofList (s.toList.takeWhile (· ≠ '\x00'))

def atoi (text : List Char) : ℤ :=
  let (negative, body) :=
    match text.dropWhile isSpace with
    | '-' :: cs => (true, cs)
    | '+' :: cs => (false, cs)
    | cs => (false, cs)
  let magnitude := (readDigits 10 0 body).1
  let value : ℤ := if negative then -magnitude else magnitude
  (max (-2 ^ 63) (min value (2 ^ 63 - 1))).bmod (2 ^ 32)

def trim (text : List Char) : List Char :=
  let isBlank := fun c => c == ' ' || c == '\t' || c == '\n' || c == '\r'
  ((text.dropWhile isBlank).reverse.dropWhile isBlank).reverse

namespace PropertyNode

/-! ## One part of a path -/

/-- `getAndRemoveIndexFromPropertyName`: the index, -1 for the last, and the name. The
bracket that closes is looked for from the beginning, and as many characters are
erased as its position says. -/
def getAndRemoveIndexFromPropertyName (name : String) : ℤ × String :=
  let cs := name.toList
  let head := cs.takeWhile (· ≠ '[')
  match cs.dropWhile (· ≠ '[') with
  | [] => (0, name)
  | _ :: inner =>
    let (indexAsString, kept) :=
      match cs.findIdx? (· = ']') with
      | none => (inner, [])
      | some stop =>
        (if stop < head.length then inner else inner.take (stop - head.length - 1),
          cs.drop (head.length + stop))
    (if trim indexAsString = "last".toList then -1 else atoi indexAsString,
      String.ofList (head ++ kept))

/-- `getPropertyByName` of a part of a path: the position of the child. -/
def position (node : PropertyNode) (part : String) : Option ℕ :=
  let (index, name) := getAndRemoveIndexFromPropertyName part
  match node.children.findIdx? fun child => child.name = name ∧ (child.index : ℤ) = index with
  | some i => some i
  | none =>
    if index = -1 then
      (List.range node.children.length).reverse.find? fun i =>
        node.children[i]?.any fun child => child.name = name
    else none

/-! ## Paths -/

/-- The parts `carCdrPath` takes off one by one. -/
def splitPath (path : String) : List String := (path.toList.splitOn '/').map String.ofList

/-- Whether the path that is left is empty or "/". -/
def isSelf (parts : List String) : Bool := parts = [] ∨ parts = [""] ∨ parts = ["", ""]

/-- `getProperty`: the node, with its place. -/
def walk (node : PropertyNode) : List String → Option (List ℕ × PropertyNode)
  | [] => some ([], node)
  | part :: parts =>
    if isSelf (part :: parts) then some ([], node)
    else
      match node.position part with
      | none => none
      | some i =>
        match node.children[i]? with
        | none => none
        | some child => (child.walk parts).map fun found => (i :: found.1, found.2)

def getProperty (node : PropertyNode) (path : String) : Option (List ℕ × PropertyNode) :=
  node.walk (splitPath path)

/-- `removeChild` of a node found at this place. -/
def removeChild (node : PropertyNode) : List ℕ → PropertyNode
  | [i] => { node with children := node.children.eraseIdx i }
  | _ => node

/-- The name `createProperty` gives a new child: without a plus at the end, and
without the index. -/
def newName (part : String) : String :=
  let part := if part.toList.getLast? = some '+' then String.ofList part.toList.dropLast else part
  (getAndRemoveIndexFromPropertyName part).2

/-- What `DS_REQUIRE` throws. -/
def emptyName : Failure := .exception (.runtimeError "Cannot create property with empty name.")

/-- `createProperty`, with what is then done to the node: the node afterwards, and
what was thrown. The nodes made before stay. -/
def create (node : PropertyNode) (f : PropertyNode → PropertyNode) :
    List String → PropertyNode × Option Failure
  | [] => (f node, none)
  | part :: parts =>
    if isSelf (part :: parts) then (f node, none)
    else
      match (node.position part).bind fun i => node.children[i]?.map fun child => (i, child) with
      | some (i, child) =>
        let (child, failure) := child.create f parts
        ({ node with children := node.children.set i child }, failure)
      | none =>
        if newName part = "" then (node, some emptyName)
        else
          let name := cString (newName part)
          let (child, failure) :=
            ({ name := name, index := node.nextIndex name } : PropertyNode).create f parts
          ({ node with children := node.children ++ [child] }, failure)

/-- `createProperty`, with what is then done to the node. -/
def createProperty (node : PropertyNode) (path : String) (f : PropertyNode → PropertyNode) :
    PropertyNode × Option Failure :=
  node.create f (splitPath path)

/-! ## Plain names -/

/-- A path of one part without an index. -/
def Plain (path : String) : Prop :=
  path ≠ "" ∧ '/' ∉ path.toList ∧ '[' ∉ path.toList

instance (path : String) : Decidable (Plain path) :=
  inferInstanceAs (Decidable (path ≠ "" ∧ '/' ∉ path.toList ∧ '[' ∉ path.toList))

variable {node child : PropertyNode} {path part : String} {parts : List String} {i : ℕ}
  {f : PropertyNode → PropertyNode}

theorem splitPath_of_not_mem (h : '/' ∉ path.toList) : splitPath path = [path] := by
  have hsingle : path.toList.splitOn '/' = [path.toList] := by
    have hjoin : (['/'].intercalate [path.toList]).splitOn '/' = [path.toList] :=
      splitOn_intercalate '/' (fun l hl => mem_singleton.mp hl ▸ h)
        (cons_ne_nil _ _)
    simpa using hjoin
  rw [splitPath, hsingle, map_singleton, String.ofList_toList]

theorem Plain.isSelf_eq_false (h : Plain path) : isSelf [path] = false := by
  simp [isSelf, h.1]

theorem getAndRemoveIndex_of_not_mem (h : '[' ∉ part.toList) :
    getAndRemoveIndexFromPropertyName part = (0, part) := by
  have hdrop : part.toList.dropWhile (· ≠ '[') = [] := by
    rw [dropWhile_eq_nil_iff]
    intro c hc
    simpa using fun heq : c = '[' => h (heq ▸ hc)
  simp only [getAndRemoveIndexFromPropertyName, hdrop]

theorem position_of_not_mem (h : '[' ∉ part.toList) :
    node.position part = node.children.findIdx? (isNamed part) := by
  have hpred : (fun child : PropertyNode => decide (child.name = part ∧ (child.index : ℤ) = 0)) =
      isNamed part := by
    funext child
    by_cases hname : child.name = part <;> by_cases hindex : child.index = 0 <;>
      simp [isNamed, hname, hindex]
  simp only [position, getAndRemoveIndex_of_not_mem h, hpred]
  cases node.children.findIdx? (isNamed part) with
  | some i => rfl
  | none => exact if_neg (by decide)

theorem getProperty_of_plain (h : Plain path) :
    node.getProperty path = (node.children.findIdx? (isNamed path)).bind fun i =>
      node.children[i]?.map fun child => ([i], child) := by
  rw [getProperty, splitPath_of_not_mem h.2.1, walk, h.isSelf_eq_false,
    position_of_not_mem h.2.2]
  cases node.children.findIdx? (isNamed path) with
  | none => rfl
  | some i =>
    cases hchild : node.children[i]? with
    | none => simp [hchild]
    | some child => simp [hchild, walk]

/-! ## Children with distinct names -/

def childNames (node : PropertyNode) : List String := node.children.map PropertyNode.name

/-- No two children share a name, and none was the second of its name. -/
structure Distinct (node : PropertyNode) : Prop where
  nodup : node.childNames.Nodup
  index_eq : ∀ child ∈ node.children, child.index = 0

theorem isNamed_iff (h : child.index = 0) : isNamed path child = true ↔ child.name = path := by
  simp [isNamed, h]

theorem Distinct.isNamed_iff (hd : node.Distinct) (hmem : child ∈ node.children) :
    isNamed path child = true ↔ child.name = path :=
  PropertyNode.isNamed_iff (hd.index_eq child hmem)

theorem Distinct.getProperty_eq_none_iff (hd : node.Distinct) (h : Plain path) :
    node.getProperty path = none ↔ path ∉ node.childNames := by
  rw [getProperty_of_plain h, childNames,
    ← KeyedList.findIdx?_eq_none_iff fun child hmem => hd.isNamed_iff hmem]
  rcases hi : node.children.findIdx? (isNamed path) with - | i
  · exact iff_of_true rfl rfl
  · obtain ⟨hlt, -, -⟩ := findIdx?_eq_some_iff_getElem.mp hi
    refine iff_of_false ?_ (some_ne_none i)
    rw [bind_some, getElem?_eq_getElem hlt]
    exact some_ne_none _

/-- A lookup of a plain path finds the child of that name, and taking it out leaves
the others. -/
theorem Distinct.of_getProperty_eq_some (hd : node.Distinct) (h : Plain path) {place : List ℕ}
    (hfound : node.getProperty path = some (place, child)) :
    child ∈ node.children ∧ child.name = path ∧
      (node.removeChild place).children = node.children.filter fun child => child.name ≠ path := by
  rw [getProperty_of_plain h] at hfound
  obtain ⟨i, hi, hmap⟩ := bind_eq_some_iff.mp hfound
  obtain ⟨child', hchild, heq⟩ := map_eq_some_iff.mp hmap
  cases heq
  have hmem := mem_of_getElem? hchild
  obtain ⟨hlt, hnamed, -⟩ := findIdx?_eq_some_iff_getElem.mp hi
  rw [getElem?_eq_getElem hlt] at hchild
  rw [some.inj hchild] at hnamed
  refine ⟨hmem, (hd.isNamed_iff hmem).mp hnamed, ?_⟩
  rw [← KeyedList.eraseP_eq_filter hd.nodup fun child hmem => hd.isNamed_iff hmem,
    eraseP_eq_eraseIdx, hi]
  rfl

/-! ## New children -/

theorem newName_of_plain (h : Plain path) (hplus : '+' ∉ path.toList) : newName path = path := by
  have hlast : path.toList.getLast? ≠ some '+' := fun hl => hplus (mem_of_getLast? hl)
  rw [newName, if_neg hlast, getAndRemoveIndex_of_not_mem h.2.2]

theorem cString_of_not_mem (h : '\x00' ∉ path.toList) : cString path = path := by
  have htake : path.toList.takeWhile (· ≠ '\x00') = path.toList := by
    rw [takeWhile_eq_self_iff]
    intro c hc
    simpa using fun heq : c = '\x00' => h (heq ▸ hc)
  rw [cString, htake, String.ofList_toList]

theorem nextIndex_eq_zero {name : String} (h : name ∉ node.childNames) :
    node.nextIndex name = 0 := by
  have hfold : ∀ nodes : List PropertyNode, (∀ child ∈ nodes, child.name ≠ name) →
      nodes.foldl (fun i child => if child.name = name then max (child.index + 1) i else i) 0 =
        0 := by
    intro nodes
    induction nodes with
    | nil => exact fun _ => rfl
    | cons child nodes ih =>
      intro hnodes
      rw [foldl_cons, if_neg (hnodes child mem_cons_self)]
      exact ih fun child' hmem => hnodes child' (mem_cons_of_mem _ hmem)
  exact hfold node.children fun child hmem heq => h (heq ▸ mem_map_of_mem hmem)

theorem nul_not_mem_cString (s : String) : '\x00' ∉ (cString s).toList := by
  rw [cString, String.toList_ofList]
  intro hmem
  exact absurd (mem_takeWhile_imp hmem) (by decide)

/-- A child with a new plain name is added behind the others; its name ends at the first
NUL. -/
theorem createProperty_of_plain (h : Plain path) (hplus : '+' ∉ path.toList)
    (hnew : path ∉ node.childNames) :
    node.createProperty path f =
      ({ node with children := node.children ++
          [f { name := cString path, index := node.nextIndex (cString path) }] }, none) := by
  have hposition : node.position path = none := by
    rw [position_of_not_mem h.2.2, findIdx?_eq_none_iff]
    intro child hmem
    have hne : child.name ≠ path := fun heq => hnew (heq ▸ mem_map_of_mem hmem)
    simp [isNamed, hne]
  simp only [createProperty, splitPath_of_not_mem h.2.1, create, h.isSelf_eq_false, hposition,
    newName_of_plain h hplus, bind_none, if_neg h.1, Bool.false_eq_true, if_false]

theorem createProperty_of_plain_of_not_mem (h : Plain path) (hplus : '+' ∉ path.toList)
    (hnul : '\x00' ∉ path.toList) (hnew : path ∉ node.childNames) :
    node.createProperty path f =
      ({ node with children := node.children ++ [f { name := path }] }, none) := by
  rw [createProperty_of_plain h hplus hnew, cString_of_not_mem hnul, nextIndex_eq_zero hnew]

/-! ## What an arbitrary path finds and makes -/

theorem name_of_position (h : node.position part = some i) :
    ∃ child, node.children[i]? = some child ∧
      child.name = (getAndRemoveIndexFromPropertyName part).2 := by
  simp only [position] at h
  split at h
  · rename_i j hj
    obtain rfl := some.inj h
    obtain ⟨hlt, hnamed, -⟩ := findIdx?_eq_some_iff_getElem.mp hj
    exact ⟨_, getElem?_eq_getElem hlt, (of_decide_eq_true hnamed).1⟩
  · split_ifs at h
    have hany := find?_some h
    rcases hchild : node.children[i]? with - | child
    · rw [hchild] at hany
      cases hany
    · rw [hchild] at hany
      exact ⟨child, rfl, of_decide_eq_true hany⟩

theorem name_ne_empty_of_head (h : part.toList.takeWhile (· ≠ '[') ≠ []) :
    (getAndRemoveIndexFromPropertyName part).2 ≠ "" := by
  simp only [getAndRemoveIndexFromPropertyName]
  split
  · rintro rfl
    exact h rfl
  · intro hname
    have hlist := congrArg String.toList hname
    rw [String.toList_ofList] at hlist
    exact h (append_eq_nil_iff.mp hlist).1

theorem name_of_head_eq_nil (h : part.toList.takeWhile (· ≠ '[') = []) :
    (getAndRemoveIndexFromPropertyName part).2 = "" ∨
      ']' ∈ (getAndRemoveIndexFromPropertyName part).2.toList := by
  simp only [getAndRemoveIndexFromPropertyName]
  split
  · rename_i hdrop
    left
    have happend := takeWhile_append_dropWhile (p := (· ≠ '[')) (l := part.toList)
    rw [h, hdrop] at happend
    exact String.toList_inj.mp happend.symm
  · rw [h]
    rcases hstop : part.toList.findIdx? (· = ']') with - | stop
    · left
      rfl
    · right
      obtain ⟨hlt, hbracket, -⟩ := findIdx?_eq_some_iff_getElem.mp hstop
      have hget := of_decide_eq_true hbracket
      simp only [length_nil, Nat.zero_add, nil_append, String.toList_ofList]
      rw [drop_eq_getElem_cons hlt, hget]
      exact mem_cons_self

theorem newName_ne_empty {name : String} (hname : (getAndRemoveIndexFromPropertyName part).2 = name)
    (hempty : name ≠ "") (hbracket : ']' ∉ name.toList) (hplus : '+' ∉ name.toList) :
    newName part ≠ "" := by
  have hhead : part.toList.takeWhile (· ≠ '[') ≠ [] := by
    intro hnil
    rcases name_of_head_eq_nil hnil with h | h
    · exact hempty (hname.symm.trans h)
    · exact hbracket (hname ▸ h)
  rw [newName]
  split_ifs with hlast
  · apply name_ne_empty_of_head
    rw [String.toList_ofList]
    rcases hlist : part.toList with - | ⟨c, _ | ⟨d, cs⟩⟩
    · exact absurd (by rw [hlist]; rfl) hhead
    · -- the plus is the whole part, so it is the name
      rw [hlist] at hlast
      obtain rfl := some.inj hlast
      have hself : getAndRemoveIndexFromPropertyName part = (0, part) :=
        getAndRemoveIndex_of_not_mem (by rw [hlist]; decide)
      rw [hself] at hname
      exact absurd (by rw [← hname, hlist]; exact mem_cons_self) hplus
    · rw [hlist] at hhead
      rw [dropLast_cons_cons]
      intro hnil
      by_cases hc : c = '['
      · exact hhead (takeWhile_cons_of_neg (by simpa using hc))
      · rw [takeWhile_cons_of_pos (by simpa using hc)] at hnil
        exact cons_ne_nil _ _ hnil
  · exact name_ne_empty_of_head hhead

/-- What a path finds in one node it makes in another that has no child of the name,
or it is the node itself: the other node is changed. -/
theorem createProperty_ne {other : PropertyNode} {place : List ℕ}
    (hfound : node.getProperty path = some (place, child))
    (hnames : ∀ name ∈ node.childNames, name ≠ "" ∧ ']' ∉ name.toList ∧ '+' ∉ name.toList)
    (hother : ∀ name ∈ node.childNames, name ∉ other.childNames) (hf : f other ≠ other) :
    (other.createProperty path f).1 ≠ other := by
  rw [getProperty] at hfound
  rw [createProperty]
  cases hparts : splitPath path with
  | nil => exact hf
  | cons part parts =>
    rw [hparts, walk] at hfound
    rw [create]
    by_cases hself : isSelf (part :: parts) = true
    · rw [if_pos hself]
      exact hf
    · rw [if_neg hself] at hfound
      rw [if_neg hself]
      split at hfound
      · cases hfound
      · rename_i i hi
        obtain ⟨first, hfirst, hname⟩ := name_of_position hi
        have hmem : first.name ∈ node.childNames :=
          mem_map_of_mem (mem_of_getElem? hfirst)
        obtain ⟨hempty, hbracket, hplus⟩ := hnames _ hmem
        have hnone : other.position part = none := by
          rcases hj : other.position part with - | j
          · rfl
          · obtain ⟨second, hsecond, hname'⟩ := name_of_position hj
            have hmem' : second.name ∈ other.childNames :=
              mem_map_of_mem (mem_of_getElem? hsecond)
            rw [hname', ← hname] at hmem'
            exact absurd hmem' (hother _ hmem)
        simp only [hnone, bind_none,
          if_neg (newName_ne_empty hname.symm hempty hbracket hplus)]
        intro heq
        have hlength := congrArg (fun n : PropertyNode => n.children.length) heq
        rw [length_append] at hlength
        exact absurd hlength (Nat.succ_ne_self _)

end PropertyNode

end Dss
