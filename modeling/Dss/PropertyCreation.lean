import Dss.SubscriptionParser

/-!
# Creating a path

`createProperty` makes the parts of a path that are not there. A part may ask for an index, by
which it is looked up; what is made gets the next free one. So it is found again only if the two
are the same, or the part asked for the last child. A part without a name throws; what was made for
the parts before it stays.
-/

namespace Dss

open List Option

namespace PropertyNode

variable {node child fresh tree : PropertyNode} {part : String} {parts : List String}
  {place : List ℕ} {i : ℕ} {f : PropertyNode → PropertyNode}

/-- `createProperty`, with the parts of the path: the tree afterwards, and the place of the node
that is returned, or what was thrown. The nodes made before stay. -/
def createAt (node : PropertyNode) : List String → PropertyNode × Except Failure (List ℕ)
  | [] => (node, .ok [])
  | part :: parts =>
    if isSelf (part :: parts) then (node, .ok [])
    else
      match (node.position part).bind fun i => node.children[i]?.map fun child => (i, child) with
      | some (i, child) =>
        let below := child.createAt parts
        ({ node with children := node.children.set i below.1 }, below.2.map (i :: ·))
      | none =>
        if newName part = "" then (node, .error emptyName)
        else
          let name := cString (newName part)
          let below := createAt { name := name, index := node.nextIndex name } parts
          ({ node with children := node.children ++ [below.1] },
            below.2.map (node.children.length :: ·))

/-- `createProperty` -/
def createPropertyAt (node : PropertyNode) (path : String) :
    PropertyNode × Except Failure (List ℕ) :=
  node.createAt (splitPath path)

/-- What was promised of a path: the node that is returned is found by the path, and returned
again, with nothing more made; and if something is thrown, the tree is as it was. -/
def Law (node : PropertyNode) (path : String) : Prop :=
  (∀ tree place, node.createPropertyAt path = (tree, .ok place) →
    (∃ found, tree.getProperty path = some (place, found)) ∧
      tree.createPropertyAt path = (tree, .ok place)) ∧
  ∀ tree failure, node.createPropertyAt path = (tree, .error failure) → tree = node

/-! ## When the law holds -/

def Named (part : String) : Prop :=
  newName part ≠ "" ∧ cString (newName part) = (getAndRemoveIndexFromPropertyName part).2

def AsksNext (part : String) (next : ℕ) : Prop :=
  (getAndRemoveIndexFromPropertyName part).1 = next ∨
    (getAndRemoveIndexFromPropertyName part).1 = -1

instance : Decidable (Named part) := inferInstanceAs (Decidable (_ ∧ _))

instance {next : ℕ} : Decidable (AsksNext part next) := inferInstanceAs (Decidable (_ ∨ _))

/-- The parts below a node that is made: each has a name, and asks for the index 0 or the last
child. -/
def Makes : List String → Prop
  | [] => True
  | part :: parts => isSelf (part :: parts) = true ∨ (Named part ∧ AsksNext part 0) ∧ Makes parts

/-- The parts from the first one that is not found: it has no name, or they all have one, it asks
for the next index of its name or the last child, and the others for the index 0 or the last
child. -/
def Fits (node : PropertyNode) : List String → Prop
  | [] => True
  | part :: parts =>
    isSelf (part :: parts) = true ∨
      match (node.position part).bind fun i => node.children[i]? with
      | some child => child.Fits parts
      | none => newName part = "" ∨
        (Named part ∧ AsksNext part (node.nextIndex (cString (newName part)))) ∧ Makes parts

/-! ## What a step does -/

def newChild (node : PropertyNode) (part : String) : PropertyNode :=
  { name := cString (newName part), index := node.nextIndex (cString (newName part)) }

theorem createAt_of_isSelf (hself : isSelf (part :: parts) = true) :
    node.createAt (part :: parts) = (node, .ok []) := by
  rw [createAt, if_pos hself]

theorem createAt_of_found (hself : ¬ isSelf (part :: parts) = true)
    (hposition : node.position part = some i) (hchild : node.children[i]? = some child) :
    node.createAt (part :: parts) =
      ({ node with children := node.children.set i (child.createAt parts).1 },
        (child.createAt parts).2.map (i :: ·)) := by
  rw [createAt, if_neg hself, hposition, bind_some, hchild, map_some]

theorem createAt_of_unnamed (hself : ¬ isSelf (part :: parts) = true)
    (hposition : node.position part = none) (hname : newName part = "") :
    node.createAt (part :: parts) = (node, .error emptyName) := by
  rw [createAt, if_neg hself, hposition]
  exact if_pos hname

theorem createAt_of_missing (hself : ¬ isSelf (part :: parts) = true)
    (hposition : node.position part = none) (hname : newName part ≠ "") :
    node.createAt (part :: parts) =
      ({ node with children := node.children ++ [((node.newChild part).createAt parts).1] },
        ((node.newChild part).createAt parts).2.map (node.children.length :: ·)) := by
  rw [createAt, if_neg hself, hposition]
  exact if_neg hname

theorem getElem?_of_position (hposition : node.position part = some i) :
    ∃ child, node.children[i]? = some child := by
  obtain ⟨child, hchild, -⟩ := name_of_position hposition
  exact ⟨child, hchild⟩

def key (node : PropertyNode) : String × ℕ := (node.name, node.index)

theorem key_createAt : (node.createAt parts).1.key = node.key := by
  cases parts with
  | nil => rfl
  | cons part parts =>
    by_cases hself : isSelf (part :: parts) = true
    · rw [createAt_of_isSelf hself]
    · rcases hposition : node.position part with - | i
      · by_cases hname : newName part = ""
        · rw [createAt_of_unnamed hself hposition hname]
        · rw [createAt_of_missing hself hposition hname]
          rfl
      · obtain ⟨child, hchild⟩ := getElem?_of_position hposition
        rw [createAt_of_found hself hposition hchild]
        rfl

/-! ## What a lookup depends on -/

/-- A lookup goes by names and indices. -/
theorem position_congr {other : PropertyNode}
    (h : other.children.map key = node.children.map key) :
    other.position part = node.position part := by
  have hfirst : ∀ children : List PropertyNode, (children.findIdx? fun child =>
      child.name = (getAndRemoveIndexFromPropertyName part).2 ∧
        (child.index : ℤ) = (getAndRemoveIndexFromPropertyName part).1) =
      (children.map key).findIdx? fun k =>
        k.1 = (getAndRemoveIndexFromPropertyName part).2 ∧
          (k.2 : ℤ) = (getAndRemoveIndexFromPropertyName part).1 := by
    intro children
    rw [findIdx?_map]
    rfl
  have hany : ∀ (children : List PropertyNode) (i : ℕ), (children[i]?.any fun child =>
      child.name = (getAndRemoveIndexFromPropertyName part).2) =
        (children.map key)[i]?.any fun k =>
          k.1 = (getAndRemoveIndexFromPropertyName part).2 := by
    intro children i
    rw [getElem?_map, Option.any_map]
    rfl
  have hlength : other.children.length = node.children.length := by
    rw [← length_map (f := key), h, length_map]
  simp only [position, hfirst, hany, h, hlength]

theorem position_set {other : PropertyNode} (hchild : node.children[i]? = some child)
    (hkey : other.key = child.key) :
    ({ node with children := node.children.set i other } : PropertyNode).position part =
      node.position part := by
  obtain ⟨hlt, hget⟩ := List.getElem?_eq_some_iff.mp hchild
  refine position_congr ?_
  rw [map_set, hkey, ← hget, ← getElem_map (f := key) (h := by simpa using hlt),
    set_getElem_self]

theorem of_position_eq_none (hposition : node.position part = none) :
    (node.children.findIdx? fun child =>
      child.name = (getAndRemoveIndexFromPropertyName part).2 ∧
        (child.index : ℤ) = (getAndRemoveIndexFromPropertyName part).1) = none ∧
    ((getAndRemoveIndexFromPropertyName part).1 = -1 →
      ∀ child ∈ node.children, child.name ≠ (getAndRemoveIndexFromPropertyName part).2) := by
  simp only [position] at hposition
  split at hposition
  · cases hposition
  · rename_i hfirst
    refine ⟨hfirst, fun hindex child hmem hname => ?_⟩
    rw [if_pos hindex, find?_eq_none] at hposition
    obtain ⟨i, hi, hget⟩ := getElem_of_mem hmem
    apply hposition i (mem_reverse.mpr (mem_range.mpr hi))
    rw [getElem?_eq_getElem hi, hget, any_some, decide_eq_true hname]

/-- **A lookup after a child was made.** What was not found before finds the new child, if it has
the name and the index, or the last child is asked for. -/
theorem position_append (hposition : node.position part = none) :
    ({ node with children := node.children ++ [child] } : PropertyNode).position part =
      if child.name = (getAndRemoveIndexFromPropertyName part).2 ∧
        ((getAndRemoveIndexFromPropertyName part).1 = child.index ∨
          (getAndRemoveIndexFromPropertyName part).1 = -1) then some node.children.length
      else none := by
  obtain ⟨hfirst, hlast⟩ := of_position_eq_none hposition
  simp only [position]
  generalize (getAndRemoveIndexFromPropertyName part).1 = index at *
  generalize (getAndRemoveIndexFromPropertyName part).2 = name at *
  rw [findIdx?_append, hfirst, none_or, findIdx?_singleton]
  by_cases hname : child.name = name
  · by_cases hindex : (child.index : ℤ) = index
    · rw [if_pos (decide_eq_true ⟨hname, hindex⟩), map_some, Nat.zero_add]
      exact (if_pos ⟨hname, Or.inl hindex.symm⟩).symm
    · rw [if_neg (by simp [hindex])]
      by_cases hneg : index = -1
      · -- the last child of the name is the new one
        rw [if_pos hneg, length_append, length_singleton, range_succ,
          reverse_append, reverse_singleton, singleton_append,
          find?_cons_of_pos (by simp [hname])]
        exact (if_pos ⟨hname, Or.inr hneg⟩).symm
      · rw [if_neg hneg]
        refine (if_neg ?_).symm
        rintro ⟨-, heq | heq⟩
        · exact hindex heq.symm
        · exact hneg heq
  · rw [if_neg (by simp [hname]), map_none]
    refine Eq.trans ?_ (if_neg fun hfits => hname hfits.1).symm
    split_ifs with hneg
    · rw [find?_eq_none]
      intro i hi hany
      rcases hget : (node.children ++ [child])[i]? with - | other
      · rw [hget] at hany
        cases hany
      · rw [hget] at hany
        rcases mem_append.mp (mem_of_getElem? hget) with hmem | hmem
        · exact hlast hneg other hmem (of_decide_eq_true hany)
        · rw [mem_singleton.mp hmem] at hany
          exact hname (of_decide_eq_true hany)
    · rfl

/-! ## What is made is found -/

/-- The path leads to the place, and making it makes nothing. -/
def Settled (tree : PropertyNode) (parts : List String) (place : List ℕ) : Prop :=
  (∃ found, tree.walk parts = some (place, found)) ∧ tree.createAt parts = (tree, .ok place)

/-- What is returned is found, and returned again. -/
def Got (node : PropertyNode) (parts : List String) : Prop :=
  ∃ tree place, node.createAt parts = (tree, .ok place) ∧ Settled tree parts place

/-- The path throws, and nothing is made. -/
def Kept (node : PropertyNode) (parts : List String) : Prop :=
  ∃ failure, node.createAt parts = (node, .error failure)

theorem settled_of_isSelf (hself : isSelf (part :: parts) = true) :
    Settled node (part :: parts) [] := by
  refine ⟨⟨node, ?_⟩, createAt_of_isSelf hself⟩
  rw [walk, if_pos hself]

theorem set_eq_self_iff {other : PropertyNode} (hchild : tree.children[i]? = some child) :
    ({ tree with children := tree.children.set i other } : PropertyNode) = tree ↔
      other = child := by
  obtain ⟨hlt, hget⟩ := List.getElem?_eq_some_iff.mp hchild
  constructor
  · intro heq
    have hchildren := congrArg PropertyNode.children heq
    have hother : (tree.children.set i other)[i]? = tree.children[i]? := by
      dsimp only at hchildren
      rw [hchildren]
    rw [getElem?_set_self hlt, hchild] at hother
    exact some.inj hother
  · rintro rfl
    rw [← hget, set_getElem_self]
    cases tree
    rfl

theorem settled_cons_iff (hself : ¬ isSelf (part :: parts) = true)
    (hposition : tree.position part = some i) (hchild : tree.children[i]? = some child) :
    Settled tree (part :: parts) (i :: place) ↔ Settled child parts place := by
  have hwalk : tree.walk (part :: parts) =
      (child.walk parts).map fun found => (i :: found.1, found.2) := by
    rw [walk, if_neg hself, hposition]
    dsimp only
    rw [hchild]
  have hcreate : tree.createAt (part :: parts) = (tree, .ok (i :: place)) ↔
      child.createAt parts = (child, .ok place) := by
    rw [createAt_of_found hself hposition hchild, Prod.ext_iff, Prod.ext_iff,
      set_eq_self_iff hchild]
    refine and_congr_right fun _ => ?_
    rcases (child.createAt parts).2 with failure | place'
    · exact iff_of_false (fun h => by cases h) (fun h => by cases h)
    · simp [Except.map]
  rw [Settled, Settled, hcreate, hwalk]
  rcases child.walk parts with - | ⟨place', found⟩
  · simp
  · simp

/-- **What a path leaves to a child**, if the child is found in the tree afterwards. -/
theorem got_cons_iff {start : PropertyNode} (hself : ¬ isSelf (part :: parts) = true)
    (hcreate : node.createAt (part :: parts) =
      (tree, (start.createAt parts).2.map (i :: ·)))
    (hposition : tree.position part = some i)
    (hchild : tree.children[i]? = some (start.createAt parts).1) :
    Got node (part :: parts) ↔ Got start parts := by
  rcases hbelow : (start.createAt parts).2 with failure | place
  · rw [hbelow] at hcreate
    refine iff_of_false ?_ ?_
    · rintro ⟨tree', place, heq, -⟩
      cases congrArg Prod.snd (hcreate.symm.trans heq)
    · rintro ⟨tree', place, heq, -⟩
      rw [heq] at hbelow
      cases hbelow
  · rw [hbelow] at hcreate
    have hcreate' : node.createAt (part :: parts) = (tree, .ok (i :: place)) := hcreate
    have hstart : start.createAt parts = ((start.createAt parts).1, .ok place) :=
      Prod.ext rfl hbelow
    have hiff : Settled tree (part :: parts) (i :: place) ↔
        Settled (start.createAt parts).1 parts place := settled_cons_iff hself hposition hchild
    constructor
    · rintro ⟨tree', place', heq, hsettled⟩
      obtain ⟨rfl, hplace⟩ := Prod.mk.inj (hcreate'.symm.trans heq)
      obtain rfl := Except.ok.inj hplace
      exact ⟨_, place, hstart, hiff.mp hsettled⟩
    · rintro ⟨tree', place', heq, hsettled⟩
      obtain ⟨rfl, hplace⟩ := Prod.mk.inj (hstart.symm.trans heq)
      obtain rfl := Except.ok.inj hplace
      exact ⟨tree, _, hcreate', hiff.mpr hsettled⟩

theorem got_found_iff (hself : ¬ isSelf (part :: parts) = true)
    (hposition : node.position part = some i) (hchild : node.children[i]? = some child) :
    Got node (part :: parts) ↔ Got child parts := by
  obtain ⟨hlt, -⟩ := List.getElem?_eq_some_iff.mp hchild
  exact got_cons_iff hself (createAt_of_found hself hposition hchild)
    ((position_set hchild key_createAt).trans hposition) (getElem?_set_self hlt)

theorem kept_found_iff (hself : ¬ isSelf (part :: parts) = true)
    (hposition : node.position part = some i) (hchild : node.children[i]? = some child) :
    Kept node (part :: parts) ↔ Kept child parts := by
  rw [Kept, createAt_of_found hself hposition hchild]
  refine exists_congr fun failure => ?_
  rw [Prod.ext_iff, Prod.ext_iff, set_eq_self_iff hchild]
  refine and_congr_right fun _ => ?_
  rcases (child.createAt parts).2 with failure' | place
  · simp [Except.map]
  · exact iff_of_false (fun h => by cases h) (fun h => by cases h)

theorem got_missing_iff (hself : ¬ isSelf (part :: parts) = true)
    (hposition : node.position part = none) (hname : newName part ≠ "") :
    Got node (part :: parts) ↔
      (Named part ∧ AsksNext part (node.nextIndex (cString (newName part)))) ∧
        Got (node.newChild part) parts := by
  have hkey : ((node.newChild part).createAt parts).1.key =
      (cString (newName part), node.nextIndex (cString (newName part))) := key_createAt
  obtain ⟨hchild, hindex⟩ := Prod.mk.inj hkey
  have hcreate := createAt_of_missing hself hposition hname
  have hafter := @position_append node ((node.newChild part).createAt parts).1 part hposition
  rw [hchild, hindex] at hafter
  by_cases hfits : Named part ∧ AsksNext part (node.nextIndex (cString (newName part)))
  · rw [if_pos ⟨hfits.1.2, hfits.2⟩] at hafter
    rw [and_iff_right hfits]
    refine got_cons_iff hself hcreate hafter ?_
    rw [getElem?_append_right (le_refl _), Nat.sub_self]
    rfl
  · rw [if_neg fun h => hfits ⟨⟨hname, h.1⟩, h.2⟩] at hafter
    refine iff_of_false ?_ fun h => hfits h.1
    rintro ⟨tree, place, heq, ⟨found, hwalk⟩, -⟩
    obtain rfl := congrArg Prod.fst (hcreate.symm.trans heq)
    rw [walk, if_neg hself, hafter] at hwalk
    cases hwalk

theorem not_got_of_unnamed (hself : ¬ isSelf (part :: parts) = true)
    (hposition : node.position part = none) (hname : newName part = "") :
    ¬ Got node (part :: parts) := by
  rintro ⟨tree, place, heq, -⟩
  rw [createAt_of_unnamed hself hposition hname] at heq
  cases congrArg Prod.snd heq

theorem not_kept_of_missing (hself : ¬ isSelf (part :: parts) = true)
    (hposition : node.position part = none) (hname : newName part ≠ "") :
    ¬ Kept node (part :: parts) := by
  rintro ⟨failure, heq⟩
  rw [createAt_of_missing hself hposition hname] at heq
  have hlength := congrArg (fun tree : PropertyNode => tree.children.length)
    (congrArg Prod.fst heq)
  rw [length_append] at hlength
  exact Nat.succ_ne_self _ hlength

/-! ## Every path -/

theorem got_fresh_iff (hfresh : fresh.children = []) : Got fresh parts ↔ Makes parts := by
  induction parts generalizing fresh with
  | nil => exact iff_of_true ⟨fresh, [], rfl, ⟨fresh, rfl⟩, rfl⟩ trivial
  | cons part parts ih =>
    rw [Makes]
    by_cases hself : isSelf (part :: parts) = true
    · exact iff_of_true ⟨fresh, [], createAt_of_isSelf hself, settled_of_isSelf hself⟩
        (Or.inl hself)
    · have hposition : fresh.position part = none := by
        rcases hposition : fresh.position part with - | i
        · rfl
        · obtain ⟨child, hchild⟩ := getElem?_of_position hposition
          rw [hfresh] at hchild
          cases hchild
      have hnext : fresh.nextIndex (cString (newName part)) = 0 := by
        rw [nextIndex, hfresh]
        rfl
      rw [or_iff_right hself]
      by_cases hname : newName part = ""
      · exact iff_of_false (not_got_of_unnamed hself hposition hname) fun h => h.1.1.1 hname
      · rw [got_missing_iff hself hposition hname, hnext, ih rfl]

theorem got_or_kept_iff : (Got node parts ∨ Kept node parts) ↔ Fits node parts := by
  induction parts generalizing node with
  | nil => exact iff_of_true (Or.inl ⟨node, [], rfl, ⟨node, rfl⟩, rfl⟩) trivial
  | cons part parts ih =>
    rw [Fits]
    by_cases hself : isSelf (part :: parts) = true
    · exact iff_of_true
        (Or.inl ⟨node, [], createAt_of_isSelf hself, settled_of_isSelf hself⟩) (Or.inl hself)
    · rw [or_iff_right hself]
      rcases hposition : node.position part with - | i
      · dsimp only [bind_none]
        by_cases hname : newName part = ""
        · exact iff_of_true (Or.inr ⟨emptyName, createAt_of_unnamed hself hposition hname⟩)
            (Or.inl hname)
        · rw [or_iff_left (not_kept_of_missing hself hposition hname), or_iff_right hname,
            got_missing_iff hself hposition hname, got_fresh_iff rfl]
      · obtain ⟨child, hchild⟩ := getElem?_of_position hposition
        rw [bind_some, hchild, got_found_iff hself hposition hchild,
          kept_found_iff hself hposition hchild]
        exact ih

/-- **When `createProperty` is get-or-create, and atomic.** In every tree, for every path. -/
theorem createProperty_law_iff (node : PropertyNode) (path : String) :
    Law node path ↔ Fits node (splitPath path) := by
  rw [← got_or_kept_iff]
  rcases hcreate : node.createAt (splitPath path) with ⟨tree, failure | place⟩
  · have hgot : ¬ Got node (splitPath path) := by
      rintro ⟨tree', place, heq, -⟩
      cases congrArg Prod.snd (hcreate.symm.trans heq)
    rw [or_iff_right hgot]
    constructor
    · intro hlaw
      obtain rfl := hlaw.2 tree failure hcreate
      exact ⟨failure, hcreate⟩
    · rintro ⟨failure', heq⟩
      refine ⟨fun tree' place hok => ?_, fun tree' failure'' herror => ?_⟩
      · cases congrArg Prod.snd (heq.symm.trans hok)
      · exact (congrArg Prod.fst (heq.symm.trans herror)).symm
  · have hkept : ¬ Kept node (splitPath path) := by
      rintro ⟨failure, heq⟩
      cases congrArg Prod.snd (hcreate.symm.trans heq)
    rw [or_iff_left hkept]
    constructor
    · exact fun hlaw => ⟨tree, place, hcreate, hlaw.1 tree place hcreate⟩
    · rintro ⟨tree', place', heq, hsettled⟩
      refine ⟨fun tree'' place'' hok => ?_, fun tree'' failure herror => ?_⟩
      · obtain ⟨rfl, hplace⟩ := Prod.mk.inj (heq.symm.trans hok)
        obtain rfl := Except.ok.inj hplace
        exact hsettled
      · cases congrArg Prod.snd (heq.symm.trans herror)

/-- A node that is asked for with the index 5 gets the index 0. -/
theorem createProperty_law_fails :
    ¬ ∀ (node : PropertyNode) (path : String), '+' ∉ path.toList → Law node path := by
  intro h
  have hlaw := h { name := "/" } "a[5]" (by decide)
  obtain ⟨⟨found, hfound⟩, -⟩ := hlaw.1
    { name := "/", children := [{ name := "a" }] } [0] rfl
  have hnone : (getProperty { name := "/", children := [{ name := "a" }] } "a[5]").isSome =
      false := by decide
  rw [hfound] at hnone
  cases hnone

end PropertyNode

end Dss
