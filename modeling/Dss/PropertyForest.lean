import Dss.AliasRegistration

/-!
# The structure of property trees

Nodes are made, moved between parents, taken out and destroyed, in any order. A node points to its
parent, and is in the list of its children. `removeChild` makes its argument forget the parent,
whether or not it was a child of the node, and `addChild` refuses the node itself only, not the
ones above it. Every other step keeps the structure; all of them keep the indices.
-/

namespace Dss

open List Option Function

namespace PropertyForest

open BackReferences Transition PropertyHeap

/-! ## Runs -/

inductive TreeOperation : Type where
  /-- `PropertyNode(name)` -/
  | makeNode (name : String)
  | createProperty (x : ℕ) (path : String)
  | addChild (x child : ℕ)
  | removeChild (x child : ℕ)
  /-- the last one who holds the node lets it go -/
  | destroy (x : ℕ)
  deriving DecidableEq

def TreeOperation.given : TreeOperation → List ℕ
  | .makeNode _ => []
  | .createProperty x _ | .destroy x => [x]
  | .addChild x child | .removeChild x child => [x, child]

/-- The state after an operation on nodes that are alive; a node that is owned is not
destroyed. -/
def perform (h : PropertyHeap) : TreeOperation → Option PropertyHeap
  | .makeNode name => some (h.makeNode (cString name))
  | .createProperty x path => (h.createProperty x path).map Prod.fst
  | .addChild x child => (h.addChild x child).map Prod.fst
  | .removeChild x child => h.removeChild x child
  | .destroy x => if h.isOwned x then some h else h.destroy x

/-- One operation; nothing is done with nodes that are gone, and nothing behind a crash. -/
def step (s : Option PropertyHeap) (op : TreeOperation) : Option PropertyHeap :=
  s.bind fun h => if op.given.all h.isLive then perform h op else some h

/-- `m_Index` -/
def indexOf (h : PropertyHeap) (x : ℕ) : ℕ := ((h.nodes x).map HeapNode.index).getD 0

/-- What the structure promises: a node is in the list of its parent, exactly once, and in no
other; no node is above itself; and no two children of a node share name and index. -/
structure Law (h : PropertyHeap) : Prop where
  children : ∀ c p, (h.childNodes p).count c = if h.parentNode c = some p then 1 else 0
  acyclic : Acyclic h.parentNode
  unique : ∀ p c d, c ∈ h.childNodes p → d ∈ h.childNodes p → h.nameOf c = h.nameOf d →
    indexOf h c = indexOf h d → c = d

/-- The law, where nothing has crashed. -/
def Lawful (s : Option PropertyHeap) : Prop := ∃ h, s = some h ∧ Law h

/-- A node is taken out by its parent only, or it has none, or there is no list of children; and
no node is added below itself. -/
def Fits (s : Option PropertyHeap) : TreeOperation → Prop
  | .removeChild x c => ∀ h, s = some h → h.isLive x = true → h.isLive c = true →
      (h.nodes x).bind HeapNode.children ≠ none → ∀ p, h.parentNode c = some p → p = x
  | .addChild x c => ∀ h, s = some h → h.isLive x = true → h.isLive c = true →
      c ≠ x → ¬ Reaches h.parentNode x c
  | _ => True

variable {h h' : PropertyHeap} {x y c d p : ℕ} {f : HeapNode → HeapNode} {op : TreeOperation}

/-! ## Names and indices -/

theorem map_modify {A : Type} {g : HeapNode → A} (hf : ∀ n, g (f n) = g n) :
    ((h.modify x f).nodes y).map g = (h.nodes y).map g := by
  by_cases hy : y = x
  · rw [hy, nodes_modify_self, Option.map_map]
    exact map_congr fun n _ => hf n
  · rw [nodes_modify_of_ne hy]

theorem nameOf_modify (hf : ∀ n, (f n).name = n.name) : (h.modify x f).nameOf = h.nameOf := by
  funext y
  rw [nameOf, nameOf, map_modify hf]

theorem indexOf_modify (hf : ∀ n, (f n).index = n.index) :
    indexOf (h.modify x f) = indexOf h := by
  funext y
  rw [indexOf, indexOf, map_modify hf]

theorem nameOf_eraseChild (children : List ℕ) :
    (h.eraseChild y c children).nameOf = h.nameOf := by
  exact (nameOf_modify (by intro n; rfl)).trans (nameOf_modify (by intro n; rfl))

theorem indexOf_eraseChild (children : List ℕ) :
    indexOf (h.eraseChild y c children) = indexOf h := by
  exact (indexOf_modify (by intro n; rfl)).trans (indexOf_modify (by intro n; rfl))

theorem nameOf_appendChild : (h.appendChild y c).nameOf = h.nameOf := by
  exact (nameOf_modify (by intro n; rfl)).trans (nameOf_modify (by intro n; rfl))

theorem indexOf_appendChild_self (hc : h.isLive c = true) :
    indexOf (h.appendChild y c) c = h.nextIndex y (h.nameOf c) := by
  obtain ⟨n, hn⟩ := isSome_iff_exists.mp hc
  rw [appendChild, indexOf_modify (by intro n; rfl), indexOf, nodes_modify_self, hn]
  rfl

theorem indexOf_appendChild_of_ne (hd : d ≠ c) : indexOf (h.appendChild y c) d = indexOf h d := by
  rw [appendChild, indexOf_modify (by intro n; rfl), indexOf, nodes_modify_of_ne hd]
  rfl

theorem nameOf_orphan (children : List ℕ) : (h.orphan children).nameOf = h.nameOf := by
  induction children generalizing h with
  | nil => rfl
  | cons c children ih => exact ih.trans (nameOf_modify (by intro n; rfl))

theorem indexOf_orphan (children : List ℕ) : indexOf (h.orphan children) = indexOf h := by
  induction children generalizing h with
  | nil => rfl
  | cons c children ih => exact ih.trans (indexOf_modify (by intro n; rfl))

theorem index_lt_foldl {name : String} {nodes : List HeapNode} {i : ℕ} {n : HeapNode}
    (hn : n ∈ nodes) (hname : n.name = name) :
    n.index < nodes.foldl (fun i n => if n.name = name then max (n.index + 1) i else i) i := by
  have hgrow : ∀ (nodes : List HeapNode) (i : ℕ),
      i ≤ nodes.foldl (fun i n => if n.name = name then max (n.index + 1) i else i) i := by
    intro nodes
    induction nodes with
    | nil => exact fun i => le_refl i
    | cons n nodes ih =>
      intro i
      rw [foldl_cons]
      refine le_trans ?_ (ih _)
      split_ifs
      · exact le_max_right _ _
      · exact le_refl i
  induction nodes generalizing i with
  | nil => cases hn
  | cons m nodes ih =>
    rw [foldl_cons]
    rcases mem_cons.mp hn with rfl | hn
    · rw [if_pos hname]
      exact lt_of_lt_of_le (lt_of_lt_of_le (Nat.lt_succ_self _) (le_max_left _ i)) (hgrow _ _)
    · exact ih hn

theorem indexOf_lt_nextIndex (hd : d ∈ h.childNodes y) (hlive : h.isLive d = true) :
    indexOf h d < h.nextIndex y (h.nameOf d) := by
  obtain ⟨n, hn⟩ := isSome_iff_exists.mp hlive
  have hindex : indexOf h d = n.index := by
    rw [indexOf, hn]
    rfl
  have hname : h.nameOf d = n.name := by
    rw [nameOf, hn]
    rfl
  rw [hindex]
  exact index_lt_foldl (mem_filterMap.mpr ⟨d, hd, hn⟩) hname.symm

/-! ## The invariant -/

/-- What runs keep: pointers to living nodes only, no aliases, and the law. -/
structure Inv (h : PropertyHeap) : Prop where
  pointers : PropertyHeap.Inv h
  unaliased : ∀ x, h.aliasTarget x = none
  law : Law h

theorem Law.mirrors (hlaw : Law h) : Mirrors h.parentNode h.childNodes := hlaw.children

theorem Law.mem_iff (hlaw : Law h) : c ∈ h.childNodes p ↔ h.parentNode c = some p :=
  hlaw.mirrors.mem_iff

theorem Inv.resolve_eq (hinv : Inv h) (hx : h.isLive x = true) : h.resolve x = some x := by
  obtain ⟨k, hk⟩ := Nat.exists_eq_succ_of_ne_zero
    (Nat.ne_zero_of_lt (hinv.pointers.lt_next x hx))
  rw [resolve, hk, last, hinv.unaliased x]
  rw [filter_some, if_pos hx]

theorem Inv.parent_live (hinv : Inv h) (hc : h.parentNode c = some p) : h.isLive p = true := by
  by_contra hnot
  have hmem := hinv.law.mem_iff.2 hc
  rw [childNodes_of_not_live (Bool.eq_false_iff.mpr hnot)] at hmem
  cases hmem

theorem Inv.of_same (hinv : Inv h) (hsame : Same h h') (hpointers : PropertyHeap.Inv h')
    (hlaw : Law h') : Inv h' :=
  ⟨hpointers, fun x => by rw [hsame.target, hinv.unaliased], hlaw⟩

theorem inv_start : Inv start := by
  refine ⟨PropertyHeap.inv_start, aliasTarget_start, ?_⟩
  constructor
  case children =>
    intro c p
    rw [childNodes_start, parentNode_start]
    rfl
  case acyclic =>
    intro x k hk
    obtain ⟨k, rfl⟩ := Nat.exists_eq_succ_of_ne_zero hk.ne'
    rw [follow_succ_of_eq_none (parentNode_start x)]
    exact (some_ne_none x).symm
  case unique =>
    intro p c d hc
    rw [childNodes_start] at hc
    cases hc

/-! ## Taking a node out -/

theorem Inv.eraseChild (hinv : Inv h) (hy : h.isLive y = true) (hc : h.isLive c = true)
    (hfits : ∀ p, h.parentNode c = some p → p = y) :
    Inv (h.eraseChild y c (h.childNodes y)) := by
  obtain ⟨hsame, hpointers⟩ := hinv.pointers.eraseChild hy hc (hinv.unaliased y)
  refine hinv.of_same hsame hpointers ?_
  have hchildren := childNodes_eraseChild (c := c) hy (h.childNodes y)
  have hparent := parentNode_eraseChild (y := y) hc (h.childNodes y)
  have hsub : ∀ p d, d ∈ (h.eraseChild y c (h.childNodes y)).childNodes p →
      d ∈ h.childNodes p := by
    intro p d hd
    rw [hchildren] at hd
    by_cases hpy : p = y
    · rw [hpy, update_self] at hd
      exact hpy ▸ mem_of_mem_erase hd
    · rwa [update_of_ne hpy] at hd
  constructor
  case children =>
    rw [hchildren, hparent]
    rcases hnone : h.parentNode c with - | p
    · -- it is in no list, and forgets nothing
      have hnot : c ∉ h.childNodes y := fun hmem => by
        rw [hinv.law.mem_iff, hnone] at hmem
        cases hmem
      rw [erase_of_not_mem hnot, update_eq_self, ← hnone, update_eq_self]
      exact hinv.law.mirrors
    · exact hinv.law.mirrors.unlink (hfits p hnone ▸ hnone)
  case acyclic =>
    rw [hparent]
    exact hinv.law.acyclic.update_none
  case unique =>
    intro p d e hd he hname hindex
    rw [nameOf_eraseChild] at hname
    rw [indexOf_eraseChild] at hindex
    exact hinv.law.unique p d e (hsub p d hd) (hsub p e he) hname hindex

theorem Inv.not_law_eraseChild (hinv : Inv h) (hy : h.isLive y = true) (hc : h.isLive c = true)
    (hparent : h.parentNode c = some p) (hne : p ≠ y) :
    ¬ Law (h.eraseChild y c (h.childNodes y)) := by
  intro hlaw
  have hmem : c ∈ (h.eraseChild y c (h.childNodes y)).childNodes p := by
    rw [childNodes_eraseChild hy, update_of_ne hne]
    exact hinv.law.mem_iff.2 hparent
  rw [hlaw.mem_iff, parentNode_eraseChild hc, update_self] at hmem
  cases hmem

theorem Inv.removeChild_eq (hinv : Inv h) (hx : h.isLive x = true) :
    h.removeChild x c = some (if (h.nodes x).bind HeapNode.children = none then h
      else h.eraseChild x c (h.childNodes x)) := by
  rw [removeChild, hinv.resolve_eq hx, map_some]
  rcases hchildren : (h.nodes x).bind HeapNode.children with - | children
  · rw [if_pos rfl]
  · rw [childNodes, hchildren]
    rfl

/-! ## Adding a node -/

/-- What `addChild` does first: a node that has a parent is taken out there. -/
def detach (h : PropertyHeap) (c : ℕ) : PropertyHeap :=
  match h.parentNode c with
  | none => h
  | some p => h.eraseChild p c (h.childNodes p)

theorem Inv.addChild_eq (hinv : Inv h) (hx : h.isLive x = true) :
    h.addChild x c = if c = x then some (h, some (.runtimeError "Adding self as child node"))
      else some ((detach h c).appendChild x c, none) := by
  rw [addChild, hinv.resolve_eq hx, bind_some, detach]
  split_ifs
  · rfl
  · rcases hparent : h.parentNode c with - | p
    · rfl
    · have hmem : c ∈ h.childNodes p := hinv.law.mem_iff.2 hparent
      have hlist : (h.nodes p).bind HeapNode.children ≠ none := by
        intro hnone
        rw [childNodes, hnone] at hmem
        cases hmem
      dsimp only
      rw [hinv.removeChild_eq (hinv.parent_live hparent), if_neg hlist, map_some]

theorem Inv.detach (hinv : Inv h) (hc : h.isLive c = true) :
    Inv (detach h c) ∧ Same h (PropertyForest.detach h c) ∧
      (PropertyForest.detach h c).parentNode = Function.update h.parentNode c none := by
  rw [PropertyForest.detach]
  rcases hparent : h.parentNode c with - | p
  · refine ⟨hinv, ⟨rfl, rfl, rfl, rfl, rfl⟩, ?_⟩
    show h.parentNode = update h.parentNode c none
    rw [← hparent, update_eq_self]
  · have hp := hinv.parent_live hparent
    refine ⟨hinv.eraseChild hp hc fun q hq => ?_, ?_, parentNode_eraseChild hc _⟩
    · exact some.inj (hq.symm.trans hparent)
    · exact (hinv.pointers.eraseChild hp hc (hinv.unaliased p)).1

theorem Inv.appendChild (hinv : Inv h) (hy : h.isLive y = true) (hc : h.isLive c = true)
    (hparent : h.parentNode c = none) (hreach : ¬ Reaches h.parentNode y c) :
    Inv (h.appendChild y c) := by
  obtain ⟨hsame, hpointers⟩ := hinv.pointers.appendChild hy hc (hinv.unaliased y)
  refine hinv.of_same hsame hpointers ?_
  have hchildren := childNodes_appendChild (c := c) hy
  have hnew : ∀ p, c ∉ h.childNodes p := by
    intro p hmem
    rw [hinv.law.mem_iff, hparent] at hmem
    cases hmem
  constructor
  case children =>
    rw [hchildren, parentNode_appendChild hc]
    exact hinv.law.mirrors.link_iff.mpr hparent
  case acyclic =>
    rw [parentNode_appendChild hc]
    exact (hinv.law.acyclic.update_iff hparent).mpr hreach
  case unique =>
    -- the new child has a larger index than its namesakes
    have hlast : ∀ p d, d ∈ (h.appendChild y c).childNodes p → d ≠ c → d ∈ h.childNodes p := by
      intro p d hd hne
      rw [hchildren] at hd
      by_cases hpy : p = y
      · rw [hpy, update_self] at hd
        exact hpy ▸ (mem_append.mp hd).resolve_right fun h => hne (mem_singleton.mp h)
      · rwa [update_of_ne hpy] at hd
    have howner : ∀ p, c ∈ (h.appendChild y c).childNodes p → p = y := by
      intro p hd
      rw [hchildren] at hd
      by_contra hpy
      rw [update_of_ne hpy] at hd
      exact hnew p hd
    have hlarger : ∀ p d, c ∈ (h.appendChild y c).childNodes p →
        d ∈ (h.appendChild y c).childNodes p → d ≠ c → h.nameOf d = h.nameOf c →
          indexOf (h.appendChild y c) d ≠ indexOf (h.appendChild y c) c := by
      intro p d hc' hd hne hname
      have hmem := hlast p d hd hne
      rw [howner p hc'] at hmem
      rw [indexOf_appendChild_self hc, indexOf_appendChild_of_ne hne, ← hname]
      exact (indexOf_lt_nextIndex hmem (hinv.pointers.child_live y d hmem)).ne
    intro p d e hd he hname hindex
    rw [nameOf_appendChild] at hname
    by_cases hdc : d = c
    · by_contra hne
      subst hdc
      exact hlarger p e hd he (Ne.symm hne) hname.symm hindex.symm
    · by_cases hec : e = c
      · subst hec
        exact absurd hindex (hlarger p d he hd hdc hname)
      · rw [indexOf_appendChild_of_ne hdc, indexOf_appendChild_of_ne hec] at hindex
        exact hinv.law.unique p d e (hlast p d hd hdc) (hlast p e he hec) hname hindex

theorem Inv.attach (hinv : Inv h) (hx : h.isLive x = true) (hc : h.isLive c = true)
    (hreach : ¬ Reaches h.parentNode x c) : Inv ((PropertyForest.detach h c).appendChild x c) := by
  obtain ⟨hinv', hsame, hparent⟩ := hinv.detach hc
  refine hinv'.appendChild (by rw [hsame.live, hx]) (by rw [hsame.live, hc]) ?_ ?_
  · rw [hparent, update_self]
  · rw [hparent, reaches_update_iff]
    exact hreach

theorem Inv.not_law_attach (hinv : Inv h) (hc : h.isLive c = true)
    (hreach : Reaches h.parentNode x c) :
    ¬ Law ((PropertyForest.detach h c).appendChild x c) := by
  intro hlaw
  obtain ⟨hinv', hsame, hparent⟩ := hinv.detach hc
  have hacyclic := hlaw.acyclic
  rw [parentNode_appendChild (by rw [hsame.live, hc]),
    hinv'.law.acyclic.update_iff (by rw [hparent, update_self]), hparent,
    reaches_update_iff] at hacyclic
  exact hacyclic hreach

/-! ## Making nodes -/

theorem Inv.makeNode (hinv : Inv h) (name : String) :
    Inv (h.makeNode name) ∧ (h.makeNode name).isLive h.next = true ∧
      (∀ z, h.isLive z = true → (h.makeNode name).isLive z = true) ∧
      ∀ z, (h.makeNode name).parentNode z ≠ some h.next := by
  obtain ⟨hpointers, hnew, hlive⟩ := hinv.pointers.makeNode name
  have hfresh := hinv.pointers.fresh
  have hchildren := childNodes_makeNode hfresh name
  have hparent := parentNode_makeNode hfresh name
  have hother : ∀ z, z ≠ h.next → (h.makeNode name).nodes z = h.nodes z :=
    fun z hz => update_of_ne hz _ _
  have hne : ∀ p d, d ∈ h.childNodes p → d ≠ h.next := fun p d hd =>
    (hinv.pointers.lt_next d (hinv.pointers.child_live p d hd)).ne
  refine ⟨⟨hpointers, ?_, ?_⟩, hnew, hlive, ?_⟩
  · intro z
    by_cases hz : z = h.next
    · rw [hz, aliasTarget, PropertyHeap.makeNode]
      dsimp only
      rw [update_self]
      rfl
    · rw [aliasTarget, hother z hz]
      exact hinv.unaliased z
  · constructor
    case children =>
      rw [hchildren, hparent]
      exact hinv.law.children
    case acyclic =>
      rw [hparent]
      exact hinv.law.acyclic
    case unique =>
      intro p d e hd he hname hindex
      rw [hchildren] at hd he
      rw [nameOf, nameOf, hother d (hne p d hd), hother e (hne p e he)] at hname
      rw [indexOf, indexOf, hother d (hne p d hd), hother e (hne p e he)] at hindex
      exact hinv.law.unique p d e hd he hname hindex
  · intro z hz
    rw [hparent] at hz
    have hlive' := hinv.parent_live hz
    rw [hfresh] at hlive'
    cases hlive'

theorem Inv.makeChild (hinv : Inv h) (hy : h.isLive y = true) (name : String) :
    ∃ h', (h.makeNode name).addChild y h.next = some (h', none) ∧ Inv h' ∧
      h'.isLive h.next = true := by
  obtain ⟨hinv', hnew, hlive, hnone⟩ := hinv.makeNode name
  have hne : h.next ≠ y := (hinv.pointers.lt_next y hy).ne'
  refine ⟨_, by rw [hinv'.addChild_eq (hlive y hy), if_neg hne],
    hinv'.attach (hlive y hy) hnew (not_reaches_of_forall_ne hnone hne.symm), ?_⟩
  obtain ⟨hinv'', hsame, -⟩ := hinv'.detach hnew
  have hsame' := (hinv''.pointers.appendChild (y := y) (c := h.next)
    (by rw [hsame.live, hlive y hy]) (by rw [hsame.live, hnew]) (hinv''.unaliased y)).1
  rw [hsame'.live, hsame.live, hnew]

theorem Inv.createParts {P : PropertyHeap → Prop}
    (hP : ∀ h y name h', Inv h → P h → h.isLive y = true →
      (h.makeNode name).addChild y h.next = some (h', none) → P h')
    (hinv : Inv h) (hholds : P h) (parts : List String) (hx : h.isLive x = true) :
    ∃ h' result, h.createParts x parts = some (h', result) ∧ Inv h' ∧ P h' := by
  induction parts generalizing h x with
  | nil =>
    exact ⟨h, .ok x, by rw [PropertyHeap.createParts, hinv.resolve_eq hx]; rfl, hinv, hholds⟩
  | cons part parts ih =>
    rw [PropertyHeap.createParts, hinv.resolve_eq hx, bind_some]
    by_cases hself : PropertyNode.isSelf (part :: parts) = true
    · rw [if_pos hself]
      exact ⟨h, _, rfl, hinv, hholds⟩
    · rw [if_neg hself]
      rcases hfound : h.getPropertyByName x part with - | c
      · by_cases hname : PropertyNode.newName part = ""
        · rw [if_pos hname]
          exact ⟨h, _, rfl, hinv, hholds⟩
        · obtain ⟨h', hadd, hinv', hnew⟩ :=
            hinv.makeChild hx (cString (PropertyNode.newName part))
          have hholds' := hP h x _ h' hinv hholds hx hadd
          rw [hadd]
          split_ifs
          · exact ⟨h', _, rfl, hinv', hholds'⟩
          · exact ih hinv' hholds' hnew
      · dsimp only
        split_ifs
        · exact ⟨h, _, rfl, hinv, hholds⟩
        · exact ih hinv hholds (live_of_getPropertyByName hinv.pointers hfound)

/-! ## The destructor -/

theorem Inv.destroy (hinv : Inv h) (howned : ∀ p, x ∉ h.childNodes p) :
    ∃ h', h.destroy x = some h' ∧ Inv h' ∧
      (∀ z, h'.parentNode z = if h.parentNode z = some x then none else h.parentNode z) ∧
      ∀ z, z ≠ x → h'.nameOf z = h.nameOf z ∧ indexOf h' z = indexOf h z := by
  obtain ⟨h', hdestroy, hpointers⟩ := hinv.pointers.destroy howned
  have hparent : h.parentNode x = none := by
    rcases hp : h.parentNode x with - | p
    · rfl
    · exact absurd (hinv.law.mem_iff.2 hp) (howned p)
  have hnil : h.aliasedBy x = [] := by
    refine eq_nil_iff_forall_not_mem.mpr fun a ha => ?_
    rw [hinv.pointers.mirrors.mem_iff, hinv.unaliased] at ha
    cases ha
  obtain ⟨hsame, hnodes, hparents⟩ := orphan_spec (h := h) (hinv.pointers.child_live x)
  have heq : h' = { h.orphan (h.childNodes x) with
      nodes := update (h.orphan (h.childNodes x)).nodes x none } := by
    rw [PropertyHeap.destroy, hparent, hnil] at hdestroy
    rw [length_nil, unaliasLoop] at hdestroy
    dsimp only at hdestroy
    rw [leaveTarget, hinv.unaliased] at hdestroy
    exact (some.inj hdestroy).symm
  have hself : h'.nodes x = none := by
    rw [heq]
    exact update_self _ _ _
  have hother : ∀ z, z ≠ x → h'.nodes z = (h.orphan (h.childNodes x)).nodes z := by
    intro z hz
    rw [heq]
    exact update_of_ne hz _ _
  have hchildren' : h'.childNodes = update h.childNodes x [] := by
    funext z
    by_cases hz : z = x
    · rw [hz, update_self, childNodes, hself]
      rfl
    · rw [update_of_ne hz, ← hnodes, childNodes, childNodes, hother z hz]
  have hparent' : ∀ z, h'.parentNode z = if z ∈ h.childNodes x then none else h.parentNode z := by
    intro z
    by_cases hz : z = x
    · rw [hz, if_neg (howned x), hparent, parentNode, hself]
      rfl
    · rw [← hparents, parentNode, parentNode, hother z hz]
  have hname' : ∀ z, z ≠ x → h'.nameOf z = h.nameOf z := by
    intro z hz
    rw [nameOf, hother z hz, ← nameOf_orphan (h := h) (h.childNodes x)]
    rfl
  have hindex' : ∀ z, z ≠ x → indexOf h' z = indexOf h z := by
    intro z hz
    rw [indexOf, hother z hz, ← indexOf_orphan (h := h) (h.childNodes x)]
    rfl
  refine ⟨h', hdestroy, ⟨hpointers, ?_, ?_⟩, ?_, fun z hz => ⟨hname' z hz, hindex' z hz⟩⟩
  · intro z
    by_cases hz : z = x
    · rw [hz, aliasTarget, hself]
      rfl
    · rw [aliasTarget, hother z hz, ← hinv.unaliased z, ← hsame.target]
      rfl
  · have hsub : ∀ p d, d ∈ h'.childNodes p → d ∈ h.childNodes p ∧ d ≠ x := by
      intro p d hd
      rw [hchildren'] at hd
      by_cases hp : p = x
      · rw [hp, update_self] at hd
        cases hd
      · rw [update_of_ne hp] at hd
        exact ⟨hd, fun hdx => howned p (hdx ▸ hd)⟩
    constructor
    case children =>
      rw [hchildren']
      exact hinv.law.mirrors.clear hparent'
    case acyclic =>
      refine hinv.law.acyclic.of_le fun a b hab => ?_
      rw [hparent'] at hab
      split_ifs at hab
      exact hab
    case unique =>
      intro p d e hd he hname hindex
      obtain ⟨hd, hdx⟩ := hsub p d hd
      obtain ⟨he, hex⟩ := hsub p e he
      rw [hname' d hdx, hname' e hex] at hname
      rw [hindex' d hdx, hindex' e hex] at hindex
      exact hinv.law.unique p d e hd he hname hindex
  · intro z
    rw [hparent' z]
    simp only [hinv.law.mem_iff]

/-! ## Every run -/

/-- Where nothing has crashed, the invariant. -/
def Sound (s : Option PropertyHeap) : Prop := ∃ h, s = some h ∧ Inv h

/-- **What an operation keeps.** Every operation that fits returns, and keeps the structure. -/
theorem Inv.perform (hinv : Inv h) (hgiven : ∀ x ∈ op.given, h.isLive x = true)
    (hfits : Fits (some h) op) : ∃ h', perform h op = some h' ∧ Inv h' := by
  cases op with
  | makeNode name => exact ⟨_, rfl, (hinv.makeNode _).1⟩
  | createProperty x path =>
    obtain ⟨h', result, hcreate, hinv', -⟩ := hinv.createParts (P := fun _ => True)
      (fun _ _ _ _ _ _ _ _ => trivial) trivial (PropertyNode.splitPath path)
      (hgiven x (mem_singleton_self x))
    exact ⟨h', by rw [PropertyForest.perform, createProperty, hcreate]; rfl, hinv'⟩
  | addChild x c =>
    have hx := hgiven x mem_cons_self
    have hc := hgiven c (mem_cons_of_mem x (mem_singleton_self c))
    rw [PropertyForest.perform, hinv.addChild_eq hx]
    split_ifs with hself
    · exact ⟨h, rfl, hinv⟩
    · exact ⟨_, rfl, hinv.attach hx hc (hfits h rfl hx hc hself)⟩
  | removeChild x c =>
    have hx := hgiven x mem_cons_self
    have hc := hgiven c (mem_cons_of_mem x (mem_singleton_self c))
    rw [PropertyForest.perform, hinv.removeChild_eq hx]
    split_ifs with hlist
    · exact ⟨h, rfl, hinv⟩
    · exact ⟨_, rfl, hinv.eraseChild hx hc (hfits h rfl hx hc hlist)⟩
  | destroy x =>
    rw [PropertyForest.perform]
    rcases howned : h.isOwned x with - | -
    · obtain ⟨h', hdestroy, hinv', -⟩ := hinv.destroy (not_owned hinv.pointers howned)
      exact ⟨h', hdestroy, hinv'⟩
    · exact ⟨h, if_pos rfl, hinv⟩

theorem Sound.step {s : Option PropertyHeap} (hs : Sound s) (hfits : Fits s op) :
    Sound (step s op) := by
  obtain ⟨h, rfl, hinv⟩ := hs
  rw [PropertyForest.step, bind_some]
  split_ifs with hgiven
  · exact hinv.perform (all_eq_true.mp hgiven) hfits
  · exact ⟨h, rfl, hinv⟩

theorem Sound.not_lawful_step {s : Option PropertyHeap} (hs : Sound s) (hfits : ¬ Fits s op) :
    ¬ Lawful (PropertyForest.step s op) := by
  obtain ⟨h, rfl, hinv⟩ := hs
  rintro ⟨h', hstep, hlaw⟩
  apply hfits
  cases op with
  | removeChild x c =>
    intro h₁ heq hx hc hlist p hparent
    obtain rfl := some.inj heq
    have hgiven : (TreeOperation.removeChild x c).given.all h.isLive = true := by
      simp [TreeOperation.given, hx, hc]
    rw [PropertyForest.step, bind_some, if_pos hgiven, PropertyForest.perform,
      hinv.removeChild_eq hx, if_neg hlist] at hstep
    obtain rfl := some.inj hstep
    by_contra hne
    exact hinv.not_law_eraseChild hx hc hparent hne hlaw
  | addChild x c =>
    intro h₁ heq hx hc hself hreach
    obtain rfl := some.inj heq
    have hgiven : (TreeOperation.addChild x c).given.all h.isLive = true := by
      simp [TreeOperation.given, hx, hc]
    rw [PropertyForest.step, bind_some, if_pos hgiven, PropertyForest.perform,
      hinv.addChild_eq hx, if_neg hself] at hstep
    obtain rfl := some.inj hstep
    exact hinv.not_law_attach hc hreach hlaw
  | _ => trivial

/-- **When the structure is kept.** In every run from a new tree, the structure is lawful in
every state, and nothing crashes, if and only if every node that is taken out is taken out by its
parent, and none is added below itself. -/
theorem structure_iff (ops : List TreeOperation) :
    Always step Lawful (some start) ops ↔ Meets step Fits (some start) ops := by
  have hstart : Sound (some start) := ⟨_, rfl, inv_start⟩
  refine always_iff_meets ?_ ?_ ?_ hstart
  · rintro s ⟨h, rfl, hinv⟩
    exact ⟨h, rfl, hinv.law⟩
  · exact fun s op hs hfits => hs.step hfits
  · exact fun s op hs hfits => hs.not_lawful_step hfits

/-- A node that another one takes out forgets its parent, and stays in its list. -/
theorem structure_fails : ¬ ∀ ops : List TreeOperation, Always step Lawful (some start) ops := by
  intro h
  obtain ⟨-, -, -, h', heq, hlaw⟩ := h [.createProperty 0 "a/b", .createProperty 0 "c/d",
    .removeChild 3 2]
  have hstate : (step (step (step (some start) (.createProperty 0 "a/b"))
      (.createProperty 0 "c/d")) (.removeChild 3 2)).map
        (fun h => ((h.childNodes 1).count 2, h.parentNode 2)) = some (1, none) := by decide
  rw [heq] at hstate
  obtain ⟨hcount, hparent⟩ : (h'.childNodes 1).count 2 = 1 ∧ h'.parentNode 2 = none := by
    simpa using hstate
  have hlawful := hlaw.children 2 1
  rw [hcount, hparent] at hlawful
  cases hlawful

end PropertyForest

end Dss
