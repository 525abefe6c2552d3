import Dss.PropertyAliases

/-!
# The registration of aliases

In every run, the lists of aliases agree with the alias targets, point to nodes that are alive,
and no chain of aliases is a cycle, as long as no node is made an alias that is one already, or
of a node that leads back to it. The destructor takes back the aliases of the node.
-/

namespace Dss

open List Option Function

namespace PropertyHeap

open BackReferences

variable {h h' : PropertyHeap} {x y c t p : ℕ} {f : HeapNode → HeapNode} {op : Operation}

/-! ## What a change of one node changes -/

theorem nodes_modify_self : (h.modify x f).nodes x = (h.nodes x).map f :=
  update_self _ _ _

theorem nodes_modify_of_ne (hne : y ≠ x) : (h.modify x f).nodes y = h.nodes y :=
  update_of_ne hne _ _

theorem isLive_modify : (h.modify x f).isLive = h.isLive := by
  funext y
  rw [isLive, isLive]
  by_cases hy : y = x
  · rw [hy, nodes_modify_self, isSome_map]
  · rw [nodes_modify_of_ne hy]

theorem aliasTarget_of_not_live (hx : h.isLive x = false) : h.aliasTarget x = none := by
  rw [aliasTarget, not_isSome_iff_eq_none.mp (ne_true_of_eq_false hx), bind_none]

theorem aliasedBy_of_not_live (hx : h.isLive x = false) : h.aliasedBy x = [] := by
  rw [aliasedBy, not_isSome_iff_eq_none.mp (ne_true_of_eq_false hx)]
  rfl

theorem childNodes_of_not_live (hx : h.isLive x = false) : h.childNodes x = [] := by
  rw [childNodes, not_isSome_iff_eq_none.mp (ne_true_of_eq_false hx)]
  rfl

theorem parentNode_of_not_live (hx : h.isLive x = false) : h.parentNode x = none := by
  rw [parentNode, not_isSome_iff_eq_none.mp (ne_true_of_eq_false hx), bind_none]

theorem update_bind_modify {g : HeapNode → Option ℕ} {value : Option ℕ} (hx : h.isLive x = true)
    (hf : ∀ n, g (f n) = value) :
    (fun y => ((h.modify x f).nodes y).bind g) =
      Function.update (fun y => (h.nodes y).bind g) x value := by
  obtain ⟨n, hn⟩ := isSome_iff_exists.mp hx
  funext y
  by_cases hy : y = x
  · subst hy
    rw [update_self, nodes_modify_self, hn, map_some, bind_some, hf]
  · rw [update_of_ne hy, nodes_modify_of_ne hy]

theorem bind_modify {A : Type} {g : HeapNode → Option A} (hf : ∀ n, g (f n) = g n) :
    (fun y => ((h.modify x f).nodes y).bind g) = fun y => (h.nodes y).bind g := by
  funext y
  by_cases hy : y = x
  · subst hy
    rw [nodes_modify_self]
    rcases h.nodes y with - | n
    · rfl
    · rw [map_some, bind_some, bind_some, hf]
  · rw [nodes_modify_of_ne hy]

theorem aliasTarget_modify (hx : h.isLive x = true) {value : Option ℕ}
    (hf : ∀ n, (f n).aliasTarget = value) :
    (h.modify x f).aliasTarget = Function.update h.aliasTarget x value :=
  update_bind_modify hx hf

theorem parentNode_modify (hx : h.isLive x = true) {value : Option ℕ}
    (hf : ∀ n, (f n).parent = value) :
    (h.modify x f).parentNode = Function.update h.parentNode x value :=
  update_bind_modify hx hf

theorem aliasTarget_modify_same (hf : ∀ n, (f n).aliasTarget = n.aliasTarget) :
    (h.modify x f).aliasTarget = h.aliasTarget :=
  bind_modify hf

theorem parentNode_modify_same (hf : ∀ n, (f n).parent = n.parent) :
    (h.modify x f).parentNode = h.parentNode :=
  bind_modify hf

theorem childNodes_modify_same (hf : ∀ n, (f n).children = n.children) :
    (h.modify x f).childNodes = h.childNodes := by
  funext y
  show ((fun y => ((h.modify x f).nodes y).bind HeapNode.children) y).getD [] = _
  rw [bind_modify hf]
  rfl

theorem aliasedBy_modify_same (hf : ∀ n, (f n).aliasedBy = n.aliasedBy) :
    (h.modify x f).aliasedBy = h.aliasedBy := by
  funext y
  rw [aliasedBy, aliasedBy]
  by_cases hy : y = x
  · subst hy
    rw [nodes_modify_self]
    rcases h.nodes y with - | n
    · rfl
    · simp [hf]
  · rw [nodes_modify_of_ne hy]

theorem isLinkedToProxy_modify_same (hf : ∀ n, (f n).linkedToProxy = n.linkedToProxy) :
    (h.modify x f).isLinkedToProxy = h.isLinkedToProxy := by
  funext y
  rw [isLinkedToProxy, isLinkedToProxy]
  by_cases hy : y = x
  · subst hy
    rw [nodes_modify_self]
    rcases h.nodes y with - | n
    · rfl
    · simp [hf]
  · rw [nodes_modify_of_ne hy]

theorem childNodes_modify (hx : h.isLive x = true) {l : List ℕ}
    (hf : ∀ n, h.nodes x = some n → (f n).children = some l) :
    (h.modify x f).childNodes = Function.update h.childNodes x l := by
  obtain ⟨n, hn⟩ := isSome_iff_exists.mp hx
  funext y
  by_cases hy : y = x
  · subst hy
    rw [update_self, childNodes, nodes_modify_self, hn, map_some,
      bind_some, hf n hn]
    rfl
  · rw [update_of_ne hy, childNodes, nodes_modify_of_ne hy]
    rfl

theorem aliasedBy_modify (hx : h.isLive x = true) {g : List ℕ → List ℕ}
    (hf : ∀ n, (f n).aliasedBy = g n.aliasedBy) :
    (h.modify x f).aliasedBy = Function.update h.aliasedBy x (g (h.aliasedBy x)) := by
  obtain ⟨n, hn⟩ := isSome_iff_exists.mp hx
  funext y
  by_cases hy : y = x
  · subst hy
    rw [update_self, aliasedBy, aliasedBy, nodes_modify_self, hn]
    exact hf n
  · rw [update_of_ne hy, aliasedBy, nodes_modify_of_ne hy]
    rfl

/-! ## The invariant -/

/-- The lists agree with the targets, and what the other pointers keep up. -/
structure Inv (h : PropertyHeap) : Prop where
  /-- an address that is in use is not given away -/
  lt_next : ∀ x, h.isLive x = true → x < h.next
  mirrors : Mirrors h.aliasTarget h.aliasedBy
  acyclic : Acyclic h.aliasTarget
  childless : ∀ x t, h.aliasTarget x = some t → h.childNodes x = []
  unproxied : ∀ x t, h.aliasTarget x = some t → h.isLinkedToProxy x = false
  owner : ∀ c p, h.parentNode c = some p → c ∈ h.childNodes p
  child_live : ∀ p c, c ∈ h.childNodes p → h.isLive c = true

theorem live_of_aliasTarget (hx : h.aliasTarget x = some t) : h.isLive x = true := by
  by_contra hnot
  rw [aliasTarget_of_not_live (Bool.eq_false_iff.mpr hnot)] at hx
  cases hx

theorem Inv.target_live (hinv : Inv h) (hx : h.aliasTarget x = some t) : h.isLive t = true := by
  by_contra hnot
  have hmem : x ∈ h.aliasedBy t := hinv.mirrors.mem_iff.mpr hx
  rw [aliasedBy_of_not_live (Bool.eq_false_iff.mpr hnot)] at hmem
  cases hmem

theorem Inv.law (hinv : Inv h) : h.Law :=
  ⟨fun x t _ _ => hinv.mirrors x t,
    fun _ _ hmem => live_of_aliasTarget (hinv.mirrors.mem_iff.mp hmem),
    fun _ _ htarget => hinv.target_live htarget, hinv.acyclic⟩

theorem Law.mirrors (hlaw : h.Law) : Mirrors h.aliasTarget h.aliasedBy := by
  intro x t
  by_cases hx : h.isLive x = true
  · by_cases ht : h.isLive t = true
    · exact hlaw.registered x t hx ht
    · rw [aliasedBy_of_not_live (Bool.eq_false_iff.mpr ht), if_neg fun htarget =>
        ht (hlaw.target_live x t htarget)]
      rfl
  · rw [aliasTarget_of_not_live (Bool.eq_false_iff.mpr hx)]
    exact count_eq_zero.mpr fun hmem => hx (hlaw.aliasedBy_live x t hmem)

theorem nodes_start (x : ℕ) : start.nodes x = if x = 0 then some { name := "/" } else none := rfl

theorem aliasTarget_start (x : ℕ) : start.aliasTarget x = none := by
  rw [aliasTarget, nodes_start]
  split_ifs <;> rfl

theorem childNodes_start (x : ℕ) : start.childNodes x = [] := by
  rw [childNodes, nodes_start]
  split_ifs <;> rfl

theorem parentNode_start (x : ℕ) : start.parentNode x = none := by
  rw [parentNode, nodes_start]
  split_ifs <;> rfl

theorem aliasedBy_start (x : ℕ) : start.aliasedBy x = [] := by
  rw [aliasedBy, nodes_start]
  split_ifs <;> rfl

/-- The tree with its root. -/
theorem inv_start : Inv start := by
  constructor
  case lt_next =>
    intro x hx
    rw [isLive, nodes_start] at hx
    split_ifs at hx with hzero
    · rw [hzero]
      exact Nat.one_pos
    · cases hx
  case mirrors =>
    intro x t
    rw [aliasedBy_start, aliasTarget_start]
    rfl
  case acyclic =>
    intro x k hk
    obtain ⟨k, rfl⟩ := Nat.exists_eq_succ_of_ne_zero hk.ne'
    rw [follow_succ_of_eq_none (aliasTarget_start x)]
    exact (some_ne_none x).symm
  all_goals simp [aliasTarget_start, childNodes_start, parentNode_start]

theorem Inv.exists_resolve (hinv : Inv h) (hx : h.isLive x = true) :
    ∃ y, h.resolve x = some y ∧ h.isLive y = true ∧ h.aliasTarget y = none := by
  obtain ⟨y, hy⟩ := hinv.acyclic.exists_last
    (s := (Finset.range h.next).filter fun z => h.isLive z = true)
    (fun a b _ hab => Finset.mem_filter.mpr
      ⟨Finset.mem_range.mpr (hinv.lt_next b (hinv.target_live hab)), hinv.target_live hab⟩)
    (Finset.mem_filter.mpr ⟨Finset.mem_range.mpr (hinv.lt_next x hx), hx⟩)
    (k := h.next) ((Finset.card_filter_le _ _).trans_eq (Finset.card_range _))
  have hlive : h.isLive y = true :=
    property_of_last (P := fun z => h.isLive z = true) (fun a b _ hab => hinv.target_live hab) hx hy
  exact ⟨y, by rw [resolve, hy, filter_some, if_pos hlive], hlive, next_of_last hy⟩

/-! ## The operations on children -/

structure Same (h h' : PropertyHeap) : Prop where
  live : h'.isLive = h.isLive
  next : h'.next = h.next
  target : h'.aliasTarget = h.aliasTarget
  registered : h'.aliasedBy = h.aliasedBy
  proxy : h'.isLinkedToProxy = h.isLinkedToProxy

theorem Same.trans {h'' : PropertyHeap} (hsame : Same h h') (hsame' : Same h' h'') : Same h h'' :=
  ⟨hsame'.live.trans hsame.live, hsame'.next.trans hsame.next, hsame'.target.trans hsame.target,
    hsame'.registered.trans hsame.registered, hsame'.proxy.trans hsame.proxy⟩

theorem Same.modify (htarget : ∀ n, (f n).aliasTarget = n.aliasTarget)
    (hregistered : ∀ n, (f n).aliasedBy = n.aliasedBy)
    (hproxy : ∀ n, (f n).linkedToProxy = n.linkedToProxy) : Same h (h.modify x f) :=
  ⟨isLive_modify, rfl, aliasTarget_modify_same htarget, aliasedBy_modify_same hregistered,
    isLinkedToProxy_modify_same hproxy⟩

theorem Inv.of_same (hinv : Inv h) (hsame : Same h h')
    (hchildless : ∀ x t, h.aliasTarget x = some t → h'.childNodes x = [])
    (howner : ∀ c p, h'.parentNode c = some p → c ∈ h'.childNodes p)
    (hlive : ∀ p c, c ∈ h'.childNodes p → h.isLive c = true) : Inv h' := by
  constructor
  case lt_next =>
    intro x hx
    rw [hsame.next]
    exact hinv.lt_next x (hsame.live ▸ hx)
  case mirrors =>
    rw [hsame.target, hsame.registered]
    exact hinv.mirrors
  case acyclic =>
    rw [hsame.target]
    exact hinv.acyclic
  case childless =>
    intro x t hx
    exact hchildless x t (hsame.target ▸ hx)
  case unproxied =>
    intro x t hx
    rw [hsame.proxy]
    exact hinv.unproxied x t (hsame.target ▸ hx)
  case owner => exact howner
  case child_live =>
    intro p c hc
    rw [hsame.live]
    exact hlive p c hc

theorem childNodes_eraseChild (hy : h.isLive y = true) (children : List ℕ) :
    (h.eraseChild y c children).childNodes =
      Function.update h.childNodes y (children.erase c) := by
  exact (childNodes_modify_same (by intro n; rfl)).trans
    (childNodes_modify hy (by intro n hn; rfl))

theorem parentNode_eraseChild (hc : h.isLive c = true) (children : List ℕ) :
    (h.eraseChild y c children).parentNode = Function.update h.parentNode c none := by
  refine (parentNode_modify (by rw [isLive_modify, hc]) (by intro n; rfl)).trans ?_
  rw [parentNode_modify_same (by intro n; rfl)]

theorem Inv.eraseChild (hinv : Inv h) (hy : h.isLive y = true) (hc : h.isLive c = true)
    (htarget : h.aliasTarget y = none) :
    Same h (h.eraseChild y c (h.childNodes y)) ∧ Inv (h.eraseChild y c (h.childNodes y)) := by
  have hfirst : Same h (h.modify y fun n =>
      { n with children := some ((h.childNodes y).erase c) }) :=
    Same.modify (fun _ => rfl) (fun _ => rfl) (fun _ => rfl)
  have hsame : Same h (h.eraseChild y c (h.childNodes y)) :=
    hfirst.trans (Same.modify (fun _ => rfl) (fun _ => rfl) (fun _ => rfl))
  have hchildren := childNodes_eraseChild (c := c) hy (h.childNodes y)
  have hparent := parentNode_eraseChild (y := y) hc (h.childNodes y)
  refine ⟨hsame, hinv.of_same hsame ?_ ?_ ?_⟩
  · intro x t hx
    have hne : x ≠ y := by
      rintro rfl
      rw [htarget] at hx
      cases hx
    rw [hchildren, update_of_ne hne]
    exact hinv.childless x t hx
  · intro d p hd
    rw [hparent] at hd
    by_cases hdc : d = c
    · rw [hdc, update_self] at hd
      cases hd
    · rw [update_of_ne hdc] at hd
      have hmem := hinv.owner d p hd
      rw [hchildren]
      by_cases hpy : p = y
      · rw [hpy, update_self]
        exact (mem_erase_of_ne hdc).mpr (hpy ▸ hmem)
      · rw [update_of_ne hpy]
        exact hmem
  · intro p d hd
    rw [hchildren] at hd
    by_cases hpy : p = y
    · rw [hpy, update_self] at hd
      exact hinv.child_live y d (mem_of_mem_erase hd)
    · rw [update_of_ne hpy] at hd
      exact hinv.child_live p d hd

theorem Inv.removeChild (hinv : Inv h) (hx : h.isLive x = true) (hc : h.isLive c = true) :
    ∃ h', h.removeChild x c = some h' ∧ Same h h' ∧ Inv h' := by
  obtain ⟨y, hresolve, hy, htarget⟩ := hinv.exists_resolve hx
  rw [PropertyHeap.removeChild, hresolve, map_some]
  rcases hchildren : (h.nodes y).bind HeapNode.children with - | children
  · exact ⟨h, rfl, ⟨rfl, rfl, rfl, rfl, rfl⟩, hinv⟩
  · have hnodes : children = h.childNodes y := by
      rw [childNodes, hchildren]
      rfl
    refine ⟨_, rfl, ?_⟩
    rw [hnodes]
    exact hinv.eraseChild hy hc htarget

theorem childNodes_appendChild (hy : h.isLive y = true) :
    (h.appendChild y c).childNodes =
      Function.update h.childNodes y (h.childNodes y ++ [c]) := by
  have hstay : (h.modify c fun n => { n with
      parent := some y, index := h.nextIndex y (h.nameOf c) }).childNodes = h.childNodes :=
    childNodes_modify_same fun _ => rfl
  refine (childNodes_modify (l := h.childNodes y ++ [c]) (by rw [isLive_modify, hy])
    (fun n hn => ?_)).trans (by rw [hstay])
  rw [← hstay, childNodes, hn]
  rfl

theorem parentNode_appendChild (hc : h.isLive c = true) :
    (h.appendChild y c).parentNode = Function.update h.parentNode c (some y) := by
  exact (parentNode_modify_same (by intro n; rfl)).trans (parentNode_modify hc (by intro n; rfl))

theorem Inv.appendChild (hinv : Inv h) (hy : h.isLive y = true) (hc : h.isLive c = true)
    (htarget : h.aliasTarget y = none) :
    Same h (h.appendChild y c) ∧ Inv (h.appendChild y c) := by
  have hsame : Same h (h.appendChild y c) := by
    exact Same.trans (Same.modify (by intro n; rfl) (by intro n; rfl) (by intro n; rfl))
      (Same.modify (by intro n; rfl) (by intro n; rfl) (by intro n; rfl))
  have hchildren := childNodes_appendChild (c := c) hy
  have hparent := parentNode_appendChild (y := y) hc
  refine ⟨hsame, hinv.of_same hsame ?_ ?_ ?_⟩
  · intro x t hx
    have hne : x ≠ y := by
      rintro rfl
      rw [htarget] at hx
      cases hx
    rw [hchildren, update_of_ne hne]
    exact hinv.childless x t hx
  · intro d p hd
    rw [hparent] at hd
    rw [hchildren]
    by_cases hdc : d = c
    · rw [hdc, update_self] at hd
      obtain rfl := some.inj hd
      rw [hdc, update_self]
      exact mem_append_right _ (mem_singleton_self c)
    · rw [update_of_ne hdc] at hd
      have hmem := hinv.owner d p hd
      by_cases hpy : p = y
      · rw [hpy, update_self]
        exact mem_append_left _ (hpy ▸ hmem)
      · rw [update_of_ne hpy]
        exact hmem
  · intro p d hd
    rw [hchildren] at hd
    by_cases hpy : p = y
    · rw [hpy, update_self] at hd
      rcases mem_append.mp hd with hd | hd
      · exact hinv.child_live y d hd
      · rw [mem_singleton.mp hd]
        exact hc
    · rw [update_of_ne hpy] at hd
      exact hinv.child_live p d hd

theorem Inv.addChild (hinv : Inv h) (hx : h.isLive x = true) (hc : h.isLive c = true) :
    ∃ h' failure, h.addChild x c = some (h', failure) ∧ Same h h' ∧ Inv h' := by
  obtain ⟨y, hresolve, hy, htarget⟩ := hinv.exists_resolve hx
  rw [PropertyHeap.addChild, hresolve, bind_some]
  by_cases hcy : c = y
  · rw [if_pos hcy]
    exact ⟨h, _, rfl, ⟨rfl, rfl, rfl, rfl, rfl⟩, hinv⟩
  · rw [if_neg hcy]
    rcases hparent : h.parentNode c with - | p
    · exact ⟨_, _, rfl, hinv.appendChild hy hc htarget⟩
    · have hp : h.isLive p = true := by
        by_contra hnot
        have hmem := hinv.owner c p hparent
        rw [childNodes_of_not_live (Bool.eq_false_iff.mpr hnot)] at hmem
        cases hmem
      obtain ⟨h', hremove, hsame, hinv'⟩ := hinv.removeChild hp hc
      obtain ⟨hsame', hinv''⟩ := hinv'.appendChild (y := y) (c := c) (by rw [hsame.live, hy])
        (by rw [hsame.live, hc]) (by rw [hsame.target, htarget])
      dsimp only
      rw [hremove]
      exact ⟨_, _, rfl, hsame.trans hsame', hinv''⟩

theorem childNodes_makeNode (hfresh : h.isLive h.next = false) (name : String) :
    (h.makeNode name).childNodes = h.childNodes := by
  funext z
  by_cases hz : z = h.next
  · rw [hz, childNodes_of_not_live hfresh, childNodes, makeNode]
    dsimp only
    rw [update_self]
    rfl
  · rw [childNodes, makeNode]
    dsimp only
    rw [update_of_ne hz]
    rfl

theorem parentNode_makeNode (hfresh : h.isLive h.next = false) (name : String) :
    (h.makeNode name).parentNode = h.parentNode := by
  funext z
  by_cases hz : z = h.next
  · rw [hz, parentNode_of_not_live hfresh, parentNode, makeNode]
    dsimp only
    rw [update_self]
    rfl
  · rw [parentNode, makeNode]
    dsimp only
    rw [update_of_ne hz]
    rfl

theorem Inv.fresh (hinv : Inv h) : h.isLive h.next = false := by
  rw [Bool.eq_false_iff]
  exact fun hlive => absurd (hinv.lt_next _ hlive) (lt_irrefl _)

theorem Inv.makeNode (hinv : Inv h) (name : String) :
    Inv (h.makeNode name) ∧ (h.makeNode name).isLive h.next = true ∧
      ∀ z, h.isLive z = true → (h.makeNode name).isLive z = true := by
  have hfresh : h.isLive h.next = false := hinv.fresh
  have hself : (h.makeNode name).nodes h.next = some { name := name } :=
    update_self _ _ _
  have hother : ∀ z, z ≠ h.next → (h.makeNode name).nodes z = h.nodes z :=
    fun z hz => update_of_ne hz _ _
  have htarget : (h.makeNode name).aliasTarget = h.aliasTarget := by
    funext z
    by_cases hz : z = h.next
    · rw [hz, aliasTarget_of_not_live hfresh, aliasTarget, hself]
      rfl
    · rw [aliasTarget, hother z hz]
      rfl
  have hregistered : (h.makeNode name).aliasedBy = h.aliasedBy := by
    funext z
    by_cases hz : z = h.next
    · rw [hz, aliasedBy_of_not_live hfresh, aliasedBy, hself]
      rfl
    · rw [aliasedBy, hother z hz]
      rfl
  have hchildren := childNodes_makeNode hfresh name
  have hparent := parentNode_makeNode hfresh name
  have hlive : ∀ z, h.isLive z = true → (h.makeNode name).isLive z = true := by
    intro z hz
    have hne : z ≠ h.next := (hinv.lt_next z hz).ne
    rw [isLive, hother z hne]
    exact hz
  refine ⟨?_, by rw [isLive, hself]; rfl, hlive⟩
  constructor
  case lt_next =>
    intro z hz
    by_cases hne : z = h.next
    · rw [hne]
      exact Nat.lt_succ_self _
    · rw [isLive, hother z hne] at hz
      exact Nat.lt_succ_of_lt (hinv.lt_next z hz)
  case mirrors =>
    rw [htarget, hregistered]
    exact hinv.mirrors
  case acyclic =>
    rw [htarget]
    exact hinv.acyclic
  case childless =>
    rw [htarget, hchildren]
    exact hinv.childless
  case unproxied =>
    intro z t hz
    rw [htarget] at hz
    have hne : z ≠ h.next := by
      rintro rfl
      rw [aliasTarget_of_not_live hfresh] at hz
      cases hz
    rw [isLinkedToProxy, hother z hne]
    exact hinv.unproxied z t hz
  case owner =>
    rw [hparent, hchildren]
    exact hinv.owner
  case child_live =>
    intro p c hc
    rw [hchildren] at hc
    exact hlive c (hinv.child_live p c hc)

theorem live_of_getPropertyByName {part : String} (hinv : Inv h)
    (hfound : h.getPropertyByName y part = some c) : h.isLive c = true := by
  refine hinv.child_live y c ?_
  rw [getPropertyByName] at hfound
  dsimp only at hfound
  split at hfound
  · rename_i hfirst
    obtain rfl := some.inj hfound
    exact mem_of_find?_eq_some hfirst
  · split_ifs at hfound
    exact mem_reverse.mp (mem_of_find?_eq_some hfound)

theorem Inv.createParts (hinv : Inv h) (parts : List String) (hx : h.isLive x = true) :
    ∃ h' result, h.createParts x parts = some (h', result) ∧ Inv h' := by
  induction parts generalizing h x with
  | nil =>
    obtain ⟨y, hresolve, -, -⟩ := hinv.exists_resolve hx
    exact ⟨h, _, by rw [PropertyHeap.createParts, hresolve]; rfl, hinv⟩
  | cons part parts ih =>
    obtain ⟨y, hresolve, hy, -⟩ := hinv.exists_resolve hx
    rw [PropertyHeap.createParts, hresolve, bind_some]
    by_cases hself : PropertyNode.isSelf (part :: parts) = true
    · rw [if_pos hself]
      exact ⟨h, _, rfl, hinv⟩
    · rw [if_neg hself]
      rcases hfound : h.getPropertyByName y part with - | c
      · by_cases hname : PropertyNode.newName part = ""
        · rw [if_pos hname]
          exact ⟨h, _, rfl, hinv⟩
        · rw [if_neg hname]
          obtain ⟨hinv', hnew, hlive⟩ := hinv.makeNode (cString (PropertyNode.newName part))
          obtain ⟨h', failure, hadd, hsame, hinv''⟩ := hinv'.addChild (hlive y hy) hnew
          rw [hadd]
          cases failure with
          | some ex => exact ⟨h', _, rfl, hinv''⟩
          | none =>
            split_ifs with htail
            · exact ⟨h', _, rfl, hinv''⟩
            · exact ih hinv'' (by rw [hsame.live, hnew])
      · dsimp only
        split_ifs with htail
        · exact ⟨h, _, rfl, hinv⟩
        · exact ih hinv (live_of_getPropertyByName hinv hfound)

/-! ## The operations on aliases -/

theorem aliasTarget_link (hx : h.isLive x = true) :
    (h.link x t).aliasTarget = Function.update h.aliasTarget x (some t) := by
  exact (aliasTarget_modify_same (by intro n; rfl)).trans (aliasTarget_modify hx (by intro n; rfl))

theorem aliasedBy_link (ht : h.isLive t = true) :
    (h.link x t).aliasedBy = Function.update h.aliasedBy t (h.aliasedBy t ++ [x]) := by
  refine (aliasedBy_modify (g := fun l => l ++ [x]) (by rw [isLive_modify, ht])
    (by intro n; rfl)).trans ?_
  rw [aliasedBy_modify_same (by intro n; rfl)]

theorem Inv.link (hinv : Inv h) (hx : h.isLive x = true) (ht : h.isLive t = true)
    (hchildren : h.childNodes x = []) (hproxy : h.isLinkedToProxy x = false)
    (htarget : h.aliasTarget x = none) (hreach : ¬ Reaches h.aliasTarget t x) :
    Inv (h.link x t) := by
  have hlive : (h.link x t).isLive = h.isLive := by
    rw [PropertyHeap.link, isLive_modify, isLive_modify]
  have hnodes : (h.link x t).childNodes = h.childNodes := by
    exact (childNodes_modify_same (by intro n; rfl)).trans
      (childNodes_modify_same (by intro n; rfl))
  have hparent : (h.link x t).parentNode = h.parentNode := by
    exact (parentNode_modify_same (by intro n; rfl)).trans
      (parentNode_modify_same (by intro n; rfl))
  have hproxies : (h.link x t).isLinkedToProxy = h.isLinkedToProxy := by
    exact (isLinkedToProxy_modify_same (by intro n; rfl)).trans
      (isLinkedToProxy_modify_same (by intro n; rfl))
  constructor
  case lt_next =>
    rw [hlive]
    exact hinv.lt_next
  case mirrors =>
    rw [aliasTarget_link hx, aliasedBy_link ht]
    exact hinv.mirrors.link_iff.mpr htarget
  case acyclic =>
    rw [aliasTarget_link hx]
    exact (hinv.acyclic.update_iff htarget).mpr hreach
  case childless =>
    intro z s hz
    rw [aliasTarget_link hx] at hz
    rw [hnodes]
    by_cases hzx : z = x
    · rw [hzx, hchildren]
    · rw [update_of_ne hzx] at hz
      exact hinv.childless z s hz
  case unproxied =>
    intro z s hz
    rw [aliasTarget_link hx] at hz
    rw [hproxies]
    by_cases hzx : z = x
    · rw [hzx, hproxy]
    · rw [update_of_ne hzx] at hz
      exact hinv.unproxied z s hz
  case owner =>
    rw [hparent, hnodes]
    exact hinv.owner
  case child_live =>
    rw [hnodes, hlive]
    exact hinv.child_live

theorem Inv.of_law_link (hinv : Inv h) (hx : h.isLive x = true) (ht : h.isLive t = true)
    (hlaw : (h.link x t).Law) : h.aliasTarget x = none ∧ ¬ Reaches h.aliasTarget t x := by
  have hmirrors := hlaw.mirrors
  rw [aliasTarget_link hx, aliasedBy_link ht] at hmirrors
  have htarget : h.aliasTarget x = none := hinv.mirrors.link_iff.mp hmirrors
  have hacyclic := hlaw.acyclic
  rw [aliasTarget_link hx] at hacyclic
  exact ⟨htarget, (hinv.acyclic.update_iff htarget).mp hacyclic⟩

/-- What taking back an alias leaves as it is. -/
structure Unlinked (h h' : PropertyHeap) : Prop where
  live : h'.isLive = h.isLive
  next : h'.next = h.next
  parent : h'.parentNode = h.parentNode
  children : h'.childNodes = h.childNodes

theorem Unlinked.trans {h'' : PropertyHeap} (hfirst : Unlinked h h') (hsecond : Unlinked h' h'') :
    Unlinked h h'' :=
  ⟨hsecond.live.trans hfirst.live, hsecond.next.trans hfirst.next,
    hsecond.parent.trans hfirst.parent, hsecond.children.trans hfirst.children⟩

theorem Inv.unlink (hinv : Inv h) (hx : h.aliasTarget x = some t) :
    Inv (h.unlink x t) ∧ Unlinked h (h.unlink x t) ∧
      (h.unlink x t).aliasTarget = Function.update h.aliasTarget x none ∧
      (h.unlink x t).aliasedBy = Function.update h.aliasedBy t ((h.aliasedBy t).erase x) := by
  have htarget : (h.unlink x t).aliasTarget = update h.aliasTarget x none := by
    refine (aliasTarget_modify (by rw [isLive_modify, live_of_aliasTarget hx])
      (by intro n; rfl)).trans ?_
    rw [aliasTarget_modify_same (by intro n; rfl)]
  have hregistered : (h.unlink x t).aliasedBy =
      update h.aliasedBy t ((h.aliasedBy t).erase x) := by
    exact (aliasedBy_modify_same (by intro n; rfl)).trans
      (aliasedBy_modify (g := fun l => l.erase x) (hinv.target_live hx) (by intro n; rfl))
  have hunlinked : Unlinked h (h.unlink x t) := by
    rw [PropertyHeap.unlink]
    refine ⟨by rw [isLive_modify, isLive_modify], rfl, ?_, ?_⟩
    · exact (parentNode_modify_same (by intro n; rfl)).trans
        (parentNode_modify_same (by intro n; rfl))
    · exact (childNodes_modify_same (by intro n; rfl)).trans
        (childNodes_modify_same (by intro n; rfl))
  have hproxies : (h.unlink x t).isLinkedToProxy = h.isLinkedToProxy := by
    exact (isLinkedToProxy_modify_same (by intro n; rfl)).trans
      (isLinkedToProxy_modify_same (by intro n; rfl))
  have hfewer : ∀ a b, (h.unlink x t).aliasTarget a = some b → h.aliasTarget a = some b := by
    intro a b hab
    rw [htarget] at hab
    by_cases hax : a = x
    · rw [hax, update_self] at hab
      cases hab
    · rwa [update_of_ne hax] at hab
  refine ⟨?_, hunlinked, htarget, hregistered⟩
  constructor
  case lt_next =>
    rw [hunlinked.live]
    exact hinv.lt_next
  case mirrors =>
    rw [htarget, hregistered]
    exact hinv.mirrors.unlink hx
  case acyclic => exact hinv.acyclic.of_le hfewer
  case childless =>
    intro a b hab
    rw [hunlinked.children]
    exact hinv.childless a b (hfewer a b hab)
  case unproxied =>
    intro a b hab
    rw [hproxies]
    exact hinv.unproxied a b (hfewer a b hab)
  case owner =>
    rw [hunlinked.parent, hunlinked.children]
    exact hinv.owner
  case child_live =>
    rw [hunlinked.children, hunlinked.live]
    exact hinv.child_live

theorem Inv.aliasTo_none (hinv : Inv h) (hx : h.aliasTarget x = some t) :
    h.aliasTo x none = some (h.unlink x t, none) := by
  rw [aliasTo, if_neg (not_not.mpr (hinv.childless x t hx)),
    if_neg (ne_true_of_eq_false (hinv.unproxied x t hx)), hx]
  dsimp only
  rw [if_pos (hinv.mirrors.mem_iff.mpr hx)]

theorem Inv.unaliasLoop {fuel : ℕ} (hinv : Inv h) (hfuel : (h.aliasedBy x).length = fuel) :
    ∃ h', unaliasLoop x fuel h = some h' ∧ Inv h' ∧ Unlinked h h' ∧ h'.aliasedBy x = [] := by
  induction fuel generalizing h with
  | zero => exact ⟨h, rfl, hinv, ⟨rfl, rfl, rfl, rfl⟩, length_eq_zero_iff.mp hfuel⟩
  | succ fuel ih =>
    rcases hlist : h.aliasedBy x with - | ⟨a, as⟩
    · rw [hlist] at hfuel
      cases hfuel
    · have ha : h.aliasTarget a = some x :=
        hinv.mirrors.mem_iff.mp (hlist ▸ mem_cons_self)
      obtain ⟨hinv', hunlinked, -, hregistered⟩ := hinv.unlink ha
      have hrest : (h.unlink a x).aliasedBy x = as := by
        rw [hregistered, update_self, hlist, erase_cons_head]
      have hlength : as.length = fuel := by
        rw [hlist] at hfuel
        exact Nat.succ.inj hfuel
      obtain ⟨h', hloop, hinv'', hunlinked', hnil⟩ := ih hinv' (by rw [hrest, hlength])
      refine ⟨h', ?_, hinv'', hunlinked.trans hunlinked', hnil⟩
      rw [PropertyHeap.unaliasLoop, hlist]
      dsimp only
      rw [if_pos (live_of_aliasTarget ha), hinv.aliasTo_none ha]
      dsimp only
      rw [hrest, if_neg (Nat.not_succ_le_self _), hloop]

theorem Inv.leaveTarget (hinv : Inv h) (hnil : h.aliasedBy x = []) :
    ∃ h', h.leaveTarget x = some h' ∧ Inv h' ∧ Unlinked h h' ∧ h'.aliasedBy x = [] ∧
      h'.aliasTarget x = none := by
  rcases htarget : h.aliasTarget x with - | t
  · exact ⟨h, by rw [PropertyHeap.leaveTarget, htarget], hinv, ⟨rfl, rfl, rfl, rfl⟩, hnil, htarget⟩
  · obtain ⟨hinv', hunlinked, htarget', hregistered⟩ := hinv.unlink htarget
    refine ⟨h.unlink x t, ?_, hinv', hunlinked, ?_, by rw [htarget', update_self]⟩
    · rw [PropertyHeap.leaveTarget, htarget]
      dsimp only
      rw [if_pos (hinv.mirrors.mem_iff.mpr htarget)]
    · rw [hregistered]
      by_cases hxt : x = t
      · rw [← hxt, update_self, hnil]
        rfl
      · rw [update_of_ne hxt, hnil]

theorem orphan_spec {children : List ℕ} (hlive : ∀ c ∈ children, h.isLive c = true) :
    Same h (h.orphan children) ∧ (h.orphan children).childNodes = h.childNodes ∧
      ∀ z, (h.orphan children).parentNode z = if z ∈ children then none else h.parentNode z := by
  induction children generalizing h with
  | nil => exact ⟨⟨rfl, rfl, rfl, rfl, rfl⟩, rfl, fun z => by simp [orphan]⟩
  | cons c children ih =>
    have hfirst : Same h (h.modify c fun n => { n with parent := none }) :=
      Same.modify (by intro n; rfl) (by intro n; rfl) (by intro n; rfl)
    obtain ⟨hsame, hnodes, hparent⟩ := @ih (h.modify c fun n => { n with parent := none })
      (fun d hd => by rw [isLive_modify]; exact hlive d (mem_cons_of_mem c hd))
    refine ⟨hfirst.trans hsame, hnodes.trans (childNodes_modify_same (by intro n; rfl)),
      fun z => (hparent z).trans ?_⟩
    rw [parentNode_modify (hlive c mem_cons_self) (by intro n; rfl)]
    by_cases hz : z ∈ children
    · rw [if_pos hz, if_pos (mem_cons_of_mem c hz)]
    · rw [if_neg hz]
      by_cases hzc : z = c
      · rw [hzc, update_self, if_pos mem_cons_self]
      · rw [update_of_ne hzc, if_neg fun hmem => (mem_cons.mp hmem).elim hzc hz]

theorem Inv.remove (hinv : Inv h) (hnil : h.aliasedBy x = []) (htarget : h.aliasTarget x = none)
    (hparent : ∀ c, h.parentNode c ≠ some x) (howned : ∀ p, x ∉ h.childNodes p) :
    Inv { h with nodes := Function.update h.nodes x none } := by
  set h' : PropertyHeap := { h with nodes := update h.nodes x none } with hdef
  have hself : h'.nodes x = none := update_self _ _ _
  have hother : ∀ z, z ≠ x → h'.nodes z = h.nodes z := fun z hz => update_of_ne hz _ _
  have htarget' : h'.aliasTarget = h.aliasTarget := by
    funext z
    by_cases hz : z = x
    · rw [hz, htarget, aliasTarget, hself]
      rfl
    · rw [aliasTarget, hother z hz]
      rfl
  have hregistered' : h'.aliasedBy = h.aliasedBy := by
    funext z
    by_cases hz : z = x
    · rw [hz, hnil, aliasedBy, hself]
      rfl
    · rw [aliasedBy, hother z hz]
      rfl
  constructor
  case lt_next =>
    intro z hz
    have hne : z ≠ x := by
      rintro rfl
      rw [isLive, hself] at hz
      cases hz
    rw [isLive, hother z hne] at hz
    exact hinv.lt_next z hz
  case mirrors =>
    rw [htarget', hregistered']
    exact hinv.mirrors
  case acyclic =>
    rw [htarget']
    exact hinv.acyclic
  case childless =>
    intro z s hz
    rw [htarget'] at hz
    by_cases hne : z = x
    · rw [hne, childNodes, hself]
      rfl
    · rw [childNodes, hother z hne]
      exact hinv.childless z s hz
  case unproxied =>
    intro z s hz
    rw [htarget'] at hz
    by_cases hne : z = x
    · rw [hne, isLinkedToProxy, hself]
      rfl
    · rw [isLinkedToProxy, hother z hne]
      exact hinv.unproxied z s hz
  case owner =>
    intro c p hc
    by_cases hne : c = x
    · rw [hne, parentNode, hself] at hc
      cases hc
    · rw [parentNode, hother c hne] at hc
      have hpx : p ≠ x := by
        rintro rfl
        exact hparent c hc
      rw [childNodes, hother p hpx]
      exact hinv.owner c p hc
  case child_live =>
    intro p c hc
    by_cases hne : p = x
    · rw [hne, childNodes, hself] at hc
      cases hc
    · rw [childNodes, hother p hne] at hc
      have hcx : c ≠ x := by
        rintro rfl
        exact howned p hc
      rw [isLive, hother c hcx]
      exact hinv.child_live p c hc

theorem Inv.destroy (hinv : Inv h) (howned : ∀ p, x ∉ h.childNodes p) :
    ∃ h', h.destroy x = some h' ∧ Inv h' := by
  have hparent : h.parentNode x = none := by
    rcases hp : h.parentNode x with - | p
    · rfl
    · exact absurd (hinv.owner x p hp) (howned p)
  obtain ⟨h₁, hloop, hinv₁, hunlinked₁, hnil₁⟩ := hinv.unaliasLoop (x := x) rfl
  obtain ⟨h₂, hleave, hinv₂, hunlinked₂, hnil₂, htarget₂⟩ := hinv₁.leaveTarget hnil₁
  have hnodes₂ : h₂.childNodes = h.childNodes := hunlinked₂.children.trans hunlinked₁.children
  obtain ⟨hsame, hnodes, hparents⟩ := orphan_spec (h := h₂) (hinv₂.child_live x)
  have hinv₃ : Inv (h₂.orphan (h₂.childNodes x)) := by
    refine hinv₂.of_same hsame ?_ ?_ ?_
    · rw [hnodes]
      exact hinv₂.childless
    · intro c p hc
      rw [hparents] at hc
      split_ifs at hc
      rw [hnodes]
      exact hinv₂.owner c p hc
    · rw [hnodes]
      exact hinv₂.child_live
  refine ⟨_, ?_, hinv₃.remove (x := x) ?_ ?_ ?_ ?_⟩
  · rw [PropertyHeap.destroy, hparent, hloop]
    dsimp only
    rw [hleave]
    rfl
  · rw [hsame.registered, hnil₂]
  · rw [hsame.target, htarget₂]
  · intro c hc
    rw [hparents] at hc
    split_ifs at hc with hmem
    exact hmem (hinv₂.owner c x hc)
  · intro p
    rw [hnodes, hnodes₂]
    exact howned p

/-! ## Runs -/

/-- Where nothing has crashed, the invariant. -/
def Sound (s : Option PropertyHeap) : Prop := ∃ h, s = some h ∧ Inv h

theorem not_owned (hinv : Inv h) (howned : h.isOwned x = false) : ∀ p, x ∉ h.childNodes p := by
  intro p hmem
  have hlive : h.isLive p = true := by
    by_contra hnot
    rw [childNodes_of_not_live (Bool.eq_false_iff.mpr hnot)] at hmem
    cases hmem
  rw [isOwned, List.any_eq_false] at howned
  exact howned p (mem_range.mpr (hinv.lt_next p hlive)) (decide_eq_true hmem)

/-- `aliasTo`: a node with children or a proxy, and one that has nothing to lose, is left as it
is. -/
theorem Inv.performAliasTo (hinv : Inv h) {target : Option ℕ} (hx : h.isLive x = true)
    (hgiven : ∀ t ∈ target, h.isLive t = true) (hfits : Fits (some h) (.aliasTo x target)) :
    ∃ h', h.perform (.aliasTo x target) = some h' ∧ Inv h' := by
  rw [PropertyHeap.perform]
  by_cases hchildren : h.childNodes x = []
  · rcases hproxy : h.isLinkedToProxy x with - | -
    · cases target with
      | none =>
        rcases htarget : h.aliasTarget x with - | t
        · refine ⟨h, ?_, hinv⟩
          rw [aliasTo, if_neg (not_not.mpr hchildren), hproxy, htarget]
          rfl
        · exact ⟨h.unlink x t, by rw [hinv.aliasTo_none htarget]; rfl, (hinv.unlink htarget).1⟩
      | some t =>
        have ht : h.isLive t = true := hgiven t rfl
        obtain ⟨htarget, hreach⟩ := hfits h rfl hx ht hchildren hproxy
        refine ⟨h.link x t, ?_, hinv.link hx ht hchildren hproxy htarget hreach⟩
        rw [aliasTo, if_neg (not_not.mpr hchildren), hproxy]
        rfl
    · refine ⟨h, ?_, hinv⟩
      unfold aliasTo
      rw [if_neg (not_not.mpr hchildren), hproxy]
      rfl
  · refine ⟨h, ?_, hinv⟩
    unfold aliasTo
    rw [if_pos hchildren]
    rfl

theorem Inv.performLinkToProxy (hinv : Inv h) : Inv (h.linkToProxy x) := by
  rw [PropertyHeap.linkToProxy]
  split_ifs with halready
  · exact hinv
  · have htarget : h.aliasTarget x = none :=
      not_isSome_iff_eq_none.mp fun hsome => halready (Or.inr hsome)
    have hothers : ∀ z, z ≠ x → (h.modify x fun n =>
        { n with linkedToProxy := true }).isLinkedToProxy z = h.isLinkedToProxy z := by
      intro z hz
      rw [isLinkedToProxy, nodes_modify_of_ne hz]
      rfl
    constructor
    case lt_next =>
      rw [isLive_modify]
      exact hinv.lt_next
    case mirrors =>
      rw [aliasTarget_modify_same (by intro n; rfl), aliasedBy_modify_same (by intro n; rfl)]
      exact hinv.mirrors
    case acyclic =>
      rw [aliasTarget_modify_same (by intro n; rfl)]
      exact hinv.acyclic
    case childless =>
      rw [aliasTarget_modify_same (by intro n; rfl), childNodes_modify_same (by intro n; rfl)]
      exact hinv.childless
    case unproxied =>
      intro z t hz
      rw [aliasTarget_modify_same (by intro n; rfl)] at hz
      have hzx : z ≠ x := by
        rintro rfl
        rw [htarget] at hz
        cases hz
      rw [hothers z hzx]
      exact hinv.unproxied z t hz
    case owner =>
      rw [parentNode_modify_same (by intro n; rfl), childNodes_modify_same (by intro n; rfl)]
      exact hinv.owner
    case child_live =>
      rw [childNodes_modify_same (by intro n; rfl), isLive_modify]
      exact hinv.child_live

/-- **What an operation keeps.** Every operation that fits returns, and keeps the invariant. -/
theorem Inv.perform (hinv : Inv h) (hgiven : ∀ x ∈ op.given, h.isLive x = true)
    (hfits : Fits (some h) op) : ∃ h', h.perform op = some h' ∧ Inv h' := by
  cases op with
  | createProperty x path =>
    obtain ⟨h', result, hcreate, hinv'⟩ :=
      hinv.createParts (PropertyNode.splitPath path) (hgiven x (mem_singleton_self x))
    exact ⟨h', by rw [PropertyHeap.perform, createProperty, hcreate]; rfl, hinv'⟩
  | addChild x c =>
    obtain ⟨h', failure, hadd, -, hinv'⟩ := hinv.addChild (hgiven x mem_cons_self)
      (hgiven c (mem_cons_of_mem x (mem_singleton_self c)))
    exact ⟨h', by rw [PropertyHeap.perform, hadd]; rfl, hinv'⟩
  | removeChild x c =>
    obtain ⟨h', hremove, -, hinv'⟩ := hinv.removeChild (hgiven x mem_cons_self)
      (hgiven c (mem_cons_of_mem x (mem_singleton_self c)))
    exact ⟨h', hremove, hinv'⟩
  | aliasTo x target =>
    refine hinv.performAliasTo (hgiven x mem_cons_self) (fun t ht => ?_) hfits
    rw [mem_def.mp ht] at hgiven
    exact hgiven t (mem_cons_of_mem x (mem_singleton_self t))
  | linkToProxy x => exact ⟨_, rfl, hinv.performLinkToProxy⟩
  | destroy x =>
    rw [PropertyHeap.perform]
    rcases howned : h.isOwned x with - | -
    · exact hinv.destroy (not_owned hinv howned)
    · exact ⟨h, if_pos rfl, hinv⟩

theorem Sound.step {s : Option PropertyHeap} (hs : Sound s) (hfits : Fits s op) :
    Sound (step s op) := by
  obtain ⟨h, rfl, hinv⟩ := hs
  rw [PropertyHeap.step, bind_some]
  split_ifs with hgiven
  · exact hinv.perform (all_eq_true.mp hgiven) hfits
  · exact ⟨h, rfl, hinv⟩

theorem Sound.not_lawful_step {s : Option PropertyHeap} (hs : Sound s) (hfits : ¬ Fits s op) :
    ¬ Lawful (PropertyHeap.step s op) := by
  obtain ⟨h, rfl, hinv⟩ := hs
  rintro ⟨h', hstep, hlaw⟩
  apply hfits
  cases op with
  | aliasTo x target =>
    cases target with
    | none => trivial
    | some t =>
      rintro h₁ heq hx ht hchildren hproxy
      obtain rfl := some.inj heq
      have hgiven : (Operation.aliasTo x (some t)).given.all h.isLive = true := by
        simp [Operation.given, hx, ht]
      rw [PropertyHeap.step, bind_some, if_pos hgiven, PropertyHeap.perform, aliasTo,
        if_neg (not_not.mpr hchildren), hproxy] at hstep
      obtain rfl := some.inj hstep
      exact hinv.of_law_link hx ht hlaw
  | _ => trivial

/-- **When aliases are registered.** In every run from a new tree, the registration is lawful in
every state, and nothing crashes, if and only if no node is made an alias that is one already, or
of a node that leads back to it. -/
theorem registers_iff (ops : List Operation) :
    Transition.Always step Lawful (some PropertyHeap.start) ops ↔
      Transition.Meets step Fits (some PropertyHeap.start) ops := by
  have hstart : Sound (some PropertyHeap.start) := ⟨_, rfl, inv_start⟩
  refine Transition.always_iff_meets ?_ ?_ ?_ hstart
  · rintro s ⟨h, rfl, hinv⟩
    exact ⟨h, rfl, hinv.law⟩
  · exact fun s op hs hfits => hs.step hfits
  · exact fun s op hs hfits => hs.not_lawful_step hfits

/-- A node that is made an alias again stays in the list of its first target. -/
theorem registers_fails : ¬ ∀ ops : List Operation,
    Transition.Always step Lawful (some PropertyHeap.start) ops := by
  intro h
  obtain ⟨-, -, -, -, -, h', heq, hlaw⟩ := h [.createProperty 0 "a", .createProperty 0 "b",
    .createProperty 0 "c", .aliasTo 3 (some 1), .aliasTo 3 (some 2)]
  have hstate : (step (step (step (step (step (some PropertyHeap.start) (.createProperty 0 "a"))
      (.createProperty 0 "b")) (.createProperty 0 "c")) (.aliasTo 3 (some 1)))
      (.aliasTo 3 (some 2))).map (fun h => (h.isLive 3, h.isLive 1, (h.aliasedBy 1).count 3,
        h.aliasTarget 3)) = some (true, true, 1, some 2) := by decide
  rw [heq] at hstate
  obtain ⟨hx, ht, hcount, htarget⟩ : h'.isLive 3 = true ∧ h'.isLive 1 = true ∧
      (h'.aliasedBy 1).count 3 = 1 ∧ h'.aliasTarget 3 = some 2 := by
    simpa using hstate
  have hlawful := hlaw.registered 3 1 hx ht
  rw [hcount, htarget] at hlawful
  cases hlawful

end PropertyHeap

end Dss
