import Dss.BehaviorScenes

/-!
# Publication of the behaviour

A ventilation behaviour publishes two nodes below the node of its group when it is made, and
removes them when it is destroyed. When one replaces another, the new one is made first: it finds
the nodes linked already, and then the old one removes them.
-/

namespace Dss

open Option

namespace GroupBehavior

/-! ## Nodes -/

/-- A `PropertyNode` below the one of the group. -/
structure ChildNode : Type where
  /-- the behaviour object of `m_Proxy`, if it is linked -/
  proxy : Option ℕ := none
  deriving DecidableEq

/-- `linkToProxy`, with its answer -/
def ChildNode.linkToProxy (child : ChildNode) (object : ℕ) : Bool × ChildNode :=
  match child.proxy with
  | some _ => (false, child)
  | none => (true, { proxy := some object })

/-- The `m_pPropertyNode` of a group: its children by name. -/
structure GroupNode : Type where
  /-- `m_ChildNodes` -/
  children : String → Option ChildNode := fun _ => none

namespace GroupNode

def set (node : GroupNode) (name : String) (child : Option ChildNode) : GroupNode :=
  ⟨Function.update node.children name child⟩

/-- `createProperty(name)->linkToProxy(…)` with a proxy for an object. A child that is there is
used; the answer of `linkToProxy` is not. -/
def createLinked (node : GroupNode) (name : String) (object : ℕ) : Except Exception GroupNode :=
  match node.children name with
  | some child => .ok (node.set name (some (child.linkToProxy object).2))
  | none =>
    if name = "" then .error (.runtimeError "Cannot create property with empty name.")
    else .ok (node.set name (some (({} : ChildNode).linkToProxy object).2))

/-- `getProperty(name)`, and `removeChild` if there is one -/
def remove (node : GroupNode) (name : String) : GroupNode := node.set name none

end GroupNode

def activeBasicScenesName : String := "activeBasicScenes"
def lastCalledBasicSceneName : String := "lastCalledBasicScene"

/-- `publishToPropertyTree` of a behaviour -/
def publishBehavior (kind : BehaviorKind) (object : ℕ) :
    Option GroupNode → Except Exception (Option GroupNode)
  | none => .ok none
  | some node =>
    match kind with
    | .default => .ok (some node)
    | .ventilation => do
      let node ← node.createLinked activeBasicScenesName object
      let node ← node.createLinked lastCalledBasicSceneName object
      pure (some node)

/-- `removeFromPropertyTree` of a behaviour -/
def removeBehavior (kind : BehaviorKind) (node : Option GroupNode) : Option GroupNode :=
  match kind with
  | .default => node
  | .ventilation => node.map fun node =>
    (node.remove activeBasicScenesName).remove lastCalledBasicSceneName

/-! ## The group in the tree -/

structure Published : Type where
  group : Group
  /-- which object `m_pApplicationBehavior` is; those with smaller numbers are destroyed -/
  object : ℕ
  /-- `m_pPropertyNode` -/
  node : Option GroupNode

namespace Published

def make (groupID : ℕ) : Published := ⟨.make groupID, 0, none⟩

def kind (p : Published) : BehaviorKind := p.group.applicationType.behaviorKind

/-- `publishToPropertyTree`; the apartment may have no node. -/
def publishToPropertyTree (p : Published) (apartmentHasNode : Bool) :
    Except Exception Published := do
  match p.node with
  | some _ => pure p
  | none =>
    if apartmentHasNode then
      let node ← publishBehavior p.kind p.object (some {})
      pure { p with node := node }
    else pure p

def setApplicationType (p : Published) (t : Option ApplicationType) :
    Except Exception Published := do
  if some p.group.applicationType = t then pure p
  else if p.group.typeIsFixed then pure p
  else
    -- the new object is made before the old one is destroyed
    let node ← publishBehavior (t.getD .none).behaviorKind (p.object + 1) p.node
    pure ⟨p.group.setApplicationType t, p.object + 1, removeBehavior p.kind node⟩

end Published

/-- What happens to the group. -/
inductive TreeCall : Type where
  /-- `publishToPropertyTree` -/
  | publish (apartmentHasNode : Bool) : TreeCall
  /-- `setApplicationType` -/
  | setType (t : Option ApplicationType) : TreeCall
  deriving DecidableEq

def Published.call (p : Published) : TreeCall → Except Exception Published
  | .publish apartmentHasNode => p.publishToPropertyTree apartmentHasNode
  | .setType t => p.setApplicationType t

def treeStep (result : Except Exception Published) (call : TreeCall) :
    Except Exception Published :=
  result.bind fun p => p.call call

/-- The child is there exactly under a ventilation behaviour, and linked to the current one. -/
def Published.ChildFits (p : Published) (child : Option ChildNode) : Prop :=
  (child.isSome = true ↔ p.kind = .ventilation) ∧
    ∀ node, child = some node → node.proxy = some p.object

/-- What holds of both nodes of a group that has a node. -/
def Published.Fits (p : Published) : Prop :=
  ∀ node, p.node = some node → ∀ name ∈ [activeBasicScenesName, lastCalledBasicSceneName],
    p.ChildFits (node.children name)

/-- No call has thrown, and the nodes are as they should be. -/
def TreeLaw (result : Except Exception Published) : Prop := ∃ p, result = .ok p ∧ p.Fits

/-- A new ventilation behaviour does not replace another one in the tree. -/
def TreeFits (result : Except Exception Published) : TreeCall → Prop
  | .publish _ => True
  | .setType t => ∀ p, result = .ok p → p.node.isSome = true → p.kind = .ventilation →
    (t.getD .none).behaviorKind = .ventilation →
      some p.group.applicationType = t ∨ p.group.typeIsFixed = true

/-! ## Nodes of a behaviour -/

variable {p : Published} {node : GroupNode} {name : String} {object : ℕ}

@[simp]
theorem children_set_self {child : Option ChildNode} :
    (node.set name child).children name = child :=
  Function.update_self ..

theorem children_set_of_ne {other : String} {child : Option ChildNode} (h : other ≠ name) :
    (node.set name child).children other = node.children other :=
  Function.update_of_ne h ..

theorem names_ne : lastCalledBasicSceneName ≠ activeBasicScenesName := by decide

def setBoth (node : GroupNode) (active last : Option ChildNode) : GroupNode :=
  (node.set activeBasicScenesName active).set lastCalledBasicSceneName last

theorem children_setBoth_active {active last : Option ChildNode} :
    (setBoth node active last).children activeBasicScenesName = active := by
  rw [setBoth, children_set_of_ne names_ne.symm, children_set_self]

theorem children_setBoth_last {active last : Option ChildNode} :
    (setBoth node active last).children lastCalledBasicSceneName = last := by
  rw [setBoth, children_set_self]

def linked (child : Option ChildNode) (object : ℕ) : ChildNode :=
  ((child.getD {}).linkToProxy object).2

theorem createLinked_eq (hname : name ≠ "") :
    node.createLinked name object =
      .ok (node.set name (some (linked (node.children name) object))) := by
  rw [GroupNode.createLinked]
  rcases node.children name with - | child
  · rw [if_neg hname]
    rfl
  · rfl

theorem publishBehavior_ventilation : publishBehavior .ventilation object (some node) =
    .ok (some (setBoth node (some (linked (node.children activeBasicScenesName) object))
      (some (linked (node.children lastCalledBasicSceneName) object)))) := by
  rw [publishBehavior, createLinked_eq (by decide)]
  show (GroupNode.createLinked _ _ _).bind _ = _
  rw [createLinked_eq (by decide)]
  rfl

def Linked (object : ℕ) (node : GroupNode) : Prop :=
  ∀ name ∈ [activeBasicScenesName, lastCalledBasicSceneName],
    node.children name = some ⟨some object⟩

def Unpublished (node : GroupNode) : Prop :=
  ∀ name ∈ [activeBasicScenesName, lastCalledBasicSceneName], node.children name = none

theorem forall_names {P : String → Prop} (hactive : P activeBasicScenesName)
    (hlast : P lastCalledBasicSceneName) :
    ∀ name ∈ [activeBasicScenesName, lastCalledBasicSceneName], P name := by
  intro name hname
  simp only [List.mem_cons, List.not_mem_nil, or_false] at hname
  rcases hname with rfl | rfl
  · exact hactive
  · exact hlast

theorem publishBehavior_of_unpublished (h : Unpublished node) :
    ∃ node', publishBehavior .ventilation object (some node) = .ok (some node') ∧
      Linked object node' := by
  refine ⟨_, publishBehavior_ventilation, forall_names ?_ ?_⟩
  · rw [h activeBasicScenesName (by simp)]
    rfl
  · rw [h lastCalledBasicSceneName (by simp)]
    rfl

theorem unpublished_remove (node : GroupNode) :
    Unpublished ((node.remove activeBasicScenesName).remove lastCalledBasicSceneName) :=
  forall_names children_setBoth_active children_setBoth_last

/-! ## The law, by the class of the behaviour -/

theorem Published.Fits.unpublished (h : p.Fits) (hkind : p.kind = .default)
    (hnode : p.node = some node) : Unpublished node := by
  intro name hname
  obtain ⟨hiff, -⟩ := h node hnode name hname
  rcases hchild : node.children name with - | child
  · rfl
  · rw [hchild, hkind] at hiff
    cases hiff.mp rfl

theorem fits_of_unpublished (hkind : p.kind = .default)
    (h : ∀ node, p.node = some node → Unpublished node) : p.Fits := by
  intro node hnode name hname
  rw [h node hnode name hname]
  refine ⟨?_, fun child hchild => ?_⟩
  · simp [hkind]
  · cases hchild

theorem fits_of_linked (hkind : p.kind = .ventilation)
    (h : ∀ node, p.node = some node → Linked p.object node) : p.Fits := by
  intro node hnode name hname
  rw [h node hnode name hname]
  refine ⟨?_, fun child hchild => ?_⟩
  · simp [hkind]
  · obtain rfl := some.inj hchild
    rfl

theorem fits_of_node_none (h : p.node = none) : p.Fits := by
  intro node hnode
  rw [h] at hnode
  cases hnode

theorem not_fits_of_unpublished (hkind : p.kind = .ventilation) (hnode : p.node = some node)
    (h : Unpublished node) : ¬ p.Fits := by
  intro hfits
  obtain ⟨hiff, -⟩ := hfits node hnode activeBasicScenesName (by simp)
  rw [h activeBasicScenesName (by simp)] at hiff
  cases hiff.mpr hkind

/-! ## The steps -/

theorem fits_publish (h : p.Fits) (apartmentHasNode : Bool) :
    ∃ p', p.publishToPropertyTree apartmentHasNode = .ok p' ∧ p'.Fits := by
  rw [Published.publishToPropertyTree]
  rcases hnode : p.node with - | node
  · split_ifs
    · have hempty : Unpublished {} := fun _ _ => rfl
      rcases hkind : p.kind with - | -
      · refine ⟨_, rfl, fits_of_unpublished (by exact hkind) fun node hsome => ?_⟩
        obtain rfl := some.inj hsome
        exact hempty
      · obtain ⟨node, hpublish, hlinked⟩ := @publishBehavior_of_unpublished _ p.object hempty
        rw [hpublish]
        refine ⟨_, rfl, fits_of_linked (by exact hkind) fun other hsome => ?_⟩
        obtain rfl := some.inj hsome
        exact hlinked
    · exact ⟨p, rfl, h⟩
  · exact ⟨p, rfl, h⟩

theorem setApplicationType_of_replaced {t : Option ApplicationType}
    (htype : ¬ some p.group.applicationType = t) (hfixed : ¬ p.group.typeIsFixed = true)
    {node' : Option GroupNode}
    (h : publishBehavior (t.getD .none).behaviorKind (p.object + 1) p.node = .ok node') :
    p.setApplicationType t =
      .ok ⟨p.group.setApplicationType t, p.object + 1, removeBehavior p.kind node'⟩ := by
  rw [Published.setApplicationType, if_neg htype, if_neg hfixed, h]
  rfl

theorem kind_of_replaced {t : Option ApplicationType}
    (htype : ¬ some p.group.applicationType = t) (hfixed : ¬ p.group.typeIsFixed = true) :
    (p.group.setApplicationType t).applicationType = t.getD .none := by
  rw [Group.setApplicationType, if_neg htype, if_neg hfixed]

theorem fits_setApplicationType (h : p.Fits) (t : Option ApplicationType)
    (hfits : TreeFits (.ok p) (.setType t)) :
    ∃ p', p.setApplicationType t = .ok p' ∧ p'.Fits := by
  by_cases htype : some p.group.applicationType = t
  · exact ⟨p, by rw [Published.setApplicationType, if_pos htype]; rfl, h⟩
  by_cases hfixed : p.group.typeIsFixed = true
  · exact ⟨p, by rw [Published.setApplicationType, if_neg htype, if_pos hfixed]; rfl, h⟩
  have hkind' := kind_of_replaced htype hfixed
  rcases hnode : p.node with - | node
  · -- nothing is published
    refine ⟨_, @setApplicationType_of_replaced p t htype hfixed none (by rw [hnode]; rfl),
      fits_of_node_none ?_⟩
    cases p.kind <;> rfl
  rcases hnew : (t.getD .none).behaviorKind with - | -
  · -- the new behaviour publishes nothing
    refine ⟨_, @setApplicationType_of_replaced p t htype hfixed (some node)
      (by rw [hnew, hnode]; rfl), ?_⟩
    refine fits_of_unpublished ((congrArg ApplicationType.behaviorKind hkind').trans hnew) ?_
    intro other hother
    rcases hkind : p.kind with - | -
    · simp only [removeBehavior, hkind] at hother
      obtain rfl := some.inj hother
      exact h.unpublished hkind hnode
    · simp only [removeBehavior, hkind, map_some] at hother
      obtain rfl := some.inj hother
      exact unpublished_remove node
  · -- the new one is a ventilation, so the old one is not
    rcases hkind : p.kind with - | -
    · obtain ⟨node', hpublish, hlinked⟩ :=
        @publishBehavior_of_unpublished _ (p.object + 1) (h.unpublished hkind hnode)
      refine ⟨_, setApplicationType_of_replaced htype hfixed
        (by rw [hnew, hnode]; exact hpublish), ?_⟩
      refine fits_of_linked ((congrArg ApplicationType.behaviorKind hkind').trans hnew) ?_
      intro other hother
      simp only [removeBehavior, hkind] at hother
      obtain rfl := some.inj hother
      exact hlinked
    · rcases hfits p rfl (by rw [hnode]; rfl) hkind hnew with hsame | hfix
      · exact absurd hsame htype
      · exact absurd hfix hfixed

theorem not_fits_setApplicationType {t : Option ApplicationType}
    (hfits : ¬ TreeFits (.ok p) (.setType t)) : ¬ TreeLaw (p.setApplicationType t) := by
  intro hlaw
  refine hfits fun p' hp' hnode hkind hnew => ?_
  obtain rfl := Except.ok.inj hp'
  by_contra hor
  rw [not_or] at hor
  obtain ⟨htype, hfixed⟩ := hor
  obtain ⟨node, hnode⟩ := isSome_iff_exists.mp hnode
  obtain ⟨node', hpublish⟩ : ∃ node', publishBehavior (t.getD .none).behaviorKind (p.object + 1)
      p.node = .ok (some node') := by
    rw [hnew, hnode]
    exact ⟨_, publishBehavior_ventilation⟩
  obtain ⟨p', hp', hfits'⟩ := hlaw
  rw [setApplicationType_of_replaced htype hfixed hpublish] at hp'
  obtain rfl := Except.ok.inj hp'
  refine not_fits_of_unpublished ?_ ?_ (unpublished_remove node') hfits'
  · exact (congrArg ApplicationType.behaviorKind (kind_of_replaced htype hfixed)).trans hnew
  · simp only [removeBehavior, hkind, map_some]

/-! ## Runs -/

/-- **Publication of the behaviour.** In a run of `publishToPropertyTree` and
`setApplicationType` on a new group, the two nodes are always there exactly under a ventilation
behaviour and linked to the current one, and nothing is thrown, exactly if no ventilation type
is ever replaced by another one while the group has its node. -/
theorem publication_iff (groupID : ℕ) (calls : List TreeCall) :
    Transition.Always treeStep TreeLaw (.ok (.make groupID)) calls ↔
      Transition.Meets treeStep TreeFits (.ok (.make groupID)) calls := by
  refine Transition.always_iff_meets (fun _ h => h) (fun result call h hfits => ?_)
    (fun result call h hfits => ?_) ⟨_, rfl, fits_of_node_none rfl⟩
  · obtain ⟨p, rfl, hp⟩ := h
    cases call with
    | publish apartmentHasNode => exact fits_publish hp apartmentHasNode
    | setType t => exact fits_setApplicationType hp t hfits
  · obtain ⟨p, rfl, hp⟩ := h
    cases call with
    | publish apartmentHasNode => exact absurd trivial hfits
    | setType t => exact not_fits_setApplicationType hfits

/-- A cluster changes from ventilation to recirculation. -/
theorem publication_fails :
    ¬ Transition.Always treeStep TreeLaw (.ok (.make groupIDAppUserMin))
      [.publish true, .setType (some .ventilation), .setType (some .recirculation)] := by
  rintro ⟨-, -, -, hlaw⟩
  obtain ⟨p, hp, hfits⟩ := hlaw
  obtain rfl := Except.ok.inj hp
  exact not_fits_of_unpublished rfl rfl (unpublished_remove _) hfits

end GroupBehavior

end Dss
