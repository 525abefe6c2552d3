import Dss.EventRunner

/-!
# The nodes of the scheduled events

Each entry of the event runner should have one node below the monitor node, named by its id. The id
ends with the name of the event, and is used as a path: a slash, a bracket, a plus at the end or a
NUL in the name make other nodes. With names without them, a run keeps the nodes and the entries
together, as long as no timed event is merged into another one, none is removed by its name, and
no other way of writing a node's path is given for an id.
-/

namespace Dss

open PropertyNode List Option

/-! ## Ids -/

/-- A name that a path takes for one part, and that a node can have. -/
structure SafeName (name : String) : Prop where
  slash : '/' ∉ name.toList
  bracket : '[' ∉ name.toList
  nul : '\x00' ∉ name.toList
  plus : name.toList.getLast? ≠ some '+'

theorem isDigit_of_mem_repr {n : ℕ} {c : Char} (h : c ∈ n.repr.toList) : c.isDigit = true := by
  rw [Nat.toList_repr] at h
  exact Nat.isDigit_of_mem_toDigits (by decide) (by decide) h

section ids

variable {counter counter' : ℕ} {now now' : ℤ} {name name' : String} {c : Char}

theorem toList_scheduledEventID :
    (scheduledEventID counter now name).toList =
      counter.repr.toList ++ '-' :: (now.toNat.repr.toList ++ '_' :: name.toList) := by
  simp [scheduledEventID]

theorem mem_of_mem_scheduledEventID (h : c ∈ (scheduledEventID counter now name).toList)
    (hdigit : c.isDigit ≠ true) (hdash : c ≠ '-') (hunder : c ≠ '_') : c ∈ name.toList := by
  rw [toList_scheduledEventID, mem_append, mem_cons, mem_append, mem_cons] at h
  rcases h with h | h | h | h | h
  · exact absurd (isDigit_of_mem_repr h) hdigit
  · exact absurd h hdash
  · exact absurd (isDigit_of_mem_repr h) hdigit
  · exact absurd h hunder
  · exact h

theorem dash_mem_scheduledEventID : '-' ∈ (scheduledEventID counter now name).toList := by
  rw [toList_scheduledEventID]
  exact mem_append_right _ mem_cons_self

theorem scheduledEventID_ne_empty : scheduledEventID counter now name ≠ "" := by
  intro h
  have hmem := @dash_mem_scheduledEventID counter now name
  rw [h] at hmem
  cases hmem

theorem SafeName.scheduledEventID (h : SafeName name) :
    SafeName (scheduledEventID counter now name) where
  slash hmem := h.slash (mem_of_mem_scheduledEventID hmem (by decide) (by decide) (by decide))
  bracket hmem := h.bracket (mem_of_mem_scheduledEventID hmem (by decide) (by decide) (by decide))
  nul hmem := h.nul (mem_of_mem_scheduledEventID hmem (by decide) (by decide) (by decide))
  plus := by
    have hplus := h.plus
    rw [toList_scheduledEventID, ← cons_append, ← append_assoc,
      getLast?_append, getLast?_cons, some_or]
    rcases hlast : name.toList.getLast? with - | c
    · decide
    · rw [getD_some, ← hlast]
      exact hplus

theorem counter_of_scheduledEventID
    (h : scheduledEventID counter now name = scheduledEventID counter' now' name') :
    counter = counter' := by
  have hdigits (n : ℕ) : ∀ c ∈ n.repr.toList, decide (c ≠ '-') = true := by
    intro c hc
    refine decide_eq_true ?_
    rintro rfl
    exact absurd (isDigit_of_mem_repr hc) (by decide)
  have hlist := congrArg (fun id => id.toList.takeWhile (· ≠ '-')) h
  simp only [toList_scheduledEventID, takeWhile_append_of_pos (hdigits _),
    takeWhile_cons, ne_eq, not_true_eq_false, decide_false, Bool.false_eq_true,
    if_false, append_nil] at hlist
  exact toString_nat_inj (String.toList_inj.mp hlist)

end ids

/-! ## The node of an entry -/

namespace PropertyNode

def leafNames : List String := ["id", "name", "time", "ticks"]

structure IsEntryNode (node : PropertyNode) : Prop where
  index_eq : node.index = 0
  leaves : ∀ leaf ∈ node.children, leaf.name ∈ leafNames ∧ leaf.children = []

/-- It only writes a value. -/
def IsWrite (f : PropertyNode → PropertyNode) : Prop :=
  ∀ node, ∃ value, f node = { node with value := value }

variable {node child : PropertyNode} {f : PropertyNode → PropertyNode} {id leaf path : String}

theorem plain_of_mem_leafNames (h : leaf ∈ leafNames) :
    Plain leaf ∧ '+' ∉ leaf.toList ∧ '\x00' ∉ leaf.toList ∧ '-' ∉ leaf.toList := by
  have hall : ∀ leaf ∈ leafNames,
      Plain leaf ∧ '+' ∉ leaf.toList ∧ '\x00' ∉ leaf.toList ∧ '-' ∉ leaf.toList := by decide
  exact hall leaf h

theorem IsEntryNode.create_leaf (hnode : node.IsEntryNode) (hf : IsWrite f)
    (hleaf : leaf ∈ leafNames) :
    ∃ node', node.create f [leaf] = (node', none) ∧ node'.name = node.name ∧
      node'.IsEntryNode := by
  obtain ⟨hplain, hplus, hnul, -⟩ := plain_of_mem_leafNames hleaf
  simp only [create, hplain.isSelf_eq_false, Bool.false_eq_true, if_false]
  rcases hposition : node.position leaf with - | i
  · simp only [bind_none, newName_of_plain hplain hplus, if_neg hplain.1,
      cString_of_not_mem hnul]
    refine ⟨_, rfl, rfl, hnode.index_eq, fun child hmem => ?_⟩
    rcases mem_append.mp hmem with hold | hnew
    · exact hnode.leaves child hold
    · obtain ⟨value, hvalue⟩ := hf { name := leaf, index := node.nextIndex leaf }
      rw [mem_singleton.mp hnew, hvalue]
      exact ⟨hleaf, rfl⟩
  · obtain ⟨found, hfound, -⟩ := name_of_position hposition
    simp only [bind_some, hfound, map_some]
    refine ⟨_, rfl, rfl, hnode.index_eq, fun child hmem => ?_⟩
    rcases mem_or_eq_of_mem_set hmem with hold | rfl
    · exact hnode.leaves child hold
    · obtain ⟨value, hvalue⟩ := hf found
      rw [hvalue]
      exact hnode.leaves found (mem_of_getElem? hfound)

theorem splitPath_pair (hpath : path.toList = id.toList ++ '/' :: leaf.toList)
    (hid : '/' ∉ id.toList) (hleaf : '/' ∉ leaf.toList) : splitPath path = [id, leaf] := by
  have hsplit : path.toList.splitOn '/' = [id.toList, leaf.toList] := by
    have hjoin : (['/'].intercalate [id.toList, leaf.toList]).splitOn '/' =
        [id.toList, leaf.toList] := by
      refine splitOn_intercalate '/' (fun l hl => ?_) (cons_ne_nil _ _)
      rcases mem_pair.mp hl with rfl | rfl
      · exact hid
      · exact hleaf
    rw [hpath]
    simpa [intercalate] using hjoin
  rw [splitPath, hsplit]
  simp

theorem position_eq_none_iff (hindex : ∀ child ∈ node.children, child.index = 0)
    (h : '[' ∉ id.toList) : node.position id = none ↔ id ∉ node.childNames := by
  rw [position_of_not_mem h]
  exact KeyedList.findIdx?_eq_none_iff fun child hmem => isNamed_iff (hindex child hmem)

theorem childNames_set {i : ℕ} {child' : PropertyNode} (hchild : node.children[i]? = some child)
    (hname : child'.name = child.name) :
    ({ node with children := node.children.set i child' } : PropertyNode).childNames =
      node.childNames := by
  obtain ⟨hlt, rfl⟩ := List.getElem?_eq_some_iff.mp hchild
  simp only [childNames, map_set, hname]
  rw [← getElem_map PropertyNode.name]
  · exact set_getElem_self _
  · rw [length_map]
    exact hlt

/-- **A write below an entry.** With a safe id, the nodes afterwards are the ones before
and the one of the entry. -/
theorem createProperty_entry (hnodes : ∀ child ∈ node.children, child.IsEntryNode)
    (hf : IsWrite f) (hid : SafeName id) (hempty : id ≠ "") (hleaf : leaf ∈ leafNames)
    (hpath : path.toList = id.toList ++ '/' :: leaf.toList) :
    ∃ node', node.createProperty path f = (node', none) ∧
      (∀ child ∈ node'.children, child.IsEntryNode) ∧
      node'.childNames =
        if id ∈ node.childNames then node.childNames else node.childNames ++ [id] := by
  obtain ⟨hplain, -⟩ := plain_of_mem_leafNames hleaf
  have hself : isSelf [id, leaf] = false := by
    simp [isSelf, hempty]
  have hiff := position_eq_none_iff (fun child hmem => (hnodes child hmem).index_eq) hid.bracket
  rw [createProperty, splitPath_pair hpath hid.slash hplain.2.1, create,
    if_neg (by rw [hself]; exact Bool.false_ne_true)]
  rcases hposition : node.position id with - | i
  · -- the node of the entry is made
    have hnew : id ∉ node.childNames := hiff.mp hposition
    have hname : newName id = id := by
      rw [newName, if_neg hid.plus, getAndRemoveIndex_of_not_mem hid.bracket]
    have hfresh : ({ name := id, index := node.nextIndex id } : PropertyNode).IsEntryNode :=
      ⟨nextIndex_eq_zero hnew, fun leaf hmem => absurd hmem not_mem_nil⟩
    obtain ⟨child, hchild, hchildName, hentry⟩ := hfresh.create_leaf hf hleaf
    simp only [bind_none, hname, if_neg hempty, cString_of_not_mem hid.nul, hchild,
      if_neg hnew]
    refine ⟨_, rfl, fun other hmem => ?_, ?_⟩
    · rcases mem_append.mp hmem with hold | hmade
      · exact hnodes other hold
      · rw [mem_singleton.mp hmade]
        exact hentry
    · simp only [childNames, map_append, map_cons, map_nil, hchildName]
  · -- it is there
    have hold : id ∈ node.childNames := by
      by_contra hnew
      rw [hiff.mpr hnew] at hposition
      cases hposition
    obtain ⟨found, hfound, -⟩ := name_of_position hposition
    obtain ⟨child, hchild, hchildName, hentry⟩ :=
      (hnodes found (mem_of_getElem? hfound)).create_leaf hf hleaf
    simp only [bind_some, hfound, map_some, hchild, if_pos hold]
    refine ⟨_, rfl, fun other hmem => ?_, ?_⟩
    · rcases mem_or_eq_of_mem_set hmem with hkept | rfl
      · exact hnodes other hkept
      · exact hentry
    · exact childNames_set hfound hchildName

/-! ## Nodes at a place -/

theorem eq_of_walk_nil {parts : List String} (h : node.walk parts = some ([], child)) :
    child = node := by
  cases parts with
  | nil => exact (congrArg Prod.snd (some.inj h)).symm
  | cons part parts =>
    rw [walk] at h
    split_ifs at h
    · exact (congrArg Prod.snd (some.inj h)).symm
    · split at h
      · cases h
      · split at h
        · cases h
        · obtain ⟨found, -, heq⟩ := map_eq_some_iff.mp h
          cases congrArg Prod.fst heq

theorem mem_children_of_getProperty {i : ℕ} (h : node.getProperty path = some ([i], child)) :
    child ∈ node.children := by
  rw [getProperty] at h
  cases hparts : splitPath path with
  | nil =>
    rw [hparts] at h
    cases h
  | cons part parts =>
    rw [hparts, walk] at h
    split_ifs at h
    · cases h
    · split at h
      · cases h
      · split at h
        · cases h
        · rename_i first hfirst
          obtain ⟨⟨place, found⟩, hfound, heq⟩ := map_eq_some_iff.mp h
          obtain ⟨⟨rfl, rfl⟩, rfl⟩ := heq
          rw [eq_of_walk_nil hfound]
          exact mem_of_getElem? hfirst

end PropertyNode

/-! ## Replacing an entry -/

theorem map_replaceFirst {α : Type} {f : α → String} {l : List α} {p : α → Bool} {g : α → α}
    (hg : ∀ a, f (g a) = f a) :
    (replaceFirst p g l).map f = l.map f := by
  induction l with
  | nil => rfl
  | cons a l ih =>
    rw [replaceFirst]
    split_ifs
    · rw [map_cons, map_cons, hg]
    · rw [map_cons, map_cons, ih]

namespace EventRunner

variable {S : Type} {rt : ScheduleRuntime S} {r : EventRunner S}

/-! ## The law -/

def ids (r : EventRunner S) : List String := r.scheduledEvents.map ScheduledEvent.id

theorem eraseP_id (h : r.ids.Nodup) (id : String) :
    (r.scheduledEvents.eraseP fun x => x.id = id) = r.scheduledEvents.filter fun x => x.id ≠ id :=
  KeyedList.eraseP_eq_filter h fun _ _ => decide_eq_true_iff

/-- The monitor nodes are those of the scheduled events, one for each id. -/
structure Mirrors (r : EventRunner S) : Prop where
  childNames_eq : r.monitorNode.childNames = r.ids
  nodup : r.ids.Nodup

/-- What a call owes: the id that is returned is scheduled, and an id that is given takes
out its own entry and node. -/
def CallLaw (rt : ScheduleRuntime S) (r : EventRunner S) : Call → Prop
  | .pushTimedEvent now e => (scheduleFromEvent rt now e).isSome →
    ∃ id, (r.pushTimedEvent rt now e).2 = .ok id ∧ id ∈ (r.pushTimedEvent rt now e).1.ids
  | .removeEvent id =>
    (r.removeEvent id).scheduledEvents = (r.scheduledEvents.filter fun x => x.id ≠ id) ∧
      (r.removeEvent id).monitorNode.children =
        r.monitorNode.children.filter fun child => child.name ≠ id
  | _ => True

/-- The nodes mirror the events before and after each call, and each call returns what it owes. -/
def LawfulRun (rt : ScheduleRuntime S) (r : EventRunner S) : List Call → Prop
  | [] => r.Mirrors
  | call :: calls =>
    r.Mirrors ∧ CallLaw rt r call ∧ LawfulRun rt (r.step rt call) calls

/-- Before the first call: nothing is scheduled, and the monitor node has no children. -/
structure Start (r : EventRunner S) : Prop where
  scheduledEvents_eq : r.scheduledEvents = []
  children_eq : r.monitorNode.children = []

/-! ## The condition -/

def Merges (r : EventRunner S) (e : Event) : Prop :=
  e.isUnique ∧ (r.scheduledEvents.any fun y => e.isReplacementFor y.event)

/-- The id, taken as a path, does not lead to the node of another entry. -/
def LeadsToNoOther (r : EventRunner S) (id : String) : Prop :=
  ∀ place node, r.monitorNode.getProperty id = some (place, node) →
    node.name ≠ id → node.name ∉ r.ids

/-- An event that makes an entry has a safe name; a timed one makes an entry; no entry has a
name that is removed; and an id that is removed does not lead to the node of another
entry. -/
def Guard (rt : ScheduleRuntime S) (r : EventRunner S) : Call → Prop
  | .pushEvent now e =>
    (scheduleFromEvent rt now e).isSome → r.Merges e ∨ SafeName e.name
  | .pushTimedEvent now e =>
    (scheduleFromEvent rt now e).isSome → ¬ r.Merges e ∧ SafeName e.name
  | .removeEvent id => r.LeadsToNoOther id
  | .removeEventByName name => ∀ x ∈ r.scheduledEvents, x.event.name ≠ name
  | .raisePendingEvents _ => True
  | .removeNode _ => True

def GuardedRun (rt : ScheduleRuntime S) (r : EventRunner S) : List Call → Prop
  | [] => True
  | call :: calls => Guard rt r call ∧ GuardedRun rt (r.step rt call) calls

/-! ## The invariant -/

/-- What holds between the calls. -/
structure Inv (r : EventRunner S) : Prop extends r.Mirrors where
  nodes : ∀ child ∈ r.monitorNode.children, child.IsEntryNode
  made : ∀ id ∈ r.ids, ∃ counter now name, counter < r.scheduledEventCounter ∧
    SafeName name ∧ id = scheduledEventID counter now name

theorem Start.inv (h : r.Start) : r.Inv where
  childNames_eq := by rw [childNames, h.children_eq, ids, h.scheduledEvents_eq]; rfl
  nodup := by rw [ids, h.scheduledEvents_eq]; exact nodup_nil
  nodes child hmem := by
    rw [h.children_eq] at hmem
    cases hmem
  made id hmem := by
    rw [ids, h.scheduledEvents_eq] at hmem
    cases hmem

namespace Inv

variable {r' : EventRunner S} {id : String}

theorem congr (h : r.Inv) (hids : r'.ids = r.ids) (hnodes : r'.monitorNode = r.monitorNode)
    (hcounter : r.scheduledEventCounter ≤ r'.scheduledEventCounter) : r'.Inv where
  childNames_eq := by rw [hnodes, hids, h.childNames_eq]
  nodup := hids ▸ h.nodup
  nodes := hnodes ▸ h.nodes
  made id hmem := by
    obtain ⟨counter, now, name, hlt, hmade⟩ := h.made id (hids ▸ hmem)
    exact ⟨counter, now, name, hlt.trans_le hcounter, hmade⟩

theorem distinct (h : r.Inv) : r.monitorNode.Distinct where
  nodup := h.childNames_eq ▸ h.nodup
  index_eq child hmem := (h.nodes child hmem).index_eq

theorem safeName (h : r.Inv) (hid : id ∈ r.ids) : SafeName id := by
  obtain ⟨counter, now, name, -, hsafe, rfl⟩ := h.made id hid
  exact hsafe.scheduledEventID

theorem ne_empty (h : r.Inv) (hid : id ∈ r.ids) : id ≠ "" := by
  obtain ⟨counter, now, name, -, -, rfl⟩ := h.made id hid
  exact scheduledEventID_ne_empty

theorem plain (h : r.Inv) (hid : id ∈ r.ids) : Plain id :=
  ⟨h.ne_empty hid, (h.safeName hid).slash, (h.safeName hid).bracket⟩

theorem leaf_not_mem (h : r.Inv) {leaf : String} (hleaf : leaf ∈ leafNames) :
    leaf ∉ r.ids := by
  intro hmem
  obtain ⟨counter, now, name, -, -, rfl⟩ := h.made leaf hmem
  exact (plain_of_mem_leafNames hleaf).2.2.2 dash_mem_scheduledEventID

theorem next_not_mem (h : r.Inv) {now : ℤ} {name : String} :
    scheduledEventID r.scheduledEventCounter now name ∉ r.ids := by
  intro hmem
  obtain ⟨counter, now', name', hlt, -, heq⟩ := h.made _ hmem
  exact absurd (counter_of_scheduledEventID heq) (Nat.ne_of_gt hlt)

/-! ## Taking out -/

theorem remove (h : r.Inv)
    (hentries : r'.scheduledEvents = r.scheduledEvents.filter fun x => x.id ≠ id)
    (hchildren : r'.monitorNode.children =
      r.monitorNode.children.filter fun child => child.name ≠ id)
    (hcounter : r'.scheduledEventCounter = r.scheduledEventCounter) : r'.Inv := by
  have hids : r'.ids = r.ids.filter (· ≠ id) := by
    rw [ids, hentries, KeyedList.map_filter_ne]
    rfl
  have hsub {other : String} (hmem : other ∈ r'.ids) : other ∈ r.ids := by
    rw [hids] at hmem
    exact mem_of_mem_filter hmem
  exact {
    childNames_eq := by
      rw [hids, childNames, hchildren, KeyedList.map_filter_ne, ← h.childNames_eq]
      rfl
    nodup := by
      rw [hids]
      exact h.nodup.filter _
    nodes := fun child hmem => by
      rw [hchildren] at hmem
      exact h.nodes child (mem_of_mem_filter hmem)
    made := fun other hmem => by
      rw [hcounter]
      exact h.made other (hsub hmem) }

/-- **Removal by an id.** Under the condition, the entry with the id and its node go, and
nothing else. -/
theorem removeEvent_eq (h : r.Inv) (hguard : r.LeadsToNoOther id) :
    (r.removeEvent id).scheduledEvents = (r.scheduledEvents.filter fun x => x.id ≠ id) ∧
      (r.removeEvent id).monitorNode.children =
        r.monitorNode.children.filter fun child => child.name ≠ id := by
  by_cases hid : id ∈ r.ids
  · -- the id is a plain path, so it leads to its own node
    rcases hfound : r.monitorNode.getProperty id with - | ⟨place, node⟩
    · rw [h.distinct.getProperty_eq_none_iff (h.plain hid), h.childNames_eq] at hfound
      exact absurd hid hfound
    · obtain ⟨-, rfl, hchildren⟩ := h.distinct.of_getProperty_eq_some (h.plain hid) hfound
      simp only [EventRunner.removeEvent, hfound, removeEventInternal, hchildren, and_true]
      exact eraseP_id h.nodup _
  · have hname : id ∉ r.monitorNode.childNames := h.childNames_eq ▸ hid
    rw [KeyedList.filter_eq_self_of_not_mem hid, KeyedList.filter_eq_self_of_not_mem hname]
    have hinternal {name : String} (hnot : name ∉ r.ids) :
        (r.scheduledEvents.eraseP fun x => x.id = name) = r.scheduledEvents := by
      rw [eraseP_id h.nodup, KeyedList.filter_eq_self_of_not_mem hnot]
    rcases hfound : r.monitorNode.getProperty id with - | ⟨place, node⟩
    · simp only [EventRunner.removeEvent, hfound, removeEventInternal, hinternal hid, and_self]
    · have hnot : node.name ∉ r.ids := by
        by_cases hself : node.name = id
        · rwa [hself]
        · exact hguard place node hfound hself
      have hkept : r.monitorNode.removeChild place = r.monitorNode := by
        rcases place with - | ⟨i, - | ⟨j, place⟩⟩
        · rfl
        · have hmem := mem_children_of_getProperty hfound
          rw [← h.childNames_eq] at hnot
          exact absurd (mem_map_of_mem hmem) hnot
        · rfl
      simp only [EventRunner.removeEvent, hfound, removeEventInternal, hinternal hnot, hkept,
        and_self]

theorem scheduledEventCounter_removeEvent :
    (r.removeEvent id).scheduledEventCounter = r.scheduledEventCounter := by
  rw [EventRunner.removeEvent]
  split <;> rfl

theorem removeEvent (h : r.Inv) (hguard : r.LeadsToNoOther id) :
    (r.removeEvent id).Inv :=
  h.remove (h.removeEvent_eq hguard).1 (h.removeEvent_eq hguard).2
    scheduledEventCounter_removeEvent

theorem leadsToNoOther (h : r.Inv) (hid : Plain id) : r.LeadsToNoOther id := by
  intro place node hfound hne
  exact absurd (h.distinct.of_getProperty_eq_some hid hfound).2.1 hne

theorem foldl_removeEvent (h : r.Inv) {removeIDs : List String}
    (hplain : ∀ id ∈ removeIDs, Plain id) : (removeIDs.foldl EventRunner.removeEvent r).Inv := by
  induction removeIDs generalizing r with
  | nil => exact h
  | cons id removeIDs ih =>
    refine ih (h.removeEvent (h.leadsToNoOther (hplain id mem_cons_self))) ?_
    exact fun other hmem => hplain other (mem_cons_of_mem _ hmem)

/-! ## Adding -/

theorem addEvent_merged {x : ScheduledEvent S} (hmerges : r.Merges x.event) :
    (r.addEvent x).2 = none ∧ (r.addEvent x).1.ids = r.ids ∧
      (r.addEvent x).1.monitorNode = r.monitorNode ∧
      (r.addEvent x).1.scheduledEventCounter = r.scheduledEventCounter := by
  rw [Merges] at hmerges
  rw [EventRunner.addEvent, if_pos hmerges]
  exact ⟨rfl, map_replaceFirst fun _ => rfl, rfl, rfl⟩

theorem isWrite_setText (text : String) : IsWrite (setText text) := fun _ => ⟨_, rfl⟩

theorem addEvent_new {x : ScheduledEvent S} (hr : r'.Mirrors)
    (hnodes : ∀ child ∈ r'.monitorNode.children, child.IsEntryNode)
    (hmerges : ¬ r'.Merges x.event) (hnew : x.id ∉ r'.ids) (hsafe : SafeName x.id)
    (hempty : x.id ≠ "") :
    (r'.addEvent x).2 = none ∧ (r'.addEvent x).1.Mirrors ∧
      (∀ child ∈ (r'.addEvent x).1.monitorNode.children, child.IsEntryNode) ∧
      (r'.addEvent x).1.ids = r'.ids ++ [x.id] ∧
      (r'.addEvent x).1.scheduledEventCounter = r'.scheduledEventCounter := by
  have hpath : (x.id ++ "/id").toList = x.id.toList ++ '/' :: "id".toList := by simp
  have hpath' : (x.id ++ "/name").toList = x.id.toList ++ '/' :: "name".toList := by simp
  obtain ⟨monitor, hid, hmonitor, hnames⟩ := createProperty_entry hnodes
    (isWrite_setText x.id) hsafe hempty (by decide) hpath
  obtain ⟨monitor', hname, hmonitor', hnames'⟩ := createProperty_entry hmonitor
    (isWrite_setText x.event.name) hsafe hempty (by decide) hpath'
  rw [hr.childNames_eq, if_neg hnew] at hnames
  rw [hnames, if_pos (mem_append_right _ (mem_singleton_self _))] at hnames'
  have hids : (r'.scheduledEvents ++ [x]).map ScheduledEvent.id = r'.ids ++ [x.id] := by
    rw [map_append]
    rfl
  rw [Merges] at hmerges
  rw [EventRunner.addEvent, if_neg hmerges]
  simp only [hid, hname]
  refine ⟨trivial, ⟨?_, ?_⟩, hmonitor', hids, trivial⟩
  · exact hnames'.trans hids.symm
  · rw [ids, hids]
    refine nodup_append.mpr ⟨hr.nodup, nodup_singleton _, ?_⟩
    rintro id hmem _ hself rfl
    exact hnew (mem_singleton.mp hself ▸ hmem)

theorem addEvent (h : r.Inv) (now : ℤ) {e : Event} (schedule : Schedule S)
    (hmerges : ¬ r.Merges e) (hsafe : SafeName e.name)
    (hr : r' = { r with scheduledEventCounter := r.scheduledEventCounter + 1 }) :
    (r'.addEvent (r.scheduledEvent now e schedule)).2 = none ∧
      (r'.addEvent (r.scheduledEvent now e schedule)).1.Inv ∧
      (r'.addEvent (r.scheduledEvent now e schedule)).1.ids =
        r.ids ++ [(r.scheduledEvent now e schedule).id] := by
  have hmirrors : r'.Mirrors := hr ▸ ⟨h.childNames_eq, h.nodup⟩
  have hids : r'.ids = r.ids := by rw [hr]; rfl
  obtain ⟨hnone, hmirrors', hnodes, hadded, hcounter⟩ :=
    addEvent_new (x := r.scheduledEvent now e schedule) hmirrors
      (by rw [hr]; exact h.nodes) (by rw [hr]; exact hmerges) (by rw [hids]; exact h.next_not_mem)
      hsafe.scheduledEventID scheduledEventID_ne_empty
  rw [hids] at hadded
  refine ⟨hnone, { toMirrors := hmirrors', nodes := hnodes, made := ?_ }, hadded⟩
  intro id hmem
  have hcounter' : (r'.addEvent (r.scheduledEvent now e schedule)).1.scheduledEventCounter =
      r.scheduledEventCounter + 1 := by rw [hcounter, hr]
  rw [hadded, mem_append, mem_singleton] at hmem
  rw [hcounter']
  rcases hmem with hold | rfl
  · obtain ⟨counter, now', name, hlt, hmade⟩ := h.made id hold
    exact ⟨counter, now', name, Nat.lt_succ_of_lt hlt, hmade⟩
  · exact ⟨r.scheduledEventCounter, now, e.name, Nat.lt_succ_self _, hsafe, rfl⟩

theorem pushEvent (h : r.Inv) {now : ℤ} {e : Event} (hguard : Guard rt r (.pushEvent now e)) :
    (r.pushEvent rt now e).1.Inv := by
  rw [EventRunner.pushEvent]
  rcases hschedule : scheduleFromEvent rt now e with - | schedule
  · exact h.congr rfl rfl le_rfl
  · by_cases hmerges : r.Merges e
    · obtain ⟨-, hids, hmonitor, hcounter⟩ := addEvent_merged
        (r := { r with scheduledEventCounter := r.scheduledEventCounter + 1 })
        (x := r.scheduledEvent now e schedule) hmerges
      exact h.congr hids hmonitor (by rw [hcounter]; exact Nat.le_succ _)
    · have hsafe := (hguard (by rw [hschedule]; rfl)).resolve_left hmerges
      exact (h.addEvent now schedule hmerges hsafe rfl).2.1

theorem pushTimedEvent (h : r.Inv) {now : ℤ} {e : Event}
    (hguard : Guard rt r (.pushTimedEvent now e)) :
    CallLaw rt r (.pushTimedEvent now e) ∧ (r.pushTimedEvent rt now e).1.Inv := by
  simp only [CallLaw, EventRunner.pushTimedEvent]
  rcases hschedule : scheduleFromEvent rt now e with - | schedule
  · exact ⟨nofun, h⟩
  · obtain ⟨hmerges, hsafe⟩ := hguard (by rw [hschedule]; rfl)
    have hadded := h.addEvent now schedule hmerges hsafe rfl
    rcases hresult : EventRunner.addEvent
        { r with scheduledEventCounter := r.scheduledEventCounter + 1 }
        (r.scheduledEvent now e schedule) with ⟨r', failure⟩
    rw [hresult] at hadded
    obtain ⟨rfl, hinv, hids⟩ := hadded
    simp only [hresult]
    refine ⟨fun _ => ⟨_, rfl, ?_⟩, hinv⟩
    rw [hids]
    exact mem_append_right _ (mem_singleton_self _)

/-! ## Raising -/

/-- What the loop keeps; `names` are the ids of all entries. -/
structure Raising (names : List String) (xs : List (ScheduledEvent S)) (raised : Raised S) :
    Prop where
  ids_eq : (raised.scheduledEvents ++ xs).map ScheduledEvent.id = names
  childNames_eq : raised.monitorNode.childNames = names
  nodes : ∀ child ∈ raised.monitorNode.children, child.IsEntryNode
  removeIDs_subset : ∀ id ∈ raised.removeIDs, id ∈ names
  failure_eq : raised.failure = none

theorem showOccurence_spec {now next : ℤ} {monitor : PropertyNode}
    (hnodes : ∀ child ∈ monitor.children, child.IsEntryNode) (hsafe : SafeName id)
    (hempty : id ≠ "") (hid : id ∈ monitor.childNames) :
    ∃ monitor', showOccurence rt now next id monitor = (monitor', none) ∧
      (∀ child ∈ monitor'.children, child.IsEntryNode) ∧
      monitor'.childNames = monitor.childNames := by
  have hpath : (id ++ "/time").toList = id.toList ++ '/' :: "time".toList := by simp
  have hpath' : (id ++ "/ticks").toList = id.toList ++ '/' :: "ticks".toList := by simp
  have hticks : IsWrite fun node =>
      { node with value := .integer (DateTime.difference next now) } := fun _ => ⟨_, rfl⟩
  obtain ⟨made, hmade, hmadeNodes, hmadeNames⟩ := createProperty_entry hnodes
    (isWrite_setText (rt.dateToString next)) hsafe hempty (by decide) hpath
  rw [if_pos hid] at hmadeNames
  simp only [showOccurence]
  split_ifs
  · obtain ⟨monitor', hwrite, hnodes', hnames'⟩ :=
      createProperty_entry hmadeNodes hticks hsafe hempty (by decide) hpath'
    rw [hmadeNames, if_pos hid] at hnames'
    simp only [hmade, hwrite]
    exact ⟨monitor', rfl, hnodes', hnames'⟩
  · obtain ⟨monitor', hwrite, hnodes', hnames'⟩ :=
      createProperty_entry hnodes hticks hsafe hempty (by decide) hpath'
    rw [if_pos hid] at hnames'
    simp only [hwrite]
    exact ⟨monitor', rfl, hnodes', hnames'⟩

theorem Raising.raiseLoop (rt : ScheduleRuntime S) (now : ℤ) {names : List String}
    {xs : List (ScheduledEvent S)}
    {raised : Raised S} (h : Raising names xs raised)
    (hsafe : ∀ id ∈ names, SafeName id ∧ id ≠ "") :
    Raising names [] (raiseLoop rt now xs raised) := by
  induction xs generalizing raised with
  | nil => exact h
  | cons x xs ih =>
    have hmem : x.id ∈ names := by
      rw [← h.ids_eq, map_append]
      exact mem_append_right _ mem_cons_self
    have hids (y : ScheduledEvent S) (hy : y.id = x.id) :
        ((raised.scheduledEvents ++ [y]) ++ xs).map ScheduledEvent.id = names := by
      rw [← h.ids_eq]
      simp [hy]
    have hremove : ∀ id ∈ raised.removeIDs ++ [x.id], id ∈ names := by
      intro id hid
      rcases mem_append.mp hid with hold | hself
      · exact h.removeIDs_subset id hold
      · exact mem_singleton.mp hself ▸ hmem
    obtain ⟨monitor, hshow, hnodes, hchildren⟩ := @showOccurence_spec S rt x.id now
      (x.schedule.getNextOccurence rt now).1 raised.monitorNode h.nodes (hsafe _ hmem).1
      (hsafe _ hmem).2 (h.childNames_eq ▸ hmem)
    rw [h.childNames_eq] at hchildren
    -- the entry is passed with its id, whatever happens to its event
    have hpassed {y : ScheduledEvent S} {queue : List Event} {removeIDs : List String}
        (hy : y.id = x.id) (hsubset : ∀ id ∈ removeIDs, id ∈ names) :
        Raising names xs {
          scheduledEvents := raised.scheduledEvents ++ [y]
          monitorNode := monitor
          eventQueue := queue
          removeIDs := removeIDs
          failure := raised.failure } :=
      ⟨hids y hy, hchildren, hnodes, hsubset, h.failure_eq⟩
    rw [EventRunner.raiseLoop]
    simp only [hshow]
    split_ifs with hnull hdue hrecurrence hlast hlast
    · exact ih ⟨hids _ rfl, h.childNames_eq, h.nodes, hremove, h.failure_eq⟩
    · exact ih (hpassed rfl hremove)
    · exact ih (hpassed rfl h.removeIDs_subset)
    · exact ih (hpassed rfl hremove)
    · exact absurd rfl hlast
    · exact ih (hpassed rfl h.removeIDs_subset)

theorem raisePendingEvents (h : r.Inv) (rt : ScheduleRuntime S) (now : ℤ) :
    (r.raisePendingEvents rt now).2 = none ∧ (r.raisePendingEvents rt now).1.Inv := by
  have hsafe : ∀ id ∈ r.ids, SafeName id ∧ id ≠ "" :=
    fun id hid => ⟨h.safeName hid, h.ne_empty hid⟩
  have hraising : Raising r.ids r.scheduledEvents
      { monitorNode := r.monitorNode, eventQueue := r.eventQueue } :=
    ⟨rfl, h.childNames_eq, h.nodes, fun _ hmem => absurd hmem not_mem_nil, rfl⟩
  have hraised := hraising.raiseLoop rt now hsafe
  rw [EventRunner.raisePendingEvents]
  simp only [hraised.failure_eq]
  have hids := hraised.ids_eq
  rw [append_nil] at hids
  refine ⟨trivial, foldl_removeEvent ?_ fun id hid => h.plain (hraised.removeIDs_subset id hid)⟩
  exact {
    childNames_eq := hraised.childNames_eq.trans hids.symm
    nodup := by
      rw [ids, hids]
      exact h.nodup
    nodes := hraised.nodes
    made := fun id hid => by
      rw [ids, hids] at hid
      exact h.made id hid }

/-! ## Nodes removed from outside -/

theorem removeNodeAt_entry {node node' : PropertyNode} {place : List ℕ} {name : String}
    (hnode : node.IsEntryNode) (hremoved : removeNodeAt node place = some (name, node')) :
    name ∈ leafNames ∧ node'.name = node.name ∧ node'.IsEntryNode := by
  rcases place with - | ⟨i, place⟩
  · cases hremoved
  · rw [removeNodeAt] at hremoved
    rcases hleaf : node.children[i]? with - | leaf
    · rw [hleaf] at hremoved
      cases hremoved
    · have hmem := mem_of_getElem? hleaf
      obtain ⟨hname, hchildren⟩ := hnode.leaves leaf hmem
      simp only [hleaf] at hremoved
      split_ifs at hremoved with hlast
      · cases hremoved
        exact ⟨hname, rfl, hnode.index_eq,
          fun other hother => hnode.leaves other (mem_of_mem_eraseIdx hother)⟩
      · -- there is nothing below
        obtain ⟨⟨name', leaf'⟩, hbelow, -⟩ := map_eq_some_iff.mp hremoved
        rcases place with - | ⟨j, place⟩
        · exact absurd rfl hlast
        · rw [removeNodeAt, hchildren] at hbelow
          cases hbelow

theorem removeNode (h : r.Inv) {place : List ℕ} : (r.removeNode place).Inv := by
  rw [EventRunner.removeNode]
  rcases hremoved : removeNodeAt r.monitorNode place with - | ⟨name, monitor⟩
  · exact h
  · rcases place with - | ⟨i, place⟩
    · cases hremoved
    · rw [removeNodeAt] at hremoved
      rcases hchild : r.monitorNode.children[i]? with - | child
      · rw [hchild] at hremoved
        cases hremoved
      · simp only [hchild] at hremoved
        split_ifs at hremoved with hlast
        · -- a node of an entry: the entry goes with it
          cases hremoved
          exact h.remove (eraseP_id h.nodup child.name)
            (KeyedList.eraseIdx_eq_filter h.distinct.nodup hchild) rfl
        · -- a node below one: no entry has its name
          obtain ⟨⟨name', child'⟩, hbelow, heq⟩ := map_eq_some_iff.mp hremoved
          cases heq
          obtain ⟨hleaf, hname, hentry⟩ :=
            removeNodeAt_entry (h.nodes child (mem_of_getElem? hchild)) hbelow
          have hkept : (r.scheduledEvents.eraseP fun x => x.id = name') = r.scheduledEvents := by
            rw [eraseP_id h.nodup, KeyedList.filter_eq_self_of_not_mem (h.leaf_not_mem hleaf)]
          have hids : EventRunner.ids (removeEventInternal { r with
              monitorNode :=
                { r.monitorNode with children := r.monitorNode.children.set i child' } } name') =
              r.ids := by
            rw [removeEventInternal, hkept]
            rfl
          exact {
            childNames_eq := by
              rw [hids, ← h.childNames_eq]
              exact childNames_set hchild hname
            nodup := by
              rw [hids]
              exact h.nodup
            nodes := fun other hmem => by
              rcases mem_or_eq_of_mem_set hmem with hold | rfl
              · exact h.nodes other hold
              · exact hentry
            made := fun id hid => by
              rw [hids] at hid
              exact h.made id hid }

/-! ## Runs -/

theorem step (h : r.Inv) {call : Call} (hguard : Guard rt r call) :
    CallLaw rt r call ∧ (r.step rt call).Inv := by
  cases call with
  | pushEvent now e => exact ⟨trivial, h.pushEvent hguard⟩
  | pushTimedEvent now e => exact h.pushTimedEvent hguard
  | removeEvent id => exact ⟨h.removeEvent_eq hguard, h.removeEvent hguard⟩
  | removeEventByName name =>
    refine ⟨trivial, h.congr ?_ rfl le_rfl⟩
    have hkept : (r.scheduledEvents.filter fun x => x.event.name ≠ name) = r.scheduledEvents :=
      filter_eq_self.mpr fun x hx => decide_eq_true (hguard x hx)
    rw [EventRunner.step, removeEventByName, ids, hkept]
    rfl
  | raisePendingEvents now => exact ⟨trivial, (h.raisePendingEvents rt now).2⟩
  | removeNode place => exact ⟨trivial, h.removeNode⟩

end Inv

theorem Inv.lawfulRun (h : r.Inv) {calls : List Call} (hguard : GuardedRun rt r calls) :
    LawfulRun rt r calls := by
  induction calls generalizing r with
  | nil => exact h.toMirrors
  | cons call calls ih =>
    obtain ⟨hlaw, hinv⟩ := h.step hguard.1
    exact ⟨h.toMirrors, hlaw, ih hinv hguard.2⟩

/-- **Scheduled events and their nodes.** In a run that meets the condition, every state has
one node for each entry, an id that is returned is scheduled, and an id that is removed
takes out its own entry and node. -/
theorem mirrors_of_guardedRun (rt : ScheduleRuntime S) {r : EventRunner S} (h : r.Start)
    {calls : List Call} (hguard : GuardedRun rt r calls) : LawfulRun rt r calls :=
  h.inv.lawfulRun hguard

/-! ## Single runs -/

def wakeRuntime : ScheduleRuntime Unit where
  parseRFC2445 _ := none
  dateToString _ := "1970-01-01 00:00:22"
  iCalSchedule _ _ _ := ()
  getNextOccurence _ _ := (0, ())
  leapAdjust _ _ := ()

def wakeEvent (name : String) : Event := { name := name, time := some "+5" }

def noEvents : EventRunner Unit := { monitorNode := { name := "ScheduledEvents" } }

theorem noEvents_start : noEvents.Start := ⟨rfl, rfl⟩

theorem mirrors_wake : LawfulRun wakeRuntime noEvents
    [.pushTimedEvent 17 (wakeEvent "wake"), .raisePendingEvents 18,
      .removeEvent "0-17_wake"] := by
  have hpush : Guard wakeRuntime noEvents (.pushTimedEvent 17 (wakeEvent "wake")) := by
    refine fun _ => ⟨?_, by decide, by decide, by decide, by decide⟩
    rintro ⟨-, hany⟩
    cases hany
  have hpushed := (noEvents_start.inv.step hpush).2
  have hraised := (hpushed.raisePendingEvents wakeRuntime 18).2
  refine mirrors_of_guardedRun wakeRuntime noEvents_start ⟨hpush, trivial, ?_, trivial⟩
  exact hraised.leadsToNoOther (by decide)

/-- Removal by the name leaves the node, a timed event that is merged has no entry, and
a slash or a plus makes other nodes. -/
theorem mirrors_fails :
    ¬ LawfulRun wakeRuntime noEvents
        [.pushTimedEvent 17 (wakeEvent "wake"), .removeEventByName "wake"] ∧
      ¬ LawfulRun wakeRuntime noEvents
        [.pushTimedEvent 17 ((wakeEvent "wake").setProperty "unique" "1"),
          .pushTimedEvent 17 ((wakeEvent "wake").setProperty "unique" "1")] ∧
      ¬ LawfulRun wakeRuntime noEvents [.pushTimedEvent 17 (wakeEvent "a/b")] ∧
      ¬ LawfulRun wakeRuntime noEvents [.pushTimedEvent 17 (wakeEvent "a+")] := by
  refine ⟨?_, ?_, ?_, ?_⟩
  · intro h
    exact absurd h.2.2.2.2.childNames_eq (by decide +kernel)
  · intro h
    obtain ⟨id, hid, hmem⟩ := h.2.2.2.1 rfl
    -- the id of the entry that was deleted
    have hreturned : id = "1-17_wake" := Except.ok.inj (hid.symm.trans rfl)
    rw [hreturned] at hmem
    revert hmem
    decide +kernel
  · intro h
    exact absurd h.2.2.childNames_eq (by decide +kernel)
  · intro h
    exact absurd h.2.2.childNames_eq (by decide +kernel)

end EventRunner

end Dss
