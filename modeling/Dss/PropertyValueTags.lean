import Dss.BackReferences
import Dss.PropertyParser
import Dss.Transition

/-!
# The types of property values

A node keeps the type of its value in a tag, beside a union with one member for each type, and
another union with the pointers to proxies. A setter stores a member and sets the tag; reads and
writes go to the proxy while it is linked. When it is unlinked, its type stays, and so does what was
stored before. `setStringValue` with the null pointer sets the tag, too, and stores nothing.

What is read from a member that was not stored has no meaning. A call that follows a cycle of
aliases, or a pointer that is none, gives nothing. A proxy is taken for a place elsewhere that
holds a value of its type. Listeners and the lists of aliases are left out.
-/

namespace Dss

open List Option

namespace PropertyValues

open PropertyTree Transition

/-! ## One node -/

/-- `PropertyProxy`, with the value behind it. -/
structure Proxy : Type where
  /-- what `getValue` returns -/
  value : PropertyValue
  typed : valueType value ≠ .none

/-- The part of `PropertyNode` that has to do with its value. -/
structure ValueNode : Type where
  name : String
  /-- `m_PropVal.valueType` -/
  tag : ValueType := .none
  /-- `m_PropVal.actualValue`: the member that was stored last, if any since it was cleared -/
  actualValue : PropertyValue := .none
  proxy : Option Proxy := none
  aliasTarget : Option ℕ := none
  /-- `m_ChildNodes` -/
  children : List ℕ := []

/-- What a getter comes to. -/
inductive Reading (A : Type) : Type where
  | value : A → Reading A
  | throws : Exception → Reading A
  | foreign : Reading A

def Reading.map {A B : Type} (f : A → B) : Reading A → Reading B
  | .value a => .value (f a)
  | .throws e => .throws e
  | .foreign => .foreign

namespace ValueNode

def mismatch (n : ValueNode) : Exception := .typeMismatch ("Property-Type mismatch: " ++ n.name)

/-- `clearValue`. What is freed must be the text, or the null pointer. -/
def clearValue (n : ValueNode) : Option ValueNode :=
  if n.tag = .string ∧ valueType n.actualValue ≠ .string ∧ valueType n.actualValue ≠ .none then none
  else some { n with tag := .none, actualValue := .none }

/-- What the setters have in common; the value is none for the null pointer, of which no proxy
can be given a text. -/
def setValue (n : ValueNode) (type : ValueType) (value : PropertyValue) :
    Option (ValueNode × Option Exception) :=
  match n.proxy with
  | some p =>
    if n.tag = type then
      if valueType p.value = type then
        if h : valueType value ≠ .none then
          some ({ n with proxy := some ⟨value, h⟩, tag := type }, none)
        else none
      else none
    else some (n, some n.mismatch)
  | none => n.clearValue.map fun n => ({ n with actualValue := value, tag := type }, none)

def getValue (n : ValueNode) (type : ValueType) : Reading PropertyValue :=
  if n.tag = type then
    match n.proxy with
    | some p => if valueType p.value = type then .value p.value else .foreign
    | none => if valueType n.actualValue = type then .value n.actualValue else .foreign
  else .throws n.mismatch

def getAsString (doubleToString : Float → String) (n : ValueNode) : Reading String :=
  if n.tag = .none then .value ""
  else
    (n.getValue n.tag).map fun value =>
      PropertyNode.getAsString doubleToString { name := n.name, value := value }

/-- `linkToProxy`, for the type of the proxy -/
def linkToProxy (n : ValueNode) (p : Proxy) : ValueNode :=
  if n.proxy.isSome ∨ n.aliasTarget.isSome then n
  else { n with proxy := some p, tag := valueType p.value }

end ValueNode

/-! ## The nodes -/

structure Values : Type where
  nodes : ℕ → ValueNode
  size : ℕ

namespace Values

def aliasTarget (v : Values) (x : ℕ) : Option ℕ := (v.nodes x).aliasTarget

def set (v : Values) (x : ℕ) (n : ValueNode) : Values :=
  { v with nodes := Function.update v.nodes x n }

def resolve (v : Values) (x : ℕ) : Option ℕ := BackReferences.last v.aliasTarget v.size x

def setValue (v : Values) (x : ℕ) (type : ValueType) (value : PropertyValue) :
    Option (Values × Option Exception) :=
  (v.resolve x).bind fun y =>
    ((v.nodes y).setValue type value).map fun result => (v.set y result.1, result.2)

def setStringValue (v : Values) (x : ℕ) (value : Option String) :
    Option (Values × Option Exception) :=
  v.setValue x .string (value.elim .none .string)

def setIntegerValue (v : Values) (x : ℕ) (value : ℤ) : Option (Values × Option Exception) :=
  v.setValue x .integer (.integer value)

def setUnsignedIntegerValue (v : Values) (x : ℕ) (value : ℕ) :
    Option (Values × Option Exception) :=
  v.setValue x .unsignedInteger (.unsigned value)

def setBooleanValue (v : Values) (x : ℕ) (value : Bool) : Option (Values × Option Exception) :=
  v.setValue x .boolean (.boolean value)

def setFloatingValue (v : Values) (x : ℕ) (value : Float) : Option (Values × Option Exception) :=
  v.setValue x .floating (.floating value)

/-- What the typed getters have in common: `getStringValue`, `getIntegerValue`,
`getUnsignedIntegerValue`, `getBoolValue` and `getFloatingValue`, by their type. -/
def getValue (v : Values) (x : ℕ) (type : ValueType) : Option (Reading PropertyValue) :=
  (v.resolve x).map fun y => (v.nodes y).getValue type

def getAsString (doubleToString : Float → String) (v : Values) (x : ℕ) :
    Option (Reading String) :=
  (v.resolve x).map fun y => (v.nodes y).getAsString doubleToString

/-- `getValueType`, which does not go on if the target is an alias itself. -/
def getValueType (v : Values) (x : ℕ) : ValueType :=
  match v.aliasTarget x with
  | some t => (v.nodes t).tag
  | none => (v.nodes x).tag

/-- What `saveAsXML` writes as the value, if anything. -/
def savedValue (doubleToString : Float → String) (v : Values) (x : ℕ) :
    Option (Option (Reading String)) :=
  if v.getValueType x = .none then some none
  else (v.getAsString doubleToString x).map some

def linkToProxy (v : Values) (x : ℕ) (p : Proxy) : Values := v.set x ((v.nodes x).linkToProxy p)

/-- The end of `unlinkProxy`. A proxy is deleted by the pointer of its type, and there must be
one. -/
def unlink (v : Values) (x : ℕ) : Option Values :=
  match (v.nodes x).proxy with
  | none => some v
  | some p =>
    if v.getValueType x = valueType p.value then some (v.set x { v.nodes x with proxy := none })
    else none

/-- The nodes that a recursive call visits: those below a child before the next one, and the node
itself in the end. -/
def subtree (v : Values) : ℕ → ℕ → List ℕ
  | 0, _ => []
  | fuel + 1, x => (v.nodes x).children.flatMap (v.subtree fuel) ++ [x]

/-- The nodes that `unlinkProxy` visits. -/
def visited (v : Values) (x : ℕ) (recurse : Bool) : List ℕ :=
  if recurse then v.subtree v.size x else [x]

def unlinkProxy (v : Values) (x : ℕ) (recurse : Bool) : Option Values :=
  (v.visited x recurse).foldlM unlink v

/-- `alias` -/
def aliasTo (v : Values) (x : ℕ) (target : Option ℕ) : Option (Values × Option Exception) :=
  if (v.nodes x).children ≠ [] then
    some (v, some (.runtimeError "Cannot alias node if it has children"))
  else if (v.nodes x).proxy.isSome then
    some (v, some (.runtimeError "Cannot alias node if it is linked to a proxy"))
  else
    match target with
    | none => some (v.set x { v.nodes x with aliasTarget := none }, none)
    | some t =>
      (v.nodes x).clearValue.map fun n => (v.set x { n with aliasTarget := some t }, none)

end Values

/-! ## Runs -/

/-- What is done to the nodes. -/
inductive ValueOperation : Type where
  /-- `setStringValue(value)`, with the null pointer for none -/
  | setStringValue (x : ℕ) (value : Option String)
  | setIntegerValue (x : ℕ) (value : ℤ)
  | setUnsignedIntegerValue (x : ℕ) (value : ℕ)
  | setBooleanValue (x : ℕ) (value : Bool)
  | setFloatingValue (x : ℕ) (value : Float)
  | linkToProxy (x : ℕ) (p : Proxy)
  | unlinkProxy (x : ℕ) (recurse : Bool)
  /-- `alias(target)` -/
  | aliasTo (x : ℕ) (target : Option ℕ)

def ValueOperation.given : ValueOperation → List ℕ
  | .setStringValue x _ | .setIntegerValue x _ | .setUnsignedIntegerValue x _
  | .setBooleanValue x _ | .setFloatingValue x _ | .linkToProxy x _ | .unlinkProxy x _ => [x]
  | .aliasTo x target => x :: target.toList

def perform (v : Values) : ValueOperation → Option Values
  | .setStringValue x value => (v.setStringValue x value).map Prod.fst
  | .setIntegerValue x value => (v.setIntegerValue x value).map Prod.fst
  | .setUnsignedIntegerValue x value => (v.setUnsignedIntegerValue x value).map Prod.fst
  | .setBooleanValue x value => (v.setBooleanValue x value).map Prod.fst
  | .setFloatingValue x value => (v.setFloatingValue x value).map Prod.fst
  | .linkToProxy x p => some (v.linkToProxy x p)
  | .unlinkProxy x recurse => v.unlinkProxy x recurse
  | .aliasTo x target => (v.aliasTo x target).map Prod.fst

/-- One operation on nodes that are there; nothing is reached behind one that gives nothing. -/
def step (s : Option Values) (op : ValueOperation) : Option Values :=
  s.bind fun v => if op.given.all (· < v.size) then perform v op else some v

def start (size : ℕ) (name : ℕ → String) (children : ℕ → List ℕ) : Values :=
  { nodes := fun x => { name := name x, children := children x }, size := size }

/-- The tag agrees with what was stored last: the proxy while there is one, and the member of the
union of the values otherwise. -/
def ValueNode.Agrees (n : ValueNode) : Prop :=
  n.tag = match n.proxy with
    | some p => valueType p.value
    | none => valueType n.actualValue

/-- What is read was stored under the same type, or else the access throws. -/
structure Law (v : Values) : Prop where
  tags : ∀ x, (v.nodes x).Agrees
  getters : ∀ x type, v.getValue x type ≠ some .foreign
  /-- `getAsString` does not -/
  text : ∀ doubleToString x, v.getAsString doubleToString x ≠ some .foreign
  /-- `saveAsXML` does not -/
  saved : ∀ doubleToString x, v.savedValue doubleToString x ≠ some (some .foreign)
  throws : ∀ x y type, v.resolve x = some y → type ≠ (v.nodes y).tag →
    v.getValue x type = some (.throws (v.nodes y).mismatch)

/-- The law, of every state that is reached. -/
def Lawful (s : Option Values) : Prop := ∀ v, s = some v → Law v

/-- A proxy is unlinked only from a node in which a value of its type was stored last; and no
node without a proxy is given the null pointer for a text. -/
def Fits (s : Option Values) : ValueOperation → Prop
  | .setStringValue x none => ∀ v, s = some v → x < v.size → ∀ y, v.resolve x = some y →
      (v.nodes y).proxy ≠ none
  | .unlinkProxy x recurse => ∀ v, s = some v → x < v.size → ∀ y ∈ v.visited x recurse,
      ∀ p, (v.nodes y).proxy = some p → valueType (v.nodes y).actualValue = valueType p.value
  | _ => True

variable {v v' : Values} {n n' : ValueNode} {x y : ℕ} {type : ValueType} {value : PropertyValue}
  {failure : Option Exception} {op : ValueOperation}

/-! ## What agreeing tags are good for -/

theorem ValueNode.Agrees.getValue_ne (h : n.Agrees) (type : ValueType) :
    n.getValue type ≠ .foreign := by
  rw [ValueNode.Agrees] at h
  rw [ValueNode.getValue]
  by_cases htag : n.tag = type
  · rw [if_pos htag]
    rcases hproxy : n.proxy with - | p
    · rw [hproxy] at h
      rw [if_pos (h.symm.trans htag)]
      exact fun heq => by cases heq
    · rw [hproxy] at h
      dsimp only at h ⊢
      rw [if_pos (h.symm.trans htag)]
      exact fun heq => by cases heq
  · rw [if_neg htag]
    exact fun heq => by cases heq

theorem ValueNode.Agrees.getAsString_ne {doubleToString : Float → String} (h : n.Agrees) :
    n.getAsString doubleToString ≠ .foreign := by
  rw [ValueNode.getAsString]
  split_ifs
  · exact fun heq => by cases heq
  · have hne := h.getValue_ne n.tag
    intro heq
    rcases hget : n.getValue n.tag with a | e | -
    · rw [hget] at heq
      cases heq
    · rw [hget] at heq
      cases heq
    · exact hne hget

theorem ValueNode.getValue_of_ne (htag : type ≠ n.tag) :
    n.getValue type = .throws n.mismatch :=
  if_neg htag.symm

theorem law_iff : Law v ↔ ∀ x, (v.nodes x).Agrees := by
  constructor
  · exact fun hlaw => hlaw.tags
  · intro htags
    have htext : ∀ doubleToString x, v.getAsString doubleToString x ≠ some .foreign := by
      intro doubleToString x heq
      obtain ⟨y, -, hread⟩ := map_eq_some_iff.mp heq
      exact (htags y).getAsString_ne hread
    constructor
    case tags => exact htags
    case getters =>
      intro x type heq
      obtain ⟨y, -, hread⟩ := map_eq_some_iff.mp heq
      exact (htags y).getValue_ne type hread
    case text => exact htext
    case saved =>
      intro doubleToString x heq
      rw [Values.savedValue] at heq
      split_ifs at heq
      · cases some.inj heq
      obtain ⟨reading, hread, hforeign⟩ := map_eq_some_iff.mp heq
      exact htext doubleToString x (hread.trans hforeign)
    case throws =>
      intro x y type hresolve htag
      rw [Values.getValue, hresolve, map_some, ValueNode.getValue_of_ne htag]

/-! ## The invariant -/

/-- What runs keep. A node with a proxy is no alias. -/
structure Inv (v : Values) : Prop where
  tags : ∀ x, (v.nodes x).Agrees
  unproxied : ∀ x p, (v.nodes x).proxy = some p → (v.nodes x).aliasTarget = none

theorem inv_start {size : ℕ} {name : ℕ → String} {children : ℕ → List ℕ} :
    Inv (start size name children) :=
  ⟨fun _ => rfl, fun _ _ _ => rfl⟩

theorem nodes_set_self : (v.set x n).nodes x = n :=
  Function.update_self _ _ _

theorem nodes_set_of_ne (hy : y ≠ x) : (v.set x n).nodes y = v.nodes y :=
  Function.update_of_ne hy _ _

theorem Inv.set (hinv : Inv v) (hagrees : n.Agrees)
    (hproxy : ∀ p, n.proxy = some p → n.aliasTarget = none) : Inv (v.set x n) := by
  constructor
  case tags =>
    intro z
    by_cases hz : z = x
    · rw [hz, nodes_set_self]
      exact hagrees
    · rw [nodes_set_of_ne hz]
      exact hinv.tags z
  case unproxied =>
    intro z p hp
    by_cases hz : z = x
    · rw [hz, nodes_set_self] at hp ⊢
      exact hproxy p hp
    · rw [nodes_set_of_ne hz] at hp ⊢
      exact hinv.unproxied z p hp

theorem ValueNode.Agrees.clearValue_eq (h : n.Agrees) (hproxy : n.proxy = none) :
    n.clearValue = some { n with tag := .none, actualValue := .none } := by
  rw [ValueNode.Agrees, hproxy] at h
  rw [ValueNode.clearValue, if_neg]
  rintro ⟨htag, hother, -⟩
  exact hother (h.symm.trans htag)

theorem Inv.setValue {result : Values × Option Exception} (hinv : Inv v) (type : ValueType)
    (value : PropertyValue) (htype : valueType value = type)
    (hset : v.setValue x type value = some result) : Inv result.1 := by
  obtain ⟨y, -, hset⟩ := bind_eq_some_iff.mp hset
  obtain ⟨⟨n, failure⟩, hnode, rfl⟩ := map_eq_some_iff.mp hset
  have hy := hinv.tags y
  rw [ValueNode.setValue] at hnode
  rcases hproxy : (v.nodes y).proxy with - | p
  · rw [hproxy] at hnode
    rw [hy.clearValue_eq hproxy] at hnode
    obtain ⟨rfl, -⟩ := Prod.mk.inj (some.inj hnode)
    refine hinv.set ?_ fun p hp => ?_
    · rw [hproxy]
      exact htype.symm
    · cases hproxy.symm.trans hp
  · rw [hproxy] at hnode
    dsimp only at hnode
    split_ifs at hnode
    · obtain ⟨rfl, -⟩ := Prod.mk.inj (some.inj hnode)
      exact hinv.set htype.symm fun q _ => hinv.unproxied y p hproxy
    · obtain ⟨rfl, -⟩ := Prod.mk.inj (some.inj hnode)
      exact hinv.set hy (hinv.unproxied y)

theorem Inv.linkToProxy (hinv : Inv v) (p : Proxy) : Inv (v.linkToProxy x p) := by
  refine hinv.set ?_ ?_
  · rw [ValueNode.linkToProxy]
    split_ifs
    · exact hinv.tags x
    · rfl
  · rw [ValueNode.linkToProxy]
    split_ifs with halready
    · exact hinv.unproxied x
    · exact fun q _ => not_isSome_iff_eq_none.mp fun hsome => halready (Or.inr hsome)

theorem Inv.aliasTo {target : Option ℕ} {result : Values × Option Exception} (hinv : Inv v)
    (halias : v.aliasTo x target = some result) : Inv result.1 := by
  unfold Values.aliasTo at halias
  split_ifs at halias with hchildren hproxy
  · obtain rfl := some.inj halias
    exact hinv
  · obtain rfl := some.inj halias
    exact hinv
  · have hnone : (v.nodes x).proxy = none := not_isSome_iff_eq_none.mp hproxy
    cases target with
    | none =>
      obtain rfl := some.inj halias
      refine hinv.set ?_ fun p _ => rfl
      exact hinv.tags x
    | some t =>
      rw [(hinv.tags x).clearValue_eq hnone] at halias
      obtain rfl := some.inj halias
      refine hinv.set ?_ fun p hp => ?_
      · rw [hnone]
        rfl
      · cases hnone.symm.trans hp

/-! ## Unlinking -/

def unlinked (v : Values) (nodes : List ℕ) : Values :=
  { v with nodes := fun z => if z ∈ nodes then { v.nodes z with proxy := none } else v.nodes z }

/-- What the invariant says of the nodes that are linked: it is kept until the end of a call. -/
def Tied (v : Values) : Prop :=
  ∀ x p, (v.nodes x).proxy = some p →
    (v.nodes x).tag = valueType p.value ∧ (v.nodes x).aliasTarget = none

theorem Inv.tied (hinv : Inv v) : Tied v := by
  intro x p hp
  have hagrees := hinv.tags x
  rw [ValueNode.Agrees, hp] at hagrees
  exact ⟨hagrees, hinv.unproxied x p hp⟩

theorem Tied.unlink_eq (htied : Tied v) : v.unlink x = some (unlinked v [x]) := by
  rw [Values.unlink]
  rcases hproxy : (v.nodes x).proxy with - | p
  · have hsame : unlinked v [x] = v := by
      rw [unlinked]
      congr 1
      funext z
      split_ifs with hz
      · rw [mem_singleton.mp hz, ← hproxy]
      · rfl
    rw [hsame]
  · obtain ⟨htag, htarget⟩ := htied x p hproxy
    have htype : v.getValueType x = valueType p.value := by
      rw [Values.getValueType, Values.aliasTarget, htarget]
      exact htag
    dsimp only
    rw [if_pos htype, Values.set]
    congr 2
    funext z
    by_cases hz : z = x
    · rw [hz, Function.update_self, if_pos (mem_singleton_self x)]
    · rw [Function.update_of_ne hz, if_neg fun hmem => hz (mem_singleton.mp hmem)]

theorem Tied.unlinked (htied : Tied v) (nodes : List ℕ) : Tied (unlinked v nodes) := by
  intro x p hp
  rw [PropertyValues.unlinked] at hp ⊢
  dsimp only at hp ⊢
  split_ifs at hp ⊢
  exact htied x p hp

theorem Tied.foldlM_unlink (htied : Tied v) (nodes : List ℕ) :
    nodes.foldlM Values.unlink v = some (PropertyValues.unlinked v nodes) := by
  induction nodes generalizing v with
  | nil => rfl
  | cons x nodes ih =>
    rw [foldlM_cons, htied.unlink_eq, bind_eq_bind, bind_some,
      ih (htied.unlinked [x])]
    congr 1
    rw [PropertyValues.unlinked, PropertyValues.unlinked]
    congr 1
    funext z
    dsimp only
    by_cases hz : z ∈ nodes
    · rw [if_pos (mem_cons_of_mem x hz)]
      split_ifs <;> rfl
    · rw [if_neg hz]
      by_cases hzx : z = x
      · rw [hzx, if_pos (mem_singleton_self x), if_pos mem_cons_self]
      · rw [if_neg fun hmem => hzx (mem_singleton.mp hmem),
          if_neg fun hmem => (mem_cons.mp hmem).elim hzx hz]

theorem nodes_unlinked_of_mem {nodes : List ℕ} (hy : y ∈ nodes) :
    (unlinked v nodes).nodes y = { v.nodes y with proxy := none } :=
  if_pos hy

theorem nodes_unlinked_of_not_mem {nodes : List ℕ} (hy : y ∉ nodes) :
    (unlinked v nodes).nodes y = v.nodes y :=
  if_neg hy

theorem Inv.unlinked (hinv : Inv v) {nodes : List ℕ}
    (hfits : ∀ y ∈ nodes, ∀ p, (v.nodes y).proxy = some p →
      valueType (v.nodes y).actualValue = valueType p.value) :
    Inv (PropertyValues.unlinked v nodes) := by
  constructor
  case tags =>
    intro y
    by_cases hy : y ∈ nodes
    · rw [nodes_unlinked_of_mem hy]
      rcases hproxy : (v.nodes y).proxy with - | p
      · have hagrees := hinv.tags y
        rw [ValueNode.Agrees, hproxy] at hagrees
        exact hagrees
      · exact (hinv.tied y p hproxy).1.trans (hfits y hy p hproxy).symm
    · rw [nodes_unlinked_of_not_mem hy]
      exact hinv.tags y
  case unproxied =>
    intro y p hp
    by_cases hy : y ∈ nodes
    · rw [nodes_unlinked_of_mem hy] at hp
      cases hp
    · rw [nodes_unlinked_of_not_mem hy] at hp ⊢
      exact hinv.unproxied y p hp

theorem Inv.of_law_unlinked (hinv : Inv v) {nodes : List ℕ}
    (hlaw : Law (PropertyValues.unlinked v nodes)) :
    ∀ y ∈ nodes, ∀ p, (v.nodes y).proxy = some p →
      valueType (v.nodes y).actualValue = valueType p.value := by
  intro y hy p hp
  have hagrees := hlaw.tags y
  rw [nodes_unlinked_of_mem hy] at hagrees
  exact hagrees.symm.trans (hinv.tied y p hp).1

theorem Inv.unlinkProxy_eq (hinv : Inv v) (recurse : Bool) :
    v.unlinkProxy x recurse = some (PropertyValues.unlinked v (v.visited x recurse)) :=
  hinv.tied.foldlM_unlink _

/-! ## The null pointer -/

theorem Inv.setStringValue_none_eq (hinv : Inv v) (hresolve : v.resolve x = some y)
    (hproxy : (v.nodes y).proxy = none) :
    v.setStringValue x none =
      some (v.set y { v.nodes y with tag := .string, actualValue := .none }, none) := by
  rw [Values.setStringValue, Values.setValue, hresolve, bind_some, ValueNode.setValue,
    hproxy]
  rw [(hinv.tags y).clearValue_eq hproxy]
  rfl

theorem Inv.setStringValue_none (hinv : Inv v) {result : Values × Option Exception}
    (hresolve : v.resolve x = some y) (hproxy : (v.nodes y).proxy ≠ none)
    (hset : v.setStringValue x none = some result) : Inv result.1 := by
  obtain ⟨p, hp⟩ := ne_none_iff_exists'.mp hproxy
  rw [Values.setStringValue, Values.setValue, hresolve, bind_some, ValueNode.setValue,
    hp] at hset
  obtain ⟨⟨n, failure⟩, hnode, rfl⟩ := map_eq_some_iff.mp hset
  dsimp only at hnode
  split_ifs at hnode with htag htype hvalue
  · exact absurd rfl hvalue
  · obtain ⟨rfl, -⟩ := Prod.mk.inj (some.inj hnode)
    exact hinv.set (hinv.tags y) (hinv.unproxied y)

/-! ## Every run -/

/-- The invariant, of every state that is reached. -/
def Sound (s : Option Values) : Prop := ∀ v, s = some v → Inv v

theorem sound_map {result : Option (Values × Option Exception)}
    (h : ∀ r, result = some r → Inv r.1) : Sound (result.map Prod.fst) := by
  intro v hv
  obtain ⟨r, hr, rfl⟩ := map_eq_some_iff.mp hv
  exact h r hr

theorem Inv.perform (hinv : Inv v) (hgiven : ∀ x ∈ op.given, x < v.size)
    (hfits : Fits (some v) op) : Sound (perform v op) := by
  cases op with
  | setStringValue x value =>
    cases value with
    | none =>
      refine sound_map fun r hr => ?_
      obtain ⟨y, hresolve, -⟩ := bind_eq_some_iff.mp hr
      exact hinv.setStringValue_none hresolve
        (hfits v rfl (hgiven x (mem_singleton_self x)) y hresolve) hr
    | some text => exact sound_map fun r hr => hinv.setValue .string (.string text) rfl hr
  | setIntegerValue x value =>
    exact sound_map fun r hr => hinv.setValue .integer (.integer value) rfl hr
  | setUnsignedIntegerValue x value =>
    exact sound_map fun r hr => hinv.setValue .unsignedInteger (.unsigned value) rfl hr
  | setBooleanValue x value =>
    exact sound_map fun r hr => hinv.setValue .boolean (.boolean value) rfl hr
  | setFloatingValue x value =>
    exact sound_map fun r hr => hinv.setValue .floating (.floating value) rfl hr
  | linkToProxy x p =>
    intro v' hv'
    obtain rfl := some.inj hv'
    exact hinv.linkToProxy p
  | unlinkProxy x recurse =>
    intro v' hv'
    rw [PropertyValues.perform, hinv.unlinkProxy_eq] at hv'
    obtain rfl := some.inj hv'
    exact hinv.unlinked (hfits v rfl (hgiven x (mem_singleton_self x)))
  | aliasTo x target => exact sound_map fun r hr => hinv.aliasTo hr

theorem Sound.step {s : Option Values} (hs : Sound s) (hfits : Fits s op) :
    Sound (step s op) := by
  rcases s with - | v
  · exact fun v hv => by cases hv
  · rw [PropertyValues.step, bind_some]
    split_ifs with hgiven
    · refine (hs v rfl).perform (fun x hx => ?_) hfits
      exact of_decide_eq_true (all_eq_true.mp hgiven x hx)
    · exact hs

theorem Sound.fits_of_lawful {s : Option Values} (hs : Sound s)
    (hlawful : Lawful (PropertyValues.step s op)) : Fits s op := by
  cases op with
  | setStringValue x value =>
    cases value with
    | none =>
      rintro v rfl hx y hresolve hproxy
      have hinv := hs v rfl
      have hgiven : (ValueOperation.setStringValue x none).given.all (· < v.size) = true := by
        simp [ValueOperation.given, hx]
      have hlaw := hlawful (v.set y { v.nodes y with tag := .string, actualValue := .none }) (by
        rw [PropertyValues.step, bind_some, if_pos hgiven, perform,
          hinv.setStringValue_none_eq hresolve hproxy]
        rfl)
      have hagrees := hlaw.tags y
      rw [nodes_set_self, ValueNode.Agrees] at hagrees
      rw [hproxy] at hagrees
      cases hagrees
    | some text => trivial
  | unlinkProxy x recurse =>
    rintro v rfl hx
    have hinv := hs v rfl
    have hgiven : (ValueOperation.unlinkProxy x recurse).given.all (· < v.size) = true := by
      simp [ValueOperation.given, hx]
    refine hinv.of_law_unlinked (hlawful _ ?_)
    rw [PropertyValues.step, bind_some, if_pos hgiven, perform, hinv.unlinkProxy_eq]
  | _ => trivial

/-- **When the tags agree.** In every run from new nodes, of which some may be below others, the
tags agree with what was stored last in every state that is reached, and nothing else is read, if
and only if no proxy is unlinked from a node in which no value of its type was stored last, and
no node without a proxy is given the null pointer for a text. -/
theorem tags_always_iff (size : ℕ) (name : ℕ → String) (children : ℕ → List ℕ)
    (ops : List ValueOperation) :
    Always step Lawful (some (start size name children)) ops ↔
      Meets step Fits (some (start size name children)) ops := by
  have hstart : Sound (some (start size name children)) := by
    intro v hv
    obtain rfl := some.inj hv
    exact inv_start
  refine always_iff_meets ?_ ?_ ?_ hstart
  · exact fun s hs v hv => law_iff.2 (hs v hv).tags
  · exact fun s op hs hfits => hs.step hfits
  · exact fun s op hs hfits hlawful => hfits (hs.fits_of_lawful hlawful)

/-- A proxy for texts is unlinked from a node in which a number was stored. -/
theorem tags_always_fails : ¬ ∀ (size : ℕ) (name : ℕ → String) (children : ℕ → List ℕ)
    (ops : List ValueOperation), Always step Lawful (some (start size name children)) ops := by
  intro h
  obtain ⟨-, -, -, hlawful⟩ := h 1 (fun _ => "a") (fun _ => []) [.setIntegerValue 0 5,
    .linkToProxy 0 ⟨.string "text", by decide⟩, .unlinkProxy 0 false]
  have hlaw := hlawful _ rfl
  have hagrees := hlaw.tags 0
  cases hagrees

end PropertyValues

end Dss
