import Dss.SubscriptionEntries

/-!
# What the parser makes of a subscription file

Between the entries the depth is 1 or 2, and where it is 2 nothing is ignored. An entry adds one
node there and leaves the depth at 2, or at 1 if it contained an unknown element. An unknown
element below the root takes the depth down to 0 without anybody noticing, unless a subscription
inside it makes up for that by a node that should not be there.
-/

namespace Dss

open Xml PropertyNode List Option Function

namespace SubscriptionParser

variable {s s' : SubscriptionParser} {name : String} {attributes : Attributes}
  {content : Content}

/-! ## One entry -/

def entryStart (s : SubscriptionParser) (name : String) (attributes : Attributes) :
    Option (ParserRoot × PropertyNode × ℕ) :=
  if name = "subscription" then
    match attributes.value? "event-name", attributes.value? "handler-name" with
    | some eventName, some handlerName =>
      some (.subscriptions, subscriptionNode (s.nSubscriptions + 1) eventName handlerName,
        s.nSubscriptions + 1)
    | _, _ => none
  else if name = "state" then
    match attributes.value? "name" with
    | some stateName =>
      if ((s.root .states).position stateName).isSome then none
      else some (.states, stateNode stateName, s.nSubscriptions)
    | none => none
  else none

/-- Between the entries. -/
structure Outside (s : SubscriptionParser) : Prop where
  halt_eq : s.halt = none
  level_nonneg : 0 ≤ s.level
  level_le : s.level ≤ 2
  ignore_eq : s.level = 2 → s.ignore = false

def entryFrame (s : SubscriptionParser) (root : ParserRoot) (number : ℕ) : Frame where
  level := 2
  ignoreVersion := s.ignoreVersion
  nSubscriptions := number
  place := ⟨root, [(s.root root).children.length]⟩
  nodes := s.nodes
  root := s.root
  plug := fun node =>
    { s.root root with children := (s.root root).children ++ [node] }

def entryReader (s : SubscriptionParser) (root : ParserRoot) (node : PropertyNode) : Reader where
  node := { node with index := (s.root root).nextIndex node.name }
  currentValueType := s.currentValueType
  temporaryValue := s.temporaryValue
  expectValue := s.expectValue

theorem entryFrame_hole (s : SubscriptionParser) (root : ParserRoot) (number : ℕ) :
    Hole (s.entryFrame root number).place.path (s.entryFrame root number).plug :=
  Hole.nil.snoc (s.root root)

theorem startEntry_eq (hhalt : s.halt = none) (hlevel : s.level = 2) (hignore : s.ignore = false) :
    (s.entryStart name attributes = none ∧ (s.startEntry name attributes).halt.isSome) ∨
      ∃ root node number, s.entryStart name attributes = some (root, node, number) ∧
        s.startEntry name attributes =
          (s.entryFrame root number).down.parser (s.entryReader root node) := by
  have henter (root : ParserRoot) (node : PropertyNode) (number : ℕ) :
      ({ s with optionString := "", nSubscriptions := number } : SubscriptionParser).enter root
          node = (s.entryFrame root number).down.parser (s.entryReader root node) := by
    simp only [enter, modifyRoot, nextPlace, Frame.parser, Frame.down, Frame.roots, entryFrame,
      entryReader, hhalt, hlevel, hignore, getAt, elim_some, nil_append, addChild]
  rw [startEntry, entryStart]
  split_ifs with hsubscription hstate
  · rcases attributes.value? "event-name" with - | eventName
    · exact Or.inl ⟨rfl, rfl⟩
    rcases attributes.value? "handler-name" with - | handlerName
    · exact Or.inl ⟨rfl, rfl⟩
    exact Or.inr ⟨_, _, _, rfl, henter _ _ _⟩
  · rcases attributes.value? "name" with - | stateName
    · exact Or.inl ⟨rfl, rfl⟩
    dsimp only
    split_ifs
    · exact Or.inl ⟨rfl, rfl⟩
    · exact Or.inr ⟨_, _, _, rfl, henter _ _ _⟩
  · exact Or.inl ⟨rfl, rfl⟩

/-- What the first entry, at level 1, sets before it goes on at level 2. -/
def ready (s : SubscriptionParser) : SubscriptionParser :=
  if s.level = 1 then { s with expectValue := false, ignore := false, level := 2 } else s

theorem ready_spec (h : s.Outside) (hlevel : 1 ≤ s.level) :
    s.ready.halt = none ∧ s.ready.level = 2 ∧ s.ready.ignore = false ∧ s.ready.root = s.root ∧
      s.ready.nSubscriptions = s.nSubscriptions ∧
        s.ready.currentValueType = s.currentValueType := by
  rw [ready]
  split_ifs with hone
  · exact ⟨h.halt_eq, rfl, rfl, rfl, rfl, rfl⟩
  · have htwo : s.level = 2 := by
      have hle := h.level_le
      omega
    exact ⟨h.halt_eq, htwo, h.ignore_eq htwo, rfl, rfl, rfl⟩

theorem elementStart_entry (h : s.Outside) (hlevel : 1 ≤ s.level) (hname : isEntry name = true) :
    elementStart name attributes s = s.ready.startEntry name attributes := by
  have hname' : name = "subscription" ∨ name = "state" := of_decide_eq_true hname
  have hrunning : ¬ s.halt.isSome = true := by simp [h.halt_eq]
  rw [elementStart, if_neg hrunning, if_neg (by omega), ready]
  split_ifs with hone hignore
  · rw [hone]
    rfl
  · have htwo : s.level = 2 := by
      have hle := h.level_le
      omega
    rw [h.ignore_eq htwo] at hignore
    exact absurd hignore.2 Bool.false_ne_true
  · rfl
  · have hle := h.level_le
    omega
  · omega

theorem entryStart_congr (hroot : s'.root = s.root)
    (hnumber : s'.nSubscriptions = s.nSubscriptions) :
    s'.entryStart name attributes = s.entryStart name attributes := by
  rw [entryStart, entryStart, hroot, hnumber]

def feedEntry (s : SubscriptionParser) (name : String) (attributes : Attributes)
    (content : Content) : SubscriptionParser :=
  elementEnd name (handler.feed content (elementStart name attributes s))

def readEntry (s : SubscriptionParser) (root : ParserRoot) (node : PropertyNode)
    (content : Content) : Reader :=
  (Reader.read content (s.ready.entryReader root node)).leave

variable {root : ParserRoot} {node : PropertyNode} {number : ℕ}

theorem halt_feedEntry (h : s.Outside) (hlevel : 1 ≤ s.level) (hname : isEntry name = true)
    (hstart : s.entryStart name attributes = none) :
    (s.feedEntry name attributes content).halt.isSome := by
  obtain ⟨hhalt, htwo, hignore, hroot, hnumber, -⟩ := ready_spec h hlevel
  rw [feedEntry, elementStart_entry h hlevel hname]
  rcases @startEntry_eq s.ready name attributes hhalt htwo hignore with
    ⟨-, hstop⟩ | ⟨_, _, _, hsome, -⟩
  · rwa [feed_of_halt hstop, elementEnd_of_halt hstop]
  · rw [entryStart_congr hroot hnumber, hstart] at hsome
    cases hsome

theorem follows_feedEntry (h : s.Outside) (hlevel : 1 ≤ s.level) (hname : isEntry name = true)
    (hstart : s.entryStart name attributes = some (root, node, number)) :
    Follows (s.ready.entryFrame root number) (s.readEntry root node content)
      (s.feedEntry name attributes content) := by
  obtain ⟨hhalt, htwo, hignore, hroot, hnumber, -⟩ := ready_spec h hlevel
  rw [feedEntry, elementStart_entry h hlevel hname]
  rcases @startEntry_eq s.ready name attributes hhalt htwo hignore with
    ⟨hnone, -⟩ | ⟨_, _, _, hsome, hequal⟩
  · rw [entryStart_congr hroot hnumber, hstart] at hnone
    cases hnone
  · rw [entryStart_congr hroot hnumber, hstart] at hsome
    cases hsome
    have hpass : ¬ (name = "property" ∨ name = "parameter" ∨ name = "filter") := by
      have hname' : name = "subscription" ∨ name = "state" := of_decide_eq_true hname
      rcases hname' with rfl | rfl
      · decide
      · decide
    have hframe : (s.ready.entryFrame root number).level = 2 := rfl
    have hole := entryFrame_hole s.ready root number
    have hread := @feed_follows content (s.ready.entryFrame root number).down
      (s.ready.entryReader root node) _ hole (by rw [Frame.level_down]; omega) (.reading rfl)
    rw [hequal]
    exact follows_leave hole (by omega) hread hpass

structure AfterEntry (s : SubscriptionParser) (root : ParserRoot) (number : ℕ) (b : Reader)
    (s' : SubscriptionParser) : Prop where
  outside : s'.Outside
  level_pos : 1 ≤ s'.level
  root_eq : s'.root = Function.update s.root root
    { s.root root with children := (s.root root).children ++ [b.node] }
  nSubscriptions_eq : s'.nSubscriptions = number
  type_eq : s'.currentValueType = b.currentValueType
  current_eq : s'.ignore = true ∨
    b.mode = .reading ∧ s'.currentNode = some ⟨root, [(s.root root).children.length]⟩

theorem afterEntry (h : s.Outside) (hlevel : 1 ≤ s.level) {b : Reader}
    (hfollows : Follows (s.ready.entryFrame root number) b s') :
    (b.mode = .stopped ∧ s'.halt.isSome) ∨
      (b.mode ≠ .stopped ∧ s'.halt = none ∧ AfterEntry s root number b s') := by
  obtain ⟨-, -, -, hroot, -, -⟩ := ready_spec h hlevel
  have hroots : (s.ready.entryFrame root number).roots b.node = update s.root root
      { s.root root with children := (s.root root).children ++ [b.node] } := by
    simp only [Frame.roots, entryFrame, hroot]
  cases hfollows with
  | reading hread =>
    refine Or.inr ⟨by rw [hread]; decide, rfl, ?_⟩
    have htwo : ((s.ready.entryFrame root number).parser b).level = 2 := rfl
    exact {
      outside := ⟨rfl, by omega, by omega, fun _ => rfl⟩
      level_pos := by omega
      root_eq := hroots
      nSubscriptions_eq := rfl
      type_eq := rfl
      current_eq := Or.inr ⟨hread, by rw [← hroot]; rfl⟩ }
  | ignoring hignore hs =>
    have hone : s'.level = 1 := hs.level_eq
    refine Or.inr ⟨by rw [hignore]; decide, hs.halt_eq, ?_⟩
    exact {
      outside := ⟨hs.halt_eq, by omega, by omega, fun htwo => by omega⟩
      level_pos := by omega
      root_eq := hs.root_eq.trans hroots
      nSubscriptions_eq := hs.nSubscriptions_eq
      type_eq := hs.currentValueType_eq
      current_eq := Or.inl hs.ignore_eq }
  | stopped hstop hs => exact Or.inl ⟨hstop, hs⟩

/-! ## The depth and the number of nodes -/

def count (root : ParserRoot → PropertyNode) : ℕ :=
  (root .subscriptions).children.length + (root .states).children.length

theorem count_update {roots : ParserRoot → PropertyNode} {which : ParserRoot}
    {node : PropertyNode} :
    count (Function.update roots which node) + (roots which).children.length =
      count roots + node.children.length := by
  cases which with
  | subscriptions | states =>
    rw [count, count, update_self, update_of_ne (by decide)]
    omega

theorem AfterEntry.count_eq {b : Reader} (h : AfterEntry s root number b s') :
    count s'.root = count s.root + 1 := by
  have hcount := @count_update s.root root
    { s.root root with children := (s.root root).children ++ [b.node] }
  rw [← h.root_eq, length_append, length_singleton] at hcount
  omega

theorem length_modifyAt_value {path : List ℕ} {value : PropertyValue} :
    (modifyAt (fun node => { node with value := value }) path node).children.length =
      node.children.length := by
  cases path with
  | nil => rfl
  | cons i path => rw [modifyAt, length_modify]

theorem writeValue_spec (s : SubscriptionParser) : s.writeValue.halt.isSome ∨
    s.writeValue = s ∨ ∃ place value, s.currentNode = some place ∧
      s.writeValue = s.modify place fun node => { node with value := value } := by
  rw [writeValue]
  rcases valueFrom s.currentValueType s.temporaryValue with halt | - | value
  · exact Or.inl rfl
  · exact Or.inr (Or.inl rfl)
  · rcases hcurrent : s.currentNode with - | place
    · exact Or.inl rfl
    · exact Or.inr (Or.inr ⟨place, value, rfl, rfl⟩)

theorem count_writeValue (h : ¬ s.writeValue.halt.isSome = true) :
    count s.writeValue.root = count s.root := by
  rcases writeValue_spec s with hhalt | hsame | ⟨place, value, -, hmodify⟩
  · exact absurd hhalt h
  · rw [hsame]
  · have hcount := @count_update s.root place.root
      (modifyAt (fun node => { node with value := value }) place.path (s.root place.root))
    rw [length_modifyAt_value] at hcount
    rw [hmodify]
    exact Nat.add_right_cancel hcount

theorem level_writeValue : s.writeValue.level = s.level := by
  rw [writeValue]
  split <;> rfl

theorem pop_spec (s : SubscriptionParser) : s.pop.level = s.level ∧ s.pop.root = s.root ∧
    (s.pop.halt.isSome ∨ s.pop.halt = s.halt) := by
  rw [pop]
  split
  · exact ⟨rfl, rfl, Or.inl rfl⟩
  · exact ⟨rfl, rfl, Or.inr rfl⟩

theorem elementEnd_outside (h : s.Outside) (name : String) :
    (elementEnd name s).halt.isSome ∨ (elementEnd name s).Outside ∧
      (elementEnd name s).level = s.level - 1 ∧
      count (elementEnd name s).root = count s.root := by
  have hrunning : ¬ s.halt.isSome = true := by simp [h.halt_eq]
  have hle := h.level_le
  have houtside {t : SubscriptionParser} (hhalt : t.halt = none) (hlevel : t.level = s.level - 1)
      (hnonneg : ¬ s.level - 1 < 0) : t.Outside :=
    ⟨hhalt, by omega, by omega, fun htwo => by omega⟩
  rw [elementEnd]
  dsimp only
  split_ifs with hneg hignore hhalt hpop
  · exact Or.inl rfl
  · exact Or.inr ⟨houtside h.halt_eq rfl hneg, rfl, rfl⟩
  · exact Or.inl hhalt
  · -- the stack is popped
    have hcount := count_writeValue hhalt
    generalize hw : writeValue _ = w at hhalt hcount ⊢
    have hlevel : w.level = s.level - 1 := by
      rw [← hw, level_writeValue]
    obtain ⟨hlevel', hroot, hsome | hsame⟩ := pop_spec w
    · exact Or.inl hsome
    · refine Or.inr ⟨houtside ?_ (hlevel'.trans hlevel) hneg, hlevel'.trans hlevel, ?_⟩
      · rw [hsame]
        exact not_isSome_iff_eq_none.mp hhalt
      · rw [hroot]
        exact hcount
  · have hcount := count_writeValue hhalt
    generalize hw : writeValue _ = w at hhalt hcount ⊢
    have hlevel : w.level = s.level - 1 := by
      rw [← hw, level_writeValue]
    exact Or.inr ⟨houtside (not_isSome_iff_eq_none.mp hhalt) hlevel hneg, hlevel, hcount⟩

/-- An element between the entries that is none of them: at depth 0 it is taken for the
root, and at depth 1 its start is not counted. -/
theorem elementStart_other (h : s.Outside) (hname : ¬ isEntry name = true) :
    (elementStart name attributes s).halt.isSome ∨
      (elementStart name attributes s).Outside ∧ s.level ≤ 1 ∧
        (elementStart name attributes s).level = 1 ∧
        count (elementStart name attributes s).root = count s.root := by
  have hname' : ¬ (name = "subscription" ∨ name = "state") :=
    fun heq => hname (decide_eq_true heq)
  have hrunning : ¬ s.halt.isSome = true := by simp [h.halt_eq]
  have houtside {t : SubscriptionParser} (hhalt : t.halt = none) (hlevel : t.level = 1) :
      t.Outside := ⟨hhalt, by omega, by omega, fun htwo => by omega⟩
  rw [elementStart]
  split_ifs with hzero hone hignore htwo
  · rw [startRoot]
    split_ifs
    · exact Or.inl rfl
    · exact Or.inl rfl
    · have hlevel : s.level + 1 = 1 := by omega
      exact Or.inr ⟨houtside h.halt_eq hlevel, by omega, hlevel, rfl⟩
  · exact Or.inr ⟨houtside h.halt_eq hone, by omega, hone, rfl⟩
  · have hle := h.level_le
    rw [h.ignore_eq (by omega)] at hignore
    exact absurd hignore.2 Bool.false_ne_true
  · -- neither a subscription nor a state
    rw [not_or] at hname'
    rw [startEntry]
    rw [if_neg hname'.1, if_neg hname'.2]
    exact Or.inl rfl
  · have hle := h.level_le
    omega
  · have hnonneg := h.level_nonneg
    omega

theorem halt_of_level_zero (h : s.Outside) (hzero : s.level = 0) (hname : isEntry name = true) :
    (elementStart name attributes s).halt.isSome := by
  have hrunning : ¬ s.halt.isSome = true := by simp [h.halt_eq]
  have hne : name ≠ "subscriptions" := by
    rintro rfl
    exact absurd hname (by decide)
  rw [elementStart, if_neg hrunning, if_pos hzero, startRoot]
  rw [if_pos hne]
  rfl

theorem feed_element {rest : Content} : handler.feed (.element name attributes content rest) s =
    handler.feed rest (s.feedEntry name attributes content) := rfl

theorem feedEntry_outside (h : s.Outside) (hname : isEntry name = true) :
    (s.feedEntry name attributes content).halt.isSome ∨
      (1 ≤ s.level ∧ ∃ root node number, s.entryStart name attributes = some (root, node, number) ∧
        AfterEntry s root number (s.readEntry root node content)
          (s.feedEntry name attributes content)) := by
  rcases Int.lt_or_le s.level 1 with hlt | hlevel
  · have hnonneg := h.level_nonneg
    have hhalt := @halt_of_level_zero s name attributes h (by omega) hname
    rw [feedEntry, feed_of_halt hhalt, elementEnd_of_halt hhalt]
    exact Or.inl hhalt
  · rcases hstart : s.entryStart name attributes with - | ⟨root, node, number⟩
    · exact Or.inl (halt_feedEntry h hlevel hname hstart)
    · rcases afterEntry h hlevel (follows_feedEntry h hlevel hname hstart) with
        ⟨-, hhalt⟩ | ⟨-, -, hafter⟩
      · exact Or.inl hhalt
      · exact Or.inr ⟨hlevel, root, node, number, rfl, hafter⟩

theorem feed_text (text : String) (rest : Content) (s : SubscriptionParser) :
    ∃ value, handler.feed (.text text rest) s =
      handler.feed rest { s with temporaryValue := value } := by
  have htext : ∃ value, characterData text s = { s with temporaryValue := value } := by
    rw [characterData]
    split_ifs
    · exact ⟨s.temporaryValue, rfl⟩
    · exact ⟨s.temporaryValue ++ text, rfl⟩
    · exact ⟨s.temporaryValue, rfl⟩
  obtain ⟨value, htext⟩ := htext
  exact ⟨value, congrArg (handler.feed rest) htext⟩

theorem Outside.withText (h : s.Outside) (value : String) :
    ({ s with temporaryValue := value } : SubscriptionParser).Outside :=
  ⟨h.halt_eq, h.level_nonneg, h.level_le, h.ignore_eq⟩

/-- Between the entries the depth grows by no more than the number of nodes does, and each
entry adds one. -/
def Bounded (content : Content) : Prop :=
  ∀ s : SubscriptionParser, s.Outside →
    (handler.feed content s).halt.isSome ∨ (handler.feed content s).Outside ∧
      count s.root + content.countElements isEntry ≤ count (handler.feed content s).root ∧
      (handler.feed content s).level + count s.root ≤
        s.level + count (handler.feed content s).root

theorem feedEntry_other (hcontent : Bounded content) (h : s.Outside)
    (hname : ¬ isEntry name = true) :
    (s.feedEntry name attributes content).halt.isSome ∨
      (s.feedEntry name attributes content).Outside ∧
        count s.root ≤ count (s.feedEntry name attributes content).root ∧
        (s.feedEntry name attributes content).level + count s.root ≤
          count (s.feedEntry name attributes content).root := by
  rcases elementStart_other h hname with hhalt | ⟨hstart, -, hone, hcount⟩
  · rw [feedEntry, feed_of_halt hhalt, elementEnd_of_halt hhalt]
    exact Or.inl hhalt
  · rw [feedEntry]
    rcases hcontent _ hstart with hhalt | ⟨hinner, hmore, hdepth⟩
    · rw [elementEnd_of_halt hhalt]
      exact Or.inl hhalt
    · rcases elementEnd_outside hinner name with hhalt | ⟨hend, hlevel, hsame⟩
      · exact Or.inl hhalt
      · exact Or.inr ⟨hend, by omega, by omega⟩

theorem bounded (content : Content) : Bounded content := by
  induction content with
  | nil => exact fun s h => Or.inr ⟨h, Nat.le_refl _, Int.le_refl _⟩
  | text t rest ih =>
    intro s h
    obtain ⟨value, htext⟩ := feed_text t rest s
    rw [htext]
    exact ih _ (h.withText value)
  | element name attributes content rest ihcontent ihrest =>
    intro s h
    rw [feed_element, Content.countElements]
    -- what the element does to depth and nodes
    have helement : (s.feedEntry name attributes content).halt.isSome ∨
        (s.feedEntry name attributes content).Outside ∧
          count s.root + (if isEntry name then 1 else 0) ≤
            count (s.feedEntry name attributes content).root ∧
          (s.feedEntry name attributes content).level + count s.root ≤
            s.level + count (s.feedEntry name attributes content).root := by
      by_cases hname : isEntry name = true
      · rw [if_pos hname]
        rcases feedEntry_outside h hname with hhalt | ⟨hlevel, _, _, _, -, hafter⟩
        · exact Or.inl hhalt
        · have hcount := hafter.count_eq
          have hle := hafter.outside.level_le
          exact Or.inr ⟨hafter.outside, by omega, by omega⟩
      · rw [if_neg hname]
        rcases feedEntry_other ihcontent h hname with hhalt | ⟨hend, hmore, hdepth⟩
        · exact Or.inl hhalt
        · have hnonneg := h.level_nonneg
          exact Or.inr ⟨hend, by omega, by omega⟩
    rcases helement with hhalt | ⟨houtside, hcount, hdepth⟩
    · rw [feed_of_halt hhalt]
      exact Or.inl hhalt
    · rcases ihrest _ houtside with hhalt | ⟨hrest, hmore, hdepth'⟩
      · exact Or.inl hhalt
      · exact Or.inr ⟨hrest, by omega, by omega⟩

/-- If there are no other nodes than those of the entries, an element that is none leaves
the depth at 0. -/
theorem level_eq_zero (content : Content) : ∀ {s : SubscriptionParser}, s.Outside →
    s.level = 0 ∨ content.hasElement (fun name => !isEntry name) = true →
      (handler.feed content s).halt = none →
        count (handler.feed content s).root = count s.root + content.countElements isEntry →
          (handler.feed content s).level = 0 := by
  induction content with
  | nil => exact fun _ hzero _ _ => hzero.resolve_right Bool.false_ne_true
  | text t rest ih =>
    intro s h hzero hrunning hcount
    obtain ⟨value, htext⟩ := feed_text t rest s
    rw [htext] at hrunning hcount ⊢
    exact ih (h.withText value) hzero hrunning hcount
  | element name attributes content rest _ ihrest =>
    intro s h hzero hrunning hcount
    rw [feed_element] at hrunning hcount ⊢
    rw [Content.hasElement_element, Bool.or_eq_true] at hzero
    rw [Content.countElements] at hcount
    have hnot : ¬ (s.feedEntry name attributes content).halt.isSome = true := by
      intro hhalt
      rw [feed_of_halt hhalt] at hrunning
      rw [hrunning] at hhalt
      cases hhalt
    have hnot' : ¬ (handler.feed rest (s.feedEntry name attributes content)).halt.isSome =
        true := by
      rw [hrunning]
      exact Bool.false_ne_true
    by_cases hname : isEntry name = true
    · obtain ⟨hlevel, _, _, _, -, hafter⟩ := (feedEntry_outside h hname).resolve_left hnot
      rw [if_pos hname] at hcount
      have hadded := hafter.count_eq
      refine ihrest hafter.outside (Or.inr ?_) hrunning (by omega)
      rcases hzero with hlow | hother | hrest
      · omega
      · rw [hname] at hother
        cases hother
      · exact hrest
    · obtain ⟨hend, hmore, hdepth⟩ :=
        (@feedEntry_other s name attributes content (bounded content) h hname).resolve_left hnot
      obtain ⟨-, hmore', -⟩ := (bounded rest _ hend).resolve_left hnot'
      rw [if_neg hname] at hcount
      have hnonneg := hend.level_nonneg
      exact ihrest hend (Or.inl (by omega)) hrunning (by omega)

/-! ## What is read of an entry -/

theorem isNew_iff {roots : ParserRoot → PropertyNode} : IsNew name attributes roots ↔
    isDuplicate name attributes roots = false ∧ ¬ (name = "state" ∧
      ((roots .states).position ((attributes.value? "name").getD "")).isSome) := by
  rw [IsNew, not_and, not_isSome_iff_eq_none]

theorem entryStart_eq (hname : isEntry name = true) (hfit : EntryFits name attributes) :
    s.entryStart name attributes =
      if name = "state" ∧
          ((s.root .states).position ((attributes.value? "name").getD "")).isSome then none
      else some (entryRoot name, entryNode name attributes s.nSubscriptions,
        nextNumber name s.nSubscriptions) := by
  have hname' : name = "subscription" ∨ name = "state" := of_decide_eq_true hname
  rcases hname' with rfl | rfl
  · obtain ⟨hevent, hhandler⟩ := hfit.1 rfl
    obtain ⟨eventName, hevent⟩ := isSome_iff_exists.mp hevent
    obtain ⟨handlerName, hhandler⟩ := isSome_iff_exists.mp hhandler
    rw [entryStart]
    simp only [entryNode, hevent, hhandler, getD_some, if_true]
    rfl
  · obtain ⟨stateName, hstate⟩ := isSome_iff_exists.mp (hfit.2 rfl)
    rw [entryStart, if_neg (by decide), if_pos rfl, hstate]
    simp only [true_and, getD_some]
    split_ifs
    · rfl
    · rw [entryNode, hstate]
      rfl

theorem addEntry_eq {roots : ParserRoot → PropertyNode} :
    addEntry roots root (expected content "" node) = Function.update roots root
      { roots root with children := (roots root).children ++
        [expected content "" { node with index := (roots root).nextIndex node.name }] } := by
  have hnode : (expected content "" node).name = node.name := (expected_grows _ _ _).name_eq
  simp only [addEntry, addChild, hnode, expected_index]

theorem readEntry_spec (h : s.Outside) (hlevel : 1 ≤ s.level)
    (hdoc : Documented content .entry) (hinert : s.currentValueType.isInert = true) :
    (s.readEntry root node content).mode ≠ .stopped ∧
      ((s.readEntry root node content).mode = .reading →
        (s.readEntry root node content).currentValueType.isInert = true) ∧
      (Harmless content "" →
        (s.readEntry root node content).currentValueType.isInert = true) ∧
      ((s.readEntry root node content).node =
          expected content "" { node with index := (s.root root).nextIndex node.name } ↔
        Harmless content "") := by
  obtain ⟨-, -, -, hroot, -, htype⟩ := ready_spec h hlevel
  have hinert' : (s.ready.entryReader root node).currentValueType.isInert = true :=
    (congrArg ValueType.isInert htype).trans hinert
  have hreads := hdoc.reads (r := s.ready.entryReader root node) rfl (Or.inr hinert')
  have hiff := hreads.node_iff "" nofun
  have hnode : (s.ready.entryReader root node).node =
      { node with index := (s.root root).nextIndex node.name } := by
    rw [entryReader, hroot]
  rw [hnode] at hiff
  rw [readEntry]
  generalize Reader.read content (s.ready.entryReader root node) = b at hreads hiff ⊢
  by_cases hforeign : foreign content = true
  · have hmode : b.mode = .ignoring := by rw [hreads.mode_eq, if_pos hforeign]
    rw [Reader.leave_of_ne (by rw [hmode]; decide), hmode]
    exact ⟨by decide, nofun, fun hharmless => hreads.inert hharmless (Or.inl hinert'), hiff⟩
  · have hmode : b.mode = .reading := by rw [hreads.mode_eq, if_neg hforeign]
    have hopen := hreads.inert_reading (Bool.eq_false_iff.mpr hforeign) hinert'
    rw [Reader.leave_reading hmode (valueFrom_of_isInert hopen _), getD_none, mk_self]
    exact ⟨by rw [hmode]; decide, fun _ => hopen, fun _ => hopen, hiff⟩

/-! ## Harmless documents -/

theorem writeValue_of_isInert (h : s.currentValueType.isInert = true) : s.writeValue = s := by
  rw [writeValue, valueFrom_of_isInert h]

theorem feed_harmless (content : Content) : ∀ {s : SubscriptionParser}, s.Outside →
    1 ≤ s.level → s.currentValueType.isInert = true → DocumentedEntries content →
      HarmlessEntries content s.nSubscriptions s.root →
        (handler.feed content s).Outside ∧ 1 ≤ (handler.feed content s).level ∧
          (handler.feed content s).currentValueType.isInert = true ∧
          (handler.feed content s).root = expectedEntries content s.nSubscriptions s.root := by
  induction content with
  | nil => exact fun h hlevel hinert _ _ => ⟨h, hlevel, hinert, rfl⟩
  | text t rest ih =>
    intro s h hlevel hinert hdoc hharmless
    obtain ⟨value, htext⟩ := feed_text t rest s
    rw [htext]
    exact ih (h.withText value) hlevel hinert hdoc hharmless
  | element name attributes content rest _ ihrest =>
    intro s h hlevel hinert hdoc hharmless
    obtain ⟨hknown, hdocRest⟩ := hdoc
    obtain ⟨hname, hinner, hnew, hrest⟩ := hharmless
    obtain ⟨-, hfit, hdocContent⟩ := hknown (isKnown_of_isEntry hname)
    have hstart := entryStart_eq (s := s) hname hfit
    rw [if_neg (isNew_iff.1 hnew).2] at hstart
    obtain ⟨hmode, -, htype, hnode⟩ := @readEntry_spec s content (entryRoot name)
      (entryNode name attributes s.nSubscriptions) h hlevel hdocContent hinert
    rcases afterEntry h hlevel (follows_feedEntry h hlevel hname hstart) with
      ⟨hstop, -⟩ | ⟨-, -, hafter⟩
    · exact absurd hstop hmode
    · have hroot := hafter.root_eq
      rw [hnode.mpr hinner, ← addEntry_eq] at hroot
      rw [expectedEntries, if_pos hname, (isNew_iff.1 hnew).1,
        ← hroot, ← hafter.nSubscriptions_eq]
      rw [← hroot, ← hafter.nSubscriptions_eq] at hrest
      exact ihrest hafter.outside hafter.level_pos
        ((congrArg ValueType.isInert hafter.type_eq).trans (htype hinner)) hdocRest hrest

/-! ## Documents that are not -/

/-- The nodes that were there stay, whatever is written. -/
structure Keeps (roots : ParserRoot → PropertyNode) (s : SubscriptionParser) : Prop where
  children_le : ∀ which, (roots which).children <+: (s.root which).children
  current : s.ignore = true ∨ s.currentValueType.isInert = true ∨
    ∃ which i, s.currentNode = some ⟨which, [i]⟩ ∧ (roots which).children.length ≤ i

variable {roots : ParserRoot → PropertyNode}

theorem isPrefix_modify {α : Type} {f : α → α} {l l' : List α} {i : ℕ} (h : l <+: l')
    (hi : l.length ≤ i) : l <+: l'.modify i f := by
  rw [prefix_iff_eq_take] at h ⊢
  rw [take_modify, ← h, modify_eq_self hi]

/-- A text is written behind them, or not at all. -/
theorem Keeps.writeValue (h : Keeps roots s) (hignore : ¬ s.ignore = true)
    (hrunning : ¬ s.writeValue.halt.isSome = true) (which : ParserRoot) :
    (roots which).children <+: (s.writeValue.root which).children := by
  rcases h.current.resolve_left hignore with hinert | ⟨root, i, hcurrent, hle⟩
  · rw [writeValue_of_isInert hinert]
    exact h.children_le which
  · rcases writeValue_spec s with hhalt | hsame | ⟨place, value, hplace, hmodify⟩
    · exact absurd hhalt hrunning
    · rw [hsame]
      exact h.children_le which
    · rw [hcurrent] at hplace
      cases hplace
      rw [hmodify, modify, modifyRoot]
      by_cases hwhich : which = root
      · subst hwhich
        dsimp only
        rw [update_self]
        exact isPrefix_modify (h.children_le which) hle
      · dsimp only
        rw [update_of_ne hwhich]
        exact h.children_le which

theorem Keeps.elementEnd (h : Keeps roots s) (houtside : s.Outside)
    (hrunning : ¬ (elementEnd name s).halt.isSome = true) (which : ParserRoot) :
    (roots which).children <+: ((elementEnd name s).root which).children := by
  have hrunning' : ¬ s.halt.isSome = true := by simp [houtside.halt_eq]
  have hwrite := @Keeps.writeValue { s with level := s.level - 1, expectValue := false } roots
    ⟨h.children_le, h.current⟩
  rw [SubscriptionParser.elementEnd] at hrunning ⊢
  dsimp only at hrunning ⊢
  split_ifs at hrunning ⊢ with hneg hignore hhalt hpop
  · exact absurd rfl hrunning
  · exact h.children_le which
  · exact absurd hhalt hrunning
  · rw [(pop_spec _).2.1]
    exact hwrite hignore hhalt which
  · exact hwrite hignore hhalt which

theorem Keeps.afterEntry {b : Reader} (h : Keeps roots s)
    (hafter : AfterEntry s root number b s') : Keeps roots s' where
  children_le which := by
    rw [hafter.root_eq]
    by_cases hwhich : which = root
    · subst hwhich
      rw [update_self]
      exact (h.children_le which).trans (prefix_append _ _)
    · rw [update_of_ne hwhich]
      exact h.children_le which
  current := hafter.current_eq.imp_right fun hcurrent =>
    Or.inr ⟨root, _, hcurrent.2, (h.children_le root).length_le⟩

theorem Keeps.feed (content : Content) : ∀ {s : SubscriptionParser}, Keeps roots s →
    s.Outside → content.hasElement (fun name => !isEntry name) = false →
      (handler.feed content s).halt = none → Keeps roots (handler.feed content s) := by
  induction content with
  | nil => exact fun h _ _ _ => h
  | text t rest ih =>
    intro s h houtside hentries hrunning
    obtain ⟨value, htext⟩ := feed_text t rest s
    rw [htext] at hrunning ⊢
    exact ih ⟨h.children_le, h.current⟩ (houtside.withText value) hentries hrunning
  | element name attributes content rest _ ihrest =>
    intro s h houtside hentries hrunning
    rw [feed_element] at hrunning ⊢
    rw [Content.hasElement_element, Bool.or_eq_false_iff, Bool.not_eq_false'] at hentries
    rcases feedEntry_outside houtside hentries.1 with hhalt | ⟨-, _, _, _, -, hafter⟩
    · rw [feed_of_halt hhalt] at hrunning
      rw [hrunning] at hhalt
      cases hhalt
    · exact ihrest (h.afterEntry hafter) hafter.outside hentries.2 hrunning

theorem le_expectedEntries (content : Content) (which : ParserRoot) :
    (roots which).children <+: (expectedEntries content number roots which).children := by
  induction content generalizing number roots with
  | nil => exact prefix_rfl
  | text t rest ih => exact ih
  | element name attributes content rest _ ih =>
    rw [expectedEntries]
    split_ifs
    · exact ih
    · refine List.IsPrefix.trans ?_ ih
      rw [addEntry]
      by_cases hwhich : which = entryRoot name
      · subst hwhich
        rw [update_self]
        exact prefix_append _ _
      · simp only [update_of_ne hwhich, prefix_rfl]
    · exact ih

theorem count_expectedEntries_le (content : Content) :
    count (expectedEntries content number roots) ≤
      count roots + content.countElements isEntry := by
  induction content generalizing number roots with
  | nil => exact Nat.le_refl _
  | text t rest ih => exact ih
  | element name attributes content rest _ ih =>
    rw [expectedEntries, Content.countElements]
    split_ifs with hname hduplicate
    · have hle := @ih (nextNumber name number) roots
      omega
    · have hle := @ih (nextNumber name number)
        (addEntry roots (entryRoot name) (expected content "" (entryNode name attributes number)))
      have hcount : count (addEntry roots (entryRoot name)
          (expected content "" (entryNode name attributes number))) = count roots + 1 := by
        have hupdate := @count_update roots (entryRoot name) ((roots (entryRoot name)).addChild
          (expected content "" (entryNode name attributes number)))
        rw [addChild, length_append, length_singleton] at hupdate
        rw [addEntry, addChild]
        omega
      omega
    · have hle := @ih number roots
      omega

/-- **What gives what is expected is harmless**, if only entries are below the root. -/
theorem harmless_of_feed (content : Content) : ∀ {s : SubscriptionParser}, s.Outside →
    1 ≤ s.level → s.currentValueType.isInert = true → DocumentedEntries content →
      content.hasElement (fun name => !isEntry name) = false →
        ¬ (elementEnd name (handler.feed content s)).halt.isSome = true →
          (elementEnd name (handler.feed content s)).root =
            expectedEntries content s.nSubscriptions s.root →
              HarmlessEntries content s.nSubscriptions s.root := by
  induction content with
  | nil => exact fun _ _ _ _ _ _ _ => trivial
  | text t rest ih =>
    intro s h hlevel hinert hdoc hentries hrunning hfinal
    obtain ⟨value, htext⟩ := feed_text t rest s
    rw [htext] at hrunning hfinal
    exact @ih { s with temporaryValue := value } (h.withText value) hlevel hinert hdoc hentries
      hrunning hfinal
  | element entry attributes content rest _ ihrest =>
    intro s h hlevel hinert hdoc hentries hrunning hfinal
    rw [feed_element] at hrunning hfinal
    rw [Content.hasElement_element, Bool.or_eq_false_iff, Bool.not_eq_false'] at hentries
    obtain ⟨hname, hentriesRest⟩ := hentries
    obtain ⟨hknown, hdocRest⟩ := hdoc
    obtain ⟨-, hfit, hdocContent⟩ := hknown (isKnown_of_isEntry hname)
    have hrest : ¬ (handler.feed rest (s.feedEntry entry attributes content)).halt.isSome =
        true := by
      intro hhalt
      rw [elementEnd_of_halt hhalt] at hrunning
      exact hrunning hhalt
    have hhere : ¬ (s.feedEntry entry attributes content).halt.isSome = true := by
      intro hhalt
      rw [feed_of_halt hhalt] at hrest
      exact hrest hhalt
    obtain ⟨-, root, node, number, hstart, hafter⟩ :=
      (feedEntry_outside h hname).resolve_left hhere
    -- its name does not lead to a state
    have hposition : ¬ (entry = "state" ∧
        ((s.root .states).position ((attributes.value? "name").getD "")).isSome) := by
      intro hfound
      rw [entryStart_eq hname hfit, if_pos hfound] at hstart
      cases hstart
    rw [entryStart_eq hname hfit, if_neg hposition] at hstart
    cases hstart
    obtain ⟨houtsideRest, hcount, -⟩ := (bounded rest _ hafter.outside).resolve_left hrest
    obtain ⟨-, -, hcountEnd⟩ := (elementEnd_outside houtsideRest name).resolve_left hrunning
    have hadded := hafter.count_eq
    -- there is no state of its name: a node was added
    have hduplicate : isDuplicate entry attributes s.root = false := by
      by_contra hnot
      rw [expectedEntries, if_pos hname, if_pos (Bool.not_eq_false _ ▸ hnot)] at hfinal
      have hle := @count_expectedEntries_le (nextNumber entry s.nSubscriptions) s.root rest
      rw [← hfinal] at hle
      omega
    rw [expectedEntries, if_pos hname, hduplicate] at hfinal
    obtain ⟨hmode, hread, htype, hnode⟩ := @readEntry_spec s content (entryRoot entry)
      (entryNode entry attributes s.nSubscriptions) h hlevel hdocContent hinert
    -- the node that was added is still there at the end, so it is the one that is expected
    have hkeeps : Keeps (s.feedEntry entry attributes content).root
        (s.feedEntry entry attributes content) := by
      refine ⟨fun _ => prefix_rfl, hafter.current_eq.imp_right fun hcurrent => Or.inl ?_⟩
      rw [hafter.type_eq]
      exact hread hcurrent.1
    have hbefore := (hkeeps.feed rest hafter.outside hentriesRest
      (not_isSome_iff_eq_none.mp hrest)).elementEnd houtsideRest hrunning (entryRoot entry)
    have hexpected := @le_expectedEntries (nextNumber entry s.nSubscriptions)
      (addEntry s.root (entryRoot entry)
        (expected content "" (entryNode entry attributes s.nSubscriptions))) rest
      (entryRoot entry)
    rw [hafter.root_eq, update_self, hfinal] at hbefore
    rw [addEntry_eq, update_self] at hexpected
    rw [← addEntry_eq] at hexpected
    have hharmless := hnode.mp (next_unique hbefore hexpected)
    have hroot := hafter.root_eq
    rw [hnode.mpr hharmless, ← addEntry_eq] at hroot
    refine ⟨hname, hharmless, isNew_iff.2 ⟨hduplicate, hposition⟩, ?_⟩
    rw [← hroot, ← hafter.nSubscriptions_eq] at hfinal ⊢
    exact ihrest hafter.outside hafter.level_pos
      ((congrArg ValueType.isInert hafter.type_eq).trans (htype hharmless)) hdocRest hentriesRest
      hrunning hfinal

/-! ## Files -/

def keepKnown (document : Document) : Document :=
  { document with content := document.content.keep isKnown }

/-- The parser gets through, with a node for each subscription and each new state, as if the
other elements were not there. -/
structure ParsesAll (s : SubscriptionParser) (document : Document) (ignoreVersion : Bool) :
    Prop where
  /-- it is not stopped, and no empty stack is popped -/
  halt_eq : (s.loadFromXML document ignoreVersion).halt = none
  root_eq : (s.loadFromXML document ignoreVersion).root =
    expectedEntries document.content s.nSubscriptions s.root
  keep_eq : (s.loadFromXML document ignoreVersion).root =
    (s.loadFromXML (keepKnown document) ignoreVersion).root

structure RootFits (document : Document) (ignoreVersion : Bool) : Prop where
  name_eq : document.name = "subscriptions"
  version : ignoreVersion = true ∨ versionFits document.attributes = true

variable {document : Document} {ignoreVersion : Bool}

def opened (s : SubscriptionParser) (ignoreVersion : Bool) : SubscriptionParser :=
  { s.reinitMembers ignoreVersion with level := 1 }

theorem outside_opened : (s.opened ignoreVersion).Outside := by
  have hone : (s.opened ignoreVersion).level = 1 := rfl
  exact ⟨rfl, by omega, by omega, fun htwo => by omega⟩

theorem loadFromXML_eq (h : RootFits document ignoreVersion) :
    s.loadFromXML document ignoreVersion =
      elementEnd document.name (handler.feed document.content (s.opened ignoreVersion)) := by
  have hstart : elementStart document.name document.attributes (s.reinitMembers ignoreVersion) =
      s.opened ignoreVersion := by
    have hversion : ¬ (!(s.reinitMembers ignoreVersion).ignoreVersion &&
        !versionFits document.attributes) = true := by
      rw [Bool.and_eq_true, Bool.not_eq_true', Bool.not_eq_true', ← Bool.not_eq_true,
        ← Bool.not_eq_true]
      rintro ⟨hignore, hfits⟩
      exact h.version.elim hignore hfits
    rw [elementStart, startRoot]
    rw [if_neg (not_not_intro h.name_eq), if_neg hversion]
    rfl
  exact congrArg (fun t => elementEnd document.name (handler.feed document.content t)) hstart

theorem elementEnd_root (h : s.Outside) (hlevel : 1 ≤ s.level)
    (hinert : s.currentValueType.isInert = true) (hname : name = "subscriptions") :
    (elementEnd name s).halt = none ∧ (elementEnd name s).root = s.root := by
  have hrunning : ¬ s.halt.isSome = true := by simp [h.halt_eq]
  have hpass : ¬ (name = "property" ∨ name = "parameter" ∨ name = "filter") := by
    rw [hname]
    decide
  have hwrite := @writeValue_of_isInert { s with level := s.level - 1, expectValue := false } hinert
  rw [elementEnd, if_neg hrunning]
  dsimp only
  rw [if_neg (by omega), hwrite]
  split_ifs
  · exact ⟨h.halt_eq, rfl⟩
  · exact ⟨h.halt_eq, rfl⟩

theorem loadFromXML_of_harmless (h : RootFits document ignoreVersion)
    (hdoc : DocumentedEntries document.content)
    (hharmless : HarmlessEntries document.content s.nSubscriptions s.root) :
    (s.loadFromXML document ignoreVersion).halt = none ∧
      (s.loadFromXML document ignoreVersion).root =
        expectedEntries document.content s.nSubscriptions s.root := by
  obtain ⟨houtside, hlevel, hinert, hroot⟩ :=
    feed_harmless document.content (s := s.opened ignoreVersion) outside_opened
      (Int.le_refl 1) rfl hdoc hharmless
  obtain ⟨hhalt, hend⟩ := elementEnd_root houtside hlevel hinert h.name_eq
  rw [loadFromXML_eq h]
  exact ⟨hhalt, hend.trans hroot⟩

/-- **Subscription files.** A documented file is parsed as if the other elements were not
there exactly if all of its entries are harmless. -/
theorem parsesAll_iff (s : SubscriptionParser) (hroot : RootFits document ignoreVersion)
    (hdoc : DocumentedEntries document.content) : s.ParsesAll document ignoreVersion ↔
      HarmlessEntries document.content s.nSubscriptions s.root := by
  constructor
  · rintro ⟨hhalt, hfinal, -⟩
    rw [loadFromXML_eq hroot] at hhalt hfinal
    have hrunning : ¬ (elementEnd document.name
        (handler.feed document.content (s.opened ignoreVersion))).halt.isSome = true := by
      rw [hhalt]
      exact Bool.false_ne_true
    have hinside : ¬ (handler.feed document.content (s.opened ignoreVersion)).halt.isSome =
        true := by
      intro hstop
      rw [elementEnd_of_halt hstop] at hrunning
      exact hrunning hstop
    obtain ⟨houtside, hcount, -⟩ :=
      (bounded document.content _ outside_opened).resolve_left hinside
    obtain ⟨hend, hlevel, hsame⟩ := (elementEnd_outside houtside _).resolve_left hrunning
    have hexpected := @count_expectedEntries_le s.nSubscriptions s.root document.content
    rw [← hfinal] at hexpected
    have hopened : count (s.opened ignoreVersion).root = count s.root := rfl
    -- there is no other node, so there is no other element either
    have hentries : document.content.hasElement (fun name => !isEntry name) = false := by
      by_contra hother
      have hzero := level_eq_zero document.content outside_opened
        (Or.inr (Bool.not_eq_false _ ▸ hother)) (not_isSome_iff_eq_none.mp hinside)
        (by omega)
      have hnonneg := hend.level_nonneg
      omega
    exact @harmless_of_feed document.name document.content (s.opened ignoreVersion)
      outside_opened (Int.le_refl 1) rfl hdoc hentries hrunning hfinal
  · intro hharmless
    obtain ⟨hhalt, hfinal⟩ := loadFromXML_of_harmless hroot hdoc hharmless
    have hkept := @loadFromXML_of_harmless s (keepKnown document) ignoreVersion
      ⟨hroot.name_eq, hroot.version⟩ hdoc.keep hharmless.keep
    refine ⟨hhalt, hfinal, ?_⟩
    rw [hfinal, hkept.2]
    exact expectedEntries_keep.symm

/-! ## Single files -/

def newParser : SubscriptionParser where
  root
    | .subscriptions => { name := "subscriptions" }
    | .states => { name := "states" }

def subscriptionFile (content : Content) : Document :=
  ⟨"subscriptions", [("version", "1")], content⟩

def subscriptionElement (content rest : Content) : Content :=
  .element "subscription" [("event-name", "bell"), ("handler-name", "raise_event")] content rest

def noteElement (rest : Content) : Content := .element "note" [] (.text "!" .nil) rest

def parameterElement (rest : Content) : Content :=
  .element "parameter" []
    (.element "parameter" [("name", "event_name")] (.text "alarm" .nil) .nil) rest

theorem parsesAll_bell : newParser.ParsesAll (subscriptionFile
    (subscriptionElement (parameterElement (noteElement .nil)) .nil)) false := by
  have hdoc : DocumentedEntries
      (subscriptionElement (parameterElement (noteElement .nil)) .nil) := by
    simp [DocumentedEntries, subscriptionElement, parameterElement, noteElement, Documented,
      isKnown, isEntry, isParameter, EntryFits, AttributesFit, Nesting.allows, nestingOf,
      Content.hasElement, Content.directText, Attributes.value?, valueTypeOf, valueFrom]
  refine (parsesAll_iff newParser ⟨rfl, Or.inr rfl⟩ hdoc).mpr ?_
  simp [HarmlessEntries, subscriptionFile, subscriptionElement, parameterElement, noteElement,
    Harmless, isKnown, isEntry, isParameter, IsNew, isDuplicate, HarmlessElement, foreign,
    Content.hasElement]

/-- An unknown element in front of a subscription stops the parsing. -/
theorem parsesAll_fails :
    ¬ ∀ (s : SubscriptionParser) (document : Document) (ignoreVersion : Bool),
      RootFits document ignoreVersion → DocumentedEntries document.content →
        s.ParsesAll document ignoreVersion := by
  intro h
  have hdoc : DocumentedEntries (noteElement (subscriptionElement .nil .nil)) := by
    simp [DocumentedEntries, subscriptionElement, noteElement, Documented, isKnown, isEntry,
      isParameter, EntryFits, Attributes.value?]
  have hall := h newParser (subscriptionFile (noteElement (subscriptionElement .nil .nil))) false
    ⟨rfl, Or.inr rfl⟩ hdoc
  exact absurd hall.halt_eq (by decide)

end SubscriptionParser

end Dss
