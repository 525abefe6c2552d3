import Dss.PropertyContainers

/-!
# Queries for properties

A query is split at its slashes, and each part at its commas and brackets; what stands between the
brackets is split again, into items, and each item at its equals sign. A missing bracket is an
exception. An item that is empty has no first piece, but the first piece is asked for.
-/

namespace Dss

open List

namespace PropertyQuery

/-! ## The code -/

/-- What ends the parser. -/
inductive Failure : Type where
  /-- `std::runtime_error` -/
  | runtimeError (message : String) : Failure
  /-- `at` in a vector that is empty -/
  | outOfRange : Failure
  /-- `erase` in a vector that is empty -/
  | undefined : Failure
  /-- the loop goes on -/
  | endless : Failure
  deriving DecidableEq

/-- `splitString` with trimming. -/
def splitTrimmed (source : String) (delimiter : Char) : List String :=
  (splitString source delimiter).map fun field => String.ofList (trim field.toList)

/-- `findAndUnescape`: what stands before the character, last character first to begin with, and
what stands behind it. -/
def findAndUnescape (c : Char) : List Char → List Char → List Char × Option (List Char)
  | before, [] => (before.reverse, none)
  | before, x :: xs =>
    if x = c then
      match before with
      | '\\' :: before => findAndUnescape c (x :: before) xs
      | before => (before.reverse, some xs)
    else findAndUnescape c (x :: before) xs

/-- What a turn makes of its input. -/
structure Turn : Type where
  input : List Char
  key : List Char
  properties : List String
  deriving DecidableEq

/-- `evalPropertyList` of an input with a bracket. A bracket that is closed before it is opened
makes a property list to the end. -/
def evalBracket (input : List Char) : Except Failure Turn :=
  if ')' ∈ input then
    let key := input.takeWhile (· ≠ '(')
    let inside := (input.dropWhile (· ≠ '(')).drop 1
    let propList := if ')' ∈ key then inside else inside.takeWhile (· ≠ ')')
    let rest := findAndUnescape ',' [] (input.dropWhile (· ≠ ')'))
    .ok ⟨rest.2.getD (rest.1.drop 1), key, splitTrimmed (String.ofList propList) ','⟩
  else .error (.runtimeError "illegal query: missing ')'")

def evalPropertyList (input : List Char) : Except Failure Turn :=
  match findAndUnescape ',' [] input with
  | (before, some behind) =>
    if '(' ∈ before then evalBracket (before ++ ',' :: behind) else .ok ⟨behind, before, []⟩
  | (whole, none) => if '(' ∈ whole then evalBracket whole else .ok ⟨[], whole, []⟩

def splitKeyValue : List String → Except Failure (List KeyValueContainer)
  | [] => .ok []
  | item :: input =>
    match splitTrimmed item '=' with
    | name :: value :: _ => (splitKeyValue input).map (⟨name, value⟩ :: ·)
    | [name] => (splitKeyValue input).map (⟨name, ""⟩ :: ·)
    | [] => .error .outOfRange

def parsePart : ℕ → Bool → List Char → Except Failure (List PropertyContainer)
  | 0, _, _ => .error .endless
  | fuel + 1, child, part => do
    let turn ← evalPropertyList part
    let container ← splitKeyValue turn.properties
    (if turn.input = [] then .ok [] else parsePart fuel false turn.input).map
      (⟨String.ofList turn.key, container, child⟩ :: ·)

def parseAll : List String → Except Failure (List PropertyContainer)
  | [] => .ok []
  | part :: parts => do
    let containers ← parsePart (part.length + 1) true part.toList
    return containers ++ (← parseAll parts)

/-- `parseParts`: the part list. -/
def parseParts (query : String) (trailingSeparator : Bool) :
    Except Failure (List PropertyContainer) := do
  let partList ← parseAll (splitString query '/')
  if trailingSeparator then
    match partList with
    | [] => .error .undefined
    | _ :: others => return others
  else return partList

/-! ## The law -/

/-- There is a first part if the traversal looks at it, which begins at the root. -/
def Usable (query : String) (partList : List PropertyContainer) : Prop :=
  query.toList.head? = some '/' → partList ≠ []

/-- The parser makes a part list, or throws a `std::runtime_error`. -/
def Total (query : String) (trailingSeparator : Bool) : Prop :=
  (∃ partList, parseParts query trailingSeparator = .ok partList ∧ Usable query partList) ∨
    ∃ message, parseParts query trailingSeparator = .error (.runtimeError message)

/-- The property lists of a part, and whether there is a bracket missing behind the last one. -/
def propertyLists : ℕ → List Char → List (List String) × Bool
  | 0, _ => ([], false)
  | fuel + 1, part =>
    match evalPropertyList part with
    | .error _ => ([], true)
    | .ok turn =>
      if turn.input = [] then ([turn.properties], false)
      else
        let others := propertyLists fuel turn.input
        (turn.properties :: others.1, others.2)

def queryLists : List String → List (List String)
  | [] => []
  | part :: parts =>
    let lists := propertyLists (part.length + 1) part.toList
    if lists.2 then lists.1 else lists.1 ++ queryLists parts

/-- No item is empty, and neither is the query if a first part is taken away. -/
def Fits (query : String) (trailingSeparator : Bool) : Prop :=
  (trailingSeparator = true → query ≠ "") ∧
    ∀ items ∈ queryLists (splitString query '/'), "" ∉ items

/-! ## The turns -/

theorem length_findAndUnescape (c : Char) (before input : List Char) :
    (findAndUnescape c before input).1.length +
      ((findAndUnescape c before input).2.elim 0 fun behind => behind.length + 1) ≤
      before.length + input.length := by
  induction input generalizing before with
  | nil => simp [findAndUnescape]
  | cons x input ih =>
    rw [findAndUnescape.eq_def]
    dsimp only
    split_ifs with hx
    · split
      · rename_i before
        have h := ih (x :: before)
        simp only [length_cons] at h ⊢
        omega
      · simp
    · have h := ih (x :: before)
      simp only [length_cons] at h ⊢
      omega

theorem length_evalBracket {input : List Char} {turn : Turn} (h : evalBracket input = .ok turn) :
    turn.input.length < input.length := by
  unfold evalBracket at h
  split_ifs at h with hmem
  obtain rfl := Except.ok.inj h
  have hsuffix := (dropWhile_suffix (l := input) fun c => decide (c ≠ ')')).length_le
  have hlength := length_findAndUnescape ',' [] (input.dropWhile (· ≠ ')'))
  have hpos := length_pos_of_mem hmem
  cases hfound : (findAndUnescape ',' [] (input.dropWhile (· ≠ ')'))).2 with
  | none =>
    simp only [Option.getD_none, length_drop, length_nil] at hlength ⊢
    omega
  | some behind =>
    rw [hfound] at hlength
    simp only [Option.getD_some, Option.elim_some, length_nil] at hlength ⊢
    omega

theorem length_evalPropertyList {input : List Char} {turn : Turn}
    (h : evalPropertyList input = .ok turn) (hne : turn.input ≠ []) :
    turn.input.length < input.length := by
  have hlength := length_findAndUnescape ',' [] input
  unfold evalPropertyList at h
  split at h
  · rename_i before behind hfound
    rw [hfound] at hlength
    simp only [Option.elim_some, length_nil] at hlength
    split_ifs at h
    · have hbracket := length_evalBracket h
      simp only [length_append, length_cons] at hbracket
      omega
    · obtain rfl := Except.ok.inj h
      dsimp only
      omega
  · rename_i whole hfound
    rw [hfound] at hlength
    simp only [Option.elim_none, length_nil] at hlength
    split_ifs at h
    · have hbracket := length_evalBracket h
      omega
    · obtain rfl := Except.ok.inj h
      exact absurd rfl hne

theorem error_evalPropertyList {input : List Char} {failure : Failure}
    (h : evalPropertyList input = .error failure) : ∃ message, failure = .runtimeError message := by
  unfold evalPropertyList evalBracket at h
  split at h <;> split_ifs at h <;> cases h <;> exact ⟨_, rfl⟩

/-! ## Items -/

theorem splitFields_ne_nil (delimiter : Char) (field source : List Char) :
    splitFields delimiter field source ≠ [] := by
  induction source generalizing field with
  | nil => simp [splitFields]
  | cons c source ih =>
    rw [splitFields.eq_def]
    dsimp only
    split_ifs
    · split
      · exact ih _
      · exact cons_ne_nil _ _
    · exact ih _

theorem splitTrimmed_eq_nil_iff {source : String} {delimiter : Char} :
    splitTrimmed source delimiter = [] ↔ source = "" := by
  rw [splitTrimmed, map_eq_nil_iff, splitString]
  split_ifs with h
  · exact iff_of_true rfl h
  · exact iff_of_false (splitFields_ne_nil _ _ _) h

theorem splitKeyValue_spec (items : List String) :
    ("" ∉ items → ∃ container, splitKeyValue items = .ok container) ∧
      ("" ∈ items → splitKeyValue items = .error .outOfRange) := by
  induction items with
  | nil => exact ⟨fun _ => ⟨[], rfl⟩, fun h => absurd h not_mem_nil⟩
  | cons item items ih =>
    rw [splitKeyValue.eq_def]
    dsimp only
    rw [mem_cons, not_or]
    rcases hsplit : splitTrimmed item '=' with - | ⟨name, - | ⟨value, more⟩⟩
    · have hempty := splitTrimmed_eq_nil_iff.1 hsplit
      exact ⟨fun h => absurd hempty.symm h.1, fun _ => rfl⟩
    all_goals
      have hne : "" ≠ item := by
        rintro rfl
        cases hsplit
      refine ⟨fun h => ?_, fun h => ?_⟩
      · obtain ⟨container, hcontainer⟩ := ih.1 h.2
        exact ⟨_, by rw [hcontainer]; rfl⟩
      · rw [ih.2 (h.resolve_left hne)]
        rfl

/-! ## The loops -/

theorem parsePart_error {fuel : ℕ} {child : Bool} {part : List Char} {failure : Failure}
    (h : evalPropertyList part = .error failure) :
    parsePart (fuel + 1) child part = .error failure := by
  rw [parsePart, h]
  rfl

theorem parsePart_outOfRange {fuel : ℕ} {child : Bool} {part : List Char} {turn : Turn}
    (h : evalPropertyList part = .ok turn) (hempty : "" ∈ turn.properties) :
    parsePart (fuel + 1) child part = .error .outOfRange := by
  rw [parsePart, h]
  show (splitKeyValue turn.properties >>= _) = _
  rw [(splitKeyValue_spec turn.properties).2 hempty]
  rfl

theorem parsePart_ok {fuel : ℕ} {child : Bool} {part : List Char} {turn : Turn}
    (h : evalPropertyList part = .ok turn) (hempty : "" ∉ turn.properties) :
    ∃ first, parsePart (fuel + 1) child part =
      (if turn.input = [] then .ok [] else parsePart fuel false turn.input).map (first :: ·) := by
  obtain ⟨container, hcontainer⟩ := (splitKeyValue_spec turn.properties).1 hempty
  refine ⟨⟨String.ofList turn.key, container, child⟩, ?_⟩
  rw [parsePart, h]
  show (splitKeyValue turn.properties >>= _) = _
  rw [hcontainer]
  rfl

theorem parsePart_spec {fuel : ℕ} {child : Bool} {part : List Char} (hfuel : part.length < fuel) :
    ((∀ items ∈ (propertyLists fuel part).1, "" ∉ items) →
      ((propertyLists fuel part).2 = true →
        ∃ message, parsePart fuel child part = .error (.runtimeError message)) ∧
      ((propertyLists fuel part).2 = false →
        ∃ containers, parsePart fuel child part = .ok containers ∧ containers ≠ [])) ∧
    ((∃ items ∈ (propertyLists fuel part).1, "" ∈ items) →
      parsePart fuel child part = .error .outOfRange) := by
  induction fuel generalizing child part with
  | zero => exact absurd hfuel (Nat.not_lt_zero _)
  | succ fuel ih =>
    rw [propertyLists]
    cases hturn : evalPropertyList part with
    | error failure =>
      obtain ⟨message, rfl⟩ := error_evalPropertyList hturn
      refine ⟨fun _ => ⟨fun _ => ⟨message, parsePart_error hturn⟩, fun h => by cases h⟩, ?_⟩
      rintro ⟨items, hitems, -⟩
      exact absurd hitems not_mem_nil
    | ok turn =>
      dsimp only
      by_cases hitems : "" ∈ turn.properties
      · refine ⟨fun hall => absurd hitems (hall _ ?_), fun _ => parsePart_outOfRange hturn hitems⟩
        split_ifs
        · exact mem_singleton_self _
        · exact mem_cons_self
      obtain ⟨first, hfirst⟩ := @parsePart_ok fuel child part turn hturn hitems
      rw [hfirst]
      by_cases hend : turn.input = []
      · rw [if_pos hend, if_pos hend]
        refine ⟨fun _ => ⟨(fun h => by cases h), fun _ => ⟨_, rfl, cons_ne_nil _ _⟩⟩, ?_⟩
        rintro ⟨items, hmem, hempty⟩
        obtain rfl := mem_singleton.mp hmem
        exact absurd hempty hitems
      · have hlt := length_evalPropertyList hturn hend
        obtain ⟨ihgood, ihbad⟩ := @ih false turn.input (by omega)
        rw [if_neg hend, if_neg hend]
        constructor
        · intro hall
          rw [forall_mem_cons] at hall
          obtain ⟨hmissing, hcomplete⟩ := ihgood hall.2
          refine ⟨fun h => ?_, fun h => ?_⟩
          · obtain ⟨message, hmessage⟩ := hmissing h
            exact ⟨message, by rw [hmessage]; rfl⟩
          · obtain ⟨containers, hcontainers, -⟩ := hcomplete h
            exact ⟨_, by rw [hcontainers]; rfl, cons_ne_nil _ _⟩
        · rintro ⟨items, hmem, hempty⟩
          rcases mem_cons.mp hmem with rfl | hmem
          · exact absurd hempty hitems
          · rw [ihbad ⟨items, hmem, hempty⟩]
            rfl

theorem parseAll_spec (parts : List String) :
    ((∀ items ∈ queryLists parts, "" ∉ items) →
      (∃ message, parseAll parts = .error (.runtimeError message)) ∨
        ∃ partList, parseAll parts = .ok partList ∧ parts.length ≤ partList.length) ∧
    ((∃ items ∈ queryLists parts, "" ∈ items) → parseAll parts = .error .outOfRange) := by
  induction parts with
  | nil =>
    refine ⟨fun _ => .inr ⟨[], rfl, le_rfl⟩, ?_⟩
    rintro ⟨items, hitems, -⟩
    exact absurd hitems not_mem_nil
  | cons part parts ih =>
    have hfuel : part.toList.length < part.length + 1 := by
      exact Nat.lt_succ_self _
    obtain ⟨hgood, hbad⟩ := @parsePart_spec _ true _ hfuel
    rw [queryLists, parseAll]
    by_cases hmissing : (propertyLists (part.length + 1) part.toList).2 = true
    · rw [if_pos hmissing]
      refine ⟨fun hall => ?_, fun hex => ?_⟩
      · obtain ⟨message, hmessage⟩ := (hgood hall).1 hmissing
        exact .inl ⟨message, by rw [hmessage]; rfl⟩
      · rw [hbad hex]
        rfl
    · rw [if_neg hmissing]
      refine ⟨fun hall => ?_, ?_⟩
      · obtain ⟨hhere, hthere⟩ := forall_mem_append.mp hall
        obtain ⟨containers, hcontainers, hne⟩ :=
          (hgood hhere).2 (Bool.eq_false_iff.mpr hmissing)
        rw [hcontainers]
        rcases ih.1 hthere with ⟨message, hmessage⟩ | ⟨partList, hpartList, hlength⟩
        · exact .inl ⟨message, by rw [hmessage]; rfl⟩
        · refine .inr ⟨containers ++ partList, by rw [hpartList]; rfl, ?_⟩
          have hpos := length_pos_of_ne_nil hne
          rw [length_append, length_cons]
          omega
      · rintro ⟨items, hmem, hempty⟩
        by_cases hhere : ∃ items ∈ (propertyLists (part.length + 1) part.toList).1, "" ∈ items
        · rw [hbad hhere]
          rfl
        · have hall : ∀ items ∈ (propertyLists (part.length + 1) part.toList).1, "" ∉ items :=
            fun items hitems h => hhere ⟨items, hitems, h⟩
          obtain ⟨containers, hcontainers, -⟩ :=
            (hgood hall).2 (Bool.eq_false_iff.mpr hmissing)
          have hthere := (mem_append.mp hmem).resolve_left fun h => hall _ h hempty
          rw [hcontainers, ih.2 ⟨items, hthere, hempty⟩]
          rfl

/-! ## The parser -/

theorem splitString_length_pos {query : String} {delimiter : Char} (h : query ≠ "") :
    1 ≤ (splitString query delimiter).length := by
  rw [splitString, if_neg h]
  exact length_pos_of_ne_nil (splitFields_ne_nil _ _ _)

/-- A query that begins at the root has a part more. -/
theorem splitString_length_of_head {query : String} (h : query.toList.head? = some '/') :
    2 ≤ (splitString query '/').length := by
  have hne : query ≠ "" := by
    rintro rfl
    cases h
  rw [splitString, if_neg hne]
  cases hlist : query.toList with
  | nil =>
    rw [hlist] at h
    cases h
  | cons c source =>
    rw [hlist] at h
    obtain rfl := Option.some.inj h
    have hpos := length_pos_of_ne_nil (splitFields_ne_nil '/' [] source)
    simpa [splitFields] using Nat.succ_le_of_lt hpos

/-- **Where the parser is total.** It is unless an item is empty, or there is no first part to be
taken away. -/
theorem parseParts_total_iff (query : String) (trailingSeparator : Bool) :
    Total query trailingSeparator ↔ Fits query trailingSeparator := by
  obtain ⟨hgood, hbad⟩ := parseAll_spec (splitString query '/')
  constructor
  · intro htotal
    refine ⟨?_, fun items hitems hempty => ?_⟩
    · rintro rfl rfl
      rcases htotal with ⟨partList, h, -⟩ | ⟨message, h⟩ <;> cases h
    · have hrun : parseParts query trailingSeparator = .error .outOfRange := by
        rw [parseParts, hbad ⟨items, hitems, hempty⟩]
        rfl
      rcases htotal with ⟨partList, h, -⟩ | ⟨message, h⟩ <;> rw [hrun] at h <;> cases h
  · rintro ⟨hfirst, hitems⟩
    rcases hgood hitems with ⟨message, hmessage⟩ | ⟨partList, hpartList, hlength⟩
    · refine .inr ⟨message, ?_⟩
      rw [parseParts, hmessage]
      rfl
    · rw [Total, parseParts, hpartList]
      refine .inl ?_
      cases trailingSeparator with
      | false =>
        refine ⟨partList, rfl, fun hhead => ?_⟩
        have htwo := splitString_length_of_head hhead
        exact ne_nil_of_length_pos (by omega)
      | true =>
        have hone := @splitString_length_pos query '/' (hfirst rfl)
        cases partList with
        | nil => exact absurd (hone.trans hlength) (Nat.not_succ_le_zero 0)
        | cons part others =>
          refine ⟨others, rfl, fun hhead => ?_⟩
          have htwo := splitString_length_of_head hhead
          rw [length_cons] at hlength
          exact ne_nil_of_length_pos (by omega)

/-- Behind the bracket there is an empty item. -/
theorem parseParts_total_fails : ¬ ∀ query trailingSeparator, Total query trailingSeparator := by
  intro h
  rcases h "a(,b)" false with ⟨partList, hrun, -⟩ | ⟨message, hrun⟩ <;> cases hrun

end PropertyQuery

end Dss
