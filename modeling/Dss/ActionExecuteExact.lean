import Dss.ActionFragments
import Dss.SystemTriggerIsolation

/-!
# Which delayed actions are executed

What is executed is made of pieces, one for each delay: the actions that the filter lets pass, up
to the first one that throws. The pieces are right if the filter lets pass the actions that have
the delay, and no action throws that has others behind it.
-/

namespace Dss

open List

namespace ActionExecute

open SystemTrigger Event

variable {S : Type} {rt : ActionRuntime S} {properties : Properties} {path : String}
  {delay start now : ℤ} {r : EventRunner S} {e : Event} {actions : List Action}
  {base : PropertyNode}

/-! ## One step -/

def upTo {α : Type} (p : α → Bool) : List α → List α
  | [] => []
  | a :: as => a :: if p a then [] else upTo p as

section upTo

variable {α β : Type} {p : α → Bool} {l : List α}

theorem initial_upTo : upTo p l <+: l := by
  induction l with
  | nil => exact prefix_rfl
  | cons a as ih =>
    rw [upTo]
    split_ifs
    · exact prefix_cons_inj a |>.mpr nil_prefix
    · exact prefix_cons_inj a |>.mpr ih

theorem upTo_eq_self_iff : upTo p l = l ↔ l.Pairwise fun a _ => p a = false := by
  induction l with
  | nil => exact iff_of_true rfl List.Pairwise.nil
  | cons a as ih =>
    rw [upTo, pairwise_cons, ← ih, cons.injEq]
    by_cases ha : p a = true
    · rw [if_pos ha]
      constructor
      · rintro ⟨-, h⟩
        rw [← h]
        exact ⟨nofun, rfl⟩
      · rintro ⟨h, -⟩
        refine ⟨rfl, ?_⟩
        cases as with
        | nil => rfl
        | cons b bs =>
          rw [h b mem_cons_self] at ha
          cases ha
    · rw [if_neg ha]
      exact ⟨fun h => ⟨fun _ _ => Bool.eq_false_iff.mpr ha, h.2⟩, fun h => ⟨rfl, h.2⟩⟩

theorem map_upTo_filter_eq_iff {f : α → β} {A B : α → Bool}
    (hAB : ∀ a ∈ l, A a = true → B a = true) :
    (upTo p (l.filter A)).map f = (l.filter B).map f ↔
      (∀ a ∈ l, B a = true → A a = true) ∧ (l.filter B).Pairwise fun a _ => p a = false := by
  have hsublist : (l.filter A).Sublist (l.filter B) := by
    have hfilter : l.filter A = (l.filter B).filter A := by
      rw [filter_filter]
      refine filter_congr fun a ha => ?_
      cases hA : A a
      · rfl
      · rw [hAB a ha hA]
        rfl
    rw [hfilter]
    exact filter_sublist
  constructor
  · intro h
    have hlength := congrArg length h
    rw [length_map, length_map] at hlength
    have hall : upTo p (l.filter A) = l.filter B :=
      (initial_upTo.sublist.trans hsublist).eq_of_length hlength
    have hfilter : l.filter A = l.filter B :=
      hsublist.antisymm (hall ▸ initial_upTo.sublist)
    rw [hfilter] at hall
    refine ⟨fun a ha hB => ?_, upTo_eq_self_iff.1 hall⟩
    have hmem : a ∈ l.filter A := hfilter ▸ mem_filter.mpr ⟨ha, hB⟩
    exact (mem_filter.mp hmem).2
  · rintro ⟨hBA, hpairwise⟩
    have hfilter : l.filter A = l.filter B :=
      filter_congr fun a ha => Bool.eq_iff_iff.mpr ⟨hAB a ha, hBA a ha⟩
    rw [hfilter, upTo_eq_self_iff.2 hpairwise]

end upTo

theorem executeStep_eq : (executeStep rt now actions).1 =
    (upTo (throws rt now) actions).map fun action => (now, action.2) := by
  induction actions with
  | nil => rfl
  | cons action actions ih =>
    rw [executeStep, upTo, throws]
    split
    · simp
    · simp [ih]

/-! ## The delays -/

theorem mem_unique {a : ℤ} {l : List ℤ} : a ∈ unique l ↔ a ∈ l := by
  induction l using unique.induct with
  | case1 => exact Iff.rfl
  | case2 b => exact Iff.rfl
  | case3 b l ih =>
    rw [unique, if_pos rfl, ih]
    simp
  | case4 b c l hne ih =>
    rw [unique, if_neg hne, mem_cons, ih, ← mem_cons]

theorem pairwise_unique {l : List ℤ} (h : l.Pairwise (· ≤ ·)) : (unique l).Pairwise (· < ·) := by
  induction l using unique.induct with
  | case1 => exact List.Pairwise.nil
  | case2 b => exact pairwise_singleton _ _
  | case3 b l ih =>
    rw [unique, if_pos rfl]
    exact ih (pairwise_cons.mp h).2
  | case4 b c l hne ih =>
    obtain ⟨hle, htail⟩ := pairwise_cons.mp h
    rw [unique, if_neg hne]
    refine pairwise_cons.mpr ⟨fun a ha => ?_, ih htail⟩
    have hbc := hle c mem_cons_self
    rcases mem_cons.mp (mem_unique.1 ha) with rfl | hmem
    · omega
    · have hca := (pairwise_cons.mp htail).1 a hmem
      omega

theorem mem_oDelay {d : ℤ} :
    d ∈ oDelay actions ↔ d = 0 ∨ ∃ action ∈ actions, intDelay action.1 = some d := by
  rw [oDelay, mem_unique, mem_insertionSort, mem_cons, mem_filterMap]

theorem pairwise_oDelay : (oDelay actions).Pairwise (· < ·) :=
  pairwise_unique (pairwise_insertionSort (· ≤ ·) _)

theorem delayOf_mem_oDelay {action : Action} (h : action ∈ actions) :
    delayOf action ∈ oDelay actions := by
  rw [mem_oDelay, delayOf]
  rcases hdelay : intDelay action.1 with - | d
  · exact Or.inl rfl
  · exact Or.inr ⟨action, h, hdelay⟩

/-- No delay is negative, and an integer has 32 bits. -/
def Bounded (actions : List Action) : Prop :=
  ∀ action ∈ actions, ∀ d, intDelay action.1 = some d → 0 ≤ d ∧ d < 2 ^ 31

theorem exists_oDelay (h : Bounded actions) : ∃ delays, oDelay actions = 0 :: delays ∧
    ∀ d ∈ delays, 0 < d ∧ d < 2 ^ 31 := by
  have hbounds : ∀ d ∈ oDelay actions, 0 ≤ d ∧ d < 2 ^ 31 := by
    intro d hd
    rcases mem_oDelay.1 hd with rfl | ⟨action, haction, hd⟩
    · decide
    · exact h action haction d hd
  have hzero : (0 : ℤ) ∈ oDelay actions := mem_oDelay.2 (Or.inl rfl)
  have hpairwise := @pairwise_oDelay actions
  rcases hdelays : oDelay actions with - | ⟨d, delays⟩
  · rw [hdelays] at hzero
    cases hzero
  · rw [hdelays] at hzero hbounds hpairwise
    obtain ⟨hlt, -⟩ := pairwise_cons.mp hpairwise
    have hd : d = 0 := by
      rcases mem_cons.mp hzero with h | h
      · exact h.symm
      · have := hlt 0 h
        have := (hbounds d mem_cons_self).1
        omega
    subst hd
    exact ⟨delays, rfl, fun d hmem =>
      ⟨hlt d hmem, (hbounds d (mem_cons_of_mem 0 hmem)).2⟩⟩

theorem delayed_iff {delays : List ℤ} (h : oDelay actions = 0 :: delays)
    (hpos : ∀ d ∈ delays, 0 < d) : Delayed actions ↔ delays ≠ [] := by
  constructor
  · rintro ⟨action, haction, hne⟩ hnil
    have hmem := delayOf_mem_oDelay haction
    rw [h, hnil, mem_singleton] at hmem
    exact hne hmem
  · intro hne
    obtain ⟨d, delays', rfl⟩ := exists_cons_of_ne_nil hne
    have hd : 0 < d := hpos d mem_cons_self
    have hmem : d ∈ oDelay actions := by
      rw [h]
      exact mem_cons_of_mem 0 mem_cons_self
    rcases mem_oDelay.1 hmem with rfl | ⟨action, haction, hdelay⟩
    · omega
    · refine ⟨action, haction, ?_⟩
      rw [delayOf, hdelay, Option.getD_some]
      omega

/-! ## The law, by delays -/

theorem filter_flatMap {piece : ℤ → List (ℤ × ℕ)} {delays : List ℤ} (hnodup : delays.Nodup)
    (hpiece : ∀ d, ∀ entry ∈ piece d, entry.1 = start + d) :
    (delays.flatMap piece).filter (fun entry => entry.1 = start + delay) =
      if delay ∈ delays then piece delay else [] := by
  induction delays with
  | nil => rfl
  | cons d delays ih =>
    obtain ⟨hnotMem, hnodup⟩ := nodup_cons.mp hnodup
    rw [flatMap_cons, filter_append, ih hnodup]
    by_cases hd : delay = d
    · subst hd
      have hall : (piece delay).filter (fun entry => entry.1 = start + delay) = piece delay :=
        filter_eq_self.mpr fun entry hentry => decide_eq_true (hpiece delay entry hentry)
      rw [hall, if_neg hnotMem, if_pos mem_cons_self, append_nil]
    · have hnone : (piece d).filter (fun entry => entry.1 = start + delay) = [] := by
        refine filter_eq_nil_iff.mpr fun entry hentry => ?_
        rw [decide_eq_true_iff, hpiece d entry hentry]
        omega
      rw [hnone]
      exact if_congr (by rw [mem_cons, or_iff_right hd]) rfl rfl

def piece (rt : ActionRuntime S) (start : ℤ) (actions : List Action) (A : ℤ → Action → Bool)
    (delay : ℤ) : List (ℤ × ℕ) :=
  (executeStep rt (start + delay) (actions.filter (A delay))).1

/-- A piece is right if the filter lets all actions with the delay pass, and none of them stands
behind one that throws. -/
theorem piece_eq_iff {A : ℤ → Action → Bool}
    (hA : ∀ action ∈ actions, A delay action = true → delayOf action = delay) :
    piece rt start actions A delay =
        (actions.filter fun action => delayOf action = delay).map
          (fun action => (start + delay, action.2)) ↔
      (∀ action ∈ actions, delayOf action = delay → A delay action = true) ∧
      (actions.filter fun action => delayOf action = delay).Pairwise fun action _ =>
        throws rt (start + delay) action = false := by
  rw [piece, executeStep_eq, map_upTo_filter_eq_iff fun action haction hpass =>
    decide_eq_true (hA action haction hpass)]
  simp only [decide_eq_true_iff]

/-- **The law, by delays.** It holds if the filter lets every action pass at its delay, and no
action stands behind one of its delay that throws. -/
theorem law_iff {A : ℤ → Action → Bool} {delays : List ℤ} (hnodup : delays.Nodup)
    (hdelays : ∀ action ∈ actions, delayOf action ∈ delays)
    (hA : ∀ d, ∀ action ∈ actions, A d action = true → delayOf action = d) :
    Law start actions (delays.flatMap (piece rt start actions A)) ↔
      (∀ action ∈ actions, A (delayOf action) action = true) ∧
      actions.Pairwise fun action other => delayOf action = delayOf other →
        throws rt (start + delayOf action) action = false := by
  have hpiece : ∀ d, ∀ entry ∈ piece rt start actions A d, entry.1 = start + d := by
    intro d entry hentry
    rw [piece, executeStep_eq] at hentry
    obtain ⟨action, -, rfl⟩ := mem_map.mp hentry
    rfl
  have hbyDelay : Law start actions (delays.flatMap (piece rt start actions A)) ↔
      ∀ d ∈ delays, (∀ action ∈ actions, delayOf action = d → A d action = true) ∧
        (actions.filter fun action => delayOf action = d).Pairwise fun action _ =>
          throws rt (start + d) action = false := by
    have hdue : ∀ d, (actions.filter fun action => start + delayOf action = start + d) =
        actions.filter fun action => delayOf action = d := by
      intro d
      refine filter_congr fun action _ => decide_eq_decide.mpr ?_
      omega
    constructor
    · intro h d hd
      have hlaw := h (start + d)
      rw [filter_flatMap hnodup hpiece, if_pos hd, hdue] at hlaw
      exact (piece_eq_iff (hA d)).mp hlaw
    · intro h t
      obtain ⟨d, rfl⟩ : ∃ d, t = start + d := ⟨t - start, by omega⟩
      rw [filter_flatMap hnodup hpiece, hdue]
      split_ifs with hd
      · exact (piece_eq_iff (hA d)).mpr (h d hd)
      · have hnone : (actions.filter fun action => delayOf action = d) = [] := by
          refine filter_eq_nil_iff.mpr fun action haction hdelay => hd ?_
          rw [← of_decide_eq_true hdelay]
          exact hdelays action haction
        rw [hnone, map_nil]
  rw [hbyDelay]
  constructor
  · intro h
    refine ⟨fun action haction =>
      (h _ (hdelays action haction)).1 action haction rfl, ?_⟩
    refine pairwise_iff_forall_sublist.mpr fun {action other} hsublist hsame => ?_
    have haction : action ∈ actions := hsublist.subset mem_cons_self
    have hpairwise := (h _ (hdelays action haction)).2
    rw [pairwise_filter] at hpairwise
    exact pairwise_iff_forall_sublist.mp hpairwise hsublist (decide_eq_true rfl)
      (decide_eq_true hsame.symm)
  · rintro ⟨hpass, hpairwise⟩ d -
    refine ⟨?_, pairwise_filter.mpr (hpairwise.imp ?_)⟩
    · rintro action haction rfl
      exact hpass action haction
    · intro action other hthrows hdelay hdelay'
      have hd := of_decide_eq_true hdelay
      have hd' := of_decide_eq_true hdelay'
      subst hd
      exact hthrows hd'.symm

/-! ## Runs -/

theorem strToInt_toString {d : ℤ} (hpos : 0 ≤ d) (hd : d < 2 ^ 31) :
    strToInt (toString d) = .ok d := by
  obtain ⟨n, rfl⟩ := Int.eq_ofNat_of_zero_le hpos
  have hparse : parseInt? (toString (n : ℤ)) = some (n : ℤ) := parseInt?_toString (by omega)
  rw [strToInt, hparse]

theorem toString_ne_empty {d : ℤ} (hpos : 0 ≤ d) (hd : d < 2 ^ 31) : toString d ≠ "" := by
  intro h
  have hread := strToInt_toString hpos hd
  rw [h] at hread
  cases hread

/-- What a delayed event says: where the action is, how late it comes, and whether conditions count.
-/
structure Carries (properties : Properties) (path : String) (delay : ℤ) (e : Event) : Prop where
  path : e.properties.lookup "path" = some path
  delay : e.properties.lookup "delay" = some (toString delay)
  ignoreConditions :
    e.properties.lookup "ignoreConditions" = properties.lookup "ignoreConditions"

theorem carries_fragment :
    Carries properties path delay (fragment properties path delay) where
  path := by
    rw [fragment_eq]
    rw [AList.lookup_insert_ne (by decide), AList.lookup_insert]
  delay := by
    exact AList.lookup_insert _
  ignoreConditions := lookup_fragment (by decide) (by decide) (by decide)

theorem Carries.withoutSchedule (h : Carries properties path delay e) :
    Carries properties path delay e.withoutSchedule where
  path := (lookup_withoutSchedule (by decide) (by decide) (by decide)).trans h.path
  delay := (lookup_withoutSchedule (by decide) (by decide) (by decide)).trans h.delay
  ignoreConditions :=
    (lookup_withoutSchedule (by decide) (by decide) (by decide)).trans h.ignoreConditions

/-- The filter for what comes back. -/
def hasDelay (delay : ℤ) (action : Action) : Bool := intDelay action.1 = some delay

theorem executed_of_carries (he : Carries properties path delay e)
    (hbase : baseActionNode rt path = some base) (hpos : 0 ≤ delay) (hdelay : delay < 2 ^ 31)
    (hconditions : checkConditions rt now properties path = .ok true) :
    (run rt now e r).executed =
      (executeStep rt now ((actionsOf base).filter (hasDelay delay))).1 := by
  have hpath : e.hasPropertySet "path" = true ∧ e.getPropertyByName "path" = path := by
    simp [hasPropertySet, getPropertyByName, Properties.has, Properties.getD, he.path]
  have hset : e.hasPropertySet "delay" = true ∧
      e.getPropertyByName "delay" = toString delay := by
    simp [hasPropertySet, getPropertyByName, Properties.has, Properties.getD, he.delay]
  have hcheck : checkConditions rt now e.properties path = .ok true := by
    rw [← hconditions, checkConditions, Properties.has, he.ignoreConditions]
    rfl
  rw [run, if_pos hpath.1, hpath.2, if_pos hset.1, hset.2]
  rw [if_pos (toString_ne_empty hpos hdelay), executeWithDelay, hbase]
  dsimp only
  split_ifs with hlength
  · rw [eq_nil_of_length_eq_zero hlength]
    rfl
  · rw [hcheck, strToInt_toString hpos hdelay]
    rfl

structure Starts (e : Event) (path : String) : Prop where
  path_eq : e.getPropertyByName "path" = path
  path_ne : path ≠ ""
  delay_eq : e.getPropertyByName "delay" = ""

theorem run_of_starts (he : Starts e path) :
    run rt now e r = execute rt now e.properties path r := by
  have hset : e.hasPropertySet "path" = true := by
    by_contra h
    have hempty := getPropertyByName_of_not_set (Bool.eq_false_iff.mpr h)
    exact he.path_ne (he.path_eq.symm.trans hempty)
  have hdelay : (if e.hasPropertySet "delay" then e.getPropertyByName "delay" else "") = "" := by
    rw [he.delay_eq, ite_self]
  rw [run, if_pos hset, he.path_eq]
  rw [hdelay, if_neg (by simp)]

theorem executions_of_not_delayed (he : Starts e path)
    (hbase : baseActionNode rt path = some base) (hbounded : Bounded (actionsOf base))
    (hconditions : ∀ t, checkConditions rt t e.properties path = .ok true)
    (hdelayed : ¬ Delayed (actionsOf base)) :
    executions rt start e r = (executeStep rt start (actionsOf base)).1 := by
  obtain ⟨delays, hdelays, hpos⟩ := exists_oDelay hbounded
  have hnil : delays = [] := by
    by_contra hne
    exact hdelayed ((delayed_iff hdelays fun d hd => (hpos d hd).1).mpr hne)
  have hexecute : (execute rt start e.properties path r).executed =
        (executeStep rt start (actionsOf base)).1 ∧
      (execute rt start e.properties path r).eventRunner = r := by
    rw [execute, if_neg he.path_ne, hbase]
    dsimp only
    by_cases hlength : (actionsOf base).length = 0
    · rw [eq_nil_of_length_eq_zero hlength]
      exact ⟨rfl, rfl⟩
    · rw [if_neg hlength, hdelays, hnil, hconditions]
      exact ⟨rfl, rfl⟩
  rw [executions, run_of_starts he, hexecute.1, hexecute.2, deliveries]
  simp

/-- With delays, nothing is executed at once: the fragment without delay is queued, and the others
are scheduled. -/
theorem execute_of_delayed (he : Starts e path) (hbase : baseActionNode rt path = some base)
    {delays : List ℤ} (hdelays : oDelay (actionsOf base) = 0 :: delays) (hne : delays ≠ [])
    (hfresh : e.properties.getD "unique" "" ≠ "" → Fresh e.properties path r) :
    (run rt start e r).executed = [] ∧
      (run rt start e r).eventRunner =
        (pushFragments rt start e.properties path delays
          { r with eventQueue := r.eventQueue ++ [fragment e.properties path 0] }).1 := by
  have hlength : 1 < (0 :: delays).length := by
    exact Nat.lt_add_of_pos_left (length_pos_iff.mpr hne)
  have hactions : (actionsOf base).length ≠ 0 := by
    intro h
    rw [eq_nil_of_length_eq_zero h] at hdelays
    cases hdelays
    exact hne rfl
  rw [run_of_starts he, execute, if_neg he.path_ne, hbase]
  dsimp only
  rw [if_neg hactions, hdelays, if_pos hlength, pushFragments, pushEvent_fragment_zero hfresh]
  exact ⟨rfl, rfl⟩

theorem deliveries_of_added {r' : EventRunner S} {zero : Event}
    {entries : List (Schedule S × Event)}
    (h : Added { r with eventQueue := r.eventQueue ++ [zero] } r' entries) :
    deliveries start r r' = (start, zero) :: entries.filterMap fun x =>
      match x.1 with
      | .static due => some (due, x.2.withoutSchedule)
      | .iCal _ => none := by
  obtain ⟨hqueue, xs, hxs, rfl⟩ := h
  rw [deliveries, hqueue, hxs, drop_left, drop_left, filterMap_map]
  rfl

theorem executed_of_entries (hbase : baseActionNode rt path = some base)
    (hconditions : ∀ t, checkConditions rt t properties path = .ok true)
    {entries : List (ℤ × ℤ)} (hbounds : ∀ entry ∈ entries, 0 ≤ entry.2 ∧ entry.2 < 2 ^ 31) :
    ((entries.map fun entry =>
        (Schedule.static entry.1, fragment properties path entry.2)).filterMap
      fun x : Schedule S × Event =>
        match x.1 with
        | .static due => some (due, x.2.withoutSchedule)
        | .iCal _ => none).flatMap
          (fun delivery => (run rt delivery.1 delivery.2 r).executed) =
      entries.flatMap fun entry =>
        (executeStep rt entry.1 ((actionsOf base).filter (hasDelay entry.2))).1 := by
  induction entries with
  | nil => rfl
  | cons entry entries ih =>
    obtain ⟨hpos, hdelay⟩ := hbounds entry mem_cons_self
    rw [map_cons, filterMap_cons]
    rw [flatMap_cons, flatMap_cons,
      executed_of_carries carries_fragment.withoutSchedule hbase hpos hdelay (hconditions _),
      ih fun other hmem => hbounds other (mem_cons_of_mem entry hmem)]

theorem executions_of_added (he : Starts e path) (hbase : baseActionNode rt path = some base)
    (hconditions : ∀ t, checkConditions rt t e.properties path = .ok true)
    {delays : List ℤ} (hdelays : oDelay (actionsOf base) = 0 :: delays) (hne : delays ≠ [])
    (hfresh : e.properties.getD "unique" "" ≠ "" → Fresh e.properties path r)
    {entries : List (ℤ × ℤ)} (hbounds : ∀ entry ∈ entries, 0 ≤ entry.2 ∧ entry.2 < 2 ^ 31)
    (hadded : Added { r with eventQueue := r.eventQueue ++ [fragment e.properties path 0] }
      (pushFragments rt start e.properties path delays
        { r with eventQueue := r.eventQueue ++ [fragment e.properties path 0] }).1
      (entries.map fun entry => (.static entry.1, fragment e.properties path entry.2))) :
    executions rt start e r =
      (executeStep rt start ((actionsOf base).filter (hasDelay 0))).1 ++
        entries.flatMap fun entry =>
          (executeStep rt entry.1 ((actionsOf base).filter (hasDelay entry.2))).1 := by
  obtain ⟨hnil, hrunner⟩ := @execute_of_delayed S rt path start r e base he hbase delays hdelays
    hne hfresh
  rw [executions, hnil, nil_append, hrunner, deliveries_of_added hadded, flatMap_cons,
    executed_of_carries carries_fragment hbase (by decide) (by decide) (hconditions start),
    executed_of_entries hbase hconditions hbounds]

theorem executions_of_pieces {delays : List ℤ} :
    ((executeStep rt start (actions.filter (hasDelay 0))).1 ++
      (delays.map fun d => (start + d, d)).flatMap fun entry =>
        (executeStep rt entry.1 (actions.filter (hasDelay entry.2))).1) =
      (0 :: delays).flatMap (piece rt start actions hasDelay) := by
  rw [flatMap_cons, piece, Int.add_zero, flatMap_map]
  rfl

theorem executions_of_delayed (he : Starts e path) (hbase : baseActionNode rt path = some base)
    (hconditions : ∀ t, checkConditions rt t e.properties path = .ok true)
    (hfresh : e.properties.getD "unique" "" ≠ "" → Fresh e.properties path r)
    {delays : List ℤ} (hdelays : oDelay (actionsOf base) = 0 :: delays) (hne : delays ≠ [])
    (hpos : ∀ d ∈ delays, 0 < d ∧ d < 2 ^ 31)
    (h : e.properties.getD "unique" "" = "" ∨ ∃ d, delays = [d]) :
    executions rt start e r =
      (oDelay (actionsOf base)).flatMap (piece rt start (actionsOf base) hasDelay) := by
  have hbounds : ∀ entry ∈ delays.map fun d => (start + d, d),
      0 ≤ entry.2 ∧ entry.2 < 2 ^ 31 := by
    intro entry hentry
    obtain ⟨d, hd, rfl⟩ := mem_map.mp hentry
    exact ⟨Int.le_of_lt (hpos d hd).1, (hpos d hd).2⟩
  rw [hdelays, ← executions_of_pieces]
  refine executions_of_added he hbase hconditions hdelays hne hfresh hbounds ?_
  rw [map_map]
  by_cases hunique : e.properties.getD "unique" "" = ""
  · exact (pushFragments_of_not_unique hunique hpos).2
  · obtain ⟨d, rfl⟩ := h.resolve_left hunique
    refine (pushFragments_of_unique hunique (fun y hy => ?_) hpos).2
    exact hfresh hunique y.event (mem_append_right _ (mem_map_of_mem hy))

theorem not_law_of_merged (he : Starts e path) (hbase : baseActionNode rt path = some base)
    (hconditions : ∀ t, checkConditions rt t e.properties path = .ok true)
    (hfresh : e.properties.getD "unique" "" ≠ "" → Fresh e.properties path r)
    {d d' : ℤ} {delays : List ℤ} (hdelays : oDelay (actionsOf base) = 0 :: d :: d' :: delays)
    (hpos : ∀ other ∈ d :: d' :: delays, 0 < other ∧ other < 2 ^ 31)
    (hunique : e.properties.getD "unique" "" ≠ "") :
    ¬ Law start (actionsOf base) (executions rt start e r) := by
  have hlast : (d :: d' :: delays).getLast nofun ∈ d' :: delays := by
    exact getLast_mem _
  generalize hdlast : (d :: d' :: delays).getLast nofun = last at hlast
  have hlater : d < last := by
    have hpairwise := @pairwise_oDelay (actionsOf base)
    rw [hdelays] at hpairwise
    exact (pairwise_cons.mp (pairwise_cons.mp hpairwise).2).1 last hlast
  have hbounds := hpos last (mem_cons_of_mem d hlast)
  have hadded := (@pushFragments_of_unique S rt e.properties path d start
    { r with eventQueue := r.eventQueue ++ [fragment e.properties path 0] } hunique
    (fun y hy => hfresh hunique y.event (mem_append_right _ (mem_map_of_mem hy)))
    (d' :: delays) hpos).2
  rw [hdlast] at hadded
  have hexecutions := @executions_of_added S rt path start r e base he hbase hconditions _ hdelays
    nofun hfresh [(start + d, last)]
    (fun entry hentry => by
      rw [mem_singleton.mp hentry]
      exact ⟨Int.le_of_lt hbounds.1, hbounds.2⟩) hadded
  have hmem : last ∈ oDelay (actionsOf base) := by
    rw [hdelays]
    exact mem_cons_of_mem 0 (mem_cons_of_mem d hlast)
  obtain ⟨action, haction, hdelay⟩ : ∃ action ∈ actionsOf base, delayOf action = last := by
    rcases mem_oDelay.1 hmem with hzero | ⟨action, haction, hdelay⟩
    · omega
    · exact ⟨action, haction, by rw [delayOf, hdelay, Option.getD_some]⟩
  intro hlaw
  have hdue : (start + last, action.2) ∈
      (executions rt start e r).filter fun entry => entry.1 = start + last := by
    rw [hlaw (start + last)]
    exact mem_map.mpr ⟨action, mem_filter.mpr ⟨haction, by rw [hdelay]; simp⟩, rfl⟩
  have hexecuted := (mem_filter.mp hdue).1
  have htimes : ∀ t (as : List Action), (start + last, action.2) ∈ (executeStep rt t as).1 →
      start + last = t := by
    intro t as hmem
    rw [executeStep_eq] at hmem
    obtain ⟨_, _, heq⟩ := mem_map.mp hmem
    exact (congrArg Prod.fst heq).symm
  rw [hexecutions, flatMap_singleton] at hexecuted
  rcases mem_append.mp hexecuted with h | h
  · have := htimes _ _ h
    omega
  · have := htimes _ _ h
    omega

theorem delayOf_of_hasDelay {action : Action} (h : hasDelay delay action = true) :
    delayOf action = delay := by
  rw [delayOf, of_decide_eq_true h, Option.getD_some]

theorem hasDelay_delayOf {action : Action} :
    hasDelay (delayOf action) action = true ↔ (intDelay action.1).isSome = true := by
  rw [hasDelay, delayOf]
  cases intDelay action.1 <;> simp

/-- **Delayed actions.** Every action is executed once, at its delay, and those of one delay in
the order of the list, if and only if: where there are delays, every action has one; if the event
is unique, all delays but 0 are equal; and no action that throws has another one of its delay
behind it. -/
theorem executions_iff (rt : ActionRuntime S) (start : ℤ) (e : Event) (path : String)
    (base : PropertyNode) (r : EventRunner S) (he : Starts e path)
    (hbase : baseActionNode rt path = some base) (hbounded : Bounded (actionsOf base))
    (hconditions : ∀ t, checkConditions rt t e.properties path = .ok true)
    (hfresh : e.properties.getD "unique" "" ≠ "" → Fresh e.properties path r) :
    Law start (actionsOf base) (executions rt start e r) ↔
      Fits rt start e.properties (actionsOf base) := by
  obtain ⟨delays, hdelays, hpos⟩ := exists_oDelay hbounded
  have hdelayed := delayed_iff hdelays fun d hd => (hpos d hd).1
  have hlaw := @law_iff S rt start (actionsOf base) hasDelay (oDelay (actionsOf base))
    (pairwise_oDelay.imp ne_of_lt) (fun _ => delayOf_mem_oDelay) fun _ _ _ => delayOf_of_hasDelay
  simp only [hasDelay_delayOf] at hlaw
  rcases delays with - | ⟨d, delays⟩
  · -- no delays: the one piece is everything
    have hnone : ¬ Delayed (actionsOf base) := fun h => hdelayed.mp h rfl
    have hzero : ∀ action ∈ actionsOf base, delayOf action = 0 := fun action haction => by
      by_contra hne
      exact hnone ⟨action, haction, hne⟩
    have hall : ((actionsOf base).filter fun action => delayOf action = 0) = actionsOf base :=
      filter_eq_self.mpr fun action haction => decide_eq_true (hzero action haction)
    have hlaw := @law_iff S rt start (actionsOf base) (fun d action => delayOf action = d) [0]
      (nodup_singleton 0)
      (fun action haction => mem_singleton.mpr (hzero action haction))
      fun _ _ _ => of_decide_eq_true
    rw [flatMap_singleton, piece, Int.add_zero, hall] at hlaw
    rw [executions_of_not_delayed he hbase hbounded hconditions hnone, hlaw]
    constructor
    · rintro ⟨-, hpairwise⟩
      exact ⟨fun h => absurd h hnone,
        fun _ action haction _ _ hne => absurd (hzero action haction) hne, hpairwise⟩
    · exact fun h => ⟨fun _ _ => decide_eq_true rfl, h.pairwise⟩
  · have hsome : Delayed (actionsOf base) := hdelayed.mpr (cons_ne_nil d delays)
    by_cases hunique : e.properties.getD "unique" "" = ""
    · rw [executions_of_delayed he hbase hconditions hfresh hdelays (cons_ne_nil d delays) hpos
        (Or.inl hunique), hlaw]
      exact ⟨fun h => ⟨fun _ => h.1, fun h' => absurd hunique h', h.2⟩,
        fun h => ⟨h.isSome hsome, h.pairwise⟩⟩
    · rcases delays with - | ⟨d', delays⟩
      · -- one delay: nothing is merged
        rw [executions_of_delayed he hbase hconditions hfresh hdelays (cons_ne_nil d []) hpos
          (Or.inr ⟨d, rfl⟩), hlaw]
        have hsame : ∀ action ∈ actionsOf base, delayOf action ≠ 0 → delayOf action = d := by
          intro action haction hne
          have hmem := delayOf_mem_oDelay haction
          rw [hdelays] at hmem
          exact mem_singleton.mp ((mem_cons.mp hmem).resolve_left hne)
        exact ⟨fun h => ⟨fun _ => h.1, fun _ action haction other hother hne hne' =>
            (hsame action haction hne).trans (hsame other hother hne').symm, h.2⟩,
          fun h => ⟨h.isSome hsome, h.pairwise⟩⟩
      · -- two delays: there are actions for both
        refine iff_of_false
          (not_law_of_merged he hbase hconditions hfresh hdelays hpos hunique) fun h => ?_
        have hmem : ∀ other ∈ d :: d' :: delays,
            ∃ action ∈ actionsOf base, delayOf action = other := by
          intro other hother
          have hin : other ∈ oDelay (actionsOf base) := by
            rw [hdelays]
            exact mem_cons_of_mem 0 hother
          rcases mem_oDelay.1 hin with hzero | ⟨action, haction, hdelay⟩
          · have := (hpos other hother).1
            omega
          · exact ⟨action, haction, by rw [delayOf, hdelay, Option.getD_some]⟩
        have hd' : d' ∈ d :: d' :: delays := mem_cons_of_mem d mem_cons_self
        obtain ⟨action, haction, rfl⟩ := hmem d mem_cons_self
        obtain ⟨other, hother, rfl⟩ := hmem d' hd'
        have hpairwise := @pairwise_oDelay (actionsOf base)
        rw [hdelays] at hpairwise
        have hlt := (pairwise_cons.mp (pairwise_cons.mp hpairwise).2).1 _
          mem_cons_self
        have hpos₁ := (hpos _ mem_cons_self).1
        have := h.unique hunique action haction other hother (by omega) (by omega)
        omega

/-! ## Single runs -/

def delayedAction (name : String) (delay : ℤ) : PropertyNode :=
  { name := name, children := [{ name := "delay", value := .integer delay }] }

def eveningEvent : Event where
  name := "action_execute"
  properties := ((∅ : Properties).insert "path" "/usr/events/evening").insert
    "ignoreConditions" "true"

def eveningRuntime (actions : List PropertyNode) : ActionRuntime Unit where
  runner := EventRunner.wakeRuntime
  conditions _ := bareRuntime
  definition _ :=
    some { name := "evening", children := [{ name := "actions", children := actions }] }
  perform _ _ _ := none

def idleRunner : EventRunner Unit := { monitorNode := { name := "schedule" } }

/-- Two actions at once, and one five seconds later. -/
theorem executions_evening :
    Law 0 (actionsOf { name := "actions", children :=
        [delayedAction "light" 0, delayedAction "blind" 5, delayedAction "door" 0] })
      (executions (eveningRuntime
        [delayedAction "light" 0, delayedAction "blind" 5, delayedAction "door" 0])
        0 eveningEvent idleRunner) := by
  have hstarts : Starts eveningEvent "/usr/events/evening" := ⟨by decide, by decide, by decide⟩
  have hcheck : ∀ t, checkConditions (eveningRuntime
      [delayedAction "light" 0, delayedAction "blind" 5, delayedAction "door" 0]) t
      eveningEvent.properties "/usr/events/evening" = .ok true := fun _ => rfl
  refine (executions_iff _ 0 eveningEvent _ _ idleRunner hstarts rfl ?_ hcheck
    fun h => absurd rfl h).mpr ⟨fun _ => by decide, fun h => absurd rfl h, by decide⟩
  intro action haction d hd
  rcases mem_cons.mp haction with rfl | haction
  · cases hd
    decide
  rcases mem_cons.mp haction with rfl | haction
  · cases hd
    decide
  · cases mem_singleton.mp haction
    cases hd
    decide

/-- Of an action without delay and one with a delay, the first is never executed. -/
theorem executions_fails :
    ¬ Law 0 (actionsOf { name := "actions", children := [{ name := "light" },
        delayedAction "blind" 5] })
      (executions (eveningRuntime [{ name := "light" }, delayedAction "blind" 5])
        0 eveningEvent idleRunner) := by
  have hexecuted : executions (eveningRuntime [{ name := "light" }, delayedAction "blind" 5])
      0 eveningEvent idleRunner = [(5, 1)] := by
    decide +kernel
  intro hlaw
  have hstart := hlaw 0
  rw [hexecuted] at hstart
  exact absurd hstart (by decide)

end ActionExecute

end Dss
