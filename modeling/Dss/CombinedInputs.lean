import Dss.SystemState
import Dss.Transition

/-!
# The state combined of several inputs

When is a combined state active exactly as long as one of its inputs is? Inputs of different target
groups below `GroupIDAppUserMin` share a state and not the counter, and a change to or from unknown
does not say whether the counter holds the input. A run that avoids both keeps the states right.
-/

namespace Dss

open List Option Function

namespace SystemState

open Transition

/-! ## Inputs -/

structure Ref : Type where
  device : Device
  index : ℕ
  input : Input
  deriving DecidableEq

def refs (devices : List Device) : List Ref :=
  devices.flatMap fun d => d.binaryInputs.zipIdx.map fun p => ⟨d, p.2, p.1⟩

def isCombinedType : BinaryInputType → Bool
  | .movement | .movementInDarkness | .presence | .presenceInDarkness | .windDetector
  | .rainDetector => true
  | _ => false

def combinedState (d : Device) (input : Input) : String :=
  match input.inputType with
  | .movement | .movementInDarkness =>
    if groupIDAppUserMin ≤ input.targetGroupId then formatGroupName "motion" input.targetGroupId
    else formatZoneName "motion" d.zoneID
  | .presence | .presenceInDarkness =>
    if groupIDAppUserMin ≤ input.targetGroupId then
      formatGroupName "presence" input.targetGroupId
    else formatZoneName "presence" d.zoneID
  | .windDetector =>
    if groupIDAppUserMin ≤ input.targetGroupId then
      formatAppartmentStateName "wind" input.targetGroupId
    else "wind"
  | .rainDetector =>
    if groupIDAppUserMin ≤ input.targetGroupId then
      formatAppartmentStateName "rain" input.targetGroupId
    else "rain"
  | _ => ""

def registers (input : Input) : Bool :=
  match input.inputType with
  | .windDetector | .rainDetector => decide (groupIDAppUserMin ≤ input.targetGroupId)
  | _ => true

namespace Ref

def name (r : Ref) : String := combinedState r.device r.input

def node (r : Ref) : String := counterNode r.name r.input.targetGroupId

end Ref

/-- The devices of an apartment whose inputs are all in application mode and of
the combined types. -/
structure Installation : Type where
  devices : List Device
  nodup : (devices.map Device.dsuid).Nodup
  combined : ∀ d ∈ devices, ∀ input ∈ d.binaryInputs,
    input.inputId = appMode ∧ isCombinedType input.inputType = true

namespace Installation

abbrev refs (a : Installation) : List Ref := SystemState.refs a.devices

end Installation

theorem mem_refs {devices : List Device} {r : Ref} :
    r ∈ refs devices ↔ r.device ∈ devices ∧ r.device.binaryInputs[r.index]? = some r.input := by
  simp only [refs, mem_flatMap, List.mem_map, mem_zipIdx_iff_getElem?]
  constructor
  · rintro ⟨d, hd, p, hp, rfl⟩
    exact ⟨hd, hp⟩
  · rintro ⟨hd, hr⟩
    exact ⟨r.device, hd, (r.input, r.index), hr, rfl⟩

theorem nodup_refs {devices : List Device} (h : (devices.map Device.dsuid).Nodup) :
    (refs devices).Nodup := by
  rw [refs, nodup_flatMap]
  constructor
  · intro d _
    have hidx : (d.binaryInputs.zipIdx.map Prod.snd).Nodup := by
      rw [zipIdx_map_snd]
      exact nodup_range'
    refine List.Nodup.of_map Ref.index ?_
    rw [List.map_map]
    exact hidx
  · refine (List.Nodup.of_map _ h).imp ?_
    intro d e hne r hr hr'
    obtain ⟨p, -, rfl⟩ := mem_map.mp hr
    obtain ⟨q, -, hq⟩ := mem_map.mp hr'
    exact hne (Ref.mk.inj hq).1.symm

/-! ## Names -/

theorem Ref.name_eq_of_node_eq {q r : Ref} (h : q.node = r.node) : q.name = r.name :=
  (name_dot_number_inj h).1

theorem length_formatZoneName (name : String) (zoneID : ℤ) :
    4 < (formatZoneName name zoneID).length := by
  have h : "zone.".length = 5 := rfl
  simp only [formatZoneName, String.length_append, h]
  omega

theorem length_formatGroupName (name : String) (groupID : ℕ) :
    4 < (formatGroupName name groupID).length := by
  have h : "cluster.".length = 8 := rfl
  simp only [formatGroupName, String.length_append, h]
  omega

theorem length_formatAppartmentStateName (name : String) (groupID : ℕ) :
    4 < (formatAppartmentStateName name groupID).length := by
  have h : ".group".length = 6 := rfl
  simp only [formatAppartmentStateName, String.length_append, h]
  omega

theorem lt_length_iff_registers {d : Device} {input : Input}
    (hc : isCombinedType input.inputType = true) :
    4 < (combinedState d input).length ↔ registers input = true := by
  have hwind : "wind".length = 4 := rfl
  have hrain : "rain".length = 4 := rfl
  unfold combinedState registers
  cases h : input.inputType <;> rw [h] at hc
  all_goals first
    | exact absurd hc Bool.false_ne_true
    | (by_cases hg : groupIDAppUserMin ≤ input.targetGroupId <;>
        simp [hg, hwind, hrain, length_formatGroupName, length_formatZoneName,
          length_formatAppartmentStateName])

theorem registers_eq_of_name_eq {q r : Ref} (hq : isCombinedType q.input.inputType = true)
    (hr : isCombinedType r.input.inputType = true) (h : q.name = r.name) :
    registers q.input = registers r.input := by
  rw [Bool.eq_iff_iff, ← lt_length_iff_registers (d := q.device) hq,
    ← lt_length_iff_registers (d := r.device) hr]
  exact iff_of_eq (congrArg (fun n : String => 4 < n.length) h)

/-! ## What one change does -/

namespace States

def stateOf (s : States) (name : String) : Option ℤ := (s.states name).map State.state

variable {s : States} {name other node dsuid : String} {n value : ℤ}

theorem counter_setCounter :
    (s.setCounter node n).counter other = if other = node then n else s.counter other := by
  simp only [setCounter, counter, update_apply]
  split_ifs <;> rfl

theorem stateOf_modify {f : State → State} :
    (s.modify name f).stateOf other =
      if other = name then (s.states name).map (fun st => (f st).state) else s.stateOf other := by
  simp only [modify, stateOf, update_apply]
  split_ifs
  · rw [Option.map_map]
    rfl
  · rfl

theorem stateOf_setState :
    (s.setState name value).stateOf other =
      if other = name then (s.stateOf name).map (fun _ => value) else s.stateOf other := by
  rw [setState, stateOf_modify]
  split_ifs
  · rw [stateOf, Option.map_map]
    rfl
  · rfl

@[simp] theorem stateOf_setOriginDeviceDSUID :
    (s.setOriginDeviceDSUID name dsuid).stateOf other = s.stateOf other := by
  rw [setOriginDeviceDSUID, stateOf_modify]
  split_ifs with h
  · rw [h, stateOf]
  · rfl

@[simp] theorem counter_getOrRegisterState : (s.getOrRegisterState name).counter = s.counter := by
  unfold getOrRegisterState
  split <;> rfl

theorem stateOf_getOrRegisterState :
    (s.getOrRegisterState name).stateOf other =
      if other = name then some ((s.stateOf name).getD (s.stored name).state)
      else s.stateOf other := by
  unfold getOrRegisterState
  by_cases h : other = name
  · rw [h]
    cases hs : s.states name with
    | none => simp [stateOf, hs]
    | some st => simp [stateOf, hs]
  · split
    · rfl
    · simp only [stateOf, update_of_ne h]

end States

def nextCount (value count : ℤ) : ℤ :=
  if value = stateActive then count + 1
  else if value = stateInactive then (if 0 < count then count - 1 else count)
  else count

/-- What becomes of the state whose counter is now `count`. -/
def nextState (value count state : ℤ) : ℤ :=
  if value = stateActive then stateActive
  else if value = stateInactive ∧ count = 0 then stateInactive
  else state

def changeEvent (r : Ref) (value : ℤ) : StateChange :=
  { device := r.device
    statename := some (makeName r.device.dsuid r.index)
    value := some (toString value) }

def values : List ℤ := [stateActive, stateInactive, stateUnknown]

theorem iVal_changeEvent {r : Ref} {value : ℤ} (hv : value ∈ values) :
    (changeEvent r value).iVal = some value := by
  simp only [values, mem_cons, not_mem_nil, or_false] at hv
  rcases hv with rfl | rfl | rfl <;> rfl

theorem counter_create (s : States) (node other : String) :
    (if (s.counters node).isNone then s.setCounter node 0 else s).counter other =
      s.counter other := by
  split_ifs with h
  · rw [States.counter_setCounter]
    split_ifs with ho
    · rw [ho, States.counter, isNone_iff_eq_none.mp h, getD_none]
    · rfl
  · rfl

theorem counter_down (s : States) (node other : String) :
    (if 0 < s.counter node then s.setCounter node (s.counter node - 1) else s).counter other =
      if other = node then nextCount stateInactive (s.counter node) else s.counter other := by
  have hne : ¬ stateInactive = stateActive := by decide
  rw [nextCount, if_pos rfl]
  split_ifs with hpos ho ho
  · rw [States.counter_setCounter, if_pos ho]
  · rw [States.counter_setCounter, if_neg ho]
  · rw [ho]
  · rfl

theorem generic_spec (s : States) (r : Ref) {value : ℤ} (name : String) (group : ℕ)
    (hv : value ∈ values) :
    (∀ node, (stateBinaryInputGeneric s (changeEvent r value) name group).counter node =
      if node = counterNode name group then
        nextCount value (s.counter (counterNode name group))
      else s.counter node) ∧
    ∀ other, (stateBinaryInputGeneric s (changeEvent r value) name group).stateOf other =
      if other = name then
        (s.stateOf name).map
          (nextState value (nextCount value (s.counter (counterNode name group))))
      else s.stateOf other := by
  have hcreate := counter_create s (counterNode name group)
  have hstate : (if (s.counters (counterNode name group)).isNone then
      s.setCounter (counterNode name group) 0 else s).stateOf = s.stateOf := by
    split_ifs <;> rfl
  unfold stateBinaryInputGeneric
  rw [iVal_changeEvent hv]
  dsimp only
  generalize (if (s.counters (counterNode name group)).isNone then
    s.setCounter (counterNode name group) 0 else s) = t at hcreate hstate
  rw [← hstate]
  simp only [← hcreate]
  simp only [values, mem_cons, not_mem_nil, or_false] at hv
  rcases hv with rfl | rfl | rfl
  · rw [if_pos (show stateActive = 1 from rfl)]
    refine ⟨fun node => ?_, fun other => ?_⟩
    · exact States.counter_setCounter
    · rw [States.stateOf_setOriginDeviceDSUID, States.stateOf_setState]
      rfl
  · rw [if_neg (by decide : ¬ stateInactive = 1), if_pos (show stateInactive = 2 from rfl)]
    have hcount := counter_down t (counterNode name group)
    have hkeep : (if 0 < t.counter (counterNode name group) then
        t.setCounter (counterNode name group) (t.counter (counterNode name group) - 1)
        else t).stateOf = t.stateOf := by
      split_ifs <;> rfl
    generalize (if 0 < t.counter (counterNode name group) then
        t.setCounter (counterNode name group) (t.counter (counterNode name group) - 1)
        else t) = u at hcount hkeep
    have hself := hcount (counterNode name group)
    rw [if_pos rfl] at hself
    refine ⟨fun node => ?_, fun other => ?_⟩
    · rw [← hcount node]
      split_ifs <;> rfl
    · rw [← hself, ← hkeep, States.stateOf_setOriginDeviceDSUID]
      by_cases h0 : u.counter (counterNode name group) = 0
      · rw [if_pos h0, States.stateOf_setState, h0]
        rfl
      · have hid : nextState stateInactive (u.counter (counterNode name group)) = id := by
          funext st
          simp [nextState, h0, stateInactive, stateActive]
        rw [hid, Option.map_id, id]
        split_ifs with ho
        · rw [ho]
        · rfl
  · rw [if_neg (by decide : ¬ stateUnknown = 1), if_neg (by decide : ¬ stateUnknown = 2)]
    refine ⟨fun node => ?_, fun other => ?_⟩
    · split_ifs with hn
      · rw [hn]
        rfl
      · rfl
    · split_ifs with ho
      · rw [ho]
        exact map_id'.symm
      · rfl

/-- Whether an event of the input reaches its state. -/
def Heard (s : States) (r : Ref) : Prop :=
  registers r.input = true ∨ (s.stateOf r.name).isSome

instance (s : States) (r : Ref) : Decidable (Heard s r) := inferInstanceAs (Decidable (_ ∨ _))

def foundState (s : States) (r : Ref) : ℤ := (s.stateOf r.name).getD (s.stored r.name).state

theorem combine_eq {s : States} {r : Ref} {value : ℤ}
    (hc : isCombinedType r.input.inputType = true) :
    combine s (changeEvent r value) r.input =
      if registers r.input then
        combineRegistered s (changeEvent r value) r.name r.input.targetGroupId
      else combineExisting s (changeEvent r value) r.name r.input.targetGroupId := by
  unfold combine Ref.name combinedState registers
  cases h : r.input.inputType <;> rw [h] at hc
  all_goals first
    | exact absurd hc Bool.false_ne_true
    | (by_cases hg : groupIDAppUserMin ≤ r.input.targetGroupId <;>
        simp [combineInZone, combineInApartment, hg, changeEvent])

theorem combine_spec {s : States} {r : Ref} {value : ℤ} (hv : value ∈ values)
    (hc : isCombinedType r.input.inputType = true) (hheard : Heard s r) :
    (∀ node, (combine s (changeEvent r value) r.input).counter node =
      if node = r.node then nextCount value (s.counter r.node) else s.counter node) ∧
    ∀ name, (combine s (changeEvent r value) r.input).stateOf name =
      if name = r.name then
        some (nextState value (nextCount value (s.counter r.node)) (foundState s r))
      else s.stateOf name := by
  rw [combine_eq hc]
  cases hreg : registers r.input with
  | true =>
    rw [if_pos rfl, combineRegistered]
    obtain ⟨hcounter, hstate⟩ := generic_spec (s.getOrRegisterState r.name) r r.name
      r.input.targetGroupId hv
    rw [States.counter_getOrRegisterState] at hcounter hstate
    refine ⟨hcounter, fun name => ?_⟩
    rw [hstate, States.stateOf_getOrRegisterState, if_pos rfl,
      States.stateOf_getOrRegisterState]
    split_ifs <;> rfl
  | false =>
    have hsome : (s.stateOf r.name).isSome := by
      rcases hheard with h | h
      · rw [hreg] at h
        exact absurd h Bool.false_ne_true
      · exact h
    obtain ⟨st, hst⟩ := isSome_iff_exists.mp hsome
    obtain ⟨hcounter, hstate⟩ := generic_spec s r r.name r.input.targetGroupId hv
    have hthere : (s.states r.name).isSome := by
      rw [States.stateOf, isSome_map] at hsome
      exact hsome
    rw [if_neg Bool.false_ne_true, combineExisting, if_pos hthere]
    refine ⟨hcounter, fun name => ?_⟩
    rw [hstate, foundState, hst]
    rfl

theorem combine_of_not_heard {s : States} {r : Ref} {value : ℤ}
    (hc : isCombinedType r.input.inputType = true) (hheard : ¬ Heard s r) :
    combine s (changeEvent r value) r.input = s := by
  have hreg : ¬ registers r.input = true := fun h => hheard (Or.inl h)
  have hthere : ¬ (s.states r.name).isSome = true := fun h =>
    hheard (Or.inr (by rw [States.stateOf, isSome_map]; exact h))
  rw [combine_eq hc, if_neg hreg, combineExisting, if_neg hthere]

theorem lookup_eq_some {l : List (String × ℕ)} {key : String} {n : ℕ} (hm : (key, n) ∈ l)
    (hu : ∀ p ∈ l, p.1 = key → p.2 = n) : l.lookup key = some n := by
  induction l with
  | nil => exact absurd hm not_mem_nil
  | cons p l ih =>
    by_cases hp : p.1 = key
    · rw [lookup_cons, beq_iff_eq.mpr hp.symm, hu p mem_cons_self hp]
    · rw [lookup_cons, beq_false_of_ne (Ne.symm hp)]
      rcases mem_cons.mp hm with h | h
      · exact absurd (congrArg Prod.fst h).symm hp
      · exact ih h fun q hq => hu q (mem_cons_of_mem _ hq)

theorem lookup_inputIndexNodes {devices : List Device} {r : Ref} (hr : r ∈ refs devices) :
    (inputIndexNodes devices).lookup (makeName r.device.dsuid r.index) = some r.index := by
  obtain ⟨hd, hinput⟩ := mem_refs.1 hr
  obtain ⟨hlt, -⟩ := List.getElem?_eq_some_iff.mp hinput
  apply lookup_eq_some
  · exact mem_flatMap.mpr ⟨r.device, hd,
      mem_map.mpr ⟨r.index, mem_range.mpr hlt, rfl⟩⟩
  · intro p hp hname
    obtain ⟨d, -, hp⟩ := mem_flatMap.mp hp
    obtain ⟨i, -, rfl⟩ := mem_map.mp hp
    exact (name_dot_number_inj hname).2

theorem stateBinaryinput_changeEvent {a : Installation} {s : States} {r : Ref} {value : ℤ}
    (hr : r ∈ a.refs) :
    stateBinaryinput a.devices s (changeEvent r value) =
      combine s (changeEvent r value) r.input := by
  obtain ⟨hd, hinput⟩ := mem_refs.1 hr
  obtain ⟨happ, -⟩ := a.combined _ hd _ (mem_of_getElem? hinput)
  obtain ⟨hlt, -⟩ := List.getElem?_eq_some_iff.mp hinput
  have hbyte : r.index % 256 = r.index :=
    Nat.mod_eq_of_lt (Nat.lt_of_lt_of_le hlt r.device.length_le)
  have hname : makeName r.device.dsuid r.index ≠ "" := by
    intro h
    have := congrArg String.length h
    simp [makeName, String.length_append] at this
  simp only [stateBinaryinput, changeEvent, hname, if_false, lookup_inputIndexNodes hr, hbyte,
    hinput, happ, if_true]

/-! ## Runs -/

structure World : Type where
  value : Ref → ℤ
  states : States

/-- The state of an input changes, and the handler processes the event of that. -/
def change (a : Installation) (w : World) (l : Ref × ℤ) : Option World :=
  if l.1 ∈ a.refs ∧ l.2 ∈ values ∧ l.2 ≠ w.value l.1 then
    some
      { value := Function.update w.value l.1 l.2
        states := stateBinaryinput a.devices w.states (changeEvent l.1 l.2) }
  else none

/-- All inputs are inactive, and nothing has been counted. -/
def Start (a : Installation) (w : World) : Prop :=
  (∀ r ∈ a.refs, w.value r = stateInactive) ∧ ∀ node, w.states.counter node = 0

def AnyActive (a : Installation) (w : World) (name : String) : Prop :=
  ∃ r ∈ a.refs, r.name = name ∧ w.value r = stateActive

instance (a : Installation) (w : World) (name : String) : Decidable (AnyActive a w name) :=
  inferInstanceAs (Decidable (∃ r ∈ a.refs, r.name = name ∧ w.value r = stateActive))

/-- The combined state that one of these changes has reached is active exactly as
long as one of its inputs is. -/
def Right (a : Installation) (ls : List (Ref × ℤ)) (w : World) : Prop :=
  ∀ l ∈ ls, ∀ st, w.states.states l.1.name = some st →
    (st.state = stateActive ↔ AnyActive a w l.1.name)

/-- A change that the counters follow. An input does not go from active to unknown;
an input becomes unknown only if its state is not active without an active input;
an input that was unknown becomes inactive only when no active input is counted in
its node; and when the last active input of a node becomes inactive no other one
with the same state is active. -/
def Followed (a : Installation) (l : Ref × ℤ) (w : World) : Prop :=
  Heard w.states l.1 →
    (l.2 = stateUnknown → w.value l.1 ≠ stateActive ∧
      (foundState w.states l.1 = stateActive → AnyActive a w l.1.name)) ∧
    (l.2 = stateInactive →
      (w.value l.1 = stateUnknown →
        ∀ q ∈ a.refs, q.node = l.1.node → w.value q ≠ stateActive) ∧
      ((∃ q ∈ a.refs, q ≠ l.1 ∧ q.name = l.1.name ∧ w.value q = stateActive) →
        ∃ q ∈ a.refs, q ≠ l.1 ∧ q.node = l.1.node ∧ w.value q = stateActive))

instance (a : Installation) (l : Ref × ℤ) (w : World) : Decidable (Followed a l w) :=
  inferInstanceAs (Decidable (_ → _ ∧ _))

/-! ## The invariant -/

def activeIn (a : Installation) (w : World) (node : String) : ℕ :=
  a.refs.countP fun r => decide (r.node = node) && decide (w.value r = stateActive)

/-- What holds in a run whose changes are all followed. -/
structure Inv (a : Installation) (ls : List (Ref × ℤ)) (w : World) : Prop where
  counts : ∀ r ∈ a.refs, Heard w.states r → w.states.counter r.node = activeIn a w r.node
  right : ∀ l ∈ ls, ∀ st, w.states.stateOf l.1.name = some st →
    (st = stateActive ↔ AnyActive a w l.1.name)
  quiet : ∀ r ∈ a.refs, r.name ∉ ls.map (fun l => l.1.name) → w.value r = stateInactive
  there : ∀ l ∈ ls, Heard w.states l.1 → (w.states.stateOf l.1.name).isSome
  known : ∀ l ∈ ls, l.1 ∈ a.refs
  range : ∀ r ∈ a.refs, w.value r ∈ values

variable {a : Installation} {w w' : World} {ls : List (Ref × ℤ)} {r : Ref} {value : ℤ}

theorem activeIn_eq_zero_iff {node : String} :
    activeIn a w node = 0 ↔ ∀ r ∈ a.refs, r.node = node → w.value r ≠ stateActive := by
  simp [activeIn, countP_eq_zero]

theorem countP_of_eq_off {l : List Ref} {p q : Ref → Bool} (hl : l.Nodup) (hr : r ∈ l)
    (h : ∀ x, x ≠ r → p x = q x) :
    l.countP p + (q r).toNat = l.countP q + (p r).toNat := by
  induction l with
  | nil => exact absurd hr not_mem_nil
  | cons x l ih =>
    obtain ⟨hx, hl⟩ := nodup_cons.mp hl
    rw [countP_cons, countP_cons]
    by_cases hxr : x = r
    · have hrest : l.countP p = l.countP q :=
        countP_congr fun y hy => by rw [h y fun hyr => hx (hxr.trans hyr.symm ▸ hy)]
      rw [hrest, hxr]
      cases p r <;> cases q r <;> simp
    · have hrest := ih hl ((mem_cons.mp hr).resolve_left (Ne.symm hxr))
      rw [h x hxr]
      omega

theorem activeIn_update (hr : r ∈ a.refs) (node : String) (s : States) :
    (activeIn a { value := Function.update w.value r value, states := s } node : ℤ) =
      activeIn a w node +
        (if node = r.node ∧ value = stateActive then 1 else 0) -
        (if node = r.node ∧ w.value r = stateActive then 1 else 0) := by
  have h := countP_of_eq_off
    (p := fun x => decide (x.node = node) &&
      decide (update w.value r value x = stateActive))
    (q := fun x => decide (x.node = node) && decide (w.value x = stateActive))
    (nodup_refs a.nodup) hr fun x hx => by rw [update_of_ne hx]
  change activeIn a { value := update w.value r value, states := s } node + _ =
    activeIn a w node + _ at h
  by_cases hn : node = r.node
  · by_cases h1 : value = stateActive <;> by_cases h2 : w.value r = stateActive <;>
      simp [hn, h1, h2] at h ⊢ <;> omega
  · have hn' : ¬ r.node = node := fun h => hn h.symm
    simp [hn, hn'] at h ⊢
    omega

theorem Installation.isCombined (hr : r ∈ a.refs) :
    isCombinedType r.input.inputType = true := by
  obtain ⟨hd, hinput⟩ := mem_refs.1 hr
  exact (a.combined _ hd _ (mem_of_getElem? hinput)).2

theorem heard_congr {q : Ref} {s : States} (hq : q ∈ a.refs) (hr : r ∈ a.refs)
    (h : q.name = r.name) : Heard s q ↔ Heard s r := by
  have hregisters :=
    registers_eq_of_name_eq (Installation.isCombined hq) (Installation.isCombined hr) h
  rw [Heard, Heard, hregisters, h]

theorem anyActive_update_of_ne {name : String} {s : States} (h : name ≠ r.name) :
    AnyActive a { value := Function.update w.value r value, states := s } name ↔
      AnyActive a w name := by
  refine exists_congr fun q => and_congr_right fun _ => and_congr_right fun hq => ?_
  dsimp only
  rw [update_of_ne fun hqr => h (hq.symm.trans (congrArg Ref.name hqr))]

theorem Inv.start (h : Start a w) : Inv a [] w := by
  refine ⟨fun r _ _ => ?_, fun l hl => absurd hl not_mem_nil, fun r hr _ => h.1 r hr,
    fun l hl => absurd hl not_mem_nil, fun l hl => absurd hl not_mem_nil,
    fun r hr => ?_⟩
  · have hzero : activeIn a w r.node = 0 := activeIn_eq_zero_iff.2 fun q hq _ => by
      rw [h.1 q hq]
      decide
    rw [h.2, hzero]
    rfl
  · rw [h.1 r hr]
    decide

theorem change_eq_some (hs : change a w (r, value) = some w') :
    (r ∈ a.refs ∧ value ∈ values ∧ value ≠ w.value r) ∧
      w' = { value := Function.update w.value r value
             states := combine w.states (changeEvent r value) r.input } := by
  unfold change at hs
  split_ifs at hs with h
  refine ⟨h, ?_⟩
  rw [← some.inj hs, stateBinaryinput_changeEvent h.1]

theorem Inv.step_of_not_heard (hi : Inv a ls w) (hheard : ¬ Heard w.states r)
    (hs : change a w (r, value) = some w') : Inv a (ls ++ [(r, value)]) w' := by
  obtain ⟨⟨hr, hv, -⟩, rfl⟩ := change_eq_some hs
  rw [combine_of_not_heard (Installation.isCombined hr) hheard]
  have hname : ∀ q ∈ a.refs, Heard w.states q → q.name ≠ r.name := fun q hq h heq =>
    hheard ((heard_congr hq hr heq).mp h)
  refine ⟨fun q hq h => ?_, fun l hl st hst => ?_, fun q hq h => ?_, fun l hl h => ?_,
    fun l hl => ?_, fun q hq => ?_⟩
  · have hnode : q.node ≠ r.node := fun h' => hname q hq h (Ref.name_eq_of_node_eq h')
    rw [activeIn_update hr, hi.counts q hq h]
    simp [hnode]
  · have hne : l.1.name ≠ r.name := fun heq => by
      rw [heq] at hst
      exact hheard (Or.inr (by rw [hst]; rfl))
    rw [anyActive_update_of_ne hne]
    rcases mem_append.mp hl with hl | hl
    · exact hi.right l hl st hst
    · rw [mem_singleton.mp hl] at hne
      exact absurd rfl hne
  · rw [map_append, mem_append, not_or] at h
    have hne : q ≠ r := fun heq => h.2 (by rw [heq]; exact mem_singleton.mpr rfl)
    dsimp only
    rw [update_of_ne hne]
    exact hi.quiet q hq h.1
  · rcases mem_append.mp hl with hl | hl
    · exact hi.there l hl h
    · rw [mem_singleton.mp hl] at h
      exact absurd h hheard
  · rcases mem_append.mp hl with hl | hl
    · exact hi.known l hl
    · rw [mem_singleton.mp hl]
      exact hr
  · dsimp only
    rw [update_apply]
    split_ifs
    · exact hv
    · exact hi.range q hq

theorem nextCount_activeIn (hf : value = stateInactive → w.value r = stateUnknown →
      ∀ q ∈ a.refs, q.node = r.node → w.value q ≠ stateActive)
    (hunknown : value = stateUnknown → w.value r ≠ stateActive) (hr : r ∈ a.refs)
    (hrange : w.value r ∈ values) (hv : value ∈ values) (hne : value ≠ w.value r) (s : States) :
    nextCount value (activeIn a w r.node) =
      activeIn a { value := Function.update w.value r value, states := s } r.node := by
  have hia : ¬ stateInactive = stateActive := by decide
  have hui : ¬ stateUnknown = stateInactive := by decide
  have hua : ¬ stateUnknown = stateActive := by decide
  rw [activeIn_update hr]
  simp only [values, mem_cons, not_mem_nil, or_false] at hv hrange
  unfold nextCount
  rcases hv with rfl | rfl | rfl
  · simp [Ne.symm hne]
  · by_cases hact : w.value r = stateActive
    · have hpos : activeIn a w r.node ≠ 0 := fun h => activeIn_eq_zero_iff.1 h r hr rfl hact
      simp [hact, hia]
      omega
    · have hunk : w.value r = stateUnknown := by
        rcases hrange with h | h | h
        · exact absurd h hact
        · exact absurd h.symm hne
        · exact h
      have hzero := activeIn_eq_zero_iff.2 (hf rfl hunk)
      simp [hact, hia, hzero]
  · rw [if_neg hui]
    simp [hua, hunknown rfl]

theorem anyActive_update_of_active {q : Ref} {s : States} (hq : q ∈ a.refs)
    (hname : q.name = r.name) (hqr : q ≠ r) (hact : w.value q = stateActive) :
    AnyActive a { value := Function.update w.value r value, states := s } r.name := by
  refine ⟨q, hq, hname, ?_⟩
  dsimp only
  rw [update_of_ne hqr, hact]

theorem Inv.right_of_heard (hi : Inv a ls w) (hheard : Heard w.states r)
    (hf : Followed a (r, value) w) (hr : r ∈ a.refs) (hv : value ∈ values)
    (hne : value ≠ w.value r) (s : States) :
    nextState value
        (activeIn a { value := Function.update w.value r value, states := s } r.node : ℤ)
        (foundState w.states r) = stateActive ↔
      AnyActive a { value := Function.update w.value r value, states := s } r.name := by
  obtain ⟨hunknown, hinactive⟩ := hf hheard
  -- once the state has been reached, it is the one the invariant speaks of
  have hfound : r.name ∈ ls.map (fun l => l.1.name) →
      (foundState w.states r = stateActive ↔ AnyActive a w r.name) := by
    intro hmem
    obtain ⟨l, hl, hname⟩ := mem_map.mp hmem
    have hsome := hi.there l hl ((heard_congr (hi.known l hl) hr hname).mpr hheard)
    obtain ⟨st, hst⟩ := isSome_iff_exists.mp hsome
    rw [foundState, ← hname, hst]
    exact hi.right l hl st hst
  have hia : ¬ stateInactive = stateActive := by decide
  have hua : ¬ stateUnknown = stateActive := by decide
  unfold nextState
  simp only [values, mem_cons, not_mem_nil, or_false] at hv
  rcases hv with rfl | rfl | rfl
  · exact ⟨fun _ => ⟨r, hr, rfl, update_self ..⟩, fun _ => rfl⟩
  · have hmem : r.name ∈ ls.map (fun l => l.1.name) := by
      by_contra hnot
      exact hne (hi.quiet r hr hnot).symm
    rw [if_neg hia]
    by_cases hzero : activeIn a
        { value := update w.value r stateInactive, states := s } r.node = 0
    · rw [if_pos ⟨rfl, by rw [hzero]; rfl⟩]
      refine iff_of_false hia ?_
      rintro ⟨q, hq, hname, hact⟩
      have hqr : q ≠ r := fun h => by
        dsimp only at hact
        rw [h, update_self] at hact
        exact hia hact
      dsimp only at hact
      rw [update_of_ne hqr] at hact
      obtain ⟨p, hp, hpr, hnode, hpact⟩ := (hinactive rfl).2 ⟨q, hq, hqr, hname, hact⟩
      refine activeIn_eq_zero_iff.1 hzero p hp hnode ?_
      dsimp only
      rw [update_of_ne hpr, hpact]
    · rw [if_neg (fun h => hzero (Int.ofNat_eq_zero.mp h.2)), hfound hmem]
      obtain ⟨q, hq, hnode, hact⟩ : ∃ q ∈ a.refs, q.node = r.node ∧
          update w.value r stateInactive q = stateActive := by
        by_contra hno
        exact hzero (activeIn_eq_zero_iff.2 fun q hq hnode hact => hno ⟨q, hq, hnode, hact⟩)
      have hqr : q ≠ r := fun h => by
        rw [h, update_self] at hact
        exact hia hact
      rw [update_of_ne hqr] at hact
      have hname := Ref.name_eq_of_node_eq hnode
      exact iff_of_true ⟨q, hq, hname, hact⟩ (anyActive_update_of_active hq hname hqr hact)
  · obtain ⟨hnot, hstored⟩ := hunknown rfl
    have hany : AnyActive a { value := update w.value r stateUnknown, states := s }
        r.name ↔ AnyActive a w r.name := by
      refine exists_congr fun q => and_congr_right fun _ => and_congr_right fun _ => ?_
      dsimp only
      rw [update_apply]
      split_ifs with hqr
      · exact iff_of_false hua (hqr ▸ hnot)
      · exact Iff.rfl
    rw [hany]
    by_cases hmem : r.name ∈ ls.map (fun l => l.1.name)
    · exact hfound hmem
    · refine ⟨hstored, ?_⟩
      rintro ⟨q, hq, hname, hact⟩
      rw [hi.quiet q hq (hname ▸ hmem)] at hact
      exact absurd hact hia

theorem Inv.step_of_heard (hi : Inv a ls w) (hheard : Heard w.states r)
    (hf : Followed a (r, value) w) (hs : change a w (r, value) = some w') :
    Inv a (ls ++ [(r, value)]) w' := by
  obtain ⟨⟨hr, hv, hne⟩, rfl⟩ := change_eq_some hs
  obtain ⟨hcounter, hstate⟩ := combine_spec hv (Installation.isCombined hr) hheard
  obtain ⟨hunknown, hinactive⟩ := hf hheard
  have hcount := nextCount_activeIn (fun h => (hinactive h).1) (fun h => (hunknown h).1) hr
    (hi.range r hr) hv hne (combine w.states (changeEvent r value) r.input)
  have hright := hi.right_of_heard hheard hf hr hv hne
    (combine w.states (changeEvent r value) r.input)
  rw [hi.counts r hr hheard, hcount] at hcounter hstate
  refine ⟨fun q hq h => ?_, fun l hl st hst => ?_, fun q hq h => ?_, fun l hl h => ?_,
    fun l hl => ?_, fun q hq => ?_⟩
  · rw [hcounter]
    split_ifs with hnode
    · rw [hnode]
    · rw [activeIn_update hr]
      have hq' : Heard w.states q := by
        by_cases hname : q.name = r.name
        · exact (heard_congr hq hr hname).mpr hheard
        · unfold Heard at h ⊢
          rw [hstate, if_neg hname] at h
          exact h
      rw [hi.counts q hq hq']
      simp [hnode]
  · rw [hstate] at hst
    split_ifs at hst with hname
    · rw [← some.inj hst, hname]
      exact hright
    · rw [anyActive_update_of_ne hname]
      rcases mem_append.mp hl with hl | hl
      · exact hi.right l hl st hst
      · exact absurd (congrArg (fun l => l.1.name) (mem_singleton.mp hl)) hname
  · rw [map_append, mem_append, not_or] at h
    have hqr : q ≠ r := fun heq => h.2 (by rw [heq]; exact mem_singleton.mpr rfl)
    dsimp only
    rw [update_of_ne hqr]
    exact hi.quiet q hq h.1
  · rw [hstate]
    split_ifs with hname
    · rfl
    · rcases mem_append.mp hl with hl | hl
      · refine hi.there l hl ?_
        unfold Heard at h ⊢
        rw [hstate, if_neg hname] at h
        exact h
      · exact absurd (congrArg (fun l => l.1.name) (mem_singleton.mp hl)) hname
  · rcases mem_append.mp hl with hl | hl
    · exact hi.known l hl
    · rw [mem_singleton.mp hl]
      exact hr
  · dsimp only
    rw [update_apply]
    split_ifs
    · exact hv
    · exact hi.range q hq

/-! ## The law -/

/-- **Combined inputs.** In a run whose changes are all followed every combined
state that an event has reached is active exactly as long as one of its inputs is. -/
theorem right_of_followed {w₀ : World} (h₀ : Start a w₀)
    (hr : Run (Guarded (Followed a) fun l w w' => change a w l = some w') w₀ ls w) :
    Right a ls w := by
  have hinv : Inv a ls w := by
    induction hr with
    | nil => exact Inv.start h₀
    | @snoc ls l w w' _ hstep ih =>
      obtain ⟨hf, hs⟩ := hstep
      by_cases hheard : Heard w.states l.1
      · exact ih.step_of_heard hheard hf hs
      · exact ih.step_of_not_heard hheard hs
  intro l hl st hst
  exact hinv.right l hl st.state (by rw [States.stateOf, hst]; rfl)

def motionInput (group : ℕ) : Input :=
  { inputType := .movement, inputId := appMode, targetGroupId := group }

def detector (dsuid : String) (group : ℕ) : Device :=
  { dsuid := dsuid, zoneID := 1, binaryInputs := [motionInput group]
    length_le := Nat.succ_le_succ (Nat.zero_le _) }

def detectorRef (dsuid : String) (group : ℕ) : Ref :=
  { device := detector dsuid group, index := 0, input := motionInput group }

def twoDetectors (g₁ g₂ : ℕ) : Installation :=
  { devices := [detector "a" g₁, detector "b" g₂]
    nodup := by
      change ["a", "b"].Nodup
      decide
    combined := by
      intro d hd input hinput
      simp only [List.mem_cons, List.not_mem_nil, or_false] at hd
      rcases hd with rfl | rfl <;> rw [List.mem_singleton.mp hinput] <;> exact ⟨rfl, rfl⟩ }

def allInactive : World :=
  { value := fun _ => stateInactive
    states := { states := fun _ => none, counters := fun _ => none } }

/-- Two detectors with one target group, both going on and off again. -/
theorem right_of_followed_sameGroup :
    ∃ w, Run (Guarded (Followed (twoDetectors 1 1))
        fun l w w' => change (twoDetectors 1 1) w l = some w') allInactive
        [(detectorRef "a" 1, 1), (detectorRef "b" 1, 1), (detectorRef "a" 1, 2),
          (detectorRef "b" 1, 2)] w ∧
      Right (twoDetectors 1 1)
        [(detectorRef "a" 1, 1), (detectorRef "b" 1, 1), (detectorRef "a" 1, 2),
          (detectorRef "b" 1, 2)] w := by
  have hr : Run (Guarded (Followed (twoDetectors 1 1))
      fun l w w' => change (twoDetectors 1 1) w l = some w') allInactive
      [(detectorRef "a" 1, 1), (detectorRef "b" 1, 1), (detectorRef "a" 1, 2),
        (detectorRef "b" 1, 2)] _ := Run.of_execute rfl
  exact ⟨_, hr, right_of_followed ⟨fun _ _ => rfl, fun _ => rfl⟩ hr⟩

/-- Two detectors with two target groups: the state goes inactive with the first. -/
theorem right_fails :
    ¬ ∀ (a : Installation) (w₀ w : World) (ls : List (Ref × ℤ)), Start a w₀ →
      Run (fun l w w' => change a w l = some w') w₀ ls w → Right a ls w := by
  intro h
  have hr : Run (Guarded (fun _ _ => True) fun l w w' => change (twoDetectors 1 2) w l = some w')
      allInactive [(detectorRef "a" 1, 1), (detectorRef "b" 2, 1), (detectorRef "a" 1, 2)] _ :=
    Run.of_execute rfl
  have hright := h (twoDetectors 1 2) _ _ _ ⟨fun _ _ => rfl, fun _ => rfl⟩ hr.of_guarded
  have hst := hright (detectorRef "a" 1, 1) mem_cons_self
    { state := stateInactive, originDeviceDSUID := "a" } rfl
  have hany := hst.mpr ⟨detectorRef "b" 2, by decide, rfl, rfl⟩
  exact absurd hany (by decide)

end SystemState

end Dss
