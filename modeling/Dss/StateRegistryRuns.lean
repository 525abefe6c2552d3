import Dss.StateRegistry
import Dss.Transition

/-!
# The registry of states, in all runs

States are registered once for a type, a name and a script. Two calls break this. `allocateState`
without a script makes a state of the apartment, whatever type it was asked for; the next call
makes another one of the same name. And `removeState` of a state that is not registered erases
what is behind the end of the list.
-/

namespace Dss

open List Option

namespace StateRegistry

variable {size : ℕ} {V : Type} {w : StateRegistry size V} {ref : ℕ}

def keyOf (w : StateRegistry size V) (ref : ℕ) : Option (StateType × String × String) :=
  (w.objects[ref]?).map fun state =>
    (state.origin.type, state.origin.name, state.origin.serviceName)

/-- The search of `allocateState` -/
def search (w : StateRegistry size V) (type : StateType) (name scriptId : String) : Option ℕ :=
  w.findState fun state =>
    state.name = name ∧ state.type = type ∧ state.serviceName = scriptId

/-! ## Searches -/

theorem of_findState {p : StateOrigin size V → Bool} (h : w.findState p = some ref) :
    ref ∈ w.states ∧ ∃ state, w.objects[ref]? = some state ∧ p state.origin = true := by
  refine ⟨mem_of_find?_eq_some h, ?_⟩
  have hp := find?_some h
  rcases hstate : w.objects[ref]? with - | state
  · rw [hstate] at hp
    cases hp
  · rw [hstate] at hp
    exact ⟨state, rfl, hp⟩

theorem findState_isSome_iff {p : StateOrigin size V → Bool} :
    (w.findState p).isSome ↔
      ∃ ref ∈ w.states, ∃ state, w.objects[ref]? = some state ∧ p state.origin = true := by
  constructor
  · intro h
    obtain ⟨ref, href⟩ := isSome_iff_exists.mp h
    exact ⟨ref, of_findState href⟩
  · rintro ⟨ref, hmem, state, hstate, hp⟩
    exact w.findState_isSome_of_mem hmem hstate hp

theorem getState_eq_search {type : StateType} {name scriptId : String} :
    w.getState type scriptId name = w.search type name scriptId := by
  rw [getState, findState]
  congr 1
  funext a
  congr 1
  funext state
  rw [decide_eq_decide]
  constructor
  · rintro ⟨htype, hscript, hname⟩
    exact ⟨hname, htype, hscript⟩
  · rintro ⟨hname, htype, hscript⟩
    exact ⟨htype, hscript, hname⟩

theorem of_search {type : StateType} {name scriptId : String}
    (h : w.search type name scriptId = some ref) :
    ref ∈ w.states ∧ w.keyOf ref = some (type, name, scriptId) := by
  obtain ⟨hmem, state, hstate, hp⟩ := of_findState h
  obtain ⟨rfl, rfl, rfl⟩ := of_decide_eq_true hp
  exact ⟨hmem, by rw [keyOf, hstate]; rfl⟩

theorem search_eq_none_iff {type : StateType} {name scriptId : String} :
    w.search type name scriptId = none ↔
      ∀ ref ∈ w.states, w.keyOf ref ≠ some (type, name, scriptId) := by
  rw [← not_isSome_iff_eq_none, search, findState_isSome_iff]
  constructor
  · intro h ref hmem hkey
    obtain ⟨state, hstate, hk⟩ := map_eq_some_iff.mp hkey
    obtain ⟨ht, hns⟩ := Prod.mk.inj hk
    obtain ⟨hn, hs⟩ := Prod.mk.inj hns
    exact h ⟨ref, hmem, state, hstate, decide_eq_true ⟨hn, ht, hs⟩⟩
  · rintro h ⟨ref, hmem, state, hstate, hp⟩
    obtain ⟨rfl, rfl, rfl⟩ := of_decide_eq_true hp
    exact h ref hmem (by rw [keyOf, hstate]; rfl)

/-! ## What the calls do -/

theorem keyOf_make {state : ApartmentState size V} (h : ref < w.objects.length) :
    (w.make state).keyOf ref = w.keyOf ref := by
  rw [keyOf, objects_make, getElem?_append_left h, keyOf]

theorem keyOf_allocated (w : StateRegistry size V) (type : StateType) (name scriptId : String)
    (loaded : Option ℤ) :
    (w.make (.create (allocated type name scriptId) loaded)).keyOf w.objects.length =
      some (if scriptId = "" then .apartment else type, name, scriptId) := by
  rw [keyOf, objects_make, getElem?_concat_length, allocated]
  by_cases hscript : scriptId = ""
  · rw [hscript]
    rfl
  · rw [if_pos fun h => hscript (String.length_eq_zero_iff.mp h), if_neg hscript]
    rfl

theorem allocateState_of_search {type : StateType} {name scriptId : String} {loaded : Option ℤ}
    {throws : Bool} (h : w.search type name scriptId = some ref) :
    w.allocateState type name scriptId loaded throws = some (w, ref) := by
  rw [search] at h
  rw [allocateState, h]

theorem allocateState_of_search_eq_none {type : StateType} {name scriptId : String}
    (loaded : Option ℤ) (h : w.search type name scriptId = none) :
    w.allocateState type name scriptId loaded true = none ∧
      ∃ hmade hnew, w.allocateState type name scriptId loaded false =
        some ((w.make (.create (allocated type name scriptId) loaded)).pushBack w.objects.length
          hmade hnew, w.objects.length) := by
  rw [search] at h
  constructor
  · rw [allocateState, h]
    rfl
  · refine ⟨?_, fun hmem => Nat.lt_irrefl _ (w.made _ hmem), ?_⟩
    · rw [objects_make, length_append]
      exact Nat.lt_succ_self _
    · rw [allocateState, h]
      rfl

theorem allocateStateObject_eq_some {w' : StateRegistry size V} {hmade : ref < w.objects.length}
    (h : w.allocateStateObject ref hmade = some w') :
    ∃ hnew, w' = w.pushBack ref hmade hnew ∧ ∀ a ∈ w.states, w.keyOf a ≠ w.keyOf ref := by
  rw [allocateStateObject] at h
  split_ifs at h with hname
  refine ⟨_, (some.inj h).symm, fun a ha hkey => hname ?_⟩
  rw [keyOf, keyOf, getElem?_eq_getElem hmade] at hkey
  obtain ⟨state, hstate, hk⟩ := map_eq_some_iff.mp hkey
  refine findState_isSome_iff.2 ⟨a, ha, state, hstate, decide_eq_true ?_⟩
  exact (Prod.mk.inj (Prod.mk.inj hk).2).1

theorem removeState_eq_none (h : ref ∉ w.states) : w.removeState ref = none := by
  have hkept : w.states.filter (· ≠ ref) = w.states :=
    filter_eq_self.mpr fun a ha => decide_eq_true fun hself => h (by rw [← hself]; exact ha)
  rw [removeState, if_pos (by rw [hkept])]

theorem removeState_of_mem (h : ref ∈ w.states) :
    ∃ w', w.removeState ref = some w' ∧ w'.objects = w.objects ∧
      ∀ a, a ∈ w'.states ↔ a ∈ w.states ∧ a ≠ ref := by
  have hlt : (w.states.filter (· ≠ ref)).length ≠ w.states.length := by
    intro heq
    have hall := length_filter_eq_length_iff.mp heq ref h
    exact absurd rfl (of_decide_eq_true hall)
  rw [removeState, if_neg hlt]
  refine ⟨_, rfl, rfl, fun a => ?_⟩
  rw [mem_filter, decide_eq_true_iff]

/-! ## No two for the same -/

/-- No two states are registered for the same type, name and script. -/
def KeysUnique (w : StateRegistry size V) : Prop :=
  ∀ a ∈ w.states, ∀ b ∈ w.states, w.keyOf a = w.keyOf b → a = b

theorem KeysUnique.search_eq {type : StateType} {name scriptId : String} (h : w.KeysUnique)
    (hmem : ref ∈ w.states) (hkey : w.keyOf ref = some (type, name, scriptId)) :
    w.search type name scriptId = some ref := by
  rcases hfound : w.search type name scriptId with - | a
  · exact absurd hkey (search_eq_none_iff.1 hfound ref hmem)
  · obtain ⟨ha, hkeya⟩ := of_search hfound
    rw [h a ha ref hmem (hkeya.trans hkey.symm)]

theorem KeysUnique.make (h : w.KeysUnique) (state : ApartmentState size V) :
    (w.make state).KeysUnique := by
  intro a ha b hb hab
  rw [keyOf_make (w.made a ha), keyOf_make (w.made b hb)] at hab
  exact h a ha b hb hab

theorem KeysUnique.pushBack (h : w.KeysUnique) (hmade : ref < w.objects.length)
    (hnew : ref ∉ w.states) (hkey : ∀ a ∈ w.states, w.keyOf a ≠ w.keyOf ref) :
    (w.pushBack ref hmade hnew).KeysUnique := by
  intro a ha b hb hab
  rcases mem_append.mp ha with ha | ha
  · rcases mem_append.mp hb with hb | hb
    · exact h a ha b hb hab
    · rw [mem_singleton.mp hb] at hab
      exact absurd hab (hkey a ha)
  · rcases mem_append.mp hb with hb | hb
    · rw [mem_singleton.mp ha] at hab
      exact absurd hab.symm (hkey b hb)
    · rw [mem_singleton.mp ha, mem_singleton.mp hb]

/-! ## Runs -/

/-- What is called. -/
inductive Action (size : ℕ) (V : Type) : Type where
  | make (state : ApartmentState size V)
  /-- `allocateState`, with what it is asked for -/
  | allocate (type : StateType) (name scriptId : String) (loaded : Option ℤ) (throws : Bool)
  /-- `allocateState`, with a state -/
  | register (ref : ℕ)
  /-- `removeState` -/
  | remove (ref : ℕ)

structure Registered (size : ℕ) (V : Type) : Type where
  registry : StateRegistry size V
  /-- what `allocateState` was asked for, and the state it returned -/
  asked : List ((StateType × String × String) × ℕ)

namespace Registered

def start : Registered size V := { registry := empty, asked := [] }

/-- What a call leaves behind; nothing, if what it does is undefined. A call that throws leaves
everything as it was. -/
def step (r : Registered size V) : Action size V → Option (Registered size V)
  | .make state => some { r with registry := r.registry.make state }
  | .allocate type name scriptId loaded throws =>
    match r.registry.allocateState type name scriptId loaded throws with
    | some (w, ref) => some { registry := w, asked := r.asked ++ [((type, name, scriptId), ref)] }
    | none => some r
  | .register ref =>
    if h : ref < r.registry.objects.length then
      match r.registry.allocateStateObject ref h with
      | some w => some { r with registry := w }
      | none => some r
    else some r
  | .remove ref => (r.registry.removeState ref).map fun w => { r with registry := w }

def advance (r : Option (Registered size V)) (a : Action size V) : Option (Registered size V) :=
  r.bind (·.step a)

/-- Nothing undefined has happened, and the registry is as it should be. -/
def Sound (p : Registered size V → Prop) (r : Option (Registered size V)) : Prop :=
  ∃ r', r = some r' ∧ p r'

/-- No two states share a key, and asking again finds the same one. -/
structure Law (r : Registered size V) : Prop where
  unique : r.registry.KeysUnique
  /-- a call of `allocateState` like an earlier one returns the same state, while it is there -/
  returned : ∀ type name scriptId ref, ((type, name, scriptId), ref) ∈ r.asked →
    ref ∈ r.registry.states → ∀ loaded throws,
      r.registry.allocateState type name scriptId loaded throws = some (r.registry, ref)
  /-- `getState` finds it -/
  found : ∀ type name scriptId ref, ((type, name, scriptId), ref) ∈ r.asked →
    ref ∈ r.registry.states → r.registry.getState type scriptId name = some ref
  /-- `getState` finds a state exactly while it is registered -/
  exact : ∀ type name scriptId ref, r.registry.keyOf ref = some (type, name, scriptId) →
    (r.registry.getState type scriptId name = some ref ↔ ref ∈ r.registry.states)

/-- When a call does well: without a script, `allocateState` is asked for a state of the apartment,
or there is such a state already; and what is removed is registered. -/
def Fits (r : Registered size V) : Action size V → Prop
  | .allocate type name scriptId _ throws => scriptId = "" → type ≠ .apartment → throws = false →
      ∃ ref ∈ r.registry.states, r.registry.keyOf ref = some (type, name, scriptId)
  | .remove ref => ref ∈ r.registry.states
  | .make _ | .register _ => True

variable {r r' : Registered size V} {a : Action size V}

/-- What runs go through: what was asked for is what the states are for. -/
structure Inv (r : Registered size V) : Prop where
  unique : r.registry.KeysUnique
  asked : ∀ x ∈ r.asked, x.2 < r.registry.objects.length ∧ r.registry.keyOf x.2 = some x.1

theorem Inv.law (h : Inv r) : Law r := by
  have hsearch : ∀ type name scriptId ref, ((type, name, scriptId), ref) ∈ r.asked →
      ref ∈ r.registry.states → r.registry.search type name scriptId = some ref :=
    fun _ _ _ _ hasked hmem => h.unique.search_eq hmem (h.asked _ hasked).2
  refine ⟨h.unique, fun type name scriptId ref hasked hmem loaded throws => ?_,
    fun type name scriptId ref hasked hmem => ?_, fun type name scriptId ref hkey => ?_⟩
  · exact allocateState_of_search (hsearch _ _ _ _ hasked hmem)
  · rw [getState_eq_search]
    exact hsearch _ _ _ _ hasked hmem
  · rw [getState_eq_search]
    exact ⟨fun hfound => (of_search hfound).1, fun hmem => h.unique.search_eq hmem hkey⟩

theorem Inv.make (h : Inv r) (state : ApartmentState size V) :
    Inv { r with registry := r.registry.make state } := by
  refine ⟨h.unique.make state, fun x hx => ?_⟩
  obtain ⟨hlt, hkey⟩ := h.asked x hx
  refine ⟨?_, (keyOf_make hlt).trans hkey⟩
  rw [objects_make, length_append]
  exact Nat.lt_add_right 1 hlt

theorem Inv.ask {key : StateType × String × String} {ref : ℕ} (h : Inv r)
    (hmade : ref < r.registry.objects.length) (hkey : r.registry.keyOf ref = some key) :
    Inv { r with asked := r.asked ++ [(key, ref)] } := by
  refine ⟨h.unique, fun x hx => ?_⟩
  rcases mem_append.mp hx with hx | hx
  · exact h.asked x hx
  · rw [mem_singleton.mp hx]
    exact ⟨hmade, hkey⟩

theorem Inv.pushBack {ref : ℕ} (h : Inv r) (hmade : ref < r.registry.objects.length)
    (hnew : ref ∉ r.registry.states)
    (hkey : ∀ a ∈ r.registry.states, r.registry.keyOf a ≠ r.registry.keyOf ref) :
    Inv { r with registry := r.registry.pushBack ref hmade hnew } :=
  ⟨h.unique.pushBack hmade hnew hkey, h.asked⟩

theorem Inv.allocate_found {type : StateType} {name scriptId : String} {loaded : Option ℤ}
    {throws : Bool} {ref : ℕ} (h : Inv r)
    (hsearch : r.registry.search type name scriptId = some ref) :
    ∃ r', r.step (.allocate type name scriptId loaded throws) = some r' ∧ Inv r' := by
  obtain ⟨hmem, hkey⟩ := of_search hsearch
  refine ⟨_, ?_, h.ask (r.registry.made ref hmem) hkey⟩
  rw [step, allocateState_of_search hsearch]

theorem Inv.allocate_new {type : StateType} {name scriptId : String} (loaded : Option ℤ)
    (h : Inv r) (hsearch : r.registry.search type name scriptId = none) :
    ∃ r', r.step (.allocate type name scriptId loaded false) = some r' ∧
      (scriptId = "" ∧ type ≠ .apartment → ¬ Law r') ∧
      (¬ (scriptId = "" ∧ type ≠ .apartment) → Inv r') := by
  obtain ⟨-, hmade, hnew, hallocate⟩ :=
    allocateState_of_search_eq_none loaded hsearch
  have hkey := keyOf_allocated r.registry type name scriptId loaded
  refine ⟨_, by rw [step, hallocate], ?_, fun hfits => ?_⟩
  · rintro ⟨rfl, htype⟩ hlaw
    -- it is for the apartment, and was asked for as something else
    have hfound := hlaw.found type name "" r.registry.objects.length
      (mem_append_right _ (mem_singleton_self _))
      (mem_append_right _ (mem_singleton_self _))
    rw [getState_eq_search] at hfound
    have hother := (of_search hfound).2.symm.trans hkey
    rw [some.injEq, Prod.mk.injEq] at hother
    exact htype hother.1
  · have hasked : (if scriptId = "" then StateType.apartment else type, name, scriptId) =
        (type, name, scriptId) := by
      split_ifs with hscript
      · rw [not_not.mp fun htype => hfits ⟨hscript, fun heq => htype heq.symm⟩]
      · rfl
    rw [hasked] at hkey
    have hinv := (h.make (.create (allocated type name scriptId) loaded)).pushBack hmade hnew
      fun a ha hsame => by
        rw [hkey, keyOf_make (r.registry.made a ha)] at hsame
        exact search_eq_none_iff.1 hsearch a ha hsame
    exact hinv.ask hmade hkey

theorem Inv.step_iff (h : Inv r) :
    (Fits r a → ∃ r', r.step a = some r' ∧ Inv r') ∧
      (¬ Fits r a → ∀ r', r.step a = some r' → ¬ Law r') := by
  cases a with
  | make state => exact ⟨fun _ => ⟨_, rfl, h.make state⟩, fun hnot => absurd trivial hnot⟩
  | register ref =>
    refine ⟨fun _ => ?_, fun hnot => absurd trivial hnot⟩
    rw [step]
    split_ifs with hmade
    · rcases hregister : r.registry.allocateStateObject ref hmade with - | w
      · exact ⟨r, rfl, h⟩
      · obtain ⟨hnew, rfl, hkey⟩ := allocateStateObject_eq_some hregister
        exact ⟨_, rfl, h.pushBack hmade hnew hkey⟩
    · exact ⟨r, rfl, h⟩
  | remove ref =>
    constructor
    · intro hmem
      obtain ⟨w, hremove, hobjects, hstates⟩ := removeState_of_mem hmem
      refine ⟨{ r with registry := w }, by rw [step, hremove]; rfl, ?_, fun x hx => ?_⟩
      · intro a ha b hb hab
        rw [keyOf, keyOf, hobjects] at hab
        exact h.unique a ((hstates a).mp ha).1 b ((hstates b).mp hb).1 hab
      · rw [keyOf, hobjects]
        exact h.asked x hx
    · intro hnot r' hstep
      rw [step, removeState_eq_none hnot] at hstep
      cases hstep
  | allocate type name scriptId loaded throws =>
    rcases hsearch : r.registry.search type name scriptId with - | ref
    · cases throws with
      | true =>
        refine ⟨fun _ => ⟨r, ?_, h⟩, fun hnot => absurd (fun _ _ hthrows => ?_) hnot⟩
        · rw [step, (allocateState_of_search_eq_none loaded hsearch).1]
        · cases hthrows
      | false =>
        obtain ⟨r', hstep, hbreak, hkeep⟩ := h.allocate_new loaded hsearch
        constructor
        · intro hfits
          refine ⟨r', hstep, hkeep ?_⟩
          rintro ⟨hscript, htype⟩
          obtain ⟨ref, hmem, hkey⟩ := hfits hscript htype rfl
          exact search_eq_none_iff.1 hsearch ref hmem hkey
        · intro hnot r'' hstep'
          rw [hstep] at hstep'
          rw [← some.inj hstep']
          refine hbreak (not_not.mp fun hfits => hnot fun hscript htype _ => ?_)
          exact absurd ⟨hscript, htype⟩ hfits
    · refine ⟨fun _ => h.allocate_found hsearch, fun hnot => absurd (fun _ _ _ => ?_) hnot⟩
      exact ⟨ref, of_search hsearch⟩

theorem inv_start : Inv (start : Registered size V) :=
  ⟨forall_mem_nil _, forall_mem_nil _⟩

/-- **The registry of states** keeps its law in all states of a run exactly if each call of it
does well. -/
theorem registry_law_always_iff (as : List (Action size V)) :
    Transition.Always advance (Sound Law)
        (some (start : Registered size V)) as ↔
      Transition.Meets advance (fun r a => ∀ r', r = some r' → Fits r' a)
        (some (start : Registered size V)) as := by
  have hstart : Sound Inv (some (start : Registered size V)) := ⟨start, rfl, inv_start⟩
  refine Transition.always_iff_meets ?_ ?_ ?_ hstart
  · rintro _ ⟨r, rfl, h⟩
    exact ⟨r, rfl, h.law⟩
  · rintro _ a ⟨r, rfl, h⟩ hfits
    obtain ⟨r', hstep, h'⟩ := h.step_iff.1 (hfits r rfl)
    exact ⟨r', hstep, h'⟩
  · rintro _ a ⟨r, rfl, h⟩ hnot ⟨r', hstep, hlaw⟩
    refine h.step_iff.2 (fun hfits => hnot fun r'' hr => ?_) r' hstep hlaw
    rw [← some.inj hr]
    exact hfits

/-- A state of a group without a script is never found again: the second call makes another one. -/
theorem registry_law_fails :
    ¬ ∀ as : List (Action 17 ℤ),
      Transition.Always advance (Sound Law) (some (start : Registered 17 ℤ)) as := by
  intro h
  have hlaw := h [.allocate .group "cluster.16.operation_lock" "" none false,
    .allocate .group "cluster.16.operation_lock" "" none false]
  obtain ⟨r, hr, hunique⟩ := hlaw.2.2
  obtain rfl := some.inj hr
  have htwo := hunique.unique 0 mem_cons_self 1
    (mem_cons_of_mem _ mem_cons_self) rfl
  exact absurd htwo (by decide)

end Registered

end StateRegistry

end Dss
