import Mathlib.Data.Int.Notation
import Mathlib.Data.List.Nodup

/-!
# Status fields

A status field is composed of sub states: it is active if one of them is, and it caches the value of
each. `none` is a `DS_REQUIRE` that fires.

There are three ways to a value: it was composed of the sub states, it was forced by
`setValueAndPush`, or it was restored when the field was created (`origin`).
-/

namespace Dss

open List

/-- `StatusFieldType`: the fields of a group's status. -/
inductive StatusFieldType : Type where
  | malfunction | service
  deriving DecidableEq

/-- `StatusFieldValue`; a restored state can hold any other number, too. -/
inductive StatusFieldValue : Type where
  | active | inactive
  | unlisted (n : ℤ)
  deriving DecidableEq

namespace StatusFieldValue

def toInt : StatusFieldValue → ℤ
  | active => 0
  | inactive => 1
  | unlisted n => n

def ofInt (n : ℤ) : StatusFieldValue :=
  if n = 0 then active else if n = 1 then inactive else unlisted n

end StatusFieldValue

/-! ## The numbers of `eState` -/

def stateInvalid : ℤ := 0
def stateActive : ℤ := 1
def stateInactive : ℤ := 2
def stateUnknown : ℤ := 3

/-! ## The field -/

/-- `StatusField::SubStateItem`. State objects are told apart by their address;
here, each has a number. -/
structure SubStateItem : Type where
  /-- `m_ptr`: the state object -/
  ptr : ℕ
  /-- `m_value`: the value it had when last looked at -/
  value : ℤ
  deriving DecidableEq

inductive ValueOrigin : Type where
  /-- the persistent state, when the field was created -/
  | restored
  /-- `setValueAndPush` -/
  | forced
  /-- `update`, after a sub state came, changed or went -/
  | composed
  deriving DecidableEq

structure StatusField : Type where
  /-- the number in `m_state` -/
  state : ℤ
  subStateItems : List SubStateItem := []
  origin : ValueOrigin := .restored
  deriving DecidableEq

namespace StatusField

/-- `getValue`. The number 0 is kept for an invalid state. -/
def getValue (field : StatusField) : StatusFieldValue :=
  if field.state = 0 then .inactive else .ofInt (field.state - 1)

/-- `setValueAndPushImpl`, without the message to the bus. -/
def setValueAndPushImpl (field : StatusField) (value : StatusFieldValue) : StatusField :=
  { field with state := value.toInt + 1 }

def setValueAndPush (field : StatusField) (value : StatusFieldValue) : StatusField :=
  { field.setValueAndPushImpl value with origin := .forced }

/-- The loop of `update`. -/
def composedValue (items : List SubStateItem) : StatusFieldValue :=
  items.foldl (fun value x => if x.value = stateActive then .active else value) .inactive

def update (field : StatusField) : StatusField :=
  let value := composedValue field.subStateItems
  if field.getValue = value then
    { field with origin := .composed }
  else
    { field.setValueAndPushImpl value with origin := .composed }

/-- The `std::find` of the three functions below. -/
def find? (field : StatusField) (subState : ℕ) : Option SubStateItem :=
  field.subStateItems.find? fun x => x.ptr = subState

/-- `addSubState`, for the state object `subState` with the value `value`. -/
def addSubState (field : StatusField) (subState : ℕ) (value : ℤ) : Option StatusField :=
  match field.find? subState with
  | some _ => none
  | none =>
    some { field with
      subStateItems := field.subStateItems ++ [SubStateItem.mk subState value] }.update

def updateSubState (field : StatusField) (subState : ℕ) (value : ℤ) : Option StatusField :=
  match field.find? subState with
  | none => none
  | some it =>
    if it.value = value then some field
    else
      some { field with
        subStateItems := field.subStateItems.replace it ⟨subState, value⟩ }.update

def removeSubState (field : StatusField) (subState : ℕ) : Option StatusField :=
  match field.find? subState with
  | none => none
  | some it => some { field with subStateItems := field.subStateItems.erase it }.update

end StatusField

/-! ## What a field should be -/

namespace StatusField

/-- The field is active exactly if a sub state is. -/
def Composed (field : StatusField) : Prop :=
  field.getValue = .active ↔ ∃ x ∈ field.subStateItems, x.value = stateActive

/-- The registered sub states are those of `reg`, each once, with the value `reg`
has for it. -/
structure Registers (field : StatusField) (reg : ℕ → ℤ → Prop) : Prop where
  nodup : (field.subStateItems.map SubStateItem.ptr).Nodup
  /-- exactly those of `reg` are registered -/
  mem_iff : ∀ p v, ⟨p, v⟩ ∈ field.subStateItems ↔ reg p v
  composed : field.origin = .composed → field.Composed

variable {field : StatusField} {reg : ℕ → ℤ → Prop} {p : ℕ} {v : ℤ}

/-! ## The composition -/

theorem foldl_eq_active {items : List SubStateItem} (value : StatusFieldValue) :
    items.foldl (fun value x => if x.value = stateActive then .active else value) value
        = .active ↔
      value = .active ∨ ∃ x ∈ items, x.value = stateActive := by
  induction items generalizing value with
  | nil => simp
  | cons x items ih =>
    rw [foldl_cons, ih]
    by_cases hx : x.value = stateActive <;> simp [hx]

theorem composedValue_eq_active {items : List SubStateItem} :
    composedValue items = .active ↔ ∃ x ∈ items, x.value = stateActive := by
  rw [composedValue, foldl_eq_active]
  simp

theorem composedValue_eq_inactive {items : List SubStateItem}
    (h : composedValue items ≠ .active) : composedValue items = .inactive := by
  rw [ne_eq, composedValue_eq_active] at h
  induction items with
  | nil => rfl
  | cons x items ih =>
    rw [composedValue, foldl_cons, if_neg (fun hx => h ⟨x, mem_cons_self, hx⟩)]
    exact ih fun ⟨y, hy, hactive⟩ => h ⟨y, mem_cons_of_mem _ hy, hactive⟩

theorem getValue_setValueAndPushImpl_composedValue (field : StatusField)
    (items : List SubStateItem) :
    (field.setValueAndPushImpl (composedValue items)).getValue = composedValue items := by
  by_cases h : composedValue items = .active
  · rw [h]; rfl
  · rw [composedValue_eq_inactive h]; rfl

@[simp] theorem subStateItems_update : field.update.subStateItems = field.subStateItems := by
  simp only [update]
  split_ifs <;> rfl

theorem getValue_update : field.update.getValue = composedValue field.subStateItems := by
  simp only [update]
  split_ifs with h
  · exact h
  · exact getValue_setValueAndPushImpl_composedValue field field.subStateItems

theorem composed_update : field.update.Composed := by
  rw [Composed, getValue_update, subStateItems_update]
  exact composedValue_eq_active

/-! ## The sub states -/

theorem replace_items {items : List SubStateItem} {it : SubStateItem}
    (new : SubStateItem) (hnodup : (items.map SubStateItem.ptr).Nodup) (hit : it ∈ items)
    (hptr : new.ptr = it.ptr) :
    (items.replace it new).map SubStateItem.ptr = items.map SubStateItem.ptr ∧
      ∀ x, x ∈ items.replace it new ↔ x = new ∨ x ∈ items ∧ x.ptr ≠ it.ptr := by
  obtain ⟨before, after, rfl⟩ := append_of_mem hit
  rw [map_append, map_cons, nodup_middle, nodup_cons,
    ← map_append] at hnodup
  have hother : ∀ x ∈ before ++ after, x.ptr ≠ it.ptr := by
    intro x hx heq
    exact hnodup.1 (heq ▸ mem_map_of_mem hx)
  have hbefore : it ∉ before := fun h => hother it (mem_append_left _ h) rfl
  rw [replace_append_right hbefore, replace_cons_self]
  refine ⟨by simp [hptr], fun x => ?_⟩
  have hx := hother x
  simp only [mem_append, mem_cons] at hx ⊢
  constructor
  · rintro (h | rfl | h)
    · exact .inr ⟨.inl h, hx (.inl h)⟩
    · exact .inl rfl
    · exact .inr ⟨.inr (.inr h), hx (.inr h)⟩
  · rintro (rfl | ⟨h | rfl | h, hne⟩)
    · exact .inr (.inl rfl)
    · exact .inl h
    · exact absurd rfl hne
    · exact .inr (.inr h)

theorem find?_eq_some {it : SubStateItem} (h : field.find? p = some it) :
    it ∈ field.subStateItems ∧ it.ptr = p := by
  have hp := find?_some h
  exact ⟨mem_of_find?_eq_some h, of_decide_eq_true hp⟩

theorem Registers.find?_eq_some (h : field.Registers reg) (hp : reg p v) :
    field.find? p = some ⟨p, v⟩ := by
  have hmem := (h.mem_iff p v).mpr hp
  rcases hf : field.find? p with - | it
  · have := find?_eq_none.mp hf ⟨p, v⟩ hmem
    simp at this
  · obtain ⟨hit, hptr⟩ := StatusField.find?_eq_some hf
    rw [inj_on_of_nodup_map h.nodup hit hmem hptr]

theorem Registers.addSubState (h : field.Registers reg) (hp : ∀ u, ¬ reg p u) :
    ∃ field', field.addSubState p v = some field' ∧
      field'.Registers fun q u => reg q u ∨ q = p ∧ u = v := by
  have hnew : ∀ x ∈ field.subStateItems, x.ptr ≠ p := by
    rintro ⟨q, u⟩ hx rfl
    exact hp u ((h.mem_iff q u).mp hx)
  have hf : field.find? p = none := by
    rw [find?, find?_eq_none]
    intro x hx
    simpa using hnew x hx
  refine ⟨_, by rw [StatusField.addSubState, hf], ?_, ?_, fun _ => composed_update⟩
  · rw [subStateItems_update, map_append, nodup_append]
    refine ⟨h.nodup, nodup_singleton _, ?_⟩
    intro q hq q' hq' heq
    obtain ⟨x, hx, rfl⟩ := mem_map.mp hq
    exact hnew x hx (heq.trans (mem_singleton.mp hq'))
  · intro q u
    rw [subStateItems_update, mem_append, h.mem_iff, mem_singleton,
      SubStateItem.mk.injEq]

theorem Registers.updateSubState {u : ℤ} (h : field.Registers reg) (hp : reg p u) :
    ∃ field', field.updateSubState p v = some field' ∧
      field'.Registers fun q w => if q = p then w = v else reg q w := by
  have hmem := (h.mem_iff p u).mpr hp
  have hfun : ∀ w, reg p w ↔ w = u := by
    refine fun w => ⟨fun hw => ?_, fun hw => hw ▸ hp⟩
    have := inj_on_of_nodup_map h.nodup ((h.mem_iff p w).mpr hw) hmem rfl
    exact congrArg SubStateItem.value this
  have hfind := h.find?_eq_some hp
  by_cases hv : u = v
  · -- the cached value is the new one: nothing to do
    subst hv
    refine ⟨field, by rw [StatusField.updateSubState, hfind]; exact if_pos rfl,
      h.nodup, fun q w => ?_, h.composed⟩
    rw [h.mem_iff]
    split_ifs with hq
    · rw [hq, hfun]
    · rfl
  · obtain ⟨hptrs, hitems⟩ := replace_items ⟨p, v⟩ h.nodup hmem rfl
    refine ⟨_, by rw [StatusField.updateSubState, hfind]; exact if_neg hv, ?_, ?_,
      fun _ => composed_update⟩
    · rw [subStateItems_update, hptrs]
      exact h.nodup
    · intro q w
      rw [subStateItems_update, hitems, h.mem_iff]
      split_ifs with hq
      · simp [hq]
      · simp [hq]

theorem Registers.removeSubState (h : field.Registers reg) (hp : reg p v) :
    ∃ field', field.removeSubState p = some field' ∧
      field'.Registers fun q u => reg q u ∧ q ≠ p := by
  have hmem := (h.mem_iff p v).mpr hp
  refine ⟨_, by rw [StatusField.removeSubState, h.find?_eq_some hp], ?_, ?_,
    fun _ => composed_update⟩
  · rw [subStateItems_update]
    exact h.nodup.sublist (erase_sublist.map _)
  · intro q u
    have hnodup : field.subStateItems.Nodup := List.Nodup.of_map _ h.nodup
    rw [subStateItems_update, hnodup.mem_erase_iff, h.mem_iff, and_comm]
    refine and_congr_right fun hq => ?_
    constructor
    · rintro hne rfl
      have := inj_on_of_nodup_map h.nodup ((h.mem_iff q u).mpr hq) hmem rfl
      exact hne this
    · rintro hne heq
      exact hne (congrArg SubStateItem.ptr heq)

end StatusField

end Dss
