import Dss.DeviceBinaryInput

/-!
# Composition of the status fields

After every operation, the sub states of a field are the states of the inputs that select it, and a
composed value is the composition of these. `Registered` says what the fields hold for any relation
between states and fields; `Inputs` makes the relation of the handles, `Attached`, the one the
fields hold.
-/

namespace Dss

open List Option Function

namespace StatusWorld

/-! ## What the fields hold -/

/-- The fields hold the relation `att` of states and fields. -/
def Registered (fields : FieldId → StatusField) (values : ℕ → ℤ) (att : ℕ → FieldId → Prop) :
    Prop :=
  ∀ f, (fields f).Registers fun p v => att p f ∧ v = values p

section Registered

variable {w : StatusWorld} {fields : FieldId → StatusField} {values : ℕ → ℤ}
  {att att' : ℕ → FieldId → Prop} {f : FieldId} {p : ℕ} {handle : Option FieldId}
  {i : DeviceBinaryInput}

theorem Registered.congr (h : Registered fields values att)
    (hatt : ∀ q g, att q g ↔ att' q g) : Registered fields values att' := by
  intro g
  refine ⟨(h g).nodup, fun q v => ?_, (h g).composed⟩
  rw [(h g).mem_iff, hatt]

theorem Registered.update_values (h : Registered fields values att) {v : ℤ} (hp : ∀ g, ¬ att p g) :
    Registered fields (Function.update values p v) att := by
  intro g
  refine ⟨(h g).nodup, fun q u => ?_, (h g).composed⟩
  rw [(h g).mem_iff]
  refine and_congr_right fun hq => ?_
  have hne : q ≠ p := by
    rintro rfl
    exact hp g hq
  rw [update_of_ne hne]

theorem Registered.set (h : Registered fields values att) {field : StatusField}
    (hf : field.Registers fun q v => att' q f ∧ v = values q)
    (hatt : ∀ q g, g ≠ f → (att' q g ↔ att q g)) :
    Registered (Function.update fields f field) values att' := by
  intro g
  by_cases hg : g = f
  · subst hg
    rw [update_self]
    exact hf
  · rw [update_of_ne hg]
    refine ⟨(h g).nodup, fun q v => ?_, (h g).composed⟩
    rw [(h g).mem_iff, hatt q g hg]

theorem Registered.makeHandle (h : Registered w.fields w.values att) (hp : ¬ att p f) :
    ∃ fields, w.makeHandle f p = some (w.setFields fields) ∧
      Registered fields w.values fun q g => att q g ∨ q = p ∧ g = f := by
  obtain ⟨field, hadd, hfield⟩ := (h f).addSubState (v := w.values p) fun _ hu => hp hu.1
  refine ⟨update w.fields f field, by rw [StatusWorld.makeHandle, hadd]; rfl, ?_⟩
  refine h.set ⟨hfield.nodup, fun q v => ?_, hfield.composed⟩ fun q g hg => by simp [hg]
  rw [hfield.mem_iff]
  constructor
  · rintro (⟨hq, hv⟩ | ⟨rfl, hv⟩)
    · exact ⟨.inl hq, hv⟩
    · exact ⟨.inr ⟨rfl, rfl⟩, hv⟩
  · rintro ⟨hq | ⟨rfl, -⟩, hv⟩
    · exact .inl ⟨hq, hv⟩
    · exact .inr ⟨rfl, hv⟩

theorem Registered.resetHandle (h : Registered w.fields w.values att)
    (hp : ∀ g, att p g ↔ handle = some g) :
    ∃ fields, w.resetHandle handle p = some (w.setFields fields) ∧
      Registered fields w.values fun q g => att q g ∧ q ≠ p := by
  rcases handle with - | f
  · refine ⟨w.fields, rfl, h.congr fun q g => ?_⟩
    refine ⟨fun hq => ⟨hq, ?_⟩, And.left⟩
    rintro rfl
    exact nomatch (hp g).mp hq
  · have hpf := (hp f).mpr rfl
    obtain ⟨field, hremove, hfield⟩ := (h f).removeSubState ⟨hpf, rfl⟩
    refine ⟨update w.fields f field, by rw [StatusWorld.resetHandle, hremove]; rfl, ?_⟩
    refine h.set ⟨hfield.nodup, fun q v => ?_, hfield.composed⟩ fun q g hg => ?_
    · rw [hfield.mem_iff, and_right_comm]
    · refine ⟨And.left, fun hq => ⟨hq, ?_⟩⟩
      rintro rfl
      exact hg (some.inj ((hp g).mp hq)).symm

theorem Registered.updateHandle {v : ℤ} (h : Registered w.fields values att)
    (hw : w.values = Function.update values p v) (hp : ∀ g, att p g ↔ handle = some g) :
    ∃ fields, w.updateHandle handle p = some (w.setFields fields) ∧
      Registered fields w.values att := by
  rcases handle with - | f
  · refine ⟨w.fields, rfl, ?_⟩
    rw [hw]
    exact h.update_values fun g hg => nomatch (hp g).mp hg
  · have hpf := (hp f).mpr rfl
    obtain ⟨field, hupdate, hfield⟩ := (h f).updateSubState (v := w.values p) ⟨hpf, rfl⟩
    refine ⟨update w.fields f field, by rw [StatusWorld.updateHandle, hupdate]; rfl, ?_⟩
    intro g
    by_cases hg : g = f
    · subst hg
      rw [update_self]
      refine ⟨hfield.nodup, fun q u => ?_, hfield.composed⟩
      rw [hfield.mem_iff]
      split_ifs with hq
      · rw [hq]
        exact ⟨fun hu => ⟨hpf, hu⟩, And.right⟩
      · rw [hw, update_of_ne hq]
    · rw [update_of_ne hg]
      refine ⟨(h g).nodup, fun q u => ?_, (h g).composed⟩
      rw [(h g).mem_iff]
      refine and_congr_right fun hq => ?_
      have hne : q ≠ p := by
        rintro rfl
        exact hg (some.inj ((hp g).mp hq)).symm
      rw [hw, update_of_ne hne]

/-- **Following the configuration.** `updateStatusFieldHandle` moves the state of an
input to the field its type and target select. -/
theorem Registered.updateStatusFieldHandle (h : Registered w.fields w.values att)
    (hi : ∀ g, att i.state g ↔ i.statusFieldHandle = some g) :
    ∃ fields, w.updateStatusFieldHandle i =
        some (w.setFields fields, i.setHandle (w.targetField i)) ∧
      Registered fields w.values
        fun q g => if q = i.state then w.targetField i = some g else att q g := by
  by_cases hsame : i.statusFieldHandle = w.targetField i
  · refine ⟨w.fields, by rw [StatusWorld.updateStatusFieldHandle, if_pos hsame, ← hsame]; rfl, ?_⟩
    refine h.congr fun q g => ?_
    split_ifs with hq
    · rw [hq, hi, hsame]
    · rfl
  · obtain ⟨fields, hreset, hfields⟩ := h.resetHandle hi
    rcases ht : w.targetField i with - | f
    · refine ⟨fields, ?_, hfields.congr fun q g => ?_⟩
      · have ht' : (w.setFields fields).targetField i = none := ht
        rw [StatusWorld.updateStatusFieldHandle, if_neg hsame, hreset, bind_some, ht']
      · split_ifs with hq <;> simp [hq]
    · obtain ⟨fields', hmake, hfields'⟩ :=
        Registered.makeHandle (w := w.setFields fields) (f := f) hfields
          (p := i.state) fun hq => hq.2 rfl
      refine ⟨fields', ?_, hfields'.congr fun q g => ?_⟩
      · have ht' : (w.setFields fields).targetField i = some f := ht
        rw [StatusWorld.updateStatusFieldHandle, if_neg hsame, hreset, bind_some, ht']
        change Option.map _ (StatusWorld.makeHandle (w.setFields fields) f i.state) = _
        rw [hmake]
        rfl
      · split_ifs with hq <;> simp [hq, eq_comm]

end Registered

/-! ## The inputs -/

/-- The relation of the handles. -/
def Attached (w : StatusWorld) (p : ℕ) (f : FieldId) : Prop :=
  ∃ d, ∃ i ∈ w.binaryInputs d, i.state = p ∧ i.statusFieldHandle = some f

structure Inputs (w : StatusWorld) : Prop where
  nodup : ∀ d, (w.binaryInputs d).Nodup
  listed : ∀ d, ∀ i ∈ w.binaryInputs d, w.states (d, i.inputIndex) = some i.state
  live : ∀ d k p, w.states (d, k) = some p →
    ∃ i ∈ w.binaryInputs d, i.inputIndex = k ∧ i.state = p
  unshared : ∀ d e, ∀ i ∈ w.binaryInputs d, ∀ j ∈ w.binaryInputs e,
    i.state = j.state → d = e ∧ i = j
  made : ∀ d, ∀ i ∈ w.binaryInputs d, i.state < w.allocated
  target : ∀ d, ∀ i ∈ w.binaryInputs d, i.statusFieldHandle = w.targetField i

/-- **The invariant.** -/
structure Inv (w : StatusWorld) (groups : ℕ → Bool) : Prop where
  inputs : w.Inputs
  registered : Registered w.fields w.values w.Attached
  hasStatus : w.hasStatus = groups

/-- The inputs of a device are numbered in order, up to the last one. -/
def Numbered (w : StatusWorld) (d : Dsuid) : Prop :=
  ∀ i ∈ w.binaryInputs d, i.inputIndex < (w.binaryInputs d).length

section Inputs

variable {w : StatusWorld} {d : Dsuid} {i : DeviceBinaryInput} {groups : ℕ → Bool}

theorem Inputs.attached_iff (h : w.Inputs) (hi : i ∈ w.binaryInputs d) (g : FieldId) :
    w.Attached i.state g ↔ i.statusFieldHandle = some g := by
  constructor
  · rintro ⟨e, j, hj, hstate, hg⟩
    obtain ⟨-, rfl⟩ := h.unshared e d j hj i hi hstate
    exact hg
  · exact fun hg => ⟨d, i, hi, rfl, hg⟩

theorem Inputs.not_attached (h : w.Inputs) (g : FieldId) : ¬ w.Attached w.allocated g := by
  rintro ⟨e, j, hj, hstate, -⟩
  exact absurd (h.made e j hj) (hstate ▸ Nat.lt_irrefl _)

/-- What changes when the state `p`'s input of the device `d` goes, comes or
changes: the other inputs stay. -/
def Replaces (w w' : StatusWorld) (d : Dsuid) (p : ℕ) (new : Option DeviceBinaryInput) : Prop :=
  ∀ e j, j ∈ w'.binaryInputs e ↔
    j ∈ w.binaryInputs e ∧ j.state ≠ p ∨ e = d ∧ new = some j

theorem Replaces.attached_iff {w' : StatusWorld} {p : ℕ} {new : Option DeviceBinaryInput}
    (h : w.Replaces w' d p new) (hnew : ∀ j, new = some j → j.state = p) (q : ℕ) (g : FieldId) :
    w'.Attached q g ↔
      if q = p then ∃ j, new = some j ∧ j.statusFieldHandle = some g else w.Attached q g := by
  split_ifs with hq
  · subst hq
    constructor
    · rintro ⟨e, j, hj, hstate, hg⟩
      rcases (h e j).mp hj with ⟨-, hne⟩ | ⟨-, hj⟩
      · exact absurd hstate hne
      · exact ⟨j, hj, hg⟩
    · rintro ⟨j, hj, hg⟩
      exact ⟨d, j, (h d j).mpr (.inr ⟨rfl, hj⟩), hnew j hj, hg⟩
  · constructor
    · rintro ⟨e, j, hj, hstate, hg⟩
      rcases (h e j).mp hj with ⟨hj, -⟩ | ⟨-, hj⟩
      · exact ⟨e, j, hj, hstate, hg⟩
      · exact absurd (hstate.symm.trans (hnew j hj)) hq
    · rintro ⟨e, j, hj, hstate, hg⟩
      exact ⟨e, j, (h e j).mpr (.inl ⟨hj, fun hp => hq (hstate.symm.trans hp)⟩), hstate, hg⟩

theorem Inputs.mem_set (h : w.Inputs) {k : ℕ} {new j : DeviceBinaryInput}
    (hi : (w.binaryInputs d)[k]? = some i) :
    j ∈ (w.binaryInputs d).set k new ↔
      j ∈ w.binaryInputs d ∧ j.state ≠ i.state ∨ new = j := by
  have hmem : i ∈ w.binaryInputs d := mem_of_getElem? hi
  obtain ⟨hk, hik⟩ := List.getElem?_eq_some_iff.mp hi
  rw [mem_iff_getElem?]
  constructor
  · rintro ⟨m, hm⟩
    rw [getElem?_set] at hm
    split_ifs at hm with hkm
    · exact .inr (some.inj hm)
    · refine .inl ⟨mem_of_getElem? hm, fun hstate => hkm ?_⟩
      obtain ⟨-, rfl⟩ := h.unshared d d j (mem_of_getElem? hm) i hmem hstate
      exact ((getElem?_inj hk (h.nodup d)).mp (hi.trans hm.symm))
  · rintro (⟨hj, hne⟩ | rfl)
    · obtain ⟨m, hm⟩ := mem_iff_getElem?.mp hj
      refine ⟨m, ?_⟩
      rw [getElem?_set_ne, hm]
      rintro rfl
      rw [hi] at hm
      exact hne (congrArg DeviceBinaryInput.state (some.inj hm)).symm
    · exact ⟨k, getElem?_set_self hk⟩

theorem Inputs.setField (h : w.Inputs) (f : FieldId) (field : StatusField) :
    (w.setField f field).Inputs :=
  ⟨h.nodup, h.listed, h.live, h.unshared, h.made, h.target⟩

theorem targetField_congr {w' : StatusWorld} (h : w'.hasStatus = w.hasStatus)
    (i : DeviceBinaryInput) : w'.targetField i = w.targetField i := by
  rw [targetField, targetField, h]

/-- **One input at a time.** The invariant survives a change of the input with the
state `p`, if the states of the apartment and the fields follow. -/
theorem Inv.replace {w' : StatusWorld} {p : ℕ} {r : Option DeviceBinaryInput}
    {inputs : List DeviceBinaryInput} (h : w.Inv groups)
    (hlist : w'.binaryInputs = Function.update w.binaryInputs d inputs)
    (hmem : ∀ j, j ∈ inputs ↔ j ∈ w.binaryInputs d ∧ j.state ≠ p ∨ r = some j)
    (hnodup : inputs.Nodup)
    (hothers : ∀ e, e ≠ d → ∀ j ∈ w.binaryInputs e, j.state ≠ p)
    (hstates : ∀ n q, w'.states n = some q ↔
      w.states n = some q ∧ q ≠ p ∨ q = p ∧ ∃ j, r = some j ∧ n = (d, j.inputIndex))
    (hstatus : w'.hasStatus = w.hasStatus)
    (hmade : w.allocated ≤ w'.allocated)
    (hnew : ∀ j, r = some j →
      j.state = p ∧ p < w'.allocated ∧ j.statusFieldHandle = w.targetField j)
    (hfields : Registered w'.fields w'.values fun q g =>
      if q = p then ∃ j, r = some j ∧ j.statusFieldHandle = some g else w.Attached q g) :
    w'.Inv groups := by
  have hinputs : w.Replaces w' d p r := by
    intro e j
    rw [hlist]
    by_cases he : e = d
    · subst he
      rw [update_self, hmem]
      simp
    · rw [update_of_ne he]
      exact ⟨fun hj => .inl ⟨hj, hothers e he j hj⟩,
        fun hj => hj.elim And.left fun hd => absurd hd.1 he⟩
  refine ⟨⟨?_, ?_, ?_, ?_, ?_, ?_⟩, ?_, hstatus.trans h.hasStatus⟩
  · intro e
    rw [hlist]
    by_cases he : e = d
    · subst he
      rw [update_self]
      exact hnodup
    · rw [update_of_ne he]
      exact h.inputs.nodup e
  · intro e j hj
    rw [hstates]
    rcases (hinputs e j).mp hj with ⟨hj, hne⟩ | ⟨rfl, hj⟩
    · exact .inl ⟨h.inputs.listed e j hj, hne⟩
    · exact .inr ⟨(hnew j hj).1, j, hj, rfl⟩
  · intro e k q hq
    rcases (hstates (e, k) q).mp hq with ⟨hq, hne⟩ | ⟨rfl, j, hj, hn⟩
    · obtain ⟨j, hj, hindex, rfl⟩ := h.inputs.live e k q hq
      exact ⟨j, (hinputs e j).mpr (.inl ⟨hj, hne⟩), hindex, rfl⟩
    · obtain ⟨rfl, rfl⟩ := Prod.mk.inj hn
      exact ⟨j, (hinputs e j).mpr (.inr ⟨rfl, hj⟩), rfl, (hnew j hj).1⟩
  · intro e e' i hi j hj hstate
    rcases (hinputs e i).mp hi with ⟨hi', hnei⟩ | ⟨he, hi'⟩ <;>
      rcases (hinputs e' j).mp hj with ⟨hj', hnej⟩ | ⟨he', hj'⟩
    · exact h.inputs.unshared e e' i hi' j hj' hstate
    · exact absurd (hstate.trans (hnew j hj').1) hnei
    · exact absurd (hstate.symm.trans (hnew i hi').1) hnej
    · exact ⟨he.trans he'.symm, some.inj (hi'.symm.trans hj')⟩
  · intro e j hj
    rcases (hinputs e j).mp hj with ⟨hj, -⟩ | ⟨-, hj⟩
    · exact Nat.lt_of_lt_of_le (h.inputs.made e j hj) hmade
    · exact (hnew j hj).1 ▸ (hnew j hj).2.1
  · intro e j hj
    rw [targetField_congr hstatus]
    rcases (hinputs e j).mp hj with ⟨hj, -⟩ | ⟨-, hj⟩
    · exact h.inputs.target e j hj
    · exact (hnew j hj).2.2
  · exact hfields.congr fun q g => (hinputs.attached_iff (fun j hj => (hnew j hj).1) q g).symm

end Inputs

/-! ## The operations on one input -/

section Operations

variable {w : StatusWorld} {d : Dsuid} {i : DeviceBinaryInput} {groups : ℕ → Bool}

theorem Inv.destroy {rest : List DeviceBinaryInput} (h : w.Inv groups)
    (hd : w.binaryInputs d = i :: rest) :
    ∃ w', (w.setBinaryInputList d rest).destroy i = some w' ∧ w'.Inv groups ∧
      w'.binaryInputs d = rest := by
  have hi : i ∈ w.binaryInputs d := hd ▸ mem_cons_self
  have hnodup := h.inputs.nodup d
  rw [hd, nodup_cons] at hnodup
  obtain ⟨fields, hreset, hfields⟩ := Registered.resetHandle
    (w := (w.setBinaryInputList d rest).removeState i.state)
    h.registered (h.inputs.attached_iff hi)
  refine ⟨_, hreset, h.replace (d := d) (p := i.state) (r := none) rfl ?_ hnodup.2 ?_ ?_ rfl
    (Nat.le_refl _) nofun ?_, update_self ..⟩
  · intro j
    rw [hd]
    constructor
    · intro hj
      refine .inl ⟨mem_cons_of_mem _ hj, fun hstate => hnodup.1 ?_⟩
      obtain ⟨-, rfl⟩ := h.inputs.unshared d d j (hd ▸ mem_cons_of_mem _ hj) i hi hstate
      exact hj
    · rintro (⟨hj, hne⟩ | hj)
      · exact (mem_cons.mp hj).resolve_left fun heq => hne (congrArg _ heq)
      · cases hj
  · intro e he j hj hstate
    exact he (h.inputs.unshared e d j hj i hi hstate).1
  · intro n q
    change (if w.states n = some i.state then none else w.states n) = some q ↔ _
    split_ifs with hn
    · rw [hn]
      constructor
      · exact nofun
      · rintro (⟨hq, hne⟩ | ⟨-, j, hj, -⟩)
        · exact absurd (some.inj hq).symm hne
        · cases hj
    · constructor
      · exact fun hq => .inl ⟨hq, fun heq => hn (heq ▸ hq)⟩
      · rintro (⟨hq, -⟩ | ⟨-, j, hj, -⟩)
        · exact hq
        · cases hj
  · refine hfields.congr fun q g => ?_
    split_ifs with hq <;> simp [hq]

/-- **A change of configuration or state** of one input, after which its handle
follows the configuration again. -/
theorem Inv.set {w' : StatusWorld} {k : ℕ} {j : DeviceBinaryInput} (h : w.Inv groups)
    (hi : (w.binaryInputs d)[k]? = some i)
    (hindex : j.inputIndex = i.inputIndex) (hstate : j.state = i.state)
    (htarget : j.statusFieldHandle = w.targetField j)
    (hlist : w'.binaryInputs = Function.update w.binaryInputs d ((w.binaryInputs d).set k j))
    (hstates : w'.states = w.states) (hstatus : w'.hasStatus = w.hasStatus)
    (hmade : w'.allocated = w.allocated)
    (hfields : Registered w'.fields w'.values fun q g =>
      if q = i.state then j.statusFieldHandle = some g else w.Attached q g) :
    w'.Inv groups := by
  have hmem : i ∈ w.binaryInputs d := mem_of_getElem? hi
  refine h.replace (d := d) (p := i.state) (r := some j) hlist ?_ ?_ ?_ ?_ hstatus
    (Nat.le_of_eq hmade.symm) ?_ ?_
  · intro m
    rw [h.inputs.mem_set hi, some_inj]
  · by_cases hnew : j ∈ w.binaryInputs d
    · obtain ⟨-, rfl⟩ := h.inputs.unshared d d j hnew i hmem hstate
      obtain ⟨hk, rfl⟩ := List.getElem?_eq_some_iff.mp hi
      rw [set_getElem_self]
      exact h.inputs.nodup d
    · exact (h.inputs.nodup d).set hnew
  · intro e he m hm hp
    exact he (h.inputs.unshared e d m hm i hmem hp).1
  · intro n q
    rw [hstates]
    constructor
    · intro hq
      by_cases hp : q = i.state
      · obtain ⟨m, hm, hk, hmp⟩ := h.inputs.live n.1 n.2 q hq
        obtain ⟨hd, rfl⟩ := h.inputs.unshared n.1 d m hm i hmem (hmp.trans hp)
        refine .inr ⟨hp, j, rfl, ?_⟩
        rw [hindex, hk, ← hd]
      · exact .inl ⟨hq, hp⟩
    · rintro (⟨hq, -⟩ | ⟨rfl, m, hm, rfl⟩)
      · exact hq
      · rw [← some.inj hm, hindex]
        exact h.inputs.listed d i hmem
  · rintro m hm
    obtain rfl := some.inj hm
    exact ⟨hstate, hmade ▸ h.inputs.made d i hmem, htarget⟩
  · refine hfields.congr fun q g => ?_
    split_ifs with hq <;> simp

theorem Inv.append {w' : StatusWorld} (h : w.Inv groups) (hd : w.Numbered d)
    (hname : w.states (d, (w.binaryInputs d).length) = none)
    (hindex : i.inputIndex = (w.binaryInputs d).length) (hstate : i.state = w.allocated)
    (htarget : i.statusFieldHandle = w.targetField i)
    (hlist : w'.binaryInputs = Function.update w.binaryInputs d (w.binaryInputs d ++ [i]))
    (hstates : w'.states =
      Function.update w.states (d, (w.binaryInputs d).length) (some w.allocated))
    (hstatus : w'.hasStatus = w.hasStatus)
    (hmade : w'.allocated = w.allocated + 1)
    (hfields : Registered w'.fields w'.values fun q g =>
      if q = i.state then i.statusFieldHandle = some g else w.Attached q g) :
    w'.Inv groups ∧ w'.Numbered d := by
  have hfresh : ∀ e, ∀ j ∈ w.binaryInputs e, j.state ≠ w.allocated := fun e j hj =>
    Nat.ne_of_lt (h.inputs.made e j hj)
  constructor
  · refine h.replace (d := d) (p := i.state) (r := some i) hlist ?_ ?_ ?_ ?_ hstatus
      (hmade ▸ Nat.le_succ _) ?_ ?_
    · intro j
      rw [mem_append, mem_singleton, some_inj, eq_comm (a := i), hstate]
      exact or_congr_left ⟨fun hj => ⟨hj, hfresh d j hj⟩, And.left⟩
    · refine nodup_append.mpr ⟨h.inputs.nodup d, nodup_singleton i, ?_⟩
      rintro j hj j' hj' rfl
      rw [mem_singleton.mp hj'] at hj
      exact hfresh d i hj hstate
    · intro e _ j hj
      rw [hstate]
      exact hfresh e j hj
    · intro n q
      rw [hstates, hstate]
      by_cases hn : n = (d, (w.binaryInputs d).length)
      · subst hn
        rw [update_self, hname]
        constructor
        · exact fun hq => .inr ⟨(some.inj hq).symm, i, rfl, by rw [hindex]⟩
        · rintro (⟨hq, -⟩ | ⟨rfl, -⟩)
          · cases hq
          · rfl
      · rw [update_of_ne hn]
        constructor
        · intro hq
          obtain ⟨j, hj, -, rfl⟩ := h.inputs.live n.1 n.2 q hq
          exact .inl ⟨hq, hfresh n.1 j hj⟩
        · rintro (⟨hq, -⟩ | ⟨-, j, hj, rfl⟩)
          · exact hq
          · obtain rfl := some.inj hj
            rw [hindex] at hn
            exact absurd rfl hn
    · rintro j hj
      obtain rfl := some.inj hj
      exact ⟨rfl, by rw [hstate, hmade]; exact Nat.lt_succ_self _, htarget⟩
    · refine hfields.congr fun q g => ?_
      split_ifs with hq <;> simp
  · intro j hj
    rw [hlist, update_self] at hj ⊢
    rw [length_append]
    rcases mem_append.mp hj with hj | hj
    · exact Nat.lt_succ_of_lt (hd j hj)
    · rw [mem_singleton.mp hj, hindex]
      exact Nat.lt_succ_self _

theorem Inv.construct (h : w.Inv groups) (hd : w.Numbered d) (spec : DeviceBinaryInputSpec) :
    ∃ w' r, w.construct d (w.binaryInputs d).length spec = some (w', r) ∧
      match r with
      | none => w'.Inv groups ∧ w'.Numbered d
      | some i => (w'.setBinaryInputList d (w'.binaryInputs d ++ [i])).Inv groups ∧
          (w'.setBinaryInputList d (w'.binaryInputs d ++ [i])).Numbered d := by
  have hname : w.states (d, (w.binaryInputs d).length) = none := by
    rcases hs : w.states (d, (w.binaryInputs d).length) with - | p
    · rfl
    · obtain ⟨j, hj, hindex, -⟩ := h.inputs.live _ _ _ hs
      exact absurd (hd j hj) (hindex ▸ Nat.lt_irrefl _)
  have hvalues : Registered w.fields (w.makeState spec.persisted).values w.Attached :=
    h.registered.update_values h.inputs.not_attached
  rw [StatusWorld.construct, hname]
  by_cases hscript : w.scripted (d, (w.binaryInputs d).length) = true
  · -- only the state object is new, and nothing refers to it
    refine ⟨w.makeState spec.persisted, none, if_pos hscript, ⟨?_, hvalues, h.hasStatus⟩, hd⟩
    exact ⟨h.inputs.nodup, h.inputs.listed, h.inputs.live, h.inputs.unshared,
      fun e j hj => Nat.lt_succ_of_lt (h.inputs.made e j hj), h.inputs.target⟩
  · obtain ⟨fields, hupdate, hfields⟩ := Registered.updateStatusFieldHandle
      (w := (w.makeState spec.persisted).allocateState
        (d, (w.binaryInputs d).length) w.allocated)
      (i := .ofSpec spec (w.binaryInputs d).length w.allocated)
      hvalues fun g => iff_of_false (h.inputs.not_attached g) nofun
    refine ⟨_, some _, by rw [if_neg hscript, hupdate]; rfl, ?_⟩
    exact h.append hd hname rfl rfl rfl rfl rfl rfl rfl hfields

theorem Inv.updateStatusFieldHandle {k : ℕ} {new : DeviceBinaryInput} (h : w.Inv groups)
    (hi : (w.binaryInputs d)[k]? = some i)
    (hindex : new.inputIndex = i.inputIndex) (hstate : new.state = i.state)
    (hhandle : new.statusFieldHandle = i.statusFieldHandle) :
    ∃ w' j, w.updateStatusFieldHandle new = some (w', j) ∧
      (w'.setBinaryInputList d ((w.binaryInputs d).set k j)).Inv groups := by
  obtain ⟨fields, hupdate, hfields⟩ := Registered.updateStatusFieldHandle (i := new)
    h.registered fun g => by
      rw [hstate, hhandle]
      exact h.inputs.attached_iff (mem_of_getElem? hi) g
  rw [hstate] at hfields
  refine ⟨_, _, hupdate, ?_⟩
  exact h.set (j := new.setHandle (w.targetField new)) hi hindex hstate rfl rfl rfl rfl rfl hfields

theorem Inv.set_self {k : ℕ} (h : w.Inv groups) (hi : (w.binaryInputs d)[k]? = some i) :
    (w.setBinaryInputList d ((w.binaryInputs d).set k i)).Inv groups := by
  obtain ⟨hk, rfl⟩ := List.getElem?_eq_some_iff.mp hi
  rw [set_getElem_self, setBinaryInputList, update_eq_self]
  exact h

theorem Inv.handleEvent {k : ℕ} (h : w.Inv groups) (hi : (w.binaryInputs d)[k]? = some i)
    (inputState : ℤ) :
    ∃ w' j, w.handleEvent i inputState = some (w', j) ∧
      (w'.setBinaryInputList d ((w.binaryInputs d).set k j)).Inv groups := by
  have hmem := mem_of_getElem? hi
  obtain ⟨fields, hupdate, hfields⟩ := Registered.updateHandle
    (w := w.setState i.state (stateForEvent i.inputType inputState))
    h.registered rfl (h.inputs.attached_iff hmem)
  refine ⟨_, i, by rw [StatusWorld.handleEvent, hupdate]; rfl, ?_⟩
  refine h.set hi rfl rfl (h.inputs.target d i hmem) rfl rfl rfl rfl ?_
  refine hfields.congr fun q g => ?_
  split_ifs with hq
  · rw [hq, h.inputs.attached_iff hmem]
  · rfl

/-! ## The operations of devices -/

theorem Inv.clearLoop {inputs : List DeviceBinaryInput} :
    ∀ {w : StatusWorld}, w.Inv groups → w.binaryInputs d = inputs →
      ∃ w', w.clearLoop d inputs = some w' ∧ w'.Inv groups ∧ w'.binaryInputs d = [] := by
  induction inputs with
  | nil => exact fun h hd => ⟨_, rfl, h, hd⟩
  | cons i rest ih =>
    intro w h hd
    obtain ⟨w₁, hdestroy, h₁, hd₁⟩ := h.destroy hd
    obtain ⟨w', hloop, h', hd'⟩ := ih h₁ hd₁
    exact ⟨w', by rw [StatusWorld.clearLoop, hdestroy, bind_some, hloop], h', hd'⟩

theorem Inv.createLoop (specs : List DeviceBinaryInputSpec) :
    ∀ {w : StatusWorld}, w.Inv groups → w.Numbered d →
      ∃ w', w.createLoop d specs = some w' ∧ w'.Inv groups := by
  induction specs with
  | nil => exact fun h _ => ⟨_, rfl, h⟩
  | cons spec specs ih =>
    intro w h hd
    obtain ⟨w₁, r, hconstruct, hr⟩ := h.construct hd spec
    rw [StatusWorld.createLoop, hconstruct]
    cases r with
    | none => exact ⟨w₁, rfl, hr.1⟩
    | some i => exact ih hr.1 hr.2

/-- Every operation on the input found keeps the invariant if it leaves it with the
input set. -/
theorem Inv.onBinaryInput {op : StatusWorld → DeviceBinaryInput →
      Option (StatusWorld × DeviceBinaryInput)} (h : w.Inv groups) (index : UInt8)
    (hop : ∀ k i, (w.binaryInputs d)[k]? = some i →
      ∃ w' j, op w i = some (w', j) ∧
        (w'.setBinaryInputList d ((w.binaryInputs d).set k j)).Inv groups) :
    ∃ w', w.onBinaryInput d index op = some w' ∧ w'.Inv groups := by
  simp only [StatusWorld.onBinaryInput]
  split_ifs
  · exact ⟨w, rfl, h⟩
  · rcases hi : (w.binaryInputs d)[index.toNat]? with - | i
    · exact ⟨w, rfl, h⟩
    · obtain ⟨w', j, hj, h'⟩ := hop _ i hi
      refine ⟨_, ?_, h'⟩
      dsimp only
      rw [hj]
      rfl

theorem Inv.perform (h : w.Inv groups) (op : StatusOperation) :
    ∃ w', w.perform op = some w' ∧ w'.Inv groups := by
  cases op with
  | setBinaryInputs d specs =>
    obtain ⟨w₁, hclear, h₁, hd₁⟩ := h.clearLoop (d := d) rfl
    have hnumbered : w₁.Numbered d := fun j hj => by
      rw [hd₁] at hj
      cases hj
    obtain ⟨w', hcreate, h'⟩ := h₁.createLoop specs hnumbered
    refine ⟨w', ?_, h'⟩
    rw [StatusWorld.perform, setBinaryInputs, clearBinaryInputs, hclear, bind_some, hcreate]
  | clearBinaryInputs d =>
    obtain ⟨w', hclear, h', -⟩ := h.clearLoop (d := d) rfl
    exact ⟨w', hclear, h'⟩
  | setBinaryInputTargetId d index targetGroupId =>
    rw [StatusWorld.perform]
    refine h.onBinaryInput index fun k i hi => ?_
    rw [setTargetId]
    split_ifs
    · exact ⟨w, i, rfl, h.set_self hi⟩
    · exact h.updateStatusFieldHandle hi rfl rfl rfl
  | setBinaryInputType d index inputType =>
    rw [StatusWorld.perform]
    refine h.onBinaryInput index fun k i hi => ?_
    rw [setInputType]
    split_ifs
    · exact ⟨w, i, rfl, h.set_self hi⟩
    · exact h.updateStatusFieldHandle hi rfl rfl rfl
  | handleBinaryInputEvent d index inputState =>
    rw [StatusWorld.perform]
    exact h.onBinaryInput _ fun k i hi => h.handleEvent hi inputState
  | setValueAndPush f value =>
    refine ⟨_, rfl, h.inputs.setField f _, ?_, h.hasStatus⟩
    exact h.registered.set ⟨(h.registered f).nodup, (h.registered f).mem_iff, nofun⟩
      fun _ _ _ => Iff.rfl

end Operations

/-! ## Runs -/

theorem inv_start (hasStatus : ℕ → Bool) (scripted : Dsuid × ℕ → Bool)
    (restored : FieldId → ℤ) : (start hasStatus scripted restored).Inv hasStatus := by
  have hnone : ∀ p f, ¬ (start hasStatus scripted restored).Attached p f := by
    rintro p f ⟨d, i, hi, -⟩
    cases hi
  refine ⟨⟨fun _ => nodup_nil, nofun, nofun, nofun, nofun, nofun⟩, fun f => ?_, rfl⟩
  refine ⟨nodup_nil, fun p v => ?_, nofun⟩
  exact ⟨nofun, fun h => absurd h.1 (hnone p f)⟩

theorem Inv.performAll {w : StatusWorld} {groups : ℕ → Bool} (h : w.Inv groups)
    (ops : List StatusOperation) :
    ∃ w', w.performAll ops = some w' ∧ w'.Inv groups := by
  induction ops generalizing w with
  | nil => exact ⟨w, rfl, h⟩
  | cons op ops ih =>
    obtain ⟨w₁, hop, h₁⟩ := h.perform op
    obtain ⟨w', hops, h'⟩ := ih h₁
    refine ⟨w', ?_, h'⟩
    rw [StatusWorld.performAll, foldlM_cons, hop]
    exact hops

/-- Whether the type of an input maps to a field and its target group, which 0
stands for none of, is the group of the field. -/
def Selects (i : DeviceBinaryInput) (f : FieldId) : Prop :=
  i.targetGroupId ≠ 0 ∧ i.targetGroupId = f.group ∧
    statusFieldTypeForBinaryInputType i.inputType = some f.type

/-- The sub states of a field are the states of the inputs that select it, each
once, with its current value. -/
def SubStatesOfInputs (w : StatusWorld) (f : FieldId) : Prop :=
  ((w.fields f).subStateItems.map SubStateItem.ptr).Nodup ∧
    ∀ p v, ⟨p, v⟩ ∈ (w.fields f).subStateItems ↔
      (∃ d, ∃ i ∈ w.binaryInputs d, i.state = p ∧ Selects i f) ∧ v = w.values p

theorem targetField_eq_some {w : StatusWorld} {f : FieldId} (hf : w.hasStatus f.group = true)
    (i : DeviceBinaryInput) : w.targetField i = some f ↔ Selects i f := by
  obtain ⟨group, type⟩ := f
  rw [targetField, Selects]
  by_cases h0 : i.targetGroupId = 0
  · simp [h0]
  · rcases ht : statusFieldTypeForBinaryInputType i.inputType with - | t
    · simp
    · split_ifs with hs
      · simp [h0]
      · constructor
        · exact nofun
        · rintro ⟨-, hgroup, -⟩
          exact absurd (hgroup ▸ hf) hs

theorem Inv.subStatesOfInputs {w : StatusWorld} {f : FieldId} {groups : ℕ → Bool}
    (h : w.Inv groups) (hf : groups f.group = true) : w.SubStatesOfInputs f := by
  refine ⟨(h.registered f).nodup, fun p v => ?_⟩
  rw [(h.registered f).mem_iff]
  refine and_congr_left fun _ => exists_congr fun d => exists_congr fun i => ?_
  refine and_congr_right fun hi => and_congr_right fun _ => ?_
  rw [h.inputs.target d i hi, targetField_eq_some (h.hasStatus ▸ hf)]

/-- **Composition of the status fields.** No sequence of operations fires a
`DS_REQUIRE`, and after it the sub states of every field are the states of the
inputs that select it, and its value is their composition, unless it was forced or
restored since a sub state last changed. -/
theorem composition (hasStatus : ℕ → Bool) (scripted : Dsuid × ℕ → Bool)
    (restored : FieldId → ℤ) (ops : List StatusOperation) :
    ∃ w, (start hasStatus scripted restored).performAll ops = some w ∧
      ∀ f, hasStatus f.group = true →
        w.SubStatesOfInputs f ∧ ((w.fields f).origin = .composed → (w.fields f).Composed) := by
  obtain ⟨w, hrun, h⟩ := (inv_start hasStatus scripted restored).performAll ops
  exact ⟨w, hrun, fun f hf => ⟨h.subStatesOfInputs hf, (h.registered f).composed⟩⟩

/-- A group with a field restored as active. -/
theorem composition_fails : ¬ ∀ (hasStatus : ℕ → Bool) (scripted : Dsuid × ℕ → Bool)
    (restored : FieldId → ℤ) (ops : List StatusOperation),
    ∃ w, (start hasStatus scripted restored).performAll ops = some w ∧
      ∀ f, hasStatus f.group = true →
        w.SubStatesOfInputs f ∧ ((w.fields f).origin ≠ .forced → (w.fields f).Composed) := by
  intro h
  -- the field is active, the state of a device that goes is none of its sub states
  obtain ⟨w, hrun, hw⟩ := h (fun g => g == 64) (fun _ => false) (fun _ => stateActive)
    [.setBinaryInputs 0 []]
  obtain rfl := some.inj hrun
  obtain ⟨x, hx, -⟩ := ((hw ⟨64, .malfunction⟩ rfl).2 nofun).mp rfl
  cases hx

end StatusWorld

end Dss
