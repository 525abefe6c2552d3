import Dss.EventRelay
import Dss.KeyedList
import Dss.Transition

/-!
# Runs of the internal relay

The ids stay apart and every entry of the relay map refers to the owner as long as no target finds
an id free that another one has found free before and not yet handed to the interpreter. Nothing
in the code prevents that: the test and the insertion are under two locks.
-/

namespace Dss

open List Function

namespace Phase

/-- The subscription with an id that is chosen and not yet in the interpreter's list. -/
def held? : Phase → Option Subscription
  | constructed x | registered x | asserted x => some x
  | idle | choosing _ _ | removing _ => none

def announced? : Phase → Option Subscription
  | registered x | asserted x => some x
  | idle | choosing _ _ | constructed _ | removing _ => none

theorem held?_of_announced? {p : Phase} {x : Subscription} (h : p.announced? = some x) :
    p.held? = some x := by
  cases p with
  | registered | asserted => exact h
  | idle | choosing | constructed | removing => cases h

end Phase

namespace RelayWorld

variable {w w' : RelayWorld} {t t' : ℕ} {id : String} {x : Subscription}

def own (w : RelayWorld) (t : ℕ) : List Subscription := (w.targets t).subscriptions

def phase (w : RelayWorld) (t : ℕ) : Phase := (w.targets t).phase

/-! ## The law -/

/-- The ids of the interpreter's subscriptions are distinct and the assertion has not
failed; the relay's entry of a subscription refers to its owner, unless the owner has begun
to remove it; and who removes an id removes his own subscription and no other. -/
structure Law (w : RelayWorld) : Prop where
  running : w.aborted = false
  distinct : (w.subscriptions.map Subscription.id).Nodup
  entry : ∀ x ∈ w.subscriptions, ∀ t, x ∈ w.own t → w.phase t ≠ .removing x.id →
    w.idTargetMap x.id = some t
  owner : ∀ x ∈ w.subscriptions, ∀ t, w.idTargetMap x.id = some t → x ∈ w.own t
  /-- the interpreter is about to erase the caller's own subscription -/
  removesOwn : ∀ t id, w.phase t = .removing id →
    ∃ x ∈ w.own t, x.id = id ∧ ∃ l l', w.subscriptions = l ++ x :: l' ∧
      unsubscribe w.subscriptions id = l ++ l'

/-- Before any relay target has subscribed; the interpreter may have other
subscriptions. -/
structure Start (w : RelayWorld) : Prop where
  running : w.aborted = false
  distinct : (w.subscriptions.map Subscription.id).Nodup
  noEntry : ∀ id, w.idTargetMap id = none
  targets : ∀ t, w.targets t = {}

/-- A target does not find the id free that another one has found free and not yet handed
to the interpreter. -/
def Unclaimed (w : RelayWorld) : ℕ × RelayStep → Prop
  | (t, .test) => ∀ eventName k, w.phase t = .choosing eventName k →
      (subscriptionByID w.subscriptions (proposedID eventName k)).isSome ∨
        ∀ t' x, t' ≠ t → (w.phase t').held? = some x → x.id ≠ proposedID eventName k
  | (_, .call _) | (_, .register) | (_, .assertion) | (_, .insert) | (_, .remove _)
  | (_, .erase) => True

def Steps (l : ℕ × RelayStep) (w w' : RelayWorld) : Prop := w.step l.1 l.2 = some w'

/-! ## What a step can do -/

inductive Did (w : RelayWorld) (t : ℕ) : RelayStep → RelayWorld → Prop where
  | call {eventName : String} (hphase : w.phase t = .idle) :
      Did w t (.call eventName) (w.setPhase t (.choosing eventName 0))
  | taken {eventName : String} {k : ℕ} (hphase : w.phase t = .choosing eventName k)
      (hsome : (subscriptionByID w.subscriptions (proposedID eventName k)).isSome) :
      Did w t .test (w.setPhase t (.choosing eventName (k + 1)))
  | free {eventName : String} {k : ℕ} (hphase : w.phase t = .choosing eventName k)
      (hnone : subscriptionByID w.subscriptions (proposedID eventName k) = none) :
      Did w t .test
        (w.setPhase t (.constructed (relaySubscription (proposedID eventName k) eventName)))
  | register {x : Subscription} (hphase : w.phase t = .constructed x) :
      Did w t .register
        (((w.registerSubscription t x.id).setOwn t (w.own t ++ [x])).setPhase t (.registered x))
  | abort {x : Subscription} (hphase : w.phase t = .registered x)
      (hsome : (subscriptionByID w.subscriptions x.id).isSome) :
      Did w t .assertion { w with aborted := true }
  | assertion {x : Subscription} (hphase : w.phase t = .registered x)
      (hnone : subscriptionByID w.subscriptions x.id = none) :
      Did w t .assertion (w.setPhase t (.asserted x))
  | insert {x : Subscription} (hphase : w.phase t = .asserted x) :
      Did w t .insert ({ w with subscriptions := w.subscriptions ++ [x] }.setPhase t .idle)
  | remove {id : String} (hphase : w.phase t = .idle) (hown : ∃ x ∈ w.own t, x.id = id) :
      Did w t (.remove id) ((w.removeSubscription id).setPhase t (.removing id))
  | erase {id : String} (hphase : w.phase t = .removing id) :
      Did w t .erase (({ w with subscriptions := unsubscribe w.subscriptions id }.setOwn t
        (unsubscribe (w.own t) id)).setPhase t .idle)

theorem did_of_step {s : RelayStep} (h : w.step t s = some w') :
    w.aborted = false ∧ Did w t s w' := by
  by_cases habort : w.aborted
  · rw [step.eq_def, if_pos habort] at h
    cases h
  rw [step.eq_def, if_neg habort] at h
  refine ⟨eq_false_of_ne_true habort, ?_⟩
  split at h
  · rename_i hphase
    cases h
    exact .call hphase
  · rename_i hphase
    split_ifs at h with hsome
    · cases h
      exact .taken hphase hsome
    · cases h
      exact .free hphase (Option.not_isSome_iff_eq_none.mp hsome)
  · rename_i hphase
    cases h
    exact .register hphase
  · rename_i hphase
    split_ifs at h with hsome
    · cases h
      exact .abort hphase hsome
    · cases h
      exact .assertion hphase (Option.not_isSome_iff_eq_none.mp hsome)
  · rename_i hphase
    cases h
    exact .insert hphase
  · rename_i hphase
    split_ifs at h with hany
    cases h
    obtain ⟨x, hx, hid⟩ := any_eq_true.mp hany
    exact .remove hphase ⟨x, hx, of_decide_eq_true hid⟩
  · rename_i hphase
    cases h
    exact .erase hphase
  · cases h

theorem step_of_did {s : RelayStep} (hrunning : w.aborted = false) (h : Did w t s w') :
    w.step t s = some w' := by
  rw [step.eq_def, if_neg (ne_true_of_eq_false hrunning)]
  cases h with
  | call hphase | register hphase | insert hphase | erase hphase =>
    rw [phase] at hphase
    simp only [hphase, own]
  | taken hphase hsome | abort hphase hsome =>
    rw [phase] at hphase
    rw [hphase]
    exact if_pos hsome
  | free hphase hnone | assertion hphase hnone =>
    rw [phase] at hphase
    rw [hphase]
    exact if_neg (by rw [hnone]; exact Bool.false_ne_true)
  | remove hphase hown =>
    obtain ⟨x, hx, hid⟩ := hown
    rw [phase] at hphase
    rw [hphase]
    exact if_pos (any_eq_true.mpr ⟨x, hx, decide_eq_true hid⟩)

/-! ## The projections of a changed world -/

theorem targets_setPhase {p : Phase} :
    (w.setPhase t p).targets t' =
      if t' = t then { w.targets t with phase := p } else w.targets t' :=
  update_apply w.targets t _ t'

theorem targets_setOwn {l : List Subscription} :
    (w.setOwn t l).targets t' =
      if t' = t then { w.targets t with subscriptions := l } else w.targets t' :=
  update_apply w.targets t _ t'

@[simp] theorem phase_setPhase {p : Phase} :
    (w.setPhase t p).phase t' = if t' = t then p else w.phase t' := by
  rw [phase, targets_setPhase]
  split_ifs <;> rfl

@[simp] theorem own_setPhase {p : Phase} : (w.setPhase t p).own t' = w.own t' := by
  rw [own, targets_setPhase]
  split_ifs with h
  · rw [h, own]
  · rfl

@[simp] theorem phase_setOwn {l : List Subscription} : (w.setOwn t l).phase t' = w.phase t' := by
  rw [phase, targets_setOwn]
  split_ifs with h
  · rw [h, phase]
  · rfl

@[simp] theorem own_setOwn {l : List Subscription} :
    (w.setOwn t l).own t' = if t' = t then l else w.own t' := by
  rw [own, targets_setOwn]
  split_ifs <;> rfl

@[simp] theorem subscriptions_setPhase {p : Phase} :
    (w.setPhase t p).subscriptions = w.subscriptions := rfl

@[simp] theorem subscriptions_setOwn {l : List Subscription} :
    (w.setOwn t l).subscriptions = w.subscriptions := rfl

@[simp] theorem idTargetMap_setPhase {p : Phase} :
    (w.setPhase t p).idTargetMap = w.idTargetMap := rfl

@[simp] theorem idTargetMap_setOwn {l : List Subscription} :
    (w.setOwn t l).idTargetMap = w.idTargetMap := rfl

@[simp] theorem aborted_setPhase {p : Phase} : (w.setPhase t p).aborted = w.aborted := rfl

@[simp] theorem aborted_setOwn {l : List Subscription} : (w.setOwn t l).aborted = w.aborted := rfl

@[simp] theorem subscriptions_registerSubscription :
    (w.registerSubscription t id).subscriptions = w.subscriptions := rfl

@[simp] theorem idTargetMap_registerSubscription {id' : String} :
    (w.registerSubscription t id).idTargetMap id' =
      if id' = id then some t else w.idTargetMap id' :=
  update_apply w.idTargetMap id _ id'

@[simp] theorem subscriptions_removeSubscription :
    (w.removeSubscription id).subscriptions = w.subscriptions := rfl

@[simp] theorem idTargetMap_removeSubscription {id' : String} :
    (w.removeSubscription id).idTargetMap id' = if id' = id then none else w.idTargetMap id' :=
  update_apply w.idTargetMap id _ id'

@[simp] theorem phase_registerSubscription :
    (w.registerSubscription t id).phase t' = w.phase t' := rfl

@[simp] theorem own_registerSubscription : (w.registerSubscription t id).own t' = w.own t' := rfl

@[simp] theorem phase_removeSubscription : (w.removeSubscription id).phase t' = w.phase t' := rfl

@[simp] theorem own_removeSubscription : (w.removeSubscription id).own t' = w.own t' := rfl

@[simp] theorem phase_withSubscriptions {l : List Subscription} :
    ({ w with subscriptions := l } : RelayWorld).phase t' = w.phase t' := rfl

@[simp] theorem own_withSubscriptions {l : List Subscription} :
    ({ w with subscriptions := l } : RelayWorld).own t' = w.own t' := rfl

/-! ## Lists of subscriptions -/

theorem subscriptionByID_isSome {l : List Subscription} :
    (subscriptionByID l id).isSome ↔ ∃ x ∈ l, x.id = id := by
  rw [subscriptionByID, find?_isSome]
  simp only [decide_eq_true_eq]

theorem subscriptionByID_eq_none {l : List Subscription} :
    subscriptionByID l id = none ↔ ∀ x ∈ l, x.id ≠ id := by
  rw [subscriptionByID, find?_eq_none]
  simp only [decide_eq_true_eq, ne_eq]

theorem mem_unsubscribe {l : List Subscription} (hl : (l.map Subscription.id).Nodup) :
    x ∈ unsubscribe l id ↔ x ∈ l ∧ x.id ≠ id := by
  have herase : unsubscribe l id = l.filter fun y => y.id ≠ id :=
    KeyedList.eraseP_eq_filter hl fun _ _ => decide_eq_true_iff
  rw [herase, mem_filter, decide_eq_true_iff]

theorem nodup_unsubscribe {l : List Subscription} (hl : (l.map Subscription.id).Nodup) :
    ((unsubscribe l id).map Subscription.id).Nodup :=
  hl.sublist (eraseP_sublist.map Subscription.id)

theorem nodup_append {l : List Subscription} (hl : (l.map Subscription.id).Nodup)
    (hx : ∀ y ∈ l, y.id ≠ x.id) : ((l ++ [x]).map Subscription.id).Nodup := by
  refine KeyedList.nodup_append hl fun hmem => ?_
  obtain ⟨y, hy, hid⟩ := mem_map.mp hmem
  exact hx y hy hid

theorem eq_of_mem {l : List Subscription} (hl : (l.map Subscription.id).Nodup) {y : Subscription}
    (hx : x ∈ l) (hy : y ∈ l) (h : x.id = y.id) : x = y :=
  inj_on_of_nodup_map hl hx hy h

/-! ## The invariant -/

/-- What holds all along, while ids are chosen apart. -/
structure Inv (w : RelayWorld) : Prop where
  running : w.aborted = false
  distinct : (w.subscriptions.map Subscription.id).Nodup
  fresh : ∀ t x, (w.phase t).held? = some x → ∀ y ∈ w.subscriptions, y.id ≠ x.id
  heldOnce : ∀ t t' x x', (w.phase t).held? = some x → (w.phase t').held? = some x' →
    x.id = x'.id → t = t'
  announced : ∀ t x, (w.phase t).announced? = some x → x ∈ w.own t
  /-- what is in a list is in the interpreter's, or on the way to it -/
  owned : ∀ t, ∀ x ∈ w.own t, x ∈ w.subscriptions ∨ (w.phase t).announced? = some x
  ownDistinct : ∀ t, ((w.own t).map Subscription.id).Nodup
  apart : ∀ t t' x x', x ∈ w.own t → x' ∈ w.own t' → x.id = x'.id → t = t'
  /-- the relay knows the owner, until he begins to remove his subscription -/
  entry : ∀ t, ∀ x ∈ w.own t, w.phase t ≠ .removing x.id → w.idTargetMap x.id = some t
  entryOwned : ∀ id t, w.idTargetMap id = some t → ∃ x ∈ w.own t, x.id = id
  removing : ∀ t id, w.phase t = .removing id → w.idTargetMap id = none ∧ ∃ x ∈ w.own t, x.id = id

theorem Start.inv (h : Start w) : Inv w := by
  have hown (t : ℕ) : w.own t = [] := by rw [own, h.targets]
  have hphase (t : ℕ) : w.phase t = .idle := by rw [phase, h.targets]
  constructor <;> simp [hown, hphase, h.running, h.distinct, h.noEntry, Phase.held?,
    Phase.announced?]

theorem Inv.law (h : Inv w) : Law w := by
  -- who has a subscription with the id of one in the list has that one
  have hsame {t : ℕ} {x y : Subscription} (hx : x ∈ w.subscriptions) (hy : y ∈ w.own t)
      (hid : y.id = x.id) : y = x := by
    rcases h.owned t y hy with hlist | hway
    · exact eq_of_mem h.distinct hlist hx hid
    · exact absurd hid.symm (h.fresh t y (Phase.held?_of_announced? hway) x hx)
  refine ⟨h.running, h.distinct, fun x _ t => h.entry t x, ?_, ?_⟩
  · intro x hx t hentry
    obtain ⟨y, hy, hid⟩ := h.entryOwned x.id t hentry
    exact hsame hx hy hid ▸ hy
  · intro t id hphase
    obtain ⟨-, x, hx, rfl⟩ := h.removing t id hphase
    have hlist : x ∈ w.subscriptions := by
      rcases h.owned t x hx with hlist | hway
      · exact hlist
      · rw [hphase] at hway
        cases hway
    refine ⟨x, hx, rfl, ?_⟩
    obtain ⟨y, l, l', -, hy, hsplit, herase⟩ :=
      exists_of_eraseP (p := fun y => y.id = x.id) hlist (decide_eq_true rfl)
    obtain rfl : y = x :=
      eq_of_mem h.distinct (hsplit ▸ mem_append_right l mem_cons_self) hlist
        (of_decide_eq_true hy)
    exact ⟨l, l', hsplit, herase⟩

/-- A subscription of which a target other than `t`, or the interpreter, has the id. -/
def Claimed (w : RelayWorld) (t : ℕ) (id : String) : Prop :=
  (∃ y ∈ w.subscriptions, y.id = id) ∨
    ∃ t' x, t' ≠ t ∧ (w.phase t').held? = some x ∧ x.id = id

theorem Inv.not_claimed (h : Inv w) (hheld : (w.phase t).held? = some x) :
    ¬ w.Claimed t x.id := by
  rintro (⟨y, hy, hid⟩ | ⟨t', x', hne, hheld', hid⟩)
  · exact h.fresh t x hheld y hy hid
  · exact hne (h.heldOnce t' t x' x hheld' hheld hid)

/-- Another phase that announces the same and holds what nobody claims, with no removal
before or after. -/
theorem Inv.setPhase {p : Phase} (h : Inv w) (hheld : ∀ x, p.held? = some x → ¬ w.Claimed t x.id)
    (hannounced : p.announced? = (w.phase t).announced?) (hp : ∀ id, p ≠ .removing id)
    (hphase : ∀ id, w.phase t ≠ .removing id) : Inv (w.setPhase t p) := by
  have hannounced' (t' : ℕ) :
      ((w.setPhase t p).phase t').announced? = (w.phase t').announced? := by
    rw [phase_setPhase]
    split_ifs with ht
    · rw [hannounced, ht]
    · rfl
  have hremoving (t' : ℕ) (id : String) :
      (w.setPhase t p).phase t' = .removing id ↔ w.phase t' = .removing id := by
    rw [phase_setPhase]
    split_ifs with ht
    · rw [ht, iff_false_left (hp id)]
      exact hphase id
    · exact Iff.rfl
  refine ⟨h.running, h.distinct, ?_, ?_, ?_, ?_, ?_, ?_, ?_, ?_, ?_⟩ <;>
    try simp only [hannounced', hremoving, own_setPhase, subscriptions_setPhase,
      idTargetMap_setPhase, ne_eq]
  · intro t' x hx y hy hid
    rw [phase_setPhase] at hx
    split_ifs at hx with ht
    · exact hheld x hx (.inl ⟨y, hy, hid⟩)
    · exact h.fresh t' x hx y hy hid
  · intro t₁ t₂ x₁ x₂ hx₁ hx₂ hid
    rw [phase_setPhase] at hx₁ hx₂
    by_cases h₁ : t₁ = t
    · rw [if_pos h₁] at hx₁
      by_contra hne
      rw [if_neg (fun h₂ => hne (h₁.trans h₂.symm))] at hx₂
      exact hheld x₁ hx₁ (.inr ⟨t₂, x₂, fun h₂ => hne (h₁.trans h₂.symm), hx₂, hid.symm⟩)
    · rw [if_neg h₁] at hx₁
      by_cases h₂ : t₂ = t
      · rw [if_pos h₂] at hx₂
        exact absurd (.inr ⟨t₁, x₁, h₁, hx₁, hid⟩) (hheld x₂ hx₂)
      · rw [if_neg h₂] at hx₂
        exact h.heldOnce t₁ t₂ x₁ x₂ hx₁ hx₂ hid
  · exact h.announced
  · exact h.owned
  · exact h.ownDistinct
  · exact h.apart
  · exact h.entry
  · exact h.entryOwned
  · exact h.removing

theorem Inv.free {eventName : String} {k : ℕ} (h : Inv w) (hok : Unclaimed w (t, .test))
    (hphase : w.phase t = .choosing eventName k)
    (hnone : subscriptionByID w.subscriptions (proposedID eventName k) = none) :
    Inv (w.setPhase t (.constructed (relaySubscription (proposedID eventName k) eventName))) := by
  refine h.setPhase ?_ ?_ (fun _ => nofun) ?_
  · rintro x ⟨rfl⟩ (⟨y, hy, hid⟩ | ⟨t', x', hne, hheld, hid⟩)
    · exact subscriptionByID_eq_none.1 hnone y hy hid
    · rcases hok eventName k hphase with hsome | hclaimed
      · rw [hnone] at hsome
        cases hsome
      · exact hclaimed t' x' hne hheld hid
  · rw [hphase]
    rfl
  · rw [hphase]
    exact fun _ => nofun

theorem Inv.register (h : Inv w) (hphase : w.phase t = .constructed x) :
    Inv (((w.registerSubscription t x.id).setOwn t (w.own t ++ [x])).setPhase t
      (.registered x)) := by
  have hclaimed := h.not_claimed (x := x) (t := t) (by rw [hphase]; rfl)
  -- nobody has a subscription with this id yet
  have hnew : ∀ t' y, y ∈ w.own t' → y.id ≠ x.id := by
    intro t' y hy hid
    rcases h.owned t' y hy with hlist | hway
    · exact hclaimed (.inl ⟨y, hlist, hid⟩)
    · refine hclaimed (.inr ⟨t', y, ?_, Phase.held?_of_announced? hway, hid⟩)
      rintro rfl
      rw [hphase] at hway
      cases hway
  have hheld (t' : ℕ) : (if t' = t then Phase.registered x else w.phase t').held? =
      (w.phase t').held? := by
    split_ifs with ht
    · rw [ht, hphase]
      rfl
    · rfl
  have hremoving (t' : ℕ) (id : String) :
      (if t' = t then Phase.registered x else w.phase t') = .removing id ↔
        w.phase t' = .removing id := by
    split_ifs with ht
    · rw [ht, hphase]
      exact ⟨nofun, nofun⟩
    · exact Iff.rfl
  constructor <;> simp only [phase_setPhase, own_setPhase, subscriptions_setPhase,
    idTargetMap_setPhase, aborted_setPhase, phase_setOwn, own_setOwn, subscriptions_setOwn,
    idTargetMap_setOwn, aborted_setOwn, phase_registerSubscription,
    own_registerSubscription, subscriptions_registerSubscription,
    idTargetMap_registerSubscription, hheld, hremoving, ne_eq]
  · exact h.running
  · exact h.distinct
  · exact h.fresh
  · exact h.heldOnce
  · grind [h.announced, Phase.announced?]
  · intro t' y
    rcases eq_or_ne t' t with rfl | ht
    · rw [if_pos rfl, if_pos rfl, mem_append, mem_singleton]
      rintro (hy | rfl)
      · rcases h.owned t' y hy with hlist | hway
        · exact .inl hlist
        · rw [hphase] at hway
          cases hway
      · exact .inr rfl
    · rw [if_neg ht, if_neg ht]
      exact h.owned t' y
  · intro t'
    split_ifs
    · exact nodup_append (h.ownDistinct t) (hnew t)
    · exact h.ownDistinct t'
  · grind [h.apart]
  · grind [h.entry]
  · grind [h.entryOwned]
  · intro t' id hremove
    obtain ⟨hnone, y, hy, hid⟩ := h.removing t' id hremove
    rw [if_neg (fun hx => hnew t' y hy (hid.trans hx))]
    refine ⟨hnone, y, ?_, hid⟩
    split_ifs with ht
    · exact mem_append_left [x] (ht ▸ hy)
    · exact hy

/-- What was announced comes into the interpreter's list. -/
theorem Inv.insert (h : Inv w) (hphase : w.phase t = .asserted x) :
    Inv ({ w with subscriptions := w.subscriptions ++ [x] }.setPhase t .idle) := by
  have hheld : (w.phase t).held? = some x := by
    rw [hphase]
    rfl
  have hannounced : (w.phase t).announced? = some x := by
    rw [hphase]
    rfl
  have hfree := h.fresh t x hheld
  constructor <;> simp only [phase_setPhase, own_setPhase, subscriptions_setPhase,
    idTargetMap_setPhase, aborted_setPhase, phase_withSubscriptions, own_withSubscriptions,
    mem_append, mem_singleton]
  · exact h.running
  · exact nodup_append h.distinct hfree
  · grind [h.fresh, h.heldOnce, Phase.held?]
  · grind [h.heldOnce, Phase.held?]
  · grind [h.announced, Phase.announced?]
  · grind [h.owned, Phase.announced?]
  · exact h.ownDistinct
  · exact h.apart
  · grind [h.entry]
  · exact h.entryOwned
  · grind [h.removing]

theorem Inv.remove (h : Inv w) (hphase : w.phase t = .idle) (hown : ∃ x ∈ w.own t, x.id = id) :
    Inv ((w.removeSubscription id).setPhase t (.removing id)) := by
  obtain ⟨x, hx, rfl⟩ := hown
  constructor <;> simp only [phase_setPhase, own_setPhase, subscriptions_setPhase,
    idTargetMap_setPhase, aborted_setPhase, phase_removeSubscription, own_removeSubscription,
    subscriptions_removeSubscription, idTargetMap_removeSubscription]
  · exact h.running
  · exact h.distinct
  · grind [h.fresh, Phase.held?]
  · grind [h.heldOnce, Phase.held?]
  · grind [h.announced, Phase.announced?]
  · grind [h.owned, Phase.announced?]
  · exact h.ownDistinct
  · exact h.apart
  · grind [h.entry, h.apart]
  · grind [h.entryOwned]
  · intro t' id hremove
    rcases eq_or_ne t' t with rfl | ht
    · rw [if_pos rfl] at hremove
      cases hremove
      exact ⟨if_pos rfl, x, hx, rfl⟩
    · rw [if_neg ht] at hremove
      obtain ⟨hnone, hown⟩ := h.removing t' id hremove
      exact ⟨by rw [hnone, ite_self], hown⟩

/-- What the relay has forgotten goes from both lists. -/
theorem Inv.erase (h : Inv w) (hphase : w.phase t = .removing id) :
    Inv (({ w with subscriptions := unsubscribe w.subscriptions id }.setOwn t
      (unsubscribe (w.own t) id)).setPhase t .idle) := by
  obtain ⟨hnone, x, hx, rfl⟩ := h.removing t id hphase
  have hmem (t' : ℕ) (y : Subscription) :
      (y ∈ if t' = t then unsubscribe (w.own t) x.id else w.own t') ↔
        y ∈ w.own t' ∧ y.id ≠ x.id := by
    split_ifs with ht
    · rw [mem_unsubscribe (h.ownDistinct t), ht]
    · rw [iff_self_and]
      exact fun hy hid => ht (h.apart t' t y x hy hx hid)
  have hannounced (t' : ℕ) : (if t' = t then Phase.idle else w.phase t').announced? =
      (w.phase t').announced? := by
    split_ifs with ht
    · rw [ht, hphase]
      rfl
    · rfl
  constructor <;> simp only [phase_setPhase, own_setPhase, subscriptions_setPhase,
    idTargetMap_setPhase, aborted_setPhase, phase_setOwn, own_setOwn, subscriptions_setOwn,
    idTargetMap_setOwn, aborted_setOwn, phase_withSubscriptions, own_withSubscriptions,
    mem_unsubscribe h.distinct, hmem, hannounced]
  · exact h.running
  · exact nodup_unsubscribe h.distinct
  · grind [h.fresh, Phase.held?]
  · grind [h.heldOnce, Phase.held?]
  · intro t' y hway
    refine ⟨h.announced t' y hway, fun hid => ?_⟩
    -- what is on its way is not in the list, what is removed is
    have hlist : x ∈ w.subscriptions := by
      rcases h.owned t x hx with hlist | hx'
      · exact hlist
      · rw [hphase] at hx'
        cases hx'
    exact h.fresh t' y (Phase.held?_of_announced? hway) x hlist hid.symm
  · intro t' y hy
    rcases h.owned t' y hy.1 with hlist | hway
    · exact .inl ⟨hlist, hy.2⟩
    · exact .inr hway
  · intro t'
    split_ifs
    · exact nodup_unsubscribe (h.ownDistinct t)
    · exact h.ownDistinct t'
  · intro t₁ t₂ y₁ y₂ hy₁ hy₂
    exact h.apart t₁ t₂ y₁ y₂ hy₁.1 hy₂.1
  · grind [h.entry]
  · grind [h.entryOwned]
  · intro t' id hremove
    have ht : t' ≠ t := by
      rintro rfl
      rw [if_pos rfl] at hremove
      cases hremove
    rw [if_neg ht] at hremove
    obtain ⟨hnone', y, hy, rfl⟩ := h.removing t' id hremove
    exact ⟨hnone', y, ⟨hy, fun hid => ht (h.apart t' t y x hy hx hid)⟩, rfl⟩

/-- **A step keeps the invariant**, unless it finds an id free that is held already. -/
theorem Inv.step {s : RelayStep} (h : Inv w) (hok : Unclaimed w (t, s))
    (hstep : w.step t s = some w') : Inv w' := by
  cases (did_of_step hstep).2 with
  | call hphase | taken hphase hsome =>
    refine h.setPhase (fun _ => nofun) ?_ (fun _ => nofun) ?_ <;> rw [hphase]
    · rfl
    · exact fun _ => nofun
  | free hphase hnone => exact h.free hok hphase hnone
  | register hphase => exact h.register hphase
  | abort hphase hsome =>
    rename_i x
    obtain ⟨y, hy, hid⟩ := subscriptionByID_isSome.1 hsome
    exact absurd hid (h.fresh t x (by rw [hphase]; rfl) y hy)
  | assertion hphase hnone =>
    refine h.setPhase ?_ ?_ (fun _ => nofun) ?_
    · rintro x ⟨rfl⟩
      exact h.not_claimed (by rw [hphase]; rfl)
    · rw [hphase]
      rfl
    · rw [hphase]
      exact fun _ => nofun
  | insert hphase => exact h.insert hphase
  | remove hphase hown => exact h.remove hphase hown
  | erase hphase => exact h.erase hphase

/-! ## Runs -/

/-- **The subscriptions stay apart in every run** in which no target finds an id free that
another one holds. -/
theorem law_of_run {ls : List (ℕ × RelayStep)} (h₀ : Start w)
    (hr : Transition.Run (Transition.Guarded (fun l w => Unclaimed w l) Steps) w ls w') :
    Law w' := by
  have hinv : Inv w' :=
    hr.invariant h₀.inv fun _ _ _ h hstep => h.step hstep.1 hstep.2
  exact hinv.law

/-! ## A target alone -/

/-- No target is in a call. -/
def Quiet (w : RelayWorld) : Prop := ∀ t, w.phase t = .idle

theorem setPhase_setPhase {p q : Phase} : (w.setPhase t p).setPhase t q = w.setPhase t q := by
  simp only [setPhase, update_self, update_idem]

theorem setPhase_phase : w.setPhase t (w.phase t) = w := by
  simp only [setPhase, phase, update_eq_self]

theorem Quiet.unclaimed {p : Phase} (h : Quiet w) (s : RelayStep) :
    Unclaimed (w.setPhase t p) (t, s) := by
  cases s with
  | test =>
    intro eventName k _
    refine .inr fun t' x hne hheld => ?_
    rw [phase_setPhase, if_neg hne, h t'] at hheld
    cases hheld
  | call | register | assertion | insert | remove | erase => trivial

theorem Quiet.snoc {p : Phase} {ls : List (ℕ × RelayStep)} {w₀ : RelayWorld} {s : RelayStep}
    (h : Quiet w) (hrunning : w.aborted = false)
    (hr : Transition.Run (Transition.Guarded (fun l w => Unclaimed w l) Steps) w₀ ls
      (w.setPhase t p))
    (hdid : Did (w.setPhase t p) t s w') :
    Transition.Run (Transition.Guarded (fun l w => Unclaimed w l) Steps) w₀
      (ls ++ [(t, s)]) w' :=
  hr.snoc ⟨h.unclaimed s, step_of_did hrunning hdid⟩

theorem run_test {eventName : String} {k : ℕ} (h : Quiet w) (hrunning : w.aborted = false)
    (htaken : ∀ j < k, proposedID eventName j ∈ w.subscriptions.map Subscription.id) :
    ∃ ls, Transition.Run (Transition.Guarded (fun l w => Unclaimed w l) Steps)
      (w.setPhase t (.choosing eventName 0)) ls (w.setPhase t (.choosing eventName k)) := by
  induction k with
  | zero => exact ⟨[], .nil⟩
  | succ k ih =>
    obtain ⟨ls, hr⟩ := ih fun j hj => htaken j (hj.trans (Nat.lt_succ_self k))
    obtain ⟨x, hx, hid⟩ := mem_map.mp (htaken k (Nat.lt_succ_self k))
    have hdid : Did (w.setPhase t (.choosing eventName k)) t .test _ :=
      .taken (by simp) (subscriptionByID_isSome.2 ⟨x, hx, hid⟩)
    rw [setPhase_setPhase] at hdid
    exact ⟨_, h.snoc hrunning hr hdid⟩

/-- The steps of `subscribeTo` while no other target is in a call lead to the world it
computes. -/
theorem run_subscribeTo (h : Quiet w) (hrunning : w.aborted = false) (eventName : String) :
    ∃ ls, Transition.Run (Transition.Guarded (fun l w => Unclaimed w l) Steps) w ls
      (w.subscribeTo t eventName) := by
  set used := w.subscriptions.map Subscription.id with hused
  set k := FreshName.search (proposedID eventName) used used.length 0 with hk
  have hid : w.uniqueSubscriptionID eventName = proposedID eventName k := rfl
  have hfree : proposedID eventName k ∉ used :=
    FreshName.pick_notMem (FreshName.candidate_injective _)
  set x := relaySubscription (proposedID eventName k) eventName with hx
  have hnone : subscriptionByID w.subscriptions x.id = none :=
    subscriptionByID_eq_none.2 fun y hy hyid => hfree (mem_map.mpr ⟨y, hy, hyid⟩)
  set w₁ := (w.registerSubscription t x.id).setOwn t (w.own t ++ [x]) with hw₁
  have h₁ : Quiet w₁ := fun t' => by rw [phase_setOwn, phase_registerSubscription, h t']
  -- the constructor
  have hcall : Did (w.setPhase t .idle) t (.call eventName) _ := .call (by simp)
  have hstart := h.snoc hrunning (.nil (s := w.setPhase t .idle)) hcall
  rw [setPhase_setPhase] at hstart
  obtain ⟨ls, htest⟩ := run_test (t := t) (k := k) h hrunning fun j hj =>
    FreshName.mem_of_lt_search (Nat.zero_le j) hj
  have hdid : Did (w.setPhase t (.choosing eventName k)) t .test _ :=
    .free (by simp) hnone
  have hconstructed := h.snoc hrunning (hstart.append htest) hdid
  rw [setPhase_setPhase] at hconstructed
  -- the relay and the interpreter
  have hdid : Did (w.setPhase t (.constructed x)) t .register _ := .register (x := x) (by simp)
  have hworld : (((w.setPhase t (.constructed x)).registerSubscription t x.id).setOwn t
      ((w.setPhase t (.constructed x)).own t ++ [x])).setPhase t (.registered x) =
        w₁.setPhase t (.registered x) := by
    simp only [hw₁, setPhase, registerSubscription, setOwn, own, update_self,
      update_idem]
  rw [hworld] at hdid
  have hregistered := h.snoc hrunning hconstructed hdid
  have hdid : Did (w₁.setPhase t (.registered x)) t .assertion _ := .assertion (by simp) hnone
  have hasserted := h₁.snoc hrunning hregistered hdid
  rw [setPhase_setPhase] at hasserted
  have hdid : Did (w₁.setPhase t (.asserted x)) t .insert _ := .insert (x := x) (by simp)
  have hworld : { w₁.setPhase t (.asserted x) with
      subscriptions := (w₁.setPhase t (.asserted x)).subscriptions ++ [x] }.setPhase t .idle =
        w.subscribeTo t eventName := by
    have hphase : (w.targets t).phase = .idle := h t
    simp only [subscribeTo, hid, ← hx, hw₁, setPhase, registerSubscription, setOwn, own,
      update_self, update_idem, hphase]
  rw [hworld] at hdid
  have hinserted := h₁.snoc hrunning hasserted hdid
  rw [← h t, setPhase_phase] at hinserted
  exact ⟨_, hinserted⟩

theorem Quiet.subscribeTo (h : Quiet w) (eventName : String) :
    Quiet (w.subscribeTo t eventName) := fun t' =>
  phase_setOwn.trans (h t')

theorem run_unsubscribeFrom (h : Quiet w) (hrunning : w.aborted = false)
    (hown : ∃ x ∈ w.own t, x.id = id) :
    ∃ ls, Transition.Run (Transition.Guarded (fun l w => Unclaimed w l) Steps) w ls
      (w.unsubscribeFrom t id) := by
  set w₁ := w.removeSubscription id with hw₁
  have h₁ : Quiet w₁ := h
  have hdid : Did (w.setPhase t .idle) t (.remove id) _ :=
    .remove (by simp) (by rw [own_setPhase]; exact hown)
  have hremoved := h.snoc hrunning (.nil (s := w.setPhase t .idle)) hdid
  have hworld : ((w.setPhase t .idle).removeSubscription id).setPhase t (.removing id) =
      w₁.setPhase t (.removing id) :=
    (setPhase_setPhase (w := w₁))
  rw [hworld] at hremoved
  have hphase : (w₁.setPhase t (.removing id)).phase t = .removing id := by simp
  have hdid : Did (w₁.setPhase t (.removing id)) t .erase _ := .erase hphase
  have herased := h₁.snoc hrunning hremoved hdid
  have hworld : ({ w₁.setPhase t (.removing id) with
      subscriptions := unsubscribe (w₁.setPhase t (.removing id)).subscriptions id }.setOwn t
        (unsubscribe ((w₁.setPhase t (.removing id)).own t) id)).setPhase t .idle =
      w.unsubscribeFrom t id := by
    have hphase : (w.targets t).phase = .idle := h t
    simp only [unsubscribeFrom, hw₁, setPhase, removeSubscription, setOwn, own,
      update_self, update_idem, hphase]
  rw [hworld, ← h t, setPhase_phase] at herased
  exact ⟨_, herased⟩

theorem Quiet.unsubscribeFrom (h : Quiet w) : Quiet (w.unsubscribeFrom t id) := fun t' =>
  phase_setOwn.trans (h t')

/-- Between two calls of one thread, with nobody else in a call. -/
structure AtRest (w : RelayWorld) : Prop where
  inv : Inv w
  quiet : Quiet w

theorem Start.atRest (h : Start w) : AtRest w :=
  ⟨h.inv, fun t => by rw [phase, h.targets]⟩

namespace AtRest

theorem subscribeTo (h : AtRest w) (eventName : String) : AtRest (w.subscribeTo t eventName) := by
  obtain ⟨ls, hr⟩ := run_subscribeTo (t := t) h.quiet h.inv.running eventName
  exact ⟨hr.invariant h.inv fun _ _ _ h hstep => h.step hstep.1 hstep.2,
    h.quiet.subscribeTo eventName⟩

theorem unsubscribeFrom (h : AtRest w) (hown : ∃ x ∈ w.own t, x.id = id) :
    AtRest (w.unsubscribeFrom t id) := by
  obtain ⟨ls, hr⟩ := run_unsubscribeFrom h.quiet h.inv.running hown
  exact ⟨hr.invariant h.inv fun _ _ _ h hstep => h.step hstep.1 hstep.2,
    h.quiet.unsubscribeFrom⟩

theorem mem_subscriptions (h : AtRest w) (hx : x ∈ w.own t) : x ∈ w.subscriptions := by
  rcases h.inv.owned t x hx with hlist | hway
  · exact hlist
  · rw [h.quiet t] at hway
    cases hway

theorem idTargetMap_eq_some (h : AtRest w) (hx : x ∈ w.subscriptions) :
    w.idTargetMap x.id = some t ↔ x ∈ w.own t := by
  constructor
  · exact h.inv.law.owner x hx t
  · intro hown
    refine h.inv.entry t x hown ?_
    rw [h.quiet t]
    exact nofun

/-- A target that goes leaves the others as they are. -/
theorem destroy (h : AtRest w) :
    AtRest (w.destroy t) ∧ (∀ t', t' ≠ t → (w.destroy t).own t' = w.own t') ∧
      ∀ x ∈ (w.destroy t).subscriptions, x ∈ w.subscriptions := by
  have hloop : ∀ l (w : RelayWorld), AtRest w → w.own t = l →
      AtRest ((l.map Subscription.id).foldl (fun w id => w.unsubscribeFrom t id) w) ∧
        (∀ t', t' ≠ t → ((l.map Subscription.id).foldl
          (fun w id => w.unsubscribeFrom t id) w).own t' = w.own t') ∧
        ∀ x ∈ ((l.map Subscription.id).foldl
          (fun w id => w.unsubscribeFrom t id) w).subscriptions, x ∈ w.subscriptions := by
    intro l
    induction l with
    | nil => exact fun w h _ => ⟨h, fun _ _ => rfl, fun _ => id⟩
    | cons y l ih =>
      intro w h hown
      have hrest : (w.unsubscribeFrom t y.id).own t = l := by
        refine own_setOwn.trans ?_
        rw [if_pos rfl]
        have hlist : (w.targets t).subscriptions = y :: l := hown
        rw [hlist]
        exact eraseP_cons_of_pos (decide_eq_true rfl)
      obtain ⟨hinv, hothers, hsubset⟩ := ih (w.unsubscribeFrom t y.id)
        (h.unsubscribeFrom ⟨y, hown ▸ mem_cons_self, rfl⟩) hrest
      refine ⟨hinv, fun t' ht => ?_, fun x hx => ?_⟩
      · exact (hothers t' ht).trans (own_setOwn.trans (if_neg ht))
      · exact mem_of_mem_eraseP (hsubset x hx)
  exact hloop (w.own t) w h rfl

end AtRest

/-! ## The witness and the race -/

def noTargets : RelayWorld where
  subscriptions := []
  idTargetMap := fun _ => none
  targets := fun _ => {}

theorem start_noTargets : Start noTargets := ⟨rfl, nodup_nil, fun _ => rfl, fun _ => rfl⟩

/-- So it is when two targets subscribe at once to different events. -/
theorem law_of_run_two : ∃ w : RelayWorld, (w.own 0).map Subscription.eventName = ["alarm"] ∧
    (w.own 1).map Subscription.eventName = ["wind"] ∧ Law w := by
  have hfirst : Unclaimed ((noTargets.setPhase 0 (.choosing "alarm" 0)).setPhase 1
      (.choosing "wind" 0)) (0, .test) := by
    refine fun eventName k _ => .inr fun t x ht hheld => ?_
    rw [phase_setPhase, phase_setPhase, if_neg ht] at hheld
    split_ifs at hheld <;> cases hheld
  have hsecond : Unclaimed (((noTargets.setPhase 0 (.choosing "alarm" 0)).setPhase 1
      (.choosing "wind" 0)).setPhase 0 (.constructed (relaySubscription (proposedID "alarm" 0)
        "alarm"))) (1, .test) := by
    refine fun eventName k hphase => .inr fun t x ht hheld => ?_
    simp only [phase_setPhase] at hphase hheld
    cases hphase
    rw [if_neg ht] at hheld
    split_ifs at hheld <;> cases hheld
    decide
  have hr : Transition.Run (Transition.Guarded (fun l w => Unclaimed w l) Steps) noTargets
      ([] ++ [(0, .call "alarm")]) _ := .snoc .nil ⟨trivial, rfl⟩
  have hr := hr.snoc (l := (1, RelayStep.call "wind")) ⟨trivial, rfl⟩
  have hr := hr.snoc (l := (0, RelayStep.test)) ⟨hfirst, rfl⟩
  have hr := hr.snoc (l := (1, RelayStep.test)) ⟨hsecond, rfl⟩
  have hr := hr.snoc (l := (0, RelayStep.register)) ⟨trivial, rfl⟩
  have hr := hr.snoc (l := (1, RelayStep.register)) ⟨trivial, rfl⟩
  have hr := hr.snoc (l := (0, RelayStep.assertion)) ⟨trivial, rfl⟩
  have hr := hr.snoc (l := (0, RelayStep.insert)) ⟨trivial, rfl⟩
  have hr := hr.snoc (l := (1, RelayStep.assertion)) ⟨trivial, rfl⟩
  have hr := hr.snoc (l := (1, RelayStep.insert)) ⟨trivial, rfl⟩
  exact ⟨_, rfl, rfl, law_of_run start_noTargets hr⟩

/-- Two targets that subscribe to the same event: both find the id free before either has
handed its subscription over, and the second one runs into the assertion. -/
theorem law_of_run_fails :
    ¬ ∀ (w : RelayWorld) (ls : List (ℕ × RelayStep)) (w' : RelayWorld),
      Start w → Transition.Run Steps w ls w' → Law w' := by
  intro h
  have hexecute : (Transition.execute (fun _ _ => True)
      (fun w (l : ℕ × RelayStep) => w.step l.1 l.2) noTargets
      [(0, .call "alarm"), (1, .call "alarm"), (0, .test), (1, .test), (0, .register),
        (0, .assertion), (0, .insert), (1, .register)]) = some _ := rfl
  have hr := Transition.Run.of_execute hexecute
  have hrace : ∀ w ls, Transition.Run Steps noTargets ls w → ∀ x, w.phase 1 = .registered x →
      x ∈ w.subscriptions → w.aborted = false → False := by
    intro w ls hr x hphase hmem hrunning
    have habort : Steps (1, .assertion) w { w with aborted := true } :=
      step_of_did hrunning (.abort hphase (subscriptionByID_isSome.2 ⟨x, hmem, rfl⟩))
    exact Bool.noConfusion (h _ _ _ start_noTargets (hr.snoc habort)).running
  exact hrace _ _ hr.of_guarded _ rfl (mem_singleton.mpr rfl) rfl

end RelayWorld

end Dss
