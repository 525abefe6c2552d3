import Mathlib.Data.Fintype.Card

/-!
# Pointers that are registered where they point

Each node may point to one other node, and each node keeps a list of those that point to it.
`Mirrors` says that the lists agree with the pointers. `follow` goes along the pointers; where no
node comes back to itself, it comes to an end among finitely many nodes.
-/

namespace BackReferences

open Option Function

variable {N : Type}

/-! ## Following the pointers -/

def follow (next : N → Option N) : ℕ → N → Option N
  | 0, x => some x
  | k + 1, x => (next x).bind (follow next k)

/-- The end of the chain, if it is reached in less than so many steps. -/
def last (next : N → Option N) : ℕ → N → Option N
  | 0, _ => none
  | k + 1, x =>
    match next x with
    | none => some x
    | some y => last next k y

/-- Whether the pointers lead from one node to another. -/
def Reaches (next : N → Option N) (x y : N) : Prop := ∃ k, follow next k x = some y

/-- No node comes back to itself. -/
def Acyclic (next : N → Option N) : Prop := ∀ x k, 0 < k → follow next k x ≠ some x

variable {next next' : N → Option N} {x y t : N} {j k : ℕ}

theorem follow_succ_of_eq (h : next x = some y) : follow next (k + 1) x = follow next k y := by
  rw [follow, h, bind_some]

theorem follow_succ_of_eq_none (h : next x = none) : follow next (k + 1) x = none := by
  rw [follow, h, bind_none]

theorem follow_add : follow next (j + k) x = (follow next j x).bind (follow next k) := by
  induction j generalizing x with
  | zero => rw [Nat.zero_add, follow, bind_some]
  | succ j ih =>
    rcases hx : next x with - | y
    · rw [Nat.succ_add, follow_succ_of_eq_none hx, follow_succ_of_eq_none hx, bind_none]
    · rw [Nat.succ_add, follow_succ_of_eq hx, follow_succ_of_eq hx, ih]

theorem follow_mono (hsub : ∀ a b, next a = some b → next' a = some b)
    (h : follow next k x = some y) : follow next' k x = some y := by
  induction k generalizing x with
  | zero => exact h
  | succ k ih =>
    rcases hx : next x with - | z
    · rw [follow_succ_of_eq_none hx] at h
      cases h
    · rw [follow_succ_of_eq hx] at h
      rw [follow_succ_of_eq (hsub x z hx)]
      exact ih h

theorem Acyclic.of_le (h : Acyclic next) (hsub : ∀ a b, next' a = some b → next a = some b) :
    Acyclic next' :=
  fun x k hk hcycle => h x k hk (follow_mono hsub hcycle)

theorem Reaches.refl : Reaches next x x :=
  ⟨0, rfl⟩

theorem Reaches.cons (hx : next x = some y) (h : Reaches next y t) : Reaches next x t := by
  obtain ⟨k, hk⟩ := h
  exact ⟨k + 1, by rw [follow_succ_of_eq hx, hk]⟩

theorem not_reaches_of_forall_ne (hx : ∀ a, next a ≠ some x) (hne : y ≠ x) :
    ¬ Reaches next y x := by
  rintro ⟨k, hk⟩
  induction k generalizing y with
  | zero => exact hne (some.inj hk)
  | succ k ih =>
    rcases hy : next y with - | z
    · rw [follow_succ_of_eq_none hy] at hk
      cases hk
    · rw [follow_succ_of_eq hy] at hk
      exact ih (fun hz => hx y (hz ▸ hy)) hk

theorem exists_follow_of_last_eq_none (h : last next k x = none) (hj : j ≤ k) :
    ∃ y, follow next j x = some y := by
  induction k generalizing x j with
  | zero =>
    obtain rfl := Nat.le_zero.mp hj
    exact ⟨x, rfl⟩
  | succ k ih =>
    cases j with
    | zero => exact ⟨x, rfl⟩
    | succ j =>
      rcases hx : next x with - | y
      · simp [last, hx] at h
      · rw [last, hx] at h
        rw [follow_succ_of_eq hx]
        exact ih h (Nat.le_of_succ_le_succ hj)

theorem next_of_last (h : last next k x = some y) : next y = none := by
  induction k generalizing x with
  | zero => cases h
  | succ k ih =>
    rcases hx : next x with - | z
    · rw [last, hx] at h
      obtain rfl := some.inj h
      exact hx
    · rw [last, hx] at h
      exact ih h

theorem property_of_last {P : N → Prop} (hP : ∀ a b, P a → next a = some b → P b) (hx : P x)
    (h : last next k x = some y) : P y := by
  induction k generalizing x with
  | zero => cases h
  | succ k ih =>
    rcases hz : next x with - | z
    · rw [last, hz] at h
      obtain rfl := some.inj h
      exact hx
    · rw [last, hz] at h
      exact ih (hP x z hx hz) h

theorem property_of_follow {P : N → Prop} (hP : ∀ a b, P a → next a = some b → P b) (hx : P x)
    (h : follow next k x = some y) : P y := by
  induction k generalizing x with
  | zero => exact some.inj h ▸ hx
  | succ k ih =>
    rcases hz : next x with - | z
    · rw [follow_succ_of_eq_none hz] at h
      cases h
    · rw [follow_succ_of_eq hz] at h
      exact ih (hP x z hx hz) h

/-- **The end is reached.** Without a cycle, among finitely many nodes, a chain ends within
their number. -/
theorem Acyclic.exists_last (h : Acyclic next) {s : Finset N}
    (hs : ∀ a b, a ∈ s → next a = some b → b ∈ s) (hx : x ∈ s) (hk : s.card ≤ k) :
    ∃ y, last next k x = some y := by
  rcases hlast : last next k x with - | y
  · exfalso
    have hall : ∀ i : Fin (k + 1), ∃ y, follow next i x = some y := fun i =>
      exists_follow_of_last_eq_none hlast (Nat.le_of_lt_succ i.isLt)
    choose node hnode using hall
    have hcard : s.card < (Finset.univ : Finset (Fin (k + 1))).card := by
      rw [Finset.card_univ, Fintype.card_fin]
      exact Nat.lt_succ_of_le hk
    obtain ⟨a, -, b, -, hne, heq⟩ := Finset.exists_ne_map_eq_of_card_lt_of_maps_to hcard
      (fun i _ => property_of_follow hs hx (hnode i))
    wlog hab : a < b generalizing a b
    · exact this b a hne.symm heq.symm (lt_of_le_of_ne (not_lt.mp hab) hne.symm)
    -- the node at the earlier step comes back at the later one
    have hback : follow next (b - a) (node a) = some (node a) := by
      have hadd := @follow_add N next x a (b - a)
      rw [Nat.add_sub_cancel' hab.le, hnode, hnode, bind_some] at hadd
      rw [← hadd, heq]
    exact h (node a) (b - a) (Nat.sub_pos_of_lt hab) hback
  · exact ⟨y, rfl⟩

/-! ## One more pointer -/

section update

variable [DecidableEq N]

theorem reaches_of_follow_update {value : Option N}
    (h : follow (Function.update next x value) k y = some x) : Reaches next y x := by
  induction k generalizing y with
  | zero => exact ⟨0, h⟩
  | succ k ih =>
    by_cases hyx : y = x
    · rw [hyx]
      exact Reaches.refl
    · rcases hy : next y with - | z
      · rw [follow_succ_of_eq_none (by rw [update_of_ne hyx, hy])] at h
        cases h
      · rw [follow_succ_of_eq (by rw [update_of_ne hyx, hy])] at h
        exact Reaches.cons hy (ih h)

theorem reaches_update_iff {value : Option N} :
    Reaches (Function.update next x value) y x ↔ Reaches next y x := by
  constructor
  · rintro ⟨k, hk⟩
    exact reaches_of_follow_update hk
  · rintro ⟨k, hk⟩
    have hsame : update (update next x value) x (next x) = next := by
      rw [update_idem, update_eq_self]
    rw [← hsame] at hk
    exact reaches_of_follow_update hk

theorem follow_or_follow_of_update {z : N}
    (h : follow (Function.update next x (some t)) k y = some z) :
    follow next k y = some z ∨ ∃ j, follow (Function.update next x (some t)) j y = some x := by
  induction k generalizing y with
  | zero => exact Or.inl h
  | succ k ih =>
    by_cases hyx : y = x
    · exact Or.inr ⟨0, by rw [hyx]; rfl⟩
    · have hsame : update next x (some t) y = next y := update_of_ne hyx _ _
      rcases hy : next y with - | w
      · rw [follow_succ_of_eq_none (hsame.trans hy)] at h
        cases h
      · rw [follow_succ_of_eq (hsame.trans hy)] at h
        rw [follow_succ_of_eq hy]
        rcases ih h with hold | ⟨j, hj⟩
        · exact Or.inl hold
        · exact Or.inr ⟨j + 1, by rw [follow_succ_of_eq (hsame.trans hy), hj]⟩

/-- **When one more pointer makes no cycle.** Exactly if what it points to does not lead
back. -/
theorem Acyclic.update_iff (h : Acyclic next) (hx : next x = none) :
    Acyclic (Function.update next x (some t)) ↔ ¬ Reaches next t x := by
  have hself : update next x (some t) x = some t := update_self _ _ _
  have hsub : ∀ a b, next a = some b → update next x (some t) a = some b := by
    intro a b hab
    have hne : a ≠ x := by
      rintro rfl
      rw [hx] at hab
      cases hab
    rw [update_of_ne hne, hab]
  constructor
  · rintro hacyclic ⟨k, hk⟩
    exact hacyclic x (k + 1) k.succ_pos (by rw [follow_succ_of_eq hself, follow_mono hsub hk])
  · intro hnot y k hk hcycle
    rcases follow_or_follow_of_update hcycle with hold | ⟨j, hj⟩
    · exact h y k hk hold
    · -- the cycle goes through the new pointer, so it is a cycle of its node
      have hround : follow (update next x (some t)) k x = some x := by
        have hjk := @follow_add N (update next x (some t)) y j k
        have hkj := @follow_add N (update next x (some t)) y k j
        rw [hj, bind_some] at hjk
        rw [hcycle, bind_some, hj, Nat.add_comm] at hkj
        rw [← hjk, hkj]
      obtain ⟨k, rfl⟩ := Nat.exists_eq_succ_of_ne_zero hk.ne'
      rw [follow_succ_of_eq hself] at hround
      exact hnot (reaches_of_follow_update hround)

theorem Acyclic.update_none (h : Acyclic next) : Acyclic (Function.update next x none) := by
  refine h.of_le fun a b hab => ?_
  by_cases hax : a = x
  · rw [hax, update_self] at hab
    cases hab
  · rwa [update_of_ne hax] at hab

end update

/-! ## The lists -/

section lists

variable [DecidableEq N] {registered : N → List N}

/-- A node is registered exactly once where it points, and nowhere else. -/
def Mirrors (next : N → Option N) (registered : N → List N) : Prop :=
  ∀ x t, (registered t).count x = if next x = some t then 1 else 0

theorem Mirrors.mem_iff (h : Mirrors next registered) : x ∈ registered t ↔ next x = some t := by
  rw [← List.count_pos_iff, h]
  split_ifs with hx
  · exact ⟨fun _ => hx, fun _ => Nat.one_pos⟩
  · exact ⟨fun hlt => absurd hlt (lt_irrefl 0), fun heq => absurd heq hx⟩

theorem Mirrors.nodup (h : Mirrors next registered) : (registered t).Nodup := by
  rw [List.nodup_iff_count_le_one]
  intro x
  rw [h]
  split_ifs
  · exact le_refl 1
  · exact Nat.zero_le 1

/-- **When a new pointer may be registered.** Exactly if the node has none yet. -/
theorem Mirrors.link_iff (h : Mirrors next registered) :
    Mirrors (Function.update next x (some t))
      (Function.update registered t (registered t ++ [x])) ↔ next x = none := by
  constructor
  · intro hlink
    rcases hx : next x with - | s
    · rfl
    · -- it is still registered where it pointed
      have hcount := hlink x s
      rw [update_self] at hcount
      have hold := h x s
      rw [if_pos hx] at hold
      by_cases hst : s = t
      · subst hst
        rw [update_self, if_pos rfl, List.count_append, hold,
          List.count_singleton_self] at hcount
        cases hcount
      · rw [update_of_ne hst, hold, if_neg fun heq => hst (some.inj heq).symm]
          at hcount
        cases hcount
  · intro hx y s
    have hold := h y s
    by_cases hs : s = t
    · subst hs
      rw [update_self, List.count_append, hold, List.count_singleton]
      by_cases hy : y = x
      · subst hy
        rw [hx]
        simp
      · rw [update_of_ne hy, if_neg (fun hxy : (x == y) = true =>
          hy (beq_iff_eq.mp hxy).symm), Nat.add_zero]
    · rw [update_of_ne hs, hold]
      by_cases hy : y = x
      · subst hy
        rw [update_self, hx, if_neg (some_ne_none s).symm,
          if_neg fun heq => hs (some.inj heq).symm]
      · rw [update_of_ne hy]

theorem Mirrors.unlink (h : Mirrors next registered) (hx : next x = some t) :
    Mirrors (Function.update next x none)
      (Function.update registered t ((registered t).erase x)) := by
  intro y s
  have hold := h y s
  by_cases hs : s = t
  · subst hs
    rw [update_self, List.count_erase, hold]
    by_cases hy : y = x
    · subst hy
      rw [hx]
      simp
    · rw [update_of_ne hy, if_neg (fun hxy : (x == y) = true =>
        hy (beq_iff_eq.mp hxy).symm), Nat.sub_zero]
  · rw [update_of_ne hs, hold]
    by_cases hy : y = x
    · subst hy
      rw [update_self, hx, if_neg fun heq => hs (some.inj heq).symm,
        if_neg (some_ne_none s).symm]
    · rw [update_of_ne hy]

theorem Mirrors.clear (h : Mirrors next registered)
    (hnext : ∀ x, next' x = if x ∈ registered t then none else next x) :
    Mirrors next' (Function.update registered t []) := by
  intro x s
  rw [hnext]
  by_cases hx : next x = some t
  · rw [if_pos (h.mem_iff.2 hx), if_neg (some_ne_none s).symm]
    by_cases hs : s = t
    · rw [hs, update_self]
      rfl
    · rw [update_of_ne hs, h, hx, if_neg fun heq => hs (some.inj heq).symm]
  · rw [if_neg fun hmem => hx (h.mem_iff.1 hmem)]
    by_cases hs : s = t
    · rw [hs, update_self, if_neg hx]
      rfl
    · rw [update_of_ne hs, h]

end lists

end BackReferences
