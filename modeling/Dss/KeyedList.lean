import Mathlib.Data.List.Nodup

/-!
# Lists with distinct keys

Where no key comes twice, what is done to the first element of a key is done to all of that key.
-/

namespace KeyedList

open List

universe u v

variable {α : Type u} {K : Type v} {f : α → K} {l : List α} {key : K}

theorem findIdx?_eq_none_iff {p : α → Bool} (hp : ∀ a ∈ l, p a = true ↔ f a = key) :
    l.findIdx? p = none ↔ key ∉ l.map f := by
  rw [List.findIdx?_eq_none_iff, mem_map]
  constructor
  · rintro hnone ⟨a, hmem, hkey⟩
    have hnot := hnone a hmem
    rw [(hp a hmem).mpr hkey] at hnot
    cases hnot
  · intro hnot a hmem
    exact Bool.eq_false_iff.mpr fun hyes => hnot ⟨a, hmem, (hp a hmem).mp hyes⟩

theorem nodup_append {a : α} (h : (l.map f).Nodup) (ha : f a ∉ l.map f) :
    ((l ++ [a]).map f).Nodup := by
  rw [map_append]
  refine h.append (nodup_singleton _) ?_
  intro key hmem hkey
  rw [mem_singleton.mp hkey] at hmem
  exact ha hmem

variable [DecidableEq K]

theorem key_of_find? {a : α} (h : (l.find? fun b => f b = key) = some a) : a ∈ l ∧ f a = key :=
  ⟨mem_of_find?_eq_some h, by simpa using find?_some h⟩

theorem find?_eq_some_iff (hnodup : (l.map f).Nodup) {a : α} :
    (l.find? fun b => f b = key) = some a ↔ a ∈ l ∧ f a = key := by
  constructor
  · exact key_of_find?
  · rintro ⟨hmem, rfl⟩
    rcases hfound : l.find? fun b => f b = f a with - | b
    · exact absurd (decide_eq_true rfl) (find?_eq_none.mp hfound a hmem)
    · obtain ⟨hb, hkey⟩ := key_of_find? hfound
      rw [inj_on_of_nodup_map hnodup hb hmem hkey]

def modify (f : α → K) (key : K) (g : α → α) (l : List α) : List α :=
  l.map fun a => if f a = key then g a else a

variable {g : α → α}

theorem find?_modify_self (hg : ∀ a, f a = key → f (g a) = key) :
    ((modify f key g l).find? fun a => f a = key) = (l.find? fun a => f a = key).map g := by
  induction l with
  | nil => rfl
  | cons a l ih =>
    rw [modify] at ih
    by_cases ha : f a = key
    · simp [modify, ha, hg a ha]
    · simp [modify, ha, ih]

theorem find?_modify_of_ne (hg : ∀ a, f a = key → f (g a) = key) {other : K} (h : other ≠ key) :
    ((modify f key g l).find? fun a => f a = other) = l.find? fun a => f a = other := by
  induction l with
  | nil => rfl
  | cons a l ih =>
    rw [modify] at ih
    by_cases ha : f a = key
    · simp [modify, ha, hg a ha, h.symm, ih]
    · simp [modify, ha, find?_cons, ih]

theorem map_modify (hg : ∀ a, f (g a) = f a) : (modify f key g l).map f = l.map f := by
  rw [modify, map_map]
  refine map_congr_left fun a _ => ?_
  show f (if f a = key then g a else a) = f a
  rw [apply_ite f, hg, ite_self]

theorem modify_append_singleton {a : α} (h : f a ∉ l.map f) :
    modify f (f a) g (l ++ [a]) = l ++ [g a] := by
  rw [modify, map_append, map_singleton, if_pos rfl, append_cancel_right_eq]
  refine (map_congr_left fun b hmem => if_neg ?_).trans (map_id l)
  intro hkey
  exact h (mem_map.mpr ⟨b, hmem, hkey⟩)

theorem filter_eq_self_of_not_mem (h : key ∉ l.map f) : (l.filter fun a => f a ≠ key) = l := by
  refine filter_eq_self.mpr fun a hmem => decide_eq_true ?_
  rintro rfl
  exact h (mem_map_of_mem hmem)

theorem map_filter_ne :
    (l.filter fun a => f a ≠ key).map f = (l.map f).filter (· ≠ key) := by
  rw [filter_map]
  rfl

theorem filter_cons_eq_self {a : α} (h : ((a :: l).map f).Nodup) :
    (l.filter fun b => f b ≠ f a) = l := by
  rw [map_cons, nodup_cons] at h
  exact filter_eq_self_of_not_mem h.1

theorem filter_eq_singleton {a : α} (h : (l.map f).Nodup) (ha : a ∈ l) :
    (l.filter fun b => f b = f a) = [a] := by
  induction l with
  | nil => cases ha
  | cons b l ih =>
    rw [map_cons, nodup_cons] at h
    rcases mem_cons.mp ha with rfl | hmem
    · rw [filter_cons_of_pos (by simp), filter_eq_nil_iff.mpr]
      intro c hc hkey
      exact h.1 (mem_map.mpr ⟨c, hc, of_decide_eq_true hkey⟩)
    · have hne : ¬ f b = f a := fun heq => h.1 (heq ▸ mem_map_of_mem hmem)
      rw [filter_cons_of_neg (by simpa using hne), ih h.2 hmem]

theorem eraseP_eq_filter {p : α → Bool} (h : (l.map f).Nodup)
    (hp : ∀ a ∈ l, p a = true ↔ f a = key) : l.eraseP p = l.filter fun a => f a ≠ key := by
  induction l with
  | nil => rfl
  | cons a l ih =>
    have hiff := hp a mem_cons_self
    by_cases hkey : f a = key
    · subst hkey
      rw [eraseP_cons_of_pos (hiff.mpr rfl), filter_cons_of_neg (by simp),
        filter_cons_eq_self h]
    · rw [map_cons, nodup_cons] at h
      rw [eraseP_cons_of_neg (fun hyes => hkey (hiff.mp hyes)),
        filter_cons_of_pos (by simpa using hkey),
        ih h.2 fun b hmem => hp b (mem_cons_of_mem a hmem)]

theorem eraseIdx_eq_filter (h : (l.map f).Nodup) {i : ℕ} {a : α} (hi : l[i]? = some a) :
    l.eraseIdx i = l.filter fun b => f b ≠ f a := by
  induction l generalizing i with
  | nil => cases hi
  | cons b l ih =>
    cases i with
    | zero =>
      obtain rfl := Option.some.inj hi
      rw [eraseIdx_cons_zero, filter_cons_of_neg (by simp), filter_cons_eq_self h]
    | succ i =>
      rw [map_cons, nodup_cons] at h
      have hne : f b ≠ f a := by
        intro heq
        rw [heq] at h
        exact h.1 (mem_map_of_mem (mem_of_getElem? hi))
      rw [eraseIdx_cons_succ, filter_cons_of_pos (by simpa using hne), ih h.2 hi]

/-! ## Loops -/

section Loop

variable {V : Type u} {S : Type v} {E : Type v} {B : Type v}
  {step : S → K × V → Except E S} {p : S → B} {g : V → B → B} {members : List (K × V)}

/-- Where each key writes its own field, a loop that comes to its end leaves in it what the
element of the key writes. -/
theorem foldlM_field
    (hkey : ∀ {s s' : S} {v : V}, (key, v) ∈ members → step s (key, v) = .ok s' →
      p s' = g v (p s))
    (hother : ∀ {s s' : S} {m : K × V}, m.1 ≠ key → step s m = .ok s' → p s' = p s)
    (hnodup : (members.map Prod.fst).Nodup) {s s' : S} (h : members.foldlM step s = .ok s') :
    p s' = (members.lookup key).elim (p s) fun v => g v (p s) := by
  have hbehind {rest : List (K × V)} (hnot : key ∉ rest.map Prod.fst) {a b : S}
      (hrun : rest.foldlM step a = .ok b) : p b = p a := by
    induction rest generalizing a with
    | nil => exact congrArg p (Except.ok.inj hrun).symm
    | cons m rest ih =>
      rw [map_cons, mem_cons, not_or] at hnot
      rw [foldlM_cons] at hrun
      rcases hm : step a m with e | c
      · rw [hm] at hrun
        cases hrun
      · rw [hm] at hrun
        exact (ih hnot.2 hrun).trans (hother (Ne.symm hnot.1) hm)
  induction members generalizing s with
  | nil => exact congrArg p (Except.ok.inj h).symm
  | cons m members ih =>
    rw [map_cons, nodup_cons] at hnodup
    rw [foldlM_cons] at h
    rcases hm : step s m with e | c
    · rw [hm] at h
      cases h
    · rw [hm] at h
      obtain ⟨k, v⟩ := m
      by_cases hk : k = key
      · subst hk
        rw [lookup_cons_self]
        exact (hbehind hnodup.1 h).trans (hkey mem_cons_self hm)
      · rw [lookup_cons, beq_false_of_ne (Ne.symm hk),
          ih (fun hmem => hkey (mem_cons_of_mem _ hmem)) hnodup.2 h, hother hk hm]

end Loop

end KeyedList
