import Mathlib.Data.List.Basic

/-!
# One holder behind a flag

Processes in a list, of which some hold what there is only one of. Whoever finds a flag clear sets
it and becomes the holder, and the holder clears it when it gives up. What only the holder may
change does not change behind the back of the holder.
-/

namespace SingleHolder

open List

variable {A : Type} {holds : A → Bool} {flag : Bool} {l : List A} {i : ℕ} {a b c : A}

def Guards (holds : A → Bool) (flag : Bool) (l : List A) : Prop := l.countP holds = flag.toNat

theorem split_at (h : l[i]? = some a) :
    ∃ l₁ l₂, l = l₁ ++ a :: l₂ ∧ ∀ b, l.set i b = l₁ ++ b :: l₂ := by
  obtain ⟨hi, rfl⟩ := List.getElem?_eq_some_iff.mp h
  refine ⟨l.take i, l.drop (i + 1), ?_, fun b => ?_⟩
  · rw [getElem_cons_drop, take_append_drop]
  · rw [set_eq_take_append_cons_drop, if_pos hi]

namespace Guards

theorem nil : Guards holds false [] :=
  rfl

theorem append (h : Guards holds flag l) (hb : holds b = false) :
    Guards holds flag (l ++ [b]) := by
  rw [Guards, countP_append, h, countP_singleton, hb, if_neg Bool.false_ne_true,
    Nat.add_zero]

theorem keep (h : Guards holds flag l) (ha : l[i]? = some a) (hb : holds b = holds a) :
    Guards holds flag (l.set i b) := by
  obtain ⟨l₁, l₂, rfl, hset⟩ := split_at ha
  rw [Guards, countP_append, countP_cons] at h
  rw [hset, Guards, countP_append, countP_cons, hb, h]

theorem acquire (h : Guards holds false l) (ha : l[i]? = some a) (hb : holds b = true) :
    Guards holds true (l.set i b) := by
  obtain ⟨l₁, l₂, rfl, hset⟩ := split_at ha
  rw [Guards, countP_append, countP_cons, Bool.toNat_false] at h
  rw [hset, Guards, countP_append, countP_cons, hb, if_pos rfl, Bool.toNat_true]
  omega

theorem release (h : Guards holds flag l) (ha : l[i]? = some a) (hold : holds a = true)
    (hb : holds b = false) : Guards holds false (l.set i b) := by
  obtain ⟨l₁, l₂, rfl, hset⟩ := split_at ha
  have hle := Bool.toNat_le flag
  rw [Guards, countP_append, countP_cons, hold, if_pos rfl] at h
  rw [hset, Guards, countP_append, countP_cons, hb, if_neg Bool.false_ne_true,
    Bool.toNat_false]
  omega

theorem flag_eq (h : Guards holds flag l) (ha : a ∈ l) (hold : holds a = true) :
    flag = true := by
  have hpos := countP_pos_iff.mpr ⟨a, ha, hold⟩
  rw [h] at hpos
  rcases flag with - | -
  · exact absurd hpos (Nat.lt_irrefl 0)
  · rfl

theorem eq_of_mem_set (h : Guards holds flag l) (ha : l[i]? = some a) (hold : holds a = true)
    (hc : c ∈ l.set i b) (hcold : holds c = true) : c = b := by
  obtain ⟨l₁, l₂, rfl, hset⟩ := split_at ha
  have hle := Bool.toNat_le flag
  rw [Guards, countP_append, countP_cons, hold, if_pos rfl] at h
  rw [hset, mem_append, mem_cons] at hc
  obtain hc | rfl | hc := hc
  · have hpos := countP_pos_iff.mpr ⟨c, hc, hcold⟩
    omega
  · rfl
  · have hpos := countP_pos_iff.mpr ⟨c, hc, hcold⟩
    omega

theorem countP_le_one (h : Guards holds flag l) {p : A → Bool}
    (hp : ∀ a, p a = true → holds a = true) : l.countP p ≤ 1 := by
  have hle := countP_mono_left (l := l) fun a _ => hp a
  rw [h] at hle
  exact Nat.le_trans hle (Bool.toNat_le flag)

end Guards

end SingleHolder
