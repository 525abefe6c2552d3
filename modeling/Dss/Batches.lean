import Mathlib.Data.List.Basic
import Mathlib.Logic.Function.Iterate

/-!
# Queues served in batches

A queue is cut into batches of a fixed size. A batch with an element of a certain kind is taken
off; another one stays, and everything behind it. So elements of that kind are lost exactly if no
batch without one comes before one of them.
-/

namespace Batches

open List

variable {α : Type*} {p : α → Bool} {size k m : ℕ} {l : List α}

def batch (size k : ℕ) (l : List α) : List α := (l.drop (size * k)).take size

/-- Behind a batch without such an element there is none. -/
def Unblocked (p : α → Bool) (size : ℕ) (l : List α) : Prop :=
  ∀ k, (batch size k l).any p = false → (l.drop (size * (k + 1))).any p = false

/-- The queue is served up to a batch: each of them had such an element, and the first one
goes if it has one. -/
structure Serves (p : α → Bool) (size : ℕ) (l : List α) (m : ℕ) : Prop where
  accepted : ∀ k < m, (batch size k l).any p = true
  progress : (batch size 0 l).any p = true → 0 < m

theorem batch_zero : batch size 0 l = l.take size := by
  rw [batch, Nat.mul_zero, drop_zero]

theorem batch_drop : batch size k (l.drop (size * m)) = batch size (m + k) l := by
  rw [batch, batch, drop_drop, Nat.mul_add]

theorem drop_drop_batch : (l.drop (size * m)).drop (size * k) = l.drop (size * (m + k)) := by
  rw [drop_drop, Nat.mul_add]

theorem any_eq_false_iff :
    l.any p = false ↔ (batch size 0 l).any p = false ∧ (l.drop size).any p = false := by
  rw [batch_zero, ← Bool.or_eq_false_iff, ← any_append, take_append_drop]

theorem any_drop_eq_false {i j : ℕ} (h : (l.drop i).any p = false) (hle : i ≤ j) :
    (l.drop j).any p = false := by
  obtain ⟨d, rfl⟩ := Nat.exists_eq_add_of_le hle
  rw [← drop_drop]
  rw [any_eq_false] at h ⊢
  exact fun a ha => h a (mem_of_mem_drop ha)

theorem Unblocked.drop (h : Unblocked p size l) : Unblocked p size (l.drop (size * m)) := by
  intro k hk
  rw [batch_drop] at hk
  rw [drop_drop_batch]
  exact h (m + k) hk

theorem accepted_add {n : ℕ} (h : ∀ k < m, (batch size k l).any p = true)
    (h' : ∀ k < n, (batch size k (l.drop (size * m))).any p = true) :
    ∀ k < m + n, (batch size k l).any p = true := by
  intro k hk
  rcases Nat.lt_or_ge k m with hlt | hge
  · exact h k hlt
  · obtain ⟨d, rfl⟩ := Nat.exists_eq_add_of_le hge
    rw [← batch_drop]
    exact h' d (Nat.lt_of_add_lt_add_left hk)

section filling

variable {n : ℕ} {b : List α}

theorem take_take_append : (l.take n ++ b).take n = (l ++ b).take n := by
  rw [take_append, take_append, take_take, Nat.min_self, length_take]
  congr 2
  omega

theorem drop_append_drop : l.drop n ++ (l.take n ++ b).drop n = (l ++ b).drop n := by
  rw [drop_append, drop_append, drop_eq_nil_of_le (length_take_le n l),
    nil_append, length_take]
  congr 2
  omega

end filling

section iteration

variable {S : Type*} {f : S → S} {waiting : S → List α} {Inv : S → Prop}

theorem exists_accepted
    (hkeep : ∀ s, Inv s → Inv (f s))
    (hserve : ∀ s, Inv s → ∃ m, Serves p size (waiting s) m ∧
      waiting (f s) = (waiting s).drop (size * m)) {s : S} (h : Inv s) (n : ℕ) :
    ∃ m, (∀ k < m, (batch size k (waiting s)).any p = true) ∧
      waiting (f^[n] s) = (waiting s).drop (size * m) := by
  induction n generalizing s with
  | zero => exact ⟨0, fun k hk => absurd hk (Nat.not_lt_zero k), by simp⟩
  | succ n ih =>
    obtain ⟨m, hserves, hrest⟩ := hserve s h
    obtain ⟨m', haccepted, hrest'⟩ := ih (hkeep s h)
    rw [hrest] at haccepted hrest'
    refine ⟨m + m', accepted_add hserves.accepted haccepted, ?_⟩
    rw [Function.iterate_succ_apply, hrest', drop_drop_batch]

theorem exists_served_iff (hsize : 0 < size)
    (hkeep : ∀ s, Inv s → Inv (f s))
    (hserve : ∀ s, Inv s → ∃ m, Serves p size (waiting s) m ∧
      waiting (f s) = (waiting s).drop (size * m)) {s : S} (h : Inv s) :
    (∃ n, (waiting (f^[n] s)).any p = false) ↔ Unblocked p size (waiting s) := by
  constructor
  · rintro ⟨n, hnone⟩ k hk
    obtain ⟨m, haccepted, hrest⟩ := exists_accepted hkeep hserve h n
    rw [hrest] at hnone
    refine any_drop_eq_false hnone (Nat.mul_le_mul_left size ?_)
    by_contra hlt
    rw [haccepted k (Nat.lt_of_succ_lt (Nat.lt_of_not_le hlt))] at hk
    cases hk
  · intro hunblocked
    induction hlength : (waiting s).length using Nat.strongRecOn generalizing s with
    | _ length ih =>
      rcases hfirst : (batch size 0 (waiting s)).any p with - | -
      · -- nothing goes any more, and nothing has to
        refine ⟨0, any_eq_false_iff.2 ⟨hfirst, ?_⟩⟩
        have hbehind := hunblocked 0 hfirst
        rwa [Nat.mul_one] at hbehind
      · obtain ⟨m, hserves, hrest⟩ := hserve s h
        have hm := hserves.progress hfirst
        have hne : 0 < (waiting s).length := by
          apply length_pos_of_ne_nil
          intro hnil
          rw [hnil, batch_zero, take_nil] at hfirst
          cases hfirst
        have hless : (waiting (f s)).length < length := by
          rw [hrest, length_drop, ← hlength]
          exact Nat.sub_lt hne (Nat.mul_pos hsize hm)
        obtain ⟨n, hn⟩ := ih _ hless (hkeep s h) (hrest ▸ hunblocked.drop) rfl
        exact ⟨n + 1, hn⟩

end iteration

end Batches
