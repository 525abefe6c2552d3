import Mathlib.Tactic.ByContra

/-!
# Loops that stop at the first match

A loop looks at the elements of a list in their order, and stops at the first one that decides: what
it answers is what the deciding one says.
-/

universe u

namespace Scan

variable {α : Type u} {p q q' : α → Prop} {x : α} {xs : List α}

/-- `q` holds of all elements before the first one with `p`. -/
def Until (p q : α → Prop) : List α → Prop
  | [] => True
  | x :: xs => p x ∨ q x ∧ Until p q xs

/-- There is an element with `p`, and `q` holds of the first one. -/
def First (p q : α → Prop) : List α → Prop
  | [] => False
  | x :: xs => p x ∧ q x ∨ ¬ p x ∧ First p q xs

/-- The loop comes to an element with `p`: there is one, and `q` holds of all before the first. -/
def Reaches (p q : α → Prop) (xs : List α) : Prop := (∃ x ∈ xs, p x) ∧ Until p q xs

@[simp]
theorem until_nil : Until p q [] := trivial

theorem until_cons_of_pos (h : p x) : Until p q (x :: xs) := Or.inl h

theorem until_cons_of_neg (h : ¬ p x) : Until p q (x :: xs) ↔ q x ∧ Until p q xs :=
  or_iff_right h

@[simp]
theorem not_first_nil : ¬ First p q [] := id

theorem first_cons_of_pos (h : p x) : First p q (x :: xs) ↔ q x := by
  rw [First, and_iff_right h, or_iff_left fun hnot => hnot.1 h]

theorem first_cons_of_neg (h : ¬ p x) : First p q (x :: xs) ↔ First p q xs := by
  rw [First, and_iff_right h, or_iff_right fun hpos => h hpos.1]

theorem First.exists_mem (h : First p q xs) : ∃ x ∈ xs, p x := by
  induction xs with
  | nil => exact absurd h not_first_nil
  | cons x xs ih =>
    by_cases hx : p x
    · exact ⟨x, List.mem_cons_self, hx⟩
    · obtain ⟨y, hy, hpy⟩ := ih ((first_cons_of_neg hx).mp h)
      exact ⟨y, List.mem_cons_of_mem x hy, hpy⟩

theorem first_iff_find? {f : α → Bool} (hf : ∀ x, f x = true ↔ p x) :
    First p q xs ↔ ∃ x, xs.find? f = some x ∧ q x := by
  induction xs with
  | nil => simp
  | cons x xs ih =>
    by_cases hx : p x
    · rw [first_cons_of_pos hx, List.find?_cons_of_pos ((hf x).mpr hx)]
      simp
    · rw [first_cons_of_neg hx, List.find?_cons_of_neg fun h => hx ((hf x).mp h), ih]

@[simp]
theorem not_reaches_nil : ¬ Reaches p q [] := by
  rintro ⟨⟨x, hx, -⟩, -⟩
  cases hx

theorem reaches_cons_of_pos (h : p x) : Reaches p q (x :: xs) :=
  ⟨⟨x, List.mem_cons_self, h⟩, until_cons_of_pos h⟩

theorem reaches_cons_of_neg (h : ¬ p x) : Reaches p q (x :: xs) ↔ q x ∧ Reaches p q xs := by
  rw [Reaches, until_cons_of_neg h, and_left_comm]
  refine and_congr_right fun _ => and_congr_left' ?_
  constructor
  · rintro ⟨y, hy, hpy⟩
    rcases List.mem_cons.mp hy with rfl | hy
    · exact absurd hpy h
    · exact ⟨y, hy, hpy⟩
  · rintro ⟨y, hy, hpy⟩
    exact ⟨y, List.mem_cons_of_mem x hy, hpy⟩

end Scan
