import Mathlib.Data.List.Destutter
import Mathlib.Data.List.Sort

/-!
# Sorted ranges

`std::sort` and `std::unique` give the values of a range once and in their order;
`std::set_intersection` finds what two ranges have in common only if both are sorted.
-/

namespace SortedRanges

open List

universe u

variable {α : Type u} [LinearOrder α] {l as bs : List α} {x : α}

/-! ## Values once and in order -/

/-- `std::sort` and `std::unique` -/
def sortedUnique (l : List α) : List α := (l.insertionSort (· ≤ ·)).destutter (· ≠ ·)

theorem mem_destutter'_ne {a : α} : x ∈ l.destutter' (· ≠ ·) a ↔ x = a ∨ x ∈ l := by
  induction l generalizing a with
  | nil => simp
  | cons b l ih =>
    by_cases hab : a = b
    · subst hab
      rw [destutter'_cons_neg l (not_not.mpr rfl), ih, mem_cons, or_self_left]
    · rw [destutter'_cons_pos l hab, mem_cons, ih, mem_cons]

theorem mem_sortedUnique : x ∈ sortedUnique l ↔ x ∈ l := by
  rw [sortedUnique, ← mem_insertionSort (· ≤ ·) (l := l)]
  cases l.insertionSort (· ≤ ·) with
  | nil => rfl
  | cons a l => rw [destutter_cons', mem_destutter'_ne, mem_cons]

theorem pairwise_destutter'_ne {a : α} (h : (a :: l).Pairwise (· ≤ ·)) :
    (l.destutter' (· ≠ ·) a).Pairwise (· < ·) := by
  induction l generalizing a with
  | nil => simp
  | cons b l ih =>
    by_cases hab : a = b
    · subst hab
      rw [destutter'_cons_neg l (not_not.mpr rfl)]
      exact ih h.of_cons
    · rw [destutter'_cons_pos l hab, pairwise_cons]
      have hlt : a < b := lt_of_le_of_ne (rel_of_pairwise_cons h mem_cons_self) hab
      refine ⟨fun y hy => hlt.trans_le ?_, ih h.of_cons⟩
      rcases mem_destutter'_ne.1 hy with rfl | hy
      · exact le_rfl
      · exact rel_of_pairwise_cons h.of_cons hy

theorem pairwise_sortedUnique : (sortedUnique l).Pairwise (· < ·) := by
  have hsorted := pairwise_insertionSort (· ≤ ·) l
  rw [sortedUnique]
  cases hl : l.insertionSort (· ≤ ·) with
  | nil => exact List.Pairwise.nil
  | cons a l =>
    exact pairwise_destutter'_ne (hl ▸ hsorted)

/-! ## What two ranges have in common -/

/-- `std::set_intersection` -/
def setIntersection : List α → List α → List α
  | a :: as, b :: bs =>
    if a < b then setIntersection as (b :: bs)
    else if b < a then setIntersection (a :: as) bs
    else a :: setIntersection as bs
  | _, _ => []
termination_by l r => l.length + r.length

theorem sublist_setIntersection : (setIntersection as bs).Sublist as := by
  fun_induction setIntersection as bs with
  | case1 a as b bs hlt ih => exact ih.cons a
  | case2 a as b bs hle hlt ih => exact ih
  | case3 a as b bs hle hge ih => exact ih.cons_cons a
  | case4 as bs hnil => exact nil_sublist as

theorem mem_setIntersection (has : as.Pairwise (· ≤ ·)) (hbs : bs.Pairwise (· ≤ ·)) :
    x ∈ setIntersection as bs ↔ x ∈ as ∧ x ∈ bs := by
  fun_induction setIntersection as bs with
  | case1 a as b bs hlt ih =>
    rw [ih has.of_cons hbs, mem_cons (l := as)]
    refine and_congr_left fun hx => (or_iff_right ?_).symm
    rintro rfl
    rcases mem_cons.mp hx with rfl | hx
    · exact lt_irrefl _ hlt
    · exact absurd (rel_of_pairwise_cons hbs hx) (not_le.mpr hlt)
  | case2 a as b bs hle hlt ih =>
    rw [ih has hbs.of_cons, mem_cons (l := bs)]
    refine and_congr_right fun hx => (or_iff_right ?_).symm
    rintro rfl
    rcases mem_cons.mp hx with rfl | hx
    · exact lt_irrefl _ hlt
    · exact absurd (rel_of_pairwise_cons has hx) (not_le.mpr hlt)
  | case3 a as b bs hle hge ih =>
    obtain rfl : a = b := le_antisymm (not_lt.mp hge) (not_lt.mp hle)
    rw [mem_cons, ih has.of_cons hbs.of_cons, mem_cons, mem_cons, or_and_left]
  | case4 as bs hnil =>
    refine iff_of_false not_mem_nil ?_
    rintro ⟨has, hbs⟩
    obtain ⟨a, as, rfl⟩ := exists_cons_of_ne_nil (ne_nil_of_mem has)
    obtain ⟨b, bs, rfl⟩ := exists_cons_of_ne_nil (ne_nil_of_mem hbs)
    exact hnil a as b bs rfl rfl

end SortedRanges
