import Mathlib.Data.List.Nodup

/-!
# Exact covers

Choosing from a list one element after the other, each of which covers some of what is left, until
nothing is; and counting how often the sets chosen contain an element.
-/

namespace ExactCover

open List

universe u v

variable {α : Type u} {β : Type v}

/-! ## Counting -/

section Counting

variable [DecidableEq β] {sets : α → List β} {l : List α} {a : α} {x : β}

theorem count_flatMap_of_mem (sets : α → List β) (x : β) (ha : a ∈ l) :
    ∃ others, l.Perm (a :: others) ∧
      (l.flatMap sets).count x = (sets a).count x + (others.flatMap sets).count x := by
  obtain ⟨before, after, rfl⟩ := append_of_mem ha
  refine ⟨before ++ after, perm_middle, ?_⟩
  rw [(perm_middle.flatMap_right sets).count_eq, flatMap_cons, count_append]

theorem count_flatMap_of_unique (hl : l.Nodup) (ha : a ∈ l)
    (hx : ∀ b ∈ l, b ≠ a → x ∉ sets b) : (l.flatMap sets).count x = (sets a).count x := by
  obtain ⟨others, hperm, hcount⟩ := count_flatMap_of_mem sets x ha
  have hnodup := hperm.nodup_iff.mp hl
  rw [nodup_cons] at hnodup
  rw [hcount, Nat.add_eq_left, count_eq_zero]
  rw [mem_flatMap]
  rintro ⟨b, hb, hxb⟩
  refine hx b (hperm.mem_iff.mpr (mem_cons_of_mem _ hb)) ?_ hxb
  rintro rfl
  exact hnodup.1 hb

theorem unique_of_count_flatMap (ha : a ∈ l) (hxa : x ∈ sets a)
    (hcount : (l.flatMap sets).count x = 1) :
    (sets a).count x = 1 ∧ ∀ b ∈ l, b ≠ a → x ∉ sets b := by
  obtain ⟨others, hperm, hsum⟩ := count_flatMap_of_mem sets x ha
  have hpos := count_pos_iff.mpr hxa
  have hothers : (others.flatMap sets).count x = 0 := by omega
  refine ⟨by omega, fun b hb hne hxb => ?_⟩
  refine count_eq_zero.mp hothers (mem_flatMap.mpr ⟨b, ?_, hxb⟩)
  exact (mem_cons.mp (hperm.mem_iff.mp hb)).resolve_left hne

theorem count_flatMap_le_one_iff (hsets : ∀ a ∈ l, (sets a).Nodup) :
    (l.flatMap sets).count x ≤ 1 ↔ l.Pairwise fun a b => ¬ (x ∈ sets a ∧ x ∈ sets b) := by
  induction l with
  | nil => simp
  | cons a l ih =>
    have ih := ih fun b hb => hsets b (mem_cons_of_mem _ hb)
    have ha := nodup_iff_count_le_one.mp (hsets a mem_cons_self) x
    rw [flatMap_cons, count_append, pairwise_cons, ← ih]
    by_cases hxa : x ∈ sets a
    · have hpos := count_pos_iff.mpr hxa
      constructor
      · intro h
        refine ⟨fun b hb hboth => ?_, by omega⟩
        have := count_pos_iff.mpr (mem_flatMap.mpr ⟨b, hb, hboth.2⟩)
        omega
      · rintro ⟨hnone, -⟩
        have : (l.flatMap sets).count x = 0 := by
          rw [count_eq_zero, mem_flatMap]
          exact fun ⟨b, hb, hxb⟩ => hnone b hb ⟨hxa, hxb⟩
        omega
    · rw [count_eq_zero_of_not_mem hxa, Nat.zero_add]
      exact ⟨fun h => ⟨fun _ _ hboth => hxa hboth.1, h⟩, And.right⟩

end Counting

/-! ## Leaders -/

section Leaders

variable [DecidableEq α] (covers : α → List α)

/-- The elements chosen: the first one, and then those of the rest without what it
covers. -/
def leaders : List α → List α
  | [] => []
  | a :: rest => a :: leaders (rest.diff (covers a))
termination_by l => l.length
decreasing_by exact Nat.lt_succ_of_le (List.diff_sublist _ _).length_le

variable {covers} {l : List α} {x : α}

theorem leaders_cons (a : α) (rest : List α) :
    leaders covers (a :: rest) = a :: leaders covers (rest.diff (covers a)) := by
  rw [leaders]

theorem leaders_sublist (l : List α) : (leaders covers l).Sublist l := by
  induction l using leaders.induct covers with
  | case1 => rw [leaders]
  | case2 a rest ih =>
    rw [leaders_cons]
    exact (ih.trans (diff_sublist _ _)).cons_cons a

theorem exists_leader (covers : α → List α) (hx : x ∈ l) :
    ∃ a ∈ leaders covers l, x = a ∨ x ∈ covers a := by
  induction l using leaders.induct covers with
  | case1 => cases hx
  | case2 a rest ih =>
    rw [leaders_cons]
    rcases mem_cons.mp hx with rfl | hx
    · exact ⟨x, mem_cons_self, .inl rfl⟩
    · by_cases hcov : x ∈ covers a
      · exact ⟨a, mem_cons_self, .inr hcov⟩
      · obtain ⟨b, hb, hxb⟩ := ih (mem_diff_of_mem hx hcov)
        exact ⟨b, mem_cons_of_mem _ hb, hxb⟩

end Leaders

end ExactCover
