import Mathlib.Data.List.Nodup
import Mathlib.Data.List.Perm.Subperm
import Mathlib.Data.List.Range

/-!
# The first unused candidate

A loop that tries one candidate after the other until it finds one that is not in use. With as many
tries as there are names in use it cannot fail, if no candidate comes twice.
-/

namespace FreshName

universe u

variable {α : Type u} [DecidableEq α]

/-- The first index from `k` on whose candidate is not in use, within `fuel` tries. -/
def search (f : ℕ → α) (used : List α) : ℕ → ℕ → ℕ
  | 0, k => k
  | fuel + 1, k => if f k ∈ used then search f used fuel (k + 1) else k

def pick (f : ℕ → α) (used : List α) : α := f (search f used used.length 0)

variable {f : ℕ → α} {used : List α}

theorem mem_of_lt_search {fuel k j : ℕ} (hk : k ≤ j) (hj : j < search f used fuel k) :
    f j ∈ used := by
  induction fuel generalizing k with
  | zero => exact absurd (lt_of_lt_of_le hj hk) (lt_irrefl j)
  | succ fuel ih =>
    rw [search] at hj
    by_cases hmem : f k ∈ used
    · rw [if_pos hmem] at hj
      rcases Nat.eq_or_lt_of_le hk with rfl | hlt
      · exact hmem
      · exact ih hlt hj
    · rw [if_neg hmem] at hj
      exact absurd (lt_of_lt_of_le hj hk) (lt_irrefl j)

theorem search_eq_of_mem {fuel k : ℕ} (h : f (search f used fuel k) ∈ used) :
    search f used fuel k = k + fuel := by
  induction fuel generalizing k with
  | zero => rfl
  | succ fuel ih =>
    rw [search] at h ⊢
    by_cases hmem : f k ∈ used
    · rw [if_pos hmem] at h ⊢
      rw [ih h]
      omega
    · rw [if_neg hmem] at h
      exact absurd h hmem

theorem pick_notMem (hf : Function.Injective f) : pick f used ∉ used := by
  intro h
  have hend : search f used used.length 0 = 0 + used.length := search_eq_of_mem h
  -- all candidates up to here would be in use, one more than there are names
  have hall : (List.range (used.length + 1)).map f ⊆ used := by
    intro a ha
    obtain ⟨j, hj, rfl⟩ := List.mem_map.mp ha
    rcases Nat.lt_succ_iff_lt_or_eq.mp (List.mem_range.mp hj) with hlt | rfl
    · exact mem_of_lt_search (Nat.zero_le j) (by rw [hend]; omega)
    · rw [pick, hend, Nat.zero_add] at h
      exact h
  have hnodup : ((List.range (used.length + 1)).map f).Nodup :=
    List.nodup_range.map hf
  have hle := (List.subperm_of_subset hnodup hall).length_le
  rw [List.length_map, List.length_range] at hle
  omega

/-! ## Numbered names -/

/-- The name after `k` collisions. -/
def candidate (proposal : String) (k : ℕ) : String :=
  if k = 0 then proposal else proposal ++ k.repr

theorem repr_injective : Function.Injective Nat.repr := by
  intro a b h
  have hdigits : Nat.toDigits 10 a = Nat.toDigits 10 b := by
    rw [← Nat.toList_repr, ← Nat.toList_repr, h]
  have hread := congrArg (fun cs => Nat.ofDigitChars 10 cs 0) hdigits
  simpa using hread

theorem candidate_injective (proposal : String) :
    Function.Injective (candidate proposal) := by
  -- a number behind the name makes it longer
  have hne {k : ℕ} : proposal ≠ proposal ++ k.repr := by
    intro h
    have hlength := congrArg String.length h
    rw [String.length_append] at hlength
    have hpos := @Nat.length_repr_pos k
    omega
  intro a b h
  rw [candidate, candidate] at h
  split_ifs at h with ha hb hb
  · rw [ha, hb]
  · exact absurd h hne
  · exact absurd h.symm hne
  · refine repr_injective (String.toList_inj.mp ?_)
    have hlist := congrArg String.toList h
    rw [String.toList_append, String.toList_append] at hlist
    exact List.append_cancel_left hlist

end FreshName
