import Mathlib.Data.List.Perm.Basic

/-!
# Ledgers

Items are booked to entries, which are open until they are settled. What is booked altogether are
the items that came in, each of them once.
-/

namespace Ledger

open List

universe u v

variable {E : Type u} {I : Type v} (items : E → List I)

def booked (opened settled : List E) : List I := (opened ++ settled).flatMap items

variable {items} {opened settled pre post : List E} {all more : List I} {e e' : E}

theorem booked_push (h : (booked items opened settled).Perm all) (e : E) :
    (booked items (opened ++ [e]) settled).Perm (all ++ items e) := by
  have hsplit : booked items (opened ++ [e]) settled =
      opened.flatMap items ++ (items e ++ settled.flatMap items) := by
    rw [booked, flatMap_append, flatMap_append, flatMap_singleton,
      append_assoc]
  rw [booked, flatMap_append] at h
  rw [hsplit]
  refine (perm_append_comm.append_left _).trans ?_
  rw [← append_assoc]
  exact h.append_right (items e)

theorem booked_map {f : E → E} (hf : ∀ e, items (f e) = items e) :
    booked items (opened.map f) settled = booked items opened settled := by
  rw [booked, booked, flatMap_append, flatMap_append, flatMap_map]
  simp only [hf]

theorem booked_replace (h : (booked items (pre ++ e :: post) settled).Perm all)
    (he : items e' = items e ++ more) :
    (booked items (pre ++ e' :: post) settled).Perm (all ++ more) := by
  have hsplit (e : E) : booked items (pre ++ e :: post) settled =
      pre.flatMap items ++ (items e ++ (post ++ settled).flatMap items) := by
    rw [booked, append_assoc, cons_append, flatMap_append, flatMap_cons]
  rw [hsplit] at h
  rw [hsplit, he, append_assoc]
  refine ((perm_append_comm.append_left (items e)).append_left _).trans ?_
  rw [← append_assoc, ← append_assoc, append_assoc _ (items e)]
  exact h.append_right more

theorem booked_settle (h : (booked items opened settled).Perm all) (kept : E → Bool) {f : E → E}
    {new : E → List I} (hf : ∀ e, items (f e) = items e ++ new e) :
    (booked items ((opened.filter kept).map f)
      (settled ++ (opened.filter fun e => !kept e).map f)).Perm (all ++ opened.flatMap new) := by
  -- the entries behind it are those before it
  have hentries : ((opened.filter kept).map f ++
      (settled ++ (opened.filter fun e => !kept e).map f)).Perm (opened.map f ++ settled) := by
    refine (perm_append_comm.append_left _).trans ?_
    rw [← append_assoc, ← map_append]
    exact ((filter_append_perm kept opened).map f).append_right settled
  have hmore : ((opened.map f).flatMap items).Perm
      (opened.flatMap items ++ opened.flatMap new) := by
    rw [flatMap_map]
    simp only [hf]
    exact (flatMap_append_perm opened items new).symm
  refine (hentries.flatMap_right items).trans ?_
  rw [booked, flatMap_append] at h
  rw [flatMap_append]
  refine (hmore.append_right _).trans ?_
  rw [append_assoc]
  refine (perm_append_comm.append_left _).trans ?_
  rw [← append_assoc]
  exact h.append_right _

theorem booked_close (h : (booked items opened settled).Perm all) (kept : E → Bool) {f : E → E}
    (hf : ∀ e, items (f e) = items e) :
    (booked items ((opened.filter kept).map f)
      (settled ++ (opened.filter fun e => !kept e).map f)).Perm all := by
  have hnone : opened.flatMap (fun _ => ([] : List I)) = [] :=
    flatMap_eq_nil_iff.mpr fun _ _ => rfl
  have hsettle := @booked_settle _ _ _ _ _ _ h kept f (fun _ => [])
    fun e => (hf e).trans (append_nil _).symm
  rwa [hnone, append_nil] at hsettle

end Ledger
