import Mathlib.Data.List.Basic

/-!
# Bursts

Times in a row belong together if each is less than a distance behind the one before. What counts
of such a burst is its last time.
-/

namespace Bursts

open List

def ends (distance : ℕ) : List ℕ → List ℕ
  | [] => []
  | [time] => [time]
  | time :: next :: times =>
    if next < time + distance then ends distance (next :: times)
    else time :: ends distance (next :: times)

variable {distance time last : ℕ} {times : List ℕ}

theorem getLast?_ends (distance : ℕ) (times : List ℕ) :
    (ends distance times).getLast? = times.getLast? := by
  induction times with
  | nil => rfl
  | cons time times ih =>
    cases times with
    | nil => rfl
    | cons next times =>
      rw [ends, getLast?_cons_cons]
      split_ifs
      · exact ih
      · rw [getLast?_cons, ih, getLast?_cons, Option.getD_some]

theorem ends_ne_nil (h : times ≠ []) : ends distance times ≠ [] := by
  intro hnil
  have hlast := getLast?_ends distance times
  rw [hnil, getLast?_nil, eq_comm, getLast?_eq_none_iff] at hlast
  exact h hlast

theorem ends_snoc_of_lt (hlast : times.getLast? = some last) (h : time < last + distance) :
    ends distance (times ++ [time]) = (ends distance times).dropLast ++ [time] := by
  induction times with
  | nil => cases hlast
  | cons first times ih =>
    cases times with
    | nil =>
      obtain rfl : first = last := Option.some.inj hlast
      exact if_pos h
    | cons next times =>
      rw [cons_append, cons_append, ends, ends, ← cons_append, ih hlast]
      split_ifs
      · rfl
      · rw [dropLast_cons_of_ne_nil (ends_ne_nil (cons_ne_nil next times)),
          cons_append]

theorem ends_snoc_of_le (hlast : times.getLast? = some last) (h : last + distance ≤ time) :
    ends distance (times ++ [time]) = ends distance times ++ [time] := by
  induction times with
  | nil => cases hlast
  | cons first times ih =>
    cases times with
    | nil =>
      obtain rfl : first = last := Option.some.inj hlast
      exact if_neg (Nat.not_lt.mpr h)
    | cons next times =>
      rw [cons_append, cons_append, ends, ends, ← cons_append, ih hlast]
      split_ifs
      · rfl
      · rw [cons_append]

theorem dropLast_ends_append (hlast : times.getLast? = some last) :
    (ends distance times).dropLast ++ [last] = ends distance times := by
  rw [← getLast?_ends distance] at hlast
  exact dropLast_append_getLast? last hlast

end Bursts
