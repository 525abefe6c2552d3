import Mathlib.Data.List.Infix
import Mathlib.Data.List.TakeWhile

/-!
# Positions of a text and what is behind them

A reader goes through a text by a position, or takes it off from the front. What is looked up at the
position, or found or cut out from there on, is a matter of what is left alone.
-/

universe u

namespace Position

open List

variable {α : Type u} {text tail : List α} {c : α} {p : α → Bool}

def before (text tail : List α) : ℕ := text.length - tail.length

@[simp]
theorem before_self : before text text = 0 := Nat.sub_self text.length

theorem before_le : before text tail ≤ text.length := Nat.sub_le ..

theorem before_add_length (h : tail <:+ text) : before text tail + tail.length = text.length :=
  Nat.sub_add_cancel h.length_le

theorem drop_before (h : tail <:+ text) : text.drop (before text tail) = tail :=
  (suffix_iff_eq_drop.mp h).symm

theorem length_le_before_iff (h : tail <:+ text) :
    text.length ≤ before text tail ↔ tail = [] := by
  have hlength := before_add_length h
  rw [← length_eq_zero_iff]
  omega

theorem getElem?_before (h : tail <:+ text) : text[before text tail]? = tail.head? := by
  rw [← head?_drop, drop_before h]

theorem suffix_of_cons (h : c :: tail <:+ text) : tail <:+ text :=
  (suffix_cons c tail).trans h

theorem before_cons (h : c :: tail <:+ text) : before text (c :: tail) + 1 = before text tail := by
  have hcons := before_add_length h
  have htail := before_add_length (suffix_of_cons h)
  rw [length_cons] at hcons
  omega

theorem before_lt (h : c :: tail <:+ text) : before text (c :: tail) < text.length := by
  rw [Nat.lt_iff_add_one_le, before_cons h]
  exact before_le

theorem before_dropWhile (h : tail <:+ text) :
    before text (tail.dropWhile p) = before text tail + (tail.takeWhile p).length := by
  have hsplit : (tail.takeWhile p).length + (tail.dropWhile p).length = tail.length := by
    rw [← length_append, takeWhile_append_dropWhile]
  have hdrop := before_add_length ((dropWhile_suffix p).trans h)
  have htail := before_add_length h
  omega

theorem findIdx?_eq (tail : List α) :
    tail.findIdx? p =
      if tail.dropWhile (fun c => !p c) = [] then none
      else some (tail.takeWhile fun c => !p c).length := by
  induction tail with
  | nil => simp
  | cons c tail ih =>
    by_cases hc : p c
    · simp [findIdx?_cons, hc]
    · simp only [findIdx?_cons, hc, dropWhile_cons, takeWhile_cons, ih]
      by_cases hnil : tail.dropWhile (fun c => !p c) = [] <;> simp [hnil]

theorem take_takeWhile (tail : List α) : tail.take (tail.takeWhile p).length = tail.takeWhile p :=
  prefix_iff_eq_take.mp (List.takeWhile_prefix p) |>.symm

theorem take_takeWhile_succ {rest : List α} (h : tail.dropWhile p = c :: rest) :
    tail.take ((tail.takeWhile p).length + 1) = tail.takeWhile p ++ [c] := by
  have hsplit : tail.takeWhile p ++ c :: rest = tail := by
    rw [← h, takeWhile_append_dropWhile]
  calc tail.take ((tail.takeWhile p).length + 1)
      = (tail.takeWhile p ++ c :: rest).take ((tail.takeWhile p).length + 1) := by rw [hsplit]
    _ = tail.takeWhile p ++ (c :: rest).take 1 := take_length_add_append 1
    _ = tail.takeWhile p ++ [c] := rfl

end Position
