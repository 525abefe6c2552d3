import Mathlib.Data.List.Basic

/-!
# The first and the last element that matches

A loop over a list that offers something to each element and stops at the first
one that takes it. `mergeFirst` is that loop; it says whether anything took it,
unlike `List.replaceF`. A loop that does not stop remembers the last one
(`foldl_replace`).
-/

namespace FirstMatch

universe u v

variable {α : Type u} {β : Type v}

/-- Offer an update to the elements in order; `none` if no element takes it. -/
def mergeFirst (f : α → Option α) : List α → Option (List α)
  | [] => none
  | a :: rest =>
    match f a with
    | some a' => some (a' :: rest)
    | none => (mergeFirst f rest).map (a :: ·)

theorem forall_of_mergeFirst_eq_none {f : α → Option α} {l : List α} (h : mergeFirst f l = none) :
    ∀ a ∈ l, f a = none := by
  induction l with
  | nil => exact fun a ha => absurd ha List.not_mem_nil
  | cons b rest ih =>
    rw [mergeFirst] at h
    rcases hb : f b with - | b'
    · rw [hb, Option.map_eq_none_iff] at h
      exact List.forall_mem_cons.mpr ⟨hb, ih h⟩
    · rw [hb] at h
      cases h

/-- The element that took the update, among those that did not. -/
theorem mergeFirst_eq_some {f : α → Option α} :
    ∀ {l l' : List α}, mergeFirst f l = some l' →
      ∃ pre a a' post, l = pre ++ a :: post ∧ l' = pre ++ a' :: post ∧ f a = some a' ∧
        l.find? (fun b => (f b).isSome) = some a := by
  intro l
  induction l with
  | nil =>
    intro l' h
    cases h
  | cons b rest ih =>
    intro l' h
    rw [mergeFirst] at h
    rcases hb : f b with - | b'
    · rw [hb] at h
      obtain ⟨r', hr, rfl⟩ := Option.map_eq_some_iff.mp h
      obtain ⟨pre, a, a', post, rfl, rfl, ha, hfind⟩ := ih hr
      refine ⟨b :: pre, a, a', post, rfl, rfl, ha, ?_⟩
      rw [List.find?_cons_of_neg (by rw [hb]; simp), hfind]
    · rw [hb] at h
      obtain rfl := Option.some.inj h
      exact ⟨[], b, b', rest, rfl, rfl, hb, List.find?_cons_of_pos (by rw [hb]; simp)⟩

/-- The loop on what the elements show of themselves. -/
theorem mergeFirst_map (g : α → β) {f : α → Option α} {f' : β → Option β}
    (h : ∀ a, f' (g a) = (f a).map g) (l : List α) :
    mergeFirst f' (l.map g) = (mergeFirst f l).map (List.map g) := by
  induction l with
  | nil => rfl
  | cons a rest ih =>
    rw [List.map_cons, mergeFirst, mergeFirst, h]
    rcases f a with - | a'
    · rw [Option.map_none]
      dsimp only
      rw [ih, Option.map_map, Option.map_map]
      rfl
    · rfl

/-- What a loop keeps of the elements shows what the loop on what they show keeps. -/
theorem map_filter_isSome (g : α → β) {f : β → Option β} {k : α → α}
    (h : ∀ a b, f (g a) = some b → g (k a) = b) (l : List α) :
    ((l.filter fun a => (f (g a)).isSome).map k).map g = (l.map g).filterMap f := by
  induction l with
  | nil => rfl
  | cons a rest ih =>
    rw [List.filter_cons, List.map_cons, List.filterMap_cons]
    rcases hkept : f (g a) with - | b
    · exact ih
    · rw [Option.isSome_some, if_pos rfl, List.map_cons, List.map_cons, ih, h a b hkept]

theorem foldl_replace (p : α → Bool) (f : α → β) (as : List α) (init : β) :
    as.foldl (fun last a => if p a then f a else last) init =
      (((as.filter p).getLast?).map f).getD init := by
  induction as generalizing init with
  | nil => rfl
  | cons a as ih =>
    rw [List.foldl_cons, ih, List.filter_cons]
    split_ifs
    · rw [List.getLast?_cons]
      cases (as.filter p).getLast? with
      | none => rfl
      | some last => rfl
    · rfl

end FirstMatch
