import Dss.FreshName
import Mathlib.Data.List.Infix

/-!
# Fields of a text

If the fields of texts have the same length, or a separator ends them that none of them contains,
one text begins with another one exactly if their fields agree, up to the last one.

A separator of a field itself can be written behind a mark, which a reader takes away. If the fields
have no mark otherwise, the reader finds them again.
-/

universe u

namespace Fields

open List

variable {α : Type u} {c : α} {xs ys us vs : List α}

/-! ## Prefixes -/

theorem append_isPrefix_iff (hlength : xs.length = ys.length) :
    xs ++ us <+: ys ++ vs ↔ xs = ys ∧ us <+: vs := by
  constructor
  · rintro ⟨ws, hws⟩
    rw [append_assoc] at hws
    obtain ⟨hxs, hus⟩ := append_inj hws hlength
    exact ⟨hxs, ws, hus⟩
  · rintro ⟨rfl, hus⟩
    exact (prefix_append_right_inj xs).mpr hus

theorem append_cons_isPrefix_iff (hxs : c ∉ xs) (hys : c ∉ ys) :
    xs ++ c :: us <+: ys ++ c :: vs ↔ xs = ys ∧ us <+: vs := by
  induction xs generalizing ys with
  | nil =>
    cases ys with
    | nil => simp
    | cons y ys =>
      refine iff_of_false (fun h => ?_) fun h => ?_
      · exact hys (by rw [(cons_prefix_cons.mp h).1]; exact mem_cons_self)
      · cases h.1
  | cons x xs ih =>
    cases ys with
    | nil =>
      refine iff_of_false (fun h => ?_) fun h => ?_
      · exact hxs (by rw [(cons_prefix_cons.mp h).1]; exact mem_cons_self)
      · cases h.1
    | cons y ys =>
      rw [cons_append, cons_append, cons_prefix_cons,
        ih (not_mem_of_not_mem_cons hxs) (not_mem_of_not_mem_cons hys),
        cons.injEq, and_assoc]

theorem isPrefix_append_cons_iff (hxs : c ∉ xs) : xs <+: ys ++ c :: vs ↔ xs <+: ys := by
  induction xs generalizing ys with
  | nil => exact iff_of_true nil_prefix nil_prefix
  | cons x xs ih =>
    cases ys with
    | nil =>
      refine iff_of_false (fun h => ?_) fun h => ?_
      · exact hxs (by rw [(cons_prefix_cons.mp h).1]; exact mem_cons_self)
      · cases prefix_nil.mp h
    | cons y ys =>
      rw [cons_append, cons_prefix_cons, cons_prefix_cons,
        ih (not_mem_of_not_mem_cons hxs)]

/-! ## Numbers -/

theorem mem_repr {n : ℤ} {d : Char} (h : d ∈ n.repr.toList) : d.isDigit = true ∨ d = '-' := by
  have hdigit {k : ℕ} (hk : d ∈ k.repr.toList) : d.isDigit = true := by
    rw [Nat.toList_repr] at hk
    exact Nat.isDigit_of_mem_toDigits (by omega) (by omega) hk
  cases n with
  | ofNat k => exact Or.inl (hdigit h)
  | negSucc k =>
    rw [Int.repr, String.toList_append] at h
    rcases mem_append.mp h with hsign | hk
    · exact Or.inr (mem_singleton.mp hsign)
    · exact Or.inl (hdigit hk)

theorem notMem_repr {n : ℤ} {d : Char} (hdigit : d.isDigit = false) (hsign : d ≠ '-') :
    d ∉ n.repr.toList := by
  intro h
  rcases mem_repr h with hd | hd
  · rw [hdigit] at hd
    cases hd
  · exact hsign hd

theorem repr_injective : Function.Injective Int.repr := by
  -- only negative numbers have a sign
  have hsign {j k : ℕ} : (Int.ofNat j).repr ≠ (Int.negSucc k).repr := by
    intro h
    have hmem : '-' ∈ (Int.negSucc k).repr.toList := by
      rw [Int.repr, String.toList_append]
      exact mem_append_left _ (mem_singleton_self '-')
    rw [← h, Int.repr, Nat.toList_repr] at hmem
    cases Nat.isDigit_of_mem_toDigits (by omega) (by omega) hmem
  intro m n h
  cases m with
  | ofNat j =>
    cases n with
    | ofNat k => exact congrArg Int.ofNat (FreshName.repr_injective h)
    | negSucc k => exact absurd h hsign
  | negSucc j =>
    cases n with
    | ofNat k => exact absurd h.symm hsign
    | negSucc k =>
      rw [Int.repr, Int.repr] at h
      have hlist := congrArg String.toList h
      rw [String.toList_append, String.toList_append] at hlist
      have hnat : (j + 1).repr = (k + 1).repr :=
        String.toList_inj.mp (append_cancel_left hlist)
      rw [Nat.succ.inj (FreshName.repr_injective hnat)]

theorem repr_toList_inj {m n : ℤ} : m.repr.toList = n.repr.toList ↔ m = n :=
  String.toList_inj.trans repr_injective.eq_iff

/-! ## Escaped separators -/

section Escaped

variable {mark separator : α} {before rest field : List α} {fields : List (List α)}

theorem head?_reverse_ne (h : mark ∉ field) : field.reverse.head? ≠ some mark := fun hhead =>
  h (mem_reverse.mp (mem_of_mem_head? hhead))

variable [DecidableEq α]

/-- The fields of a line; `field` is the current one, last letter first. A separator behind a mark
takes the place of the mark. -/
def split (mark separator : α) : List α → List α → List (List α)
  | field, [] => [field.reverse]
  | field, c :: cs =>
    if c = separator then
      if field.head? = some mark then split mark separator (c :: field.tail) cs
      else field.reverse :: split mark separator [] cs
    else split mark separator (c :: field) cs

/-- A field as it is written. -/
def escape (mark separator : α) (field : List α) : List α :=
  field.flatMap fun c => if c = separator then [mark, c] else [c]

theorem split_cons_of_ne {c : α} (h : c ≠ separator) :
    split mark separator before (c :: rest) = split mark separator (c :: before) rest := by
  rw [split, if_neg h]

theorem split_append (h : separator ∉ xs) :
    split mark separator before (xs ++ rest) =
      split mark separator (xs.reverse ++ before) rest := by
  induction xs generalizing before with
  | nil => rfl
  | cons x xs ih =>
    obtain ⟨hx, hxs⟩ := not_or.mp fun hmem => h (mem_cons.mpr hmem)
    rw [cons_append, split_cons_of_ne (Ne.symm hx), ih hxs, reverse_cons,
      append_assoc]
    rfl

theorem split_marked :
    split mark separator (mark :: before) (separator :: rest) =
      split mark separator (separator :: before) rest := by
  rw [split, if_pos rfl, head?_cons, if_pos rfl, tail_cons]

theorem split_separator (h : before.head? ≠ some mark) :
    split mark separator before (separator :: rest) =
      before.reverse :: split mark separator [] rest := by
  rw [split, if_pos rfl, if_neg h]

theorem split_escape (hne : mark ≠ separator) (hfield : mark ∉ field) :
    split mark separator before (escape mark separator field ++ rest) =
      split mark separator (field.reverse ++ before) rest := by
  induction field generalizing before with
  | nil => rfl
  | cons c field ih =>
    have htail : mark ∉ field := not_mem_of_not_mem_cons hfield
    rw [escape, flatMap_cons, append_assoc, reverse_cons, append_assoc]
    by_cases hc : c = separator
    · rw [if_pos hc, hc, cons_append, singleton_append, split_cons_of_ne hne,
        split_marked]
      exact ih htail
    · rw [if_neg hc, singleton_append, split_cons_of_ne hc]
      exact ih htail

/-- **Round trip**: the fields of the line that is made of fields without marks. -/
theorem split_intercalate (hne : mark ≠ separator) (hfields : fields ≠ [])
    (hmark : ∀ field ∈ fields, mark ∉ field) :
    split mark separator []
      (List.intercalate [separator] (fields.map (escape mark separator))) = fields := by
  induction fields with
  | nil => exact absurd rfl hfields
  | cons field fields ih =>
    obtain ⟨hfield, hrest⟩ := forall_mem_cons.mp hmark
    cases fields with
    | nil =>
      have hread : split mark separator [] (escape mark separator field ++ []) =
          split mark separator (field.reverse ++ []) [] := split_escape hne hfield
      rw [append_nil, append_nil, split, reverse_reverse] at hread
      rwa [map_singleton, intercalate_singleton]
    | cons next fields =>
      have hsplit := ih (cons_ne_nil next fields) hrest
      show split mark separator [] (escape mark separator field ++ separator ::
        intercalate [separator] ((next :: fields).map (escape mark separator))) = _
      rw [split_escape hne hfield, append_nil, split_separator (head?_reverse_ne hfield),
        reverse_reverse, hsplit]

end Escaped

end Fields
