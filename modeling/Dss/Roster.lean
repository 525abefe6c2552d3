import Mathlib.Data.List.Count

/-!
# Rosters: who is where, written down twice

Each known item has a place, and each place lists the items that are there; one place, the root,
lists all of them. The two records agree if every place lists each item as often as it should:
once if it is the root or the place of the item, and otherwise not at all.
-/

universe u v

structure Roster (D : Type u) (Z : Type v) : Type (max u v) where
  place : D → Option Z
  members : Z → Option (List D)

namespace Roster

open Function

variable {D : Type u} {Z : Type v}

@[ext]
theorem ext' {r s : Roster D Z} (hplace : ∀ d, r.place d = s.place d)
    (hmembers : ∀ z, r.members z = s.members z) : r = s := by
  obtain ⟨place, members⟩ := r
  obtain ⟨place', members'⟩ := s
  obtain rfl : place = place' := funext hplace
  obtain rfl : members = members' := funext hmembers
  rfl

def listed (r : Roster D Z) (z : Z) : List D := (r.members z).getD []

def expected [DecidableEq Z] (root : Z) (place : Option Z) (z : Z) : ℕ :=
  match place with
  | none => 0
  | some own => if z = root ∨ z = own then 1 else 0

variable {r : Roster D Z} {d e : D} {z w root : Z}

/-! ## The places of items -/

section Items

variable [DecidableEq D]

def assign (r : Roster D Z) (d : D) (z : Z) : Roster D Z :=
  { r with place := Function.update r.place d (some z) }

def forget (r : Roster D Z) (d : D) : Roster D Z :=
  { r with place := Function.update r.place d none }

def count (r : Roster D Z) (z : Z) (d : D) : ℕ := (r.listed z).count d

@[simp]
theorem place_assign : (r.assign d z).place e = if e = d then some z else r.place e :=
  update_apply ..

@[simp]
theorem place_forget : (r.forget d).place e = if e = d then none else r.place e :=
  update_apply ..

@[simp]
theorem count_assign : (r.assign d z).count w e = r.count w e :=
  rfl

@[simp]
theorem count_forget : (r.forget d).count w e = r.count w e :=
  rfl

@[simp]
theorem members_assign : (r.assign d z).members = r.members :=
  rfl

theorem count_pos_iff : 0 < r.count z d ↔ d ∈ r.listed z :=
  List.count_pos_iff

theorem isSome_of_count (h : r.count z d ≠ 0) : (r.members z).isSome := by
  rcases hz : r.members z with - | l
  · rw [count, listed, hz] at h
    exact absurd List.count_nil h
  · rfl

end Items

/-! ## The places themselves -/

section Places

variable [DecidableEq Z]

def openPlace (r : Roster D Z) (z : Z) : Roster D Z :=
  { r with members := Function.update r.members z (some []) }

def closePlace (r : Roster D Z) (z : Z) : Roster D Z :=
  { r with members := Function.update r.members z none }

@[simp]
theorem place_openPlace : (r.openPlace z).place = r.place :=
  rfl

@[simp]
theorem place_closePlace : (r.closePlace z).place = r.place :=
  rfl

@[simp]
theorem members_openPlace :
    (r.openPlace z).members w = if w = z then some [] else r.members w :=
  update_apply ..

@[simp]
theorem members_closePlace :
    (r.closePlace z).members w = if w = z then none else r.members w :=
  update_apply ..

@[simp]
theorem count_openPlace [DecidableEq D] :
    (r.openPlace z).count w e = if w = z then 0 else r.count w e := by
  rw [count, listed, members_openPlace]
  split_ifs
  · rfl
  · rfl

@[simp]
theorem count_closePlace [DecidableEq D] :
    (r.closePlace z).count w e = if w = z then 0 else r.count w e := by
  rw [count, listed, members_closePlace]
  split_ifs
  · rfl
  · rfl

end Places

/-! ## Items on lists -/

variable [DecidableEq D] [DecidableEq Z]

def leave (r : Roster D Z) (z : Z) (d : D) : Roster D Z :=
  { r with members := Function.update r.members z ((r.members z).map fun l => l.erase d) }

def enter (r : Roster D Z) (z : Z) (d : D) : Roster D Z :=
  let add (l : List D) : List D := if d ∈ l then l else l ++ [d]
  { r with members := Function.update r.members z ((r.members z).map add) }

/-- Both records agree. -/
def Agrees (root : Z) (r : Roster D Z) : Prop :=
  ∀ d z, r.count z d = expected root (r.place d) z

@[simp]
theorem place_leave : (r.leave z d).place = r.place :=
  rfl

@[simp]
theorem place_enter : (r.enter z d).place = r.place :=
  rfl

@[simp]
theorem count_leave : (r.leave z d).count w e =
    if w = z ∧ e = d then r.count w e - 1 else r.count w e := by
  by_cases hw : w = z
  · subst hw
    have hlisted : (r.leave w d).listed w = (r.listed w).erase d := by
      rw [listed, listed, leave]
      dsimp only
      rw [update_self]
      cases r.members w with
      | none => rfl
      | some l => rfl
    rw [count, count, hlisted]
    by_cases he : e = d
    · subst he
      rw [if_pos ⟨rfl, rfl⟩, List.count_erase_self]
    · rw [if_neg fun hand => he hand.2, List.count_erase_of_ne he]
  · have hlisted : (r.leave z d).listed w = r.listed w := by
      rw [listed, listed, leave]
      dsimp only
      rw [update_of_ne hw]
    rw [if_neg fun hand => hw hand.1, count, hlisted, count]

omit [DecidableEq Z] in
theorem count_insertion {l : List D} : (if d ∈ l then l else l ++ [d]).count e =
    if e = d then max 1 (l.count e) else l.count e := by
  by_cases he : e = d
  · subst he
    rw [if_pos rfl]
    split_ifs with hmem
    · have := List.count_pos_iff.2 hmem
      omega
    · rw [List.count_append, List.count_eq_zero.mpr hmem]
      simp
  · rw [if_neg he]
    split_ifs
    · rfl
    · rw [List.count_append, List.count_eq_zero.mpr fun hmem => he (List.mem_singleton.mp hmem)]
      rfl

theorem count_enter (hz : (r.members z).isSome) : (r.enter z d).count w e =
    if w = z ∧ e = d then max 1 (r.count w e) else r.count w e := by
  obtain ⟨l, hl⟩ := Option.isSome_iff_exists.mp hz
  by_cases hw : w = z
  · subst hw
    have hlisted : (r.enter w d).listed w = if d ∈ l then l else l ++ [d] := by
      rw [listed, enter]
      dsimp only
      rw [update_self, hl, Option.map_some, Option.getD_some]
    have hold : r.listed w = l := by rw [listed, hl]; rfl
    rw [count, count, hlisted, hold, count_insertion]
    congr 1
    rw [eq_self_iff_true, true_and]
  · have hlisted : (r.enter z d).listed w = r.listed w := by
      rw [listed, listed, enter]
      dsimp only
      rw [update_of_ne hw]
    rw [if_neg fun hand => hw hand.1, count, hlisted, count]

@[simp]
theorem members_leave : ((r.leave z d).members w).isSome = (r.members w).isSome := by
  rw [leave]
  dsimp only
  rw [update_apply]
  split_ifs with hw
  · rw [hw, Option.isSome_map]
  · rfl

@[simp]
theorem members_enter : ((r.enter z d).members w).isSome = (r.members w).isSome := by
  rw [enter]
  dsimp only
  rw [update_apply]
  split_ifs with hw
  · rw [hw, Option.isSome_map]
  · rfl

/-! ## What keeps the records in agreement -/

theorem Agrees.count_root (h : Agrees root r) (hd : (r.place d).isSome) : r.count root d = 1 := by
  obtain ⟨own, hown⟩ := Option.isSome_iff_exists.mp hd
  rw [h, hown, expected, if_pos (Or.inl rfl)]

theorem Agrees.count_own (h : Agrees root r) (hd : r.place d = some z) : r.count z d = 1 := by
  rw [h, hd, expected, if_pos (Or.inr rfl)]

theorem Agrees.isSome_own (h : Agrees root r) (hd : r.place d = some z) :
    (r.members z).isSome := by
  refine isSome_of_count (d := d) ?_
  rw [h.count_own hd]
  exact Nat.one_ne_zero

theorem Agrees.isSome_root (h : Agrees root r) (hd : (r.place d).isSome) :
    (r.members root).isSome := by
  refine isSome_of_count (d := d) ?_
  rw [h.count_root hd]
  exact Nat.one_ne_zero

theorem Agrees.of_listed (h : Agrees root r) (hd : d ∈ r.listed z) :
    ∃ own, r.place d = some own ∧ (z = root ∨ z = own) := by
  have hpos := count_pos_iff.2 hd
  rw [h] at hpos
  rcases hplace : r.place d with - | own
  · rw [hplace] at hpos
    cases hpos
  · rw [hplace, expected] at hpos
    refine ⟨own, rfl, ?_⟩
    by_contra hnot
    rw [if_neg hnot] at hpos
    cases hpos

/-- An item that leaves its place, unless that is the root, is listed as one of the root. -/
theorem Agrees.left (h : Agrees root r) {own : Z} (hd : r.place d = some own) (e : D) (w : Z) :
    (if own = root then r else r.leave own d).count w e =
        expected root (if e = d then some root else r.place e) w ∧
      (if own = root then r else r.leave own d).place e = r.place e := by
  have hw := h e w
  by_cases hroot : own = root
  · subst hroot
    rw [if_pos rfl, hw]
    by_cases he : e = d
    · subst he
      rw [if_pos rfl, hd]
      exact ⟨rfl, rfl⟩
    · rw [if_neg he]
      exact ⟨rfl, rfl⟩
  · rw [if_neg hroot, count_leave, hw]
    refine ⟨?_, rfl⟩
    by_cases he : e = d
    · subst he
      rw [if_pos rfl, hd, expected, expected]
      split_ifs <;> simp_all
    · rw [if_neg he, if_neg fun hand => he hand.2]

/-- **Moving.** An item that leaves its place, unless that is the root, enters another one and
gets it as its place, is where it should be. -/
theorem Agrees.move (h : Agrees root r) {own : Z} (hd : r.place d = some own)
    (hz : (r.members z).isSome) :
    Agrees root (((if own = root then r else r.leave own d).enter z d).assign d z) := by
  have hz' : ((if own = root then r else r.leave own d).members z).isSome := by
    split_ifs
    · exact hz
    · rw [members_leave]
      exact hz
  intro e w
  obtain ⟨hcount, hplace⟩ := h.left hd e w
  rw [count_assign, count_enter hz', place_assign, hcount]
  by_cases he : e = d
  · subst he
    rw [if_pos rfl, if_pos rfl, expected, expected]
    split_ifs <;> simp_all
  · rw [if_neg he, if_neg he, if_neg fun hand => he hand.2]
    exact congrArg (expected root · w) hplace.symm

theorem Agrees.add (h : Agrees root r) (hd : r.place d = none) (hz : (r.members root).isSome) :
    Agrees root ((r.enter root d).assign d root) := by
  intro e w
  have hw := h e w
  rw [count_assign, count_enter hz, place_assign]
  by_cases he : e = d
  · subst he
    rw [hd, expected] at hw
    rw [if_pos rfl, expected]
    split_ifs <;> simp_all
  · rw [if_neg he, if_neg fun hand => he hand.2]
    exact hw

theorem Agrees.remove (h : Agrees root r) {own : Z} (hd : r.place d = some own) :
    Agrees root (((if own = root then r else r.leave own d).leave root d).forget d) := by
  intro e w
  obtain ⟨hcount, hplace⟩ := h.left hd e w
  rw [count_forget, count_leave, place_forget, hcount]
  by_cases he : e = d
  · subst he
    rw [if_pos rfl, if_pos rfl, expected, expected]
    split_ifs <;> simp_all
  · rw [if_neg he, if_neg he, if_neg fun hand => he hand.2]
    exact congrArg (expected root · w) hplace.symm

theorem Agrees.leave_of_not_listed (h : Agrees root r) (hd : d ∉ r.listed z) :
    Agrees root (r.leave z d) := by
  intro e w
  rw [count_leave, place_leave, ← h]
  split_ifs with hand
  · obtain ⟨rfl, rfl⟩ := hand
    have hzero : r.count w e = 0 := List.count_eq_zero.mpr hd
    rw [hzero]
  · rfl

theorem Agrees.openPlace (h : Agrees root r) (hz : r.members z = none) :
    Agrees root (r.openPlace z) := by
  intro e w
  rw [count_openPlace, place_openPlace, ← h]
  split_ifs with hw
  · subst hw
    rw [count, listed, hz]
    rfl
  · rfl

theorem Agrees.closePlace (h : Agrees root r) (hz : r.listed z = []) :
    Agrees root (r.closePlace z) := by
  intro e w
  rw [count_closePlace, place_closePlace, ← h]
  split_ifs with hw
  · subst hw
    rw [count, hz]
    rfl
  · rfl

end Roster
