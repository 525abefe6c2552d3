import Dss.FirstMatch
import Mathlib.Data.List.Chain
import Mathlib.Data.List.ModifyLast

/-!
# Rows that are merged to items

Rows in a row with the same name make one item with their keys (`runs_merge`). Then come rows with
captions for names and keys; each caption takes the place of the one before it (`foldl_caption`).
-/

namespace RowMerging

open List

variable {T R C : Type*} [DecidableEq T]

structure Item (T : Type*) where
  name : T
  title : T
  entries : List (T × T)

/-- How rows belong to items. -/
structure Columns (R T : Type*) where
  name : R → T
  key : R → Option T

structure Captions (C T : Type*) where
  /-- the name that `title` is for -/
  name : C → T
  title : C → T
  /-- the key that `text` is for -/
  key : C → T
  text : C → T

/-! ## Merging rows -/

section Merging

variable (c : Columns R T)

def Columns.entries (row : R) : List (T × T) := (c.key row).toList.map fun k => (k, k)

def Item.add (row : R) (it : Item T) : Item T :=
  { it with entries := it.entries ++ c.entries row }

def addRow (items : List (Item T)) (row : R) : List (Item T) :=
  (if items.getLast?.map Item.name = some (c.name row) then items
    else items ++ [⟨c.name row, c.name row, []⟩]).modifyLast (Item.add c row)

def merge (rows : List R) : List (Item T) := rows.foldl (addRow c) []

structure IsRun (it : Item T) (run : List R) : Prop where
  ne_nil : run ≠ []
  name : ∀ row ∈ run, c.name row = it.name
  title : it.title = it.name
  /-- its keys are those of the rows, without captions -/
  entries : it.entries = run.flatMap c.entries

variable {c} {items : List (Item T)} {it : Item T} {row : R} {rows run : List R}

omit [DecidableEq T] in
theorem mem_entries {e : T × T} : e ∈ c.entries row ↔ ∃ k, c.key row = some k ∧ e = (k, k) := by
  rw [Columns.entries, List.mem_map]
  refine exists_congr fun k => ?_
  rw [Option.mem_toList, eq_comm (b := e)]

theorem addRow_of_same (h : it.name = c.name row) :
    addRow c (items ++ [it]) row = items ++ [it.add c row] := by
  rw [addRow, getLast?_concat, Option.map_some, if_pos (congrArg some h),
    modifyLast_concat]

theorem addRow_of_ne (h : items.getLast?.map Item.name ≠ some (c.name row)) :
    addRow c items row = items ++ [⟨c.name row, c.name row, c.entries row⟩] := by
  rw [addRow, if_neg h, modifyLast_concat, Item.add, nil_append]

omit [DecidableEq T] in
theorem IsRun.add (h : IsRun c it run) (hname : it.name = c.name row) :
    IsRun c (it.add c row) (run ++ [row]) where
  ne_nil := List.append_ne_nil_of_right_ne_nil run (List.cons_ne_nil row [])
  name := List.forall_mem_append.mpr ⟨h.name, List.forall_mem_singleton.mpr hname.symm⟩
  title := h.title
  entries := by
    rw [Item.add, h.entries, List.flatMap_append, List.flatMap_singleton]

omit [DecidableEq T] in
theorem isRun_singleton : IsRun c ⟨c.name row, c.name row, c.entries row⟩ [row] where
  ne_nil := List.cons_ne_nil row []
  name := List.forall_mem_singleton.mpr rfl
  title := rfl
  entries := (List.flatMap_singleton c.entries row).symm

/-- **Rows in a row with the same name make one item**, and neighbouring items have different
names. -/
theorem runs_merge (rows : List R) : ∃ made : List (Item T × List R),
    merge c rows = made.map Prod.fst ∧ made.flatMap Prod.snd = rows ∧
      (∀ m ∈ made, IsRun c m.1 m.2) ∧ ((made.map Prod.fst).map Item.name).IsChain (· ≠ ·) := by
  induction rows using reverseRecOn with
  | nil => exact ⟨[], rfl, rfl, forall_mem_nil _, isChain_nil⟩
  | append_singleton rows row ih =>
    obtain ⟨made, hmerge, rfl, hruns, hchain⟩ := ih
    rw [merge, foldl_append, foldl_cons, foldl_nil, ← merge, hmerge]
    by_cases hlast : (made.map Prod.fst).getLast?.map Item.name = some (c.name row)
    · rcases eq_nil_or_concat made with rfl | ⟨init, ⟨it, run⟩, rfl⟩
      · cases hlast
      · rw [concat_eq_append] at *
        rw [forall_mem_append, forall_mem_singleton] at hruns
        rw [map_append, map_singleton] at hlast hchain ⊢
        have hname : it.name = c.name row := by
          rw [getLast?_concat] at hlast
          exact Option.some.inj hlast
        refine ⟨init ++ [(it.add c row, run ++ [row])], ?_, ?_, ?_, ?_⟩
        · rw [addRow_of_same hname, map_append, map_singleton]
        · simp [flatMap_append]
        · exact forall_mem_append.mpr
            ⟨hruns.1, forall_mem_singleton.mpr (hruns.2.add hname)⟩
        · rw [map_append]
          rw [map_append] at hchain ⊢
          exact hchain
    · refine ⟨made ++ [(⟨c.name row, c.name row, c.entries row⟩, [row])], ?_, ?_, ?_, ?_⟩
      · rw [addRow_of_ne hlast, map_append, map_singleton]
      · rw [flatMap_append, flatMap_singleton]
      · exact forall_mem_append.mpr ⟨hruns, forall_mem_singleton.mpr isRun_singleton⟩
      · rw [map_append, map_append]
        refine isChain_append.mpr ⟨hchain, isChain_singleton _, ?_⟩
        rintro n hn m hm rfl
        rw [getLast?_map] at hn
        cases hm
        exact hlast hn

theorem getLast?_merge (rows : List R) :
    (merge c rows).getLast?.map Item.name = rows.getLast?.map c.name := by
  rcases eq_nil_or_concat rows with rfl | ⟨init, row, rfl⟩
  · rfl
  · rw [concat_eq_append, merge, foldl_append, foldl_cons, foldl_nil,
      getLast?_concat, addRow]
    split_ifs with hlast
    · rcases eq_nil_or_concat (init.foldl (addRow c) []) with hnil | ⟨items, it, hitems⟩
      · rw [hnil] at hlast
        cases hlast
      · rw [hitems, concat_eq_append] at hlast ⊢
        rw [modifyLast_concat, getLast?_concat]
        rw [getLast?_concat] at hlast
        exact hlast
    · rw [modifyLast_concat, getLast?_concat]
      rfl

theorem exists_isRun (hit : it ∈ merge c rows) :
    ∃ run, (∀ row ∈ run, row ∈ rows) ∧ IsRun c it run := by
  obtain ⟨made, hmerge, rfl, hruns, -⟩ := runs_merge (c := c) rows
  rw [hmerge] at hit
  obtain ⟨m, hm, rfl⟩ := mem_map.mp hit
  exact ⟨m.2, fun row hrow => mem_flatMap_of_mem hm hrow, hruns m hm⟩

theorem mem_merge_iff {n k : T} :
    (∃ it ∈ merge c rows, it.name = n ∧ ∃ e ∈ it.entries, e.1 = k) ↔
      ∃ row ∈ rows, c.name row = n ∧ c.key row = some k := by
  refine ⟨?_, ?_⟩
  · rintro ⟨it, hit, rfl, e, he, rfl⟩
    obtain ⟨run, hrows, hrun⟩ := exists_isRun hit
    rw [hrun.entries] at he
    obtain ⟨row, hrow, he⟩ := mem_flatMap.mp he
    obtain ⟨k, hkey, rfl⟩ := mem_entries.1 he
    exact ⟨row, hrows row hrow, hrun.name row hrow, hkey⟩
  · rintro ⟨row, hrow, rfl, hkey⟩
    obtain ⟨made, hmerge, rfl, hruns, -⟩ := runs_merge (c := c) rows
    rw [hmerge]
    obtain ⟨m, hm, hrow⟩ := mem_flatMap.mp hrow
    refine ⟨m.1, mem_map_of_mem hm, ((hruns m hm).name row hrow).symm, (k, k), ?_, rfl⟩
    rw [(hruns m hm).entries]
    exact mem_flatMap_of_mem hrow (mem_entries.2 ⟨k, hkey, rfl⟩)

theorem exists_name_iff {n : T} :
    (∃ it ∈ merge c rows, it.name = n) ↔ ∃ row ∈ rows, c.name row = n := by
  refine ⟨?_, ?_⟩
  · rintro ⟨it, hit, rfl⟩
    obtain ⟨run, hrows, hrun⟩ := exists_isRun hit
    obtain ⟨row, hrow⟩ := exists_mem_of_ne_nil run hrun.ne_nil
    exact ⟨row, hrows row hrow, hrun.name row hrow⟩
  · rintro ⟨row, hrow, rfl⟩
    obtain ⟨made, hmerge, rfl, hruns, -⟩ := runs_merge (c := c) rows
    rw [hmerge]
    obtain ⟨m, hm, hrow⟩ := mem_flatMap.mp hrow
    exact ⟨m.1, mem_map_of_mem hm, ((hruns m hm).name row hrow).symm⟩

theorem exists_key_iff {k : T} :
    (∃ it ∈ merge c rows, ∃ e ∈ it.entries, e.1 = k) ↔ ∃ row ∈ rows, c.key row = some k := by
  refine ⟨?_, ?_⟩
  · rintro ⟨it, hit, he⟩
    obtain ⟨row, hrow, -, hkey⟩ := mem_merge_iff.1 ⟨it, hit, rfl, he⟩
    exact ⟨row, hrow, hkey⟩
  · rintro ⟨row, hrow, hkey⟩
    obtain ⟨it, hit, -, he⟩ := mem_merge_iff.2 ⟨row, hrow, rfl, hkey⟩
    exact ⟨it, hit, he⟩

theorem snd_eq_fst {e : T × T} (hit : it ∈ merge c rows) (he : e ∈ it.entries) : e.2 = e.1 := by
  obtain ⟨run, -, hrun⟩ := exists_isRun hit
  rw [hrun.entries] at he
  obtain ⟨row, -, he⟩ := mem_flatMap.mp he
  obtain ⟨k, -, rfl⟩ := mem_entries.1 he
  rfl

omit [DecidableEq T] in
theorem map_fst_flatMap_entries (run : List R) :
    (run.flatMap c.entries).map Prod.fst = run.filterMap c.key := by
  induction run with
  | nil => rfl
  | cons row run ih =>
    rw [List.flatMap_cons, List.map_append, ih, Columns.entries]
    cases hkey : c.key row with
    | none => rw [List.filterMap_cons_none hkey]; rfl
    | some k => rw [List.filterMap_cons_some hkey]; rfl

end Merging

/-! ## Captions -/

section Captioning

variable (κ : Captions C T)

def Item.caption (r : C) (it : Item T) : Item T :=
  { it with
    title := if κ.name r = it.name then κ.title r else it.title
    entries := it.entries.map fun e => (e.1, if κ.key r = e.1 then κ.text r else e.2) }

def caption (rows : List C) (items : List (Item T)) : List (Item T) :=
  rows.foldl (fun items r => items.map (Item.caption κ r)) items

def lastText (p : C → Bool) (text : C → T) (rows : List C) (plain : T) : T :=
  (((rows.filter p).getLast?).map text).getD plain

variable {κ}

omit [DecidableEq T] in
theorem foldl_replace (p : C → Prop) [DecidablePred p] (text : C → T) (rows : List C)
    (plain : T) :
    rows.foldl (fun t r => if p r then text r else t) plain =
      lastText (fun r => p r) text rows plain := by
  have hreplace := FirstMatch.foldl_replace (fun r => decide (p r)) text rows plain
  simp only [decide_eq_true_eq] at hreplace
  exact hreplace

theorem foldl_item_caption (rows : List C) (it : Item T) :
    rows.foldl (fun it r => it.caption κ r) it =
      { it with
        title := rows.foldl (fun t r => if κ.name r = it.name then κ.title r else t) it.title
        entries := it.entries.map fun e =>
          (e.1, rows.foldl (fun t r => if κ.key r = e.1 then κ.text r else t) e.2) } := by
  induction rows generalizing it with
  | nil => simp
  | cons r rows ih =>
    rw [foldl_cons, ih]
    rw [Item.caption, map_map]
    rfl

theorem caption_eq_map (rows : List C) (items : List (Item T)) :
    caption κ rows items = items.map fun it => rows.foldl (fun it r => it.caption κ r) it := by
  induction rows generalizing items with
  | nil => exact (map_id items).symm
  | cons r rows ih =>
    rw [caption, foldl_cons, ← caption, ih, map_map]
    rfl

theorem caption_eq (rows : List C) (items : List (Item T)) :
    caption κ rows items = items.map fun it =>
      { it with
        title := lastText (fun r => κ.name r = it.name) κ.title rows it.title
        entries := it.entries.map fun e =>
          (e.1, lastText (fun r => κ.key r = e.1) κ.text rows e.2) } := by
  rw [caption_eq_map]
  refine map_congr_left fun it _ => ?_
  rw [foldl_item_caption]
  simp only [foldl_replace]

def IsCaption (own : C → Prop) (text : C → T) (rows : List C) (plain t : T) : Prop :=
  (∃ r ∈ rows, own r ∧ text r = t) ∨ (∀ r ∈ rows, ¬ own r) ∧ t = plain

omit [DecidableEq T] in
theorem isCaption_lastText_iff {own : C → Prop} {p : C → Bool} {text : C → T} {rows : List C}
    {plain : T} (hown : ∀ r ∈ rows, own r → p r = true) :
    IsCaption own text rows plain (lastText p text rows plain) ↔
      ∀ r, (rows.filter p).getLast? = some r → IsCaption own text rows plain (text r) := by
  rw [lastText]
  cases hlast : (rows.filter p).getLast? with
  | none =>
    refine iff_of_true (Or.inr ⟨fun r hr hr' => ?_, rfl⟩) fun r hr => by cases hr
    have hmem := List.mem_filter.mpr ⟨hr, hown r hr hr'⟩
    rw [List.getLast?_eq_none_iff.mp hlast] at hmem
    cases hmem
  | some last =>
    refine ⟨fun h r hr => ?_, fun h => h last rfl⟩
    rw [← Option.some.inj hr]
    exact h

end Captioning

end RowMerging
