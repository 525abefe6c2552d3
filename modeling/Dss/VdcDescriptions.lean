import Dss.Guarded
import Dss.RowMerging

/-!
# The descriptions of a device type

`getStates` and `getActions` make items of base rows, rows in a row with the same name one item
each, and put translated texts in with a second query. The code asks for the state when it puts the
title in, but not when it puts the texts of values in: these come from the last row with the value,
whatever its state is. The same goes for actions and their parameters.
-/

namespace Dss

open List Option

namespace VdcDb

open Guarded RowMerging

/-! ## States -/

/-- A row of `callGetStatesBase`; a column may be NULL. -/
structure StateRow : Type where
  name : Option String
  value : Option String
  tags : Option String

/-- A row of `callGetStates`. -/
structure StateTranslation : Type where
  name : Option String
  displayName : Option String
  value : Option String
  enumName : Option String

structure StateDesc : Type where
  name : String
  title : String
  values : List (String × String)
  tags : String
  deriving DecidableEq

def readIf (c : Prop) [Decidable c] (column : Option String) (other : String) : Option String :=
  if c then column else some other

/-- The state that a base row is for; the name `cur` is that of the last one. -/
def openState (states : List StateDesc) (row : StateRow) (name : String) :
    Option (List StateDesc) :=
  if states.getLast?.map StateDesc.name = some name then some states
  else row.tags.map fun tags => states ++ [⟨name, name, [], tags⟩]

/-- One turn of the loop over the base rows; none if a column that is read is NULL. -/
def addState (states : List StateDesc) (row : StateRow) : Option (List StateDesc) := do
  let name ← row.name
  let states ← openState states row name
  let value ← row.value
  some (states.modifyLast fun s => { s with values := s.values ++ [(value, value)] })

def translateState (states : List StateDesc) (row : StateTranslation) :
    Option (List StateDesc) := do
  let name ← row.name
  let svalue ← row.value
  states.mapM fun it => do
    let title ← readIf (name = it.name) row.displayName it.title
    let values ← it.values.mapM fun v =>
      (readIf (v.1 = svalue) row.enumName v.2).map fun text => (v.1, text)
    some { it with title := title, values := values }

def getStates (base : List StateRow) (translations : List StateTranslation) :
    Option (List StateDesc) := do
  let states ← base.foldlM addState []
  translations.foldlM translateState states

/-! ## Actions -/

inductive PropertyTypeId : Type where
  | integer : PropertyTypeId
  | numeric : PropertyTypeId
  | enumeration : PropertyTypeId
  | string : PropertyTypeId
  deriving DecidableEq

/-- A row of `callGetActionsBase`. -/
structure ActionRow : Type where
  command : Option String
  parameterName : Option String
  baseType : Option ℤ
  defaultValue : Option String
  minValue : Option String
  maxValue : Option String
  resolution : Option String
  siUnit : Option String
  tags : Option String
  name : Option String
  enumReference : Option ℤ

/-- A row of `callGetActions`. -/
structure ActionTranslation : Type where
  command : Option String
  actionName : Option String
  parameterName : Option String
  parameterDisplayName : Option String

structure PropertyDesc : Type where
  name : String
  title : String
  typeId : PropertyTypeId
  typePostfix : String
  defaultValue : String
  minValue : String
  maxValue : String
  resolution : String
  siUnit : String
  tags : String
  values : List (String × String)
  deriving DecidableEq

structure ActionDesc : Type where
  name : String
  title : String
  params : List PropertyDesc
  deriving DecidableEq

/-- `callGetEnumValues`: the names and translated names of a type. -/
abbrev EnumValues : Type := ℤ → List (Option String × Option String)

/-- The type for a `base_type`; a new `PropertyDesc` has the first one. -/
def readTypeId (baseType : Option ℤ) : PropertyTypeId :=
  match baseType.getD 0 with
  | 1 => .integer
  | 2 => .integer
  | 3 => .numeric
  | 4 => .string
  | 5 => .enumeration
  | _ => .integer

def openAction (actions : List ActionDesc) (name : String) : List ActionDesc :=
  if actions.getLast?.map ActionDesc.name = some name then actions
  else actions ++ [⟨name, name, []⟩]

section Actions

variable (enumValues : EnumValues)

def readValues (row : ActionRow) : Option (List (String × String)) :=
  let typeId := row.enumReference.getD 0
  if readTypeId row.baseType = .enumeration ∧ typeId ≠ 0 then
    (enumValues typeId).mapM fun value => do
      let propName ← value.1
      let displayName ← value.2
      some (propName, displayName)
  else some []

def readParam (row : ActionRow) (name : String) : Option PropertyDesc := do
  let defaultValue ← row.defaultValue
  let minValue ← row.minValue
  let maxValue ← row.maxValue
  let resolution ← row.resolution
  let siUnit ← row.siUnit
  let tags ← row.tags
  let values ← readValues enumValues row
  some
    { name := name
      title := name
      typeId := readTypeId row.baseType
      typePostfix := row.name.getD ""
      defaultValue := defaultValue
      minValue := minValue
      maxValue := maxValue
      resolution := resolution
      siUnit := siUnit
      tags := tags
      values := values }

def addAction (actions : List ActionDesc) (row : ActionRow) : Option (List ActionDesc) := do
  let name ← row.command
  let actions := openAction actions name
  match row.parameterName with
  | none => some actions
  | some parameterName =>
    (readParam enumValues row parameterName).map fun param =>
      actions.modifyLast fun a => { a with params := a.params ++ [param] }

def translateAction (actions : List ActionDesc) (row : ActionTranslation) :
    Option (List ActionDesc) := do
  let name ← row.command
  let pname := row.parameterName.getD ""
  actions.mapM fun it => do
    let title ← readIf (name = it.name) row.actionName it.title
    let params ← it.params.mapM fun pit =>
      (readIf (pname = pit.name) row.parameterDisplayName pit.title).map fun title =>
        { pit with title := title }
    some { it with title := title, params := params }

def getActions (base : List ActionRow) (translations : List ActionTranslation) :
    Option (List ActionDesc) := do
  let actions ← base.foldlM (addAction enumValues) []
  translations.foldlM translateAction actions

end Actions

/-! ## The law -/

/-- What the law looks at: the columns of base rows `B` and of translations `C`. -/
structure Query (B C : Type) : Type where
  /-- the name of the item that a base row belongs to -/
  name : B → Option String
  key : B → Option String
  itemName : C → Option String
  itemTitle : C → Option String
  /-- the value or parameter that a translation is for -/
  entryKey : C → Option String
  entryText : C → Option String

/-- The columns that `getStates` reads. -/
def stateQuery : Query StateRow StateTranslation where
  name := StateRow.name
  key := StateRow.value
  itemName := StateTranslation.name
  itemTitle := StateTranslation.displayName
  entryKey := StateTranslation.value
  entryText := StateTranslation.enumName

/-- The columns that `getActions` reads. -/
def actionQuery : Query ActionRow ActionTranslation where
  name := ActionRow.command
  key := ActionRow.parameterName
  itemName := ActionTranslation.command
  itemTitle := ActionTranslation.actionName
  entryKey := ActionTranslation.parameterName
  entryText := ActionTranslation.parameterDisplayName

def StateDesc.item (s : StateDesc) : Item String := ⟨s.name, s.title, s.values⟩

def ActionDesc.item (a : ActionDesc) : Item String :=
  ⟨a.name, a.title, a.params.map fun p => (p.name, p.title)⟩

section Law

variable {B C : Type} (q : Query B C)

structure Describes (it : Item String) (run : List B) : Prop where
  ne_nil : run ≠ []
  name : ∀ row ∈ run, q.name row = some it.name
  keys : it.entries.map Prod.fst = run.filterMap q.key

/-- The text is that of a translation of the value or parameter of an item, or the technical name
if there is no translation. -/
def Translated (rows : List C) (name key text : String) : Prop :=
  IsCaption (fun r => q.itemName r = some name ∧ q.entryKey r = some key) q.entryText rows
    (some key) (some text)

/-- **The law of the items.** -/
structure Lawful (base : List B) (rows : List C) (items : List (Item String)) : Prop where
  runs : ∃ runs, runs.flatten = base ∧ List.Forall₂ (Describes q) items runs ∧
    (items.map Item.name).IsChain (· ≠ ·)
  titles : ∀ it ∈ items, IsCaption (fun r => q.itemName r = some it.name) q.itemTitle rows
    (some it.name) (some it.title)
  texts : ∀ it ∈ items, ∀ e ∈ it.entries, Translated q rows it.name e.1 e.2

def LawfulResult (base : List B) (rows : List C) (result : Option (List (Item String))) : Prop :=
  ∃ items, result = some items ∧ Lawful q base rows items

structure RowReadable (base : List B) (r : C) : Prop where
  name : q.itemName r ≠ none
  title : (∃ row ∈ base, q.name row = q.itemName r) → q.itemTitle r ≠ none
  /-- the text is read if there is such a value or parameter, of any item -/
  text : (∃ row ∈ base, q.key row = some ((q.entryKey r).getD "")) → q.entryText r ≠ none

/-- For each value or parameter, the last translation for it, for whatever item, gives a text that
is right for its own item. -/
def Agrees (base : List B) (rows : List C) : Prop :=
  ∀ row ∈ base, ∀ name key, q.name row = some name → q.key row = some key →
    ∀ r text, (rows.filter fun r => (q.entryKey r).getD "" = key).getLast? = some r →
      q.entryText r = some text → Translated q rows name key text

end Law

/-- No column that `getStates` reads is NULL. The tags are read in the first row of a run. -/
structure StatesReadable (base : List StateRow) (rows : List StateTranslation) : Prop where
  baseRows : ∀ row ∈ base, row.name ≠ none ∧ row.value ≠ none
  tags : ∀ pre row post, base = pre ++ row :: post →
    pre.getLast?.map StateRow.name ≠ some row.name → row.tags ≠ none
  translations : ∀ r ∈ rows, r.value ≠ none ∧ RowReadable stateQuery base r

structure ParamReadable (enumValues : EnumValues) (row : ActionRow) : Prop where
  defaultValue : row.defaultValue ≠ none
  minValue : row.minValue ≠ none
  maxValue : row.maxValue ≠ none
  resolution : row.resolution ≠ none
  siUnit : row.siUnit ≠ none
  tags : row.tags ≠ none
  values : readTypeId row.baseType = .enumeration → row.enumReference.getD 0 ≠ 0 →
    ∀ value ∈ enumValues (row.enumReference.getD 0), value.1 ≠ none ∧ value.2 ≠ none

/-- No column that `getActions` reads is NULL. -/
structure ActionsReadable (enumValues : EnumValues) (base : List ActionRow)
    (rows : List ActionTranslation) : Prop where
  baseRows : ∀ row ∈ base, row.command ≠ none ∧
    (row.parameterName ≠ none → ParamReadable enumValues row)
  translations : ∀ r ∈ rows, RowReadable actionQuery base r

/-! ## Merging, as far as the law looks at it -/

section Merging

variable {B C : Type} (q : Query B C)

def Query.columns : Columns B String where
  name := fun row => (q.name row).getD ""
  key := q.key

def Query.captions : Captions C String where
  name := fun r => (q.itemName r).getD ""
  title := fun r => (q.itemTitle r).getD ""
  key := fun r => (q.entryKey r).getD ""
  text := fun r => (q.entryText r).getD ""

def merged (base : List B) (rows : List C) : List (Item String) :=
  caption q.captions rows (merge q.columns base)

variable {q} {base : List B} {rows : List C}

variable (q rows) in
/-- The text of a value or parameter: that of the last translation for it, of whatever item. -/
def entryText (e : String × String) : String :=
  lastText (fun r => (q.entryKey r).getD "" = e.1) (fun r => (q.entryText r).getD "") rows e.2

variable (q rows) in
def translated (it : Item String) : Item String where
  name := it.name
  title := lastText (fun r => (q.itemName r).getD "" = it.name) (fun r => (q.itemTitle r).getD "")
    rows it.title
  entries := it.entries.map fun e => (e.1, entryText q rows e)

theorem merged_eq : merged q base rows = (merge q.columns base).map (translated q rows) :=
  caption_eq rows (merge q.columns base)

theorem keys_translated {it : Item String} :
    (translated q rows it).entries.map Prod.fst = it.entries.map Prod.fst :=
  map_map

theorem isCaption_some {own : C → Prop} {text : C → Option String} {plain t : String}
    (h : ∀ r ∈ rows, own r → text r ≠ none) :
    IsCaption own text rows (some plain) (some t) ↔
      IsCaption own (fun r => (text r).getD "") rows plain t := by
  have hrow (r : C) (hr : r ∈ rows) : own r ∧ text r = some t ↔ own r ∧ (text r).getD "" = t := by
    refine and_congr_right fun hown => ?_
    obtain ⟨u, hu⟩ := ne_none_iff_exists'.mp (h r hr hown)
    rw [hu, some_inj, getD_some]
  refine or_congr (exists_congr fun r => and_congr_right fun hr => hrow r hr) ?_
  rw [some_inj]

theorem getD_eq_iff {x : Option String} {t : String} (h : x ≠ none) :
    x.getD "" = t ↔ x = some t := by
  obtain ⟨u, rfl⟩ := ne_none_iff_exists'.mp h
  rw [some_inj, getD_some]

variable (hnames : ∀ row ∈ base, q.name row ≠ none)

include hnames

theorem exists_name {it : Item String} (hit : it ∈ merge q.columns base) :
    ∃ row ∈ base, q.name row = some it.name := by
  obtain ⟨run, hrows, hrun⟩ := exists_isRun hit
  obtain ⟨row, hrow⟩ := exists_mem_of_ne_nil run hrun.ne_nil
  refine ⟨row, hrows row hrow, ?_⟩
  exact (getD_eq_iff (hnames row (hrows row hrow))).mp (hrun.name row hrow)

theorem runs_merged (rows : List C) : ∃ runs, runs.flatten = base ∧
    List.Forall₂ (Describes q) (merged q base rows) runs ∧
      ((merged q base rows).map Item.name).IsChain (· ≠ ·) := by
  obtain ⟨made, hmerge, hflatten, hruns, hchain⟩ := runs_merge (c := q.columns) base
  refine ⟨made.map Prod.snd, hflatten, ?_, ?_⟩
  · rw [merged_eq, hmerge, List.map_map, forall₂_map_left_iff, forall₂_map_right_iff,
      forall₂_same]
    intro m hm
    have hmem (row : B) (hrow : row ∈ m.2) : row ∈ base := by
      rw [← hflatten]
      exact mem_flatMap_of_mem hm hrow
    refine ⟨(hruns m hm).ne_nil, fun row hrow => ?_, ?_⟩
    · exact (getD_eq_iff (hnames row (hmem row hrow))).mp ((hruns m hm).name row hrow)
    · rw [Function.comp_apply, keys_translated, (hruns m hm).entries]
      exact map_fst_flatMap_entries m.2
  · rw [merged_eq, hmerge, List.map_map]
    exact hchain

variable (hrows : ∀ r ∈ rows, RowReadable q base r)

include hrows

theorem titles_merged : ∀ it ∈ merged q base rows, IsCaption (fun r => q.itemName r = some it.name)
    q.itemTitle rows (some it.name) (some it.title) := by
  rw [merged_eq, List.forall_mem_map]
  intro it hit
  obtain ⟨row, hrow, hname⟩ := exists_name hnames hit
  have hread : ∀ r ∈ rows, q.itemName r = some it.name → q.itemTitle r ≠ none := fun r hr hown =>
    (hrows r hr).title ⟨row, hrow, hname.trans hown.symm⟩
  obtain ⟨run, -, hrun⟩ := exists_isRun hit
  rw [translated, hrun.title, isCaption_some hread, isCaption_lastText_iff]
  · intro r hr
    obtain ⟨hmem, hp⟩ := mem_filter.mp (mem_of_getLast? hr)
    refine Or.inl ⟨r, hmem, ?_, rfl⟩
    exact (getD_eq_iff (hrows r hmem).name).mp (of_decide_eq_true hp)
  · intro r hr hown
    exact decide_eq_true ((getD_eq_iff (hrows r hr).name).mpr hown)

omit hnames in
theorem translated_entryText_iff {row : B} {name key : String} (hrow : row ∈ base)
    (hkey : q.key row = some key) :
    Translated q rows name key (entryText q rows (key, key)) ↔
      ∀ r text, (rows.filter fun r => (q.entryKey r).getD "" = key).getLast? = some r →
        q.entryText r = some text → Translated q rows name key text := by
  have hread : ∀ r ∈ rows, (q.entryKey r).getD "" = key → q.entryText r ≠ none := fun r hr hown =>
    (hrows r hr).text ⟨row, hrow, by rw [hown, hkey]⟩
  have hown : ∀ r ∈ rows, q.itemName r = some name ∧ q.entryKey r = some key →
      q.entryText r ≠ none := fun r hr hown => hread r hr (by rw [hown.2, Option.getD_some])
  rw [Translated, isCaption_some hown, entryText, isCaption_lastText_iff]
  · refine forall_congr' fun r => ⟨fun h text hr htext => ?_, fun h hr => ?_⟩
    · rw [Translated, isCaption_some hown]
      have hlast := h hr
      rw [htext] at hlast
      exact hlast
    · obtain ⟨hmem, hp⟩ := List.mem_filter.mp (List.mem_of_getLast? hr)
      obtain ⟨text, htext⟩ :=
        Option.ne_none_iff_exists'.mp (hread r hmem (of_decide_eq_true hp))
      rw [htext]
      exact (isCaption_some hown).mp (h text hr htext)
  · intro r _ hr
    exact decide_eq_true (by rw [hr.2, Option.getD_some])

theorem texts_merged_iff :
    (∀ it ∈ merged q base rows, ∀ e ∈ it.entries, Translated q rows it.name e.1 e.2) ↔
      Agrees q base rows := by
  rw [merged_eq, List.forall_mem_map]
  refine ⟨fun h row hrow name key hname hkey => ?_, fun h it hit => ?_⟩
  · obtain ⟨it, hit, rfl, e, he, rfl⟩ := mem_merge_iff (c := q.columns).mpr
      ⟨row, hrow, (getD_eq_iff (hnames row hrow)).mpr hname, hkey⟩
    have hentry := h it hit (e.1, entryText q rows e) (mem_map_of_mem he)
    have hplain : e = (e.1, e.1) := Prod.ext rfl (snd_eq_fst hit he)
    rw [hplain] at hentry
    exact (translated_entryText_iff hrows hrow hkey).mp hentry
  · refine forall_mem_map.mpr fun e he => ?_
    obtain ⟨row, hrow, hname, hkey⟩ := mem_merge_iff.mp ⟨it, hit, rfl, e, he, rfl⟩
    have hplain : e = (e.1, e.1) := Prod.ext rfl (snd_eq_fst hit he)
    have hagrees := h row hrow it.name e.1 ((getD_eq_iff (hnames row hrow)).mp hname) hkey
    rw [← translated_entryText_iff hrows hrow hkey, ← hplain] at hagrees
    exact hagrees

theorem lawful_merged_iff : Lawful q base rows (merged q base rows) ↔ Agrees q base rows := by
  rw [← texts_merged_iff hnames hrows]
  exact ⟨Lawful.texts, fun h => ⟨runs_merged hnames rows, titles_merged hnames hrows, h⟩⟩

end Merging

/-! ## What the loops give -/

theorem map_modifyLast {A B : Type} {f : A → A} {g : A → B} {h : B → B}
    (hfg : ∀ a, g (f a) = h (g a)) (as : List A) :
    (as.modifyLast f).map g = (as.map g).modifyLast h := by
  rcases eq_nil_or_concat as with rfl | ⟨init, a, rfl⟩
  · rfl
  · rw [concat_eq_append, modifyLast_concat, map_append, map_append,
      map_singleton, map_singleton, modifyLast_concat, hfg]

theorem modifyLast_eq_self {A : Type} {f : A → A} (h : ∀ a, f a = a) (as : List A) :
    as.modifyLast f = as := by
  rcases eq_nil_or_concat as with rfl | ⟨init, a, rfl⟩
  · rfl
  · rw [concat_eq_append, modifyLast_concat, h]

section Reading

variable {B C : Type} {q : Query B C} {base : List B} {rows : List C} {items : List (Item String)}

structure Covers (q : Query B C) (base : List B) (items : List (Item String)) : Prop where
  name : ∀ n, (∃ it ∈ items, it.name = n) ↔ ∃ row ∈ base, (q.name row).getD "" = n
  key : ∀ k, (∃ it ∈ items, ∃ e ∈ it.entries, e.1 = k) ↔ ∃ row ∈ base, q.key row = some k

theorem covers_merge : Covers q base (merge q.columns base) where
  name := fun _ => exists_name_iff
  key := fun _ => exists_key_iff

theorem Covers.caption (h : Covers q base items) (r : C) :
    Covers q base (items.map (Item.caption q.captions r)) where
  name := fun n => by
    rw [← h.name n]
    simp only [List.mem_map, exists_exists_and_eq_and, Item.caption]
  key := fun k => by
    rw [← h.key k]
    simp only [List.mem_map, exists_exists_and_eq_and, Item.caption]

theorem Covers.read_iff (h : Covers q base items) (hnames : ∀ row ∈ base, q.name row ≠ none) {r : C}
    (hr : q.itemName r ≠ none) :
    (∀ it ∈ items, ((q.itemName r).getD "" = it.name → q.itemTitle r ≠ none) ∧
      ∀ e ∈ it.entries, (q.entryKey r).getD "" = e.1 → q.entryText r ≠ none) ↔
      RowReadable q base r := by
  have hname : (∃ it ∈ items, it.name = (q.itemName r).getD "") ↔
      ∃ row ∈ base, q.name row = q.itemName r := by
    rw [h.name]
    refine exists_congr fun row => and_congr_right fun hrow => ?_
    obtain ⟨n, hn⟩ := ne_none_iff_exists'.mp hr
    rw [getD_eq_iff (hnames row hrow), hn, getD_some]
  refine ⟨fun hall => ⟨hr, fun htitle => ?_, fun htext => ?_⟩, fun hread it hit => ⟨?_, ?_⟩⟩
  · obtain ⟨it, hit, hname⟩ := hname.mpr htitle
    exact (hall it hit).1 hname.symm
  · obtain ⟨it, hit, e, he, hkey⟩ := (h.key _).mpr htext
    exact (hall it hit).2 e he hkey.symm
  · exact fun hit' => hread.title (hname.mp ⟨it, hit, hit'.symm⟩)
  · exact fun e he hkey => hread.text ((h.key _).mp ⟨it, hit, e, he, hkey.symm⟩)

theorem lawfulResult_iff {result : Option (List (Item String))} {readable : Prop}
    (h : Gives result readable (merged q base rows))
    (hnames : readable → ∀ row ∈ base, q.name row ≠ none)
    (hrows : readable → ∀ r ∈ rows, RowReadable q base r) :
    LawfulResult q base rows result ↔ readable ∧ Agrees q base rows := by
  refine ⟨?_, fun hfits => ⟨merged q base rows, h.eq_some hfits.1, ?_⟩⟩
  · rintro ⟨items, hitems, hlawful⟩
    obtain ⟨hread, rfl⟩ := (h items).mp hitems
    exact ⟨hread, (lawful_merged_iff (hnames hread) (hrows hread)).mp hlawful⟩
  · exact (lawful_merged_iff (hnames hfits.1) (hrows hfits.1)).mpr hfits.2

end Reading

/-! ### States -/

def StateDesc.add (row : StateRow) (s : StateDesc) : StateDesc :=
  { s with values := s.values ++ stateQuery.columns.entries row }

/-- `addState`, if nothing that is read is NULL. -/
def addedState (states : List StateDesc) (row : StateRow) : List StateDesc :=
  (if states.getLast?.map StateDesc.name = some (row.name.getD "") then states
    else states ++ [⟨row.name.getD "", row.name.getD "", [], row.tags.getD ""⟩]).modifyLast
      (StateDesc.add row)

def StateDesc.translate (r : StateTranslation) (s : StateDesc) : StateDesc :=
  { s with
    title := if r.name.getD "" = s.name then r.displayName.getD "" else s.title
    values := s.values.map fun v =>
      (v.1, if v.1 = r.value.getD "" then r.enumName.getD "" else v.2) }

theorem gives_readIf {c : Prop} [Decidable c] {column : Option String} {other : String} :
    Gives (readIf c column other) (c → column ≠ none) (if c then column.getD "" else other) :=
  ((gives_getD column "").ite gives_some).congr (and_iff_left fun _ => trivial)

theorem gives_addState (states : List StateDesc) (row : StateRow) :
    Gives (addState states row)
      (row.name ≠ none ∧
        (states.getLast?.map StateDesc.name ≠ some (row.name.getD "") → row.tags ≠ none) ∧
        row.value ≠ none) (addedState states row) := by
  have hopen : Gives (openState states row (row.name.getD ""))
      (states.getLast?.map StateDesc.name ≠ some (row.name.getD "") → row.tags ≠ none) _ :=
    (gives_some.ite ((gives_getD row.tags "").map _)).congr (and_iff_right fun _ => trivial)
  refine ((gives_getD row.name "").bind (hopen.bind
    ((gives_getD row.value "").bind_some _))).congr_value fun h => ?_
  obtain ⟨value, hvalue⟩ := ne_none_iff_exists'.mp h.2.2
  have hentries : stateQuery.columns.entries row = [(value, value)] := by
    rw [Columns.entries, show stateQuery.columns.key row = some value from hvalue]
    rfl
  have hadd : (fun s : StateDesc => { s with values := s.values ++ [(value, value)] }) =
      StateDesc.add row := funext fun s => by rw [StateDesc.add, hentries]
  simp only [addedState, hvalue, getD_some, ← hadd]

theorem gives_translateState (states : List StateDesc) (r : StateTranslation) :
    Gives (translateState states r)
      (r.name ≠ none ∧ r.value ≠ none ∧
        ∀ it ∈ states, (r.name.getD "" = it.name → r.displayName ≠ none) ∧
          ∀ v ∈ it.values, v.1 = r.value.getD "" → r.enumName ≠ none)
      (states.map (StateDesc.translate r)) := by
  refine (gives_getD r.name "").bind ((gives_getD r.value "").bind (gives_mapM fun it _ => ?_))
  exact gives_readIf.bind ((gives_mapM fun v _ => gives_readIf.map _).bind_some _)

theorem item_addedState (states : List StateDesc) (row : StateRow) :
    (addedState states row).map StateDesc.item =
      addRow stateQuery.columns (states.map StateDesc.item) row := by
  have hlast : (states.map StateDesc.item).getLast?.map Item.name =
      states.getLast?.map StateDesc.name := by
    rw [getLast?_map, Option.map_map]
    rfl
  have hadd (s : StateDesc) : (s.add row).item = s.item.add stateQuery.columns row := rfl
  rw [addedState, map_modifyLast hadd, addRow, hlast, apply_ite (map StateDesc.item),
    map_append]
  rfl

theorem items_states (base : List StateRow) :
    (base.foldl addedState []).map StateDesc.item = merge stateQuery.columns base :=
  (foldl_hom (map StateDesc.item)
    fun states row => (item_addedState states row).symm).symm

theorem item_translate (r : StateTranslation) (s : StateDesc) :
    (s.translate r).item = s.item.caption stateQuery.captions r := by
  refine congrArg₂ (Item.mk s.name) rfl (map_congr_left fun v _ => ?_)
  exact congrArg (Prod.mk v.1) (if_congr eq_comm rfl rfl)

theorem items_translate (rows : List StateTranslation) (states : List StateDesc) :
    (rows.foldl (fun states r => states.map (StateDesc.translate r)) states).map StateDesc.item =
      caption stateQuery.captions rows (states.map StateDesc.item) := by
  refine (foldl_hom (map StateDesc.item) fun states r => ?_).symm
  rw [List.map_map, List.map_map]
  exact map_congr_left fun s _ => (item_translate r s).symm

theorem getLast?_states (base : List StateRow) :
    (base.foldl addedState []).getLast?.map StateDesc.name =
      base.getLast?.map fun row => row.name.getD "" := by
  have hlast := getLast?_merge (c := stateQuery.columns) base
  rw [← items_states, getLast?_map, Option.map_map] at hlast
  exact hlast

theorem last_ne_iff {base : List StateRow} {row : StateRow} (hbase : ∀ b ∈ base, b.name ≠ none)
    (hrow : row.name ≠ none) :
    base.getLast?.map (fun b => b.name.getD "") ≠ some (row.name.getD "") ↔
      base.getLast?.map StateRow.name ≠ some row.name := by
  cases hlast : base.getLast? with
  | none => exact iff_of_true nofun nofun
  | some b =>
    obtain ⟨n, hn⟩ := ne_none_iff_exists'.mp hrow
    rw [map_some, map_some, ne_eq, ne_eq, some_inj, some_inj,
      getD_eq_iff (hbase b (mem_of_getLast? hlast)), hn, getD_some]

theorem gives_states (base : List StateRow) :
    Gives (base.foldlM addState [])
      ((∀ row ∈ base, row.name ≠ none ∧ row.value ≠ none) ∧
        ∀ pre row post, base = pre ++ row :: post →
          pre.getLast?.map StateRow.name ≠ some row.name → row.tags ≠ none)
      (base.foldl addedState []) := by
  refine (gives_foldlM gives_addState base []).congr ?_
  simp only [getLast?_states]
  refine ⟨fun h => ?_, fun h pre row post hsplit => ?_⟩
  · have hbase : ∀ row ∈ base, row.name ≠ none ∧ row.value ≠ none := by
      intro row hrow
      obtain ⟨pre, post, hsplit⟩ := append_of_mem hrow
      exact ⟨(h pre row post hsplit).1, (h pre row post hsplit).2.2⟩
    refine ⟨hbase, fun pre row post hsplit hlast => ?_⟩
    have hpre : ∀ b ∈ pre, b.name ≠ none := fun b hb => (hbase b (by rw [hsplit]; simp [hb])).1
    exact (h pre row post hsplit).2.1 ((last_ne_iff hpre (h pre row post hsplit).1).mpr hlast)
  · have hpre : ∀ b ∈ pre, b.name ≠ none := fun b hb => (h.1 b (by rw [hsplit]; simp [hb])).1
    obtain ⟨hname, hvalue⟩ := h.1 row (by rw [hsplit]; simp)
    refine ⟨hname, fun hlast => ?_, hvalue⟩
    exact h.2 pre row post hsplit ((last_ne_iff hpre hname).mp hlast)

theorem gives_translations (base : List StateRow) (hbase : ∀ row ∈ base, row.name ≠ none)
    (rows : List StateTranslation) :
    Gives (rows.foldlM translateState (base.foldl addedState []))
      (∀ r ∈ rows, r.value ≠ none ∧ RowReadable stateQuery base r)
      (rows.foldl (fun states r => states.map (StateDesc.translate r))
        (base.foldl addedState [])) := by
  refine gives_foldlM_of_const (I := fun states =>
    Covers stateQuery base (states.map StateDesc.item)) (fun states r hcovers => ?_)
    (fun states r hcovers => ?_) rows ?_
  · refine (gives_translateState states r).congr ?_
    rw [and_left_comm]
    refine and_congr_right fun _ => ⟨fun h => ?_, fun h => ⟨h.name, ?_⟩⟩
    · refine (hcovers.read_iff hbase h.1).mp (forall_mem_map.mpr fun s hs => ?_)
      exact ⟨(h.2 s hs).1, fun v hv hkey => (h.2 s hs).2 v hv hkey.symm⟩
    · intro s hs
      have hread := forall_mem_map.mp ((hcovers.read_iff hbase h.name).mpr h) s hs
      exact ⟨hread.1, fun v hv hkey => hread.2 v hv hkey.symm⟩
  · rw [List.map_map, show StateDesc.item ∘ StateDesc.translate r =
      Item.caption stateQuery.captions r ∘ StateDesc.item from funext (item_translate r),
      ← List.map_map]
    exact hcovers.caption r
  · rw [items_states]
    exact covers_merge

theorem gives_getStates (base : List StateRow) (rows : List StateTranslation) :
    Gives ((getStates base rows).map (List.map StateDesc.item)) (StatesReadable base rows)
      (merged stateQuery base rows) := by
  have hstates : Gives (getStates base rows) _ _ := (gives_states base).bind_of fun h =>
    gives_translations base (fun row hrow => (h.1 row hrow).1) rows
  rw [merged, ← items_states, ← items_translate]
  refine (hstates.map _).congr ⟨fun h => ⟨h.1.1, h.1.2, h.2⟩, fun h => ?_⟩
  exact ⟨⟨h.baseRows, h.tags⟩, h.translations⟩

/-! ### Actions -/

section Actions

variable {enumValues : EnumValues}

def ActionRow.values (enumValues : EnumValues) (row : ActionRow) : List (String × String) :=
  if readTypeId row.baseType = .enumeration ∧ row.enumReference.getD 0 ≠ 0 then
    (enumValues (row.enumReference.getD 0)).map fun value =>
      (value.1.getD "", value.2.getD "")
  else []

def ActionRow.param (enumValues : EnumValues) (row : ActionRow) (name : String) : PropertyDesc where
  name := name
  title := name
  typeId := readTypeId row.baseType
  typePostfix := row.name.getD ""
  defaultValue := row.defaultValue.getD ""
  minValue := row.minValue.getD ""
  maxValue := row.maxValue.getD ""
  resolution := row.resolution.getD ""
  siUnit := row.siUnit.getD ""
  tags := row.tags.getD ""
  values := row.values enumValues

def ActionDesc.add (enumValues : EnumValues) (row : ActionRow) (a : ActionDesc) : ActionDesc :=
  { a with params := a.params ++ row.parameterName.toList.map (row.param enumValues) }

/-- `addAction`, if nothing that is read is NULL. -/
def addedAction (enumValues : EnumValues) (actions : List ActionDesc) (row : ActionRow) :
    List ActionDesc :=
  (openAction actions (row.command.getD "")).modifyLast (ActionDesc.add enumValues row)

def ActionDesc.translate (r : ActionTranslation) (a : ActionDesc) : ActionDesc :=
  { a with
    title := if r.command.getD "" = a.name then r.actionName.getD "" else a.title
    params := a.params.map fun p =>
      { p with
        title :=
          if r.parameterName.getD "" = p.name then r.parameterDisplayName.getD "" else p.title } }

theorem gives_readValues (row : ActionRow) :
    Gives (readValues enumValues row)
      (readTypeId row.baseType = .enumeration → row.enumReference.getD 0 ≠ 0 →
        ∀ value ∈ enumValues (row.enumReference.getD 0), value.1 ≠ none ∧ value.2 ≠ none)
      (row.values enumValues) := by
  have hvalue (value : Option String × Option String) :
      Gives (value.1.bind fun propName => value.2.bind fun displayName =>
        some (propName, displayName)) (value.1 ≠ none ∧ value.2 ≠ none)
        (value.1.getD "", value.2.getD "") :=
    (gives_getD value.1 "").bind ((gives_getD value.2 "").bind_some _)
  refine ((gives_mapM fun value _ => hvalue value).ite gives_some).congr ?_
  rw [and_iff_left fun _ => trivial, and_imp]

theorem gives_readParam (row : ActionRow) (name : String) :
    Gives (readParam enumValues row name) (ParamReadable enumValues row)
      (row.param enumValues name) := by
  have hparam : Gives (readParam enumValues row name) _ (row.param enumValues name) :=
    (gives_getD row.defaultValue "").bind ((gives_getD row.minValue "").bind
      ((gives_getD row.maxValue "").bind ((gives_getD row.resolution "").bind
        ((gives_getD row.siUnit "").bind ((gives_getD row.tags "").bind
          ((gives_readValues row).bind_some _))))))
  refine hparam.congr ⟨?_, fun h => ?_⟩
  · rintro ⟨hdefault, hmin, hmax, hresolution, hunit, htags, hvalues⟩
    exact ⟨hdefault, hmin, hmax, hresolution, hunit, htags, hvalues⟩
  · exact ⟨h.defaultValue, h.minValue, h.maxValue, h.resolution, h.siUnit, h.tags, h.values⟩

variable (enumValues) in
theorem gives_addAction (actions : List ActionDesc) (row : ActionRow) :
    Gives (addAction enumValues actions row)
      (row.command ≠ none ∧ (row.parameterName ≠ none → ParamReadable enumValues row))
      (addedAction enumValues actions row) := by
  refine (gives_getD row.command "").bind ?_
  dsimp only
  rw [addedAction]
  cases hparameter : row.parameterName with
  | none =>
    have hadd (a : ActionDesc) : a.add enumValues row = a := by
      rw [ActionDesc.add, hparameter]
      exact congrArg (ActionDesc.mk a.name a.title) (List.append_nil a.params)
    rw [modifyLast_eq_self hadd]
    exact gives_some.congr (iff_of_true trivial fun h => absurd rfl h)
  | some parameterName =>
    have hadd : (fun a : ActionDesc =>
        { a with params := a.params ++ [row.param enumValues parameterName] }) =
        ActionDesc.add enumValues row := funext fun a => by
      rw [ActionDesc.add, hparameter]
      rfl
    rw [← hadd]
    refine ((gives_readParam row parameterName).map _).congr ?_
    exact ⟨fun h _ => h, fun h => h (Option.some_ne_none parameterName)⟩

theorem gives_translateAction (actions : List ActionDesc) (r : ActionTranslation) :
    Gives (translateAction actions r)
      (r.command ≠ none ∧
        ∀ it ∈ actions, (r.command.getD "" = it.name → r.actionName ≠ none) ∧
          ∀ p ∈ it.params, r.parameterName.getD "" = p.name → r.parameterDisplayName ≠ none)
      (actions.map (ActionDesc.translate r)) := by
  refine (gives_getD r.command "").bind (gives_mapM fun it _ => ?_)
  exact gives_readIf.bind ((gives_mapM fun p _ => gives_readIf.map _).bind_some _)

theorem item_addedAction (actions : List ActionDesc) (row : ActionRow) :
    (addedAction enumValues actions row).map ActionDesc.item =
      addRow actionQuery.columns (actions.map ActionDesc.item) row := by
  have hlast : (actions.map ActionDesc.item).getLast?.map Item.name =
      actions.getLast?.map ActionDesc.name := by
    rw [getLast?_map, Option.map_map]
    rfl
  have hadd (a : ActionDesc) :
      (a.add enumValues row).item = a.item.add actionQuery.columns row := by
    refine congrArg (Item.mk a.name a.title) ?_
    rw [ActionDesc.add, map_append, List.map_map]
    rfl
  rw [addedAction, map_modifyLast hadd, addRow, hlast, openAction,
    apply_ite (map ActionDesc.item), map_append]
  rfl

variable (enumValues) in
theorem items_actions (base : List ActionRow) :
    (base.foldl (addedAction enumValues) []).map ActionDesc.item =
      merge actionQuery.columns base :=
  (List.foldl_hom (List.map ActionDesc.item)
    fun actions row => (item_addedAction actions row).symm).symm

theorem item_translateAction (r : ActionTranslation) (a : ActionDesc) :
    (a.translate r).item = a.item.caption actionQuery.captions r := by
  refine congrArg (Item.mk a.name _) ?_
  rw [ActionDesc.translate, List.map_map, ActionDesc.item, List.map_map]
  rfl

theorem items_translateActions (rows : List ActionTranslation) (actions : List ActionDesc) :
    (rows.foldl (fun actions r => actions.map (ActionDesc.translate r)) actions).map
        ActionDesc.item =
      caption actionQuery.captions rows (actions.map ActionDesc.item) := by
  refine (foldl_hom (map ActionDesc.item) fun actions r => ?_).symm
  rw [List.map_map, List.map_map]
  exact map_congr_left fun a _ => (item_translateAction r a).symm

theorem gives_actionTranslations (base : List ActionRow)
    (hbase : ∀ row ∈ base, row.command ≠ none) (rows : List ActionTranslation) :
    Gives (rows.foldlM translateAction (base.foldl (addedAction enumValues) []))
      (∀ r ∈ rows, RowReadable actionQuery base r)
      (rows.foldl (fun actions r => actions.map (ActionDesc.translate r))
        (base.foldl (addedAction enumValues) [])) := by
  refine gives_foldlM_of_const (I := fun actions =>
    Covers actionQuery base (actions.map ActionDesc.item)) (fun actions r hcovers => ?_)
    (fun actions r hcovers => ?_) rows ?_
  · refine (gives_translateAction actions r).congr ⟨fun h => ?_, fun h => ⟨h.name, ?_⟩⟩
    · refine (hcovers.read_iff hbase h.1).mp (forall_mem_map.mpr fun a ha => ?_)
      exact ⟨(h.2 a ha).1, forall_mem_map.mpr (h.2 a ha).2⟩
    · intro a ha
      have hread := forall_mem_map.mp ((hcovers.read_iff hbase h.name).mpr h) a ha
      exact ⟨hread.1, forall_mem_map.mp hread.2⟩
  · rw [List.map_map, show ActionDesc.item ∘ ActionDesc.translate r =
      Item.caption actionQuery.captions r ∘ ActionDesc.item from funext (item_translateAction r),
      ← List.map_map]
    exact hcovers.caption r
  · rw [items_actions]
    exact covers_merge

theorem gives_getActions (base : List ActionRow) (rows : List ActionTranslation) :
    Gives ((getActions enumValues base rows).map (List.map ActionDesc.item))
      (ActionsReadable enumValues base rows) (merged actionQuery base rows) := by
  have hbase := (gives_foldlM_of_const (I := fun _ => True)
    (fun actions row _ => gives_addAction enumValues actions row)
    (fun _ _ _ => trivial) base trivial (s := []))
  have hactions : Gives (getActions enumValues base rows) _ _ := hbase.bind_of fun h =>
    gives_actionTranslations base (fun row hrow => (h row hrow).1) rows
  rw [merged, ← items_actions enumValues, ← items_translateActions]
  refine (hactions.map _).congr ⟨fun h => ⟨h.1, h.2⟩, fun h => ⟨h.baseRows, h.translations⟩⟩

end Actions

/-! ## When descriptions are lawful -/

/-- **The states are lawful if and only if nothing that is read is NULL and, for each value, the
last translation for a value of this name, of whatever state, is right; the same goes for actions
and their parameters.** -/
theorem descriptions_lawful_iff (enumValues : EnumValues) :
    (∀ base rows, LawfulResult stateQuery base rows
        ((getStates base rows).map (List.map StateDesc.item)) ↔
      StatesReadable base rows ∧ Agrees stateQuery base rows) ∧
    ∀ base rows, LawfulResult actionQuery base rows
        ((getActions enumValues base rows).map (List.map ActionDesc.item)) ↔
      ActionsReadable enumValues base rows ∧ Agrees actionQuery base rows := by
  refine ⟨fun base rows => ?_, fun base rows => ?_⟩
  · refine lawfulResult_iff (gives_getStates base rows) (fun h row hrow => ?_) fun h r hr => ?_
    · exact (h.baseRows row hrow).1
    · exact (h.translations r hr).2
  · refine lawfulResult_iff (gives_getActions base rows) (fun h row hrow => ?_) fun h => ?_
    · exact (h.baseRows row hrow).1
    · exact h.translations

def twoStates : List StateRow :=
  [⟨some "fan", some "on", some ""⟩, ⟨some "lamp", some "on", some ""⟩]

def lampTranslation : List StateTranslation :=
  [⟨some "lamp", some "Lampe", some "on", some "leuchtet"⟩]

/-- The value of the fan gets the text of the lamp. -/
theorem descriptions_lawful_fails :
    ¬ LawfulResult stateQuery twoStates lampTranslation
      ((getStates twoStates lampTranslation).map (List.map StateDesc.item)) := by
  rintro ⟨items, hitems, hlawful⟩
  obtain rfl : [⟨"fan", "fan", [("on", "leuchtet")]⟩, ⟨"lamp", "Lampe", [("on", "leuchtet")]⟩] =
      items := some.inj hitems
  rcases hlawful.texts ⟨"fan", "fan", [("on", "leuchtet")]⟩ mem_cons_self ("on", "leuchtet")
    mem_cons_self with ⟨r, hr, hown, -⟩ | ⟨-, htext⟩
  · rw [mem_singleton.mp hr] at hown
    exact absurd hown.1 (by decide)
  · exact absurd htext (by decide)

end VdcDb

end Dss
