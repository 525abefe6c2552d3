import Dss.PropertyLoading

/-!
# What every loaded tree has

Whatever was saved, the parser makes no node that is not readable or not writeable, no two nodes
of one name side by side, no name with a bracket, a slash or white space but blanks, and no text
with a carriage return.
-/

namespace Dss

namespace PropertyTree

open Xml

/-! ## Loaded nodes -/

def Tree.fresh (name : String) : Tree := ⟨{ name := name }, .nil⟩

structure NodeData.IsLoaded (d : NodeData) : Prop where
  readable : d.flags.readable = true
  writeable : d.flags.writeable = true
  text : ∀ text, d.value = .string text → '\r' ∉ text.toList

def Nodes.IsLoaded : Nodes → Prop
  | nil => True
  | cons d children rest =>
    (d.IsLoaded ∧ Plain d.name ∧ d.index = 0) ∧ rest.count d.name = 0 ∧
      children.IsLoaded ∧ rest.IsLoaded

/-- A tree as the parser makes it. The name of the root was there before. -/
def Tree.IsLoaded (t : Tree) : Prop := t.data.IsLoaded ∧ t.children.IsLoaded

def KeepsLoaded (g : Tree → Tree) : Prop :=
  ∀ x, x.IsLoaded → (g x).IsLoaded ∧ (g x).data.name = x.data.name ∧ (g x).data.index = x.data.index

section Changes

variable {g : Tree → Tree} {f : Nodes} {x : Tree} {part : String}

theorem KeepsLoaded.modify (hg : KeepsLoaded g) (i : ℕ) (hf : f.IsLoaded) :
    (f.modify g i).IsLoaded ∧ ∀ name, (f.modify g i).count name = f.count name := by
  induction f generalizing i with
  | nil => cases i <;> exact ⟨trivial, fun _ => rfl⟩
  | cons d children rest _ ih =>
    obtain ⟨⟨hd, hplain, hindex⟩, hcount, hchildren, hrest⟩ := hf
    cases i with
    | zero =>
      obtain ⟨hloaded, hname, hindex'⟩ := hg ⟨d, children⟩ ⟨hd, hchildren⟩
      refine ⟨⟨⟨hloaded.1, ?_, hindex'.trans hindex⟩, ?_, hloaded.2, hrest⟩, fun name => ?_⟩
      · rw [hname]
        exact hplain
      · rw [hname]
        exact hcount
      · rw [Nodes.modify, Nodes.count, Nodes.count, hname]
    | succ i =>
      obtain ⟨hrest', hcount'⟩ := ih i hrest
      refine ⟨⟨⟨hd, hplain, hindex⟩, (hcount' _).trans hcount, hchildren, hrest'⟩, fun name => ?_⟩
      rw [Nodes.modify, Nodes.count, Nodes.count, hcount']

theorem KeepsLoaded.modifyAt (hg : KeepsLoaded g) (p : List ℕ) :
    KeepsLoaded (Tree.modifyAt g p) := by
  induction p with
  | nil => exact hg
  | cons i p ih =>
    intro x hx
    exact ⟨⟨hx.1, (ih.modify i hx.2).1⟩, rfl, rfl⟩

theorem keepsLoaded_setValue {value : PropertyValue}
    (hvalue : ∀ text, value = .string text → '\r' ∉ text.toList) :
    KeepsLoaded (Tree.setValue value) :=
  fun _ hx => ⟨⟨⟨hx.1.readable, hx.1.writeable, hvalue⟩, hx.2⟩, rfl, rfl⟩

structure IsReported (attributes : Attributes) : Prop where
  /-- a name has no white space but blanks -/
  name : ∀ name, attributes.value? "name" = some name → ∀ c ∈ name.toList, isBreak c = false
  writable : attributes.value? "writable" = none
  readable : ∀ text, attributes.value? "readable" = some text → text = "true"

theorem keepsLoaded_setFlags {attributes : Attributes} (h : IsReported attributes) :
    KeepsLoaded (setFlags attributes) := by
  intro x hx
  refine ⟨⟨⟨?_, ?_, hx.1.text⟩, hx.2⟩, rfl, rfl⟩
  · rw [setFlags]
    rcases hreadable : attributes.value? "readable" with - | text
    · exact hx.1.readable
    · rw [h.readable text hreadable]
      rfl
  · rw [setFlags]
    rw [h.writable]
    exact hx.1.writeable

theorem Nodes.IsLoaded.count_eq_zero (hf : f.IsLoaded) (h : f.position part = none) :
    f.count part = 0 := by
  induction f with
  | nil => rfl
  | cons d children rest _ ih =>
    obtain ⟨⟨-, -, hindex⟩, -, -, hrest⟩ := hf
    rw [position] at h
    split_ifs at h with hfound
    have hne : ¬ d.name = part := fun heq => hfound ⟨heq, hindex⟩
    rw [count, if_neg hne, ih hrest (Option.map_eq_none_iff.mp h)]

theorem Nodes.IsLoaded.append (hf : f.IsLoaded) (hx : x.IsLoaded) (hplain : Plain x.data.name)
    (hindex : x.data.index = 0) (hcount : f.count x.data.name = 0) : (f.append x).IsLoaded := by
  induction f with
  | nil => exact ⟨⟨hx.1, hplain, hindex⟩, rfl, hx.2, trivial⟩
  | cons d children rest _ ih =>
    obtain ⟨hd, hrestcount, hchildren, hrest⟩ := hf
    rw [count] at hcount
    have hne : ¬ x.data.name = d.name := by
      intro heq
      rw [if_pos heq.symm] at hcount
      omega
    refine ⟨hd, ?_, hchildren, ih hrest (by omega)⟩
    rw [count_append, hrestcount, if_neg hne]

theorem keepsLoaded_addChild (hpart : Plain part) :
    KeepsLoaded fun t => if t.children.position part = none then t.addChild part else t := by
  intro x hx
  dsimp only
  split_ifs with hnone
  · have hcount := hx.2.count_eq_zero hnone
    refine ⟨⟨⟨hx.1.readable, hx.1.writeable, hx.1.text⟩, ?_⟩, rfl, rfl⟩
    exact hx.2.append ⟨⟨rfl, rfl, nofun⟩, trivial⟩ hpart (Nodes.nextIndex_eq_zero hcount) hcount
  · exact ⟨hx, rfl, rfl⟩

theorem isLoaded_enter (level : ℤ) (current : List ℕ) {p : List ℕ × Tree} (hp : p.2.IsLoaded)
    (hpart : Plain part) : (enter level current p part).2.IsLoaded := by
  rw [enter]
  split_ifs
  · exact hp
  · rcases hx : p.2.getAt p.1 with - | x
    · exact hp
    · dsimp only
      rcases hposition : x.children.position part with - | i
      · have hsame : p.2.modifyAt (·.addChild part) p.1 = p.2.modifyAt
            (fun t => if t.children.position part = none then t.addChild part else t) p.1 :=
          Tree.modifyAt_congr hx (if_pos hposition).symm
        rw [hsame]
        exact ((keepsLoaded_addChild hpart).modifyAt p.1 _ hp).1
      · exact hp

theorem isLoaded_foldl (level : ℤ) (current : List ℕ) {parts : List String} {p : List ℕ × Tree}
    (hp : p.2.IsLoaded) (hparts : ∀ part ∈ parts, Plain part) :
    (parts.foldl (enter level current) p).2.IsLoaded := by
  induction parts generalizing p with
  | nil => exact hp
  | cons part parts ih =>
    rw [List.forall_mem_cons] at hparts
    exact ih (isLoaded_enter level current hp hparts.1) hparts.2

end Changes

/-! ## The parser -/

namespace PropertyParser

structure IsSound (s : PropertyParser) : Prop where
  root : s.root.IsLoaded
  temporaryValue : '\r' ∉ s.temporaryValue.toList

variable {s : PropertyParser} {attributes : Attributes} {name : String}

theorem isSound_startProperty (h : s.IsSound) (hattributes : IsReported attributes) :
    (s.startProperty attributes).IsSound := by
  rw [startProperty]
  rcases hname : attributes.value? "name" with - | propName
  · exact ⟨h.root, h.temporaryValue⟩
  · dsimp only
    split
    · exact ⟨h.root, h.temporaryValue⟩
    · have hparts : ∀ part ∈ partsOf propName, Plain part := fun part hpart =>
        plain_of_mem_partsOf (hattributes.name propName hname) hpart
      have hentered : ((partsOf propName).foldl (enter s.level s.currentNode)
          (s.currentNode, s.root)).2.IsLoaded :=
        isLoaded_foldl s.level s.currentNode h.root hparts
      exact ⟨((keepsLoaded_setFlags hattributes).modifyAt _ _ hentered).1, h.temporaryValue⟩

theorem isSound_startInner (h : s.IsSound) (hattributes : IsReported attributes) :
    (s.startInner name attributes).IsSound := by
  rw [startInner]
  split_ifs
  · exact isSound_startProperty h hattributes
  · exact ⟨h.root, h.temporaryValue⟩
  · exact ⟨h.root, h.temporaryValue⟩
  · exact ⟨h.root, h.temporaryValue⟩

theorem isSound_elementStart (h : s.IsSound) (hattributes : IsReported attributes) :
    (elementStart name attributes s).IsSound := by
  rw [elementStart]
  split_ifs with hhalt hroot htop hproperty
  · exact h
  · rw [startRoot]
    split_ifs <;> exact ⟨h.root, h.temporaryValue⟩
  · exact ⟨h.root, h.temporaryValue⟩
  · exact isSound_startInner ⟨h.root, h.temporaryValue⟩ hattributes
  · exact ⟨h.root, h.temporaryValue⟩
  · exact isSound_startInner h hattributes

theorem valueFrom_eq_string {io : DoubleText} {type : ValueType} {text text' : String}
    (h : valueFrom io type text = .ok (.string text')) : text' = text := by
  cases type <;> rw [valueFrom] at h
  case string => exact (PropertyValue.string.inj (Except.ok.inj h)).symm
  case none => cases h
  case integer => split at h <;> cases h
  case unsignedInteger => split at h <;> cases h
  case boolean => cases h
  case floating => cases h

theorem isSound_elementEnd (io : DoubleText) (h : s.IsSound) :
    (elementEnd io name s).IsSound := by
  have hempty : '\r' ∉ ("" : String).toList := by decide
  by_cases hhalt : s.halt.isSome = true
  · rw [elementEnd, if_pos hhalt]
    exact h
  rw [elementEnd]
  dsimp only
  split_ifs with hlevel hignore hproperty hvalue
  · exact ⟨h.root, h.temporaryValue⟩
  · exact ⟨h.root, h.temporaryValue⟩
  · rcases hnodes : s.nodes with - | ⟨place, nodes⟩
    · exact ⟨h.root, h.temporaryValue⟩
    · exact ⟨h.root, hempty⟩
  · rcases hfrom : valueFrom io s.currentValueType s.temporaryValue with halt | value
    · exact ⟨h.root, h.temporaryValue⟩
    · refine ⟨((keepsLoaded_setValue fun text htext => ?_).modifyAt _ _ h.root).1, hempty⟩
      rw [htext] at hfrom
      rw [valueFrom_eq_string hfrom]
      exact h.temporaryValue
  · exact ⟨h.root, hempty⟩

theorem isSound_characterData {text : String} (htext : '\r' ∉ text.toList) (h : s.IsSound) :
    (characterData text s).IsSound := by
  rw [characterData]
  split_ifs
  · exact h
  · refine ⟨h.root, ?_⟩
    rw [String.toList_append, List.mem_append, not_or]
    exact ⟨h.temporaryValue, htext⟩
  · exact h

end PropertyParser

/-! ## The report of a tree -/

variable {io : DoubleText} {t : Tree} {several : Bool}

def IsLine (text : String) : Prop := '\r' ∉ text.toList

theorem isReported_attributes (d : NodeData) (text : String) :
    IsReported (d.attributes (reportedAttribute text)) where
  name name hname c hc := by
    rw [(PropertyParser.value?_attributes d _).1] at hname
    rw [← Option.some.inj hname] at hc
    exact isBreak_reportedAttribute hc
  writable := (PropertyParser.value?_attributes d _).2.2.1
  readable text htext := by
    rw [(PropertyParser.value?_attributes d _).2.2.2.1] at htext
    split_ifs at htext
    exact (Option.some.inj htext).symm

theorem isReported_nil : IsReported [] := ⟨nofun, rfl, nofun⟩

theorem isLine_reportedText (text : String) : IsLine (reportedText text) := by
  rw [IsLine, reportedText, String.toList_ofList]
  exact return_not_mem_normalizeLines text.toList

theorem isLine_doIndent (n : ℕ) : IsLine (doIndent n) := by
  rw [IsLine]
  induction n with
  | zero => decide
  | succ n ih =>
    rw [doIndent, String.toList_append, List.mem_append, not_or]
    exact ⟨by decide, ih⟩

theorem isLine_newline : IsLine "\n" := by
  rw [IsLine]
  decide

section Report

variable {d : NodeData} {f children : Nodes} {written : Content → Content}

theorem all_nodeContent (indent : ℕ)
    (hwritten : ∀ more, more.All IsReported IsLine → (written more).All IsReported IsLine) :
    (d.content io reportedText indent children written).All IsReported IsLine := by
  have hend : (Content.text (doIndent indent) .nil).All IsReported IsLine :=
    ⟨isLine_doIndent indent, trivial⟩
  rw [NodeData.content]
  split_ifs
  · exact trivial
  · refine ⟨isLine_newline, ?_⟩
    rw [NodeData.valueContent]
    split
    · exact hwritten _ hend
    · exact ⟨isLine_doIndent _, isReported_nil, ⟨isLine_reportedText _, trivial⟩, isLine_newline,
        hwritten _ hend⟩

theorem all_content (siblings : Nodes) (indent : ℕ) {more : Content}
    (hmore : more.All IsReported IsLine) :
    (Nodes.content io reportedAttribute reportedText siblings indent f more).All IsReported
      IsLine := by
  induction f generalizing siblings indent more with
  | nil => exact hmore
  | cons d children rest ihchildren ihrest =>
    exact ⟨isLine_doIndent indent, isReported_attributes d _,
      all_nodeContent indent fun more hmore => ihchildren children (indent + 1) hmore,
      isLine_newline, ihrest siblings indent hmore⟩

end Report

/-- **A loaded tree.** All its nodes are readable and writeable, no two of one name are side by
side, and their texts have no carriage return. -/
theorem isLoaded_loadFromXML (io : DoubleText) (t : Tree) (several : Bool) (name : String) :
    (loadFromXML io (t.document io reportedAttribute reportedText several)
      (Tree.fresh name)).2.IsLoaded := by
  have hfresh : ({ root := Tree.fresh name } : PropertyParser).IsSound :=
    ⟨⟨⟨rfl, rfl, nofun⟩, trivial⟩, List.not_mem_nil⟩
  have hversion : IsReported [("version", "1")] := ⟨nofun, rfl, nofun⟩
  obtain ⟨siblings, hcontent⟩ := document_content io t several
  have hall : (t.document io reportedAttribute reportedText several).content.All IsReported
      IsLine := by
    rw [hcontent]
    exact ⟨isLine_newline, all_content siblings 1 trivial⟩
  have hstart : (PropertyParser.elementStart "properties" [("version", "1")]
      { root := Tree.fresh name }).IsSound :=
    PropertyParser.isSound_elementStart hfresh hversion
  have hfeed := Handler.feed_invariant (h := PropertyParser.handler io)
    (fun name attributes s hattributes hs => PropertyParser.isSound_elementStart hs hattributes)
    (fun name s hs => PropertyParser.isSound_elementEnd io hs)
    (fun text s htext hs => PropertyParser.isSound_characterData htext hs) hall hstart
  exact (PropertyParser.isSound_elementEnd io hfeed).root

end PropertyTree

end Dss
