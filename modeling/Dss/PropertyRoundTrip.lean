import Dss.LoadedProperties

/-!
# Saving and loading a tree

A tree comes back from its file exactly if all its nodes are readable and writeable, no two nodes
side by side have the same name, the names have no bracket, slash or white space but blanks, no
text has a carriage return, no text or name has the code 127, and the floating values are given
back by twelve digits.
-/

namespace Dss

namespace PropertyTree

open Xml

/-! ## Reports -/

namespace PropertyParser

variable {io : DoubleText}

theorem characterData_append (t t' : String) (s : PropertyParser) :
    characterData t' (characterData t s) = characterData (t ++ t') s := by
  by_cases hhalt : s.halt.isSome = true
  · rw [characterData, characterData, if_pos hhalt, if_pos hhalt, characterData, if_pos hhalt]
  · by_cases hexpect : s.expectValue = true ∧ s.currentValueType ≠ .none
    · have hstep : ∀ text s', s'.halt = s.halt → s'.expectValue = s.expectValue →
          s'.currentValueType = s.currentValueType →
          characterData text s' = { s' with temporaryValue := s'.temporaryValue ++ text } := by
        intro text s' hhalt' hexpect' htype'
        rw [characterData, hhalt', if_neg hhalt, hexpect', htype', if_pos hexpect]
      have hsecond := hstep t' { s with temporaryValue := s.temporaryValue ++ t } rfl rfl rfl
      rw [hstep t s rfl rfl rfl, hsecond, hstep (t ++ t') s rfl rfl rfl]
      rw [String.append_assoc]
    · have hstep : ∀ text, characterData text s = s := fun text => by
        rw [characterData, if_neg hhalt, if_neg hexpect]
      rw [hstep, hstep, hstep]

theorem characterData_empty (s : PropertyParser) : characterData "" s = s := by
  rw [characterData]
  split_ifs
  · rfl
  · rw [String.append_empty]
  · rfl

end PropertyParser

variable {io : DoubleText} {t : Tree} {several : Bool}

theorem loadFromXML_report {document report whole : Document} (hread : document.read = some whole)
    (hreport : document.IsReport report) (root : Tree) :
    loadFromXML io report root = loadFromXML io whole root := by
  obtain ⟨whole', hread', hname, hattributes, hjoin⟩ := hreport
  obtain rfl : whole' = whole := Option.some.inj (hread'.symm.trans hread)
  have hfeed : ∀ s, (PropertyParser.handler io).feed report.content s =
      (PropertyParser.handler io).feed whole'.content s := by
    intro s
    rw [← Handler.feed_joinTexts PropertyParser.characterData_append
      PropertyParser.characterData_empty report.content, hjoin,
      Handler.feed_joinTexts PropertyParser.characterData_append
      PropertyParser.characterData_empty]
  rw [loadFromXML, Handler.parse, hname, hattributes, hfeed]
  rfl

theorem isReport_whole {document whole : Document} (h : document.read = some whole) :
    document.IsReport whole :=
  ⟨whole, h, rfl, rfl, rfl⟩

/-! ## Loading -/

def topPlace (t : Tree) (several : Bool) (root : Tree) : List ℕ × Tree :=
  ({ level := 1, root := root } : PropertyParser).entered
    (reportedAttribute (t.data.getDisplayName several))

/-- **What is loaded.** The nodes below the top are loaded where the top is put. -/
theorem loadFromXML_document (hall : t.children.All NodeData.IsLoadable)
    (hdistinct : t.children.Distinct) (hrange : InRange t.data.value) {root leaf : Tree}
    (hleaf : (topPlace t several root).2.getAt (topPlace t several root).1 = some leaf)
    (hnone : leaf.data.value = .none) (hflags : leaf.data.flags = {})
    (hchildren : leaf.children = .nil) :
    loadFromXML io (t.document io reportedAttribute reportedText several) root =
      (true, (topPlace t several root).2.modifyAt
        (fun _ => PropertyParser.loadedNode io leaf t.data (t.children.reread io))
        (topPlace t several root).1) := by
  let started : PropertyParser := { level := 1, root := root }
  let finished : PropertyParser := { started with
    root := (topPlace t several root).2.modifyAt
      (fun _ => PropertyParser.loadedNode io leaf t.data (t.children.reread io))
      (topPlace t several root).1
    currentValueType := .none }
  have hidle : started.Idle := ⟨rfl, rfl, rfl, rfl⟩
  have hstart : PropertyParser.elementStart "properties" [("version", "1")]
      ({ root := root } : PropertyParser) = started := by
    rfl
  have hcount : ∀ name, (t.children.reread io).count name ≤ 1 := fun name => by
    rw [Nodes.count_reread]
    exact hdistinct.count_le_one name
  have hempty : t.children.length = 0 → t.children.reread io = .nil := by
    intro hzero
    rcases hnodes : t.children with - | ⟨d, children, rest⟩
    · rfl
    · rw [hnodes] at hzero
      cases hzero
  have hwritten := PropertyParser.loads_content io hall hdistinct hdistinct.count_le_one 2
  have hcontent := PropertyParser.feed_element (d := t.data) hwritten hcount hempty hidle
    Int.zero_lt_one hleaf hnone hflags hchildren hrange 1 (.text "\n" .nil)
  have hend : ∀ s : PropertyParser, s.halt = none → s.level = 1 → s.ignore = false →
      (PropertyParser.elementEnd io "properties" s).halt = none ∧
        (PropertyParser.elementEnd io "properties" s).root = s.root := by
    intro s hhalt hlevel hignore
    rw [PropertyParser.elementEnd, if_neg (by simp [hhalt])]
    rw [hlevel, hignore]
    exact ⟨hhalt, rfl⟩
  -- between the start and the end of the document stand two texts and the node
  have hfeed : (PropertyParser.handler io).feed
      (t.document io reportedAttribute reportedText several).content started = finished := by
    exact hcontent.trans (PropertyParser.feed_text (hidle.setRoot _ _) "\n" .nil)
  have hparse : (PropertyParser.handler io).parse
      (t.document io reportedAttribute reportedText several) { root := root } =
      PropertyParser.elementEnd io "properties" finished := by
    show PropertyParser.elementEnd io "properties" ((PropertyParser.handler io).feed _
      (PropertyParser.elementStart "properties" [("version", "1")] { root := root })) = _
    rw [hstart, hfeed]
  obtain ⟨hhalt, hroot⟩ := hend finished rfl rfl rfl
  rw [loadFromXML, hparse, hhalt, hroot]
  dsimp only [finished, Option.isNone]

/-! ## The top -/

def Tree.reread (io : DoubleText) (t : Tree) : Tree :=
  ⟨t.data.reread io t.children, t.children.reread io⟩

theorem topPlace_plain (several : Bool) (h : Plain t.data.name) :
    topPlace t several (Tree.fresh t.data.name) = ([], Tree.fresh t.data.name) := by
  rw [topPlace, PropertyParser.entered, reportedAttribute_getDisplayName h,
    partsOf_getDisplayName h]
  exact if_pos ⟨rfl, rfl⟩

theorem loadFromXML_plain (io : DoubleText) (several : Bool) (hname : Plain t.data.name)
    (hall : t.children.All NodeData.IsLoadable) (hdistinct : t.children.Distinct)
    (hrange : InRange t.data.value) :
    loadFromXML io (t.document io reportedAttribute reportedText several)
      (Tree.fresh t.data.name) = (true, t.reread io) := by
  have htop := topPlace_plain several hname
  have hleaf : (topPlace t several (Tree.fresh t.data.name)).2.getAt
      (topPlace t several (Tree.fresh t.data.name)).1 = some (Tree.fresh t.data.name) := by
    rw [htop]
    rfl
  rw [loadFromXML_document hall hdistinct hrange hleaf rfl rfl rfl, htop]
  rw [PropertyParser.loadedNode, Tree.pushAll_eq, Nodes.length_reread]
  rfl

/-! ## Counting nodes -/

def Nodes.size : Nodes → ℕ
  | nil => 0
  | cons _ children rest => children.size + rest.size + 1

def Tree.size (t : Tree) : ℕ := t.children.size + 1

theorem Nodes.size_append (f : Nodes) (x : Tree) : (f.append x).size = f.size + x.size := by
  induction f with
  | nil =>
    rw [append, size, size, size, Tree.size]
    omega
  | cons d children rest _ ih =>
    rw [append, size, size]
    omega

theorem Nodes.size_modify {g : Tree → Tree} {i : ℕ} {f : Nodes} {x : Tree}
    (hx : f.get? i = some x) : (f.modify g i).size + x.size = f.size + (g x).size := by
  induction f generalizing i with
  | nil => cases i <;> cases hx
  | cons d children rest _ ih =>
    cases i with
    | zero =>
      obtain rfl : (⟨d, children⟩ : Tree) = x := Option.some.inj hx
      rw [modify, size, size, Tree.size, Tree.size]
      dsimp only
      omega
    | succ i =>
      have hrest := ih hx
      rw [modify, size, size]
      omega

theorem Tree.size_modifyAt {g : Tree → Tree} {p : List ℕ} {t x : Tree}
    (hx : t.getAt p = some x) : (t.modifyAt g p).size + x.size = t.size + (g x).size := by
  induction p generalizing t with
  | nil =>
    obtain rfl : t = x := Option.some.inj hx
    rw [modifyAt, Nat.add_comm]
  | cons i p ih =>
    obtain ⟨y, hy, hxy⟩ := Option.bind_eq_some_iff.mp hx
    have hchild := ih hxy
    have hnodes := Nodes.size_modify (g := modifyAt g p) hy
    show (t.children.modify (modifyAt g p) i).size + 1 + x.size =
      t.children.size + 1 + (g x).size
    omega

theorem Nodes.size_reread (io : DoubleText) (f : Nodes) : (f.reread io).size = f.size := by
  induction f with
  | nil => rfl
  | cons d children rest ihchildren ihrest => rw [reread, size, size, ihchildren, ihrest]

/-- A part is a new node below one that has nothing yet. -/
structure IsChain (name : String) (p : List ℕ × Tree) (x : Tree) : Prop where
  root : p.2.data.name = name
  place : p.2.getAt p.1 = some x
  value : x.data.value = .none
  flags : x.data.flags = {}
  children : x.children = .nil

theorem Tree.name_modifyAt {g : Tree → Tree} (hg : ∀ x, (g x).data.name = x.data.name) (p : List ℕ)
    (t : Tree) : (t.modifyAt g p).data.name = t.data.name := by
  cases p with
  | nil => exact hg t
  | cons i p => rfl

theorem IsChain.enter {name part : String} {p : List ℕ × Tree} {x : Tree} (h : IsChain name p x)
    (hpart : part ≠ name) :
    ∃ x', IsChain name (enter 1 [] p part) x' ∧ (enter 1 [] p part).2.size = p.2.size + 1 := by
  have hroot : ¬ ((1 : ℤ) = 1 ∧ (p.2.getAt []).map (·.data.name) = some part) := by
    rintro ⟨-, heq⟩
    exact hpart ((Option.some.inj heq).symm.trans h.root)
  have hcount : x.children.count part = 0 := by rw [h.children, Nodes.count]
  rw [enter_new h.place hcount hroot]
  refine ⟨⟨{ name := part }, .nil⟩, ⟨?_, Tree.getAt_push h.place, rfl, rfl, rfl⟩, ?_⟩
  · exact (Tree.name_modifyAt (g := (Tree.push · ⟨{ name := part }, .nil⟩)) (fun x => rfl) p.1
      p.2).trans h.root
  · have hsize := Tree.size_modifyAt (g := (Tree.push · ⟨{ name := part }, .nil⟩)) h.place
    have hpush : (x.push ⟨{ name := part }, .nil⟩).size = x.size + 1 := by
      show (x.children.append _).size + 1 = x.children.size + 1 + 1
      rw [Nodes.size_append]
      rfl
    dsimp only
    omega

theorem IsChain.foldl {name : String} {parts : List String} {p : List ℕ × Tree} {x : Tree}
    (h : IsChain name p x) (hparts : ∀ part ∈ parts, part ≠ name) :
    ∃ x', IsChain name (parts.foldl (PropertyTree.enter 1 []) p) x' ∧
      (parts.foldl (PropertyTree.enter 1 []) p).2.size = p.2.size + parts.length := by
  induction parts generalizing p x with
  | nil => exact ⟨x, h, rfl⟩
  | cons part parts ih =>
    rw [List.forall_mem_cons] at hparts
    obtain ⟨x', hx', hsize⟩ := h.enter hparts.1
    obtain ⟨x'', hx'', hsize'⟩ := ih hx' hparts.2
    refine ⟨x'', hx'', ?_⟩
    rw [List.foldl_cons, List.length_cons]
    omega

/-- **A name of the top that does not survive.** There are more nodes than before. -/
theorem size_loadFromXML (io : DoubleText) (several : Bool) (hname : ¬ Plain t.data.name)
    (hall : t.children.All NodeData.IsLoadable) (hdistinct : t.children.Distinct)
    (hrange : InRange t.data.value) :
    t.size < (loadFromXML io (t.document io reportedAttribute reportedText several)
      (Tree.fresh t.data.name)).2.size := by
  have hparts : ∀ part ∈ partsOf (reportedAttribute (t.data.getDisplayName several)),
      part ≠ t.data.name := by
    rintro part hpart rfl
    exact hname (plain_of_mem_partsOf (fun c hc => isBreak_reportedAttribute hc) hpart)
  have hchain : IsChain t.data.name ([], Tree.fresh t.data.name) (Tree.fresh t.data.name) :=
    ⟨rfl, rfl, rfl, rfl, rfl⟩
  obtain ⟨leaf, hleaf, hsize⟩ := hchain.foldl hparts
  have htop : (partsOf (reportedAttribute (t.data.getDisplayName several))).foldl (enter 1 [])
      ([], Tree.fresh t.data.name) = topPlace t several (Tree.fresh t.data.name) := rfl
  rw [htop] at hleaf hsize
  have hlength : 0 < (partsOf (reportedAttribute (t.data.getDisplayName several))).length :=
    List.length_pos_of_ne_nil (partsOf_ne_nil _)
  have hfresh : (Tree.fresh t.data.name).size = 1 := rfl
  have hloaded : (PropertyParser.loadedNode io leaf t.data (t.children.reread io)).size =
      t.size := by
    rw [PropertyParser.loadedNode, Tree.pushAll_eq, hleaf.children]
    show (t.children.reread io).size + 1 = t.size
    rw [Nodes.size_reread, Tree.size]
  have hgrown := Tree.size_modifyAt
    (g := fun _ => PropertyParser.loadedNode io leaf t.data (t.children.reread io)) hleaf.place
  have hone : leaf.size = 1 := by rw [Tree.size, hleaf.children, Nodes.size]
  dsimp only at hsize hgrown
  rw [loadFromXML_document hall hdistinct hrange hleaf.place hleaf.value hleaf.flags
    hleaf.children]
  dsimp only
  omega

/-! ## Comparing trees -/

/-- What is compared of a node. Its index among its siblings, and whether it has room for
children, are left out. -/
def NodeData.shape (d : NodeData) : NodeData := { d with index := 0, hasChildNodes := false }

def Nodes.shape : Nodes → Nodes
  | nil => nil
  | cons d children rest => cons d.shape children.shape rest.shape

def Tree.shape (t : Tree) : Tree := ⟨t.data.shape, t.children.shape⟩

section Shapes

variable {f g : Nodes} {d d' : NodeData} {p q : NodeData → Prop}

theorem Nodes.All.imp (h : f.All p) (hpq : ∀ d, p d → q d) : f.All q := by
  induction f with
  | nil => trivial
  | cons d children rest ihchildren ihrest =>
    exact ⟨hpq d h.1, ihchildren h.2.1, ihrest h.2.2⟩

theorem Nodes.All.and (hp : f.All p) (hq : f.All q) : f.All fun d => p d ∧ q d := by
  induction f with
  | nil => trivial
  | cons d children rest ihchildren ihrest =>
    exact ⟨⟨hp.1, hq.1⟩, ihchildren hp.2.1 hq.2.1, ihrest hp.2.2 hq.2.2⟩

theorem NodeData.shape_eq_iff :
    d.shape = d'.shape ↔ d.name = d'.name ∧ d.value = d'.value ∧ d.flags = d'.flags := by
  simp [shape]

theorem Nodes.count_shape (f : Nodes) (name : String) : f.shape.count name = f.count name := by
  induction f with
  | nil => rfl
  | cons d children rest _ ih =>
    rw [shape, count, ih]
    rfl

theorem Nodes.size_shape (f : Nodes) : f.shape.size = f.size := by
  induction f with
  | nil => rfl
  | cons d children rest ihchildren ihrest => rw [shape, size, size, ihchildren, ihrest]

theorem Nodes.IsLoaded.of_shape (hf : f.IsLoaded) (h : f.shape = g.shape) :
    (g.All fun d => d.IsLoaded ∧ Plain d.name) ∧ g.Distinct := by
  induction f generalizing g with
  | nil =>
    cases g with
    | nil => exact ⟨trivial, trivial⟩
    | cons d children rest => cases h
  | cons d children rest ihchildren ihrest =>
    cases g with
    | nil => cases h
    | cons d' children' rest' =>
      obtain ⟨⟨hd, hplain, -⟩, hcount, hchildren, hrest⟩ := hf
      obtain ⟨hdata, hsame, hbehind⟩ := Nodes.cons.inj h
      obtain ⟨hname, hvalue, hflags⟩ := NodeData.shape_eq_iff.1 hdata
      obtain ⟨hallchildren, hdistinctchildren⟩ := ihchildren hchildren hsame
      obtain ⟨hallrest, hdistinctrest⟩ := ihrest hrest hbehind
      have hd' : d'.IsLoaded := by
        refine ⟨?_, ?_, ?_⟩
        · rw [← hflags]
          exact hd.readable
        · rw [← hflags]
          exact hd.writeable
        · rw [← hvalue]
          exact hd.text
      refine ⟨⟨⟨hd', hname ▸ hplain⟩, hallchildren, hallrest⟩, ?_, hdistinctchildren,
        hdistinctrest⟩
      rw [← hname, ← Nodes.count_shape, ← hbehind, Nodes.count_shape, hcount]

def NodeData.IsKept (io : DoubleText) (d : NodeData) : Prop :=
  d.flags.readable = true ∧ d.flags.writeable = true ∧ rereadValue io d.value = d.value

theorem NodeData.shape_reread (io : DoubleText) (children : Nodes) (d : NodeData) :
    (d.reread io children).shape = d.shape ↔ d.IsKept io := by
  rw [NodeData.shape_eq_iff]
  rcases d with ⟨name, index, value, ⟨readable, writeable, archive⟩, hasChildNodes⟩
  constructor
  · rintro ⟨-, hvalue, hflags⟩
    obtain ⟨hreadable, hwriteable, -⟩ := Flags.mk.inj hflags
    exact ⟨hreadable.symm, hwriteable.symm, hvalue⟩
  · rintro ⟨rfl, rfl, hvalue⟩
    exact ⟨rfl, hvalue, rfl⟩

theorem Nodes.shape_reread (io : DoubleText) (f : Nodes) :
    (f.reread io).shape = f.shape ↔ f.All (NodeData.IsKept io) := by
  induction f with
  | nil => exact iff_of_true rfl trivial
  | cons d children rest ihchildren ihrest =>
    rw [reread, shape, shape, All, ← ihchildren, ← ihrest,
      ← NodeData.shape_reread io children d, Nodes.cons.injEq]

end Shapes

/-! ## Restorable trees -/

/-- A node whose texts may stand in a document, with a value of the types of the code. -/
structure NodeData.Representable (d : NodeData) : Prop where
  name : ∀ c ∈ d.name.toList, isChar c = true
  text : ∀ text, d.value = .string text → ∀ c ∈ text.toList, isChar c = true
  range : InRange d.value

structure NodeData.Restorable (io : DoubleText) (d : NodeData) : Prop where
  readable : d.flags.readable = true
  writeable : d.flags.writeable = true
  /-- its name has no bracket, no slash, no white space but blanks, and not the code 127 -/
  name : ∀ c ∈ d.name.toList, c ≠ '[' ∧ c ≠ '/' ∧ isBreak c = false ∧ c ≠ '\x7f'
  text : ∀ text, d.value = .string text → ∀ c ∈ text.toList, c ≠ '\r' ∧ c ≠ '\x7f'
  number : ∀ x, d.value = .floating x → io.strtod (io.doubleToString x) = x

def Tree.Restorable (io : DoubleText) (t : Tree) : Prop :=
  t.All (NodeData.Restorable io) ∧ t.children.Distinct

/-- The document is well-formed, and whatever is reported of it is loaded as the tree it was. -/
def RoundTrips (io : DoubleText) (t : Tree) (several : Bool) : Prop :=
  (∃ report, (saveToXML io t several).IsReport report) ∧
    ∀ report, (saveToXML io t several).IsReport report →
      ∃ t', loadFromXML io report (Tree.fresh t.data.name) = (true, t') ∧ t'.shape = t.shape

section Nodes

variable {d : NodeData}

theorem isControl_eq_false_iff {c : Char} (h : isChar c = true) :
    isControl c = false ↔ c ≠ '\x7f' := by
  constructor
  · rintro hcontrol rfl
    exact absurd hcontrol (by decide)
  · intro hne
    have hdel : ¬ c.toNat = 0x7f := fun heq => hne (Char.toNat_inj.mp heq)
    have hlow : ¬ (c.toNat ≤ 0x1f ∧ c ≠ '\x09' ∧ c ≠ '\x0d' ∧ c ≠ '\x0a') := by
      rintro ⟨hle, htab, hreturn, hfeed⟩
      simp only [isChar, Bool.or_eq_true, decide_eq_true_eq, Bool.and_eq_true] at h
      rcases h with ((h | h) | h) | ⟨h, -⟩
      · exact htab h
      · exact hfeed h
      · exact hreturn h
      · omega
    rw [isControl]
    simpa [hdel] using hlow

theorem NodeData.Restorable.isLegible (h : d.Restorable io) (hd : d.Representable) :
    d.IsLegible where
  name c hc := (isControl_eq_false_iff (hd.name c hc)).mpr (h.name c hc).2.2.2
  value text htext c hc :=
    (isControl_eq_false_iff (hd.text text htext c hc)).mpr (h.text text htext c hc).2

theorem NodeData.Restorable.plain (h : d.Restorable io) : Plain d.name := fun c hc =>
  isPlain_iff.mpr ⟨(h.name c hc).1, (h.name c hc).2.1, (h.name c hc).2.2.1⟩

theorem NodeData.Restorable.isKept (h : d.Restorable io) : d.IsKept io := by
  refine ⟨h.readable, h.writeable, ?_⟩
  rcases hvalue : d.value with - | z | n | b | text | x
  · rfl
  · rfl
  · rfl
  · rfl
  · have hreturn : '\r' ∉ text.toList := fun hmem => (h.text text hvalue _ hmem).1 rfl
    rw [rereadValue, reportedText_eq_self hreturn]
  · rw [rereadValue, h.number x hvalue]

theorem NodeData.restorable_of (hloaded : d.IsLoaded) (hplain : Plain d.name)
    (hlegible : d.IsLegible) (hkept : d.IsKept io) (hd : d.Representable) : d.Restorable io where
  readable := hloaded.readable
  writeable := hloaded.writeable
  name c hc := by
    obtain ⟨hbracket, hslash, hbreak⟩ := isPlain_iff.mp (hplain c hc)
    exact ⟨hbracket, hslash, hbreak,
      (isControl_eq_false_iff (hd.name c hc)).mp (hlegible.name c hc)⟩
  text text htext c hc := by
    refine ⟨?_, (isControl_eq_false_iff (hd.text text htext c hc)).mp
      (hlegible.value text htext c hc)⟩
    rintro rfl
    exact hloaded.text text htext hc
  number x hx := by
    have hvalue := hkept.2.2
    rw [hx] at hvalue
    exact PropertyValue.floating.inj hvalue

end Nodes

/-- **Saving and loading.** A tree comes back exactly if all its nodes do, and no two nodes side by
side have the same name. -/
theorem roundTrips_iff (io : DoubleText) (t : Tree) (several : Bool)
    (h : t.All NodeData.Representable) : RoundTrips io t several ↔ t.Restorable io := by
  constructor
  · rintro ⟨⟨report, hreport⟩, hload⟩
    -- the document is well-formed, so there are no control codes
    have hlegible : t.All NodeData.IsLegible := by
      by_contra hnot
      obtain ⟨whole, hread, -⟩ := hreport
      rw [read_saveToXML_eq_none hnot] at hread
      cases hread
    obtain ⟨t', heq, hshape⟩ := hload _ (isReport_whole (read_saveToXML io several hlegible))
    obtain ⟨hdata, hbelow⟩ := Tree.mk.inj hshape
    obtain ⟨-, hvalue, hflags⟩ := NodeData.shape_eq_iff.1 hdata
    -- what no loaded tree has, this one does not have either
    have hloaded : t'.IsLoaded := by
      have hroot := isLoaded_loadFromXML io t several t.data.name
      rwa [heq] at hroot
    obtain ⟨hall, hdistinct⟩ := hloaded.2.of_shape hbelow
    have hloadable : t.children.All NodeData.IsLoadable :=
      (hall.and h.2).imp fun d hd => ⟨hd.1.2, hd.2.range⟩
    have hname : Plain t.data.name := by
      by_contra hnot
      have hsize := size_loadFromXML io several hnot hloadable hdistinct h.1.range
      have hsame : t'.children.size = t.children.size := by
        rw [← Nodes.size_shape, hbelow, Nodes.size_shape]
      rw [heq, Tree.size, Tree.size] at hsize
      dsimp only at hsize
      omega
    -- so what is loaded is known
    have hreread : t' = t.reread io := by
      have hplain := loadFromXML_plain io several hname hloadable hdistinct h.1.range
      exact (Prod.mk.inj (heq.symm.trans hplain)).2
    subst hreread
    have hkept := (NodeData.shape_reread io t.children t.data).mp hdata
    have hkeptbelow := (Nodes.shape_reread io t.children).mp hbelow
    have htop : t.data.IsLoaded := ⟨hkept.1, hkept.2.1, fun text htext =>
      hloaded.1.text text (hvalue.trans htext)⟩
    refine ⟨⟨NodeData.restorable_of htop hname hlegible.1 hkept h.1, ?_⟩, hdistinct⟩
    refine (((hall.and hlegible.2).and hkeptbelow).and h.2).imp fun d hd => ?_
    obtain ⟨⟨⟨⟨hloaded, hplain⟩, hlegible⟩, hkept⟩, hd⟩ := hd
    exact NodeData.restorable_of hloaded hplain hlegible hkept hd
  · rintro ⟨⟨htop, hbelow⟩, hdistinct⟩
    have hlegible : t.All NodeData.IsLegible :=
      ⟨htop.isLegible h.1, (hbelow.and h.2).imp fun d hd => hd.1.isLegible hd.2⟩
    have hloadable : t.children.All NodeData.IsLoadable :=
      (hbelow.and h.2).imp fun d hd => ⟨hd.1.plain, hd.2.range⟩
    have hshape : (t.reread io).shape = t.shape := by
      refine Tree.mk.injEq _ _ _ _ ▸ ⟨?_, ?_⟩
      · exact (NodeData.shape_reread io t.children t.data).mpr htop.isKept
      · exact (Nodes.shape_reread io t.children).mpr (hbelow.imp fun d hd => hd.isKept)
    have hread := read_saveToXML io several hlegible
    refine ⟨⟨_, isReport_whole hread⟩, fun report hreport => ⟨t.reread io, ?_, hshape⟩⟩
    rw [loadFromXML_report hread hreport]
    exact loadFromXML_plain io several htop.plain hloadable hdistinct h.1.range

def noDoubles : DoubleText where
  doubleToString _ := "0"
  strtod _ := 0
  plain _ := forall_mem_of_all (by decide)

def config : Tree where
  data := { name := "config", flags := { archive := true } }
  children :=
    .cons { name := "host", value := .string "<a b>" } .nil
      (.cons { name := "port", value := .integer (-7) } .nil .nil)

theorem config_representable : config.All NodeData.Representable := by
  refine ⟨⟨forall_mem_of_all (by decide), nofun, trivial⟩,
    ⟨forall_mem_of_all (by decide), fun text h => ?_, trivial⟩, trivial,
    ⟨forall_mem_of_all (by decide), nofun, by decide, by decide⟩, trivial, trivial⟩
  cases h
  exact forall_mem_of_all (by decide)

theorem config_restorable : config.Restorable noDoubles := by
  refine ⟨⟨⟨rfl, rfl, forall_mem_of_all (by decide), nofun, nofun⟩,
    ⟨rfl, rfl, forall_mem_of_all (by decide), fun text h => ?_, nofun⟩,
    trivial, ⟨rfl, rfl, forall_mem_of_all (by decide), nofun, nofun⟩, trivial, trivial⟩,
    by decide, trivial, by decide, trivial, trivial⟩
  cases h
  exact forall_mem_of_all (by decide)

/-- It comes back, also when it has siblings of its name. -/
theorem roundTrips_config : RoundTrips noDoubles config true :=
  (roundTrips_iff noDoubles config true config_representable).mpr config_restorable

def twoHosts : Tree where
  data := { name := "config" }
  children :=
    .cons { name := "host", value := .string "a" } .nil
      (.cons { name := "host", index := 1, value := .string "b" } .nil .nil)

/-- They become one. -/
theorem roundTrips_fails :
    ¬ ∀ (io : DoubleText) (t : Tree) (several : Bool), t.All NodeData.Representable →
      RoundTrips io t several := by
  intro hall
  have hrepresentable : twoHosts.All NodeData.Representable := by
    refine ⟨⟨forall_mem_of_all (by decide), nofun, trivial⟩,
      ⟨forall_mem_of_all (by decide), fun text h => ?_, trivial⟩, trivial,
      ⟨forall_mem_of_all (by decide), fun text h => ?_, trivial⟩, trivial, trivial⟩
    · cases h
      exact forall_mem_of_all (by decide)
    · cases h
      exact forall_mem_of_all (by decide)
  obtain ⟨-, hload⟩ := hall noDoubles twoHosts false hrepresentable
  have hlegible : twoHosts.All NodeData.IsLegible := by
    refine ⟨⟨by decide, nofun⟩, ⟨by decide, fun text h => ?_⟩, trivial,
      ⟨by decide, fun text h => ?_⟩, trivial, trivial⟩
    · cases h
      decide
    · cases h
      decide
  have hread := read_saveToXML noDoubles false hlegible
  obtain ⟨t', heq, hshape⟩ := hload _ (isReport_whole hread)
  have hloaded := isLoaded_loadFromXML noDoubles twoHosts false "config"
  have hsame : loadFromXML noDoubles (twoHosts.document noDoubles reportedAttribute reportedText
      false) (Tree.fresh "config") = (true, t') := heq
  rw [hsame] at hloaded
  -- no two nodes of one name are loaded
  obtain ⟨hcount, -⟩ := (hloaded.2.of_shape (Tree.mk.inj hshape).2).2
  exact absurd hcount (by decide)

end PropertyTree

end Dss
