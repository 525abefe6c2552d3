import Dss.Numbers
import Dss.PropertyForest

/-!
# Finding nodes by their display names

`getDisplayName` prints the index of a node only where another child of its parent has the same
name; `getProperty` takes a name without index for the index 0. The two agree on a child that has
no namesake exactly if its index is 0. The one that is left behind when its namesakes are taken
out, or moved elsewhere, keeps the index it has.
-/

namespace Dss

namespace PropertyHeap

/-! ## Names and lookups -/

def count (h : PropertyHeap) (x : ℕ) (name : String) : Option ℕ :=
  (h.resolve x).map fun y => ((h.childNodes y).filter fun c => h.nameOf c = name).length

def getDisplayName (h : PropertyHeap) (x : ℕ) : Option String :=
  match h.parentNode x with
  | none => some (h.nameOf x)
  | some p => (h.count p (h.nameOf x)).map fun n =>
    if 1 < n then h.nameOf x ++ "[" ++ toString (PropertyForest.indexOf h x) ++ "]"
    else h.nameOf x

/-- `getProperty`, with the parts of the path: the node, or the null pointer. -/
def getParts (h : PropertyHeap) : ℕ → List String → Option (Option ℕ)
  | x, [] => (h.resolve x).map some
  | x, part :: parts =>
    (h.resolve x).bind fun y =>
      if PropertyNode.isSelf (part :: parts) then some (some y)
      else
        match h.getPropertyByName y part with
        | none => some none
        | some c => if parts = [] ∨ parts = [""] then some (some c) else getParts h c parts

def getProperty (h : PropertyHeap) (x : ℕ) (path : String) : Option (Option ℕ) :=
  h.getParts x (PropertyNode.splitPath path)

end PropertyHeap

namespace PropertyForest

open BackReferences Transition PropertyHeap

variable {h h' : PropertyHeap} {root x y c d p i : ℕ} {name part : String}
  {names parts : List String} {op : TreeOperation}

inductive DisplayPath (h : PropertyHeap) (root : ℕ) : ℕ → List String → Prop where
  | root : h.parentNode root = none → DisplayPath h root root []
  | child {c p : ℕ} {names : List String} {name : String} : h.parentNode c = some p →
      h.getDisplayName c = some name → DisplayPath h root p names →
        DisplayPath h root c (names ++ [name])

/-- Every node is found, from the root of its tree, by the path of the display names. -/
def Addressable (h : PropertyHeap) : Prop :=
  ∀ x, h.isLive x = true → ∃ root names, DisplayPath h root x names ∧
    h.getProperty root ("/".intercalate names) = some (some x)

/-- No other child of the parent has the name. -/
def Single (h : PropertyHeap) (c p : ℕ) : Prop :=
  ∀ d, h.parentNode d = some p → h.nameOf d = h.nameOf c → d = c

/-- What a lookup by the display name needs of a child: it has a name, and the index 0 if it has
no namesake. -/
structure Fair (h : PropertyHeap) (c p : ℕ) : Prop where
  named : h.nameOf c ≠ ""
  first : Single h c p → indexOf h c = 0

/-- A name with an index behind it, without the characters that are read otherwise. -/
def Plain (name : String) : Prop :=
  '/' ∉ name.toList ∧ '[' ∉ name.toList ∧ ']' ∉ name.toList ∧ '+' ∉ name.toList

instance (name : String) : Decidable (Plain name) :=
  inferInstanceAs (Decidable (_ ∧ _ ∧ _ ∧ _))

/-- The names are plain, and the indices fit an `int`. -/
def Tame (h : PropertyHeap) : Prop :=
  ∀ c < h.next, h.parentNode c ≠ none → Plain (h.nameOf c) ∧ indexOf h c < 2 ^ 31

instance (h : PropertyHeap) : Decidable (Tame h) :=
  inferInstanceAs (Decidable (∀ c < h.next, _ → _))

/-- Every node is found, where nothing has crashed. -/
def Addressed (s : Option PropertyHeap) : Prop := ∃ h, s = some h ∧ Addressable h

/-- The steps that are looked at: they keep the structure of the trees, the names are plain and
the indices fit. -/
def Domain (s : Option PropertyHeap) (op : TreeOperation) : Prop :=
  Fits s op ∧ ∀ h, step s op = some h → Tame h

/-- If a single namesake is left behind where the child goes, its index is 0. -/
def LeavesFirst (h : PropertyHeap) (c p : ℕ) : Prop :=
  ∀ d, h.parentNode d = some p → h.nameOf d = h.nameOf c → d ≠ c →
    (∀ e, h.parentNode e = some p → h.nameOf e = h.nameOf c → e ≠ c → e = d) → indexOf h d = 0

/-- Where a node is taken out, or added elsewhere, no single namesake with another index is left
behind. -/
def Leaves (s : Option PropertyHeap) : TreeOperation → Prop
  | .removeChild x c => ∀ h, s = some h → h.parentNode c = some x → LeavesFirst h c x
  | .addChild x c => ∀ h, s = some h → h.isLive x = true → c ≠ x →
      ∀ p, h.parentNode c = some p → p ≠ x → LeavesFirst h c p
  | _ => True

/-- No child is made or added that has no name, and no single namesake is left behind. -/
def AddressFits (s : Option PropertyHeap) (op : TreeOperation) : Prop :=
  (∀ h, step s op = some h → ∀ c p, h.parentNode c = some p → h.nameOf c ≠ "") ∧ Leaves s op

/-! ## An index in brackets -/

theorem takeWhile_append_cons {a : Char} {xs ys : List Char} (h : a ∉ xs) :
    (xs ++ a :: ys).takeWhile (· ≠ a) = xs := by
  rw [List.takeWhile_append_of_pos fun b hb => by simpa using fun heq : b = a => h (heq ▸ hb)]
  simp

theorem dropWhile_append_cons {a : Char} {xs ys : List Char} (h : a ∉ xs) :
    (xs ++ a :: ys).dropWhile (· ≠ a) = a :: ys := by
  rw [List.dropWhile_append_of_pos fun b hb => by simpa using fun heq : b = a => h (heq ▸ hb)]
  simp

theorem findIdx?_append_cons {a : Char} {xs ys : List Char} (h : a ∉ xs) :
    (xs ++ a :: ys).findIdx? (· = a) = some xs.length := by
  rw [List.findIdx?_eq_some_iff_getElem]
  refine ⟨by simp, by simp, fun j hj => ?_⟩
  rw [List.getElem_append_left hj]
  exact by simpa using fun heq : xs[j] = a => h (heq ▸ List.getElem_mem hj)

theorem trim_toDigits (n : ℕ) : trim (Nat.toDigits 10 n) = Nat.toDigits 10 n := by
  have hkeep : ∀ l : List Char, (∀ c ∈ l, c.isDigit = true) →
      l.dropWhile (fun c => c == ' ' || c == '\t' || c == '\n' || c == '\r') = l := by
    intro l hl
    cases l with
    | nil => rfl
    | cons c l =>
      have hc := hl c List.mem_cons_self
      refine List.dropWhile_cons_of_neg ?_
      simp only [Bool.or_eq_true, beq_iff_eq, not_or]
      refine ⟨⟨⟨?_, ?_⟩, ?_⟩, ?_⟩ <;> rintro rfl <;> exact absurd hc (by decide)
  have hdigit : ∀ c ∈ Nat.toDigits 10 n, c.isDigit = true := fun c hc =>
    Nat.isDigit_of_mem_toDigits (by decide) (by decide) hc
  rw [trim, hkeep _ hdigit, hkeep _ fun c hc => hdigit c (List.mem_reverse.mp hc),
    List.reverse_reverse]

theorem atoi_toDigits {n : ℕ} (hn : n < 2 ^ 31) : atoi (Nat.toDigits 10 n) = n := by
  rcases Nat.eq_zero_or_pos n with rfl | hpos
  · decide
  · have hread := @readDigits_toDigits_self n
    obtain ⟨d, cs, hd, hd', hdigits⟩ := toDigits_eq_cons hpos
    have hatoi : atoi (d.digitChar :: cs) =
        (max (-2 ^ 63) (min ((readDigits 10 0 (d.digitChar :: cs)).1 : ℤ) (2 ^ 63 - 1))).bmod
          (2 ^ 32) := by
      interval_cases d <;> rfl
    rw [hdigits] at hread ⊢
    rw [hatoi, hread, min_eq_left (by omega), max_eq_right (by omega),
      Int.bmod_eq_of_le (by omega) (by omega)]

/-- **A printed index is read back.** The name before it must not be empty, as the source erases
as many characters as the position of the bracket says. -/
theorem getAndRemoveIndex_printed (hopen : '[' ∉ name.toList) (hclose : ']' ∉ name.toList)
    (hi : i < 2 ^ 31) :
    PropertyNode.getAndRemoveIndexFromPropertyName (name ++ "[" ++ toString i ++ "]") =
      ((i : ℤ), if name = "" then "]" else name) := by
  have hchars : (name ++ "[" ++ toString i ++ "]").toList =
      name.toList ++ '[' :: (Nat.toDigits 10 i ++ [']']) := by
    simp
  have hdigit : ∀ a ∈ Nat.toDigits 10 i, a.isDigit = true := fun a ha =>
    Nat.isDigit_of_mem_toDigits (by decide) (by decide) ha
  have hnot : ']' ∉ name.toList ++ '[' :: Nat.toDigits 10 i := by
    intro hmem
    rcases List.mem_append.mp hmem with hmem | hmem
    · exact hclose hmem
    · rcases List.mem_cons.mp hmem with heq | hmem
      · cases heq
      · cases hdigit _ hmem
  have hstop : (name.toList ++ '[' :: (Nat.toDigits 10 i ++ [']'])).findIdx? (· = ']') =
      some (name.toList.length + (Nat.toDigits 10 i).length + 1) := by
    have hsplit : name.toList ++ '[' :: (Nat.toDigits 10 i ++ [']']) =
        (name.toList ++ '[' :: Nat.toDigits 10 i) ++ ']' :: [] := by simp
    rw [hsplit, findIdx?_append_cons hnot, List.length_append, List.length_cons, Nat.add_assoc]
  have hindex : ((Nat.toDigits 10 i ++ [']']).take
      (name.toList.length + (Nat.toDigits 10 i).length + 1 - name.toList.length - 1)) =
        Nat.toDigits 10 i := by
    rw [show name.toList.length + (Nat.toDigits 10 i).length + 1 - name.toList.length - 1 =
      (Nat.toDigits 10 i).length by omega, List.take_left]
  have hlast : Nat.toDigits 10 i ≠ "last".toList := by
    intro heq
    cases hdigit 'l' (heq ▸ by decide)
  simp only [PropertyNode.getAndRemoveIndexFromPropertyName, hchars, takeWhile_append_cons hopen,
    dropWhile_append_cons hopen, hstop, if_neg (show ¬ name.toList.length +
      (Nat.toDigits 10 i).length + 1 < name.toList.length by omega), hindex, trim_toDigits,
    if_neg hlast, atoi_toDigits hi]
  by_cases hempty : name = ""
  · -- one character too few is erased
    subst hempty
    rw [show ("".toList ++ '[' :: (Nat.toDigits 10 i ++ [']'])) =
      ('[' :: Nat.toDigits 10 i) ++ [']'] by simp, List.drop_left' (by simp)]
    rfl
  · have hlength : 0 < name.toList.length := by
      exact Nat.pos_of_ne_zero fun hzero => hempty (String.length_eq_zero_iff.mp hzero)
    rw [if_neg hempty, List.drop_eq_nil_of_le (by simp; omega), List.append_nil,
      String.ofList_toList]

/-! ## Children by name and index -/

theorem Inv.getPropertyByName_eq_some_iff (hinv : Inv h)
    (hpart : PropertyNode.getAndRemoveIndexFromPropertyName part = ((i : ℤ), name)) :
    h.getPropertyByName y part = some c ↔
      c ∈ h.childNodes y ∧ h.nameOf c = name ∧ indexOf h c = i := by
  have hmatch : ∀ d ∈ h.childNodes y,
      ((h.nodes d).any fun n => n.name = name ∧ (n.index : ℤ) = (i : ℤ)) = true ↔
        h.nameOf d = name ∧ indexOf h d = i := by
    intro d hd
    obtain ⟨n, hn⟩ := Option.isSome_iff_exists.mp (hinv.pointers.child_live y d hd)
    simp [hn, nameOf, indexOf]
  simp only [getPropertyByName, hpart]
  rcases hfind : (h.childNodes y).find? fun c =>
    (h.nodes c).any fun n => n.name = name ∧ (n.index : ℤ) = (i : ℤ) with - | d
  · simp only [hfind, if_neg (show ¬ (i : ℤ) = -1 by omega)]
    refine iff_of_false (Option.some_ne_none c).symm ?_
    rintro ⟨hmem, hfits⟩
    exact List.find?_eq_none.mp hfind c hmem ((hmatch c hmem).mpr hfits)
  · have hmem := List.mem_of_find?_eq_some hfind
    have hpred := List.find?_some hfind
    obtain ⟨hname, hindex⟩ := (hmatch d hmem).mp hpred
    simp only [hfind]
    constructor
    · intro heq
      obtain rfl := Option.some.inj heq
      exact ⟨hmem, hname, hindex⟩
    · rintro ⟨hmem', hname', hindex'⟩
      rw [hinv.law.unique y c d hmem' hmem (hname'.trans hname.symm)
        (hindex'.trans hindex.symm)]

theorem Inv.getDisplayName_child (hinv : Inv h) (hc : h.parentNode c = some p) :
    (Single h c p ∧ h.getDisplayName c = some (h.nameOf c)) ∨
      (¬ Single h c p ∧
        h.getDisplayName c = some (h.nameOf c ++ "[" ++ toString (indexOf h c) ++ "]")) := by
  have hmem : c ∈ (h.childNodes p).filter fun d => h.nameOf d = h.nameOf c :=
    List.mem_filter.mpr ⟨hinv.law.mem_iff.mpr hc, decide_eq_true rfl⟩
  have hcount : ¬ 1 < ((h.childNodes p).filter fun d => h.nameOf d = h.nameOf c).length ↔
      Single h c p := by
    rw [not_lt]
    constructor
    · intro hle d hd hname
      obtain ⟨e, he⟩ := List.length_eq_one_iff.mp
        (le_antisymm hle (List.length_pos_of_mem hmem))
      have hd' : d ∈ (h.childNodes p).filter fun d => h.nameOf d = h.nameOf c :=
        List.mem_filter.mpr ⟨hinv.law.mem_iff.mpr hd, decide_eq_true hname⟩
      rw [he] at hmem hd'
      rw [List.mem_singleton.mp hd', List.mem_singleton.mp hmem]
    · intro hsingle
      have hall : ∀ d ∈ (h.childNodes p).filter fun d => h.nameOf d = h.nameOf c, d = c := by
        intro d hd
        obtain ⟨hd, hname⟩ := List.mem_filter.mp hd
        exact hsingle d (hinv.law.mem_iff.mp hd) (of_decide_eq_true hname)
      have hnodup := (hinv.law.mirrors.nodup (t := p)).filter fun d => h.nameOf d = h.nameOf c
      rw [List.eq_replicate_of_mem hall] at hnodup
      exact List.nodup_replicate.mp hnodup
  have hresolve := hinv.resolve_eq (hinv.parent_live hc)
  rw [getDisplayName, hc]
  dsimp only
  rw [count, hresolve, Option.map_some, Option.map_some]
  by_cases hsingle : Single h c p
  · exact Or.inl ⟨hsingle, by rw [if_neg (hcount.mpr hsingle)]⟩
  · exact Or.inr ⟨hsingle, by rw [if_pos (not_not.mp fun hnot => hsingle (hcount.mp hnot))]⟩

theorem Inv.fair_iff (hinv : Inv h) (htame : Tame h) (hc : h.parentNode c = some p)
    (hname : h.getDisplayName c = some name) :
    Fair h c p ↔ name ≠ "" ∧ h.getPropertyByName p name = some c := by
  have hmem := hinv.law.mem_iff.mpr hc
  obtain ⟨⟨-, hopen, hclose, -⟩, hsmall⟩ := htame c
    (hinv.pointers.lt_next c (hinv.pointers.child_live p c hmem))
    (by rw [hc]; exact Option.some_ne_none p)
  rcases hinv.getDisplayName_child hc with ⟨hsingle, hdisplay⟩ | ⟨hsingle, hdisplay⟩
  · obtain rfl := Option.some.inj (hdisplay.symm.trans hname)
    rw [hinv.getPropertyByName_eq_some_iff
      (PropertyNode.getAndRemoveIndex_of_not_mem hopen : _ = (((0 : ℕ) : ℤ), h.nameOf c))]
    constructor
    · intro hfair
      exact ⟨hfair.named, hmem, rfl, hfair.first hsingle⟩
    · rintro ⟨hne, -, -, hindex⟩
      exact ⟨hne, fun _ => hindex⟩
  · obtain rfl := Option.some.inj (hdisplay.symm.trans hname)
    rw [hinv.getPropertyByName_eq_some_iff (getAndRemoveIndex_printed hopen hclose hsmall)]
    constructor
    · intro hfair
      refine ⟨?_, hmem, by rw [if_neg hfair.named], rfl⟩
      intro hempty
      have hchars := congrArg String.toList hempty
      simp at hchars
    · rintro ⟨-, -, hread, -⟩
      refine ⟨?_, fun h => absurd h hsingle⟩
      intro hempty
      rw [hempty] at hread
      exact absurd hread (by decide)

/-! ## Paths -/

theorem DisplayPath.unique {root' : ℕ} {names' : List String} (hpath : DisplayPath h root x names)
    (hpath' : DisplayPath h root' x names') : root = root' ∧ names = names' := by
  induction hpath generalizing names' with
  | root hroot =>
    cases hpath' with
    | root => exact ⟨rfl, rfl⟩
    | child hparent => cases hroot.symm.trans hparent
  | child hparent hname _ ih =>
    cases hpath' with
    | root hroot => cases hroot.symm.trans hparent
    | child hparent' hname' hpath' =>
      obtain rfl := Option.some.inj (hparent.symm.trans hparent')
      obtain rfl := Option.some.inj (hname.symm.trans hname')
      obtain ⟨rfl, rfl⟩ := ih hpath'
      exact ⟨rfl, rfl⟩

theorem Inv.exists_displayPath (hinv : Inv h) (hx : h.isLive x = true) :
    ∃ root names, DisplayPath h root x names := by
  obtain ⟨root, hroot⟩ := hinv.law.acyclic.exists_last
    (s := (Finset.range h.next).filter fun z => h.isLive z = true)
    (fun a b _ hab => Finset.mem_filter.mpr ⟨Finset.mem_range.mpr
      (hinv.pointers.lt_next b (hinv.parent_live hab)), hinv.parent_live hab⟩)
    (Finset.mem_filter.mpr ⟨Finset.mem_range.mpr (hinv.pointers.lt_next x hx), hx⟩)
    (k := h.next) ((Finset.card_filter_le _ _).trans_eq (Finset.card_range _))
  generalize h.next = k at hroot
  induction k generalizing x with
  | zero => cases hroot
  | succ k ih =>
    rcases hparent : h.parentNode x with - | p
    · exact ⟨x, [], DisplayPath.root hparent⟩
    · rw [last, hparent] at hroot
      obtain ⟨root', names, hpath⟩ := ih (hinv.parent_live hparent) hroot
      rcases hinv.getDisplayName_child hparent with ⟨-, hname⟩ | ⟨-, hname⟩
      · exact ⟨root', _, DisplayPath.child hparent hname hpath⟩
      · exact ⟨root', _, DisplayPath.child hparent hname hpath⟩

theorem Inv.getParts_cons (hinv : Inv h) (hx : h.isLive x = true) (hpart : part ≠ "") :
    h.getParts x (part :: parts) = match h.getPropertyByName x part with
      | none => some none
      | some c => h.getParts c parts := by
  have hself : PropertyNode.isSelf (part :: parts) ≠ true := by
    simp [PropertyNode.isSelf, hpart]
  rw [PropertyHeap.getParts, hinv.resolve_eq hx, Option.bind_some, if_neg hself]
  rcases hfound : h.getPropertyByName x part with - | c
  · rfl
  · have hresolve := hinv.resolve_eq (live_of_getPropertyByName hinv.pointers hfound)
    dsimp only
    split_ifs with hend
    · rcases hend with rfl | rfl
      · rw [PropertyHeap.getParts, hresolve, Option.map_some]
      · rw [PropertyHeap.getParts, hresolve, Option.bind_some, if_pos (by decide)]
    · rfl

/-- The names of a path are looked up one by one, down to the node. -/
structure Walks (h : PropertyHeap) (root x : ℕ) (names : List String) : Prop where
  parts : ∀ name ∈ names, name ≠ "" ∧ '/' ∉ name.toList
  /-- what follows is looked up in the node -/
  walk : ∀ rest, h.getParts root (names ++ rest) = h.getParts x rest

theorem walks_root : Walks h root root [] :=
  ⟨fun name hname => by simp at hname, fun rest => rfl⟩

theorem slash_not_mem_printed (hslash : '/' ∉ name.toList) :
    '/' ∉ (name ++ "[" ++ toString i ++ "]").toList := by
  rw [Nat.toString_eq_ofList_toDigits]
  simp only [String.toList_append, String.toList_ofList, List.mem_append, not_or]
  refine ⟨⟨⟨hslash, by decide⟩, fun hmem => ?_⟩, by decide⟩
  exact absurd (Nat.isDigit_of_mem_toDigits (by decide) (by decide) hmem) (by decide)

theorem Inv.slash_not_mem (hinv : Inv h) (htame : Tame h) (hc : h.parentNode c = some p)
    (hname : h.getDisplayName c = some name) : '/' ∉ name.toList := by
  have hlive := hinv.pointers.child_live p c (hinv.law.mem_iff.mpr hc)
  obtain ⟨⟨hslash, -⟩, -⟩ := htame c (hinv.pointers.lt_next c hlive)
    (by rw [hc]; exact Option.some_ne_none p)
  rcases hinv.getDisplayName_child hc with ⟨-, hdisplay⟩ | ⟨-, hdisplay⟩
  · rw [← Option.some.inj (hdisplay.symm.trans hname)]
    exact hslash
  · rw [← Option.some.inj (hdisplay.symm.trans hname)]
    exact slash_not_mem_printed hslash

theorem Walks.child (hinv : Inv h) (htame : Tame h) (hwalks : Walks h root p names)
    (hc : h.parentNode c = some p) (hname : h.getDisplayName c = some name)
    (hfair : Fair h c p) : Walks h root c (names ++ [name]) := by
  obtain ⟨hne, hfound⟩ := (hinv.fair_iff htame hc hname).mp hfair
  refine ⟨fun other hmem => ?_, fun rest => ?_⟩
  · rcases List.mem_append.mp hmem with hmem | hmem
    · exact hwalks.parts other hmem
    · rw [List.mem_singleton.mp hmem]
      exact ⟨hne, hinv.slash_not_mem htame hc hname⟩
  · rw [List.append_assoc, hwalks.walk, List.singleton_append,
      hinv.getParts_cons (hinv.parent_live hc) hne, hfound]

theorem splitPath_intercalate (hne : names ≠ []) (hslash : ∀ name ∈ names, '/' ∉ name.toList) :
    PropertyNode.splitPath ("/".intercalate names) = names := by
  rw [PropertyNode.splitPath, String.toList_intercalate]
  rw [show "/".toList = ['/'] from rfl, List.splitOn_intercalate, List.map_map]
  · rw [show String.ofList ∘ String.toList = id from funext fun s => String.ofList_toList,
      List.map_id]
  · intro l hl
    obtain ⟨name, hname, rfl⟩ := List.mem_map.mp hl
    exact hslash name hname
  · exact fun hnil => hne (List.map_eq_nil_iff.mp hnil)

theorem Walks.getProperty (hinv : Inv h) (hx : h.isLive x = true) (hwalks : Walks h root x names) :
    h.getProperty root ("/".intercalate names) = some (some x) := by
  have hend : h.getParts root names = h.getParts x [] := by
    have hwalk := hwalks.walk []
    rwa [List.append_nil] at hwalk
  rw [PropertyHeap.getProperty]
  rcases hnames : names with - | ⟨name, rest⟩
  · have hwalk := hwalks.walk [""]
    rw [hnames] at hwalk
    refine hwalk.trans ?_
    rw [PropertyHeap.getParts, hinv.resolve_eq hx, Option.bind_some, if_pos (by decide)]
  · rw [← hnames, splitPath_intercalate (by rw [hnames]; exact List.cons_ne_nil _ _)
      (fun name hname => (hwalks.parts name hname).2), hend, PropertyHeap.getParts,
      hinv.resolve_eq hx, Option.map_some]

theorem Walks.fair (hinv : Inv h) (htame : Tame h) (hwalks : Walks h root p names)
    (hc : h.parentNode c = some p) (hname : h.getDisplayName c = some name)
    (hget : h.getProperty root ("/".intercalate (names ++ [name])) = some (some c)) :
    Fair h c p := by
  have hp := hinv.parent_live hc
  have hne : p ≠ c := by
    rintro rfl
    exact hinv.law.acyclic p 1 Nat.one_pos (follow_succ_of_eq hc)
  have hslash : ∀ other ∈ names ++ [name], '/' ∉ other.toList := by
    intro other hmem
    rcases List.mem_append.mp hmem with hmem | hmem
    · exact (hwalks.parts other hmem).2
    · rw [List.mem_singleton.mp hmem]
      exact hinv.slash_not_mem htame hc hname
  rw [PropertyHeap.getProperty, splitPath_intercalate (by simp) hslash, hwalks.walk] at hget
  rw [hinv.fair_iff htame hc hname]
  by_cases hempty : name = ""
  · -- the rest of the path is empty, so the parent is found
    rw [hempty, PropertyHeap.getParts, hinv.resolve_eq hp] at hget
    exact absurd (Option.some.inj (Option.some.inj hget)) hne
  · rw [hinv.getParts_cons hp hempty] at hget
    refine ⟨hempty, ?_⟩
    rcases hfound : h.getPropertyByName p name with - | d
    · rw [hfound] at hget
      cases hget
    · rw [hfound] at hget
      dsimp only at hget
      rw [PropertyHeap.getParts, hinv.resolve_eq
        (live_of_getPropertyByName hinv.pointers hfound)] at hget
      exact Option.some.inj hget

/-- **When every node is found.** Exactly if every child has a name, and the index 0 if it has no
namesake. -/
theorem Inv.addressable_iff (hinv : Inv h) (htame : Tame h) :
    Addressable h ↔ ∀ c p, h.parentNode c = some p → Fair h c p := by
  constructor
  · intro haddressable
    have hwalks : ∀ {root x names}, DisplayPath h root x names → Walks h root x names ∧
        ∀ p, h.parentNode x = some p → Fair h x p := by
      intro root x names hpath
      induction hpath with
      | root hroot => exact ⟨walks_root, fun p hp => by cases hroot.symm.trans hp⟩
      | @child c p names name hparent hname hpath ih =>
        have hlive := hinv.pointers.child_live p c (hinv.law.mem_iff.mpr hparent)
        obtain ⟨root', names', hpath', hget⟩ := haddressable c hlive
        obtain ⟨rfl, rfl⟩ := (DisplayPath.child hparent hname hpath).unique hpath'
        have hfair := ih.1.fair hinv htame hparent hname hget
        refine ⟨ih.1.child hinv htame hparent hname hfair, fun q hq => ?_⟩
        rw [← Option.some.inj (hparent.symm.trans hq)]
        exact hfair
    intro c p hc
    have hlive := hinv.pointers.child_live p c (hinv.law.mem_iff.mpr hc)
    obtain ⟨root, names, hpath⟩ := hinv.exists_displayPath hlive
    exact (hwalks hpath).2 p hc
  · intro hfair x hx
    obtain ⟨root, names, hpath⟩ := hinv.exists_displayPath hx
    have hwalks : Walks h root x names := by
      clear hx
      induction hpath with
      | root hroot => exact walks_root
      | child hparent hname _ ih => exact ih.child hinv htame hparent hname (hfair _ _ hparent)
    exact ⟨root, names, hpath, hwalks.getProperty hinv hx⟩

/-! ## What a step does to the indices -/

/-- Every child without namesake has the index 0. -/
def Firsts (h : PropertyHeap) : Prop :=
  ∀ c p, h.parentNode c = some p → Single h c p → indexOf h c = 0

/-- **A child that goes elsewhere.** Where it comes to, it is the first of its name, or not
single. -/
theorem firsts_move_iff {value : Option ℕ} (hfirsts : Firsts h)
    (hparent : h'.parentNode = Function.update h.parentNode c value)
    (hname : h'.nameOf = h.nameOf) (hindex : ∀ d, d ≠ c → indexOf h' d = indexOf h d)
    (hself : ∀ x, value = some x → Single h' c x → indexOf h' c = 0) :
    Firsts h' ↔ ∀ p, h.parentNode c = some p → value ≠ some p → LeavesFirst h c p := by
  have hother : ∀ d, d ≠ c → h'.parentNode d = h.parentNode d := fun d hd => by
    rw [hparent, Function.update_of_ne hd]
  have hmoved : h'.parentNode c = value := by rw [hparent, Function.update_self]
  constructor
  · intro hfirsts' p hc hvalue d hd hnamed hne hlast
    rw [← hindex d hne]
    refine hfirsts' d p ((hother d hne).trans hd) fun e he hname' => ?_
    rw [hname] at hname'
    have hec : e ≠ c := by
      rintro rfl
      exact hvalue (hmoved.symm.trans he)
    exact hlast e ((hother e hec).symm.trans he) (hname'.trans hnamed) hec
  · intro hleaves d p hd hsingle
    by_cases hdc : d = c
    · subst hdc
      exact hself p (hmoved.symm.trans hd) hsingle
    · have hd' : h.parentNode d = some p := (hother d hdc).symm.trans hd
      rw [hindex d hdc]
      -- the other namesakes are as before, and the child itself is one if it was there
      have hrest : ∀ e, h.parentNode e = some p → h.nameOf e = h.nameOf d → e ≠ c → e = d :=
        fun e he hnamed hec => hsingle e ((hother e hec).trans he) (by rw [hname]; exact hnamed)
      by_cases hthere : h.parentNode c = some p ∧ h.nameOf c = h.nameOf d
      · obtain ⟨hc, hnamed⟩ := hthere
        have hvalue : value ≠ some p := by
          intro heq
          exact hdc (hsingle c (hmoved.trans heq) (by rw [hname]; exact hnamed)).symm
        exact hleaves p hc hvalue d hd' hnamed.symm hdc fun e he hnamed' hec =>
          hrest e he (hnamed'.trans hnamed) hec
      · refine hfirsts d p hd' fun e he hnamed => ?_
        by_cases hec : e = c
        · exact absurd ⟨hec ▸ he, hec ▸ hnamed⟩ hthere
        · exact hrest e he hnamed hec

theorem Inv.nextIndex_eq_zero (hinv : Inv h)
    (hnone : ∀ d, h.parentNode d = some y → h.nameOf d ≠ name) : h.nextIndex y name = 0 := by
  have hfold : ∀ nodes : List HeapNode, (∀ n ∈ nodes, n.name ≠ name) →
      nodes.foldl (fun i n => if n.name = name then max (n.index + 1) i else i) 0 = 0 := by
    intro nodes
    induction nodes with
    | nil => exact fun _ => rfl
    | cons n nodes ih =>
      intro hnodes
      rw [List.foldl_cons, if_neg (hnodes n List.mem_cons_self)]
      exact ih fun m hm => hnodes m (List.mem_cons_of_mem _ hm)
  refine hfold _ fun n hn => ?_
  obtain ⟨d, hd, hnode⟩ := List.mem_filterMap.mp hn
  have hne := hnone d (hinv.law.mem_iff.mp hd)
  rwa [nameOf, hnode] at hne

theorem Inv.firsts_attach_iff (hinv : Inv h) (hfirsts : Firsts h) (hc : h.isLive c = true) :
    Firsts ((PropertyForest.detach h c).appendChild x c) ↔
      ∀ p, h.parentNode c = some p → p ≠ x → LeavesFirst h c p := by
  obtain ⟨hinv', hsame, hparent⟩ := hinv.detach hc
  have hname : (PropertyForest.detach h c).nameOf = h.nameOf := by
    rw [PropertyForest.detach]
    rcases h.parentNode c with - | p
    · rfl
    · exact nameOf_eraseChild _
  have hindex : indexOf (PropertyForest.detach h c) = indexOf h := by
    rw [PropertyForest.detach]
    rcases h.parentNode c with - | p
    · rfl
    · exact indexOf_eraseChild _
  have hc' : (PropertyForest.detach h c).isLive c = true := by rw [hsame.live, hc]
  have hparent' : ((PropertyForest.detach h c).appendChild x c).parentNode =
      Function.update h.parentNode c (some x) := by
    rw [parentNode_appendChild hc', hparent, Function.update_idem]
  rw [firsts_move_iff hfirsts hparent' (nameOf_appendChild.trans hname)
    (fun d hd => by rw [indexOf_appendChild_of_ne hd, hindex])]
  · simp only [ne_eq, Option.some.injEq, eq_comm]
  · intro y hy hsingle
    obtain rfl := Option.some.inj hy
    rw [indexOf_appendChild_self hc']
    refine hinv'.nextIndex_eq_zero fun d hd hnamed => ?_
    -- another child of the name would be a namesake
    have hdc : d ≠ c := by
      rintro rfl
      rw [hparent, Function.update_self] at hd
      cases hd
    refine hdc (hsingle d ?_ (by rw [nameOf_appendChild, hnamed]))
    rw [hparent', Function.update_of_ne hdc]
    rwa [hparent, Function.update_of_ne hdc] at hd

theorem firsts_eraseChild_iff (hfirsts : Firsts h) (hc : h.isLive c = true)
    (hfits : ∀ p, h.parentNode c = some p → p = y) :
    Firsts (h.eraseChild y c (h.childNodes y)) ↔
      (h.parentNode c = some y → LeavesFirst h c y) := by
  rw [firsts_move_iff hfirsts (parentNode_eraseChild hc _) (nameOf_eraseChild _)
    (fun d _ => by rw [indexOf_eraseChild]) (fun x hx => by cases hx)]
  constructor
  · exact fun hleaves hy => hleaves y hy (Option.some_ne_none y).symm
  · intro hleaves p hp _
    obtain rfl := hfits p hp
    exact hleaves hp

theorem Inv.firsts_makeNode (hinv : Inv h) (hfirsts : Firsts h) (name : String) :
    Firsts (h.makeNode name) := by
  have hparent := parentNode_makeNode hinv.pointers.fresh name
  have hnode : ∀ c p, h.parentNode c = some p → (h.makeNode name).nodes c = h.nodes c := by
    intro c p hc
    have hlive := hinv.pointers.child_live p c (hinv.law.mem_iff.mpr hc)
    exact Function.update_of_ne (hinv.pointers.lt_next c hlive).ne _ _
  intro c p hc hsingle
  rw [hparent] at hc
  rw [indexOf, hnode c p hc]
  refine hfirsts c p hc fun d hd hnamed => hsingle d (by rw [hparent, hd]) ?_
  rw [nameOf, nameOf, hnode c p hc, hnode d p hd]
  exact hnamed

theorem Inv.firsts_makeChild (hinv : Inv h) (hfirsts : Firsts h) (hy : h.isLive y = true)
    (hadd : (h.makeNode name).addChild y h.next = some (h', none)) : Firsts h' := by
  obtain ⟨hinv', hnew, hlive, -⟩ := hinv.makeNode name
  rw [hinv'.addChild_eq (hlive y hy), if_neg (hinv.pointers.lt_next y hy).ne'] at hadd
  obtain rfl := congrArg Prod.fst (Option.some.inj hadd)
  refine (hinv'.firsts_attach_iff (hinv.firsts_makeNode hfirsts name) hnew).mpr fun p hp => ?_
  rw [parentNode_makeNode hinv.pointers.fresh, parentNode_of_not_live hinv.pointers.fresh] at hp
  cases hp

theorem Inv.firsts_destroy (hinv : Inv h) (hfirsts : Firsts h)
    (howned : ∀ p, x ∉ h.childNodes p) (hdestroy : h.destroy x = some h') : Firsts h' := by
  obtain ⟨h₁, heq, -, hparent, hsame⟩ := hinv.destroy howned
  obtain rfl := Option.some.inj (hdestroy.symm.trans heq)
  have hchild : ∀ c p, h.parentNode c = some p → c ≠ x := by
    rintro c p hc rfl
    exact howned p (hinv.law.mem_iff.mpr hc)
  intro c p hc hsingle
  rw [hparent] at hc
  split_ifs at hc with hcx
  have hpx : p ≠ x := fun heq => hcx (heq ▸ hc)
  rw [(hsame c (hchild c p hc)).2]
  refine hfirsts c p hc fun d hd hnamed => hsingle d ?_ ?_
  · rw [hparent, hd, if_neg fun heq => hpx (Option.some.inj heq)]
  · rw [(hsame d (hchild d p hd)).1, (hsame c (hchild c p hc)).1, hnamed]

theorem Inv.firsts_perform_iff (hinv : Inv h) (hfirsts : Firsts h)
    (hgiven : ∀ x ∈ op.given, h.isLive x = true) (hfits : Fits (some h) op)
    (hperform : PropertyForest.perform h op = some h') : Firsts h' ↔ Leaves (some h) op := by
  cases op with
  | makeNode name =>
    obtain rfl := Option.some.inj hperform
    exact iff_of_true (hinv.firsts_makeNode hfirsts _) trivial
  | createProperty x path =>
    refine iff_of_true ?_ trivial
    obtain ⟨h₁, result, hcreate, -, hfirsts'⟩ := hinv.createParts (P := Firsts)
      (fun h y name h' hinv hfirsts hy hadd => hinv.firsts_makeChild hfirsts hy hadd) hfirsts
      (PropertyNode.splitPath path) (hgiven x (List.mem_singleton_self x))
    rw [PropertyForest.perform, createProperty, hcreate] at hperform
    obtain rfl := Option.some.inj hperform
    exact hfirsts'
  | addChild x c =>
    have hx := hgiven x List.mem_cons_self
    have hc := hgiven c (List.mem_cons_of_mem x (List.mem_singleton_self c))
    rw [PropertyForest.perform, hinv.addChild_eq hx] at hperform
    split_ifs at hperform with hself
    · obtain rfl := Option.some.inj hperform
      refine iff_of_true hfirsts ?_
      exact fun h₁ _ _ hne => absurd hself hne
    · obtain rfl := Option.some.inj hperform
      rw [hinv.firsts_attach_iff hfirsts hc]
      constructor
      · intro hleaves h₁ heq _ _
        obtain rfl := Option.some.inj heq
        exact hleaves
      · exact fun hleaves => hleaves h rfl hx hself
  | removeChild x c =>
    have hx := hgiven x List.mem_cons_self
    have hc := hgiven c (List.mem_cons_of_mem x (List.mem_singleton_self c))
    rw [PropertyForest.perform, hinv.removeChild_eq hx] at hperform
    split_ifs at hperform with hlist
    · obtain rfl := Option.some.inj hperform
      refine iff_of_true hfirsts ?_
      intro h₁ heq hparent
      obtain rfl := Option.some.inj heq
      have hmem := hinv.law.mem_iff.mpr hparent
      rw [childNodes, hlist] at hmem
      cases hmem
    · obtain rfl := Option.some.inj hperform
      rw [firsts_eraseChild_iff hfirsts hc (hfits h rfl hx hc hlist)]
      constructor
      · intro hleaves h₁ heq
        obtain rfl := Option.some.inj heq
        exact hleaves
      · exact fun hleaves => hleaves h rfl
  | destroy x =>
    refine iff_of_true ?_ trivial
    rw [PropertyForest.perform] at hperform
    rcases howned : h.isOwned x with - | -
    · rw [howned] at hperform
      exact hinv.firsts_destroy hfirsts (not_owned hinv.pointers howned) hperform
    · rw [howned] at hperform
      obtain rfl := Option.some.inj hperform
      exact hfirsts

theorem Inv.leaves_of_not_live (hinv : Inv h) (hgiven : ¬ op.given.all h.isLive = true) :
    Leaves (some h) op := by
  cases op with
  | addChild x c =>
    intro h₁ heq hx _ p hparent
    obtain rfl := Option.some.inj heq
    have hc := hinv.pointers.child_live p c (hinv.law.mem_iff.mpr hparent)
    exact absurd (by simp [TreeOperation.given, hx, hc]) hgiven
  | removeChild x c =>
    intro h₁ heq hparent
    obtain rfl := Option.some.inj heq
    have hx := hinv.parent_live hparent
    have hc := hinv.pointers.child_live x c (hinv.law.mem_iff.mpr hparent)
    exact absurd (by simp [TreeOperation.given, hx, hc]) hgiven
  | _ => trivial

/-! ## Every run -/

/-- The invariant of the runs in which every node is found. -/
def Orderly (s : Option PropertyHeap) : Prop :=
  ∃ h, s = some h ∧ Inv h ∧ Tame h ∧ ∀ c p, h.parentNode c = some p → Fair h c p

theorem firsts_of_fair (hfair : ∀ c p, h.parentNode c = some p → Fair h c p) : Firsts h :=
  fun c p hc hsingle => (hfair c p hc).first hsingle

theorem Orderly.step {s : Option PropertyHeap} (hs : Orderly s) (hdomain : Domain s op) :
    ∃ h', step s op = some h' ∧ Inv h' ∧ Tame h' ∧ (Firsts h' ↔ Leaves s op) := by
  obtain ⟨h, rfl, hinv, htame, hfair⟩ := hs
  have hfirsts := firsts_of_fair hfair
  obtain ⟨h', hstep, hinv'⟩ := Sound.step ⟨h, rfl, hinv⟩ hdomain.1
  refine ⟨h', hstep, hinv', hdomain.2 h' hstep, ?_⟩
  rw [PropertyForest.step, Option.bind_some] at hstep
  split_ifs at hstep with hgiven
  · exact hinv.firsts_perform_iff hfirsts (List.all_eq_true.mp hgiven) hdomain.1 hstep
  · obtain rfl := Option.some.inj hstep
    exact iff_of_true hfirsts (hinv.leaves_of_not_live hgiven)

/-- **When every node is found.** In every run that keeps the structure of the trees, and in which
names are plain and indices fit, every node is found by its display names in every state if and
only if each child has a name, and none is left behind single with an index other than 0. -/
theorem addressed_iff (ops : List TreeOperation) (hdomain : Meets step Domain (some start) ops) :
    Always step Addressed (some start) ops ↔ Meets step AddressFits (some start) ops := by
  have hstart : Orderly (some start) := by
    refine ⟨start, rfl, inv_start, ?_, ?_⟩
    · exact fun c _ hc => absurd (parentNode_start c) hc
    · exact fun c p hc => by cases (parentNode_start c).symm.trans hc
  refine always_iff_meets_within ?_ ?_ ?_ hstart hdomain
  · rintro s ⟨h, rfl, hinv, htame, hfair⟩
    exact ⟨h, rfl, (hinv.addressable_iff htame).mpr hfair⟩
  · intro s op hs hdomain hfits
    obtain ⟨h', hstep, hinv', htame', hleaves⟩ := hs.step hdomain
    refine ⟨h', hstep, hinv', htame', fun c p hc => ?_⟩
    exact ⟨hfits.1 h' hstep c p hc, hleaves.mpr hfits.2 c p hc⟩
  · rintro s op hs hdomain hfits ⟨h₁, heq, haddressable⟩
    obtain ⟨h', hstep, hinv', htame', hleaves⟩ := hs.step hdomain
    obtain rfl := Option.some.inj (hstep.symm.trans heq)
    have hfair := (hinv'.addressable_iff htame').mp haddressable
    refine hfits ⟨fun h₂ heq' c p hc => ?_, hleaves.mp (firsts_of_fair hfair)⟩
    obtain rfl := Option.some.inj (hstep.symm.trans heq')
    exact (hfair c p hc).named

/-- Two children of one name, of which one is taken out. -/
theorem domain_namesakes {c : ℕ} (hc : c = 1 ∨ c = 2) : Meets step Domain (some start)
    [.createProperty 0 "a", .createProperty 0 "a[1]", .removeChild 0 c] := by
  have hfirst : ∀ h ∈ step (some start) (.createProperty 0 "a"), Tame h := by decide
  have hsecond : ∀ h ∈ step (step (some start) (.createProperty 0 "a"))
      (.createProperty 0 "a[1]"), Tame h := by decide
  have hthird : ∀ h ∈ step (step (step (some start) (.createProperty 0 "a"))
      (.createProperty 0 "a[1]")) (.removeChild 0 c), Tame h := by
    rcases hc with rfl | rfl
    · decide
    · decide
  have hfits : ∀ h ∈ step (step (some start) (.createProperty 0 "a")) (.createProperty 0 "a[1]"),
      h.isLive 0 = true → h.isLive c = true → (h.nodes 0).bind HeapNode.children ≠ none →
        ∀ p ∈ h.parentNode c, p = 0 := by
    rcases hc with rfl | rfl
    · decide
    · decide
  exact ⟨⟨trivial, hfirst⟩, ⟨trivial, hsecond⟩, ⟨hfits, hthird⟩, trivial⟩

/-- The second of two children is taken out. -/
theorem addressed_namesakes :
    Always step Addressed (some start) [.createProperty 0 "a", .createProperty 0 "a[1]",
        .removeChild 0 2] ↔
      Meets step AddressFits (some start) [.createProperty 0 "a", .createProperty 0 "a[1]",
        .removeChild 0 2] :=
  addressed_iff _ (domain_namesakes (.inr rfl))

/-- The second child of a name is not found any more once the first one is taken out. -/
theorem addressed_fails : ¬ ∀ ops : List TreeOperation, Meets step Domain (some start) ops →
    Always step Addressed (some start) ops := by
  intro h
  obtain ⟨-, -, -, h', heq, haddressable⟩ := h _ (domain_namesakes (.inl rfl))
  have hstate : ∀ h ∈ step (step (step (some start) (.createProperty 0 "a"))
      (.createProperty 0 "a[1]")) (.removeChild 0 1), h.isLive 2 = true ∧
        h.parentNode 2 = some 0 ∧ h.getDisplayName 2 = some "a" ∧ h.parentNode 0 = none ∧
          h.getProperty 0 "a" = some none := by decide
  obtain ⟨hlive, hparent, hname, hroot, hget⟩ := hstate h' heq
  obtain ⟨root, names, hpath, hfound⟩ := haddressable 2 hlive
  obtain ⟨rfl, rfl⟩ := (DisplayPath.child hparent hname (DisplayPath.root hroot)).unique hpath
  rw [List.nil_append, String.intercalate_singleton, hget] at hfound
  cases hfound

end PropertyForest

end Dss
