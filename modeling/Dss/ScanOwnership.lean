import Mathlib.Data.List.TakeWhile
import Dss.BusScanner

/-!
# Who owns the configuration after a scan

The first meter that reports an application group is meant to own its configuration, and the first
that reports a cluster with an application type that of the cluster; everything that differs is to
be flagged for being written back. The flag `readFromDsm` is not set when the report equals what is
stored, so another meter can still take over, unflagged; and a cluster takes its first report even
if that has no application type. `OwnerFits` says exactly when the law holds all the same.
-/

namespace Dss

open List

/-! ## Application groups of the apartment -/

/-- The law for an application group, stored as `g` after the scan. -/
structure GlobalAppLaw (g : Group) (reported : List GroupSpec) : Prop where
  owner : ∀ spec ∈ reported.head?, g.isConfigEqual spec = true
  flagged : ∀ spec ∈ reported, g.isConfigEqual spec = false → g.syncPending = true

/-- When the law holds for a stored group: all reports equal it; or the first does
not, and the group can take its type; or the first does, and the first that does not
differs only in a type the group refuses, and is not the last to differ. -/
def Group.OwnerFits (g : Group) (reported : List GroupSpec) : Prop :=
  match reported.takeWhile g.isConfigEqual, reported.dropWhile g.isConfigEqual with
  | _, [] => True
  | [], first :: _ => some (g.takenType first.applicationType) = first.applicationType
  | _ :: _, other :: later =>
    (other.name = g.name ∧ g.takenType other.applicationType = g.applicationType ∧
      other.applicationConfiguration = g.applicationConfiguration) ∧
    ∃ spec ∈ later, g.isConfigEqual spec = false

namespace Group

variable {g : Group} {spec : GroupSpec} {reported : List GroupSpec}

theorem meetGlobalApp_of_equal (h : g.isConfigEqual spec = true) :
    g.meetGlobalApp spec = g.seen := by
  simp only [meetGlobalApp, h, Bool.not_true, Bool.false_eq_true, if_false]

theorem meetGlobalApp_of_differs (h : g.isConfigEqual spec = false)
    (hr : g.readFromDsm = false) :
    g.meetGlobalApp spec = ({ g.setFromSpec spec with readFromDsm := true } : Group).seen := by
  simp only [meetGlobalApp, h, hr, Bool.not_false, if_true]

theorem meetGlobalApp_of_owned (h : g.isConfigEqual spec = false)
    (hr : g.readFromDsm = true) :
    g.meetGlobalApp spec = ({ g with syncPending := true } : Group).seen := by
  simp only [meetGlobalApp, h, hr, Bool.not_false, Bool.not_true, if_true,
    Bool.false_eq_true, if_false]

theorem foldl_meetGlobalApp_of_equal :
    ∀ {reported : List GroupSpec} {g : Group},
      (∀ spec ∈ reported, g.isConfigEqual spec = true) →
      reported.foldl meetGlobalApp g = g ∨ reported.foldl meetGlobalApp g = g.seen := by
  intro reported
  induction reported with
  | nil => exact fun _ => .inl rfl
  | cons spec rest ih =>
    intro g h
    rw [foldl_cons, meetGlobalApp_of_equal (h spec (mem_cons_self ..))]
    right
    rcases ih (g := g.seen) fun s hs => h s (mem_cons_of_mem _ hs) with hg | hg
    · exact hg
    · exact hg

/-- An owned group keeps its configuration, and is flagged by the reports that
differ. -/
theorem foldl_meetGlobalApp_of_owned :
    ∀ {reported : List GroupSpec} {g : Group}, g.readFromDsm = true →
      SameConfig (reported.foldl meetGlobalApp g) g ∧
        ((reported.foldl meetGlobalApp g).syncPending = true ↔
          g.syncPending = true ∨ ∃ spec ∈ reported, g.isConfigEqual spec = false) := by
  intro reported
  induction reported with
  | nil =>
    intro g _
    exact ⟨⟨rfl, rfl, rfl⟩, by simp⟩
  | cons spec rest ih =>
    intro g hr
    rw [foldl_cons]
    cases he : g.isConfigEqual spec with
    | true =>
      rw [meetGlobalApp_of_equal he]
      obtain ⟨hsame, hflag⟩ := ih (g := g.seen) hr
      refine ⟨hsame, hflag.trans (or_congr Iff.rfl ?_)⟩
      simp only [mem_cons, exists_eq_or_imp, he, Bool.true_eq_false, false_or]
      rfl
    | false =>
      rw [meetGlobalApp_of_owned he hr]
      obtain ⟨hsame, hflag⟩ := ih (g := ({ g with syncPending := true } : Group).seen) hr
      refine ⟨hsame, hflag.trans ?_⟩
      simp only [mem_cons, exists_eq_or_imp, he, true_or, or_true, iff_true]
      exact .inl rfl

theorem foldl_meetGlobalApp_split {pre : List GroupSpec} {other : GroupSpec}
    (hr : g.readFromDsm = false) (hs : g.syncPending = false)
    (hpre : ∀ spec ∈ pre, g.isConfigEqual spec = true)
    (hother : g.isConfigEqual other = false) (later : List GroupSpec) :
    SameConfig ((pre ++ other :: later).foldl meetGlobalApp g) (g.setFromSpec other) ∧
      (((pre ++ other :: later).foldl meetGlobalApp g).syncPending = true ↔
        ∃ spec ∈ later, (g.setFromSpec other).isConfigEqual spec = false) := by
  have hmeet : (pre.foldl meetGlobalApp g).meetGlobalApp other =
      ({ g.setFromSpec other with readFromDsm := true } : Group).seen := by
    rcases foldl_meetGlobalApp_of_equal hpre with h | h
    · rw [h, meetGlobalApp_of_differs hother hr]
    · have hseen : g.seen.isConfigEqual other = false := hother
      rw [h, meetGlobalApp_of_differs hseen hr, setFromSpec_eq, setFromSpec_eq]
      rfl
  have hpending : (g.setFromSpec other).syncPending = false := by
    rw [setFromSpec_eq]
    exact hs
  rw [foldl_append, foldl_cons, hmeet]
  obtain ⟨hsame, hflag⟩ := foldl_meetGlobalApp_of_owned
    (g := ({ g.setFromSpec other with readFromDsm := true } : Group).seen) rfl
  refine ⟨hsame, hflag.trans ?_⟩
  constructor
  · rintro (h | h)
    · exact absurd (hpending.symm.trans h) Bool.false_ne_true
    · exact h
  · exact .inr

/-- **Application groups.** The law holds after the reports exactly if `OwnerFits`
does before them. -/
theorem globalAppLaw_iff (hr : g.readFromDsm = false) (hs : g.syncPending = false) :
    GlobalAppLaw (reported.foldl meetGlobalApp g) reported ↔ g.OwnerFits reported := by
  have hsplit := takeWhile_append_dropWhile (p := g.isConfigEqual) (l := reported)
  have hpre : ∀ spec ∈ reported.takeWhile g.isConfigEqual, g.isConfigEqual spec = true :=
    fun spec hspec => mem_takeWhile_imp hspec
  rw [OwnerFits]
  rcases hd : reported.dropWhile g.isConfigEqual with - | ⟨other, later⟩
  · -- all reports are equal to the stored configuration
    rw [hd, append_nil] at hsplit
    rw [hsplit] at hpre
    have hall : ∀ spec ∈ reported,
        (reported.foldl meetGlobalApp g).isConfigEqual spec = true := by
      intro spec hspec
      rcases foldl_meetGlobalApp_of_equal hpre with h | h <;>
      · rw [h]
        exact hpre spec hspec
    have hlaw : GlobalAppLaw (reported.foldl meetGlobalApp g) reported :=
      ⟨fun spec hspec => hall spec (mem_of_mem_head? hspec),
        fun spec hspec hne => absurd (hall spec hspec) (by rw [hne]; exact Bool.false_ne_true)⟩
    cases reported.takeWhile g.isConfigEqual <;> exact iff_of_true hlaw trivial
  · have hother : g.isConfigEqual other = false := by
      have := head?_dropWhile_not g.isConfigEqual reported
      rw [hd] at this
      simpa using this
    obtain ⟨hsame, hflag⟩ := foldl_meetGlobalApp_split hr hs hpre hother later
    rw [← hd, hsplit] at hsame hflag
    rcases ht : reported.takeWhile g.isConfigEqual with - | ⟨first, equal⟩
    · -- the first report differs: it becomes the owner
      rw [ht, hd] at hsplit
      have hhead : reported.head? = some other := by rw [← hsplit]; rfl
      constructor
      · intro hlaw
        have := hlaw.owner other hhead
        rw [hsame.isConfigEqual] at this
        exact (isConfigEqual_setFromSpec g other).mp this
      · intro htaken
        have howner := (isConfigEqual_setFromSpec g other).mpr htaken
        refine ⟨?_, ?_⟩
        · intro spec hspec
          obtain rfl := Option.some.inj (hhead.symm.trans hspec)
          rw [hsame.isConfigEqual, howner]
        · intro spec hspec hne
          rw [hsame.isConfigEqual] at hne
          rw [← hsplit] at hspec
          rcases mem_cons.mp hspec with rfl | hlater
          · exact absurd (howner.symm.trans hne) Bool.true_eq_false.mp
          · exact hflag.mpr ⟨spec, hlater, hne⟩
    · -- the first report is equal: the one that differs must change nothing
      change _ ↔ (other.name = g.name ∧
        g.takenType other.applicationType = g.applicationType ∧
        other.applicationConfiguration = g.applicationConfiguration) ∧
          ∃ spec ∈ later, g.isConfigEqual spec = false
      rw [ht, hd] at hsplit
      have hhead : reported.head? = some first := by rw [← hsplit]; rfl
      have hfirst : g.isConfigEqual first = true :=
        hpre first (by rw [ht]; exact mem_cons_self ..)
      have hkeeps : SameConfig (g.setFromSpec other) g ↔ other.name = g.name ∧
          g.takenType other.applicationType = g.applicationType ∧
          other.applicationConfiguration = g.applicationConfiguration := by
        rw [setFromSpec_eq]
        exact Iff.rfl
      rw [← hkeeps]
      constructor
      · intro hlaw
        have howner := hlaw.owner first hhead
        rw [hsame.isConfigEqual] at howner
        have hback := sameConfig_of_isConfigEqual howner hfirst
        refine ⟨hback, ?_⟩
        have hne : (reported.foldl meetGlobalApp g).isConfigEqual other = false := by
          rw [hsame.isConfigEqual, hback.isConfigEqual, hother]
        have hmem : other ∈ reported := by rw [← hsplit]; simp
        obtain ⟨spec, hspec, hdiff⟩ := hflag.mp (hlaw.flagged other hmem hne)
        exact ⟨spec, hspec, (hback.isConfigEqual spec).symm.trans hdiff⟩
      · rintro ⟨hback, spec, hspec, hdiff⟩
        refine ⟨?_, fun _ _ _ => hflag.mpr ⟨spec, hspec, (hback.isConfigEqual spec).trans hdiff⟩⟩
        intro s hs
        obtain rfl := Option.some.inj (hhead.symm.trans hs)
        rw [hsame.isConfigEqual, hback.isConfigEqual, hfirst]

end Group

/-! ## Clusters -/

def ClusterSpec.hasType (spec : ClusterSpec) : Bool :=
  !decide (spec.applicationType = some .none)

/-- The law for a cluster, stored as `c` before and as `c'` after the scan. -/
structure ClusterLaw (c c' : Cluster) (reported : List ClusterSpec) : Prop where
  owner : ∀ spec ∈ reported.find? ClusterSpec.hasType,
    c'.isConfigEqual spec = true
  kept : reported.find? ClusterSpec.hasType = none →
    c'.SameConfig c
  flagged : ∀ spec ∈ reported, c'.isConfigEqual spec = false → c'.syncPending = true

/-- When the law holds for a stored cluster: the first report with an application
type has one of the enumeration, and the floor stored; or none has a type, and the
last one says what is stored of a cluster without one. -/
def Cluster.OwnerFits (c : Cluster) (reported : List ClusterSpec) : Prop :=
  match reported.find? ClusterSpec.hasType with
  | some spec => spec.applicationType.isSome = true ∧ c.floor = spec.floor
  | none => ∀ spec ∈ reported.getLast?, c.applicationType = .none ∧ c.Follows spec

namespace Cluster

variable {c : Cluster} {spec : ClusterSpec} {reported : List ClusterSpec}

theorem typeIsFixed_eq_false (h : isAppUserGroup c.groupID = true) : c.typeIsFixed = false := by
  rw [Group.typeIsFixed, isDefaultGroup_eq_false h, Bool.false_and]

/-- A cluster is open to a report if it has no application type, or has not been
read from any meter. -/
def Open (c : Cluster) : Prop := c.applicationType = .none ∨ c.readFromDsm = false

theorem meet_of_open (hid : isAppUserGroup c.groupID = true) (ho : c.Open) :
    (c.meet spec).Follows spec ∧
      (c.meet spec).applicationType = spec.applicationType.getD .none ∧
      (c.meet spec).floor = c.floor ∧ (c.meet spec).groupID = c.groupID ∧
      (c.meet spec).readFromDsm = true := by
  have hfix := typeIsFixed_eq_false hid
  have hcond : c.applicationType = .none ∨
      (c.applicationType ≠ .none ∧ c.readFromDsm = false) := by
    by_cases ht : c.applicationType = .none
    · exact .inl ht
    · exact .inr ⟨ht, ho.resolve_left ht⟩
  cases he : c.isConfigEqual spec with
  | true =>
    simp only [meet, he, Bool.not_true, Bool.false_eq_true, if_false, if_pos hcond]
    obtain ⟨hf, ht, hfl, hg, -⟩ := setFromSpec_spec spec hfix
    exact ⟨hf, ht, hfl, hg, rfl⟩
  | false =>
    simp only [meet, he, Bool.not_false, if_true, if_pos hcond]
    obtain ⟨hf, ht, hfl, hg, -⟩ :=
      setFromSpec_spec (c := { c with syncPending := true }) spec hfix
    exact ⟨hf, ht, hfl, hg, rfl⟩

theorem meet_of_owned (ht : c.applicationType ≠ .none) (hr : c.readFromDsm = true) :
    (c.meet spec).SameConfig c ∧ (c.meet spec).readFromDsm = true := by
  have hcond : ¬ (c.applicationType = .none ∨
      (c.applicationType ≠ .none ∧ c.readFromDsm = false)) := by
    rintro (h | ⟨-, h⟩)
    · exact ht h
    · exact Bool.false_ne_true (h.symm.trans hr)
  cases he : c.isConfigEqual spec with
  | true =>
    simp only [meet, he, Bool.not_true, Bool.false_eq_true, if_false, if_neg hcond]
    exact ⟨SameConfig.refl _, hr⟩
  | false =>
    simp only [meet, he, Bool.not_false, if_true, if_neg hcond]
    exact ⟨SameConfig.refl _, hr⟩

theorem meet_syncPending (hid : isAppUserGroup c.groupID = true)
    (h : (c.meet spec).syncPending = false) :
    c.syncPending = false ∧ c.isConfigEqual spec = true ∧ (c.meet spec).SameConfig c ∧
      (c.meet spec).groupID = c.groupID := by
  have hfix := typeIsFixed_eq_false hid
  cases he : c.isConfigEqual spec with
  | true =>
    simp only [meet, he, Bool.not_true, Bool.false_eq_true, if_false,
      setFromSpec_of_isConfigEqual he] at h ⊢
    split_ifs at h ⊢
    · exact ⟨h, trivial, SameConfig.refl _, rfl⟩
    · exact ⟨h, trivial, SameConfig.refl _, rfl⟩
  | false =>
    exfalso
    simp only [meet, he, Bool.not_false, if_true] at h
    split_ifs at h
    · have := (setFromSpec_spec (c := { c with syncPending := true }) spec hfix).2.2.2.2
      exact Bool.false_ne_true (h.symm.trans this)
    · exact Bool.false_ne_true h.symm

theorem foldl_meet_unflagged :
    ∀ {reported : List ClusterSpec} {c : Cluster}, isAppUserGroup c.groupID = true →
      (reported.foldl meet c).syncPending = false →
      c.syncPending = false ∧ (reported.foldl meet c).SameConfig c ∧
        ∀ spec ∈ reported, c.isConfigEqual spec = true := by
  intro reported
  induction reported with
  | nil => exact fun _ h => ⟨h, SameConfig.refl _, fun _ hs => absurd hs not_mem_nil⟩
  | cons spec rest ih =>
    intro c hid h
    by_cases hmeet : (c.meet spec).syncPending = false
    · obtain ⟨hs, he, hsame, hg⟩ := meet_syncPending hid hmeet
      obtain ⟨-, hfold, hrest⟩ := ih (by rw [hg]; exact hid) h
      refine ⟨hs, hfold.trans hsame, ?_⟩
      intro s hmem
      rcases mem_cons.mp hmem with rfl | hmem
      · exact he
      · rw [← hsame.isConfigEqual]
        exact hrest s hmem
    · have hid' : isAppUserGroup (c.meet spec).groupID = true := by
        by_cases ho : c.Open
        · rw [(meet_of_open hid ho).2.2.2.1]
          exact hid
        · simp only [Open, not_or, Bool.not_eq_false] at ho
          cases he : c.isConfigEqual spec <;>
            simp only [meet, he, ho, Bool.not_false, Bool.not_true, if_true, if_false,
              Bool.false_eq_true, ne_eq, not_false_eq_true, or_self,
              Bool.true_eq_false, and_false] <;>
            exact hid
      exact absurd (ih hid' h).1 hmeet

theorem foldl_meet_of_owned :
    ∀ {reported : List ClusterSpec} {c : Cluster}, c.applicationType ≠ .none →
      c.readFromDsm = true → (reported.foldl meet c).SameConfig c := by
  intro reported
  induction reported with
  | nil => exact fun _ _ => SameConfig.refl _
  | cons spec rest ih =>
    intro c ht hr
    obtain ⟨hsame, hread⟩ := meet_of_owned ht hr
    have htype : (c.meet spec).applicationType ≠ .none := by
      rw [hsame.1.2.1]
      exact ht
    exact (ih htype hread).trans hsame

/-- Reports without an application type leave a cluster open, and the last one is
what it says. -/
theorem foldl_meet_of_open :
    ∀ {reported : List ClusterSpec} {c : Cluster}, isAppUserGroup c.groupID = true → c.Open →
      (∀ spec ∈ reported, spec.applicationType = some .none) →
      isAppUserGroup (reported.foldl meet c).groupID = true ∧ (reported.foldl meet c).Open ∧
        (reported.foldl meet c).floor = c.floor ∧
        ∀ spec ∈ reported.getLast?, (reported.foldl meet c).applicationType = .none ∧
          (reported.foldl meet c).Follows spec := by
  intro reported
  induction reported with
  | nil => exact fun hid ho _ => ⟨hid, ho, rfl, fun _ hs => absurd hs (by simp)⟩
  | cons spec rest ih =>
    intro c hid ho hall
    obtain ⟨hfollows, htype, hfloor, hg, -⟩ := meet_of_open hid ho
    rw [hall spec (mem_cons_self ..)] at htype
    obtain ⟨hid', ho', hfloor', hlast⟩ := ih (c := c.meet spec) (by rw [hg]; exact hid)
      (.inl htype) fun s hs => hall s (mem_cons_of_mem _ hs)
    refine ⟨hid', ho', hfloor'.trans hfloor, ?_⟩
    intro last hl
    rw [foldl_cons]
    cases rest with
    | nil =>
      obtain rfl := Option.some.inj hl
      exact ⟨htype, hfollows⟩
    | cons s rest => exact hlast last hl

/-- **Clusters.** The law holds after the reports exactly if `OwnerFits` does before
them. -/
theorem clusterLaw_iff (hid : isAppUserGroup c.groupID = true) (hr : c.readFromDsm = false) :
    ClusterLaw c (reported.foldl meet c) reported ↔ c.OwnerFits reported := by
  -- the flag is never missing
  have hflag : ∀ spec ∈ reported, (reported.foldl meet c).isConfigEqual spec = false →
      (reported.foldl meet c).syncPending = true := by
    intro spec hspec hne
    by_contra hnot
    rw [Bool.not_eq_true] at hnot
    obtain ⟨-, hsame, hall⟩ := foldl_meet_unflagged hid hnot
    rw [hsame.isConfigEqual, hall spec hspec] at hne
    exact Bool.true_eq_false.mp hne
  rw [OwnerFits]
  rcases hfind : reported.find? ClusterSpec.hasType with - | spec
  · -- no report has an application type
    have hall : ∀ spec ∈ reported, spec.applicationType = some .none := by
      intro spec hspec
      have := find?_eq_none.mp hfind spec hspec
      simpa [ClusterSpec.hasType] using this
    obtain ⟨-, -, hfloor, hlast⟩ := foldl_meet_of_open hid (.inr hr) hall
    constructor
    · intro hlaw s hs
      obtain ⟨htype, hname, hconf, hl, hp, hc, hsc⟩ := hlast s hs
      obtain ⟨⟨h1, h2, h3⟩, h4, h5, -, h7, h8⟩ := hlaw.kept hfind
      exact ⟨h2.symm.trans htype, h1.symm.trans hname, h3.symm.trans hconf, h4.symm.trans hl,
        h5.symm.trans hp, h7.symm.trans hc, h8.symm.trans hsc⟩
    · intro hfits
      refine ⟨fun s hs => absurd (hfind.symm.trans hs) (by simp), fun _ => ?_, hflag⟩
      rcases hl : reported.getLast? with - | last
      · rw [getLast?_eq_none_iff.mp hl]
        exact SameConfig.refl c
      · obtain ⟨htype, hname, hconf, hlo, hp, hc, hsc⟩ := hlast last hl
        obtain ⟨htype', hname', hconf', hlo', hp', hc', hsc'⟩ := hfits last hl
        exact ⟨⟨hname.trans hname'.symm, htype.trans htype'.symm, hconf.trans hconf'.symm⟩,
          hlo.trans hlo'.symm, hp.trans hp'.symm, hfloor, hc.trans hc'.symm,
          hsc.trans hsc'.symm⟩
  · -- `spec` is the first report with an application type
    obtain ⟨hp, pre, post, hsplit, hpre⟩ := find?_eq_some_iff_append.mp hfind
    have hall : ∀ s ∈ pre, s.applicationType = some .none := by
      intro s hs
      simpa [ClusterSpec.hasType] using hpre s hs
    have htyped : spec.applicationType ≠ some .none := by simpa [ClusterSpec.hasType] using hp
    obtain ⟨hid', hopen, hfloor, -⟩ := foldl_meet_of_open hid (.inr hr) hall
    obtain ⟨hfollows, htype, hfloor', -, hread⟩ := meet_of_open hid' hopen
    have hfold : reported.foldl meet c = post.foldl meet ((pre.foldl meet c).meet spec) := by
      rw [hsplit, foldl_append, foldl_cons]
    cases ht : spec.applicationType with
    | none =>
      -- a type outside the enumeration is stored as none
      constructor
      · intro hlaw
        have := (isConfigEqual_iff.mp (hlaw.owner spec hfind)).2.1
        exact absurd (this.trans ht) (by simp)
      · intro h
        exact absurd h.1 (by rw [ht]; exact Bool.false_ne_true)
    | some t =>
      rw [ht] at htype htyped
      have hsome : ((pre.foldl meet c).meet spec).applicationType ≠ .none := by
        rw [htype]
        exact fun h => htyped (congrArg some h)
      have hsame : (reported.foldl meet c).SameConfig ((pre.foldl meet c).meet spec) := by
        rw [hfold]
        exact foldl_meet_of_owned hsome hread
      have howner : (reported.foldl meet c).isConfigEqual spec = true ↔
          c.floor = spec.floor := by
        rw [hsame.isConfigEqual, isConfigEqual_iff, htype, ht, hfloor', hfloor]
        exact ⟨fun h => h.2.2, fun h => ⟨hfollows, rfl, h⟩⟩
      constructor
      · intro hlaw
        exact ⟨by rw [ht]; rfl, howner.mp (hlaw.owner spec hfind)⟩
      · intro hfits
        refine ⟨?_, fun h => absurd (hfind.symm.trans h) (by simp), hflag⟩
        intro s hs
        obtain rfl := Option.some.inj (hfind.symm.trans hs)
        exact howner.mpr hfits.2

end Cluster

/-! ## The whole apartment -/

namespace Apartment

variable {a : Apartment} {reports : List Report}

/-- A model read from its file: no group has been read from a meter or flagged. -/
structure Persisted (a : Apartment) : Prop where
  groups : ∀ id g, isGlobalAppGroup id = true → a.zones 0 id = some g →
    g.readFromDsm = false ∧ g.syncPending = false
  clusters : ∀ id c, a.clusters id = some c →
    isAppUserGroup c.groupID = true ∧ c.readFromDsm = false

structure Owned (a : Apartment) (reports : List Report) : Prop where
  groups : ∀ id g, isGlobalAppGroup id = true → a.zones 0 id = some g →
    ∀ g', (a.scanAll reports).zones 0 id = some g' → GlobalAppLaw g' (groupSpecs id reports)
  clusters : ∀ id c, a.clusters id = some c →
    ∀ c', (a.scanAll reports).clusters id = some c' →
      ClusterLaw c c' (clusterSpecs id reports)

/-- The condition for all of them. -/
structure OwnerFits (a : Apartment) (reports : List Report) : Prop where
  groups : ∀ id g, isGlobalAppGroup id = true → a.zones 0 id = some g →
    g.OwnerFits (groupSpecs id reports)
  clusters : ∀ id c, a.clusters id = some c → c.OwnerFits (clusterSpecs id reports)

/-- **Ownership.** From every persisted model and for every list of reports, the
law holds after the scans exactly if `OwnerFits` does. -/
theorem owned_iff_ownerFits (hp : Persisted a) : Owned a reports ↔ OwnerFits a reports := by
  constructor
  · rintro ⟨hgroups, hclusters⟩
    refine ⟨?_, ?_⟩
    · intro id g hid hg
      obtain ⟨hr, hs⟩ := hp.groups id g hid hg
      exact (Group.globalAppLaw_iff hr hs).mp
        (hgroups id g hid hg _ (globalApp_scan reports hid hg))
    · intro id c hc
      obtain ⟨hid, hr⟩ := hp.clusters id c hc
      exact (Cluster.clusterLaw_iff hid hr).mp (hclusters id c hc _ (cluster_scan reports hc))
  · rintro ⟨hgroups, hclusters⟩
    refine ⟨?_, ?_⟩
    · intro id g hid hg g' hg'
      obtain ⟨hr, hs⟩ := hp.groups id g hid hg
      obtain rfl := Option.some.inj ((globalApp_scan reports hid hg).symm.trans hg')
      exact (Group.globalAppLaw_iff hr hs).mpr (hgroups id g hid hg)
    · intro id c hc c' hc'
      obtain ⟨hid, hr⟩ := hp.clusters id c hc
      obtain rfl := Option.some.inj ((cluster_scan reports hc).symm.trans hc')
      exact (Cluster.clusterLaw_iff hid hr).mpr (hclusters id c hc)

def ventilationGroup : Group :=
  { groupID := groupIDGlobalAppDsVentilation
    name := "apartmentVentilation"
    applicationType := .apartmentVentilation }

def ventilationApartment : Apartment :=
  { zones := fun zoneID id =>
      if zoneID = 0 ∧ id = groupIDGlobalAppDsVentilation then some ventilationGroup else none
    clusters := fun _ => none }

def ventilationReport (configuration : ℕ) : Report :=
  .groups configuredSince 0 (some [{
    groupID := groupIDGlobalAppDsVentilation
    applicationType := some .apartmentVentilation
    name := "apartmentVentilation"
    applicationConfiguration := configuration }])

theorem ventilationApartment_group {id : ℕ} {g : Group}
    (h : ventilationApartment.zones 0 id = some g) :
    id = groupIDGlobalAppDsVentilation ∧ g = ventilationGroup := by
  simp only [ventilationApartment, true_and, Option.ite_none_right_eq_some] at h
  exact ⟨h.1, (Option.some.inj h.2).symm⟩

theorem persisted_ventilationApartment : Persisted ventilationApartment := by
  refine ⟨?_, fun id c h => absurd h (by simp [ventilationApartment])⟩
  intro id g _ h
  obtain ⟨rfl, rfl⟩ := ventilationApartment_group h
  exact ⟨rfl, rfl⟩

/-- The first of two meters that both differ from what is stored. -/
theorem owned_of_two_reports :
    Owned ventilationApartment [ventilationReport 1, ventilationReport 2] := by
  refine (owned_iff_ownerFits persisted_ventilationApartment).mpr ⟨?_, ?_⟩
  · intro id g _ h
    obtain ⟨rfl, rfl⟩ := ventilationApartment_group h
    rfl
  · exact fun id c h => absurd h (by simp [ventilationApartment])

/-- The first meter reports what is stored; the second one takes over all the
same. -/
theorem owned_fails :
    ¬ ∀ (a : Apartment) (reports : List Report), Persisted a → Owned a reports := by
  intro h
  have howned := h ventilationApartment [ventilationReport 0, ventilationReport 1]
    persisted_ventilationApartment
  have hlaw := howned.groups groupIDGlobalAppDsVentilation ventilationGroup rfl rfl _ rfl
  exact absurd (hlaw.owner _ rfl) (by decide)

end Apartment

end Dss
