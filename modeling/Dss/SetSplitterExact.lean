import Dss.SetSplitter

/-!
# Exact addressing by the set splitter

The devices that pick an item are the leaders of the set: a device leads if no leader before it has
picked a group it is in. The items of a zone are the picks of its leaders, and every present device
is addressed by the pick of some leader. What can go wrong is listed in `Found` and `Separate`: a
group that zone 0 does not have, a group that only zone 0 has and that has devices elsewhere, two
picked groups with a device in common, and a whole zone addressed by a group the zone does not
have.
-/

namespace Dss

open List

namespace SetSplitter.Apartment

variable (a : Apartment)

/-! ## Picks and leaders -/

def fits (z : ℕ) (set : List Dsuid) (groupID : ℕ) : Bool :=
  (a.getByGroup (a.zoneDevices z) groupID).all fun d => set.contains d

/-- The first group of the device that fits, or that zone 0 does not have. -/
def pick (z : ℕ) (set : List Dsuid) (d : Dsuid) : Option ℕ :=
  (a.groupIds d).find? fun g => decide (g ∉ a.zoneGroups 0) || a.fits z set g

/-- The group the splitter takes for an id: the zone's, else that of zone 0. -/
def groupFor (z groupID : ℕ) : Item :=
  (a.zoneGetGroup z groupID).getD (.group 0 groupID)

def pickedItem (z : ℕ) (set : List Dsuid) (d : Dsuid) : Item :=
  match a.pick z set d with
  | some g => a.groupFor z g
  | none => .device d

def covers (z : ℕ) (set : List Dsuid) (d : Dsuid) : List Dsuid :=
  match a.pick z set d with
  | some g => a.getByGroup (a.zoneDevices z) g
  | none => []

def leaders (z : ℕ) (set : List Dsuid) : List Dsuid :=
  ExactCover.leaders (a.covers z set) set

def Whole (z : ℕ) (set : List Dsuid) : Prop :=
  (a.zoneDevices z).length = set.length

instance (z : ℕ) (set : List Dsuid) : Decidable (a.Whole z set) :=
  inferInstanceAs (Decidable (_ = _))

/-! ## The condition -/

/-- No leader comes to a group that zone 0 does not have. -/
def Found (z : ℕ) (set : List Dsuid) : Prop :=
  ¬ a.Whole z set → ∀ d ∈ a.leaders z set, ∀ g, a.pick z set d = some g → g ∈ a.zoneGroups 0

def numberOfItems (z : ℕ) (set : List Dsuid) : ℕ :=
  if a.Whole z set then 1 else (a.leaders z set).length

/-- The groups picked for the set reach every present device once: those of two
leaders share no present device, and one that the zone does not have has none
elsewhere. The group picked for a whole zone only has to be one of the zone's. -/
def Separate (z : ℕ) (set : List Dsuid) : Prop :=
  if a.Whole z set then a.commonGroup set ∈ a.zoneGroups z
  else
    ((a.leaders z set).Pairwise fun d e => ∀ g h,
      a.pick z set d = some g → a.pick z set e = some h →
        ∀ x ∈ a.zoneDevices z, a.isPresent x = true →
          ¬ (a.isInGroup x g = true ∧ a.isInGroup x h = true)) ∧
    ∀ d ∈ a.leaders z set, ∀ g, a.pick z set d = some g → g ∉ a.zoneGroups z →
      ∀ x ∈ a.devices, a.isPresent x = true → a.isInGroup x g = true → x ∈ a.zoneDevices z

def numberOfZoneItems (set : List Dsuid) : ℕ :=
  ((a.splitByZone set).map fun p => a.numberOfItems p.1 p.2).sum

/-- **The condition.** The set is empty, or has all devices; or no leader of its
zones comes to an unknown group, and the answer taken, for the zones or for the set
in zone 0, is separate. -/
def Separable (set : List Dsuid) : Prop :=
  set.length = 0 ∨ set.length = a.devices.length ∨
    (∀ p ∈ a.splitByZone set, a.Found p.1 p.2) ∧
    (1 < a.numberOfZoneItems set → a.Found 0 set) ∧
    if 1 < a.numberOfZoneItems set ∧ a.numberOfItems 0 set < a.numberOfZoneItems set then
      a.Separate 0 set
    else ∀ p ∈ a.splitByZone set, a.Separate p.1 p.2

variable {a} {z : ℕ} {set : List Dsuid} {d x : Dsuid} {g : ℕ}

/-! ## Groups -/

theorem isInGroup_of_mem (hg : g ∈ a.groupIds d) : a.isInGroup d g = true := by
  rw [isInGroup]
  split_ifs with h0 hvalid
  · rfl
  · exact absurd (a.groupIds_valid d g hg) (by rw [hvalid]; exact Bool.false_ne_true)
  · exact contains_iff_mem.mpr hg

theorem mem_of_isInGroup (hg : a.isInGroup d g = true) (h0 : g ≠ 0) : g ∈ a.groupIds d := by
  rw [isInGroup, if_neg h0] at hg
  split_ifs at hg
  exact contains_iff_mem.mp hg

theorem ne_zero_of_mem (hg : g ∈ a.groupIds d) : g ≠ 0 := by
  rintro rfl
  exact absurd (a.groupIds_valid d 0 hg) (by decide)

theorem mem_getByGroup {devices : List Dsuid} :
    x ∈ a.getByGroup devices g ↔ x ∈ devices ∧ a.isInGroup x g = true := by
  rw [getByGroup]
  split_ifs with h0
  · rw [mem_filter]
  · rw [not_not] at h0
    subst h0
    exact (and_iff_left rfl).symm

theorem fits_iff : a.fits z set g = true ↔
    ∀ x ∈ a.zoneDevices z, a.isInGroup x g = true → x ∈ set := by
  rw [fits, all_eq_true]
  simp only [mem_getByGroup, contains_iff_mem, and_imp]

theorem mem_devices (hx : x ∈ a.zoneDevices z) : x ∈ a.devices := by
  by_cases hz : z = 0
  · exact (a.mem_zoneDevices_zero x).mp (hz ▸ hx)
  · exact ((a.mem_zoneDevices z hz x).mp hx).1

theorem mem_addressed_group : x ∈ a.addressed (some (.group z g)) ↔
    x ∈ a.zoneDevices z ∧ a.isPresent x = true ∧ a.isInGroup x g = true := by
  rw [addressed]
  by_cases hz : z = 0
  · subst hz
    rw [a.mem_zoneDevices_zero]
    simp
  · rw [a.mem_zoneDevices z hz]
    simp [hz]
    tauto

/-! ## Picks -/

theorem pick_mem (h : a.pick z set d = some g) : g ∈ a.groupIds d :=
  mem_of_find?_eq_some h

theorem pick_fits (h : a.pick z set d = some g) (hg : g ∈ a.zoneGroups 0) :
    a.fits z set g = true := by
  have := find?_some h
  simpa [hg] using this

theorem not_fits_of_pick (h : a.pick z set d = none) (hg : g ∈ a.groupIds d) :
    a.fits z set g = false := by
  have := find?_eq_none.mp h g hg
  simp only [Bool.or_eq_true, not_or, Bool.not_eq_true] at this
  exact this.2

/-! ## The loops -/

def Unsuitable (a : Apartment) (z : ℕ) (set : List Dsuid) (groups : List Item) : Prop :=
  ∀ g, a.groupFor z g ∈ groups → a.fits z set g = false

theorem getGroup_eq (hg : g ∈ a.zoneGroups 0) : a.getGroup g = .ok (.group 0 g) := by
  rw [getGroup, zoneGetGroup, if_pos hg]

theorem getGroup_error (hg : g ∉ a.zoneGroups 0) :
    a.getGroup g = .error (.itemNotFound (toString g)) := by
  rw [getGroup, zoneGetGroup, if_neg hg]

theorem groupFor_inj {h : ℕ} (hgh : a.groupFor z g = a.groupFor z h) : g = h := by
  simp only [groupFor, zoneGetGroup] at hgh
  split_ifs at hgh <;> exact (Item.group.inj hgh).2

theorem Unsuitable.append {groups : List Item} (h : a.Unsuitable z set groups)
    (hg : a.fits z set g = false) : a.Unsuitable z set (groups ++ [a.groupFor z g]) := by
  intro k hk
  rcases mem_append.mp hk with hk | hk
  · exact h k hk
  · rw [groupFor_inj (mem_singleton.mp hk)]
    exact hg

theorem findFit_spec (groupIds : List ℕ) :
    ∀ {unsuitable : List Item}, a.Unsuitable z set unsuitable →
      match groupIds.find? fun g => decide (g ∉ a.zoneGroups 0) || a.fits z set g with
      | none => ∃ groups, a.findFit z set unsuitable groupIds = .ok (none, groups) ∧
          a.Unsuitable z set groups
      | some g =>
        if g ∈ a.zoneGroups 0 then
          ∃ groups, a.findFit z set unsuitable groupIds =
              .ok (some (a.groupFor z g, a.getByGroup (a.zoneDevices z) g), groups) ∧
            a.Unsuitable z set groups
        else ∃ e, a.findFit z set unsuitable groupIds = .error e := by
  induction groupIds with
  | nil => exact fun h => ⟨_, rfl, h⟩
  | cons g rest ih =>
    intro unsuitable h
    by_cases hknown : g ∈ a.zoneGroups 0
    · cases hfits : a.fits z set g with
      | true =>
        have hsuitable : a.groupFor z g ∉ unsuitable := fun hg =>
          absurd ((h g hg).symm.trans hfits) Bool.false_ne_true
        rw [find?_cons_of_pos (by simp [hfits])]
        dsimp only
        rw [if_pos hknown]
        refine ⟨unsuitable, ?_, h⟩
        rw [findFit, getGroup_eq hknown]
        exact (if_neg hsuitable).trans (if_pos hfits)
      | false =>
        rw [find?_cons_of_neg (by simp [hfits, hknown])]
        have hstep : ∃ groups, a.findFit z set unsuitable (g :: rest) =
            a.findFit z set groups rest ∧ a.Unsuitable z set groups := by
          by_cases hg : a.groupFor z g ∈ unsuitable
          · refine ⟨unsuitable, ?_, h⟩
            rw [findFit, getGroup_eq hknown]
            exact if_pos hg
          · refine ⟨_, ?_, h.append hfits⟩
            rw [findFit, getGroup_eq hknown]
            refine (if_neg hg).trans (if_neg ?_)
            exact fun hfit => absurd (hfits.symm.trans hfit) Bool.false_ne_true
        obtain ⟨groups, heq, hgroups⟩ := hstep
        rw [heq]
        exact ih hgroups
    · rw [find?_cons_of_pos (by simp [hknown])]
      dsimp only
      rw [if_neg hknown]
      exact ⟨_, by rw [findFit, getGroup_error hknown]⟩

theorem bestFitLoop_eq {workingCopy : List Dsuid} :
    ∀ {unsuitable : List Item}, a.Unsuitable z set unsuitable →
      (∀ d ∈ ExactCover.leaders (a.covers z set) workingCopy, ∀ g, a.pick z set d = some g →
        g ∈ a.zoneGroups 0) →
      a.bestFitLoop z set unsuitable workingCopy =
        .ok ((ExactCover.leaders (a.covers z set) workingCopy).map fun d =>
          some (a.pickedItem z set d)) := by
  induction workingCopy using ExactCover.leaders.induct (a.covers z set) with
  | case1 =>
    intro unsuitable _ _
    rw [ExactCover.leaders, bestFitLoop]
    rfl
  | case2 d rest ih =>
    intro unsuitable h hfound
    rw [ExactCover.leaders_cons] at hfound ⊢
    obtain ⟨hd, hrest⟩ := forall_mem_cons.mp hfound
    have hspec := findFit_spec (a.groupIds d) h
    rw [map_cons, pickedItem]
    rcases hp : a.pick z set d with - | g
    · rw [← pick, hp] at hspec
      obtain ⟨groups, hfind, hgroups⟩ := hspec
      have hcovers : a.covers z set d = [] := by rw [covers, hp]
      rw [bestFitLoop, hfind]
      dsimp only
      rw [hcovers, diff_nil] at ih hrest ⊢
      rw [ih hgroups hrest]
      rfl
    · rw [← pick, hp] at hspec
      dsimp only at hspec
      rw [if_pos (hd g hp)] at hspec
      obtain ⟨groups, hfind, hgroups⟩ := hspec
      have hcovers : a.covers z set d = a.getByGroup (a.zoneDevices z) g := by rw [covers, hp]
      rw [bestFitLoop, hfind]
      dsimp only
      rw [hcovers] at ih hrest ⊢
      rw [ih hgroups hrest]
      rfl

theorem bestFitLoop_error {workingCopy : List Dsuid} :
    ∀ {unsuitable : List Item}, a.Unsuitable z set unsuitable →
      d ∈ ExactCover.leaders (a.covers z set) workingCopy → a.pick z set d = some g →
      g ∉ a.zoneGroups 0 → ∃ e, a.bestFitLoop z set unsuitable workingCopy = .error e := by
  induction workingCopy using ExactCover.leaders.induct (a.covers z set) with
  | case1 =>
    intro unsuitable _ hd
    rw [ExactCover.leaders] at hd
    cases hd
  | case2 first rest ih =>
    intro unsuitable h hd hpick hg
    rw [ExactCover.leaders_cons, mem_cons] at hd
    have hspec := findFit_spec (a.groupIds first) h
    rw [← pick] at hspec
    rcases hp : a.pick z set first with - | k
    · rw [hp] at hspec
      obtain ⟨groups, hfind, hgroups⟩ := hspec
      have hcovers : a.covers z set first = [] := by rw [covers, hp]
      rw [hcovers, diff_nil] at ih hd
      obtain ⟨e, he⟩ := ih hgroups (hd.resolve_left (by rintro rfl; simp [hp] at hpick)) hpick hg
      exact ⟨e, by rw [bestFitLoop, hfind]; dsimp only; rw [he]; rfl⟩
    · rw [hp] at hspec
      dsimp only at hspec
      by_cases hk : k ∈ a.zoneGroups 0
      · rw [if_pos hk] at hspec
        obtain ⟨groups, hfind, hgroups⟩ := hspec
        have hcovers : a.covers z set first = a.getByGroup (a.zoneDevices z) k := by
          rw [covers, hp]
        rw [hcovers] at ih hd
        have hne : d ≠ first := by
          rintro rfl
          exact hg (Option.some.inj (hp.symm.trans hpick) ▸ hk)
        obtain ⟨e, he⟩ := ih hgroups (hd.resolve_left hne) hpick hg
        exact ⟨e, by rw [bestFitLoop, hfind]; dsimp only; rw [he]; rfl⟩
      · rw [if_neg hk] at hspec
        obtain ⟨e, hfind⟩ := hspec
        exact ⟨e, by rw [bestFitLoop, hfind]⟩

/-! ## One zone -/

def items (a : Apartment) (z : ℕ) (set : List Dsuid) : List (Option Item) :=
  if a.Whole z set then [a.findGroupContainingAllDevices set z]
  else (a.leaders z set).map fun d => some (a.pickedItem z set d)

theorem length_items : (a.items z set).length = a.numberOfItems z set := by
  rw [items, numberOfItems]
  split_ifs <;> simp

theorem unsuitable_nil : a.Unsuitable z set [] := nofun

theorem bestFitZone_eq (h : a.Found z set) : a.bestFitZone z set = .ok (a.items z set) := by
  rw [items]
  by_cases hw : a.Whole z set
  · rw [if_pos hw]
    exact if_pos hw
  · rw [if_neg hw]
    refine (if_neg hw).trans ?_
    exact bestFitLoop_eq unsuitable_nil (h hw)

theorem bestFitZone_error (h : ¬ a.Found z set) : ∃ e, a.bestFitZone z set = .error e := by
  simp only [Found, not_forall] at h
  obtain ⟨hw, d, hd, g, hpick, hg⟩ := h
  obtain ⟨e, he⟩ := bestFitLoop_error unsuitable_nil hd hpick hg
  exact ⟨e, (if_neg hw).trans he⟩

/-! ## The group of a whole zone -/

theorem mem_setIntersection {xs ys : List ℕ} (h : g ∈ setIntersection xs ys) :
    g ∈ xs ∧ g ∈ ys := by
  induction xs, ys using setIntersection.induct with
  | case1 ys => rw [setIntersection] at h; cases h
  | case2 x xs => rw [setIntersection] at h; cases h
  | case3 x xs y ys hlt ih =>
    rw [setIntersection, if_pos hlt] at h
    exact (ih h).imp_left (mem_cons_of_mem _)
  | case4 x xs y ys hlt hgt ih =>
    rw [setIntersection, if_neg hlt, if_pos hgt] at h
    exact (ih h).imp_right (mem_cons_of_mem _)
  | case5 x xs y ys hlt hgt ih =>
    rw [setIntersection, if_neg hlt, if_neg hgt] at h
    have hxy : x = y := Nat.le_antisymm (Nat.not_lt.mp hgt) (Nat.not_lt.mp hlt)
    rcases mem_cons.mp h with rfl | h
    · exact ⟨mem_cons_self, hxy ▸ mem_cons_self⟩
    · exact (ih h).imp (mem_cons_of_mem _) (mem_cons_of_mem _)

theorem mem_commonGroups {devices : List Dsuid} :
    ∀ {groups : List ℕ}, g ∈ a.commonGroups groups devices →
      g ∈ groups ∧ ∀ d ∈ devices, g ∈ a.groupIds d := by
  induction devices with
  | nil => exact fun h => ⟨h, nofun⟩
  | cons d rest ih =>
    intro groups h
    rw [commonGroups] at h
    split_ifs at h with hempty
    · rw [length_eq_zero_iff.mp hempty] at h
      cases h
    · obtain ⟨hinter, hrest⟩ := ih h
      obtain ⟨hg, hd⟩ := mem_setIntersection hinter
      rw [mem_insertionSort] at hd
      exact ⟨hg, forall_mem_cons.mpr ⟨hd, hrest⟩⟩

theorem isInGroup_commonGroup (hd : d ∈ set) : a.isInGroup d (a.commonGroup set) = true := by
  cases set with
  | nil => cases hd
  | cons first rest =>
    rw [commonGroup]
    rcases hc : a.commonGroups ((a.groupIds first).insertionSort (· ≤ ·)) rest with - | ⟨g, gs⟩
    · rfl
    · have hg : g ∈ a.commonGroups ((a.groupIds first).insertionSort (· ≤ ·)) rest :=
        hc ▸ mem_cons_self
      obtain ⟨hfirst, hrest⟩ := mem_commonGroups hg
      rw [mem_insertionSort] at hfirst
      rcases mem_cons.mp hd with rfl | hd
      · exact isInGroup_of_mem hfirst
      · exact isInGroup_of_mem (hrest d hd)

/-! ## What the items of a zone address -/

theorem mem_of_mem_leaders (hd : d ∈ a.leaders z set) : d ∈ set :=
  (ExactCover.leaders_sublist set).subset hd

theorem mem_addressed_groupFor : x ∈ a.addressed (some (a.groupFor z g)) ↔
    (x ∈ a.zoneDevices z ∨ g ∉ a.zoneGroups z ∧ x ∈ a.devices) ∧
      a.isPresent x = true ∧ a.isInGroup x g = true := by
  rw [groupFor, zoneGetGroup]
  split_ifs with hg
  · rw [Option.getD_some, mem_addressed_group]
    simp [hg]
  · rw [Option.getD_none, mem_addressed_group, a.mem_zoneDevices_zero]
    simp only [hg, not_false_eq_true, true_and]
    rw [or_iff_right_of_imp mem_devices]

theorem nodup_addressed (item : Option Item) : (a.addressed item).Nodup := by
  rcases item with - | ⟨z, g⟩ | d
  · exact nodup_nil
  · exact a.devices_nodup.filter _
  · exact nodup_singleton d

/-- **Covering.** Every present device of the set is addressed by the pick of a
leader. -/
theorem exists_leader (hset : set ⊆ a.zoneDevices z) (hx : x ∈ set)
    (hpresent : a.isPresent x = true) :
    ∃ d ∈ a.leaders z set, x ∈ a.addressed (some (a.pickedItem z set d)) := by
  obtain ⟨d, hd, hxd⟩ := ExactCover.exists_leader (a.covers z set) hx
  refine ⟨d, hd, ?_⟩
  rw [pickedItem]
  rcases hp : a.pick z set d with - | g
  · rw [covers, hp] at hxd
    exact mem_singleton.mpr (hxd.resolve_right not_mem_nil)
  · refine mem_addressed_groupFor.2 ⟨.inl (hset hx), hpresent, ?_⟩
    rcases hxd with rfl | hxd
    · exact isInGroup_of_mem (pick_mem hp)
    · rw [covers, hp] at hxd
      exact (mem_getByGroup.1 hxd).2

theorem mem_set_of_addressed (hd : d ∈ a.leaders z set)
    (hknown : ∀ g, a.pick z set d = some g → g ∈ a.zoneGroups 0)
    (hlocal : ∀ g, a.pick z set d = some g → g ∉ a.zoneGroups z →
      ∀ x ∈ a.devices, a.isPresent x = true → a.isInGroup x g = true → x ∈ a.zoneDevices z)
    (hx : x ∈ a.addressed (some (a.pickedItem z set d))) : x ∈ set := by
  rw [pickedItem] at hx
  rcases hp : a.pick z set d with - | g
  · rw [hp] at hx
    rw [mem_singleton.mp hx]
    exact mem_of_mem_leaders hd
  · rw [hp] at hx
    obtain ⟨hzone, hpresent, hgroup⟩ := mem_addressed_groupFor.1 hx
    refine fits_iff.1 (pick_fits hp (hknown g hp)) x ?_ hgroup
    rcases hzone with hzone | ⟨hg, hdevice⟩
    · exact hzone
    · exact hlocal g hp hg x hdevice hpresent hgroup

theorem not_isInGroup_of_pick {e : Dsuid} {h : ℕ} (hd : a.pick z set d = none)
    (he : a.pick z set e = some h) (hknown : h ∈ a.zoneGroups 0) :
    a.isInGroup d h = false := by
  cases hgroup : a.isInGroup d h with
  | false => rfl
  | true =>
    have hmem := mem_of_isInGroup hgroup (ne_zero_of_mem (pick_mem he))
    exact absurd ((not_fits_of_pick hd hmem).symm.trans (pick_fits he hknown))
      Bool.false_ne_true

theorem addresses_leaders_iff (hnodup : set.Nodup) (hset : set ⊆ a.zoneDevices z)
    (hw : ¬ a.Whole z set) (hfound : a.Found z set) :
    a.Addresses ((a.leaders z set).map fun d => some (a.pickedItem z set d)) set ↔
      a.Separate z set := by
  have hfound := hfound hw
  have hsets : ∀ d ∈ a.leaders z set, (a.addressed (some (a.pickedItem z set d))).Nodup :=
    fun d _ => nodup_addressed _
  have hleaders : (a.leaders z set).Nodup := hnodup.sublist (ExactCover.leaders_sublist set)
  rw [Separate, if_neg hw]
  refine ⟨fun haddr => ⟨?_, ?_⟩, fun hsep => ⟨?_, ?_, ?_⟩⟩
  · -- a device two picks share is addressed twice
    have honce := haddr.once
    have hinside := haddr.inside
    rw [flatMap_map] at honce hinside
    rw [pairwise_iff_forall_sublist]
    intro d e hde g h hg hh x hx hpresent hboth
    have hdmem := hde.subset mem_cons_self
    have hxd : x ∈ a.addressed (some (a.pickedItem z set d)) := by
      rw [pickedItem, hg]
      exact mem_addressed_groupFor.2 ⟨.inl hx, hpresent, hboth.1⟩
    have hxe : x ∈ a.addressed (some (a.pickedItem z set e)) := by
      rw [pickedItem, hh]
      exact mem_addressed_groupFor.2 ⟨.inl hx, hpresent, hboth.2⟩
    have hxset := hinside x (mem_flatMap.mpr ⟨d, hdmem, hxd⟩)
    have hpair := (ExactCover.count_flatMap_le_one_iff hsets).mp
      (Nat.le_of_eq (honce x hxset hpresent))
    exact pairwise_iff_forall_sublist.mp hpair hde ⟨hxd, hxe⟩
  · -- a device elsewhere is addressed, too
    intro d hd g hg hforeign x hx hpresent hgroup
    refine hset (haddr.inside x ?_)
    rw [flatMap_map]
    refine mem_flatMap.mpr ⟨d, hd, ?_⟩
    rw [pickedItem, hg]
    exact mem_addressed_groupFor.2 ⟨.inr ⟨hforeign, hx⟩, hpresent, hgroup⟩
  · simp
  · intro x hx hpresent
    rw [flatMap_map]
    obtain ⟨d, hd, hxd⟩ := exists_leader hset hx hpresent
    have hpos : 0 < ((a.leaders z set).flatMap fun d =>
        a.addressed (some (a.pickedItem z set d))).count x :=
      count_pos_iff.mpr (mem_flatMap.mpr ⟨d, hd, hxd⟩)
    refine Nat.le_antisymm ((ExactCover.count_flatMap_le_one_iff hsets).mpr ?_) hpos
    rw [pairwise_iff_forall_sublist]
    rintro d e hde ⟨hxd, hxe⟩
    have hdmem := hde.subset mem_cons_self
    have hemem := hde.subset (mem_cons_of_mem _ mem_cons_self)
    have hne : d ≠ e := by
      rintro rfl
      exact absurd (hleaders.sublist hde) (by simp)
    have hpair := pairwise_iff_forall_sublist.mp hsep.1 hde
    rw [pickedItem] at hxd hxe
    rcases hd : a.pick z set d with - | g <;> rcases he : a.pick z set e with - | h <;>
      rw [hd] at hxd <;> rw [he] at hxe
    · exact hne ((mem_singleton.mp hxd).symm.trans (mem_singleton.mp hxe))
    · rw [mem_singleton.mp hxd] at hxe
      have := (mem_addressed_groupFor.1 hxe).2.2
      rw [not_isInGroup_of_pick hd he (hfound e hemem h he)] at this
      cases this
    · rw [mem_singleton.mp hxe] at hxd
      have := (mem_addressed_groupFor.1 hxd).2.2
      rw [not_isInGroup_of_pick he hd (hfound d hdmem g hd)] at this
      cases this
    · exact hpair g h hd he x (hset hx) hpresent
        ⟨(mem_addressed_groupFor.1 hxd).2.2, (mem_addressed_groupFor.1 hxe).2.2⟩
  · intro x hx
    rw [flatMap_map] at hx
    obtain ⟨d, hd, hxd⟩ := mem_flatMap.mp hx
    exact mem_set_of_addressed hd (hfound d hd) (hsep.2 d hd) hxd

theorem addresses_whole_iff (hnodup : set.Nodup) (hset : set ⊆ a.zoneDevices z)
    (hw : a.Whole z set) :
    a.Addresses [a.findGroupContainingAllDevices set z] set ↔ a.Separate z set := by
  have hperm : set.Perm (a.zoneDevices z) :=
    (subperm_of_subset hnodup hset).perm_of_length_le (Nat.le_of_eq hw)
  rw [Separate, if_pos hw, findGroupContainingAllDevices, zoneGetGroup]
  by_cases hg : a.commonGroup set ∈ a.zoneGroups z
  · rw [if_pos hg]
    refine iff_of_true ⟨by simp, fun x hx hpresent => ?_, fun x hx => ?_⟩ hg
    · rw [flatMap_singleton]
      refine count_eq_one_of_mem (nodup_addressed _) (mem_addressed_group.2 ?_)
      exact ⟨hset hx, hpresent, isInGroup_commonGroup hx⟩
    · rw [flatMap_singleton] at hx
      exact hperm.mem_iff.mpr (mem_addressed_group.1 hx).1
  · rw [if_neg hg]
    exact iff_of_false (fun h => h.valid mem_cons_self) hg

/-- **One zone.** The items address the set exactly if the picks are separate. -/
theorem addresses_items_iff (hnodup : set.Nodup) (hset : set ⊆ a.zoneDevices z)
    (hfound : a.Found z set) : a.Addresses (a.items z set) set ↔ a.Separate z set := by
  rw [items]
  by_cases hw : a.Whole z set
  · rw [if_pos hw]
    exact addresses_whole_iff hnodup hset hw
  · rw [if_neg hw]
    exact addresses_leaders_iff hnodup hset hw hfound

theorem mem_addressed_items (hset : set ⊆ a.zoneDevices z) (hvalid : none ∉ a.items z set)
    (hx : x ∈ set) (hpresent : a.isPresent x = true) :
    x ∈ (a.items z set).flatMap a.addressed := by
  rw [items] at hvalid ⊢
  split_ifs at hvalid ⊢ with hw
  · rw [flatMap_singleton]
    rw [findGroupContainingAllDevices, zoneGetGroup] at hvalid ⊢
    split_ifs at hvalid ⊢ with hg
    · exact mem_addressed_group.2 ⟨hset hx, hpresent, isInGroup_commonGroup hx⟩
    · exact absurd mem_cons_self hvalid
  · rw [flatMap_map]
    obtain ⟨d, hd, hxd⟩ := exists_leader hset hx hpresent
    exact mem_flatMap.mpr ⟨d, hd, hxd⟩

theorem mem_set_or_isPresent (hx : x ∈ (a.items z set).flatMap a.addressed) :
    x ∈ set ∨ a.isPresent x = true := by
  obtain ⟨item, hitem, hx⟩ := mem_flatMap.mp hx
  rcases item with - | ⟨zone, g⟩ | d
  · cases hx
  · exact .inr (mem_addressed_group.1 hx).2.1
  · rw [items] at hitem
    split_ifs at hitem with hw
    · rw [mem_singleton, findGroupContainingAllDevices, zoneGetGroup] at hitem
      split_ifs at hitem
      cases hitem
    · obtain ⟨e, he, heq⟩ := mem_map.mp hitem
      rw [pickedItem] at heq
      rcases hp : a.pick z set e with - | g
      · rw [hp] at heq
        obtain rfl := Item.device.inj (Option.some.inj heq)
        rw [mem_singleton.mp hx]
        exact .inl (mem_of_mem_leaders he)
      · rw [hp] at heq
        simp only [groupFor, zoneGetGroup] at heq
        split_ifs at heq <;> cases heq

/-! ## All zones -/

variable {parts : List (ℕ × List Dsuid)}

def zoneItems (a : Apartment) (parts : List (ℕ × List Dsuid)) : List (Option Item) :=
  parts.flatMap fun p => a.items p.1 p.2

theorem bestFitParts_eq (h : ∀ p ∈ parts, a.Found p.1 p.2) :
    a.bestFitParts parts = .ok (a.zoneItems parts) := by
  induction parts with
  | nil => rfl
  | cons p parts ih =>
    obtain ⟨hp, hparts⟩ := forall_mem_cons.mp h
    rw [bestFitParts, bestFitZone_eq hp, ih hparts]
    rfl

theorem bestFitParts_error (h : ¬ ∀ p ∈ parts, a.Found p.1 p.2) :
    ∃ e, a.bestFitParts parts = .error e := by
  induction parts with
  | nil => exact absurd nofun h
  | cons p parts ih =>
    by_cases hp : a.Found p.1 p.2
    · have hparts : ¬ ∀ q ∈ parts, a.Found q.1 q.2 :=
        fun hq => h (forall_mem_cons.mpr ⟨hp, hq⟩)
      obtain ⟨e, he⟩ := ih hparts
      exact ⟨e, by rw [bestFitParts, bestFitZone_eq hp, he]; rfl⟩
    · obtain ⟨e, he⟩ := bestFitZone_error hp
      exact ⟨e, by rw [bestFitParts, he]⟩

theorem length_zoneItems (set : List Dsuid) :
    (a.zoneItems (a.splitByZone set)).length = a.numberOfZoneItems set := by
  rw [zoneItems, length_flatMap, numberOfZoneItems]
  simp only [length_items]

theorem mem_splitByZone {p : ℕ × List Dsuid} (hp : p ∈ a.splitByZone set) :
    p.2 = set.filter fun d => a.zoneID d = p.1 := by
  obtain ⟨z, -, rfl⟩ := mem_map.mp hp
  rfl

theorem exists_part (hx : x ∈ set) : ∃ p ∈ a.splitByZone set, x ∈ p.2 := by
  refine ⟨_, mem_map.mpr ⟨a.zoneID x, ?_, rfl⟩, mem_filter.mpr ⟨hx, decide_eq_true rfl⟩⟩
  rw [mem_insertionSort, mem_dedup]
  exact mem_map_of_mem hx

theorem nodup_splitByZone : (a.splitByZone set).Nodup := by
  refine List.Nodup.map (fun y z h => (Prod.mk.inj h).1) ?_
  exact (perm_insertionSort _ _).nodup_iff.mpr (nodup_dedup _)

theorem part_unique {p q : ℕ × List Dsuid} (hp : p ∈ a.splitByZone set)
    (hq : q ∈ a.splitByZone set) (hxp : x ∈ p.2) (hxq : x ∈ q.2) : p = q := by
  have hp2 := mem_splitByZone hp
  have hq2 := mem_splitByZone hq
  rw [hp2, mem_filter, decide_eq_true_eq] at hxp
  rw [hq2, mem_filter, decide_eq_true_eq] at hxq
  have hz : p.1 = q.1 := hxp.2.symm.trans hxq.2
  exact Prod.ext hz (by rw [hp2, hq2, hz])

theorem part_subset (hset : set ⊆ a.devices) {p : ℕ × List Dsuid}
    (hp : p ∈ a.splitByZone set) : p.2 ⊆ set ∧ p.2 ⊆ a.zoneDevices p.1 := by
  rw [mem_splitByZone hp]
  refine ⟨filter_subset_self .., fun x hx => ?_⟩
  rw [mem_filter, decide_eq_true_eq] at hx
  by_cases hz : p.1 = 0
  · rw [hz]
    exact (a.mem_zoneDevices_zero x).mpr (hset hx.1)
  · exact (a.mem_zoneDevices p.1 hz x).mpr ⟨hset hx.1, hx.2⟩

/-- **All zones.** The items for the zones address the set exactly if the picks of
every zone are separate. -/
theorem addresses_zoneItems_iff (hnodup : set.Nodup) (hset : set ⊆ a.devices)
    (hfound : ∀ p ∈ a.splitByZone set, a.Found p.1 p.2) :
    a.Addresses (a.zoneItems (a.splitByZone set)) set ↔
      ∀ p ∈ a.splitByZone set, a.Separate p.1 p.2 := by
  have hpart : ∀ p ∈ a.splitByZone set,
      (a.Addresses (a.items p.1 p.2) p.2 ↔ a.Separate p.1 p.2) := by
    intro p hp
    refine addresses_items_iff ?_ (part_subset hset hp).2 (hfound p hp)
    rw [mem_splitByZone hp]
    exact hnodup.filter _
  have hflat : (a.zoneItems (a.splitByZone set)).flatMap a.addressed =
      (a.splitByZone set).flatMap fun p => (a.items p.1 p.2).flatMap a.addressed := by
    rw [zoneItems, flatMap_assoc]
  refine ⟨fun haddr p hp => (hpart p hp).mp ?_, fun hsep => ?_⟩
  · have honce := haddr.once
    have hinside := haddr.inside
    rw [hflat] at honce hinside
    have hvalid : ∀ q ∈ a.splitByZone set, none ∉ a.items q.1 q.2 := fun q hq hnone =>
      haddr.valid (mem_flatMap.mpr ⟨q, hq, hnone⟩)
    -- the part of a present device addresses it, so no other does
    have hown : ∀ q ∈ a.splitByZone set, ∀ x ∈ q.2, a.isPresent x = true →
        x ∈ (a.items q.1 q.2).flatMap a.addressed := fun q hq x hx hpresent =>
      mem_addressed_items (part_subset hset hq).2 (hvalid q hq) hx hpresent
    refine ⟨hvalid p hp, fun x hx hpresent => ?_, fun x hx => ?_⟩
    · have hxset := (part_subset hset hp).1 hx
      exact (ExactCover.unique_of_count_flatMap hp (hown p hp x hx hpresent)
        (honce x hxset hpresent)).1
    · rcases mem_set_or_isPresent hx with hx' | hpresent
      · exact hx'
      · have hxset := hinside x (mem_flatMap.mpr ⟨p, hp, hx⟩)
        obtain ⟨q, hq, hxq⟩ := exists_part hxset
        have hunique := (ExactCover.unique_of_count_flatMap hq (hown q hq x hxq hpresent)
          (honce x hxset hpresent)).2
        by_cases hpq : p = q
        · rw [hpq]
          exact hxq
        · exact absurd hx (hunique p hp hpq)
  · have hparts := fun p hp => (hpart p hp).mpr (hsep p hp)
    refine ⟨fun hnone => ?_, fun x hx hpresent => ?_, fun x hx => ?_⟩
    · obtain ⟨p, hp, hnone⟩ := mem_flatMap.mp hnone
      exact (hparts p hp).valid hnone
    · obtain ⟨p, hp, hxp⟩ := exists_part hx
      rw [hflat, ExactCover.count_flatMap_of_unique nodup_splitByZone hp]
      · exact (hparts p hp).once x hxp hpresent
      · intro q hq hne hxq
        exact hne (part_unique hq hp ((hparts q hq).inside x hxq) hxp)
    · rw [hflat] at hx
      obtain ⟨p, hp, hx⟩ := mem_flatMap.mp hx
      exact (part_subset hset hp).1 ((hparts p hp).inside x hx)

/-! ## The whole set -/

theorem addresses_all {s : DeviceSet a} (h : s.devices.length = a.devices.length) :
    a.Addresses [a.zoneGetGroup 0 groupIDBroadcast] s.devices := by
  have hperm : s.devices.Perm a.devices :=
    (subperm_of_subset s.nodup s.subset).perm_of_length_le (Nat.le_of_eq h.symm)
  rw [zoneGetGroup, if_pos (a.broadcast 0)]
  refine ⟨by simp, fun x hx hpresent => ?_, fun x hx => ?_⟩
  · rw [flatMap_singleton]
    refine count_eq_one_of_mem (nodup_addressed _) (mem_addressed_group.2 ?_)
    exact ⟨(a.mem_zoneDevices_zero x).mpr (s.subset hx), hpresent, rfl⟩
  · rw [flatMap_singleton] at hx
    exact hperm.mem_iff.mpr (mem_devices (mem_addressed_group.1 hx).1)

theorem exact_iff_of_ok {s : DeviceSet a} {items : List (Option Item)}
    (h : a.splitUp s = .ok items) : a.Exact s ↔ a.Addresses items s.devices := by
  refine ⟨fun ⟨items', h', haddr⟩ => ?_, fun haddr => ⟨items, h, haddr⟩⟩
  rw [h] at h'
  obtain rfl := Except.ok.inj h'
  exact haddr

theorem not_exact_of_error {s : DeviceSet a} {e : Exception} (h : a.splitUp s = .error e) :
    ¬ a.Exact s := by
  rintro ⟨items, h', -⟩
  rw [h] at h'
  cases h'

/-- **Exact addressing.** The splitter addresses a set exactly if the set is
`Separable`. -/
theorem exact_iff_separable (a : Apartment) (s : DeviceSet a) :
    a.Exact s ↔ a.Separable s.devices := by
  by_cases hempty : s.devices.length = 0
  · have hsplit : a.splitUp s = .ok [] := if_neg (by rw [hempty]; exact Nat.lt_irrefl 0)
    rw [exact_iff_of_ok hsplit]
    rw [length_eq_zero_iff] at hempty
    refine iff_of_true ⟨not_mem_nil, ?_, nofun⟩ (.inl (by rw [hempty]; rfl))
    rw [hempty]
    exact nofun
  by_cases hall : s.devices.length = a.devices.length
  · have hsplit : a.splitUp s = .ok [a.zoneGetGroup 0 groupIDBroadcast] :=
      (if_pos (Nat.pos_of_ne_zero hempty)).trans (if_pos hall)
    rw [exact_iff_of_ok hsplit]
    exact iff_of_true (addresses_all hall) (.inr (.inl hall))
  have hsplit : a.splitUp s = a.bestFit s.devices :=
    (if_pos (Nat.pos_of_ne_zero hempty)).trans (if_neg hall)
  rw [Separable, or_iff_right hempty, or_iff_right hall]
  by_cases hfound : ∀ p ∈ a.splitByZone s.devices, a.Found p.1 p.2
  · have hzones := addresses_zoneItems_iff s.nodup s.subset hfound
    rw [bestFit, bestFitParts_eq hfound] at hsplit
    dsimp only at hsplit
    rw [length_zoneItems] at hsplit
    by_cases hone : 1 < a.numberOfZoneItems s.devices
    · rw [if_pos hone] at hsplit
      by_cases hzero : a.Found 0 s.devices
      · have hsubset : s.devices ⊆ a.zoneDevices 0 := fun x hx =>
          (a.mem_zoneDevices_zero x).mpr (s.subset hx)
        have hset := addresses_items_iff s.nodup hsubset hzero
        rw [bestFitZone_eq hzero] at hsplit
        dsimp only at hsplit
        rw [length_items] at hsplit
        by_cases hless : a.numberOfItems 0 s.devices < a.numberOfZoneItems s.devices
        · -- the items of zone 0 are taken
          rw [if_pos hless] at hsplit
          rw [exact_iff_of_ok hsplit, if_pos ⟨hone, hless⟩, hset]
          exact ⟨fun h => ⟨hfound, fun _ => hzero, h⟩, fun h => h.2.2⟩
        · rw [if_neg hless] at hsplit
          rw [exact_iff_of_ok hsplit, if_neg fun h => hless h.2, hzones]
          exact ⟨fun h => ⟨hfound, fun _ => hzero, h⟩, fun h => h.2.2⟩
      · obtain ⟨e, he⟩ := bestFitZone_error hzero
        rw [he] at hsplit
        exact iff_of_false (not_exact_of_error hsplit) fun h => hzero (h.2.1 hone)
    · rw [if_neg hone] at hsplit
      rw [exact_iff_of_ok hsplit, if_neg fun h => hone h.1, hzones]
      exact ⟨fun h => ⟨hfound, fun h => absurd h hone, h⟩, fun h => h.2.2⟩
  · obtain ⟨e, he⟩ := bestFitParts_error hfound
    rw [bestFit, he] at hsplit
    exact iff_of_false (not_exact_of_error hsplit) fun h => hfound h.1

def clusteredApartment : Apartment where
  devices := [1, 2, 3]
  zoneID := fun d => if d = 3 then 2 else 1
  groupIds := fun d => if d = 1 then [1, 16] else if d = 2 then [2, 16] else [1]
  isPresent := fun _ => true
  zoneDevices := fun z =>
    if z = 0 then [1, 2, 3] else [1, 2, 3].filter fun d => (if d = 3 then 2 else 1) = z
  zoneGroups := fun z => if z = 0 then List.range 40 else List.range 16
  address := id
  devices_nodup := by decide
  zoneDevices_nodup := fun z => by
    split_ifs
    · decide
    · exact List.Nodup.filter _ (by decide)
  mem_zoneDevices_zero := fun d => Iff.rfl
  mem_zoneDevices := fun z hz d => by
    rw [if_neg hz, List.mem_filter, decide_eq_true_eq]
  groupIds_valid := fun d => by
    split_ifs <;> decide
  broadcast := fun z => by
    split_ifs <;> decide

/-- Its zone 1 is addressed by a null pointer: the cluster is a group of zone 0. -/
theorem exact_fails :
    ¬ clusteredApartment.Exact ⟨[1, 2], by decide, by decide⟩ := by
  have hcommon : clusteredApartment.commonGroup [1, 2] = 16 := by
    have hinter : setIntersection ((clusteredApartment.groupIds 1).insertionSort (· ≤ ·))
        ((clusteredApartment.groupIds 2).insertionSort (· ≤ ·)) = [16] := by
      show setIntersection [1, 16] [2, 16] = [16]
      simp [setIntersection]
    rw [commonGroup, commonGroups, hinter]
    rfl
  have hzone : clusteredApartment.bestFitZone 1 [1, 2] = .ok [none] := by
    refine (if_pos rfl).trans ?_
    rw [findGroupContainingAllDevices, hcommon]
    rfl
  have hparts : clusteredApartment.splitByZone [1, 2] = [(1, [1, 2])] := by decide
  have hsplit : clusteredApartment.splitUp ⟨[1, 2], by decide, by decide⟩ = .ok [none] := by
    refine (if_pos (by decide)).trans ((if_neg (by decide)).trans ?_)
    rw [bestFit, hparts, bestFitParts, hzone]
    rfl
  rintro ⟨items, h, haddr⟩
  rw [hsplit] at h
  obtain rfl := Except.ok.inj h
  exact haddr.valid mem_cons_self

end SetSplitter.Apartment

end Dss
