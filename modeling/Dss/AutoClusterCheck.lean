import Dss.AutoClusterRelease

/-!
# The consistency check of a device

Removing a device from clusters can only take memberships away from it, and reset clusters that
nobody is in any more. So what has been put right for one cluster stays right while the others are
looked at.
-/

namespace Dss

open List Function

namespace AutoCluster

open JokerGroup

variable {D : Type} {h : House D} {a a' a'' : Apartment D} {d e : D} {id other : ℕ}

/-! ## Taking memberships away -/

structure Shrinks (h : House D) (d : D) (a a' : Apartment D) : Prop where
  others : ∀ e, e ≠ d → a'.device e = a.device e
  direction : (a'.device d).cardinalDirection = (a.device d).cardinalDirection
  protection : (a'.device d).windProtectionClass = (a.device d).windProtectionClass
  groups : ∀ id, IsIn a' d id → IsIn a d id
  /-- a cluster stays, or was open and is empty now -/
  clusters : ∀ id, a'.cluster id = a.cluster id ∨
    (isOpen a id = true ∧ ¬ Occupied h a' id ∧ a'.cluster id = reset (a.cluster id))

/-- A cluster is right for a device: if it is open and the device is in it, it fits. -/
def Clean (a : Apartment D) (d : D) (id : ℕ) : Prop :=
  isOpen a id = true → IsIn a d id → fits a d id = true ∧ isUnconfigured a d = false

/-- The device is to leave the cluster. -/
def Invalid (a : Apartment D) (d : D) (id : ℕ) : Prop :=
  isOpen a id = true ∧ (fits a d id = false ∨ isUnconfigured a d = true)

theorem Shrinks.refl : Shrinks h d a a :=
  ⟨fun _ _ => rfl, rfl, rfl, fun _ hin => hin, fun _ => Or.inl rfl⟩

theorem Shrinks.occupied (hs : Shrinks h d a a') (hocc : Occupied h a' id) : Occupied h a id := by
  obtain ⟨e, he, hin⟩ := hocc
  refine ⟨e, he, ?_⟩
  by_cases hed : e = d
  · rw [hed] at hin ⊢
    exact hs.groups id hin
  · rw [IsIn, hs.others e hed] at hin
    exact hin

theorem Shrinks.trans (hs : Shrinks h d a a') (hs' : Shrinks h d a' a'') : Shrinks h d a a'' := by
  refine ⟨fun e he => (hs'.others e he).trans (hs.others e he), hs'.direction.trans hs.direction,
    hs'.protection.trans hs.protection, fun id hin => hs.groups id (hs'.groups id hin),
    fun id => ?_⟩
  rcases hs.clusters id with hsame | ⟨hopen, hempty, hreset⟩
  · rcases hs'.clusters id with hsame' | ⟨hopen', hempty', hreset'⟩
    · exact Or.inl (hsame'.trans hsame)
    · rw [isOpen_congr hsame] at hopen'
      rw [hsame] at hreset'
      exact Or.inr ⟨hopen', hempty', hreset'⟩
  · -- what was reset is not open any more, so it stays
    have hclosed := isOpen_reset hreset
    rcases hs'.clusters id with hsame' | ⟨hopen', -, -⟩
    · exact Or.inr ⟨hopen, fun hocc => hempty (hs'.occupied hocc), hsame'.trans hreset⟩
    · rw [hclosed] at hopen'
      exact absurd hopen' Bool.false_ne_true

theorem Shrinks.cluster_of_isOpen (hs : Shrinks h d a a') (hopen : isOpen a' id = true) :
    a'.cluster id = a.cluster id := by
  rcases hs.clusters id with hsame | ⟨-, -, hreset⟩
  · exact hsame
  · rw [isOpen_reset hreset] at hopen
    exact absurd hopen Bool.false_ne_true

theorem Shrinks.cluster_of_not_isOpen (hs : Shrinks h d a a') (hclosed : isOpen a id = false) :
    a'.cluster id = a.cluster id := by
  rcases hs.clusters id with hsame | ⟨hopen, -, -⟩
  · exact hsame
  · rw [hclosed] at hopen
    exact absurd hopen Bool.false_ne_true

theorem Shrinks.cluster_of_occupied (hs : Shrinks h d a a') (hocc : Occupied h a' id) :
    a'.cluster id = a.cluster id := by
  rcases hs.clusters id with hsame | ⟨-, hempty, -⟩
  · exact hsame
  · exact absurd hocc hempty

theorem Shrinks.fits (hs : Shrinks h d a a') (hcluster : a'.cluster id = a.cluster id) :
    fits a' d id = fits a d id :=
  fits_congr hcluster hs.direction hs.protection

theorem Shrinks.isUnconfigured (hs : Shrinks h d a a') :
    isUnconfigured a' d = isUnconfigured a d :=
  isUnconfigured_congr hs.direction hs.protection

theorem Clean.shrinks (hclean : Clean a d id) (hs : Shrinks h d a a') : Clean a' d id := by
  intro hopen hin
  have hsame := hs.cluster_of_isOpen hopen
  rw [isOpen_congr hsame] at hopen
  rw [hs.fits hsame, hs.isUnconfigured]
  exact hclean hopen (hs.groups id hin)

/-! ## Nothing left to do -/

/-- The device is in a locked automatic cluster that fits it. -/
def InLocked (h : House D) (a : Apartment D) (d : D) : Prop :=
  ∃ id ∈ h.clusters, (a.cluster id).configurationLocked = true ∧
    (a.cluster id).automatic = true ∧ fits a d id = true ∧ IsIn a d id

/-- There is no cluster that the device could enter. -/
def Refused (h : House D) (a : Apartment D) (d : D) : Prop :=
  (findCluster h a (a.device d).cardinalDirection (a.device d).windProtectionClass = none ∧
    getEmptyCluster h a = none) ∨
  ∃ id, findCluster h a (a.device d).cardinalDirection (a.device d).windProtectionClass = some id ∧
    (a.cluster id).configurationLocked = true

/-- What holds behind `removeInvalidAssignments`. -/
structure Ready (h : House D) (a : Apartment D) (d : D) : Prop where
  clean : ∀ id ∈ h.clusters, Clean a d id
  filled : (∃ id ∈ h.clusters, Invalid a d id) → Filled h a

/-- There is nothing left to do for the device. -/
structure Settled (h : House D) (a : Apartment D) (d : D) : Prop extends Ready h a d where
  inLocked : InLocked h a d → getUnlockedClusterAssignment h a d = []
  assigned : ¬ InLocked h a d → (∃ id, getUnlockedClusterAssignment h a d = [id]) ∨
    (getUnlockedClusterAssignment h a d = [] ∧ (isUnconfigured a d = true ∨ Refused h a d))

theorem mem_getUnlockedClusterAssignment : id ∈ getUnlockedClusterAssignment h a d ↔
    id ∈ h.clusters ∧ isOpen a id = true ∧ fits a d id = true ∧ IsIn a d id := by
  rw [getUnlockedClusterAssignment, mem_filter]
  refine and_congr_right fun hid => ?_
  rw [Bool.and_eq_true, Bool.and_eq_true, isInGroup_iff (h.isCluster id hid), and_assoc]

theorem getUnlockedClusterAssignment_eq_nil (hnone : ∀ id ∈ h.clusters, isOpen a id = true →
    fits a d id = true → ¬ IsIn a d id) : getUnlockedClusterAssignment h a d = [] := by
  rw [eq_nil_iff_forall_not_mem]
  intro id hmem
  obtain ⟨hid, hopen, hfits, hin⟩ := mem_getUnlockedClusterAssignment.1 hmem
  exact hnone id hid hopen hfits hin

theorem getUnlockedClusterAssignment_eq_singleton
    (hmem : id ∈ getUnlockedClusterAssignment h a d)
    (honly : ∀ other ∈ getUnlockedClusterAssignment h a d, other = id) :
    getUnlockedClusterAssignment h a d = [id] := by
  have hnodup : (getUnlockedClusterAssignment h a d).Nodup := h.nodup.filter _
  rcases hlist : getUnlockedClusterAssignment h a d with - | ⟨first, rest⟩
  · rw [hlist] at hmem
    cases hmem
  · rw [hlist] at honly hnodup
    obtain rfl := honly first mem_cons_self
    rcases rest with - | ⟨second, rest⟩
    · rfl
    · obtain rfl := honly second (mem_cons_of_mem _ mem_cons_self)
      exact absurd mem_cons_self (nodup_cons.mp hnodup).1

theorem Settled.eq_of_isIn (hsettled : Settled h a d) (hid : id ∈ h.clusters)
    (hopen : isOpen a id = true) (hin : IsIn a d id) :
    getUnlockedClusterAssignment h a d = [id] := by
  have hmem : id ∈ getUnlockedClusterAssignment h a d :=
    mem_getUnlockedClusterAssignment.2 ⟨hid, hopen, (hsettled.clean id hid hopen hin).1, hin⟩
  by_cases hlocked : InLocked h a d
  · rw [hsettled.inLocked hlocked] at hmem
    cases hmem
  · rcases hsettled.assigned hlocked with ⟨only, hone⟩ | ⟨hnone, -⟩
    · rw [hone] at hmem ⊢
      rw [mem_singleton.mp hmem]
    · rw [hnone] at hmem
      cases hmem

theorem getFirstLockedClusterAssignment_ne_zero_iff :
    getFirstLockedClusterAssignment h a d ≠ 0 ↔ InLocked h a d := by
  rw [getFirstLockedClusterAssignment]
  rcases hfind : h.clusters.find? _ with - | id
  · have hnone := find?_eq_none.mp hfind
    refine iff_of_false (fun hne => hne rfl) ?_
    rintro ⟨id, hid, hlocked, hauto, hfits, hin⟩
    refine hnone id hid ?_
    rw [hlocked, hauto, hfits, (isInGroup_iff (h.isCluster id hid)).mpr hin]
    rfl
  · have hid := mem_of_find?_eq_some hfind
    have hall := find?_some hfind
    rw [Bool.and_eq_true, Bool.and_eq_true, Bool.and_eq_true,
      isInGroup_iff (h.isCluster id hid)] at hall
    refine iff_of_true ?_ ⟨id, hid, hall.1.1.1, hall.1.1.2, hall.1.2, hall.2⟩
    have hrange := isAppUserGroup_iff.mp (h.isCluster id hid)
    rw [Option.getD_some]
    omega

theorem isOpen_of_locked (hlocked : (a.cluster id).configurationLocked = true) :
    isOpen a id = false := by
  rw [isOpen, hlocked]
  exact Bool.and_false _

theorem InLocked.of_shrinks (hs : Shrinks h d a a') (hin : InLocked h a' d) : InLocked h a d := by
  obtain ⟨id, hid, hlocked, hauto, hfits, hin⟩ := hin
  rcases hs.clusters id with hsame | ⟨-, -, hreset⟩
  · rw [hs.fits hsame] at hfits
    rw [hsame] at hlocked hauto
    exact ⟨id, hid, hlocked, hauto, hfits, hs.groups id hin⟩
  · rw [hreset] at hauto
    exact absurd hauto Bool.false_ne_true

theorem exists_requests (hdevice : a'.device = a.device) (hcluster : a'.cluster = a.cluster) :
    ∃ requests, a' = { a with requests := requests } := by
  refine ⟨a'.requests, ?_⟩
  obtain ⟨device, cluster, groupID, requests⟩ := a
  obtain ⟨device', cluster', groupID', requests'⟩ := a'
  obtain rfl : device' = device := hdevice
  obtain rfl : cluster' = cluster := hcluster
  rfl

theorem Ready.shrinks (hready : Ready h a d) (hs : Shrinks h d a a')
    (hfilled : a' = a ∨ Filled h a') : Ready h a' d := by
  refine ⟨fun id hid => (hready.clean id hid).shrinks hs, fun hinvalid => ?_⟩
  rcases hfilled with rfl | hfilled
  · exact hready.filled hinvalid
  · exact hfilled

theorem InLocked.of_removing (hlocked : InLocked h a d) (hs : Shrinks h d a a')
    (hin : ∀ id, isOpen a id = false → IsIn a d id → IsIn a' d id) : InLocked h a' d := by
  obtain ⟨id, hid, hlock, hauto, hfits, hmem⟩ := hlocked
  have hclosed := isOpen_of_locked hlock
  have hsame := hs.cluster_of_not_isOpen hclosed
  refine ⟨id, hid, ?_, ?_, ?_, hin id hclosed hmem⟩
  · rw [hsame]
    exact hlock
  · rw [hsame]
    exact hauto
  · rw [hs.fits hsame]
    exact hfits

/-! ## Entering a cluster -/

structure Found (h : House D) (d : D) (id : ℕ) (a a' : Apartment D) : Prop where
  mem : id ∈ h.clusters
  devices : a'.device = a.device
  others : ∀ other, other ≠ id → a'.cluster other = a.cluster other
  automatic : (a'.cluster id).automatic = true
  fits : fits a' d id = true
  found : findCluster h a' (a'.device d).cardinalDirection (a'.device d).windProtectionClass =
    some id

theorem findCluster_eq {direction protection : ℕ} (hid : id ∈ h.clusters)
    (hmatch : (a.cluster id).applicationType ≠ .none ∧ (a.cluster id).protectionClass = protection ∧
      (a.cluster id).location = direction ∧ (a.cluster id).automatic = true)
    (hothers : ∀ other ∈ h.clusters, other ≠ id → ¬ ((a.cluster other).applicationType ≠ .none ∧
      (a.cluster other).protectionClass = protection ∧ (a.cluster other).location = direction ∧
      (a.cluster other).automatic = true)) :
    findCluster h a direction protection = some id := by
  rw [findCluster]
  rcases hfind : h.clusters.find? _ with - | found
  · have hnone := find?_eq_none.mp hfind id hid
    exact absurd (by simpa [and_assoc] using hmatch) hnone
  · have hmem := mem_of_find?_eq_some hfind
    have hall := find?_some hfind
    by_contra hne
    refine hothers found hmem (fun heq => hne (by rw [heq])) ?_
    simpa [and_assoc] using hall

theorem applicationType_configure {direction protection : ℕ} (hid : isAppUserGroup id = true) :
    (configure (a.cluster id) direction protection).applicationType = .blinds := by
  have hfixed : (a.cluster id).toGroup.typeIsFixed = false := by
    rw [Group.typeIsFixed, a.groupID id, isDefaultGroup_eq_false hid, Bool.false_and]
  show ((a.cluster id).toGroup.setApplicationType (some .blinds)).applicationType = _
  rw [Group.setApplicationType]
  split_ifs with hsame hyes
  · exact Option.some.inj hsame
  · rw [hfixed] at hyes
    exact absurd hyes Bool.false_ne_true
  · rfl

theorem findOrCreateCluster_spec : ∃ a' found,
    findOrCreateCluster h a (a.device d).cardinalDirection (a.device d).windProtectionClass =
      (a', found) ∧
    ((found = none ∧ a' = a ∧ Refused h a d) ∨ ∃ id, found = some id ∧ Found h d id a a') := by
  rw [findOrCreateCluster]
  rcases hfind : findCluster h a (a.device d).cardinalDirection
    (a.device d).windProtectionClass with - | id
  · have hnone := find?_eq_none.mp hfind
    rcases hempty : getEmptyCluster h a with - | id
    · exact ⟨a, none, rfl, Or.inl ⟨rfl, rfl, Or.inl ⟨hfind, hempty⟩⟩⟩
    · -- an unused cluster is made into one that fits
      have hid : id ∈ h.clusters := mem_of_find?_eq_some hempty
      refine ⟨_, some id, rfl, Or.inr ⟨id, rfl, ?_⟩⟩
      have hcluster : (a.setCluster id (configure (a.cluster id) (a.device d).cardinalDirection
          (a.device d).windProtectionClass) (groupID_configure a id _ _)).cluster id =
          configure (a.cluster id) (a.device d).cardinalDirection
            (a.device d).windProtectionClass := update_self _ _ _
      refine ⟨hid, rfl, fun other hother => update_of_ne hother _ _, ?_, ?_, ?_⟩
      · rw [hcluster]
        rfl
      · rw [fits_iff, hcluster]
        exact ⟨rfl, rfl⟩
      · refine findCluster_eq hid ?_ fun other hother hne hmatch => ?_
        · rw [hcluster, applicationType_configure (h.isCluster id hid)]
          exact ⟨ApplicationType.noConfusion, rfl, rfl, rfl⟩
        · have hsame : (a.setCluster id (configure (a.cluster id) (a.device d).cardinalDirection
              (a.device d).windProtectionClass) (groupID_configure a id _ _)).cluster other =
              a.cluster other := update_of_ne hne _ _
          rw [hsame] at hmatch
          obtain ⟨htype, hclass, hlocation, hauto⟩ := hmatch
          refine hnone other hother ?_
          simp only [Bool.and_eq_true, decide_eq_true_eq, beq_iff_eq]
          exact ⟨⟨⟨htype, hclass⟩, hlocation⟩, hauto⟩
  · have hall := find?_some hfind
    simp only [Bool.and_eq_true, decide_eq_true_eq, beq_iff_eq] at hall
    refine ⟨a, some id, rfl, Or.inr ⟨id, rfl, ?_⟩⟩
    exact ⟨mem_of_find?_eq_some hfind, rfl, fun _ _ => rfl, hall.2,
      fits_iff.mpr ⟨hall.1.2, hall.1.1.2⟩, hfind⟩

theorem settled_of_locked (hready : Ready h a d) (hnone : getUnlockedClusterAssignment h a d = [])
    (hfound : Found h d id a a') (hlock : (a'.cluster id).configurationLocked = true) :
    Settled h a' d := by
  have hclosed := isOpen_of_locked hlock
  have hother : ∀ other, isOpen a' other = true → a'.cluster other = a.cluster other := by
    intro other hopen
    refine hfound.others other fun heq => ?_
    rw [heq, hclosed] at hopen
    exact Bool.false_ne_true hopen
  have hfits : ∀ other, isOpen a' other = true → fits a' d other = fits a d other :=
    fun other hopen => fits_congr (hother other hopen) (by rw [hfound.devices])
      (by rw [hfound.devices])
  have hunconfigured : isUnconfigured a' d = isUnconfigured a d :=
    isUnconfigured_congr (by rw [hfound.devices]) (by rw [hfound.devices])
  have hin : ∀ e other, IsIn a' e other ↔ IsIn a e other := fun e other => by
    rw [IsIn, IsIn, hfound.devices]
  have hnil : getUnlockedClusterAssignment h a' d = [] := by
    refine getUnlockedClusterAssignment_eq_nil fun other hid hopen hfit hmem => ?_
    have hmem' : other ∈ getUnlockedClusterAssignment h a d :=
      mem_getUnlockedClusterAssignment.2 ⟨hid, isOpen_congr (hother other hopen) ▸ hopen,
        hfits other hopen ▸ hfit, (hin d other).mp hmem⟩
    rw [hnone] at hmem'
    cases hmem'
  refine ⟨⟨fun other hid hopen hmem => ?_, fun hinvalid third hthird hopen' => ?_⟩,
    fun _ => hnil, fun _ => Or.inr ⟨hnil, Or.inr (Or.inr ⟨id, hfound.found, hlock⟩)⟩⟩
  · rw [hfits other hopen, hunconfigured]
    exact hready.clean other hid (isOpen_congr (hother other hopen) ▸ hopen) ((hin d other).mp hmem)
  · obtain ⟨other, hid, hopen, hwhy⟩ := hinvalid
    rw [hfits other hopen, hunconfigured] at hwhy
    obtain ⟨e, he, hmem⟩ := hready.filled
      ⟨other, hid, isOpen_congr (hother other hopen) ▸ hopen, hwhy⟩ third hthird
      (isOpen_congr (hother third hopen') ▸ hopen')
    exact ⟨e, he, (hin e third).mpr hmem⟩

/-! ## The loops -/

variable [DecidableEq D]

theorem shrinks_removeDeviceFromCluster :
    Shrinks h d a (removeDeviceFromCluster h a d id) := by
  refine ⟨fun e he => ?_, ?_, ?_, fun other hin => ?_, fun other => ?_⟩
  · rw [device_removeDeviceFromCluster, update_of_ne he]
  · rw [device_removeDeviceFromCluster, update_self]
  · rw [device_removeDeviceFromCluster, update_self]
  · exact (isIn_removeDeviceFromCluster.mp hin).1
  · exact cluster_removeDeviceFromCluster _ _ _ _ _

theorem clean_removeDeviceFromCluster : Clean (removeDeviceFromCluster h a d id) d id :=
  fun _ hin => absurd ⟨rfl, rfl⟩ (isIn_removeDeviceFromCluster.mp hin).2

/-- **One turn of `removeInvalidAssignments`**: the cluster is right then, and either nothing was
to be done, or no cluster is empty. -/
theorem removeInvalidAssignment_spec (h : House D) (a : Apartment D) (d : D) (id : ℕ) :
    Shrinks h d a (removeInvalidAssignment h a d id) ∧
    Clean (removeInvalidAssignment h a d id) d id ∧
    ((removeInvalidAssignment h a d id = a ∧ ¬ Invalid a d id) ∨
      Filled h (removeInvalidAssignment h a d id)) := by
  rw [removeInvalidAssignment]
  by_cases hopen : isOpen a id = true
  · rw [if_pos hopen]
    dsimp only
    by_cases hfits : fits a d id = true
    · have hstay : (if (!fits a d id) = true then removeDeviceFromCluster h a d id else a) = a := by
        rw [if_neg (by rw [hfits]; exact Bool.false_ne_true)]
      rw [hstay, hfits, Bool.and_true]
      by_cases hunconfigured : isUnconfigured a d = true
      · rw [if_pos hunconfigured]
        exact ⟨shrinks_removeDeviceFromCluster, clean_removeDeviceFromCluster,
          Or.inr (filled_removeDeviceFromCluster _ _ _ _)⟩
      · rw [if_neg hunconfigured]
        refine ⟨Shrinks.refl, fun _ _ => ⟨hfits, by simpa using hunconfigured⟩,
          Or.inl ⟨rfl, ?_⟩⟩
        rintro ⟨-, hnot | hyes⟩
        · exact absurd (hfits.symm.trans hnot) Bool.noConfusion
        · exact hunconfigured hyes
    · -- the cluster may have been reset, and is looked at once more
      have hremove : (if (!fits a d id) = true then removeDeviceFromCluster h a d id else a) =
          removeDeviceFromCluster h a d id := by
        rw [if_pos (by simpa using hfits)]
      rw [hremove]
      split_ifs
      · exact ⟨shrinks_removeDeviceFromCluster.trans shrinks_removeDeviceFromCluster,
          clean_removeDeviceFromCluster, Or.inr (filled_removeDeviceFromCluster _ _ _ _)⟩
      · exact ⟨shrinks_removeDeviceFromCluster, clean_removeDeviceFromCluster,
          Or.inr (filled_removeDeviceFromCluster _ _ _ _)⟩
  · rw [if_neg hopen]
    exact ⟨Shrinks.refl, fun hopen' => absurd hopen' hopen,
      Or.inl ⟨rfl, fun hinvalid => hopen hinvalid.1⟩⟩

theorem isIn_removeInvalidAssignment (hclosed : isOpen a other = false) (hin : IsIn a d other) :
    IsIn (removeInvalidAssignment h a d id) d other := by
  rw [removeInvalidAssignment]
  by_cases hopen : isOpen a id = true
  · have hne : ¬ (d = d ∧ other = id) := by
      rintro ⟨-, rfl⟩
      exact Bool.false_ne_true (hclosed.symm.trans hopen)
    dsimp only
    split_ifs
    · exact isIn_removeDeviceFromCluster.mpr ⟨isIn_removeDeviceFromCluster.mpr ⟨hin, hne⟩, hne⟩
    · exact isIn_removeDeviceFromCluster.mpr ⟨hin, hne⟩
    · exact isIn_removeDeviceFromCluster.mpr ⟨hin, hne⟩
    · exact hin
  · rw [if_neg hopen]
    exact hin

theorem isIn_removeInvalid_foldl (l : List ℕ) (hclosed : isOpen a other = false)
    (hin : IsIn a d other) :
    IsIn (l.foldl (fun a id => removeInvalidAssignment h a d id) a) d other := by
  induction l generalizing a with
  | nil => exact hin
  | cons first l ih =>
    have hs := (removeInvalidAssignment_spec h a d first).1
    refine ih ?_ (isIn_removeInvalidAssignment hclosed hin)
    rw [isOpen_congr (hs.cluster_of_not_isOpen hclosed)]
    exact hclosed

/-- Its loop over some clusters. -/
theorem removeInvalid_foldl (l : List ℕ) (a : Apartment D) :
    Shrinks h d a (l.foldl (fun a id => removeInvalidAssignment h a d id) a) ∧
    (∀ id ∈ l, Clean (l.foldl (fun a id => removeInvalidAssignment h a d id) a) d id) ∧
    ((l.foldl (fun a id => removeInvalidAssignment h a d id) a = a ∧ ∀ id ∈ l, ¬ Invalid a d id) ∨
      Filled h (l.foldl (fun a id => removeInvalidAssignment h a d id) a)) := by
  induction l generalizing a with
  | nil =>
    exact ⟨Shrinks.refl, fun id hid => absurd hid not_mem_nil,
      Or.inl ⟨rfl, fun id hid => absurd hid not_mem_nil⟩⟩
  | cons first l ih =>
    rw [foldl_cons]
    obtain ⟨hfirst, hcleanFirst, hdone⟩ := removeInvalidAssignment_spec h a d first
    obtain ⟨hrest, hcleanRest, hdoneRest⟩ := ih (removeInvalidAssignment h a d first)
    refine ⟨hfirst.trans hrest, fun id hid => ?_, ?_⟩
    · rcases mem_cons.mp hid with rfl | hid
      · exact hcleanFirst.shrinks hrest
      · exact hcleanRest id hid
    · rcases hdoneRest with ⟨hsame, hvalid⟩ | hfilled
      · rw [hsame]
        rcases hdone with ⟨hsameFirst, hvalidFirst⟩ | hfilled
        · rw [hsameFirst] at hvalid ⊢
          refine Or.inl ⟨rfl, fun id hid => ?_⟩
          rcases mem_cons.mp hid with rfl | hid
          · exact hvalidFirst
          · exact hvalid id hid
        · exact Or.inr hfilled
      · exact Or.inr hfilled

theorem removeAll_spec (l : List ℕ) (a : Apartment D) :
    Shrinks h d a (l.foldl (fun a id => removeDeviceFromCluster h a d id) a) ∧
    (∀ id, IsIn (l.foldl (fun a id => removeDeviceFromCluster h a d id) a) d id ↔
      IsIn a d id ∧ id ∉ l) ∧
    (l.foldl (fun a id => removeDeviceFromCluster h a d id) a = a ∨
      Filled h (l.foldl (fun a id => removeDeviceFromCluster h a d id) a)) := by
  induction l generalizing a with
  | nil => exact ⟨Shrinks.refl, fun id => by simp, Or.inl rfl⟩
  | cons first l ih =>
    rw [foldl_cons]
    obtain ⟨hrest, hin, hdone⟩ := ih (removeDeviceFromCluster h a d first)
    refine ⟨shrinks_removeDeviceFromCluster.trans hrest, fun id => ?_, Or.inr ?_⟩
    · rw [hin id, isIn_removeDeviceFromCluster]
      simp [and_assoc]
    · rcases hdone with hsame | hfilled
      · rw [hsame]
        exact filled_removeDeviceFromCluster _ _ _ _
      · exact hfilled

/-! ## A second check -/

theorem removeDeviceFromCluster_of_filled (hfilled : Filled h a) (hnot : ¬ IsIn a d id) :
    ∃ requests, removeDeviceFromCluster h a d id = { a with requests := requests } :=
  exists_requests (removeDeviceFromCluster_eq hfilled hnot).1
    (removeDeviceFromCluster_eq hfilled hnot).2

theorem removeInvalidAssignment_of_ready (a : Apartment D) (id : ℕ) (hclean : Clean a d id)
    (hfilled : Invalid a d id → Filled h a) :
    ∃ requests, removeInvalidAssignment h a d id = { a with requests := requests } := by
  have hnot : Invalid a d id → ¬ IsIn a d id := by
    rintro ⟨hopen, hnofit | hunconfigured⟩ hin
    · exact Bool.false_ne_true (hnofit.symm.trans (hclean hopen hin).1)
    · exact Bool.false_ne_true ((hclean hopen hin).2.symm.trans hunconfigured)
  rw [removeInvalidAssignment]
  by_cases hopen : isOpen a id = true
  · dsimp only
    by_cases hfits : fits a d id = true
    · have hstay : (if (!fits a d id) = true then removeDeviceFromCluster h a d id else a) = a := by
        rw [if_neg (by rw [hfits]; exact Bool.false_ne_true)]
      rw [hstay]
      split_ifs with hleave
      · have hinvalid : Invalid a d id := ⟨hopen, Or.inr (Bool.and_eq_true _ _ ▸ hleave).1⟩
        exact removeDeviceFromCluster_of_filled (hfilled hinvalid) (hnot hinvalid)
      · exact ⟨a.requests, rfl⟩
    · have hinvalid : Invalid a d id := ⟨hopen, Or.inl (Bool.not_eq_true _ ▸ hfits)⟩
      obtain ⟨requests, hremove⟩ :=
        removeDeviceFromCluster_of_filled (hfilled hinvalid) (hnot hinvalid)
      have hfirst : (if (!fits a d id) = true then removeDeviceFromCluster h a d id else a) =
          { a with requests := requests } := by
        rw [if_pos (by simpa using hfits), hremove]
      rw [hfirst]
      split_ifs
      · exact removeDeviceFromCluster_of_filled (a := { a with requests := requests })
          (hfilled hinvalid) (hnot hinvalid)
      · exact ⟨requests, rfl⟩
  · rw [if_neg hopen]
    exact ⟨a.requests, rfl⟩

theorem removeInvalidAssignments_of_ready (hready : Ready h a d) :
    ∃ requests, removeInvalidAssignments h a d = { a with requests := requests } := by
  have hloop : ∀ (l : List ℕ), (∀ id ∈ l, id ∈ h.clusters) → ∀ requests, ∃ requests',
      l.foldl (fun a id => removeInvalidAssignment h a d id) { a with requests := requests } =
        { a with requests := requests' } := by
    intro l
    induction l with
    | nil => exact fun _ requests => ⟨requests, rfl⟩
    | cons first l ih =>
      intro hsub requests
      have hfirst := hsub first mem_cons_self
      obtain ⟨requests', hstep⟩ := removeInvalidAssignment_of_ready
        { a with requests := requests } first (hready.clean first hfirst)
        fun hinvalid => hready.filled ⟨first, hfirst, hinvalid⟩
      rw [foldl_cons, hstep]
      exact ih (fun id hid => hsub id (mem_cons_of_mem _ hid)) requests'
  exact hloop h.clusters (fun _ hid => hid) a.requests

theorem assignToOneCluster_of_settled (hsettled : Settled h a d) :
    assignToOneCluster h a d = a := by
  rw [assignToOneCluster]
  by_cases hlocked : InLocked h a d
  · rw [if_pos (getFirstLockedClusterAssignment_ne_zero_iff.2 hlocked),
      hsettled.inLocked hlocked]
    rfl
  · rw [if_neg fun hne => hlocked (getFirstLockedClusterAssignment_ne_zero_iff.1 hne)]
    rcases hsettled.assigned hlocked with ⟨id, hone⟩ | ⟨hnone, hend⟩
    · -- the one assignment is right, and stays
      obtain ⟨hid, hopen, hfits, hin⟩ := mem_getUnlockedClusterAssignment.1
        (hone ▸ mem_singleton_self id : id ∈ getUnlockedClusterAssignment h a d)
      have hconfigured := (hsettled.clean id hid hopen hin).2
      rw [hone]
      dsimp only
      rw [if_neg (by rw [hconfigured]; exact Bool.false_ne_true), foldl_cons, if_pos rfl]
      rfl
    · rw [hnone]
      by_cases hunconfigured : isUnconfigured a d = true
      · exact if_pos hunconfigured
      rw [if_neg hunconfigured, findOrCreateCluster]
      rcases hend with hyes | ⟨hfind, hempty⟩ | ⟨id, hfind, hlockedId⟩
      · exact absurd hyes hunconfigured
      · rw [hfind, hempty]
      · rw [hfind]
        exact if_pos hlockedId

theorem consistencyCheck_of_settled (hsettled : Settled h a d) :
    ∃ requests, consistencyCheck h a d = { a with requests := requests } := by
  obtain ⟨requests, hsame⟩ := removeInvalidAssignments_of_ready hsettled.toReady
  refine ⟨requests, ?_⟩
  have hsettled' : Settled h { a with requests := requests } d :=
    ⟨⟨hsettled.clean, hsettled.filled⟩, hsettled.inLocked, hsettled.assigned⟩
  rw [consistencyCheck, hsame, assignToOneCluster_of_settled hsettled']

/-! ## The first check -/

theorem ready_removeInvalidAssignments : Ready h (removeInvalidAssignments h a d) d := by
  obtain ⟨-, hclean, hdone⟩ := removeInvalid_foldl (h := h) (d := d) h.clusters a
  refine ⟨hclean, fun ⟨id, hid, hinvalid⟩ => ?_⟩
  rcases hdone with ⟨hsame, hvalid⟩ | hfilled
  · rw [removeInvalidAssignments, hsame] at hinvalid
    exact absurd hinvalid (hvalid id hid)
  · exact hfilled

theorem inLocked_removeAll (hlocked : InLocked h a d) :
    InLocked h ((getUnlockedClusterAssignment h a d).foldl
      (fun a id => removeDeviceFromCluster h a d id) a) d := by
  obtain ⟨hs, hin, -⟩ := removeAll_spec (h := h) (d := d) (getUnlockedClusterAssignment h a d) a
  refine hlocked.of_removing hs fun id hclosed hmem => (hin id).mpr ⟨hmem, fun hvalid => ?_⟩
  have hopen := (mem_getUnlockedClusterAssignment.1 hvalid).2.1
  exact Bool.false_ne_true (hclosed.symm.trans hopen)

theorem settled_of_inLocked (hready : Ready h a d) (hlocked : InLocked h a d) :
    Settled h ((getUnlockedClusterAssignment h a d).foldl
      (fun a id => removeDeviceFromCluster h a d id) a) d := by
  obtain ⟨hs, hin, hdone⟩ := removeAll_spec (h := h) (d := d) (getUnlockedClusterAssignment h a d) a
  set a' := (getUnlockedClusterAssignment h a d).foldl
    (fun a id => removeDeviceFromCluster h a d id) a
  have hlocked' : InLocked h a' d := inLocked_removeAll hlocked
  refine ⟨hready.shrinks hs hdone, fun _ => ?_, fun hnot => absurd hlocked' hnot⟩
  refine getUnlockedClusterAssignment_eq_nil fun id hid hopen hfits hmem => ?_
  have hsame := hs.cluster_of_isOpen hopen
  rw [isOpen_congr hsame] at hopen
  rw [hs.fits hsame] at hfits
  obtain ⟨hbefore, hnot⟩ := (hin id).mp hmem
  exact hnot (mem_getUnlockedClusterAssignment.2 ⟨hid, hopen, hfits, hbefore⟩)

theorem removeRest_eq (l : List ℕ) (first : ℕ) :
    l.foldl (fun a id => if id = first then a else removeDeviceFromCluster h a d id) a =
      (l.filter fun id => id ≠ first).foldl (fun a id => removeDeviceFromCluster h a d id) a := by
  rw [foldl_filter]
  congr 1
  funext a id
  by_cases hid : id = first <;> simp [hid]

theorem settled_of_first {first : ℕ} {rest : List ℕ} (hready : Ready h a d)
    (hlocked : ¬ InLocked h a d) (hd : d ∈ h.devices)
    (hvalid : getUnlockedClusterAssignment h a d = first :: rest) :
    Settled h ((first :: rest).foldl
      (fun a id => if id = first then a else removeDeviceFromCluster h a d id) a) d := by
  rw [removeRest_eq]
  obtain ⟨hs, hin, hdone⟩ :=
    removeAll_spec (h := h) (d := d) ((first :: rest).filter fun id => id ≠ first) a
  set a' := ((first :: rest).filter fun id => id ≠ first).foldl
    (fun a id => removeDeviceFromCluster h a d id) a
  obtain ⟨hid, hopen, hfits, hmem⟩ := mem_getUnlockedClusterAssignment.1
    (hvalid ▸ mem_cons_self : first ∈ getUnlockedClusterAssignment h a d)
  have hstay : IsIn a' d first := (hin first).mpr ⟨hmem, by simp⟩
  have hkept : a'.cluster first = a.cluster first := hs.cluster_of_occupied ⟨d, hd, hstay⟩
  have hone : getUnlockedClusterAssignment h a' d = [first] := by
    refine getUnlockedClusterAssignment_eq_singleton ?_ fun other hother => ?_
    · refine mem_getUnlockedClusterAssignment.2 ⟨hid, ?_, ?_, hstay⟩
      · rw [isOpen_congr hkept]
        exact hopen
      · rw [hs.fits hkept]
        exact hfits
    · obtain ⟨hid', hopen', hfits', hmem'⟩ := mem_getUnlockedClusterAssignment.1 hother
      have hsame := hs.cluster_of_isOpen hopen'
      rw [isOpen_congr hsame] at hopen'
      rw [hs.fits hsame] at hfits'
      obtain ⟨hbefore, hnot⟩ := (hin other).mp hmem'
      by_contra hne
      have hbefore' : other ∈ first :: rest :=
        hvalid ▸ mem_getUnlockedClusterAssignment.2 ⟨hid', hopen', hfits', hbefore⟩
      exact hnot (mem_filter.mpr ⟨hbefore', by simpa using hne⟩)
  refine ⟨hready.shrinks hs hdone, fun hyes => ?_, fun _ => Or.inl ⟨first, hone⟩⟩
  exact absurd (hyes.of_shrinks hs) hlocked

theorem direction_assignDeviceToCluster :
    ((assignDeviceToCluster a d id).device d).cardinalDirection = (a.device d).cardinalDirection ∧
      ((assignDeviceToCluster a d id).device d).windProtectionClass =
        (a.device d).windProtectionClass := by
  rw [assignDeviceToCluster, Apartment.setGroups]
  dsimp only
  rw [update_self]
  exact ⟨rfl, rfl⟩

theorem settled_of_entered (hready : Ready h a d) (hlocked : ¬ InLocked h a d)
    (hnone : getUnlockedClusterAssignment h a d = []) (hd : d ∈ h.devices)
    (hconfigured : isUnconfigured a d = false) (hfound : Found h d id a a')
    (hfree : (a'.cluster id).configurationLocked = false) :
    Settled h (assignDeviceToCluster a' d id) d := by
  set a'' := assignDeviceToCluster a' d id with ha''
  have hin : ∀ e other, IsIn a'' e other ↔ IsIn a e other ∨ (e = d ∧ other = id) := by
    intro e other
    rw [isIn_assignDeviceToCluster (h.isCluster id hfound.mem), IsIn, hfound.devices]
    rfl
  have hdirection : (a''.device d).cardinalDirection = (a.device d).cardinalDirection := by
    rw [direction_assignDeviceToCluster.1, hfound.devices]
  have hclass : (a''.device d).windProtectionClass = (a.device d).windProtectionClass := by
    rw [direction_assignDeviceToCluster.2, hfound.devices]
  have hsame : ∀ other, other ≠ id → a''.cluster other = a.cluster other := hfound.others
  have hopenId : isOpen a'' id = true := isOpen_iff.mpr ⟨hfound.automatic, hfree⟩
  have hfitsId : fits a'' d id = true := by
    have hcongr : fits a'' d id = fits a' d id :=
      fits_congr rfl direction_assignDeviceToCluster.1 direction_assignDeviceToCluster.2
    rw [hcongr]
    exact hfound.fits
  have hunconfigured : isUnconfigured a'' d = false := by
    rw [isUnconfigured_congr hdirection hclass]
    exact hconfigured
  have hone : getUnlockedClusterAssignment h a'' d = [id] := by
    refine getUnlockedClusterAssignment_eq_singleton ?_ fun other hother => ?_
    · exact mem_getUnlockedClusterAssignment.2
        ⟨hfound.mem, hopenId, hfitsId, (hin d id).mpr (Or.inr ⟨rfl, rfl⟩)⟩
    · obtain ⟨hid, hopen, hfits, hmem⟩ := mem_getUnlockedClusterAssignment.1 hother
      by_contra hne
      have hbefore : other ∈ getUnlockedClusterAssignment h a d := by
        refine mem_getUnlockedClusterAssignment.2 ⟨hid, ?_, ?_, ?_⟩
        · exact isOpen_congr (hsame other hne) ▸ hopen
        · exact fits_congr (hsame other hne) hdirection hclass ▸ hfits
        · exact ((hin d other).mp hmem).resolve_right fun hboth => hne hboth.2
      rw [hnone] at hbefore
      cases hbefore
  have hlocked' : ¬ InLocked h a'' d := by
    rintro ⟨other, hid, hlock, hauto, hfits, hmem⟩
    have hne : other ≠ id := by
      rintro rfl
      exact Bool.false_ne_true (hfree.symm.trans hlock)
    refine hlocked ⟨other, hid, ?_, ?_, ?_, ?_⟩
    · exact hsame other hne ▸ hlock
    · exact hsame other hne ▸ hauto
    · exact fits_congr (hsame other hne) hdirection hclass ▸ hfits
    · exact ((hin d other).mp hmem).resolve_right fun hboth => hne hboth.2
  refine ⟨⟨fun other hid hopen hmem => ?_, fun hinvalid third hthird hopen' => ?_⟩,
    fun hyes => absurd hyes hlocked', fun _ => Or.inl ⟨id, hone⟩⟩
  · by_cases hne : other = id
    · rw [hne]
      exact ⟨hfitsId, hunconfigured⟩
    · have hright := hready.clean other hid (isOpen_congr (hsame other hne) ▸ hopen)
        (((hin d other).mp hmem).resolve_right fun hboth => hne hboth.2)
      rw [fits_congr (hsame other hne) hdirection hclass, hunconfigured]
      exact ⟨hright.1, rfl⟩
  · obtain ⟨other, hid, hopen, hwhy⟩ := hinvalid
    have hne : other ≠ id := by
      rintro rfl
      rcases hwhy with hnofit | hyes
      · exact Bool.false_ne_true (hnofit.symm.trans hfitsId)
      · exact Bool.false_ne_true (hunconfigured.symm.trans hyes)
    by_cases hthirdId : third = id
    · exact ⟨d, hd, (hin d third).mpr (Or.inr ⟨rfl, hthirdId⟩)⟩
    · have hinvalid : Invalid a d other := by
        refine ⟨isOpen_congr (hsame other hne) ▸ hopen, ?_⟩
        rw [← fits_congr (hsame other hne) hdirection hclass,
          ← isUnconfigured_congr hdirection hclass]
        exact hwhy
      obtain ⟨e, he, hmem⟩ := hready.filled ⟨other, hid, hinvalid⟩ third hthird
        (isOpen_congr (hsame third hthirdId) ▸ hopen')
      exact ⟨e, he, (hin e third).mpr (Or.inl hmem)⟩

/-! ## The law -/

/-- How a check leaves the clusters of a device. -/
structure Checked (h : House D) (d : D) (unconfigured : Prop) (a a' : Apartment D) : Prop where
  fits : ∀ id ∈ h.clusters, isOpen a' id = true → IsIn a' d id → fits a' d id = true
  atMostOne : ∀ id ∈ h.clusters, ∀ other ∈ h.clusters, isOpen a' id = true →
    isOpen a' other = true → IsIn a' d id → IsIn a' d other → id = other
  none : unconfigured ∨ InLocked h a d → ∀ id ∈ h.clusters, isOpen a' id = true → ¬ IsIn a' d id
  others : ∀ e, e ≠ d → a'.device e = a.device e
  stable : (consistencyCheck h a' d).device = a'.device ∧
    (consistencyCheck h a' d).cluster = a'.cluster

structure Outcome (h : House D) (d : D) (a a' : Apartment D) : Prop where
  settled : Settled h a' d
  others : ∀ e, e ≠ d → a'.device e = a.device e
  direction : (a'.device d).cardinalDirection = (a.device d).cardinalDirection
  protection : (a'.device d).windProtectionClass = (a.device d).windProtectionClass
  locked : InLocked h a d → InLocked h a' d

theorem assignToOneCluster_outcome (hready : Ready h a d) (hd : d ∈ h.devices) :
    Outcome h d a (assignToOneCluster h a d) := by
  rw [assignToOneCluster]
  by_cases hlocked : InLocked h a d
  · rw [if_pos (getFirstLockedClusterAssignment_ne_zero_iff.2 hlocked)]
    have hs := (removeAll_spec (h := h) (d := d) (getUnlockedClusterAssignment h a d) a).1
    exact ⟨settled_of_inLocked hready hlocked, hs.others, hs.direction, hs.protection,
      inLocked_removeAll⟩
  rw [if_neg fun hne => hlocked (getFirstLockedClusterAssignment_ne_zero_iff.1 hne)]
  rcases hvalid : getUnlockedClusterAssignment h a d with - | ⟨first, rest⟩
  · by_cases hunconfigured : isUnconfigured a d = true
    · rw [if_pos hunconfigured]
      exact ⟨⟨hready, fun hyes => absurd hyes hlocked,
        fun _ => Or.inr ⟨hvalid, Or.inl hunconfigured⟩⟩, fun _ _ => rfl, rfl, rfl,
        fun hyes => hyes⟩
    rw [if_neg hunconfigured]
    obtain ⟨a', found, heq, ⟨rfl, rfl, hrefused⟩ | ⟨id, rfl, hfound⟩⟩ :=
      findOrCreateCluster_spec (h := h) (a := a) (d := d)
    · rw [heq]
      exact ⟨⟨hready, fun hyes => absurd hyes hlocked,
        fun _ => Or.inr ⟨hvalid, Or.inr hrefused⟩⟩, fun _ _ => rfl, rfl, rfl, fun hyes => hyes⟩
    · rw [heq]
      dsimp only
      by_cases hlock : (a'.cluster id).configurationLocked = true
      · rw [if_pos hlock]
        exact ⟨settled_of_locked hready hvalid hfound hlock, fun e _ => by rw [hfound.devices],
          by rw [hfound.devices], by rw [hfound.devices], fun hyes => absurd hyes hlocked⟩
      · rw [if_neg hlock]
        refine ⟨settled_of_entered hready hlocked hvalid hd (Bool.not_eq_true _ ▸ hunconfigured)
          hfound (Bool.not_eq_true _ ▸ hlock), fun e he => ?_, ?_, ?_,
          fun hyes => absurd hyes hlocked⟩
        · rw [← hfound.devices]
          exact update_of_ne he _ _
        · rw [direction_assignDeviceToCluster.1, hfound.devices]
        · rw [direction_assignDeviceToCluster.2, hfound.devices]
  · obtain ⟨hid, hopen, -, hmem⟩ := mem_getUnlockedClusterAssignment.1
      (hvalid ▸ mem_cons_self : first ∈ getUnlockedClusterAssignment h a d)
    have hconfigured := (hready.clean first hid hopen hmem).2
    dsimp only
    rw [if_neg (by rw [hconfigured]; exact Bool.false_ne_true)]
    have hs := (removeAll_spec (h := h) (d := d) ((first :: rest).filter fun id => id ≠ first) a).1
    rw [← removeRest_eq] at hs
    exact ⟨settled_of_first hready hlocked hd hvalid, hs.others, hs.direction, hs.protection,
      fun hyes => absurd hyes hlocked⟩

theorem consistencyCheck_outcome (hd : d ∈ h.devices) :
    Outcome h d a (consistencyCheck h a d) := by
  have hs : Shrinks h d a (removeInvalidAssignments h a d) := (removeInvalid_foldl h.clusters a).1
  have hout := assignToOneCluster_outcome (ready_removeInvalidAssignments (h := h) (a := a)) hd
  refine ⟨hout.settled, fun e he => (hout.others e he).trans (hs.others e he),
    hout.direction.trans hs.direction, hout.protection.trans hs.protection, fun hlocked => ?_⟩
  exact hout.locked (hlocked.of_removing hs fun id hclosed hmem =>
    isIn_removeInvalid_foldl h.clusters hclosed hmem)

/-- **The consistency check**, for any apartment and any of its devices. -/
theorem consistencyCheck_law (h : House D) (a : Apartment D) {d : D} (hd : d ∈ h.devices) :
    Checked h d ((a.device d).cardinalDirection = cdNone ∧
      (a.device d).windProtectionClass = wpcNone) a (consistencyCheck h a d) := by
  have hout := consistencyCheck_outcome (h := h) (a := a) hd
  refine ⟨fun id hid hopen hin => (hout.settled.clean id hid hopen hin).1,
    fun id hid other hother hopen hopen' hin hin' => ?_, fun hcase id hid hopen hin => ?_,
    hout.others, ?_⟩
  · have hone := hout.settled.eq_of_isIn hid hopen hin
    rw [hout.settled.eq_of_isIn hother hopen' hin'] at hone
    exact (singleton_inj.mp hone).symm
  · rcases hcase with ⟨hdirection, hclass⟩ | hlocked
    · have hright := (hout.settled.clean id hid hopen hin).2
      rw [isUnconfigured, hout.direction, hout.protection, hdirection, hclass] at hright
      cases hright
    · have hone := hout.settled.eq_of_isIn hid hopen hin
      rw [hout.settled.inLocked (hout.locked hlocked)] at hone
      cases hone
  · obtain ⟨requests, hsame⟩ := consistencyCheck_of_settled hout.settled
    rw [hsame]
    exact ⟨rfl, rfl⟩

def oneCluster : House Unit where
  devices := [()]
  devices_nodup := List.nodup_singleton ()
  clusters := [16]
  nodup := List.nodup_singleton 16
  nonempty := List.cons_ne_nil 16 []
  isCluster := by decide

theorem isValidGroup_of_mem_nil : ∀ id ∈ ([] : List ℕ), isValidGroup id = true :=
  forall_mem_nil _

def facingWest : Apartment Unit where
  device := fun _ =>
    { cardinalDirection := 7, windProtectionClass := wpcNone,
      groups := { ids := [], nodup := List.nodup_nil, valid := isValidGroup_of_mem_nil } }
  cluster := fun id => { groupID := id }
  groupID := fun _ => rfl

def eastAndWest : House Bool where
  devices := [false, true]
  devices_nodup := by decide
  clusters := [16, 20]
  nodup := by decide
  nonempty := List.cons_ne_nil 16 [20]
  isCluster := by decide

/-- One device faces west, and the other one east. -/
def facingApart : Apartment Bool where
  device := fun east =>
    { cardinalDirection := if east then 3 else 7, windProtectionClass := wpcNone,
      groups := { ids := [], nodup := List.nodup_nil, valid := isValidGroup_of_mem_nil } }
  cluster := fun id => { groupID := id }
  groupID := fun _ => rfl

theorem consistencyCheck_law_west :
    false ∈ eastAndWest.devices ∧ Checked eastAndWest false
      ((facingApart.device false).cardinalDirection = cdNone ∧
        (facingApart.device false).windProtectionClass = wpcNone) facingApart
      (consistencyCheck eastAndWest facingApart false) :=
  ⟨by decide, consistencyCheck_law eastAndWest facingApart (by decide)⟩

/-- A direction is enough to be put into a cluster. -/
theorem unconfigured_fails :
    ¬ ∀ (h : House Unit) (a : Apartment Unit) (d : Unit), d ∈ h.devices →
      Checked h d ((a.device d).cardinalDirection = cdNone ∨
        (a.device d).windProtectionClass = wpcNone) a (consistencyCheck h a d) := by
  intro hall
  have hnone := (hall oneCluster facingWest () (mem_singleton_self ())).none
    (Or.inl (Or.inr rfl)) 16 (mem_singleton_self 16)
  exact hnone (by decide) (by decide)

end AutoCluster

end Dss
