import Dss.AutoClusters

/-!
# Releasing automatic clusters

The loop that resets the automatic clusters that nobody is in comes to the same as looking at each
cluster for itself: what is reset was open and empty, and everything else stays.
-/

namespace Dss

namespace AutoCluster

open JokerGroup

variable {D : Type} {h : House D} {a a' a'' : Apartment D} {d e : D} {id other : ℕ}

/-! ## Members -/

/-- A device is in a cluster. -/
def IsIn (a : Apartment D) (d : D) (id : ℕ) : Prop := id ∈ (a.device d).groups

instance (a : Apartment D) (d : D) (id : ℕ) : Decidable (IsIn a d id) :=
  inferInstanceAs (Decidable (id ∈ (a.device d).groups))

def Occupied (h : House D) (a : Apartment D) (id : ℕ) : Prop := ∃ d ∈ h.devices, IsIn a d id

/-- No cluster that could be reset is empty. -/
def Filled (h : House D) (a : Apartment D) : Prop :=
  ∀ id ∈ h.clusters, isOpen a id = true → Occupied h a id

theorem isInGroup_iff (hid : isAppUserGroup id = true) :
    (a.device d).isInGroup id = true ↔ IsIn a d id := by
  have hpos : id ≠ 0 := by
    have hrange := isAppUserGroup_iff.mp hid
    omega
  rw [ShadeDevice.isInGroup, if_neg hpos, isValidGroup_of_isAppUserGroup hid]
  simp [IsIn]

theorem isOpen_iff : isOpen a id = true ↔
    (a.cluster id).automatic = true ∧ (a.cluster id).configurationLocked = false := by
  simp [isOpen]

theorem fits_iff : fits a d id = true ↔ (a.cluster id).location = (a.device d).cardinalDirection ∧
    (a.cluster id).protectionClass = (a.device d).windProtectionClass := by
  simp [fits]

theorem isOpen_congr (hcluster : a'.cluster id = a.cluster id) : isOpen a' id = isOpen a id := by
  rw [isOpen, isOpen, hcluster]

theorem fits_congr (hcluster : a'.cluster id = a.cluster id)
    (hdirection : (a'.device d).cardinalDirection = (a.device d).cardinalDirection)
    (hclass : (a'.device d).windProtectionClass = (a.device d).windProtectionClass) :
    fits a' d id = fits a d id := by
  rw [fits, fits, hcluster, hdirection, hclass]

theorem isUnconfigured_congr
    (hdirection : (a'.device d).cardinalDirection = (a.device d).cardinalDirection)
    (hclass : (a'.device d).windProtectionClass = (a.device d).windProtectionClass) :
    isUnconfigured a' d = isUnconfigured a d := by
  rw [isUnconfigured, isUnconfigured, hdirection, hclass]

theorem isOpen_reset (hreset : a'.cluster id = reset (a.cluster id)) : isOpen a' id = false := by
  rw [isOpen, hreset]
  rfl

theorem isEmpty_getDevices_iff (hid : isAppUserGroup id = true) :
    (getDevices h a id).isEmpty = true ↔ ¬ Occupied h a id := by
  rw [List.isEmpty_iff, getDevices, List.filter_eq_nil_iff, Occupied]
  simp only [isInGroup_iff hid, not_exists, not_and]

/-! ## Releasing clusters -/

theorem release_foldl (l : List ℕ) (a : Apartment D) :
    (l.foldl (fun a id => if isOpen a id then releaseCluster h a id else a) a).device = a.device ∧
      ∀ id, (l.foldl (fun a id => if isOpen a id then releaseCluster h a id else a) a).cluster id =
        if id ∈ l ∧ isOpen a id = true ∧ (getDevices h a id).isEmpty = true then
          reset (a.cluster id)
        else a.cluster id := by
  induction l generalizing a with
  | nil => exact ⟨rfl, fun id => by simp⟩
  | cons first l ih =>
    rw [List.foldl_cons]
    set a₁ := if isOpen a first then releaseCluster h a first else a with ha₁
    have hdevice : a₁.device = a.device := by
      rw [ha₁, releaseCluster]
      split_ifs <;> rfl
    have hcluster : ∀ id, a₁.cluster id =
        if id = first ∧ isOpen a first = true ∧ (getDevices h a first).isEmpty = true then
          reset (a.cluster id)
        else a.cluster id := by
      intro id
      by_cases hid : id = first
      · rw [ha₁, releaseCluster]
        split_ifs with hopen hempty <;> simp_all [Apartment.setCluster]
      · rw [if_neg fun hall => hid hall.1, ha₁, releaseCluster]
        split_ifs
        · exact Function.update_of_ne hid _ _
        · rfl
        · rfl
    have hempty : ∀ id, getDevices h a₁ id = getDevices h a id := fun id => by
      rw [getDevices, getDevices, hdevice]
    obtain ⟨ihdevice, ihcluster⟩ := ih a₁
    refine ⟨ihdevice.trans hdevice, fun id => ?_⟩
    rw [ihcluster id, hempty id]
    by_cases hfirst : id = first ∧ isOpen a first = true ∧ (getDevices h a first).isEmpty = true
    · -- what has been reset is not open any more
      obtain ⟨rfl, hopen, hnone⟩ := hfirst
      have hreset : a₁.cluster id = reset (a.cluster id) := by
        rw [hcluster id, if_pos ⟨rfl, hopen, hnone⟩]
      rw [isOpen_reset hreset, if_neg fun hall => Bool.false_ne_true hall.2.1, hreset,
        if_pos ⟨List.mem_cons_self, hopen, hnone⟩]
    · have hsame : a₁.cluster id = a.cluster id := by
        rw [hcluster id, if_neg hfirst]
      rw [isOpen_congr hsame, hsame]
      by_cases hid : id = first
      · subst hid
        rw [if_neg fun hall => hfirst ⟨rfl, hall.2⟩, if_neg fun hall => hfirst ⟨rfl, hall.2⟩]
      · simp [List.mem_cons, hid]

theorem device_removeEmptyAutomaticCluster :
    (removeEmptyAutomaticCluster h a).device = a.device :=
  (release_foldl h.clusters a).1

theorem cluster_removeEmpty_of_empty (hid : id ∈ h.clusters) (hopen : isOpen a id = true)
    (hempty : ¬ Occupied h a id) :
    (removeEmptyAutomaticCluster h a).cluster id = reset (a.cluster id) := by
  rw [removeEmptyAutomaticCluster, (release_foldl h.clusters a).2 id, if_pos]
  exact ⟨hid, hopen, (isEmpty_getDevices_iff (h.isCluster id hid)).mpr hempty⟩

theorem cluster_removeEmpty (hkept : id ∈ h.clusters → isOpen a id = true → Occupied h a id) :
    (removeEmptyAutomaticCluster h a).cluster id = a.cluster id := by
  rw [removeEmptyAutomaticCluster, (release_foldl h.clusters a).2 id, if_neg]
  rintro ⟨hid, hopen, hempty⟩
  exact (isEmpty_getDevices_iff (h.isCluster id hid)).mp hempty (hkept hid hopen)

variable [DecidableEq D]

theorem device_removeDeviceFromCluster : (removeDeviceFromCluster h a d id).device =
    Function.update a.device d { a.device d with groups := (a.device d).groups.remove id } :=
  device_removeEmptyAutomaticCluster

theorem isIn_removeDeviceFromCluster : IsIn (removeDeviceFromCluster h a d id) e other ↔
    IsIn a e other ∧ ¬ (e = d ∧ other = id) := by
  rw [IsIn, device_removeDeviceFromCluster]
  by_cases he : e = d
  · subst he
    rw [Function.update_self, Memberships.mem_remove]
    simp [IsIn]
  · simp [IsIn, he]

theorem isIn_assignDeviceToCluster (hid : isAppUserGroup id = true) :
    IsIn (assignDeviceToCluster a d id) e other ↔ IsIn a e other ∨ (e = d ∧ other = id) := by
  rw [IsIn, assignDeviceToCluster, Apartment.setGroups]
  dsimp only
  by_cases he : e = d
  · subst he
    rw [Function.update_self, Memberships.mem_add (isValidGroup_of_isAppUserGroup hid)]
    simp [IsIn]
  · simp [IsIn, he]

theorem occupied_removeDeviceFromCluster : Occupied h (removeDeviceFromCluster h a d id) other ↔
    Occupied h (a.setGroups d ((a.device d).groups.remove id) (.removeFromGroup d id)) other := by
  rw [Occupied]
  simp only [IsIn, device_removeDeviceFromCluster]
  rfl

theorem cluster_removeDeviceFromCluster (h : House D) (a : Apartment D) (d : D) (id other : ℕ) :
    (removeDeviceFromCluster h a d id).cluster other = a.cluster other ∨
      (isOpen a other = true ∧ ¬ Occupied h (removeDeviceFromCluster h a d id) other ∧
        (removeDeviceFromCluster h a d id).cluster other = reset (a.cluster other)) := by
  by_cases hkept : other ∈ h.clusters → isOpen a other = true →
      Occupied h (removeDeviceFromCluster h a d id) other
  · left
    refine cluster_removeEmpty fun hother hopen => ?_
    exact occupied_removeDeviceFromCluster.1 (hkept hother hopen)
  · right
    simp only [not_forall] at hkept
    obtain ⟨hother, hopen, hempty⟩ := hkept
    refine ⟨hopen, hempty, ?_⟩
    exact cluster_removeEmpty_of_empty hother hopen
      fun hocc => hempty (occupied_removeDeviceFromCluster.2 hocc)

theorem filled_removeDeviceFromCluster (h : House D) (a : Apartment D) (d : D) (id : ℕ) :
    Filled h (removeDeviceFromCluster h a d id) := by
  intro other hother hopen
  by_contra hempty
  by_cases hbefore : isOpen a other = true
  · have hreset : (removeDeviceFromCluster h a d id).cluster other = reset (a.cluster other) :=
      cluster_removeEmpty_of_empty hother hbefore
        fun hocc => hempty (occupied_removeDeviceFromCluster.2 hocc)
    rw [isOpen_reset hreset] at hopen
    exact Bool.false_ne_true hopen
  · have hkept : (removeDeviceFromCluster h a d id).cluster other = a.cluster other :=
      cluster_removeEmpty fun _ hopen' => absurd hopen' hbefore
    rw [isOpen_congr hkept] at hopen
    exact hbefore hopen

theorem removeDeviceFromCluster_eq (hfilled : Filled h a) (hnot : ¬ IsIn a d id) :
    (removeDeviceFromCluster h a d id).device = a.device ∧
      (removeDeviceFromCluster h a d id).cluster = a.cluster := by
  have hdevice : (removeDeviceFromCluster h a d id).device = a.device := by
    rw [device_removeDeviceFromCluster, Memberships.remove_eq_self hnot]
    exact Function.update_eq_self d a.device
  refine ⟨hdevice, funext fun other => ?_⟩
  refine cluster_removeEmpty fun hother hopen => ?_
  rw [← occupied_removeDeviceFromCluster, Occupied]
  simp only [IsIn, hdevice]
  exact hfilled other hother hopen

end AutoCluster

end Dss
