import Dss.AutoClusterRelease

/-!
# Joining identical clusters

Devices are moved from one cluster into another one of the same configuration. The first move
makes every empty automatic cluster be reset, and this may be the one that is to be entered. From
then on no automatic cluster is empty, so whatever is moved later arrives.
-/

namespace Dss

open List

namespace AutoCluster

open JokerGroup

variable {D : Type} {h : House D} {a b c : Apartment D} {d e : D} {x y s m : ℕ} {l : List ℕ}

/-! ## Configurations -/

/-- Two clusters have the same configuration. -/
def Alike (a : Apartment D) (x y : ℕ) : Prop :=
  (a.cluster x).location = (a.cluster y).location ∧
    (a.cluster x).protectionClass = (a.cluster y).protectionClass

instance (a : Apartment D) (x y : ℕ) : Decidable (Alike a x y) :=
  inferInstanceAs (Decidable (_ ∧ _))

/-- Of two open clusters of one configuration, the second one has no devices. -/
def Apart (h : House D) (a : Apartment D) (x y : ℕ) : Prop :=
  isOpen a x = true → isOpen a y = true → Alike a x y → ¬ Occupied h a y

theorem automatic_of_isOpen (hopen : isOpen a x = true) : (a.cluster x).automatic = true :=
  (isOpen_iff.mp hopen).1

/-! ## Moving one device -/

variable [DecidableEq D]

def moveDevice (h : House D) (a : Apartment D) (source destination : ℕ) (d : D) : Apartment D :=
  assignDeviceToCluster (removeDeviceFromCluster h a d source) d destination

theorem isIn_moveDevice (hm : m ∈ h.clusters) : IsIn (moveDevice h a s m d) e x ↔
    (IsIn a e x ∧ ¬ (e = d ∧ x = s)) ∨ (e = d ∧ x = m) := by
  rw [moveDevice, isIn_assignDeviceToCluster (h.isCluster m hm), isIn_removeDeviceFromCluster]

theorem isIn_of_moveDevice (hm : m ∈ h.clusters) (hx : x ≠ m)
    (hin : IsIn (moveDevice h a s m d) e x) : IsIn a e x :=
  ((isIn_moveDevice hm).mp hin).elim And.left fun hboth => absurd hboth.2 hx

theorem occupied_moveDevice (hm : m ∈ h.clusters)
    (hocc : Occupied h (removeDeviceFromCluster h a d s) x) :
    Occupied h (moveDevice h a s m d) x := by
  obtain ⟨e, he, hin⟩ := hocc
  exact ⟨e, he, (isIn_assignDeviceToCluster (h.isCluster m hm)).mpr (Or.inl hin)⟩

theorem cluster_moveDevice_of_automatic
    (hauto : ((moveDevice h a s m d).cluster x).automatic = true) :
    (moveDevice h a s m d).cluster x = a.cluster x := by
  rcases cluster_removeDeviceFromCluster h a d s x with
    hsame | ⟨-, -, hreset⟩
  · exact hsame
  · have hreset' : (moveDevice h a s m d).cluster x = reset (a.cluster x) := hreset
    rw [hreset'] at hauto
    exact absurd hauto Bool.false_ne_true

theorem cluster_moveDevice (hkept : isOpen a x = true →
    ∃ e ∈ h.devices, IsIn a e x ∧ ¬ (e = d ∧ x = s)) :
    (moveDevice h a s m d).cluster x = a.cluster x := by
  rcases cluster_removeDeviceFromCluster h a d s x with
    hsame | ⟨hopen, hempty, -⟩
  · exact hsame
  · obtain ⟨e, he, hin⟩ := hkept hopen
    exact absurd ⟨e, he, isIn_removeDeviceFromCluster.mpr hin⟩ hempty

theorem filled_moveDevice (hm : m ∈ h.clusters) : Filled h (moveDevice h a s m d) :=
  fun x hx hopen => occupied_moveDevice hm (filled_removeDeviceFromCluster h a d s x hx hopen)

theorem moveClusterDevices_eq : moveClusterDevices h a s m =
    (getDevices h a s).foldl (fun a d => moveDevice h a s m d) a :=
  rfl

omit [DecidableEq D] in
theorem mem_getDevices (hs : s ∈ h.clusters) :
    d ∈ getDevices h a s ↔ d ∈ h.devices ∧ IsIn a d s := by
  rw [getDevices, List.mem_filter, isInGroup_iff (h.isCluster s hs)]

/-! ## What is left apart -/

structure Moved (h : House D) (s m : ℕ) (a b : Apartment D) : Prop where
  clusters : ∀ x, (b.cluster x).automatic = true → b.cluster x = a.cluster x
  members : ∀ x, x ≠ m → ∀ e, IsIn b e x → IsIn a e x
  destination : ∀ e ∈ h.devices, IsIn b e m → IsIn a e m ∨ IsIn a e s

omit [DecidableEq D] in
theorem Moved.refl : Moved h s m a a :=
  ⟨fun _ _ => rfl, fun _ _ _ hin => hin, fun _ _ hin => Or.inl hin⟩

omit [DecidableEq D] in
theorem Moved.isOpen (hmoved : Moved h s m a b) (hopen : isOpen b x = true) :
    b.cluster x = a.cluster x :=
  hmoved.clusters x (automatic_of_isOpen hopen)

omit [DecidableEq D] in
theorem Moved.trans (hsm : s ≠ m) (hmoved : Moved h s m a b) (hmoved' : Moved h s m b c) :
    Moved h s m a c := by
  refine ⟨fun x hauto => ?_, fun x hx e hin => hmoved.members x hx e (hmoved'.members x hx e hin),
    fun e he hin => ?_⟩
  · have hsame := hmoved'.clusters x hauto
    rw [hsame] at hauto
    exact hsame.trans (hmoved.clusters x hauto)
  · rcases hmoved'.destination e he hin with hin | hin
    · exact hmoved.destination e he hin
    · exact Or.inr (hmoved.members s hsm e hin)

omit [DecidableEq D] in
theorem Apart.moved (hapart : Apart h a x y) (hmoved : Moved h s m a b)
    (hsource : y = m → isOpen a x = true → Alike a x y → ¬ Occupied h a s) :
    Apart h b x y := by
  rintro hopenX hopenY halike ⟨e, he, hin⟩
  have hx := hmoved.isOpen hopenX
  have hy := hmoved.isOpen hopenY
  rw [isOpen_congr hx] at hopenX
  rw [isOpen_congr hy] at hopenY
  rw [Alike, hx, hy] at halike
  by_cases hym : y = m
  · subst hym
    rcases hmoved.destination e he hin with hin | hin
    · exact hapart hopenX hopenY halike ⟨e, he, hin⟩
    · exact hsource rfl hopenX halike ⟨e, he, hin⟩
  · exact hapart hopenX hopenY halike ⟨e, he, hmoved.members y hym e hin⟩

theorem moved_moveDevice (hm : m ∈ h.clusters) (hd : IsIn a d s) :
    Moved h s m a (moveDevice h a s m d) := by
  refine ⟨fun x hauto => cluster_moveDevice_of_automatic hauto,
    fun x hx e hin => isIn_of_moveDevice hm hx hin, fun e _ hin => ?_⟩
  rcases (isIn_moveDevice hm).mp hin with ⟨hin, -⟩ | ⟨rfl, -⟩
  · exact Or.inl hin
  · exact Or.inr hd

theorem isIn_source_moveDevice (hm : m ∈ h.clusters) (hin : IsIn a e s) (hne : e ≠ d) :
    IsIn (moveDevice h a s m d) e s :=
  (isIn_moveDevice hm).mpr (Or.inl ⟨hin, fun hboth => hne hboth.1⟩)

theorem moveDevices_spec (hm : m ∈ h.clusters) (hsm : s ≠ m) (l : List D) (hnodup : l.Nodup)
    (hl : ∀ d ∈ l, IsIn a d s) :
    Moved h s m a (l.foldl (fun a d => moveDevice h a s m d) a) ∧
      ∀ e, IsIn (l.foldl (fun a d => moveDevice h a s m d) a) e s → e ∉ l := by
  induction l generalizing a with
  | nil => exact ⟨Moved.refl, fun _ _ => not_mem_nil⟩
  | cons d l ih =>
    obtain ⟨hd, hnodup⟩ := nodup_cons.mp hnodup
    have hfirst := moved_moveDevice (m := m) hm (hl d mem_cons_self)
    obtain ⟨hrest, hgone⟩ := ih (a := moveDevice h a s m d) hnodup fun e he =>
      isIn_source_moveDevice hm (hl e (mem_cons_of_mem d he)) fun heq => hd (heq ▸ he)
    refine ⟨hfirst.trans hsm hrest, fun e hin hmem => ?_⟩
    rcases mem_cons.mp hmem with rfl | hmem
    · -- it has left with its own move, and does not come back
      rcases (isIn_moveDevice hm).mp (hrest.members s hsm e hin) with ⟨-, hnot⟩ | ⟨-, heq⟩
      · exact hnot ⟨rfl, rfl⟩
      · exact hsm heq
    · exact hgone e hin hmem

theorem moveClusterDevices_spec (hs : s ∈ h.clusters) (hm : m ∈ h.clusters) (hsm : s ≠ m) :
    Moved h s m a (moveClusterDevices h a s m) ∧ ¬ Occupied h (moveClusterDevices h a s m) s := by
  obtain ⟨hmoved, hgone⟩ := moveDevices_spec (a := a) hm hsm (getDevices h a s)
    (h.devices_nodup.filter _) fun d hd => ((mem_getDevices hs).mp hd).2
  refine ⟨hmoved, ?_⟩
  rintro ⟨e, he, hin⟩
  exact hgone e hin ((mem_getDevices hs).mpr ⟨he, hmoved.members s hsm e hin⟩)

theorem joinCluster_eq : joinCluster h m a s =
    if isOpen a s = true ∧ Alike a m s then moveClusterDevices h a s m else a := by
  rw [joinCluster]
  by_cases hopen : isOpen a s = true
  · rw [if_neg (by rw [hopen]; exact Bool.false_ne_true)]
    exact if_congr ⟨fun halike => ⟨hopen, halike⟩, And.right⟩ rfl rfl
  · rw [if_pos (by simpa using hopen), if_neg fun hboth => hopen hboth.1]

theorem joinCluster_spec (hs : s ∈ h.clusters) (hm : m ∈ h.clusters) (hsm : s ≠ m) :
    Moved h s m a (joinCluster h m a s) ∧ Apart h (joinCluster h m a s) m s ∧
      (joinCluster h m a s = a ∨ (isOpen a s = true ∧ Alike a m s)) := by
  rw [joinCluster_eq]
  by_cases hjoin : isOpen a s = true ∧ Alike a m s
  · rw [if_pos hjoin]
    obtain ⟨hmoved, hempty⟩ := moveClusterDevices_spec (a := a) hs hm hsm
    exact ⟨hmoved, fun _ _ _ => hempty, Or.inr hjoin⟩
  · rw [if_neg hjoin]
    exact ⟨Moved.refl, fun _ hopen halike => absurd ⟨hopen, halike⟩ hjoin, Or.inl rfl⟩

theorem Apart.joinCluster (hs : s ∈ h.clusters) (hm : m ∈ h.clusters) (hsm : s ≠ m)
    (hapart : ∀ y, y = s ∨ y = m → Apart h a x y) (hy : Apart h a x y) :
    Apart h (joinCluster h m a s) x y := by
  obtain ⟨hmoved, -, hsame | ⟨hopen, halike⟩⟩ := joinCluster_spec (a := a) hs hm hsm
  · rw [hsame]
    exact hy
  · refine hy.moved hmoved fun hym hopenX halikeX => ?_
    rw [hym] at halikeX
    exact hapart s (Or.inl rfl) hopenX hopen
      ⟨halikeX.1.trans halike.1, halikeX.2.trans halike.2⟩

theorem Apart.joinCluster_foldl (hm : m ∈ h.clusters) (l : List ℕ)
    (hl : ∀ s ∈ l, s ∈ h.clusters ∧ s ≠ m) (hym : y ≠ m) (hy : Apart h a x y) :
    Apart h (l.foldl (AutoCluster.joinCluster h m) a) x y := by
  induction l generalizing a with
  | nil => exact hy
  | cons s l ih =>
    obtain ⟨hs, hsm⟩ := hl s mem_cons_self
    have hmoved := (joinCluster_spec (a := a) hs hm hsm).1
    exact ih (fun s' hs' => hl s' (mem_cons_of_mem s hs'))
      (hy.moved hmoved fun heq => absurd heq hym)

theorem joinCluster_foldl_apart (hm : m ∈ h.clusters) (l : List ℕ)
    (hl : ∀ s ∈ l, s ∈ h.clusters ∧ s ≠ m) :
    ∀ y ∈ l, Apart h (l.foldl (joinCluster h m) a) m y := by
  induction l generalizing a with
  | nil => exact fun y hy => absurd hy not_mem_nil
  | cons s l ih =>
    obtain ⟨⟨hs, hsm⟩, hl'⟩ := forall_mem_cons.mp hl
    intro y hy
    rcases mem_cons.mp hy with rfl | hy
    · exact (joinCluster_spec hs hm hsm).2.1.joinCluster_foldl hm l hl' hsm
    · exact ih hl' y hy

theorem Apart.joinCluster_foldl_of_forall (hm : m ∈ h.clusters) (l : List ℕ)
    (hl : ∀ s ∈ l, s ∈ h.clusters ∧ s ≠ m) (hall : ∀ y, y ∈ l ∨ y = m → Apart h a x y)
    (hy : Apart h a x y) : Apart h (l.foldl (AutoCluster.joinCluster h m) a) x y := by
  induction l generalizing a with
  | nil => exact hy
  | cons s l ih =>
    obtain ⟨hs, hsm⟩ := hl s mem_cons_self
    have hstep : ∀ z, Apart h a x z → Apart h (AutoCluster.joinCluster h m a s) x z := by
      refine fun z hz => hz.joinCluster hs hm hsm fun y hy => hall y (hy.imp_left ?_)
      rintro rfl
      exact mem_cons_self
    exact ih (fun s' hs' => hl s' (mem_cons_of_mem s hs'))
      (fun z hz => hstep z (hall z (hz.imp_left (mem_cons_of_mem s)))) (hstep y hy)

theorem Apart.joinClusters (l : List ℕ) (hnodup : l.Nodup) (hl : ∀ s ∈ l, s ∈ h.clusters)
    (hall : ∀ y ∈ l, Apart h a x y) : ∀ y ∈ l, Apart h (AutoCluster.joinClusters h a l) x y := by
  suffices hgen : ∀ y, Apart h a x y → Apart h (AutoCluster.joinClusters h a l) x y from
    fun y hy => hgen y (hall y hy)
  induction l generalizing a with
  | nil => exact fun _ hy => hy
  | cons m l ih =>
    obtain ⟨hfresh, hnodup⟩ := nodup_cons.mp hnodup
    have hm := hl m mem_cons_self
    have hl' : ∀ s ∈ l, s ∈ h.clusters ∧ s ≠ m := fun s hs =>
      ⟨hl s (mem_cons_of_mem m hs), fun heq => hfresh (heq ▸ hs)⟩
    intro y hy
    have hstep : ∀ z, Apart h a x z → Apart h
        (if isOpen a m then l.foldl (AutoCluster.joinCluster h m) a else a) x z := by
      intro z hz
      split_ifs
      · refine hz.joinCluster_foldl_of_forall hm l hl' fun y hy => hall y ?_
        rcases hy with hy | rfl
        · exact mem_cons_of_mem m hy
        · exact mem_cons_self
      · exact hz
    exact ih hnodup (fun s hs => (hl' s hs).1)
      (fun z hz => hstep z (hall z (mem_cons_of_mem m hz))) y (hstep y hy)

theorem joinClusters_pairwise (l : List ℕ) (hnodup : l.Nodup) (hl : ∀ s ∈ l, s ∈ h.clusters) :
    l.Pairwise (Apart h (joinClusters h a l)) := by
  induction l generalizing a with
  | nil => exact List.Pairwise.nil
  | cons m l ih =>
    obtain ⟨hfresh, hnodup⟩ := nodup_cons.mp hnodup
    have hm := hl m mem_cons_self
    have hl' : ∀ s ∈ l, s ∈ h.clusters ∧ s ≠ m := fun s hs =>
      ⟨hl s (mem_cons_of_mem m hs), fun heq => hfresh (heq ▸ hs)⟩
    refine pairwise_cons.mpr ⟨?_, ih hnodup fun s hs => (hl' s hs).1⟩
    refine Apart.joinClusters l hnodup (fun s hs => (hl' s hs).1) fun y hy => ?_
    by_cases hopen : isOpen a m = true
    · rw [if_pos hopen]
      exact joinCluster_foldl_apart hm l hl' y hy
    · rw [if_neg hopen]
      exact fun hopen' => absurd hopen' hopen

end AutoCluster

end Dss
