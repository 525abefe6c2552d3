import Mathlib.Data.List.Pairwise
import Dss.AutoClusterJoin

/-!
# What joining clusters loses

A device that is moved finds the cluster that it is to enter, as long as no automatic cluster is
empty. If that cluster is empty at the first move, it is reset when the device has left its own,
and everything that is moved into it by the inner loop is stranded there.
-/

namespace Dss

open List

namespace AutoCluster

open JokerGroup

variable {D : Type} {h : House D} {a b c : Apartment D} {d e : D} {x y s m : ℕ}
  {location protection : ℕ}

/-! ## Memberships in automatic clusters -/

def Member (a : Apartment D) (e : D) (x : ℕ) : Prop :=
  (a.cluster x).automatic = true ∧ IsIn a e x

/-- Of one with a certain configuration. -/
def Has (h : House D) (a : Apartment D) (e : D) (location protection : ℕ) : Prop :=
  ∃ x ∈ h.clusters, Member a e x ∧ (a.cluster x).location = location ∧
    (a.cluster x).protectionClass = protection

/-- Devices have lost some memberships, and those that are left are as they were. -/
def Loses (h : House D) (lost : D → ℕ → Prop) (a b : Apartment D) : Prop :=
  ∀ e ∈ h.devices, ∀ x ∈ h.clusters, (Member b e x ↔ Member a e x ∧ ¬ lost e x) ∧
    (Member b e x → b.cluster x = a.cluster x)

theorem Loses.refl : Loses h (fun _ _ => False) a a :=
  fun _ _ _ _ => ⟨by simp, fun _ => rfl⟩

theorem Loses.trans {lost lost' : D → ℕ → Prop} (hab : Loses h lost a b)
    (hbc : Loses h lost' b c) : Loses h (fun e x => lost e x ∨ lost' e x) a c := by
  intro e he x hx
  obtain ⟨hiff, hsame⟩ := hab e he x hx
  obtain ⟨hiff', hsame'⟩ := hbc e he x hx
  refine ⟨?_, fun hmem => ?_⟩
  · rw [hiff', hiff, not_or, and_assoc]
  · exact (hsame' hmem).trans (hsame (hiff'.mp hmem).1)

theorem Loses.congr {lost lost' : D → ℕ → Prop} (hab : Loses h lost a b)
    (hcongr : ∀ e ∈ h.devices, ∀ x, Member a e x → (lost e x ↔ lost' e x)) :
    Loses h lost' a b := by
  intro e he x hx
  obtain ⟨hiff, hsame⟩ := hab e he x hx
  refine ⟨hiff.trans (and_congr_right fun hmem => ?_), hsame⟩
  rw [hcongr e he x hmem]

theorem Loses.has_iff {lost : D → ℕ → Prop} (hab : Loses h lost a b) (he : e ∈ h.devices) :
    Has h b e location protection ↔ ∃ x ∈ h.clusters, ¬ lost e x ∧ Member a e x ∧
      (a.cluster x).location = location ∧ (a.cluster x).protectionClass = protection := by
  constructor
  · rintro ⟨x, hx, hmem, hlocation, hprotection⟩
    obtain ⟨hiff, hsame⟩ := hab e he x hx
    rw [hsame hmem] at hlocation hprotection
    exact ⟨x, hx, (hiff.mp hmem).2, (hiff.mp hmem).1, hlocation, hprotection⟩
  · rintro ⟨x, hx, hkept, hmem, hlocation, hprotection⟩
    obtain ⟨hiff, hsame⟩ := hab e he x hx
    have hmem' := hiff.mpr ⟨hmem, hkept⟩
    rw [← hsame hmem'] at hlocation hprotection
    exact ⟨x, hx, hmem', hlocation, hprotection⟩

variable [DecidableEq D]

theorem member_moveDevice (hm : m ∈ h.clusters) (he : e ∈ h.devices) (hx : x ≠ m) :
    (Member (moveDevice h a s m d) e x ↔ Member a e x ∧ ¬ (e = d ∧ x = s)) ∧
      (Member (moveDevice h a s m d) e x → (moveDevice h a s m d).cluster x = a.cluster x) := by
  refine ⟨⟨fun hmem => ?_, fun ⟨hmem, hkept⟩ => ?_⟩,
    fun hmem => cluster_moveDevice_of_automatic hmem.1⟩
  · have hsame := cluster_moveDevice_of_automatic hmem.1
    rcases (isIn_moveDevice hm).mp hmem.2 with ⟨hin, hkept⟩ | ⟨-, heq⟩
    · exact ⟨⟨hsame ▸ hmem.1, hin⟩, hkept⟩
    · exact absurd heq hx
  · have hsame : (moveDevice h a s m d).cluster x = a.cluster x :=
      cluster_moveDevice fun _ => ⟨e, he, hmem.2, hkept⟩
    exact ⟨hsame.symm ▸ hmem.1, (isIn_moveDevice hm).mpr (Or.inl ⟨hmem.2, hkept⟩)⟩

/-! ## While no cluster is empty -/

theorem has_moveDevice (hocc : Occupied h a m) (hm : m ∈ h.clusters) (hs : s ∈ h.clusters)
    (hsm : s ≠ m) (hopen : isOpen a m = true) (hsource : isOpen a s = true) (halike : Alike a m s)
    (hin : IsIn a d s) : (moveDevice h a s m d).cluster m = a.cluster m ∧
      ∀ e ∈ h.devices, ∀ location protection,
        Has h (moveDevice h a s m d) e location protection ↔ Has h a e location protection := by
  have hsame : (moveDevice h a s m d).cluster m = a.cluster m := by
    obtain ⟨e, he, hmem⟩ := hocc
    exact cluster_moveDevice fun _ => ⟨e, he, hmem, fun hboth => hsm hboth.2.symm⟩
  refine ⟨hsame, fun e he location protection => ⟨?_, ?_⟩⟩
  · rintro ⟨x, hx, hmem, hlocation, hprotection⟩
    rw [cluster_moveDevice_of_automatic hmem.1] at hlocation hprotection
    rcases (isIn_moveDevice hm).mp hmem.2 with ⟨hbefore, -⟩ | ⟨rfl, rfl⟩
    · exact ⟨x, hx, ⟨cluster_moveDevice_of_automatic hmem.1 ▸ hmem.1, hbefore⟩, hlocation,
        hprotection⟩
    · exact ⟨s, hs, ⟨automatic_of_isOpen hsource, hin⟩, halike.1.symm.trans hlocation,
        halike.2.symm.trans hprotection⟩
  · rintro ⟨x, hx, hmem, hlocation, hprotection⟩
    by_cases hmoved : e = d ∧ x = s
    · -- the device is in the destination now
      obtain ⟨rfl, rfl⟩ := hmoved
      refine ⟨m, hm, ⟨?_, (isIn_moveDevice hm).mpr (Or.inr ⟨rfl, rfl⟩)⟩, ?_, ?_⟩
      · rw [hsame]
        exact automatic_of_isOpen hopen
      · rw [hsame]
        exact halike.1.trans hlocation
      · rw [hsame]
        exact halike.2.trans hprotection
    · have hkept : (moveDevice h a s m d).cluster x = a.cluster x :=
        cluster_moveDevice fun _ => ⟨e, he, hmem.2, hmoved⟩
      refine ⟨x, hx, ⟨?_, (isIn_moveDevice hm).mpr (Or.inl ⟨hmem.2, hmoved⟩)⟩, ?_, ?_⟩
      · rw [hkept]
        exact hmem.1
      · rw [hkept]
        exact hlocation
      · rw [hkept]
        exact hprotection

/-- Nothing gets lost: the destination stays, and the devices have what they had. -/
structure Keeps (h : House D) (m : ℕ) (a b : Apartment D) : Prop where
  filled : Filled h b
  destination : b.cluster m = a.cluster m
  has_iff : ∀ e ∈ h.devices, ∀ location protection,
    Has h b e location protection ↔ Has h a e location protection

omit [DecidableEq D] in
theorem Keeps.refl (hfilled : Filled h a) : Keeps h m a a :=
  ⟨hfilled, rfl, fun _ _ _ _ => Iff.rfl⟩

omit [DecidableEq D] in
theorem Keeps.trans (hab : Keeps h m a b) (hbc : Keeps h m b c) : Keeps h m a c :=
  ⟨hbc.filled, hbc.destination.trans hab.destination, fun e he location protection =>
    (hbc.has_iff e he location protection).trans (hab.has_iff e he location protection)⟩

theorem keeps_moveDevices (hm : m ∈ h.clusters) (hs : s ∈ h.clusters) (hsm : s ≠ m)
    (l : List D) (hnodup : l.Nodup) (hl : ∀ d ∈ l, d ∈ h.devices ∧ IsIn a d s)
    (hopen : isOpen a m = true) (hocc : Occupied h a m) (hfilled : l = [] → Filled h a)
    (hsource : l ≠ [] → isOpen a s = true ∧ Alike a m s) :
    Keeps h m a (l.foldl (fun a d => moveDevice h a s m d) a) := by
  induction l generalizing a with
  | nil => exact Keeps.refl (hfilled rfl)
  | cons d l ih =>
    obtain ⟨hfresh, hnodup⟩ := nodup_cons.mp hnodup
    obtain ⟨hopenS, halike⟩ := hsource (cons_ne_nil d l)
    obtain ⟨hsame, hhas⟩ := has_moveDevice hocc hm hs hsm hopen hopenS halike
      (hl d mem_cons_self).2
    have hstep : Keeps h m a (moveDevice h a s m d) := ⟨filled_moveDevice hm, hsame, hhas⟩
    have hstay : ∀ e ∈ l, e ∈ h.devices ∧ IsIn (moveDevice h a s m d) e s := fun e he =>
      ⟨(hl e (mem_cons_of_mem d he)).1, isIn_source_moveDevice hm
        (hl e (mem_cons_of_mem d he)).2 fun heq => hfresh (heq ▸ he)⟩
    have hopen' : isOpen (moveDevice h a s m d) m = true := by
      rw [isOpen_congr hsame]
      exact hopen
    refine hstep.trans (ih hnodup hstay hopen' (hstep.filled m hm hopen') (fun _ => hstep.filled)
      fun hne => ?_)
    · obtain ⟨next, hnext⟩ := exists_mem_of_ne_nil l hne
      have hnext' := hl next (mem_cons_of_mem d hnext)
      have hkept : (moveDevice h a s m d).cluster s = a.cluster s :=
        cluster_moveDevice fun _ =>
          ⟨next, hnext'.1, hnext'.2, fun hboth => hfresh (hboth.1 ▸ hnext)⟩
      rw [isOpen_congr hkept, Alike, hkept, hsame]
      exact ⟨hopenS, halike⟩

theorem keeps_joinCluster (hm : m ∈ h.clusters) (hs : s ∈ h.clusters) (hsm : s ≠ m)
    (hfilled : Filled h a) (hopen : isOpen a m = true) : Keeps h m a (joinCluster h m a s) := by
  rw [joinCluster_eq]
  split_ifs with hjoin
  · exact keeps_moveDevices hm hs hsm (getDevices h a s) (h.devices_nodup.filter _)
      (fun d hd => (mem_getDevices hs).mp hd) hopen (hfilled m hm hopen) (fun _ => hfilled)
      fun _ => hjoin
  · exact Keeps.refl hfilled

theorem keeps_joinCluster_foldl (hm : m ∈ h.clusters) (l : List ℕ)
    (hl : ∀ s ∈ l, s ∈ h.clusters ∧ s ≠ m) (hfilled : Filled h a) (hopen : isOpen a m = true) :
    Keeps h m a (l.foldl (joinCluster h m) a) := by
  induction l generalizing a with
  | nil => exact Keeps.refl hfilled
  | cons s l ih =>
    obtain ⟨hs, hsm⟩ := hl s mem_cons_self
    have hstep := keeps_joinCluster hm hs hsm hfilled hopen
    refine hstep.trans (ih (fun s' hs' => hl s' (mem_cons_of_mem s hs')) hstep.filled ?_)
    rw [isOpen_congr hstep.destination]
    exact hopen

theorem has_joinClusters (l : List ℕ) (hnodup : l.Nodup) (hl : ∀ s ∈ l, s ∈ h.clusters)
    (hfilled : Filled h a) : ∀ e ∈ h.devices, ∀ location protection,
      Has h (joinClusters h a l) e location protection ↔ Has h a e location protection := by
  induction l generalizing a with
  | nil => exact fun _ _ _ _ => Iff.rfl
  | cons m l ih =>
    obtain ⟨hfresh, hnodup⟩ := nodup_cons.mp hnodup
    have hl' : ∀ s ∈ l, s ∈ h.clusters ∧ s ≠ m := fun s hs =>
      ⟨hl s (mem_cons_of_mem m hs), fun heq => hfresh (heq ▸ hs)⟩
    intro e he location protection
    rw [joinClusters]
    split_ifs with hopen
    · have hkeeps := keeps_joinCluster_foldl (hl m mem_cons_self) l hl' hfilled hopen
      rw [ih hnodup (fun s hs => (hl' s hs).1) hkeeps.filled e he,
        hkeeps.has_iff e he location protection]
    · exact ih hnodup (fun s hs => (hl' s hs).1) hfilled e he location protection

/-! ## Moving devices into a cluster that has been reset -/

theorem loses_moveDevice (hm : m ∈ h.clusters) (hmanual : (a.cluster m).automatic = false) :
    (moveDevice h a s m d).cluster m = a.cluster m ∧
      Loses h (fun e x => e = d ∧ x = s) a (moveDevice h a s m d) := by
  have hsame : (moveDevice h a s m d).cluster m = a.cluster m := by
    refine cluster_moveDevice fun hopen => ?_
    rw [automatic_of_isOpen hopen] at hmanual
    exact absurd hmanual.symm Bool.false_ne_true
  refine ⟨hsame, fun e he x hx => ?_⟩
  by_cases hxm : x = m
  · subst hxm
    have hnot : ∀ b : Apartment D, (b.cluster x).automatic = false → ¬ Member b e x := by
      intro b hb hmem
      exact Bool.false_ne_true (hb.symm.trans hmem.1)
    have hmanual' : ((moveDevice h a s x d).cluster x).automatic = false := by
      rw [hsame]
      exact hmanual
    exact ⟨iff_of_false (hnot _ hmanual') fun hboth => hnot a hmanual hboth.1,
      fun hmem => absurd hmem (hnot _ hmanual')⟩
  · exact member_moveDevice hm he hxm

theorem loses_moveDevice_of_empty (hm : m ∈ h.clusters) (hopen : isOpen a m = true)
    (hempty : ¬ Occupied h a m) :
    (moveDevice h a s m d).cluster m = reset (a.cluster m) ∧
      Loses h (fun e x => e = d ∧ x = s) a (moveDevice h a s m d) := by
  have hreset : (moveDevice h a s m d).cluster m = reset (a.cluster m) := by
    rcases cluster_removeDeviceFromCluster h a d s m with
      hsame | ⟨-, -, hreset⟩
    · refine absurd ?_ hempty
      obtain ⟨e, he, hin⟩ := filled_removeDeviceFromCluster h a d s m hm
        ((isOpen_congr hsame).trans hopen)
      exact ⟨e, he, (isIn_removeDeviceFromCluster.mp hin).1⟩
    · exact hreset
  refine ⟨hreset, fun e he x hx => ?_⟩
  by_cases hxm : x = m
  · subst hxm
    have hnot : ¬ Member (moveDevice h a s x d) e x := by
      rintro ⟨hauto, -⟩
      rw [hreset] at hauto
      exact Bool.false_ne_true hauto
    exact ⟨iff_of_false hnot fun hboth => hempty ⟨e, he, hboth.1.2⟩, fun hmem => absurd hmem hnot⟩
  · exact member_moveDevice hm he hxm

theorem loses_moveDevices (hm : m ∈ h.clusters) (l : List D)
    (hmanual : (a.cluster m).automatic = false) :
    (l.foldl (fun a d => moveDevice h a s m d) a).cluster m = a.cluster m ∧
      Loses h (fun e x => e ∈ l ∧ x = s) a (l.foldl (fun a d => moveDevice h a s m d) a) := by
  induction l generalizing a with
  | nil => exact ⟨rfl, Loses.refl.congr fun e _ x _ => by simp⟩
  | cons d l ih =>
    obtain ⟨hsame, hstep⟩ := loses_moveDevice (s := s) (d := d) hm hmanual
    obtain ⟨hsame', hrest⟩ := ih (a := moveDevice h a s m d) (by rw [hsame]; exact hmanual)
    refine ⟨hsame'.trans hsame, (hstep.trans hrest).congr fun e _ x _ => ?_⟩
    rw [mem_cons, or_and_right]

theorem loses_moveClusterDevices (hm : m ∈ h.clusters) (hs : s ∈ h.clusters)
    (hmanual : (a.cluster m).automatic = false) :
    (moveClusterDevices h a s m).cluster m = a.cluster m ∧
      Loses h (fun _ x => x = s) a (moveClusterDevices h a s m) := by
  obtain ⟨hsame, hloses⟩ := loses_moveDevices (s := s) hm (getDevices h a s) hmanual
  refine ⟨hsame, hloses.congr fun e he x hmem => and_iff_right_of_imp fun hxs => ?_⟩
  exact (mem_getDevices hs).mpr ⟨he, hxs ▸ hmem.2⟩

theorem loses_moveClusterDevices_of_empty (hm : m ∈ h.clusters) (hs : s ∈ h.clusters)
    (hopen : isOpen a m = true) (hempty : ¬ Occupied h a m) (hsource : Occupied h a s) :
    (moveClusterDevices h a s m).cluster m = reset (a.cluster m) ∧
      Loses h (fun _ x => x = s) a (moveClusterDevices h a s m) := by
  rw [moveClusterDevices_eq]
  rcases hl : getDevices h a s with - | ⟨d, l⟩
  · obtain ⟨e, he, hin⟩ := hsource
    have hmem : e ∈ getDevices h a s := (mem_getDevices hs).mpr ⟨he, hin⟩
    rw [hl] at hmem
    cases hmem
  · obtain ⟨hreset, hfirst⟩ := loses_moveDevice_of_empty (s := s) (d := d) hm hopen hempty
    obtain ⟨hsame, hrest⟩ := loses_moveDevices (s := s) hm l (a := moveDevice h a s m d)
      (by rw [hreset]; rfl)
    refine ⟨hsame.trans hreset, (hfirst.trans hrest).congr fun e he x hmem => ?_⟩
    rw [← or_and_right, ← mem_cons, ← hl]
    exact and_iff_right_of_imp fun hxs => (mem_getDevices hs).mpr ⟨he, hxs ▸ hmem.2⟩

/-- A cluster is open and has no direction and no class. -/
def Blank (a : Apartment D) (x : ℕ) : Prop :=
  isOpen a x = true ∧ (a.cluster x).location = cdNone ∧ (a.cluster x).protectionClass = wpcNone

theorem loses_joinCluster_foldl (hm : m ∈ h.clusters) (l : List ℕ)
    (hl : ∀ s ∈ l, s ∈ h.clusters ∧ s ≠ m) (hmanual : (a.cluster m).automatic = false)
    (hlocation : (a.cluster m).location = cdNone)
    (hprotection : (a.cluster m).protectionClass = wpcNone) :
    Loses h (fun _ x => x ∈ l ∧ Blank a x) a (l.foldl (joinCluster h m) a) := by
  induction l generalizing a with
  | nil => exact Loses.refl.congr fun e _ x _ => by simp
  | cons s l ih =>
    obtain ⟨⟨hs, hsm⟩, hl'⟩ := forall_mem_cons.mp hl
    have hjoins : (isOpen a s = true ∧ Alike a m s) ↔ Blank a s := by
      rw [Alike, hlocation, hprotection]
      exact and_congr_right fun _ => ⟨fun heq => ⟨heq.1.symm, heq.2.symm⟩,
        fun heq => ⟨heq.1.symm, heq.2.symm⟩⟩
    have hstep : (joinCluster h m a s).cluster m = a.cluster m ∧
        Loses h (fun _ x => x = s ∧ Blank a x) a (joinCluster h m a s) := by
      rw [joinCluster_eq]
      split_ifs with hjoin
      · obtain ⟨hsame, hloses⟩ := loses_moveClusterDevices (s := s) hm hs hmanual
        refine ⟨hsame, hloses.congr fun e _ x _ => (and_iff_left_of_imp ?_).symm⟩
        rintro rfl
        exact hjoins.mp hjoin
      · refine ⟨rfl, Loses.refl.congr fun e _ x _ => iff_of_false not_false ?_⟩
        rintro ⟨rfl, hblank⟩
        exact hjoin (hjoins.mpr hblank)
    obtain ⟨hsame, hloses⟩ := hstep
    have hrest := ih (a := joinCluster h m a s) hl' (by rw [hsame]; exact hmanual)
      (by rw [hsame]; exact hlocation) (by rw [hsame]; exact hprotection)
    -- what is blank behind the first turn was so before
    have hrest' : Loses h (fun _ x => x ∈ l ∧ Blank a x) (joinCluster h m a s)
        (l.foldl (joinCluster h m) (joinCluster h m a s)) := by
      refine hrest.congr fun e he x hmem => and_congr_right fun hx => ?_
      have hkept := (hloses e he x (hl' x hx).1).2 hmem
      rw [Blank, Blank, isOpen_congr hkept, hkept]
    refine (hloses.trans hrest').congr fun e _ x _ => ?_
    rw [mem_cons, or_and_right]

/-! ## The first move -/

/-- There is something to move from one cluster into another one. -/
def joins (h : House D) (a : Apartment D) (destination index : ℕ) : Bool :=
  isOpen a index && decide (Alike a destination index) && !(getDevices h a index).isEmpty

/-- Where the loops first have something to move: the destination, the source, and the clusters
behind the source. -/
def firstJoin (h : House D) (a : Apartment D) : List ℕ → Option (ℕ × ℕ × List ℕ)
  | [] => none
  | id :: rest =>
    match if isOpen a id then rest.dropWhile fun index => !joins h a id index else [] with
    | index :: after => some (id, index, after)
    | [] => firstJoin h a rest

/-- If the destination is reset, these clusters lose their devices to it. -/
def Stranded (a : Apartment D) (source : ℕ) (after : List ℕ) (x : ℕ) : Prop :=
  x = source ∨ (x ∈ after ∧ Blank a x)

omit [DecidableEq D] in
theorem joins_iff (hs : s ∈ h.clusters) :
    joins h a m s = true ↔ (isOpen a s = true ∧ Alike a m s) ∧ Occupied h a s := by
  rw [joins, Bool.and_eq_true, Bool.and_eq_true, decide_eq_true_iff]
  refine and_congr_right fun _ => ?_
  have hempty := isEmpty_getDevices_iff (h := h) (a := a) (h.isCluster s hs)
  by_cases hocc : Occupied h a s
  · exact iff_of_true (by simpa using mt hempty.mp (not_not.mpr hocc)) hocc
  · exact iff_of_false (by simpa using hempty.mpr hocc) hocc

theorem joinCluster_of_not_joins (hjoins : joins h a m s = false) : joinCluster h m a s = a := by
  rw [joinCluster_eq]
  split_ifs with hjoin
  · rw [joins, hjoin.1, decide_eq_true hjoin.2] at hjoins
    have hnil : getDevices h a s = [] := by simpa using hjoins
    rw [moveClusterDevices, hnil]
    rfl
  · rfl

theorem joinCluster_foldl_takeWhile (l : List ℕ) :
    (l.takeWhile fun index => !joins h a m index).foldl (joinCluster h m) a = a := by
  induction l with
  | nil => rfl
  | cons s l ih =>
    rw [takeWhile_cons]
    split_ifs with hjoins
    · rw [foldl_cons, joinCluster_of_not_joins (by simpa using hjoins)]
      exact ih
    · rfl

theorem joinClusters_firstJoin (l : List ℕ) :
    (firstJoin h a l = none ∧ joinClusters h a l = a) ∨
      ∃ m s before after, firstJoin h a l = some (m, s, after) ∧
        (m :: (before ++ s :: after)) <:+ l ∧ isOpen a m = true ∧ joins h a m s = true ∧
        joinClusters h a l = joinClusters h (after.foldl (joinCluster h m) (joinCluster h m a s))
          (before ++ s :: after) := by
  induction l with
  | nil => exact Or.inl ⟨rfl, rfl⟩
  | cons m l ih =>
    by_cases hopen : isOpen a m = true
    · have hsplit := takeWhile_append_dropWhile (p := fun index => !joins h a m index) (l := l)
      rcases hdrop : l.dropWhile (fun index => !joins h a m index) with - | ⟨s, after⟩
      · rw [hdrop, append_nil] at hsplit
        have hloop := joinCluster_foldl_takeWhile (h := h) (a := a) (m := m) l
        rw [hsplit] at hloop
        rw [firstJoin, if_pos hopen, hdrop, joinClusters, if_pos hopen, hloop]
        refine ih.imp_right ?_
        rintro ⟨m', s, before, after, hfirst, hsuffix, hrest⟩
        exact ⟨m', s, before, after, hfirst, hsuffix.trans (suffix_cons m l), hrest⟩
      · right
        rw [hdrop] at hsplit
        have hloop : l.foldl (joinCluster h m) a =
            after.foldl (joinCluster h m) (joinCluster h m a s) := by
          conv_lhs => rw [← hsplit]
          rw [foldl_append, joinCluster_foldl_takeWhile, foldl_cons]
        have hjoins : joins h a m s = true := by
          have hhead := head?_dropWhile_not (fun index => !joins h a m index) l
          rw [hdrop] at hhead
          simpa using hhead
        refine ⟨m, s, l.takeWhile fun index => !joins h a m index, after, ?_, ?_, hopen, hjoins, ?_⟩
        · rw [firstJoin, if_pos hopen, hdrop]
        · exact ⟨[], congrArg (m :: ·) hsplit⟩
        · rw [joinClusters, if_pos hopen, hloop, hsplit]
    · rw [firstJoin, if_neg hopen, joinClusters, if_neg hopen]
      refine ih.imp_right ?_
      rintro ⟨m', s, before, after, hfirst, hsuffix, hrest⟩
      exact ⟨m', s, before, after, hfirst, hsuffix.trans (suffix_cons m l), hrest⟩

theorem filled_moveDevices (hm : m ∈ h.clusters) (l : List D) (hfilled : l = [] → Filled h a) :
    Filled h (l.foldl (fun a d => moveDevice h a s m d) a) := by
  induction l generalizing a with
  | nil => exact hfilled rfl
  | cons d l ih => exact ih fun _ => filled_moveDevice hm

theorem filled_joinCluster_foldl (hm : m ∈ h.clusters) (l : List ℕ) (hfilled : Filled h a) :
    Filled h (l.foldl (joinCluster h m) a) := by
  induction l generalizing a with
  | nil => exact hfilled
  | cons s l ih =>
    refine ih ?_
    rw [joinCluster_eq]
    split_ifs
    · exact filled_moveDevices hm _ fun _ => hfilled
    · exact hfilled

/-! ## The law -/

/-- No two open clusters are alike, and no device has lost one. -/
structure Joined (h : House D) (a b : Apartment D) : Prop where
  apart : ∀ x ∈ h.clusters, ∀ y ∈ h.clusters, x ≠ y → isOpen b x = true → isOpen b y = true →
    Alike b x y → ¬ (Occupied h b x ∧ Occupied h b y)
  kept : ∀ e ∈ h.devices, ∀ x ∈ h.clusters, isOpen a x = true → IsIn a e x →
    Has h b e (a.cluster x).location (a.cluster x).protectionClass

/-- The first cluster that something is to be moved into is not empty, or whoever is stranded is in
another automatic cluster of the same configuration as well. -/
def NoneStranded (h : House D) (a : Apartment D) : Prop :=
  ∀ m s after, firstJoin h a h.clusters = some (m, s, after) → Occupied h a m ∨
    ∀ e ∈ h.devices, ∀ x ∈ h.clusters, Stranded a s after x → IsIn a e x →
      ∃ y ∈ h.clusters, ¬ Stranded a s after y ∧ Member a e y ∧
        (a.cluster y).location = (a.cluster x).location ∧
        (a.cluster y).protectionClass = (a.cluster x).protectionClass

theorem apart_joinIdenticalClusters (hx : x ∈ h.clusters) (hy : y ∈ h.clusters) (hxy : x ≠ y)
    (hopenX : isOpen (joinIdenticalClusters h a) x = true)
    (hopenY : isOpen (joinIdenticalClusters h a) y = true)
    (halike : Alike (joinIdenticalClusters h a) x y) :
    ¬ (Occupied h (joinIdenticalClusters h a) x ∧ Occupied h (joinIdenticalClusters h a) y) := by
  have hpairs := joinClusters_pairwise (h := h) (a := a) h.clusters h.nodup fun _ hs => hs
  rintro ⟨hoccX, hoccY⟩
  -- one of the two comes first
  have hsymm : Std.Symm fun z z' =>
      Apart h (joinIdenticalClusters h a) z z' ∨ Apart h (joinIdenticalClusters h a) z' z :=
    ⟨fun _ _ hor => hor.symm⟩
  have hpairs' : h.clusters.Pairwise fun z z' =>
      Apart h (joinIdenticalClusters h a) z z' ∨ Apart h (joinIdenticalClusters h a) z' z :=
    hpairs.imp fun hapart => Or.inl hapart
  rcases hpairs'.forall hx hy hxy with hapart | hapart
  · exact hapart hopenX hopenY halike hoccY
  · exact hapart hopenY hopenX ⟨halike.1.symm, halike.2.symm⟩ hoccX

theorem has_joinIdenticalClusters :
    ((∀ m s after, firstJoin h a h.clusters = some (m, s, after) → Occupied h a m) ∧
      ∀ e ∈ h.devices, ∀ location protection,
        Has h (joinIdenticalClusters h a) e location protection ↔ Has h a e location protection) ∨
    ∃ m s after, firstJoin h a h.clusters = some (m, s, after) ∧ ¬ Occupied h a m ∧
      (∀ x, Stranded a s after x → isOpen a x = true) ∧
      ∀ e ∈ h.devices, ∀ location protection,
        Has h (joinIdenticalClusters h a) e location protection ↔
          ∃ x ∈ h.clusters, ¬ Stranded a s after x ∧ Member a e x ∧
            (a.cluster x).location = location ∧ (a.cluster x).protectionClass = protection := by
  rw [joinIdenticalClusters]
  obtain ⟨hnone, hsame⟩ | ⟨m, s, before, after, hfirst, hsuffix, hopen, hjoins, heq⟩ :=
    joinClusters_firstJoin (h := h) (a := a) h.clusters
  · refine Or.inl ⟨fun m s after hfirst => ?_, fun e _ location protection => ?_⟩
    · rw [hnone] at hfirst
      cases hfirst
    · rw [hsame]
  have hmem := fun z (hz : z ∈ m :: (before ++ s :: after)) => hsuffix.subset hz
  have hnodup : (m :: (before ++ s :: after)).Nodup := hsuffix.sublist.nodup h.nodup
  obtain ⟨hfresh, hrest⟩ := nodup_cons.mp hnodup
  have hm : m ∈ h.clusters := hmem m mem_cons_self
  have hafter : ∀ z ∈ s :: after, z ∈ h.clusters ∧ z ≠ m := fun z hz =>
    ⟨hmem z (mem_cons_of_mem m (mem_append_right before hz)),
      fun hzm => hfresh (hzm ▸ mem_append_right before hz)⟩
  obtain ⟨hs, hsm⟩ := hafter s mem_cons_self
  have hafter' : ∀ z ∈ after, z ∈ h.clusters ∧ z ≠ m := fun z hz =>
    hafter z (mem_cons_of_mem s hz)
  obtain ⟨hjoin, hsource⟩ := (joins_iff hs).mp hjoins
  have hmove : joinCluster h m a s = moveClusterDevices h a s m := by
    rw [joinCluster_eq, if_pos hjoin]
  have hdevices : getDevices h a s ≠ [] := by
    obtain ⟨e, he, hin⟩ := hsource
    exact ne_nil_of_mem ((mem_getDevices hs).mpr ⟨he, hin⟩)
  have hfilled : Filled h (moveClusterDevices h a s m) :=
    filled_moveDevices hm _ fun hnil => absurd hnil hdevices
  rw [heq, hmove]
  have hend := has_joinClusters (before ++ s :: after) hrest
    (fun z hz => hmem z (mem_cons_of_mem m hz)) (filled_joinCluster_foldl hm after hfilled)
  by_cases hocc : Occupied h a m
  · left
    have hfirstKeeps : Keeps h m a (moveClusterDevices h a s m) :=
      keeps_moveDevices hm hs hsm _ (h.devices_nodup.filter _)
        (fun d hd => (mem_getDevices hs).mp hd) hopen hocc (fun hnil => absurd hnil hdevices)
        fun _ => hjoin
    have hkeeps := hfirstKeeps.trans (keeps_joinCluster_foldl hm after hafter' hfilled
      ((isOpen_congr hfirstKeeps.destination).trans hopen))
    refine ⟨fun m' s' after' hfirst' => ?_, fun e he location protection => ?_⟩
    · rw [hfirst] at hfirst'
      obtain rfl := (Prod.mk.inj (Option.some.inj hfirst')).1
      exact hocc
    · rw [hend e he, hkeeps.has_iff e he location protection]
  · right
    obtain ⟨hreset, hloses⟩ := loses_moveClusterDevices_of_empty hm hs hopen hocc hsource
    have hrestLoses := loses_joinCluster_foldl hm after hafter'
      (a := moveClusterDevices h a s m) (by rw [hreset]; rfl) (by rw [hreset]; rfl)
      (by rw [hreset]; rfl)
    have hall : Loses h (fun _ x => Stranded a s after x) a
        (after.foldl (joinCluster h m) (moveClusterDevices h a s m)) := by
      have hrestLoses' : Loses h (fun _ x => x ∈ after ∧ Blank a x) (moveClusterDevices h a s m)
          (after.foldl (joinCluster h m) (moveClusterDevices h a s m)) := by
        refine hrestLoses.congr fun e he x hmem => and_congr_right fun hx => ?_
        have hkept := (hloses e he x (hafter' x hx).1).2 hmem
        rw [Blank, Blank, isOpen_congr hkept, hkept]
      exact hloses.trans hrestLoses'
    refine ⟨m, s, after, hfirst, hocc, ?_, fun e he location protection => ?_⟩
    · rintro x (rfl | ⟨-, hblank⟩)
      · exact hjoin.1
      · exact hblank.1
    · rw [hend e he, hall.has_iff he]

/-- **Joining identical clusters** meets its promise exactly if nobody is stranded. -/
theorem joined_iff (h : House D) (a : Apartment D) :
    Joined h a (joinIdenticalClusters h a) ↔ NoneStranded h a := by
  have hapart : ∀ x ∈ h.clusters, ∀ y ∈ h.clusters, x ≠ y →
      isOpen (joinIdenticalClusters h a) x = true → isOpen (joinIdenticalClusters h a) y = true →
      Alike (joinIdenticalClusters h a) x y →
      ¬ (Occupied h (joinIdenticalClusters h a) x ∧ Occupied h (joinIdenticalClusters h a) y) :=
    fun x hx y hy => apart_joinIdenticalClusters hx hy
  rcases has_joinIdenticalClusters (h := h) (a := a) with
    ⟨hocc, hhas⟩ | ⟨m, s, after, hfirst, hempty, hopen, hhas⟩
  · refine iff_of_true ⟨hapart, fun e he x hx hopen hin => ?_⟩
      fun m s after hfirst => Or.inl (hocc m s after hfirst)
    exact (hhas e he _ _).mpr ⟨x, hx, ⟨automatic_of_isOpen hopen, hin⟩, rfl, rfl⟩
  · constructor
    · intro hjoined m' s' after' hfirst'
      rw [hfirst] at hfirst'
      obtain ⟨rfl, hpair⟩ := Prod.mk.inj (Option.some.inj hfirst')
      obtain ⟨rfl, rfl⟩ := Prod.mk.inj hpair
      refine Or.inr fun e he x hx hstranded hin => ?_
      exact (hhas e he _ _).mp (hjoined.kept e he x hx (hopen x hstranded) hin)
    · intro hnone
      refine ⟨hapart, fun e he x hx hopenX hin => (hhas e he _ _).mpr ?_⟩
      by_cases hstranded : Stranded a s after x
      · exact ((hnone m s after hfirst).resolve_left hempty) e he x hx hstranded hin
      · exact ⟨x, hx, hstranded, ⟨automatic_of_isOpen hopenX, hin⟩, rfl, rfl⟩

theorem nodup_twoClusters : [16, 17].Nodup := by decide

def twoClusters : House Unit where
  devices := [()]
  devices_nodup := List.nodup_singleton ()
  clusters := [16, 17]
  nodup := nodup_twoClusters
  nonempty := List.cons_ne_nil 16 [17]
  isCluster := by decide

def bothWest : Apartment Unit where
  device := fun _ =>
    { cardinalDirection := 7, windProtectionClass := wpcNone,
      groups := { ids := [17], nodup := List.nodup_singleton 17, valid := by decide } }
  cluster := fun id =>
    { groupID := id, applicationType := .blinds, location := 7, automatic := true }
  groupID := fun _ => rfl

/-- The device leaves its cluster for one that is reset. -/
theorem joined_fails : ¬ ∀ (h : House Unit) (a : Apartment Unit),
    Joined h a (joinIdenticalClusters h a) := by
  intro hall
  obtain ⟨x, hx, ⟨hauto, hin⟩, -⟩ := (hall twoClusters bothWest).kept ()
    (mem_singleton_self ()) 17 (by decide) (by decide) (by decide)
  have hnone : ∀ x ∈ twoClusters.clusters,
      ¬ (((joinIdenticalClusters twoClusters bothWest).cluster x).automatic = true ∧
        IsIn (joinIdenticalClusters twoClusters bothWest) () x) := by
    decide
  exact hnone x hx ⟨hauto, hin⟩

end AutoCluster

end Dss
