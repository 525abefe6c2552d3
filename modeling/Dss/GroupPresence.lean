import Dss.JokerGroup
import Dss.ZoneAdditionExact

/-!
# Presence of groups

A group of a zone has a flag that says whether a device of the zone that is present is one of its
members. A move sets it in the new zone, and clears it in the old one where nobody is left, for
the group ids up to 14. It counts those who are left whether they are present or not, and only
in the new zone it looks whether there is such a group at all.
-/

namespace Dss

open List Function

namespace GroupPresence

open ZoneRemoval

/-! ## Groups -/

def groupIDStandardMax : ℕ := 15

/-- `Group`, as far as it is looked at here. -/
structure Group : Type where
  /-- `getID` -/
  id : ℕ
  isPresent : Bool := false
  deriving DecidableEq

/-- `m_Groups` of a zone -/
structure Groups : Type where
  list : List Group
  nodup : (list.map Group.id).Nodup

def Groups.getGroup (gs : Groups) (id : ℕ) : Option Group :=
  gs.list.find? fun g => g.id = id

/-- `setIsPresent` for the group with an id, if there is one. -/
def Groups.setIsPresent (gs : Groups) (id : ℕ) (value : Bool) : Groups where
  list := KeyedList.modify Group.id id (fun g => { g with isPresent := value }) gs.list
  nodup := by
    have hmap := @KeyedList.map_modify _ _ Group.id gs.list id _
      (fun g => { g with isPresent := value }) fun _ => rfl
    rw [hmap]
    exact gs.nodup

def updatePresence (isIn : ℕ → Bool) : List ℕ → Groups → Groups
  | [], gs => gs
  | g :: ids, gs => updatePresence isIn ids (if isIn g then gs.setIsPresent g true else gs)

def cleanupPresence (isIn isEmpty : ℕ → Bool) : List ℕ → Groups → Groups × Option Failure
  | [], gs => (gs, none)
  | g :: ids, gs =>
    if isIn g then
      match gs.getGroup g with
      | none => (gs, some .nullPointer)
      | some _ =>
        cleanupPresence isIn isEmpty ids (if isEmpty g then gs.setIsPresent g false else gs)
    else cleanupPresence isIn isEmpty ids gs

/-! ## The apartment with its groups -/

/-- An apartment, the groups of its zones, and the memberships of its devices. -/
structure House (D : Type) : Type where
  apartment : ZoneRemoval.Apartment D
  /-- `m_Groups` of the zone with an id -/
  groups : ℤ → Groups
  /-- `m_groupIds` of a device -/
  groupIds : D → JokerGroup.Memberships

variable {D : Type} [DecidableEq D]

namespace House

def isInGroup (h : House D) (dsid : D) (id : ℕ) : Bool :=
  if id = 0 then true else if isValidGroup id then id ∈ h.groupIds dsid else false

/-- `getDevices().getByGroup` of a zone. Everybody is in group 0. -/
def getByGroup (h : House D) (zoneID : ℤ) (id : ℕ) : List (Device D) :=
  ((((h.apartment.tryGetZone zoneID).map Zone.devices).getD []).filterMap
    h.apartment.tryGetDevice).filter fun device => h.isInGroup device.dsid id

def setGroups (h : House D) (zoneID : ℤ) (gs : Groups) : House D :=
  { h with groups := Function.update h.groups zoneID gs }

def cleanUp (device : Device D) (h : House D) : House D × Option Failure :=
  let isEmpty := fun g => (h.getByGroup device.zoneID g).isEmpty
  let result := cleanupPresence (h.isInGroup device.dsid) isEmpty (List.range groupIDStandardMax)
    (h.groups device.zoneID)
  (h.setGroups device.zoneID result.1, result.2)

/-- The part of `addDeviceToZone` behind the registration of the zone. That the old zone is not
found is noticed behind the first loop. -/
def changeZone (rt : ZoneRemoval.Runtime D) (device : Device D) (zoneID : ℤ) (h : House D) :
    House D × Option Failure :=
  let h := h.setGroups zoneID (updatePresence (h.isInGroup device.dsid)
    (List.range groupIDStandardMax) (h.groups zoneID))
  match ZoneRemoval.changeZone rt device zoneID h.apartment with
  | (a, some failure) => ({ h with apartment := a }, some failure)
  | (a, none) =>
    let h := { h with apartment := a }
    if device.zoneID = 0 then (h, none) else h.cleanUp device

def addDeviceToZone (rt : ZoneRemoval.Runtime D) (device : Device D) (zoneID : ℤ) (h : House D) :
    House D × Option Failure :=
  if device.isPresent = false then
    (h, some (.exception (.runtimeError "Need device to be present")))
  else
    match h.apartment.getDSMeter rt device.dsMeterDSID with
    | .error failure => (h, some failure)
    | .ok meter =>
      if (h.apartment.tryGetZone zoneID).any fun zone => meter.dsid ∈ zone.dsMeters then
        changeZone rt device zoneID h
      else if meter.isPresent = false then
        (h, some (.exception (.runtimeError "Need dsMeter to be present")))
      else
        changeZone rt device zoneID
          { h with apartment := registered zoneID meter.dsid h.apartment }

/-! ## What is asked of the groups -/

structure IsMember (h : House D) (w : ℤ) (g : ℕ) (device : Device D) : Prop where
  found : h.apartment.tryGetDevice device.dsid = some device
  listed : Listed h.apartment w device.dsid
  member : h.isInGroup device.dsid g = true

/-- The flag of each group of a zone says whether a present device is a member. -/
def Right (h : House D) (w : ℤ) : Prop :=
  ∀ g ∈ (h.groups w).list, g.isPresent = true ↔
    ∃ device, h.IsMember w g.id device ∧ device.isPresent = true

/-- **The presence of groups is kept.** No null pointer is dereferenced, and the flags of the new
and the old zone are right. -/
def KeepsPresence (rt : ZoneRemoval.Runtime D) (device : Device D) (z : ℤ) (h : House D) : Prop :=
  (h.addDeviceToZone rt device z).2 ≠ some .nullPointer ∧
    ∀ w, w = z ∨ w = device.zoneID → w ≠ 0 → (h.apartment.tryGetZone w).isSome = true →
      (h.addDeviceToZone rt device z).1.Right w

/-- Somebody else in a group of a zone. -/
def Fellow (h : House D) (device : Device D) (w : ℤ) (g : ℕ) (other : Device D) : Prop :=
  h.IsMember w g other ∧ other.dsid ≠ device.dsid

/-- When the presence of groups is kept: the loops reach the groups that matter, and the old zone
is not left to absent devices. -/
structure Orderly (h : House D) (device : Device D) (z : ℤ) : Prop where
  enters : device.zoneID ≠ z → ∀ g ∈ (h.groups z).list, groupIDStandardMax ≤ g.id →
    h.isInGroup device.dsid g.id = true → g.isPresent = true
  known : device.zoneID ≠ 0 → (h.apartment.tryGetZone device.zoneID).isSome = true →
    ∀ g < groupIDStandardMax, h.isInGroup device.dsid g = true →
      ((h.groups device.zoneID).getGroup g).isSome = true
  /-- those who are left in a group are not all absent; and where the group is not reached,
  somebody is left -/
  leaves : device.zoneID ≠ 0 → (h.apartment.tryGetZone device.zoneID).isSome = true →
    ∀ g ∈ (h.groups device.zoneID).list, h.isInGroup device.dsid g.id = true →
      (g.id < groupIDStandardMax →
        device.zoneID = z ∨ Listed h.apartment device.zoneID device.dsid →
        (∃ other, h.Fellow device device.zoneID g.id other) →
        ∃ other, h.Fellow device device.zoneID g.id other ∧ other.isPresent = true) ∧
      (groupIDStandardMax ≤ g.id → Listed h.apartment device.zoneID device.dsid →
        ∃ other, h.Fellow device device.zoneID g.id other ∧ other.isPresent = true)

end House

/-! ## The loops -/

section Loops

variable {isIn isEmpty : ℕ → Bool} {gs : Groups} {ids : List ℕ}

def setAll (p : ℕ → Bool) (value : Bool) (l : List Group) : List Group :=
  l.map fun g => if p g.id then { g with isPresent := value } else g

theorem list_setIsPresent (id : ℕ) (value : Bool) :
    (gs.setIsPresent id value).list = setAll (fun other => other = id) value gs.list := by
  show gs.list.map _ = gs.list.map _
  simp only [decide_eq_true_eq]

theorem setAll_setAll (p q : ℕ → Bool) (value : Bool) (l : List Group) :
    setAll p value (setAll q value l) = setAll (fun id => p id || q id) value l := by
  rw [setAll, setAll, map_map]
  refine map_congr_left fun g _ => ?_
  rcases hq : q g.id with - | - <;> rcases hp : p g.id with - | - <;> simp [hp, hq]

theorem setAll_false (value : Bool) (l : List Group) : setAll (fun _ => false) value l = l := by
  simp [setAll]

theorem map_id_setAll (p : ℕ → Bool) (value : Bool) (l : List Group) :
    (setAll p value l).map Group.id = l.map Group.id := by
  rw [setAll, map_map]
  refine map_congr_left fun g _ => ?_
  rw [comp_apply]
  split_ifs <;> rfl

theorem list_updatePresence :
    (updatePresence isIn ids gs).list =
      setAll (fun id => decide (id ∈ ids) && isIn id) true gs.list := by
  induction ids generalizing gs with
  | nil => simp [updatePresence, setAll_false]
  | cons g ids ih =>
    rw [updatePresence, ih]
    rcases hin : isIn g with - | -
    · refine congrArg (fun p => setAll p true gs.list) (funext fun id => ?_)
      by_cases hid : id = g
      · simp [hid, hin]
      · simp [hid]
    · rw [if_pos rfl, list_setIsPresent, setAll_setAll]
      refine congrArg (fun p => setAll p true gs.list) (funext fun id => ?_)
      by_cases hid : id = g
      · simp [hid, hin]
      · simp [hid]

theorem isSome_getGroup_iff {id : ℕ} :
    (gs.getGroup id).isSome = true ↔ id ∈ gs.list.map Group.id := by
  simp [Groups.getGroup, find?_isSome]

theorem cleanupPresence_spec :
    ((∀ g ∈ ids, isIn g = true → (gs.getGroup g).isSome = true) ∧
      (cleanupPresence isIn isEmpty ids gs).2 = none ∧
      (cleanupPresence isIn isEmpty ids gs).1.list =
        setAll (fun id => decide (id ∈ ids) && (isIn id && isEmpty id)) false gs.list) ∨
    ((¬ ∀ g ∈ ids, isIn g = true → (gs.getGroup g).isSome = true) ∧
      (cleanupPresence isIn isEmpty ids gs).2 = some .nullPointer) := by
  induction ids generalizing gs with
  | nil => exact Or.inl ⟨nofun, rfl, by simp [cleanupPresence, setAll_false]⟩
  | cons g ids ih =>
    rw [cleanupPresence]
    rcases hin : isIn g with - | -
    · rcases @ih gs with ⟨hall, hnone, hlist⟩ | ⟨hmissing, hnull⟩
      · refine Or.inl ⟨?_, hnone, hlist.trans ?_⟩
        · intro id hid hyes
          rcases mem_cons.mp hid with rfl | hid
          · exact absurd (hin.symm.trans hyes) Bool.false_ne_true
          · exact hall id hid hyes
        · refine congrArg (fun p => setAll p false gs.list) (funext fun id => ?_)
          by_cases hid : id = g
          · simp [hid, hin]
          · simp [hid]
      · refine Or.inr ⟨fun hall => hmissing fun id hid => ?_, hnull⟩
        exact hall id (mem_cons_of_mem _ hid)
    · rw [if_pos rfl]
      rcases hgroup : gs.getGroup g with - | group
      · refine Or.inr ⟨fun hall => ?_, rfl⟩
        have hsome := hall g mem_cons_self hin
        rw [hgroup] at hsome
        cases hsome
      · generalize hnext : (if isEmpty g = true then gs.setIsPresent g false else gs) = next
        have hlist : next.list =
            setAll (fun id => decide (id = g) && isEmpty id) false gs.list := by
          rw [← hnext]
          split_ifs with hempty
          · rw [list_setIsPresent]
            refine congrArg (fun p => setAll p false gs.list) (funext fun id => ?_)
            by_cases hid : id = g
            · simp [hid, hempty]
            · simp [hid]
          · rw [← setAll_false false gs.list, setAll_setAll]
            refine congrArg (fun p => setAll p false gs.list) (funext fun id => ?_)
            by_cases hid : id = g
            · simp [hid, hempty]
            · simp [hid]
        -- the same groups are there
        have hsome : ∀ id, (next.getGroup id).isSome = (gs.getGroup id).isSome := by
          intro id
          rw [Bool.eq_iff_iff, isSome_getGroup_iff, isSome_getGroup_iff, hlist, map_id_setAll]
        rcases @ih next with ⟨hall, hnone, hlist'⟩ | ⟨hmissing, hnull⟩
        · refine Or.inl ⟨?_, hnone, ?_⟩
          · intro id hid hyes
            rcases mem_cons.mp hid with rfl | hid
            · rw [hgroup]
              rfl
            · rw [← hsome]
              exact hall id hid hyes
          · rw [hlist', hlist, setAll_setAll]
            refine congrArg (fun p => setAll p false gs.list) (funext fun id => ?_)
            by_cases hid : id = g
            · simp [hid, hin]
            · simp [hid]
        · refine Or.inr ⟨fun hall => hmissing fun id hid hyes => ?_, hnull⟩
          rw [hsome]
          exact hall id (mem_cons_of_mem _ hid) hyes

end Loops

/-! ## What a move leaves -/

namespace House

variable {rt : ZoneRemoval.Runtime D} {h k : House D} {device dev other : Device D} {w z : ℤ}
  {g : ℕ}

theorem mem_getByGroup (hzones : (h.apartment.zones.map Zone.id).Nodup) :
    other ∈ h.getByGroup w g ↔ h.IsMember w g other := by
  rw [getByGroup, mem_filter, mem_filterMap]
  constructor
  · rintro ⟨⟨id, hid, hfound⟩, hmember⟩
    obtain rfl := (KeyedList.key_of_find? hfound).2
    refine ⟨hfound, ?_, hmember⟩
    rcases hzone : h.apartment.tryGetZone w with - | zone
    · rw [hzone] at hid
      cases hid
    · rw [hzone] at hid
      obtain ⟨hmem, heq⟩ := mem_of_tryGetZone hzone
      exact ⟨zone, hmem, heq, hid⟩
  · rintro ⟨hfound, ⟨zone, hmem, rfl, hlisted⟩, hmember⟩
    have hzone : h.apartment.tryGetZone zone.id = some zone :=
      (KeyedList.find?_eq_some_iff hzones).mpr ⟨hmem, rfl⟩
    refine ⟨⟨other.dsid, ?_, hfound⟩, hmember⟩
    rw [hzone]
    exact hlisted

theorem exists_present_iff (hfound : k.apartment.tryGetDevice device.dsid = some dev)
    (hpresent : dev.isPresent = true) :
    (∃ other, k.IsMember w g other ∧ other.isPresent = true) ↔
      (∃ other, k.Fellow device w g other ∧ other.isPresent = true) ∨
        (Listed k.apartment w device.dsid ∧ k.isInGroup device.dsid g = true) := by
  have hdsid : dev.dsid = device.dsid := (KeyedList.key_of_find? hfound).2
  constructor
  · rintro ⟨other, hmember, hother⟩
    by_cases heq : other.dsid = device.dsid
    · rw [← heq]
      exact Or.inr ⟨hmember.listed, hmember.member⟩
    · exact Or.inl ⟨other, ⟨hmember, heq⟩, hother⟩
  · rintro (⟨other, ⟨hmember, -⟩, hother⟩ | ⟨hlisted, hin⟩)
    · exact ⟨other, hmember, hother⟩
    · refine ⟨dev, ⟨?_, ?_, ?_⟩, hpresent⟩
      · rw [hdsid, hfound]
      · rwa [hdsid]
      · rwa [hdsid]

theorem fellow_iff (hmoved : Moved z device h.apartment k.apartment)
    (hids : k.groupIds = h.groupIds) : k.Fellow device w g other ↔ h.Fellow device w g other := by
  refine and_congr_left fun hne => ?_
  have hin : k.isInGroup other.dsid g = h.isInGroup other.dsid g := by
    rw [isInGroup, isInGroup, hids]
  constructor
  · rintro ⟨hfound, hlisted, hmember⟩
    exact ⟨(hmoved.tryGetDevice_of_ne hne).symm.trans hfound,
      (hmoved.listed_of_ne hne w).mp hlisted, hin.symm.trans hmember⟩
  · rintro ⟨hfound, hlisted, hmember⟩
    exact ⟨(hmoved.tryGetDevice_of_ne hne).trans hfound, (hmoved.listed_of_ne hne w).mpr hlisted,
      hin.trans hmember⟩

theorem snd_changeZone (rt : ZoneRemoval.Runtime D) (device : Device D) (z : ℤ)
    (a : ZoneRemoval.Apartment D) :
    (ZoneRemoval.changeZone rt device z a).2 =
      if device.zoneID ≠ 0 ∧ (a.tryGetZone device.zoneID).isSome = false then
        some (ZoneRemoval.Apartment.zoneNotFound device.zoneID)
      else none := by
  have hsome := @ZoneRemoval.isSome_tryGetZone_entered D _ a device z
  rw [ZoneRemoval.entered] at hsome
  rw [ZoneRemoval.changeZone, ZoneRemoval.Apartment.removeFromZone]
  by_cases hold : device.zoneID = 0
  · simp [hold]
  · rcases hzone : ZoneRemoval.Apartment.tryGetZone (ZoneRemoval.Apartment.modifyZone z _ _)
        device.zoneID with - | zone
    · rw [hzone] at hsome
      have hnone : (a.tryGetZone device.zoneID).isSome = false := hsome.symm
      rw [if_neg hold, if_pos ⟨hold, hnone⟩]
    · rw [hzone] at hsome
      have hthere : (a.tryGetZone device.zoneID).isSome = true := hsome.symm
      rw [if_neg hold, if_neg (by rw [hthere]; simp)]
      dsimp only
      split_ifs <;> rfl

theorem getDSMeter_ne_nullPointer {a : ZoneRemoval.Apartment D} {id : D} {failure : Failure}
    (hmeter : a.getDSMeter rt id = .error failure) : failure ≠ .nullPointer := by
  rw [ZoneRemoval.Apartment.getDSMeter] at hmeter
  split at hmeter
  · cases hmeter
  · cases hmeter
    intro heq
    cases heq

theorem addDeviceToZone_cases (rt : ZoneRemoval.Runtime D) (device : Device D) (z : ℤ)
    (h : House D) :
    (accepts rt h.apartment z device = true ∧
      ∃ b, h.addDeviceToZone rt device z = changeZone rt device z { h with apartment := b } ∧
        (∀ w, (b.tryGetZone w).isSome = (h.apartment.tryGetZone w).isSome) ∧
        ZoneRemoval.addDeviceToZone rt device z h.apartment =
          ZoneRemoval.changeZone rt device z b) ∨
      (accepts rt h.apartment z device = false ∧ ∃ failure, failure ≠ .nullPointer ∧
        h.addDeviceToZone rt device z = (h, some failure)) := by
  rw [addDeviceToZone, ZoneRemoval.addDeviceToZone, accepts]
  rcases hpresent : device.isPresent with - | -
  · exact Or.inr ⟨rfl, .exception _, (fun heq => by cases heq), rfl⟩
  · rw [if_neg (by simp), if_neg (by simp), Bool.true_and]
    rcases hmeter : h.apartment.getDSMeter rt device.dsMeterDSID with failure | meter
    · exact Or.inr ⟨rfl, failure, getDSMeter_ne_nullPointer hmeter, rfl⟩
    · dsimp only
      split_ifs with hregistered habsent
      · exact Or.inl ⟨by rw [hregistered, Bool.true_or], h.apartment, rfl, fun _ => rfl, rfl⟩
      · refine Or.inr ⟨?_, .exception _, (fun heq => by cases heq), rfl⟩
        rw [eq_false_of_ne_true hregistered, habsent, Bool.false_or]
      · refine Or.inl ⟨?_, _, rfl, fun w => isSome_tryGetZone_modifyZone fun _ => rfl, rfl⟩
        rw [eq_true_of_ne_false habsent, Bool.or_true]

/-! ## The flags -/

theorem forall_mem_setAll {p : ℕ → Bool} {value : Bool} {l : List Group} {q : ℕ → Bool → Prop} :
    (∀ g ∈ setAll p value l, q g.id g.isPresent) ↔
      ∀ g ∈ l, q g.id (if p g.id then value else g.isPresent) := by
  rw [setAll, forall_mem_map]
  refine forall₂_congr fun g _ => ?_
  split_ifs <;> rfl

/-- A present device moves to a zone, whatever happens to the groups. -/
structure Move (h k : House D) (device : Device D) (z : ℤ) : Prop where
  found : h.apartment.tryGetDevice device.dsid = some device
  present : device.isPresent = true
  /-- nothing is there twice, and the zone is there -/
  usable : Usable h.apartment z
  ne_zero : z ≠ 0
  moved : Moved z device h.apartment k.apartment
  groupIds : k.groupIds = h.groupIds

variable (h device) in
/-- Somebody else who is present is in a group of a zone. -/
def HasPresent (w : ℤ) (g : ℕ) : Prop :=
  ∃ other, h.Fellow device w g other ∧ other.isPresent = true

theorem Move.before (hm : Move h k device z) (hright : h.Right w) :
    ∀ g ∈ (h.groups w).list, g.isPresent = true ↔ h.HasPresent device w g.id ∨
      (Listed h.apartment w device.dsid ∧ h.isInGroup device.dsid g.id = true) :=
  fun g hg => (hright g hg).trans (exists_present_iff hm.found hm.present)

theorem Move.right_iff (hm : Move h k device z) :
    k.Right w ↔ ∀ g ∈ (k.groups w).list, g.isPresent = true ↔ h.HasPresent device w g.id ∨
      (Listed k.apartment w device.dsid ∧ h.isInGroup device.dsid g.id = true) := by
  have hin : ∀ g, k.isInGroup device.dsid g = h.isInGroup device.dsid g := by
    intro g
    rw [isInGroup, isInGroup, hm.groupIds]
  refine forall₂_congr fun g _ => ?_
  have hpresent : ({ device with zoneID := z } : Device D).isPresent = true := hm.present
  rw [exists_present_iff (hm.moved.tryGetDevice_self hm.found) hpresent, hin, HasPresent]
  simp only [fellow_iff hm.moved hm.groupIds]

theorem Move.listed_new (hm : Move h k device z) :
    Listed k.apartment z device.dsid ↔ device.zoneID ≠ z := by
  rw [hm.moved.listed_self hm.usable.proper hm.ne_zero hm.usable.zone]
  simp

theorem Move.not_listed_old (hm : Move h k device z) (hold : device.zoneID ≠ 0) :
    ¬ Listed k.apartment device.zoneID device.dsid := by
  rw [hm.moved.listed_self hm.usable.proper hm.ne_zero hm.usable.zone]
  rintro (⟨heq, hne⟩ | ⟨-, hor, -⟩)
  · exact hne heq
  · exact hor.elim (fun hne => hne rfl) hold

theorem Move.isEmpty_getByGroup (hm : Move h k device z) (hold : device.zoneID ≠ 0) :
    (k.getByGroup device.zoneID g).isEmpty = true ↔
      ¬ ∃ other, h.Fellow device device.zoneID g other := by
  have hzones := (hm.moved.proper hm.usable.proper).zones_nodup
  rw [List.isEmpty_iff, eq_nil_iff_forall_not_mem, not_exists]
  refine forall_congr' fun other => not_congr ?_
  rw [mem_getByGroup hzones, ← fellow_iff hm.moved hm.groupIds, Fellow, iff_self_and]
  intro hmember heq
  exact hm.not_listed_old hold (heq ▸ hmember.listed)

theorem Move.right_new (hm : Move h k device z) (hright : h.Right z) (hne : device.zoneID ≠ z)
    (hgroups : (k.groups z).list = setAll (fun id => decide (id ∈ List.range groupIDStandardMax) &&
      h.isInGroup device.dsid id) true (h.groups z).list) :
    k.Right z ↔ ∀ g ∈ (h.groups z).list, groupIDStandardMax ≤ g.id →
      h.isInGroup device.dsid g.id = true → g.isPresent = true := by
  rw [hm.right_iff, hgroups, forall_mem_setAll (q := fun id flag => flag = true ↔
    h.HasPresent device z id ∨
      (Listed k.apartment z device.dsid ∧ h.isInGroup device.dsid id = true))]
  refine forall₂_congr fun g hg => ?_
  have hbefore := hm.before hright g hg
  rw [hm.listed_new, and_iff_right hne]
  rcases hin : h.isInGroup device.dsid g.id with - | -
  · simpa [hin] using hbefore
  · by_cases hid : g.id < groupIDStandardMax
    · simp [hid, Nat.not_le.mpr hid]
    · simp [hid, Nat.not_lt.mp hid]
theorem Move.right_left (hm : Move h k device z) (hold : device.zoneID ≠ 0) {isEmpty : ℕ → Bool}
    (hempty : ∀ g, isEmpty g = true ↔ ¬ ∃ other, h.Fellow device device.zoneID g other)
    {l : List Group} {p : ℕ → Prop}
    (hflags : ∀ g ∈ l, g.isPresent = true ↔
      h.HasPresent device device.zoneID g.id ∨ (p g.id ∧ h.isInGroup device.dsid g.id = true))
    (hgroups : (k.groups device.zoneID).list =
      setAll (fun id => decide (id ∈ List.range groupIDStandardMax) &&
        (h.isInGroup device.dsid id && isEmpty id)) false l) :
    k.Right device.zoneID ↔ ∀ g ∈ l, h.isInGroup device.dsid g.id = true → p g.id →
      (g.id < groupIDStandardMax → (∃ other, h.Fellow device device.zoneID g.id other) →
        h.HasPresent device device.zoneID g.id) ∧
      (groupIDStandardMax ≤ g.id → h.HasPresent device device.zoneID g.id) := by
  rw [hm.right_iff, hgroups, forall_mem_setAll (q := fun id flag => flag = true ↔
    h.HasPresent device device.zoneID id ∨
      (Listed k.apartment device.zoneID device.dsid ∧ h.isInGroup device.dsid id = true))]
  refine forall₂_congr fun g hg => ?_
  have hflag := hflags g hg
  have hnot := hm.not_listed_old hold
  rcases hin : h.isInGroup device.dsid g.id with - | -
  · simp [hnot, hin, hflag]
  · rw [hin] at hflag
    by_cases hid : g.id < groupIDStandardMax
    · have hempty := hempty g.id
      rcases hisEmpty : isEmpty g.id with - | -
      · have hsomebody : ∃ other, h.Fellow device device.zoneID g.id other := by
          by_contra hnobody
          exact Bool.false_ne_true (hisEmpty.symm.trans (hempty.mpr hnobody))
        simp [hid, hnot, hflag, hsomebody, Nat.not_le.mpr hid]
      · have hnobody := hempty.mp hisEmpty
        have hnone : ¬ h.HasPresent device device.zoneID g.id :=
          fun ⟨other, hother, _⟩ => hnobody ⟨other, hother⟩
        simp [hid, hnot, hnobody, hnone, Nat.not_le.mpr hid]
    · simp [hid, hnot, hflag, Nat.not_lt.mp hid]

theorem Move.between (hm : Move h k device z) (hright : h.Right w) :
    ∀ g ∈ setAll (fun id => decide (id ∈ List.range groupIDStandardMax) &&
        h.isInGroup device.dsid id) true (h.groups w).list,
      g.isPresent = true ↔ h.HasPresent device w g.id ∨
        ((g.id < groupIDStandardMax ∨ Listed h.apartment w device.dsid) ∧
          h.isInGroup device.dsid g.id = true) := by
  rw [forall_mem_setAll (q := fun id flag => flag = true ↔ h.HasPresent device w id ∨
    ((id < groupIDStandardMax ∨ Listed h.apartment w device.dsid) ∧
      h.isInGroup device.dsid id = true))]
  intro g hg
  have hbefore := hm.before hright g hg
  rcases hin : h.isInGroup device.dsid g.id with - | -
  · simpa [hin] using hbefore
  · by_cases hid : g.id < groupIDStandardMax
    · simp [hid]
    · simpa [hid, hin] using hbefore

theorem Move.right_iff_of_no_old (hm : Move h k device z) (hright : h.Right z)
    (hno : device.zoneID = 0 ∨ (h.apartment.tryGetZone device.zoneID).isSome = false)
    (hgroups : (k.groups z).list = setAll (fun id => decide (id ∈ List.range groupIDStandardMax) &&
      h.isInGroup device.dsid id) true (h.groups z).list) :
    (∀ w, w = z ∨ w = device.zoneID → w ≠ 0 → (h.apartment.tryGetZone w).isSome = true →
      k.Right w) ↔ Orderly h device z := by
  have hnot : device.zoneID ≠ 0 → ¬ (h.apartment.tryGetZone device.zoneID).isSome = true := by
    intro hold hsome
    rcases hno with hzero | hnone
    · exact hold hzero
    · exact Bool.false_ne_true (hnone.symm.trans hsome)
  have hne : device.zoneID ≠ z := by
    intro heq
    exact hnot (heq.trans_ne hm.ne_zero) (heq ▸ hm.usable.zone)
  have hnew := hm.right_new hright hne hgroups
  constructor
  · intro hall
    exact ⟨fun _ => hnew.mp (hall z (Or.inl rfl) hm.ne_zero hm.usable.zone),
      fun hold hsome => absurd hsome (hnot hold), fun hold hsome => absurd hsome (hnot hold)⟩
  · rintro horderly w (rfl | rfl) hzero hsome
    · exact hnew.mpr (horderly.enters hne)
    · exact absurd hsome (hnot hzero)

theorem Move.right_iff_of_ne (hm : Move h k device z) (hnew : h.Right z)
    (hleft : h.Right device.zoneID) (hold : device.zoneID ≠ 0) (hne : device.zoneID ≠ z)
    (hsome : (h.apartment.tryGetZone device.zoneID).isSome = true) {isEmpty : ℕ → Bool}
    (hempty : ∀ g, isEmpty g = true ↔ ¬ ∃ other, h.Fellow device device.zoneID g other)
    (hgroups : (k.groups z).list = setAll (fun id => decide (id ∈ List.range groupIDStandardMax) &&
      h.isInGroup device.dsid id) true (h.groups z).list)
    (hgroups' : (k.groups device.zoneID).list =
      setAll (fun id => decide (id ∈ List.range groupIDStandardMax) &&
        (h.isInGroup device.dsid id && isEmpty id)) false (h.groups device.zoneID).list)
    (hknown : ∀ g < groupIDStandardMax, h.isInGroup device.dsid g = true →
      ((h.groups device.zoneID).getGroup g).isSome = true) :
    (∀ w, w = z ∨ w = device.zoneID → w ≠ 0 → (h.apartment.tryGetZone w).isSome = true →
      k.Right w) ↔ Orderly h device z := by
  have hrightNew := hm.right_new hnew hne hgroups
  have hrightOld := hm.right_left hold hempty (p := fun _ => Listed h.apartment device.zoneID
    device.dsid) (hm.before hleft) hgroups'
  constructor
  · intro hall
    refine ⟨fun _ => hrightNew.mp (hall z (Or.inl rfl) hm.ne_zero hm.usable.zone),
      fun _ _ => hknown, fun _ _ g hg hin => ?_⟩
    have hleaves := hrightOld.mp (hall _ (Or.inr rfl) hold hsome) g hg hin
    exact ⟨fun hid hor => (hleaves (hor.resolve_left hne)).1 hid, fun hid hlisted =>
      (hleaves hlisted).2 hid⟩
  · rintro horderly w (rfl | rfl) - -
    · exact hrightNew.mpr (horderly.enters hne)
    · refine hrightOld.mpr fun g hg hin hlisted => ?_
      obtain ⟨hreached, hnot⟩ := horderly.leaves hold hsome g hg hin
      exact ⟨fun hid => hreached hid (Or.inr hlisted), fun hid => hnot hid hlisted⟩

theorem Move.right_iff_of_eq (hm : Move h k device z) (hright : h.Right device.zoneID)
    (heq : device.zoneID = z) {isEmpty : ℕ → Bool}
    (hempty : ∀ g, isEmpty g = true ↔ ¬ ∃ other, h.Fellow device device.zoneID g other)
    (hgroups : (k.groups device.zoneID).list =
      setAll (fun id => decide (id ∈ List.range groupIDStandardMax) &&
        (h.isInGroup device.dsid id && isEmpty id)) false
        (setAll (fun id => decide (id ∈ List.range groupIDStandardMax) &&
          h.isInGroup device.dsid id) true (h.groups device.zoneID).list))
    (hknown : ∀ g < groupIDStandardMax, h.isInGroup device.dsid g = true →
      ((h.groups device.zoneID).getGroup g).isSome = true) :
    (∀ w, w = z ∨ w = device.zoneID → w ≠ 0 → (h.apartment.tryGetZone w).isSome = true →
      k.Right w) ↔ Orderly h device z := by
  have hold : device.zoneID ≠ 0 := heq.trans_ne hm.ne_zero
  have hsome : (h.apartment.tryGetZone device.zoneID).isSome = true := heq ▸ hm.usable.zone
  have hrightOld := hm.right_left hold hempty (p := fun id => id < groupIDStandardMax ∨
    Listed h.apartment device.zoneID device.dsid) (hm.between hright) hgroups
  rw [forall_mem_setAll (q := fun id _ => h.isInGroup device.dsid id = true →
    id < groupIDStandardMax ∨ Listed h.apartment device.zoneID device.dsid →
    (id < groupIDStandardMax → (∃ other, h.Fellow device device.zoneID id other) →
      h.HasPresent device device.zoneID id) ∧
    (groupIDStandardMax ≤ id → h.HasPresent device device.zoneID id))] at hrightOld
  constructor
  · intro hall
    refine ⟨fun hne => absurd heq hne, fun _ _ => hknown, fun _ _ g hg hin => ?_⟩
    have hleaves := hrightOld.mp (hall _ (Or.inr rfl) hold hsome) g hg hin
    exact ⟨fun hid _ => (hleaves (Or.inl hid)).1 hid, fun hid hlisted =>
      (hleaves (Or.inr hlisted)).2 hid⟩
  · rintro horderly w hw - -
    obtain rfl : w = device.zoneID := hw.elim (fun h => h.trans heq.symm) id
    refine hrightOld.mpr fun g hg hin hor => ?_
    obtain ⟨hreached, hnot⟩ := horderly.leaves hold hsome g hg hin
    refine ⟨fun hid => hreached hid (Or.inl heq), fun hid => hnot hid ?_⟩
    exact hor.resolve_left (Nat.not_lt.mpr hid)

theorem Move.cleanUp_iff (hm : Move h k device z) (hnew : h.Right z)
    (hleft : h.Right device.zoneID) (hold : device.zoneID ≠ 0)
    (hsome : (h.apartment.tryGetZone device.zoneID).isSome = true)
    (hgroups : k.groups = Function.update h.groups z (updatePresence (h.isInGroup device.dsid)
      (List.range groupIDStandardMax) (h.groups z))) :
    ((k.cleanUp device).2 ≠ some .nullPointer ∧ ∀ w, w = z ∨ w = device.zoneID → w ≠ 0 →
      (h.apartment.tryGetZone w).isSome = true → (k.cleanUp device).1.Right w) ↔
      Orderly h device z := by
  have hin : k.isInGroup device.dsid = h.isInGroup device.dsid := by
    funext g
    rw [isInGroup, isInGroup, hm.groupIds]
  have hupdated : (k.groups z).list = setAll (fun id =>
      decide (id ∈ range groupIDStandardMax) && h.isInGroup device.dsid id) true
        (h.groups z).list := by
    rw [hgroups, update_self, list_updatePresence]
  -- the groups of the old zone are those from before, but for their presence
  have hknown : ∀ g, ((k.groups device.zoneID).getGroup g).isSome =
      ((h.groups device.zoneID).getGroup g).isSome := by
    intro g
    rw [Bool.eq_iff_iff, isSome_getGroup_iff, isSome_getGroup_iff]
    by_cases hsame : device.zoneID = z
    · rw [hsame, hupdated, map_id_setAll]
    · rw [hgroups, update_of_ne hsame]
  have hempty := fun g => hm.isEmpty_getByGroup (g := g) hold
  have hm' : Move h (k.cleanUp device).1 device z :=
    ⟨hm.found, hm.present, hm.usable, hm.ne_zero, hm.moved, hm.groupIds⟩
  rcases @cleanupPresence_spec (k.isInGroup device.dsid)
    (fun g => (k.getByGroup device.zoneID g).isEmpty) (k.groups device.zoneID)
    (range groupIDStandardMax) with ⟨hall, hnone, hlist⟩ | ⟨hmissing, hnull⟩
  · have hreached : ∀ g < groupIDStandardMax, h.isInGroup device.dsid g = true →
        ((h.groups device.zoneID).getGroup g).isSome = true := by
      intro g hg hyes
      rw [← hknown]
      exact hall g (mem_range.mpr hg) (hin ▸ hyes)
    have hcleaned : ((k.cleanUp device).1.groups device.zoneID).list =
        setAll (fun id => decide (id ∈ range groupIDStandardMax) &&
          (h.isInGroup device.dsid id && (k.getByGroup device.zoneID id).isEmpty)) false
          (k.groups device.zoneID).list := by
      rw [cleanUp]
      dsimp only [setGroups]
      rw [update_self, hlist, hin]
    have hsnd : (k.cleanUp device).2 = none := hnone
    rw [hsnd, and_iff_right nofun]
    by_cases hsame : device.zoneID = z
    · refine hm'.right_iff_of_eq hleft hsame hempty ?_ hreached
      rw [hcleaned, hsame, hupdated]
    · refine hm'.right_iff_of_ne hnew hleft hold hsame hsome hempty ?_ ?_ hreached
      · rw [← hupdated, cleanUp]
        dsimp only [setGroups]
        rw [update_of_ne (Ne.symm hsame)]
      · rw [hcleaned, hgroups, update_of_ne hsame]
  · refine iff_of_false (fun hand => hand.1 hnull) fun horderly => hmissing ?_
    intro g hg hyes
    rw [hknown]
    exact horderly.known hold hsome g (mem_range.mp hg) (hin ▸ hyes)

/-- **The presence of groups.** After a move of a present device the flags of the new and the old
zone are right, and no null pointer is dereferenced, if and only if the device cannot be moved or
the condition holds. -/
theorem keepsPresence_iff (hproper : h.apartment.Proper)
    (hdevice : h.apartment.tryGetDevice device.dsid = some device)
    (hpresent : device.isPresent = true) (hz : z ≠ 0)
    (hzone : (h.apartment.tryGetZone z).isSome = true)
    (hright : ∀ w, w ≠ 0 → (h.apartment.tryGetZone w).isSome = true → h.Right w) :
    KeepsPresence rt device z h ↔
      (accepts rt h.apartment z device = true → Orderly h device z) := by
  rcases addDeviceToZone_cases rt device z h with
    ⟨haccepts, b, heq, hthere, hmove⟩ | ⟨hrejected, failure, hfailure, heq⟩
  · rw [imp_iff_right haccepts, KeepsPresence, heq, changeZone]
    have hmoved : Moved z device h.apartment (ZoneRemoval.changeZone rt device z b).1 := by
      rcases ZoneRemoval.addDeviceToZone_spec rt device z h.apartment with
        ⟨-, hmoved⟩ | ⟨hrejected, -, -⟩
      · rwa [hmove] at hmoved
      · rw [haccepts] at hrejected
        cases hrejected
    have hfailure := snd_changeZone rt device z b
    rw [hthere] at hfailure
    dsimp only [setGroups]
    rcases hrun : ZoneRemoval.changeZone rt device z b with ⟨a, result⟩
    rw [hrun] at hmoved hfailure
    dsimp only at hmoved hfailure
    have hnew := hright z hz hzone
    -- what is there when the device has left the old zone, if there is one
    have hm : Move h ⟨a, update h.groups z (updatePresence (h.isInGroup device.dsid)
        (range groupIDStandardMax) (h.groups z)), h.groupIds⟩ device z :=
      ⟨hdevice, hpresent, ⟨hproper, hzone⟩, hz, hmoved, rfl⟩
    by_cases hno : device.zoneID = 0 ∨ (h.apartment.tryGetZone device.zoneID).isSome = false
    · have hnewGroups := hm.right_iff_of_no_old hnew hno (by
        dsimp only
        rw [update_self, list_updatePresence])
      by_cases hold : device.zoneID = 0
      · rw [if_neg fun hand => hand.1 hold] at hfailure
        rw [hfailure]
        dsimp only
        rw [if_pos hold]
        exact (and_iff_right nofun).trans hnewGroups
      · rw [if_pos ⟨hold, hno.resolve_left hold⟩] at hfailure
        rw [hfailure]
        exact (and_iff_right nofun).trans hnewGroups
    · rw [not_or] at hno
      obtain ⟨hold, hthere'⟩ := hno
      have hsome := eq_true_of_ne_false hthere'
      rw [if_neg fun hand => hthere' hand.2] at hfailure
      rw [hfailure]
      dsimp only
      rw [if_neg hold]
      exact hm.cleanUp_iff hnew (hright device.zoneID hold hsome) hold hsome rfl
  · refine iff_of_true ?_ fun haccepts => ?_
    · rw [KeepsPresence, heq]
      exact ⟨fun hnull => hfailure (Option.some.inj hnull), fun w _ hzero hsome =>
        hright w hzero hsome⟩
    · rw [hrejected] at haccepts
      cases haccepts

end House

/-! ## A pair -/

def pairHouse (ids : JokerGroup.Memberships) : House ℕ where
  apartment := pair 5
  groups w := ⟨[⟨0, decide (w = 5)⟩], List.nodup_singleton 0⟩
  groupIds _ := ids

theorem right_pairHouse (ids : JokerGroup.Memberships) {w : ℤ} (hw : w ≠ 0) :
    (pairHouse ids).Right w := by
  intro g hg
  obtain rfl := mem_singleton.mp hg
  rw [decide_eq_true_iff]
  constructor
  · rintro rfl
    have hzone : (⟨5, [10, 11], [100], []⟩ : Zone ℕ) ∈ (pair 5).zones := by decide
    exact ⟨pairDevice 10 5 true, ⟨by rfl, ⟨_, hzone, rfl, mem_cons_self⟩, rfl⟩, rfl⟩
  · rintro ⟨device, ⟨-, ⟨zone, hzone, rfl, hlisted⟩, -⟩, -⟩
    -- of the other zones one is zone 0, and one is empty
    simp only [pairHouse, pair, if_true, mem_cons, not_mem_nil, or_false] at hzone
    rcases hzone with rfl | rfl | rfl
    · exact absurd rfl hw
    · rfl
    · cases hlisted

theorem keepsPresence_pair :
    House.KeepsPresence pairRuntime (pairDevice 10 5 true) 6 (pairHouse ⟨[], by simp, nofun⟩) ↔
      (accepts pairRuntime (pair 5) 6 (pairDevice 10 5 true) = true →
        House.Orderly (pairHouse ⟨[], by simp, nofun⟩) (pairDevice 10 5 true) 6) :=
  House.keepsPresence_iff (proper_pair (Or.inl rfl)) (by rfl) rfl (by decide) (by rfl)
    fun _ hw _ => right_pairHouse _ hw

/-- A device of group 13 leaves a zone without such a group. -/
theorem keepsPresence_fails :
    ¬ ∀ (rt : ZoneRemoval.Runtime ℕ) (h : House ℕ) (device : Device ℕ) (z : ℤ), h.apartment.Proper →
      h.apartment.tryGetDevice device.dsid = some device → device.isPresent = true → z ≠ 0 →
      (h.apartment.tryGetZone z).isSome = true →
      (∀ w, w ≠ 0 → (h.apartment.tryGetZone w).isSome = true → h.Right w) →
      House.KeepsPresence rt device z h := by
  intro hall
  have hkeeps := hall pairRuntime (pairHouse ⟨[13], by simp, by decide⟩) (pairDevice 10 5 true) 6
    (proper_pair (Or.inl rfl)) (by rfl) rfl (by decide) (by rfl) fun _ hw _ => right_pairHouse _ hw
  exact hkeeps.1 (by decide +kernel)

end GroupPresence

end Dss
