import Dss.Transition
import Dss.ZoneMembershipRoster

/-!
# Which devices the zones list

A known device should be listed once in zone 0, once in its own zone if that is another one, and
nowhere else. Taking a device off the list of a zone, or a zone with devices out of the apartment,
does not keep this; and what is said to be in no zone, by the id -1, is taken out of none.
-/

namespace Dss

open Throwing Throwing.Statement Transition Option Function

namespace ZoneMembership

inductive Call (D : Type) : Type where
  /-- `Apartment::allocateDevice` -/
  | allocateDevice (id : D) : Call D
  /-- `Apartment::allocateZone` -/
  | allocateZone (zoneID : ℤ) : Call D
  /-- `Apartment::removeDevice` -/
  | removeDevice (id : D) : Call D
  /-- `Apartment::removeZone` -/
  | removeZone (zoneID : ℤ) : Call D
  /-- `Zone::addDevice` of the zone of an id -/
  | addDevice (zoneID : ℤ) (id : D) : Call D
  /-- `Zone::removeDevice` of the zone of an id -/
  | takeOff (zoneID : ℤ) (id : D) : Call D
  /-- `StructureManipulator::addDeviceToZone` -/
  | addDeviceToZone (id : D) (zoneID : ℤ) : Call D
  | update (id : D) (data : Device D) : Call D

variable {D : Type} [DecidableEq D]

def Call.action (rt : Runtime D) : Call D → Action D
  | allocateDevice id => ZoneMembership.allocateDevice rt id
  | allocateZone zoneID => ZoneMembership.allocateZone zoneID
  | removeDevice id => apartmentRemoveDevice id
  | removeZone zoneID => ZoneMembership.removeZone zoneID
  | addDevice zoneID id => withZone zoneID fun _ => zoneAddDevice rt zoneID id
  | takeOff zoneID id => removeFromZone zoneID id
  | addDeviceToZone id zoneID => ZoneMembership.addDeviceToZone rt id zoneID
  | update id data => change (Apartment.modifyDevice id fun device =>
      { data with zoneID := device.zoneID })

/-- One call; what it throws is left out. -/
def step (rt : Runtime D) (a : Apartment D) (c : Call D) : Apartment D := (c.action rt a).1

/-- `Apartment::Apartment`: there is zone 0. -/
def start : Apartment D :=
  { device := fun _ => none
    zone := Function.update (fun _ => none) 0 (some {}) }

/-- Every known device is listed where it should be. -/
structure Consistent (a : Apartment D) : Prop where
  main : ∀ id device, a.device id = some device → (a.listed 0).count id = 1
  own : ∀ id device, a.device id = some device → device.zoneID ≠ 0 →
    (a.listed device.zoneID).count id = 1
  other : ∀ id device z, a.device id = some device → z ≠ 0 → z ≠ device.zoneID →
    id ∉ a.listed z

def zoneIDOf (a : Apartment D) (id : D) : Option ℤ := (a.device id).map Device.zoneID

/-- When a call keeps each device where it should be. -/
def Fits (a : Apartment D) : Call D → Prop
  | .allocateDevice id => (a.zone 0).isSome ∧ zoneIDOf a id ≠ some (-1)
  | .addDevice zoneID id => (a.zone zoneID).isSome → zoneIDOf a id = some (-1) → zoneID = -1
  | .takeOff zoneID id => id ∉ a.listed zoneID
  | .removeZone zoneID => a.listed zoneID = []
  | .allocateZone _ | .removeDevice _ | .addDeviceToZone _ _ | .update _ _ => True

def Elsewhere (a : Apartment D) : Call D → Prop
  | .addDeviceToZone id zoneID => zoneIDOf a id = some zoneID → zoneID = 0
  | _ => True

instance (a : Apartment D) : (c : Call D) → Decidable (Fits a c)
  | .allocateDevice id =>
    inferInstanceAs (Decidable ((a.zone 0).isSome ∧ zoneIDOf a id ≠ some (-1)))
  | .addDevice zoneID id => inferInstanceAs
      (Decidable ((a.zone zoneID).isSome → zoneIDOf a id = some (-1) → zoneID = -1))
  | .takeOff zoneID id => inferInstanceAs (Decidable (id ∉ a.listed zoneID))
  | .removeZone zoneID => inferInstanceAs (Decidable (a.listed zoneID = []))
  | .allocateZone _ | .removeDevice _ | .addDeviceToZone _ _ | .update _ _ =>
    inferInstanceAs (Decidable True)

instance (a : Apartment D) : (c : Call D) → Decidable (Elsewhere a c)
  | .addDeviceToZone id zoneID =>
    inferInstanceAs (Decidable (zoneIDOf a id = some zoneID → zoneID = 0))
  | .allocateDevice _ | .allocateZone _ | .removeDevice _ | .removeZone _ | .addDevice _ _
  | .takeOff _ _ | .update _ _ => inferInstanceAs (Decidable True)

variable {rt : Runtime D} {a : Apartment D} {r : Roster D ℤ} {z own : ℤ} {id : D}

/-! ## The law in the records -/

/-- The law is that the records agree as far as known devices go. -/
theorem consistent_iff : Consistent a ↔ ∀ id own z, a.roster.place id = some own →
    a.roster.count z id = Roster.expected 0 (some own) z := by
  constructor
  · intro h id own z hown
    obtain ⟨device, hdevice, hzone⟩ := device_of_place hown
    subst hzone
    rw [Roster.expected]
    by_cases hmain : z = 0
    · subst hmain
      exact h.main id device hdevice
    · by_cases howner : z = device.zoneID
      · subst howner
        rw [if_pos (Or.inr rfl)]
        exact h.own id device hdevice hmain
      · rw [if_neg (not_or.mpr ⟨hmain, howner⟩)]
        exact List.count_eq_zero.mpr (h.other id device z hdevice hmain howner)
  · intro h
    have hplace : ∀ id device, a.device id = some device →
        a.roster.place id = some device.zoneID := by
      intro id device hdevice
      show (a.device id).map Device.zoneID = _
      rw [hdevice, map_some]
    constructor
    · intro id device hdevice
      have hcount := h id _ 0 (hplace id device hdevice)
      rwa [Roster.expected] at hcount
    · intro id device hdevice _
      have hcount := h id _ device.zoneID (hplace id device hdevice)
      rwa [Roster.expected, if_pos (Or.inr rfl)] at hcount
    · intro id device z hdevice hmain howner
      have hcount := h id _ z (hplace id device hdevice)
      rw [Roster.expected, if_neg (not_or.mpr ⟨hmain, howner⟩)] at hcount
      exact List.count_eq_zero.mp hcount

theorem consistent_of_agrees (h : a.roster.Agrees 0) : Consistent a := by
  refine consistent_iff.2 fun id own z hown => ?_
  rw [h, hown]

theorem not_consistent (z : ℤ) (hown : a.roster.place id = some own)
    (hcount : a.roster.count z id ≠ Roster.expected 0 (some own) z) : ¬ Consistent a :=
  fun h => hcount (consistent_iff.1 h id own z hown)

/-! ## A device enters a zone -/

theorem agrees_entered (h : r.Agrees 0) (hown : r.place id = some own)
    (hz : (r.members z).isSome) (hminus : own = -1 → z = -1) :
    (entered own z id r).Agrees 0 := by
  by_cases hm : own = -1
  · obtain rfl := hm
    obtain rfl := hminus rfl
    intro e w
    have hcount := h e w
    rw [entered, if_pos (Or.inl rfl), Roster.count_assign, Roster.count_enter hz,
      Roster.place_assign, hcount]
    split_ifs with hboth he he
    · rw [hboth.2, hown, Roster.expected, if_pos (Or.inr hboth.1)]
      rfl
    · exact absurd hboth.2 he
    · rw [he, hown]
    · rfl
  · rw [entered]
    have hsame : (if own = -1 ∨ own = 0 then r else r.leave own id) =
        if own = 0 then r else r.leave own id := by
      simp [hm]
    rw [hsame]
    exact h.move hown hz

theorem count_entered_minus (h : r.Agrees 0) (hown : r.place id = some (-1)) (hz : z ≠ -1)
    (hmembers : (r.members z).isSome) : (entered (-1) z id r).count (-1) id = 1 := by
  rw [entered, if_pos (Or.inl rfl), Roster.count_assign, Roster.count_enter hmembers,
    if_neg fun hand => hz hand.1.symm]
  exact h.count_own hown

/-- A device that is moved elsewhere is where it should be. -/
theorem agrees_transferred (h : r.Agrees 0) (hown : r.place id = some own)
    (hz : (r.members z).isSome) (helse : own = z → z = 0) :
    (transferred own z id r).Agrees 0 := by
  have hz' : ((if z = -1 ∨ z = 0 then r.assign id z
      else (r.assign id z).leave z id).members z).isSome := by
    split_ifs
    · exact hz
    · rw [Roster.members_leave]
      exact hz
  intro e w
  have hcount := h e w
  by_cases he : e = id
  · subst he
    rw [hown] at hcount
    have hplace : (transferred own z e r).place e = some z := by
      rw [transferred]
      split_ifs
      · rw [entered, Roster.place_assign, if_pos rfl]
      · rw [Roster.place_leave, entered, Roster.place_assign, if_pos rfl]
    have hentered : (entered z z e (r.assign e z)).count w e =
        if w = z then max 1 (if z = -1 ∨ z = 0 then r.count w e else r.count w e - 1)
        else r.count w e := by
      rw [entered, Roster.count_assign, Roster.count_enter hz']
      split_ifs <;> simp_all
    rw [hplace, transferred]
    rw [Roster.expected] at hcount ⊢
    by_cases hroot : own = 0
    · rw [if_pos hroot, hentered, hcount]
      split_ifs <;> simp_all
    · rw [if_neg hroot, Roster.count_leave, hentered, hcount]
      split_ifs <;> simp_all
  · have hsame : (transferred own z id r).count w e = r.count w e := by
      have hentered : (entered z z id (r.assign id z)).count w e = r.count w e := by
        rw [entered, Roster.count_assign, Roster.count_enter hz', if_neg fun hand => he hand.2]
        split_ifs
        · rfl
        · rw [Roster.count_leave, if_neg fun hand => he hand.2, Roster.count_assign]
      rw [transferred]
      split_ifs
      · exact hentered
      · rw [Roster.count_leave, if_neg fun hand => he hand.2, hentered]
    have hplace : (transferred own z id r).place e = r.place e := by
      have hentered : (entered z z id (r.assign id z)).place e = r.place e := by
        rw [entered, Roster.place_assign, Roster.place_enter]
        split_ifs
        · rw [Roster.place_assign, if_neg he]
        · rw [Roster.place_leave, Roster.place_assign, if_neg he]
      rw [transferred]
      split_ifs
      · exact hentered
      · rw [Roster.place_leave, hentered]
    rw [hsame, hplace, hcount]

/-! ## Steps that keep the law -/

omit [DecidableEq D] in
theorem allocateZone_roster : (allocateZone z a).1.roster =
    if (a.zone z).isSome then a.roster else a.roster.openPlace z := by
  rw [allocateZone, change_apply]
  split_ifs
  · rfl
  · refine Roster.ext' (fun _ => rfl) fun w => ?_
    show (Function.update a.zone z (some {}) w).map Zone.devices = _
    rw [Function.update_apply, Roster.members_openPlace]
    split_ifs
    · rfl
    · rfl

omit [DecidableEq D] in
theorem removeZone_roster : (removeZone z a).1.roster = a.roster.closePlace z := by
  refine Roster.ext' (fun _ => rfl) fun w => ?_
  show (Function.update a.zone z none w).map Zone.devices = _
  rw [Function.update_apply, Roster.members_closePlace]
  split_ifs
  · rfl
  · rfl

theorem update_roster {data : Device D} : (a.modifyDevice id fun device =>
    { data with zoneID := device.zoneID }).roster = a.roster := by
  refine Roster.ext' (fun e => ?_) fun _ => rfl
  show (update a.device id ((a.device id).map _) e).map Device.zoneID =
    (a.device e).map Device.zoneID
  rw [update_apply]
  split_ifs with he
  · rw [he, map_map]
    rfl
  · rfl

theorem allocateDevice_agrees (h : a.roster.Agrees 0) (hz : (a.zone 0).isSome)
    (hminus : zoneIDOf a id ≠ some (-1)) : (allocateDevice rt id a).1.roster.Agrees 0 := by
  have hmembers : (a.roster.members 0).isSome := by rw [members_isSome]; exact hz
  obtain hr | ⟨_, hr⟩ := (allocateDevice_roster rt id hmembers).fst rfl
  · rw [hr]
    rcases hplace : a.roster.place id with - | own
    · exact h.add hplace hmembers
    · refine agrees_entered h hplace hmembers fun hown => ?_
      rw [hown] at hplace
      exact absurd hplace hminus
  · exact hr.elim

theorem apartmentRemoveDevice_agrees (h : a.roster.Agrees 0) :
    (apartmentRemoveDevice id a).1.roster.Agrees 0 := by
  rcases hplace : a.roster.place id with - | own
  · have hdevice : a.device id = none := map_eq_none_iff.mp hplace
    rw [apartmentRemoveDevice, inspect_apply, hdevice]
    exact h
  · have hroot := h.isSome_root (isSome_iff_exists.mpr ⟨own, hplace⟩)
    have hzone := h.isSome_own hplace
    obtain hr | ⟨_, hmissing | hmissing⟩ := (apartmentRemoveDevice_roster hplace).fst rfl
    · rw [hr]
      exact h.remove hplace
    · rw [hmissing] at hzone
      cases hzone
    · rw [hmissing] at hroot
      cases hroot

theorem addDevice_agrees (h : a.roster.Agrees 0)
    (hfits : (a.zone z).isSome → zoneIDOf a id = some (-1) → z = -1) :
    (withZone z (fun _ => zoneAddDevice rt z id) a).1.roster.Agrees 0 := by
  rcases hz : a.zone z with - | zone
  · rw [withZone, inspect_apply, hz]
    exact h
  · have hsome : (a.zone z).isSome := by rw [hz]; rfl
    rw [withZone, inspect_apply, hz]
    rcases hplace : a.roster.place id with - | own
    · have hdevice : a.device id = none := map_eq_none_iff.mp hplace
      dsimp only
      rw [zoneAddDevice, withDevice, inspect_apply, hdevice]
      exact h
    · have hmembers : (a.roster.members z).isSome := by rw [members_isSome]; exact hsome
      obtain hr | ⟨_, hr⟩ := (zoneAddDevice_roster rt z hplace).fst rfl
      · rw [hr]
        refine agrees_entered h hplace hmembers fun hown => ?_
        rw [hown] at hplace
        exact hfits hsome hplace
      · exact hr.elim

theorem addDeviceToZone_agrees (h : a.roster.Agrees 0)
    (helse : zoneIDOf a id = some z → z = 0) :
    (addDeviceToZone rt id z a).1.roster.Agrees 0 := by
  rcases hplace : a.roster.place id with - | own
  · have hdevice : a.device id = none := map_eq_none_iff.mp hplace
    rw [addDeviceToZone, withDevice, inspect_apply, hdevice]
    exact h
  · rcases hz : a.zone z with - | zone
    · obtain ⟨device, hdevice, -⟩ := device_of_place hplace
      rw [addDeviceToZone, withDevice, inspect_apply, hdevice]
      dsimp only
      rw [withZone, inspect_apply, hz]
      exact h
    · have hmembers : (a.roster.members z).isSome := by rw [members_isSome, hz]; rfl
      have hmoved : (transferred own z id a.roster).Agrees 0 := by
        refine agrees_transferred h hplace hmembers fun hown => ?_
        rw [hown] at hplace
        exact helse hplace
      obtain hr | ⟨_, hr | hr | hmissing⟩ :=
        (addDeviceToZone_roster rt z hplace).fst rfl
      · rw [hr]
        exact hmoved
      · rw [hr]
        exact h
      · rw [hr]
        exact hmoved
      · have hzone := h.isSome_own hplace
        rw [hmissing] at hzone
        cases hzone

theorem step_agrees {c : Call D} (h : a.roster.Agrees 0) (helse : Elsewhere a c)
    (hfits : Fits a c) : (step rt a c).roster.Agrees 0 := by
  cases c with
  | allocateDevice id => exact allocateDevice_agrees h hfits.1 hfits.2
  | allocateZone z =>
    show (allocateZone z a).1.roster.Agrees 0
    rw [allocateZone_roster]
    split_ifs with hz
    · exact h
    · exact h.openPlace (members_of_missing (not_isSome_iff_eq_none.mp hz))
  | removeDevice id => exact apartmentRemoveDevice_agrees h
  | removeZone z =>
    show (removeZone z a).1.roster.Agrees 0
    rw [removeZone_roster]
    exact h.closePlace hfits
  | addDevice z id => exact addDevice_agrees h hfits
  | takeOff z id =>
    obtain hr | ⟨_, -, hr⟩ := (removeFromZone_roster z id).fst (s := a) rfl
    · show (removeFromZone z id a).1.roster.Agrees 0
      rw [hr]
      exact h.leave_of_not_listed hfits
    · show (removeFromZone z id a).1.roster.Agrees 0
      rw [hr]
      exact h
  | addDeviceToZone id z => exact addDeviceToZone_agrees h helse
  | update id data =>
    show (a.modifyDevice id _).roster.Agrees 0
    rw [update_roster]
    exact h

/-! ## Steps that break it -/

theorem not_consistent_of_minus {b : Apartment D} (h : r.Agrees 0)
    (hown : r.place id = some (-1)) (hz : z ≠ -1) (hmembers : (r.members z).isSome)
    (hb : b.roster = entered (-1) z id r) : ¬ Consistent b := by
  have hplace : b.roster.place id = some z := by
    rw [hb, entered, Roster.place_assign, if_pos rfl]
  refine not_consistent (-1) hplace ?_
  rw [hb, count_entered_minus h hown hz hmembers, Roster.expected, if_neg (by omega)]
  exact Nat.one_ne_zero

theorem not_consistent_of_no_main (hplace : a.roster.place id = some own)
    (hz : a.zone 0 = none) : ¬ Consistent a := by
  refine not_consistent 0 hplace ?_
  have hzero : a.roster.count 0 id = 0 := by
    rw [Roster.count, Roster.listed, members_of_missing hz]
    rfl
  rw [hzero]
  exact Nat.zero_ne_one

theorem allocateDevice_breaks (h : a.roster.Agrees 0)
    (hnot : ¬ ((a.zone 0).isSome ∧ zoneIDOf a id ≠ some (-1))) :
    ¬ Consistent (allocateDevice rt id a).1 := by
  by_cases hz : (a.zone 0).isSome
  · have hplace : a.roster.place id = some (-1) := by
      by_contra hother
      exact hnot ⟨hz, hother⟩
    have hmembers : (a.roster.members 0).isSome := by rw [members_isSome]; exact hz
    obtain hr | ⟨_, hr⟩ := (allocateDevice_roster rt id hmembers).fst rfl
    · rw [hplace] at hr
      exact not_consistent_of_minus h hplace (by decide) hmembers hr
    · exact hr.elim
  · have hnone : a.zone 0 = none := not_isSome_iff_eq_none.mp hz
    have hnew : a.device id = none := by
      rcases hdevice : a.device id with - | device
      · rfl
      · have hsome : (a.roster.place id).isSome := by
          show ((a.device id).map Device.zoneID).isSome
          rw [hdevice]
          rfl
        have hmembers := h.isSome_root hsome
        rw [members_of_missing hnone] at hmembers
        cases hmembers
    -- the device is made, and then zone 0 is not found
    let made : Apartment D :=
      { a with device := update a.device id (some (newDevice rt)) }
    have hmade : (allocateDevice rt id a).1 = made := by
      have hmissing : made.zone 0 = none := hnone
      rw [allocateDevice, andThen_of_ok (change_apply ..), hnew]
      show (withZone 0 (fun _ => zoneAddDevice rt 0 id) made).1 = made
      rw [withZone, inspect_apply, hmissing]
      rfl
    have hplace : made.roster.place id = some 0 := by
      show (update a.device id (some (newDevice rt)) id).map Device.zoneID = some 0
      rw [update_self]
      rfl
    rw [hmade]
    exact not_consistent_of_no_main hplace hnone

theorem addDevice_breaks (h : a.roster.Agrees 0)
    (hnot : ¬ ((a.zone z).isSome → zoneIDOf a id = some (-1) → z = -1)) :
    ¬ Consistent (withZone z (fun _ => zoneAddDevice rt z id) a).1 := by
  rw [Classical.not_imp, Classical.not_imp] at hnot
  obtain ⟨hz, hplace, hother⟩ := hnot
  have hmembers : (a.roster.members z).isSome := by rw [members_isSome]; exact hz
  obtain ⟨zone, hzone⟩ := isSome_iff_exists.mp hz
  rw [withZone, inspect_apply, hzone]
  obtain hr | ⟨_, hr⟩ := (zoneAddDevice_roster rt z (r := a.roster) hplace).fst rfl
  · exact not_consistent_of_minus h hplace hother hmembers hr
  · exact hr.elim

theorem takeOff_breaks (h : a.roster.Agrees 0) (hlisted : id ∈ a.listed z) :
    ¬ Consistent (removeFromZone z id a).1 := by
  obtain ⟨own, hplace, hz⟩ := h.of_listed hlisted
  have hone : a.roster.count z id = 1 := by
    rw [h, hplace, Roster.expected, if_pos hz]
  obtain hr | ⟨_, hmissing, -⟩ := (removeFromZone_roster z id).fst (s := a) rfl
  · have hown : (removeFromZone z id a).1.roster.place id = some own := by
      rw [hr, Roster.place_leave, hplace]
    refine not_consistent z hown ?_
    rw [hr, Roster.count_leave, if_pos ⟨rfl, rfl⟩, hone, Roster.expected, if_pos hz]
    exact Nat.zero_ne_one
  · have hlist : a.listed z = [] := by
      rw [← roster_listed, Roster.listed, hmissing]
      rfl
    rw [hlist] at hlisted
    cases hlisted

theorem removeZone_breaks (h : a.roster.Agrees 0) (hlisted : a.listed z ≠ []) :
    ¬ Consistent (removeZone z a).1 := by
  obtain ⟨id, hid⟩ := List.exists_mem_of_ne_nil _ hlisted
  obtain ⟨own, hplace, hz⟩ := h.of_listed hid
  have hown : (removeZone z a).1.roster.place id = some own := by
    rw [removeZone_roster, Roster.place_closePlace, hplace]
  refine not_consistent z hown ?_
  rw [removeZone_roster, Roster.count_closePlace, if_pos rfl, Roster.expected, if_pos hz]
  exact Nat.zero_ne_one

theorem step_breaks {c : Call D} (h : a.roster.Agrees 0) (hnot : ¬ Fits a c) :
    ¬ Consistent (step rt a c) := by
  cases c with
  | allocateDevice id => exact allocateDevice_breaks h hnot
  | removeZone z => exact removeZone_breaks h hnot
  | addDevice z id => exact addDevice_breaks h hnot
  | takeOff z id => exact takeOff_breaks h (not_not.mp hnot)
  | allocateZone z => exact absurd trivial hnot
  | removeDevice id => exact absurd trivial hnot
  | addDeviceToZone id z => exact absurd trivial hnot
  | update id data => exact absurd trivial hnot

/-! ## Runs -/

theorem start_agrees : (start : Apartment D).roster.Agrees 0 := by
  intro id z
  have hlisted : (start : Apartment D).listed z = [] := by
    rw [Apartment.listed, start]
    dsimp only
    rw [update_apply]
    split_ifs
    · rfl
    · rfl
  rw [Roster.count, roster_listed, hlisted]
  rfl

/-- **The lists of the zones.** As long as no device is moved into the zone that it is in, every
known device is listed where it should be, in every state of a run, exactly if nobody takes a
listed device off a list, removes a zone that lists devices, adds a device without zone 0, or
adds one to another zone that comes from a zone with the id -1. -/
theorem consistent_iff_fits (rt : Runtime D) (calls : List (Call D))
    (helse : Meets (step rt) Elsewhere start calls) :
    Always (step rt) Consistent start calls ↔ Meets (step rt) Fits start calls := by
  have hlaw : ∀ a : Apartment D, a.roster.Agrees 0 → Consistent a :=
    fun _ h => consistent_of_agrees h
  refine always_iff_meets_within hlaw ?_ ?_ start_agrees helse
  · intro a c h hstep hfits
    exact step_agrees h hstep hfits
  · intro a c h _ hnot
    exact step_breaks h hnot

def quietRuntime : Runtime ℕ where
  nullDsuid := 0
  nextDsuid := Nat.succ
  dsuid2str := toString
  bus := fun _ => none

def tour : List (Call ℕ) :=
  [.allocateDevice 1, .allocateZone 5, .update 1 { dsMeterDSID := 9, isPresent := true },
    .addDeviceToZone 1 5, .allocateZone 6, .addDevice 6 1, .removeZone 5, .allocateDevice 1,
    .addDeviceToZone 1 6, .removeDevice 1]

/-- It is listed where it should be all along. -/
theorem consistent_iff_fits_tour : Always (step quietRuntime) Consistent start tour :=
  (consistent_iff_fits quietRuntime tour (by decide)).mpr (by decide)

/-- A device that is taken off the list of zone 0 is not listed in zone 0. -/
theorem consistent_fails :
    ¬ ∀ calls : List (Call ℕ), Always (step quietRuntime) Consistent start calls := by
  intro h
  have hend := (h [.allocateDevice 1, .takeOff 0 1]).2.2
  exact absurd (hend.main 1 _ rfl) (by decide)

end ZoneMembership

end Dss
