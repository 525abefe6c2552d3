import Dss.StateRegistry

/-!
# Sensors and their states

`updateSensorStates` finds the states that were made for a sensor by a prefix of their names, which
ends with the number of the sensor type: it fits the names of all types whose number begins with
the same digits, and of any other state that happens to be called like this.
-/

namespace Dss

/-! ## Names -/

section dsuids

variable {size : ℕ}

def byteDigits (b : UInt8) : List Char :=
  [Nat.digitChar (b.toNat / 16), Nat.digitChar (b.toNat % 16)]

theorem byteDigits_injective : Function.Injective byteDigits := by
  have hdigit : ∀ m < 16, ∀ n < 16, Nat.digitChar m = Nat.digitChar n → m = n := by decide
  intro a b h
  obtain ⟨hhigh, hlow⟩ := List.cons.inj h
  have ha := a.toNat_lt
  have hb := b.toNat_lt
  have hquot := hdigit _ (by omega) _ (by omega) hhigh
  have hrem := hdigit _ (by omega) _ (by omega) (List.cons.inj hlow).1
  exact UInt8.toNat_inj.mp (by omega)

theorem length_flatMap_byteDigits (bs : List UInt8) :
    (bs.flatMap byteDigits).length = 2 * bs.length := by
  induction bs with
  | nil => rfl
  | cons b bs ih =>
    rw [List.flatMap_cons, List.length_append, byteDigits]
    simp only [List.length_cons, List.length_nil]
    omega

theorem flatMap_byteDigits_injective : Function.Injective (List.flatMap byteDigits) := by
  intro as
  induction as with
  | nil =>
    intro bs h
    cases bs with
    | nil => rfl
    | cons b bs => cases h
  | cons a as ih =>
    intro bs h
    cases bs with
    | nil => cases h
    | cons b bs =>
      obtain ⟨hbyte, hrest⟩ := List.append_inj h rfl
      rw [byteDigits_injective hbyte, ih hrest]

theorem length_dsuid2str (dsuid : Vector UInt8 size) :
    (dsuid2str dsuid).toList.length = 2 * size := by
  rw [dsuid2str, String.toList_ofList]
  exact (length_flatMap_byteDigits dsuid.toList).trans (by rw [Vector.length_toList])

theorem dsuid2str_toList_inj {a b : Vector UInt8 size} :
    (dsuid2str a).toList = (dsuid2str b).toList ↔ a = b := by
  constructor
  · intro h
    rw [dsuid2str, dsuid2str, String.toList_ofList, String.toList_ofList] at h
    exact Vector.toList_inj.mp (flatMap_byteDigits_injective h)
  · intro h
    rw [h]

end dsuids

inductive SensorSource (size : ℕ) : Type where
  | device (dsuid : Vector UInt8 size)
  | zone (zoneId groupId : ℤ)
  deriving DecidableEq

def SensorSource.namePrefix {size : ℕ} (sensorType : ℤ) : SensorSource size → String
  | device dsuid => StateRegistry.devicePrefix dsuid sensorType
  | zone zoneId groupId => StateRegistry.zonePrefix zoneId groupId sensorType

namespace StateOrigin

variable {size : ℕ} {V : Type}

def IsFor (source : SensorSource size) (sensorType : ℤ) : StateOrigin size V → Prop
  | sensorDevice _ _ dsuid type _ _ => source = .device dsuid ∧ type = sensorType
  | sensorZone _ _ zoneId groupId type _ _ => source = .zone zoneId groupId ∧ type = sensorType
  | apartment _ | typed _ _ _ | binaryInput _ _ | device _ _ | group _ | circuit _ _ => False

instance {source : SensorSource size} {sensorType : ℤ} :
    DecidablePred (IsFor source sensorType : StateOrigin size V → Prop)
  | sensorDevice _ _ dsuid type _ _ =>
    inferInstanceAs (Decidable (source = .device dsuid ∧ type = sensorType))
  | sensorZone _ _ zoneId groupId type _ _ =>
    inferInstanceAs (Decidable (source = .zone zoneId groupId ∧ type = sensorType))
  | apartment _ | typed _ _ _ | binaryInput _ _ | device _ _ | group _ | circuit _ _ =>
    inferInstanceAs (Decidable False)

/-- The state was made for something else, but goes by the name of a state of this sensor: it is
for another type, whose number begins with that of this one, or it was named like this. -/
def Collides (source : SensorSource size) (sensorType : ℤ) : StateOrigin size V → Prop
  | sensorDevice _ _ dsuid type _ _ => source = .device dsuid ∧ type ≠ sensorType ∧
      (intToString sensorType).toList <+: (intToString type).toList
  | sensorZone _ _ zoneId groupId type _ _ => source = .zone zoneId groupId ∧ type ≠ sensorType ∧
      (intToString sensorType).toList <+: (intToString type).toList
  | device dsuid stateName => source = .device dsuid ∧
      ("type" ++ intToString sensorType).toList <+: stateName.toList
  | apartment name | typed _ name _ | group name =>
      (source.namePrefix sensorType).toList <+: name.toList
  | binaryInput _ _ | circuit _ _ => False

variable {dsuid dsuid' : Vector UInt8 size} {zoneId groupId n m : ℤ} {rest : String}

theorem notMem_intToString {c : Char} (hdigit : c.isDigit = false) (hsign : c ≠ '-') :
    c ∉ (intToString n).toList :=
  Fields.notMem_repr hdigit hsign

theorem toList_devicePrefix :
    (StateRegistry.devicePrefix dsuid n).toList =
      "dev.".toList ++ ((dsuid2str dsuid).toList ++
        '.' :: ("type" ++ intToString n).toList) := by
  simp [StateRegistry.devicePrefix, String.toList_append]

theorem toList_zonePrefix :
    (StateRegistry.zonePrefix zoneId groupId n).toList =
      "zone.zone".toList ++ ((intToString zoneId).toList ++
        '.' :: ("group".toList ++ ((intToString groupId).toList ++
          '.' :: ("type".toList ++ (intToString n).toList)))) := by
  simp [StateRegistry.zonePrefix, String.toList_append]

theorem devicePrefix_isPrefix_iff :
    (StateRegistry.devicePrefix dsuid n).toList <+:
      ("dev." ++ dsuid2str dsuid' ++ "." ++ rest).toList ↔
    dsuid = dsuid' ∧ ("type" ++ intToString n).toList <+: rest.toList := by
  have hname : ("dev." ++ dsuid2str dsuid' ++ "." ++ rest).toList =
      "dev.".toList ++ ((dsuid2str dsuid').toList ++ '.' :: rest.toList) := by
    simp [String.toList_append]
  have hlength : (dsuid2str dsuid).toList.length = (dsuid2str dsuid').toList.length := by
    rw [length_dsuid2str, length_dsuid2str]
  rw [hname, toList_devicePrefix, List.prefix_append_right_inj,
    Fields.append_isPrefix_iff hlength, dsuid2str_toList_inj]
  simp

theorem type_isPrefix_iff {identifier : String} :
    ("type" ++ intToString n).toList <+:
      ("type" ++ intToString m ++ "." ++ identifier).toList ↔
    (intToString n).toList <+: (intToString m).toList := by
  have hname : ("type" ++ intToString m ++ "." ++ identifier).toList =
      "type".toList ++ ((intToString m).toList ++ '.' :: identifier.toList) := by
    simp [String.toList_append]
  rw [hname, String.toList_append, List.prefix_append_right_inj,
    Fields.isPrefix_append_cons_iff (notMem_intToString rfl (by decide))]

theorem not_type_isPrefix_number :
    ¬ ("type" ++ intToString n).toList <+: (intToString m).toList := by
  intro h
  refine notMem_intToString (c := 't') rfl (by decide) (h.subset ?_)
  rw [String.toList_append]
  exact List.mem_append_left _ List.mem_cons_self

theorem zonePrefix_isPrefix_iff {zoneId' groupId' : ℤ} {identifier : String} :
    (StateRegistry.zonePrefix zoneId groupId n).toList <+:
      ("zone.zone" ++ intToString zoneId' ++ ".group" ++ intToString groupId' ++
        ".type" ++ intToString m ++ "." ++ identifier).toList ↔
    zoneId = zoneId' ∧ groupId = groupId' ∧
      (intToString n).toList <+: (intToString m).toList := by
  have hname : ("zone.zone" ++ intToString zoneId' ++ ".group" ++ intToString groupId' ++
        ".type" ++ intToString m ++ "." ++ identifier).toList =
      "zone.zone".toList ++ ((intToString zoneId').toList ++
        '.' :: ("group".toList ++ ((intToString groupId').toList ++
          '.' :: ("type".toList ++ ((intToString m).toList ++ '.' :: identifier.toList))))) := by
    simp [String.toList_append]
  have hdot {k : ℤ} : '.' ∉ (intToString k).toList := notMem_intToString rfl (by decide)
  rw [hname, toList_zonePrefix, List.prefix_append_right_inj,
    Fields.append_cons_isPrefix_iff hdot hdot, List.prefix_append_right_inj,
    Fields.append_cons_isPrefix_iff hdot hdot, List.prefix_append_right_inj,
    Fields.isPrefix_append_cons_iff hdot]
  exact and_congr Fields.repr_toList_inj (and_congr Fields.repr_toList_inj Iff.rfl)

theorem namePrefix_isPrefix_iff (source : SensorSource size) (o : StateOrigin size V) :
    (source.namePrefix n).toList <+: o.name.toList ↔ o.IsFor source n ∨ o.Collides source n := by
  -- a type with the same digits is the same one
  have hsplit {k : ℤ} {p : Prop} : (p ∧ (intToString n).toList <+: (intToString k).toList ↔
      p ∧ k = n ∨ p ∧ k ≠ n ∧ (intToString n).toList <+: (intToString k).toList) := by
    rcases eq_or_ne k n with rfl | hne
    · simp
    · simp [hne]
  cases o with
  | apartment name => exact (false_or _).symm.to_iff
  | typed type name identifier => exact (false_or _).symm.to_iff
  | group name => exact (false_or _).symm.to_iff
  | binaryInput dsuid' inputIndex =>
    refine iff_of_false (fun h => ?_) (by rw [Collides, or_false]; exact id)
    cases source with
    | device dsuid => exact not_type_isPrefix_number (devicePrefix_isPrefix_iff.1 h).2
    | zone zoneId groupId =>
      rw [SensorSource.namePrefix, toList_zonePrefix, name] at h
      simp [String.toList_append] at h
  | circuit meter inputIndex =>
    refine iff_of_false (fun h => ?_) (by rw [Collides, or_false]; exact id)
    cases source with
    | device dsuid =>
      rw [SensorSource.namePrefix, toList_devicePrefix, name] at h
      simp [String.toList_append] at h
    | zone zoneId groupId =>
      rw [SensorSource.namePrefix, toList_zonePrefix, name] at h
      simp [String.toList_append] at h
  | device dsuid' stateName =>
    rw [IsFor, false_or]
    cases source with
    | device dsuid =>
      refine devicePrefix_isPrefix_iff.trans (and_congr_left' ?_)
      rw [SensorSource.device.injEq]
    | zone zoneId groupId =>
      refine iff_of_false (fun h => ?_) fun h => ?_
      · rw [SensorSource.namePrefix, toList_zonePrefix, name] at h
        simp [String.toList_append] at h
      · cases h.1
  | sensorDevice identifier scriptId dsuid' type activate deactivate =>
    rw [IsFor, Collides, ← hsplit]
    cases source with
    | device dsuid =>
      have hname : "dev." ++ dsuid2str dsuid' ++ ".type" ++ intToString type ++ "." ++ identifier =
          "dev." ++ dsuid2str dsuid' ++ "." ++
            ("type" ++ intToString type ++ "." ++ identifier) := by
        apply String.toList_inj.mp
        simp [String.toList_append]
      rw [name, hname, SensorSource.device.injEq]
      exact devicePrefix_isPrefix_iff.trans (and_congr_right' type_isPrefix_iff)
    | zone zoneId groupId =>
      refine iff_of_false (fun h => ?_) fun h => ?_
      · rw [SensorSource.namePrefix, toList_zonePrefix, name] at h
        simp [String.toList_append] at h
      · cases h.1
  | sensorZone identifier scriptId zoneId' groupId' type activate deactivate =>
    rw [IsFor, Collides, ← hsplit]
    cases source with
    | device dsuid =>
      refine iff_of_false (fun h => ?_) fun h => ?_
      · rw [SensorSource.namePrefix, toList_devicePrefix, name] at h
        simp [String.toList_append] at h
      · cases h.1
    | zone zoneId groupId =>
      rw [SensorSource.zone.injEq, and_assoc]
      exact zonePrefix_isPrefix_iff

theorem IsFor.spec {source : SensorSource size} {o : StateOrigin size V} (h : o.IsFor source n) :
    ¬ o.Collides source n ∧ o.conditions.isSome := by
  cases o with
  | sensorDevice identifier scriptId dsuid type activate deactivate =>
    exact ⟨fun hcollides => hcollides.2.1 h.2, rfl⟩
  | sensorZone identifier scriptId zoneId groupId type activate deactivate =>
    exact ⟨fun hcollides => hcollides.2.1 h.2, rfl⟩
  | apartment name => cases h
  | typed type name identifier => cases h
  | binaryInput dsuid inputIndex => cases h
  | device dsuid stateName => cases h
  | group name => cases h
  | circuit meter inputIndex => cases h

end StateOrigin

/-! ## The loop -/

namespace ApartmentState

variable {size : ℕ} {V : Type} [LT V] [DecidableLT V] {s s' : ApartmentState size V} {value : V}

theorem newValue_ne_self : s.newValue value ≠ some s := by
  intro h
  obtain ⟨conditions, -, hs⟩ := Option.map_eq_some_iff.mp h
  have hreceived := congrArg (fun s => s.received.length) hs
  simp at hreceived

def FedTo (p : Prop) (value : V) (s s' : ApartmentState size V) : Prop :=
  (p → s.newValue value = some s') ∧ (¬ p → s' = s)

end ApartmentState

namespace StateRegistry

variable {size : ℕ} {V : Type}

@[ext]
theorem ext' {w w' : StateRegistry size V} (hobjects : w.objects = w'.objects)
    (hstates : w.states = w'.states) : w = w' := by
  obtain ⟨objects, states, nodup, made⟩ := w
  obtain ⟨objects', states', nodup', made'⟩ := w'
  obtain rfl : objects = objects' := hobjects
  obtain rfl : states = states' := hstates
  rfl

def registered (w : StateRegistry size V) : List (StateOrigin size V) :=
  w.states.filterMap fun ref => (w.objects[ref]?).map ApartmentState.origin

theorem mem_registered {w : StateRegistry size V} {o : StateOrigin size V} :
    o ∈ w.registered ↔ ∃ ref ∈ w.states, ∃ s, w.objects[ref]? = some s ∧ s.origin = o := by
  simp [registered]

theorem getElem?_put_self {w : StateRegistry size V} {ref : ℕ} {s : ApartmentState size V}
    (h : ref < w.objects.length) : (w.put ref s).objects[ref]? = some s :=
  List.getElem?_set_self h

theorem getElem?_put_ne {w : StateRegistry size V} {ref i : ℕ} {s : ApartmentState size V}
    (h : i ≠ ref) : (w.put ref s).objects[i]? = w.objects[i]? :=
  List.getElem?_set_ne h.symm

variable [LT V] [DecidableLT V] {w w' : StateRegistry size V} {value : V} {namePrefix : String}

theorem feed_eq_some_iff {ref : ℕ} {s : ApartmentState size V} (hs : w.objects[ref]? = some s) :
    feed namePrefix value w ref = some w' ↔
      ∃ s', s.FedTo (namePrefix.toList <+: s.origin.name.toList) value s' ∧ w.put ref s' = w' := by
  rw [feed, hs]
  dsimp only
  by_cases hprefix : namePrefix.toList <+: s.origin.name.toList
  · rw [if_pos (List.isPrefixOf_iff_prefix.mpr hprefix), Option.map_eq_some_iff]
    refine exists_congr fun s' => and_congr_left' ?_
    exact ⟨fun h => ⟨fun _ => h, fun hnot => absurd hprefix hnot⟩, fun h => h.1 hprefix⟩
  · rw [if_neg fun h => hprefix (List.isPrefixOf_iff_prefix.mp h)]
    have hput : w.put ref s = w := by
      refine ext' ?_ rfl
      obtain ⟨hlt, rfl⟩ := List.getElem?_eq_some_iff.mp hs
      exact List.set_getElem_self hlt
    constructor
    · intro h
      rw [Option.some.injEq] at h
      exact ⟨s, ⟨fun hp => absurd hp hprefix, fun _ => rfl⟩, hput.trans h⟩
    · rintro ⟨s', hfed, hput'⟩
      rw [hfed.2 hprefix, hput] at hput'
      rw [hput']

/-- **The loop**: every state of the list gets the value if its name begins with the prefix, and
no state changes otherwise. -/
theorem foldlM_feed_eq_some_iff {refs : List ℕ} (hnodup : refs.Nodup)
    (hmade : ∀ ref ∈ refs, ref < w.objects.length) :
    refs.foldlM (feed namePrefix value) w = some w' ↔
      w'.states = w.states ∧
      (∀ ref, ref ∉ refs → w'.objects[ref]? = w.objects[ref]?) ∧
      ∀ ref ∈ refs, ∀ s, w.objects[ref]? = some s →
        ∃ s', w'.objects[ref]? = some s' ∧
          s.FedTo (namePrefix.toList <+: s.origin.name.toList) value s' := by
  induction refs generalizing w with
  | nil =>
    constructor
    · intro h
      obtain rfl := Option.some.inj h
      exact ⟨rfl, fun _ _ => rfl, List.forall_mem_nil _⟩
    · rintro ⟨hstates, hsame, -⟩
      have hobjects : w.objects = w'.objects :=
        List.ext_getElem? fun i => (hsame i List.not_mem_nil).symm
      exact congrArg some (ext' hobjects hstates.symm)
  | cons ref refs ih =>
    obtain ⟨hnew, hnodup'⟩ := List.nodup_cons.mp hnodup
    have hlt : ref < w.objects.length := hmade ref List.mem_cons_self
    have hs : w.objects[ref]? = some w.objects[ref] := List.getElem?_eq_getElem hlt
    -- the turns that follow do not come to this state again
    have hrest {s' : ApartmentState size V} :=
      ih (w := w.put ref s') hnodup' fun a ha => by
        rw [put, List.length_set]
        exact hmade a (List.mem_cons_of_mem ref ha)
    have hother {s' : ApartmentState size V} {a : ℕ} (ha : a ∈ refs) :
        (w.put ref s').objects[a]? = w.objects[a]? :=
      getElem?_put_ne fun hmem => hnew (by rw [← hmem]; exact ha)
    rw [List.foldlM_cons, Option.bind_eq_bind, Option.bind_eq_some_iff]
    constructor
    · rintro ⟨w₁, hfeed, hfold⟩
      obtain ⟨s', hfed, rfl⟩ := (feed_eq_some_iff hs).mp hfeed
      obtain ⟨hstates, hsame, hall⟩ := hrest.mp hfold
      refine ⟨hstates, fun a ha => ?_, fun a ha s hsa => ?_⟩
      · rw [hsame a (List.not_mem_of_not_mem_cons ha),
          getElem?_put_ne (List.ne_of_not_mem_cons ha)]
      · rcases List.mem_cons.mp ha with rfl | ha
        · rw [hs] at hsa
          rw [← Option.some.inj hsa]
          exact ⟨s', (hsame a hnew).trans (getElem?_put_self hlt), hfed⟩
        · exact hall a ha s ((hother ha).trans hsa)
    · rintro ⟨hstates, hsame, hall⟩
      obtain ⟨s', hs', hfed⟩ := hall ref List.mem_cons_self _ hs
      refine ⟨w.put ref s', (feed_eq_some_iff hs).mpr ⟨s', hfed, rfl⟩, hrest.mpr
        ⟨hstates, fun a ha => ?_, fun a ha s hsa => ?_⟩⟩
      · by_cases hself : a = ref
        · rw [hself, hs', getElem?_put_self hlt]
        · rw [getElem?_put_ne hself]
          exact hsame a (List.not_mem_cons_of_ne_of_not_mem hself ha)
      · exact hall a (List.mem_cons_of_mem ref ha) s ((hother ha).symm.trans hsa)

/-! ## The law -/

def fed (w : StateRegistry size V) (p : StateOrigin size V → Prop) [DecidablePred p] (value : V) :
    StateRegistry size V :=
  { w with
    objects := w.objects.mapIdx fun ref s =>
      if ref ∈ w.states ∧ p s.origin then (s.newValue value).getD s else s
    made := fun ref h => by
      rw [List.length_mapIdx]
      exact w.made ref h }

theorem getElem?_fed {p : StateOrigin size V → Prop} [DecidablePred p] {ref : ℕ} :
    (w.fed p value).objects[ref]? = (w.objects[ref]?).map fun s =>
      if ref ∈ w.states ∧ p s.origin then (s.newValue value).getD s else s :=
  List.getElem?_mapIdx

theorem fedTo_iff {source : SensorSource size} {sensorType : ℤ} {s : ApartmentState size V} :
    s.FedTo ((source.namePrefix sensorType).toList <+: s.origin.name.toList) value
        (if s.origin.IsFor source sensorType then (s.newValue value).getD s else s) ↔
      ¬ s.origin.Collides source sensorType := by
  have hname := StateOrigin.namePrefix_isPrefix_iff (n := sensorType) source s.origin
  rw [hname]
  by_cases hfor : s.origin.IsFor source sensorType
  · rw [if_pos hfor]
    obtain ⟨hcollides, hsome⟩ := hfor.spec
    refine iff_of_true ⟨fun _ => ?_, fun hnot => absurd (Or.inl hfor) hnot⟩ hcollides
    obtain ⟨conditions, hconditions⟩ := Option.isSome_iff_exists.mp hsome
    rw [ApartmentState.newValue, hconditions]
    rfl
  · rw [if_neg hfor]
    constructor
    · rintro ⟨hfed, -⟩ hcollides
      exact ApartmentState.newValue_ne_self (hfed (Or.inr hcollides))
    · intro hnot
      exact ⟨fun h => absurd h (not_or.mpr ⟨hfor, hnot⟩), fun _ => rfl⟩

/-- **A value goes to the states of its sensor only**, and to all of them, exactly if no other
state goes by the name of one. -/
theorem feedAll_eq_fed_iff (source : SensorSource size) (sensorType : ℤ) :
    w.feedAll (source.namePrefix sensorType) value =
        some (w.fed (StateOrigin.IsFor source sensorType) value) ↔
      ∀ o ∈ w.registered, ¬ o.Collides source sensorType := by
  rw [feedAll, foldlM_feed_eq_some_iff w.nodup w.made]
  constructor
  · rintro ⟨-, -, hall⟩ o ho
    obtain ⟨ref, href, s, hs, rfl⟩ := mem_registered.1 ho
    obtain ⟨s', hs', hfed⟩ := hall ref href s hs
    rw [getElem?_fed, hs, Option.map_some, Option.some.injEq] at hs'
    simp only [href, true_and] at hs'
    rw [← hs'] at hfed
    exact fedTo_iff.1 hfed
  · intro hnone
    refine ⟨rfl, fun ref href => ?_, fun ref href s hs => ?_⟩
    · rw [getElem?_fed]
      simp only [href, false_and, if_false, Option.map_id']
    · have hcollides := hnone _ (mem_registered.2 ⟨ref, href, s, hs, rfl⟩)
      refine ⟨_, ?_, fedTo_iff.2 hcollides⟩
      rw [getElem?_fed, hs]
      simp only [href, true_and, Option.map_some]

/-- **Sensor states are isolated** from each other, and from all other states, exactly if no
registered state collides with those of the sensor. -/
theorem updateSensorStates_isolated_iff (w : StateRegistry size V) (value : V) :
    (∀ (dsuid : Vector UInt8 size) (sensorType : ℤ),
      w.updateDeviceSensorStates dsuid sensorType value =
          some (w.fed (StateOrigin.IsFor (.device dsuid) sensorType) value) ↔
        ∀ o ∈ w.registered, ¬ o.Collides (.device dsuid) sensorType) ∧
    ∀ zoneId groupId sensorType : ℤ,
      w.updateZoneSensorStates zoneId groupId sensorType value =
          some (w.fed (StateOrigin.IsFor (.zone zoneId groupId) sensorType) value) ↔
        ∀ o ∈ w.registered, ¬ o.Collides (.zone zoneId groupId) sensorType := by
  constructor
  · intro dsuid sensorType
    exact feedAll_eq_fed_iff (.device dsuid) _
  · intro zoneId groupId sensorType
    exact feedAll_eq_fed_iff (.zone zoneId groupId) _

omit [LT V] [DecidableLT V] in
def single (state : ApartmentState size V) : StateRegistry size V :=
  (empty.make state).pushBack 0 Nat.zero_lt_one List.not_mem_nil

/-- A state for `OutputCurrent16A`, 64, gets the value of `ElectricMeter`, 6. -/
theorem sensor_isolation_fails :
    ¬ ∀ (w : StateRegistry 17 ℤ) (dsuid : Vector UInt8 17) (sensorType value : ℤ),
      w.updateDeviceSensorStates dsuid sensorType value =
        some (w.fed (StateOrigin.IsFor (.device dsuid) sensorType) value) := by
  intro h
  let dsuid : Vector UInt8 17 := .replicate 17 0
  let current : StateOrigin 17 ℤ :=
    .sensorDevice "high" "script" dsuid 64 ⟨.higher, 25⟩ ⟨.lower, 20⟩
  have hfed := h (single (.create current none)) dsuid 6 30
  refine (feedAll_eq_fed_iff (.device dsuid) _).mp hfed current
    (List.mem_singleton_self current) ⟨rfl, by decide, ?_⟩
  exact ⟨['4'], rfl⟩

end StateRegistry

end Dss
