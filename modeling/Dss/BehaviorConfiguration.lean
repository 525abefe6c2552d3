import Mathlib.Data.Nat.Bitwise
import Dss.Behavior

/-!
# Configurations as documents

A behaviour reads its configuration from a text and writes it into one. For a ventilation the
text lists the active basic scenes; a default behaviour wants an empty object. Here the texts are
parsed already.
-/

namespace Dss

open List Option

/-! ## Documents -/

/-- `rapidjson::Document`. A text that cannot be parsed leaves it `null`. -/
inductive JsonDocument : Type where
  | null : JsonDocument
  /-- `true` or `false` -/
  | boolean : Bool → JsonDocument
  /-- a number with `IsInt` -/
  | int : ℤ → JsonDocument
  | number : JsonDocument
  /-- a text -/
  | string : String → JsonDocument
  | array : List JsonDocument → JsonDocument
  | object : List (String × JsonDocument) → JsonDocument

namespace JsonDocument

def isObject : JsonDocument → Bool
  | object _ => true
  | _ => false

def isInt : JsonDocument → Bool
  | int _ => true
  | _ => false

/-- `HasMember` and `operator[]` of an object: the first member of the name. -/
def member? (name : String) : JsonDocument → Option JsonDocument
  | object members => (members.find? fun member => member.1 = name).map Prod.snd
  | _ => none

end JsonDocument

/-! ## What a text means -/

open JsonDocument

def activeBasicScenesMember : String := "activeBasicScenes"

def sceneBit (scene : ℤ) : Option ℕ := offsetToSceneId.findIdx? fun basic : ℕ => (basic : ℤ) = scene

def documentBit : JsonDocument → Option ℕ
  | int scene => sceneBit scene
  | _ => none

def IsConfiguration (kind : BehaviorKind) (d : JsonDocument) : Prop :=
  d.isObject = true ∧
    (kind = .ventilation → ∀ scenes, d.member? activeBasicScenesMember = some scenes →
      ∃ items, scenes = array items ∧ ∀ item ∈ items, (documentBit item).isSome = true)

/-- The scenes that are active according to a text: those it lists, or all basic scenes. -/
def Lists (d : JsonDocument) (scene : ℕ) : Prop :=
  scene ∈ offsetToSceneId ∧ ∀ scenes, d.member? activeBasicScenesMember = some scenes →
    ∃ items, scenes = array items ∧ int scene ∈ items

/-- The first item that is no basic scene is not even an integer, or there is none. -/
def readable (items : List JsonDocument) : Bool :=
  ((items.find? fun item => (documentBit item).isNone).all isInt)

/-- A text with a list of scenes that is not readable. -/
def IsUnreadable (d : JsonDocument) : Prop :=
  ∃ items, d.member? activeBasicScenesMember = some (array items) ∧ readable items = false

/-! ## The code -/

/-- How reading a text fails. -/
inductive DecodeFailure : Type where
  | thrown (e : Exception) : DecodeFailure
  /-- `GetInt` asserts that the value is an integer -/
  | assertion : DecodeFailure
  deriving DecidableEq

def sceneNotValid (scene : ℤ) : String :=
  "Basic SceneId:" ++ toString scene ++ " not valid (should be " ++ toString sceneOff ++ ", " ++
    toString scene1 ++ ", " ++ toString scene2 ++ ", " ++ toString scene3 ++ ", " ++
    toString scene4 ++ " or " ++ toString sceneBoost ++ ")"

/-- The loop over `activeBasicScenes`. -/
def clearBits (configuration : ℕ) : List JsonDocument → Except DecodeFailure ℕ
  | [] => .ok configuration
  | int scene :: items =>
    match sceneBit scene with
    | some bit => clearBits (configuration.ldiff (2 ^ bit)) items
    | none => .error (.thrown (.runtimeError (sceneNotValid scene)))
  | _ :: _ => .error .assertion

def deserializeConfiguration (kind : BehaviorKind) (d : JsonDocument) :
    Except DecodeFailure ℕ :=
  if d.isObject = false then .error (.thrown (.runtimeError "Error during Json parsing"))
  else
    match kind with
    | .default => .ok 0
    | .ventilation =>
      match d.member? activeBasicScenesMember with
      | none => .ok 0
      | some (array items) => clearBits 0x3F items
      | some _ => .error (.thrown (.runtimeError "No valid 'activeBasicScenes' array found"))

/-- `serializeConfiguration`, between the braces of the writer. It is given a configuration and
writes the one of the behaviour. -/
def Behavior.serializeConfiguration (b : Behavior) (_configuration : ℕ) : JsonDocument :=
  match b.kind with
  | .default => object []
  | .ventilation => object [(activeBasicScenesMember,
      array (b.getActiveBasicScenes.map fun scene : ℕ => int scene))]

/-! ## Bits and scenes -/

variable {configuration bit scene : ℕ} {d : JsonDocument} {items : List JsonDocument}

theorem sceneBit_eq_some_iff {scene : ℤ} :
    sceneBit scene = some bit ↔
      offsetToSceneId[bit]?.map (fun basic : ℕ => (basic : ℤ)) = some scene := by
  constructor
  · intro h
    obtain ⟨hlt, hp, -⟩ := findIdx?_eq_some_iff_getElem.mp h
    rw [getElem?_eq_getElem hlt, map_some, of_decide_eq_true hp]
  · intro h
    obtain ⟨basic, hbasic, rfl⟩ := map_eq_some_iff.mp h
    have all : ∀ entry ∈ offsetToSceneId.zipIdx, sceneBit (entry.1 : ℤ) = some entry.2 := by decide
    exact all (basic, bit) (mem_zipIdx_iff_getElem?.mpr hbasic)

theorem sceneBit_natCast :
    sceneBit (scene : ℤ) = some bit ↔ offsetToSceneId[bit]? = some scene := by
  rw [sceneBit_eq_some_iff, map_eq_some_iff]
  refine ⟨fun ⟨basic, hbasic, heq⟩ => ?_, fun h => ⟨scene, h, rfl⟩⟩
  rw [hbasic, Int.ofNat_inj.mp heq]

theorem sceneBit_natCast_isSome :
    (sceneBit (scene : ℤ)).isSome = true ↔ scene ∈ offsetToSceneId := by
  rw [isSome_iff_exists, mem_iff_getElem?]
  exact exists_congr fun bit => sceneBit_natCast

theorem mem_activeScenes (h : offsetToSceneId[bit]? = some scene) :
    scene ∈ activeScenes configuration ↔ configuration.testBit bit = false := by
  rw [activeScenes, List.mem_map]
  constructor
  · rintro ⟨entry, hentry, rfl⟩
    obtain ⟨hmem, hbit⟩ := mem_filter.mp hentry
    have hplace := mem_zipIdx_iff_getElem?.mp hmem
    have hsame : entry.2 = bit := by
      have := (sceneBit_natCast.2 hplace).symm.trans (sceneBit_natCast.2 h)
      exact some.inj this
    simpa [hsame] using hbit
  · intro hbit
    refine ⟨(scene, bit), mem_filter.mpr ⟨mem_zipIdx_iff_getElem?.mpr h, ?_⟩, rfl⟩
    simpa using hbit

theorem mem_offset_of_mem_activeScenes (h : scene ∈ activeScenes configuration) :
    scene ∈ offsetToSceneId := by
  rw [activeScenes, List.mem_map] at h
  obtain ⟨entry, hentry, rfl⟩ := h
  exact mem_of_getElem? (mem_zipIdx_iff_getElem?.mp (mem_filter.mp hentry).1)

theorem documentBit_eq_some_iff {item : JsonDocument} (h : offsetToSceneId[bit]? = some scene) :
    documentBit item = some bit ↔ item = int scene := by
  constructor
  · intro hitem
    cases item with
    | int other =>
      rw [documentBit, sceneBit_eq_some_iff, h, map_some] at hitem
      rw [some.inj hitem]
    | _ => cases hitem
  · rintro rfl
    exact sceneBit_natCast.2 h

/-! ## The loop -/

theorem clearBits_ok (h : ∀ item ∈ items, (documentBit item).isSome = true) :
    ∃ result, clearBits configuration items = .ok result ∧
      ∀ bit, result.testBit bit = (configuration.testBit bit &&
        !decide (some bit ∈ items.map documentBit)) := by
  induction items generalizing configuration with
  | nil => exact ⟨configuration, rfl, fun bit => by simp⟩
  | cons item items ih =>
    have hitem := h item mem_cons_self
    cases item with
    | int scene =>
      obtain ⟨place, hplace⟩ := isSome_iff_exists.mp hitem
      replace hplace : sceneBit scene = some place := hplace
      obtain ⟨result, hresult, hbits⟩ :=
        @ih (configuration.ldiff (2 ^ place)) fun item hmem =>
          h item (mem_cons_of_mem _ hmem)
      refine ⟨result, ?_, fun bit => ?_⟩
      · rw [clearBits, hplace]
        exact hresult
      · rw [hbits bit, map_cons, documentBit, hplace]
        by_cases hsame : place = bit
        · simp [hsame]
        · simp [hsame, Ne.symm hsame]
    | _ => cases hitem

theorem clearBits_error (h : ¬ ∀ item ∈ items, (documentBit item).isSome = true) :
    (readable items = true ∧ ∃ e, clearBits configuration items = .error (.thrown e)) ∨
      (readable items = false ∧ clearBits configuration items = .error .assertion) := by
  induction items generalizing configuration with
  | nil => exact absurd nofun h
  | cons item items ih =>
    rcases hitem : documentBit item with - | place
    · rw [readable, find?_cons_of_pos (by rw [hitem]; rfl)]
      cases item with
      | int scene =>
        replace hitem : sceneBit scene = none := hitem
        exact Or.inl ⟨rfl, _, by rw [clearBits, hitem]⟩
      | _ => exact Or.inr ⟨rfl, rfl⟩
    · have hrest : ¬ ∀ item ∈ items, (documentBit item).isSome = true := by
        refine fun hall => h fun other hother => ?_
        rcases mem_cons.mp hother with rfl | hmem
        · rw [hitem]
          rfl
        · exact hall other hmem
      have hreadable : readable (item :: items) = readable items := by
        rw [readable, find?_cons_of_neg (by rw [hitem]; simp), readable]
      cases item with
      | int scene =>
        replace hitem : sceneBit scene = some place := hitem
        rw [hreadable, clearBits, hitem]
        exact ih hrest
      | _ => cases hitem

/-! ## Reading -/

theorem deserialize_default : deserializeConfiguration .default d =
    if d.isObject = false then .error (.thrown (.runtimeError "Error during Json parsing"))
    else .ok 0 :=
  rfl

theorem isObject_of_member {value : JsonDocument} {name : String}
    (h : d.member? name = some value) : d.isObject = true := by
  cases d with
  | object members => rfl
  | _ => cases h

structure Decoded (d : JsonDocument) (configuration : ℕ) : Prop where
  /-- no other bits than those of the scenes -/
  bound : configuration < 2 ^ 6
  active : ∀ scene, scene ∈ activeScenes configuration ↔ Lists d scene

theorem exists_bit_iff :
    (∃ bit : ℕ, offsetToSceneId[bit]? = some scene) ↔ scene ∈ offsetToSceneId :=
  mem_iff_getElem?.symm

theorem active_iff_of_bits (h : ∀ bit scene : ℕ, offsetToSceneId[bit]? = some scene →
    (configuration.testBit bit = false ↔ Lists d scene)) (scene : ℕ) :
    scene ∈ activeScenes configuration ↔ Lists d scene := by
  constructor
  · intro hmem
    obtain ⟨bit, hbit⟩ := exists_bit_iff.2 (mem_offset_of_mem_activeScenes hmem)
    exact (h bit scene hbit).mp ((mem_activeScenes hbit).mp hmem)
  · intro hlists
    obtain ⟨bit, hbit⟩ := exists_bit_iff.2 hlists.1
    exact (mem_activeScenes hbit).mpr ((h bit scene hbit).mpr hlists)

theorem lt_two_pow_of_bits {n : ℕ} (h : ∀ bit, n ≤ bit → configuration.testBit bit = false) :
    configuration < 2 ^ n :=
  Nat.lt_pow_two_of_testBit configuration h

theorem decoded_of_none (hmember : d.member? activeBasicScenesMember = none) : Decoded d 0 := by
  refine ⟨by decide, active_iff_of_bits fun bit scene hbit => ?_⟩
  rw [Nat.zero_testBit]
  refine ⟨fun _ => ⟨exists_bit_iff.1 ⟨bit, hbit⟩, fun scenes h => ?_⟩, fun _ => rfl⟩
  rw [hmember] at h
  cases h

theorem decoded_of_items (hmember : d.member? activeBasicScenesMember = some (array items))
    (hall : ∀ item ∈ items, (documentBit item).isSome = true) :
    ∃ result, clearBits 0x3F items = .ok result ∧ Decoded d result := by
  obtain ⟨result, hresult, hbits⟩ := @clearBits_ok 0x3F items hall
  have hmask : ∀ bit, (0x3F : ℕ).testBit bit = decide (bit < 6) := fun bit =>
    Nat.testBit_two_pow_sub_one 6 bit
  refine ⟨result, hresult, lt_two_pow_of_bits fun bit hbit => ?_,
    active_iff_of_bits fun bit scene hbit => ?_⟩
  · rw [hbits bit, hmask, decide_eq_false (Nat.not_lt.mpr hbit), Bool.false_and]
  · have hlt : bit < 6 := (List.getElem?_eq_some_iff.mp hbit).1
    rw [hbits bit, hmask, decide_eq_true hlt, Bool.true_and, Bool.not_eq_false',
      decide_eq_true_iff, List.mem_map]
    constructor
    · rintro ⟨item, hitem, hbititem⟩
      rw [documentBit_eq_some_iff hbit] at hbititem
      refine ⟨exists_bit_iff.1 ⟨bit, hbit⟩, fun scenes h => ?_⟩
      rw [hmember] at h
      exact ⟨items, (some.inj h).symm, hbititem ▸ hitem⟩
    · rintro ⟨-, hlisted⟩
      obtain ⟨others, hsame, hitem⟩ := hlisted _ hmember
      obtain rfl := JsonDocument.array.inj hsame
      exact ⟨_, hitem, (documentBit_eq_some_iff hbit).mpr rfl⟩

theorem isUnreadable_iff (hmember : d.member? activeBasicScenesMember = some (array items)) :
    IsUnreadable d ↔ readable items = false := by
  constructor
  · rintro ⟨others, hothers, hunread⟩
    rw [hmember] at hothers
    obtain rfl := JsonDocument.array.inj (some.inj hothers)
    exact hunread
  · exact fun h => ⟨items, hmember, h⟩

theorem isConfiguration_iff_of_items
    (hmember : d.member? activeBasicScenesMember = some (array items)) :
    IsConfiguration .ventilation d ↔ ∀ item ∈ items, (documentBit item).isSome = true := by
  constructor
  · intro h
    obtain ⟨others, hsame, hothers⟩ := h.2 rfl _ hmember
    obtain rfl := JsonDocument.array.inj hsame
    exact hothers
  · refine fun hall => ⟨isObject_of_member hmember, fun _ scenes h => ?_⟩
    rw [hmember] at h
    exact ⟨items, (some.inj h).symm, hall⟩

theorem deserialize_of_object (hobject : d.isObject = true) :
    deserializeConfiguration .ventilation d =
      match d.member? activeBasicScenesMember with
      | none => .ok 0
      | some (array items) => clearBits 0x3F items
      | some _ =>
        .error (.thrown (.runtimeError "No valid 'activeBasicScenes' array found")) := by
  rw [deserializeConfiguration, if_neg (by rw [hobject]; simp)]

/-- **What a ventilation makes of a text.** It reads exactly the configurations, and fails an
assertion exactly on those lists that are not readable. -/
theorem deserialize_ventilation (d : JsonDocument) :
    (IsConfiguration .ventilation d ∧ ∃ configuration,
        deserializeConfiguration .ventilation d = .ok configuration ∧ Decoded d configuration) ∨
      (¬ IsConfiguration .ventilation d ∧ ¬ IsUnreadable d ∧
        ∃ e, deserializeConfiguration .ventilation d = .error (.thrown e)) ∨
      (¬ IsConfiguration .ventilation d ∧ IsUnreadable d ∧
        deserializeConfiguration .ventilation d = .error .assertion) := by
  rcases hobject : d.isObject with - | -
  · -- not an object
    refine Or.inr (Or.inl ⟨fun h => ?_, fun h => ?_, _, if_pos hobject⟩)
    · exact absurd (hobject.symm.trans h.1) Bool.false_ne_true
    · obtain ⟨items, hmember, -⟩ := h
      exact absurd (hobject.symm.trans (isObject_of_member hmember)) Bool.false_ne_true
  rw [deserialize_of_object hobject]
  rcases hmember : d.member? activeBasicScenesMember with - | scenes
  · -- nothing is listed
    refine Or.inl ⟨⟨hobject, fun _ scenes h => ?_⟩, 0, rfl, decoded_of_none hmember⟩
    rw [hmember] at h
    cases h
  by_cases harray : ∃ items, scenes = array items
  · obtain ⟨items, rfl⟩ := harray
    rw [isConfiguration_iff_of_items hmember, isUnreadable_iff hmember]
    by_cases hall : ∀ item ∈ items, (documentBit item).isSome = true
    · exact Or.inl ⟨hall, decoded_of_items hmember hall⟩
    · rcases @clearBits_error 0x3F items hall with ⟨hread, he⟩ | ⟨hread, he⟩
      · exact Or.inr (Or.inl ⟨hall, by rw [hread]; simp, he⟩)
      · exact Or.inr (Or.inr ⟨hall, hread, he⟩)
  · -- no list
    refine Or.inr (Or.inl ⟨fun h => ?_, fun h => ?_, ?_⟩)
    · obtain ⟨items, hitems, -⟩ := h.2 rfl _ hmember
      exact harray ⟨items, hitems⟩
    · obtain ⟨items, hitems, -⟩ := h
      rw [hmember] at hitems
      exact harray ⟨items, some.inj hitems⟩
    · cases scenes with
      | array items => exact absurd ⟨items, rfl⟩ harray
      | _ => exact ⟨_, rfl⟩

/-! ## Writing and reading again -/

theorem isConfiguration_default : IsConfiguration .default d ↔ d.isObject = true :=
  ⟨fun h => h.1, fun h => ⟨h, nofun⟩⟩

theorem member_serialize {b : Behavior} (h : b.kind = .ventilation) (written : ℕ) :
    (b.serializeConfiguration written).member? activeBasicScenesMember =
      some (array ((activeScenes b.configuration).map fun scene : ℕ => int scene)) := by
  rw [Behavior.serializeConfiguration, h, Behavior.getActiveBasicScenes]
  simp [member?]

theorem lists_serialize {b : Behavior} (h : b.kind = .ventilation) (written : ℕ) :
    Lists (b.serializeConfiguration written) scene ↔ scene ∈ activeScenes b.configuration := by
  constructor
  · rintro ⟨-, hlisted⟩
    obtain ⟨items, hsame, hitem⟩ := hlisted _ (member_serialize h written)
    obtain rfl := JsonDocument.array.inj hsame
    obtain ⟨other, hother, heq⟩ := mem_map.mp hitem
    rwa [← Int.ofNat_inj.mp (JsonDocument.int.inj heq)]
  · intro hmem
    refine ⟨mem_offset_of_mem_activeScenes hmem, fun scenes hscenes => ?_⟩
    rw [member_serialize h] at hscenes
    exact ⟨_, (some.inj hscenes).symm, mem_map.mpr ⟨scene, hmem, rfl⟩⟩

theorem eq_of_activeScenes {other : ℕ} (h : configuration < 2 ^ 6) (hother : other < 2 ^ 6)
    (hsame : ∀ scene, scene ∈ activeScenes configuration ↔ scene ∈ activeScenes other) :
    configuration = other := by
  refine Nat.eq_of_testBit_eq fun bit => ?_
  by_cases hbit : bit < 6
  · have hplace : offsetToSceneId[bit]? = some offsetToSceneId[bit] := getElem?_eq_getElem hbit
    have hiff := hsame offsetToSceneId[bit]
    rw [mem_activeScenes hplace, mem_activeScenes hplace] at hiff
    rcases hc : configuration.testBit bit with - | -
    · exact (hiff.mp hc).symm
    · rcases ho : other.testBit bit with - | -
      · rw [hiff.mpr ho] at hc
        cases hc
      · rfl
  · have hle : 2 ^ 6 ≤ 2 ^ bit := Nat.pow_le_pow_right (by decide) (Nat.le_of_not_lt hbit)
    rw [Nat.testBit_lt_two_pow (Nat.lt_of_lt_of_le h hle),
      Nat.testBit_lt_two_pow (Nat.lt_of_lt_of_le hother hle)]

/-- **The round trip of a ventilation.** What it writes, it reads as its own configuration. -/
theorem deserialize_serialize {b : Behavior} (h : b.kind = .ventilation)
    (hbound : b.configuration < 2 ^ 6) (written : ℕ) :
    deserializeConfiguration .ventilation (b.serializeConfiguration written) =
      .ok b.configuration := by
  have hconfiguration : IsConfiguration .ventilation (b.serializeConfiguration written) := by
    rw [isConfiguration_iff_of_items (member_serialize h written)]
    intro item hitem
    obtain ⟨scene, hscene, rfl⟩ := mem_map.mp hitem
    exact sceneBit_natCast_isSome.2 (mem_offset_of_mem_activeScenes hscene)
  rcases deserialize_ventilation (b.serializeConfiguration written) with
    ⟨-, result, hresult, hdecoded⟩ | ⟨hnot, -⟩ | ⟨hnot, -⟩
  · rw [hresult, eq_of_activeScenes hdecoded.bound hbound fun scene => ?_]
    rw [hdecoded.active, lists_serialize h]
  · exact absurd hconfiguration hnot
  · exact absurd hconfiguration hnot

end Dss
