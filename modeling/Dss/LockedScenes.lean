import Mathlib.Data.Finset.Sort
import Dss.Base
import Dss.Bitfield

/-!
# Locked scenes on the bus

A cluster lists the scenes that are locked in it, and the bus takes them as 128 bits. In a list
from a file a number may be any, and what is no number counts as -1. `clusterSetLockedScenes` takes
whatever it is given: a number outside of the bits is a write outside of the array, or a shift by a
negative number.
-/

namespace Dss

open List

namespace LockedScenes

/-! ## The code -/

def parseBitfield (bitfield : List (BitVec 8)) (bits : ℕ) : List ℤ :=
  ((List.range bits).filter fun i =>
    bitfield.getD (i / 8) 0 &&& (1#8 <<< (i % 8)) ≠ 0).map Nat.cast

/-- What the language does not define. -/
inductive Misstep : Type where
  | outside : ℤ → Misstep
  | shift : ℤ → Misstep
  deriving DecidableEq

/-- One turn of the loop of `clusterSetLockedScenes`. -/
def lock (lockedScenes : List (BitVec 8)) (scene : ℤ) : Except Misstep (List (BitVec 8)) :=
  if scene.tmod 8 < 0 then .error (.shift (scene.tmod 8))
  else if scene.tdiv 8 < 0 ∨ 16 ≤ scene.tdiv 8 then .error (.outside (scene.tdiv 8))
  else .ok (lockedScenes.modify (scene.tdiv 8).toNat (· ||| 1#8 <<< (scene.tmod 8).toNat))

/-- How a call ends. -/
inductive Sent : Type where
  /-- a `BusApiError` -/
  | rejected : String → Sent
  | undefined : Misstep → Sent
  /-- the bus has taken the bytes -/
  | transmitted : List (BitVec 8) → Sent
  deriving DecidableEq

structure Bus : Type where
  /-- whether `m_DSMApiHandle` is set -/
  isReady : Bool
  /-- the error of `ClusterProperties_set_scene_lock`, if there is one -/
  setSceneLock : List (BitVec 8) → Option String

/-- `ClusterProperties_set_scene_lock`, and the check of its result -/
def Bus.transmit (bus : Bus) (bytes : List (BitVec 8)) : Sent :=
  match bus.setSceneLock bytes with
  | some what => .rejected what
  | none => .transmitted bytes

def clusterSetLockedScenes (bus : Bus) (scenes : List ℤ) : Sent :=
  if !bus.isReady then .rejected "Bus not ready"
  else
    match scenes.foldlM lock (List.replicate 16 0) with
    | .error misstep => .undefined misstep
    | .ok bytes => bus.transmit bytes

/-- Where the locked scenes of a cluster come from. -/
inductive Origin : Type where
  | given : List ℤ → Origin
  /-- the bytes that `getClusters` has read -/
  | scan : List (BitVec 8) → Origin
  /-- the ids of the elements that `parseLockedScenes` has read -/
  | file : List String → Origin

/-- `m_LockedScenes` -/
def Origin.scenes : Origin → List ℤ
  | .given scenes => scenes
  | .scan bytes => parseBitfield bytes 128
  | .file ids => ids.map fun id => strToIntDef id (-1)

/-! ## The law -/

/-- The scenes that there are bits for. -/
def InRange (scene : ℤ) : Prop := 0 ≤ scene ∧ scene ≤ 127

instance (scene : ℤ) : Decidable (InRange scene) := inferInstanceAs (Decidable (_ ∧ _))

/-- **The law of a call**: the list is rejected, or it has only scenes that there are bits for, and
the bytes that are transmitted are read as the same set. -/
def Lawful (bus : Bus) (scenes : List ℤ) : Prop :=
  (∃ what, clusterSetLockedScenes bus scenes = .rejected what) ∨
    (∀ scene ∈ scenes, InRange scene) ∧
      ∃ bytes, clusterSetLockedScenes bus scenes = .transmitted bytes ∧ bytes.length = 16 ∧
        parseBitfield bytes 128 = scenes.toFinset.sort (· ≤ ·)

/-- When a call meets the law: there is no bus, or there are bits for all scenes. A scan has no
others; in a file each id must be a number in the range. -/
def Fits (bus : Bus) : Origin → Prop
  | .given scenes => bus.isReady = false ∨ ∀ scene ∈ scenes, InRange scene
  | .scan _ => True
  | .file ids =>
    bus.isReady = false ∨ ∀ id ∈ ids, ∃ scene, parseInt? id = some scene ∧ InRange scene

/-! ## One scene -/

variable {bus : Bus} {bytes bytes' : List (BitVec 8)} {scene : ℤ} {scenes : List ℤ} {bits : ℕ}

theorem lock_of_inRange (h : InRange scene) :
    lock bytes scene = .ok (Bitfield.insert bytes scene.toNat) := by
  obtain ⟨n, rfl⟩ := Int.eq_ofNat_of_zero_le h.1
  have hn : n ≤ 127 := by exact_mod_cast h.2
  have hdiv : (n : ℤ).tdiv 8 = ((n / 8 : ℕ) : ℤ) := Int.ofNat_tdiv n 8
  have hmod : (n : ℤ).tmod 8 = ((n % 8 : ℕ) : ℤ) := Int.ofNat_tmod n 8
  rw [lock, if_neg (by omega), if_neg (by omega)]
  rfl

variable (bytes) in
theorem lock_of_not_inRange (h : ¬ InRange scene) :
    ∃ misstep, lock bytes scene = .error misstep := by
  rw [lock]
  split_ifs with hshift hindex
  · exact ⟨_, rfl⟩
  · exact ⟨_, rfl⟩
  · refine absurd ?_ h
    rw [not_or] at hindex
    have hsplit := Int.mul_tdiv_add_tmod scene 8
    have hmod : scene.tmod 8 < 8 := Int.tmod_lt_of_pos scene (by decide)
    constructor <;> omega

variable (scenes bytes) in
theorem foldlM_lock : scenes.foldlM lock bytes =
    .ok ((scenes.map Int.toNat).foldl Bitfield.insert bytes) ∧ (∀ s ∈ scenes, InRange s) ∨
      (∃ misstep, scenes.foldlM lock bytes = .error misstep) ∧ ¬ ∀ s ∈ scenes, InRange s := by
  induction scenes generalizing bytes with
  | nil => exact Or.inl ⟨rfl, List.forall_mem_nil _⟩
  | cons s scenes ih =>
    rw [List.foldlM_cons, List.forall_mem_cons]
    by_cases hs : InRange s
    · rw [lock_of_inRange hs, and_iff_right hs]
      exact ih (Bitfield.insert bytes s.toNat)
    · obtain ⟨misstep, hmisstep⟩ := lock_of_not_inRange bytes hs
      rw [hmisstep]
      exact Or.inr ⟨⟨misstep, rfl⟩, fun h => hs h.1⟩

theorem parseBitfield_eq :
    parseBitfield bytes bits = (Bitfield.positions bytes bits).map Nat.cast := by
  refine congrArg (map Nat.cast) (filter_congr fun i _ => ?_)
  have hbit := @Bitfield.and_shiftLeft_eq_zero_iff 8 (i % 8) (bytes.getD (i / 8) 0)
    (Nat.mod_lt i (by decide : 0 < 8))
  rw [Bitfield.bit, Bool.eq_iff_iff, decide_eq_true_iff, ne_eq, hbit, Bool.not_eq_false]

theorem inRange_of_mem_parseBitfield (h : scene ∈ parseBitfield bytes 128) : InRange scene := by
  rw [parseBitfield_eq] at h
  obtain ⟨i, hi, rfl⟩ := mem_map.mp h
  have hlt := (Bitfield.mem_positions.mp hi).1
  constructor <;> omega

def encode (scenes : List ℤ) : List (BitVec 8) :=
  (scenes.map Int.toNat).foldl Bitfield.insert (List.replicate 16 0)

theorem length_encode : (encode scenes).length = 16 := by
  rw [encode, Bitfield.length_foldl_insert, length_replicate]

theorem bit_encode (h : ∀ s ∈ scenes, InRange s) {i : ℕ} :
    Bitfield.bit (encode scenes) i = true ↔ (i : ℤ) ∈ scenes := by
  have hbound : ∀ i ∈ scenes.map Int.toNat, i < (replicate 16 (0 : BitVec 8)).length * 8 := by
    intro i hi
    obtain ⟨s, hs, rfl⟩ := mem_map.mp hi
    have hrange := h s hs
    rw [length_replicate]
    unfold InRange at hrange
    omega
  rw [encode, Bitfield.bit_foldl_insert hbound, Bitfield.bit_replicate_zero, Bool.or_false,
    decide_eq_true_iff, mem_map]
  constructor
  · rintro ⟨s, hs, rfl⟩
    rwa [Int.toNat_of_nonneg (h s hs).1]
  · exact fun hi => ⟨_, hi, Int.toNat_natCast i⟩

theorem parseBitfield_encode (h : ∀ s ∈ scenes, InRange s) :
    (parseBitfield (encode scenes) 128).Pairwise (· < ·) ∧
      (parseBitfield (encode scenes) 128).toFinset = scenes.toFinset := by
  constructor
  · rw [parseBitfield_eq]
    exact Bitfield.sortedLT_positions.map _ fun i j hij => Int.ofNat_lt.mpr hij
  · ext s
    rw [mem_toFinset, mem_toFinset, parseBitfield_eq, mem_map]
    constructor
    · rintro ⟨i, hi, rfl⟩
      exact (bit_encode h).mp (Bitfield.mem_positions.mp hi).2
    · intro hs
      have hrange := h s hs
      have hcast : (s.toNat : ℤ) = s := Int.toNat_of_nonneg hrange.1
      refine ⟨s.toNat, Bitfield.mem_positions.mpr ⟨?_, (bit_encode h).mpr (hcast.symm ▸ hs)⟩, hcast⟩
      unfold InRange at hrange
      omega

/-! ## The calls -/

theorem clusterSetLockedScenes_of_ready (h : bus.isReady = true) :
    clusterSetLockedScenes bus scenes =
      match scenes.foldlM lock (List.replicate 16 0) with
      | .error misstep => .undefined misstep
      | .ok bytes => bus.transmit bytes := by
  rw [clusterSetLockedScenes, h]
  rfl

theorem lawful_of_inRange (hready : bus.isReady = true) (hall : ∀ s ∈ scenes, InRange s)
    (hrun : scenes.foldlM lock (List.replicate 16 0) = .ok (encode scenes)) :
    Lawful bus scenes := by
  have hcall : clusterSetLockedScenes bus scenes = bus.transmit (encode scenes) := by
    rw [clusterSetLockedScenes_of_ready hready, hrun]
  rw [Bus.transmit] at hcall
  rcases hbus : bus.setSceneLock (encode scenes) with - | what
  · rw [hbus] at hcall
    obtain ⟨hsorted, hmem⟩ := parseBitfield_encode hall
    refine Or.inr ⟨hall, encode scenes, hcall, length_encode, ?_⟩
    rw [← hmem, eq_comm, toFinset_sort _ (hsorted.imp fun h => ne_of_lt h)]
    exact hsorted.imp fun h => le_of_lt h
  · rw [hbus] at hcall
    exact Or.inl ⟨what, hcall⟩

theorem lawful_given_iff (bus : Bus) (scenes : List ℤ) :
    Lawful bus scenes ↔ bus.isReady = false ∨ ∀ s ∈ scenes, InRange s := by
  by_cases hready : bus.isReady = true
  · rw [or_iff_right (by rw [hready]; decide)]
    rcases foldlM_lock (replicate 16 0) scenes with
      ⟨hrun, hall⟩ | ⟨⟨misstep, hrun⟩, hnot⟩
    · exact iff_of_true (lawful_of_inRange hready hall hrun) hall
    · refine iff_of_false ?_ hnot
      rintro (⟨what, hwhat⟩ | ⟨hall, -⟩)
      · rw [clusterSetLockedScenes_of_ready hready, hrun] at hwhat
        cases hwhat
      · exact hnot hall
  · rw [Bool.not_eq_true] at hready
    refine iff_of_true (Or.inl ⟨"Bus not ready", ?_⟩) (Or.inl hready)
    rw [clusterSetLockedScenes, hready]
    rfl

theorem inRange_strToIntDef {id : String} :
    InRange (strToIntDef id (-1)) ↔ ∃ scene, parseInt? id = some scene ∧ InRange scene := by
  rw [strToIntDef]
  rcases parseInt? id with - | scene
  · refine iff_of_false (by decide) ?_
    rintro ⟨scene, h, -⟩
    cases h
  · simp

/-- **What is transmitted**: the law holds for a list, a scan or a file exactly if there is no bus,
or there are bits for all scenes. -/
theorem transmitted_iff (bus : Bus) (origin : Origin) :
    Lawful bus origin.scenes ↔ Fits bus origin := by
  rw [lawful_given_iff]
  cases origin with
  | given scenes => exact Iff.rfl
  | scan bytes => exact iff_of_true (Or.inr fun s => inRange_of_mem_parseBitfield) trivial
  | file ids =>
    refine or_congr_right (forall_mem_map.trans ?_)
    exact forall_congr' fun id => forall_congr' fun _ => inRange_strToIntDef

theorem encode_scan (h : bytes.length = 16) : encode (parseBitfield bytes 128) = bytes := by
  refine Bitfield.eq_of_bit (length_encode.trans h.symm) fun i hi => ?_
  rw [length_encode] at hi
  rw [Bool.eq_iff_iff, bit_encode fun s => inRange_of_mem_parseBitfield, parseBitfield_eq,
    mem_map]
  constructor
  · rintro ⟨j, hj, hji⟩
    obtain rfl := Int.ofNat_inj.mp hji
    exact (Bitfield.mem_positions.mp hj).2
  · exact fun hbit => ⟨i, Bitfield.mem_positions.mpr ⟨hi, hbit⟩, rfl⟩

/-- **The bytes of a scan** are what is transmitted for the scenes that are read from them, where
there is a bus. -/
theorem encode_parseBitfield (h : bytes.length = 16) :
    encode (parseBitfield bytes 128) = bytes ∧
      ∀ bus : Bus, clusterSetLockedScenes bus (parseBitfield bytes 128) =
        if bus.isReady then bus.transmit bytes else .rejected "Bus not ready" := by
  refine ⟨encode_scan h, fun bus => ?_⟩
  rcases hready : bus.isReady with - | -
  · rw [clusterSetLockedScenes, hready]
    rfl
  · rw [clusterSetLockedScenes_of_ready hready]
    rcases foldlM_lock (replicate 16 0) (parseBitfield bytes 128) with ⟨hrun, -⟩ | ⟨-, hnot⟩
    · rw [hrun, ← encode, encode_scan h]
      rfl
    · exact absurd (fun s => inRange_of_mem_parseBitfield) hnot

/-- Every second scene is locked, and the bus takes what it is given. -/
theorem encode_parseBitfield_ones :
    encode (parseBitfield (replicate 16 0x55) 128) = replicate 16 0x55 ∧
      ∀ bus : Bus, clusterSetLockedScenes bus (parseBitfield (replicate 16 0x55) 128) =
        if bus.isReady then bus.transmit (replicate 16 0x55) else .rejected "Bus not ready" :=
  encode_parseBitfield rfl

/-- A file with an id that is no number: a shift by -1. -/
theorem transmitted_fails :
    ¬ Lawful { isReady := true, setSceneLock := fun _ => none } (Origin.file ["x"]).scenes := by
  rintro (⟨what, h⟩ | ⟨-, bytes, h, -⟩)
  · cases h
  · cases h

end LockedScenes

end Dss
