import Mathlib.Algebra.Order.Ring.Int
import Mathlib.Data.List.Nodup

/-!
# Ordered maps

A finite map that is iterated in the order of its keys. What an operation does is stated by what a
lookup finds afterwards, and by how the size changes.
-/

universe u v

/-- A finite map from `K` to `V`. -/
structure OrderedMap (K : Type u) (V : Type v) [LinearOrder K] : Type (max u v) where
  entries : List (K × V)
  sorted : entries.Pairwise fun e e' => e.1 < e'.1

namespace OrderedMap

open List

variable {K : Type u} {V : Type v} [LinearOrder K]

def empty : OrderedMap K V := ⟨[], List.Pairwise.nil⟩

def size (m : OrderedMap K V) : ℕ := m.entries.length

def findEntry (k : K) : List (K × V) → Option V
  | [] => none
  | e :: es => if e.1 = k then some e.2 else findEntry k es

def find? (m : OrderedMap K V) (k : K) : Option V := findEntry k m.entries

/-- Puts an entry where it belongs, in place of one that has the key. -/
def insertEntry (k : K) (v : V) : List (K × V) → List (K × V)
  | [] => [(k, v)]
  | e :: es =>
    if k < e.1 then (k, v) :: e :: es
    else if k = e.1 then (k, v) :: es
    else e :: insertEntry k v es

theorem mem_insertEntry {k : K} {v : V} {es : List (K × V)} {e : K × V}
    (h : e ∈ insertEntry k v es) : e = (k, v) ∨ e ∈ es := by
  induction es with
  | nil => exact Or.inl (mem_singleton.mp h)
  | cons f es ih =>
    rw [insertEntry] at h
    split_ifs at h
    · exact mem_cons.mp h
    · exact (mem_cons.mp h).imp_right (mem_cons_of_mem f)
    · rcases mem_cons.mp h with rfl | h
      · exact Or.inr mem_cons_self
      · exact (ih h).imp_right (mem_cons_of_mem f)

theorem sorted_insertEntry {k : K} {v : V} {es : List (K × V)}
    (hs : es.Pairwise fun e e' => e.1 < e'.1) :
    (insertEntry k v es).Pairwise fun e e' => e.1 < e'.1 := by
  induction es with
  | nil => exact pairwise_singleton _ _
  | cons f es ih =>
    obtain ⟨hf, hes⟩ := pairwise_cons.mp hs
    rw [insertEntry]
    split_ifs with hlt heq
    · refine pairwise_cons.mpr ⟨fun e he => ?_, hs⟩
      rcases mem_cons.mp he with rfl | he
      · exact hlt
      · exact lt_trans hlt (hf e he)
    · exact pairwise_cons.mpr ⟨fun e he => heq ▸ hf e he, hes⟩
    · refine pairwise_cons.mpr ⟨fun e he => ?_, ih hes⟩
      rcases mem_insertEntry he with rfl | he
      · exact lt_of_le_of_ne (not_lt.mp hlt) (Ne.symm heq)
      · exact hf e he

/-- `insert k v m` maps `k` to `v`. -/
def insert (k : K) (v : V) (m : OrderedMap K V) : OrderedMap K V :=
  ⟨insertEntry k v m.entries, sorted_insertEntry m.sorted⟩

def filter (p : K → V → Bool) (m : OrderedMap K V) : OrderedMap K V :=
  ⟨m.entries.filter fun e => p e.1 e.2, m.sorted.filter _⟩

def erase (k : K) (m : OrderedMap K V) : OrderedMap K V := m.filter fun k' _ => k' ≠ k

variable {m : OrderedMap K V} {k k' : K} {v w : V}

/-! ## Lookups and entries -/

@[simp] theorem find?_empty : (empty : OrderedMap K V).find? k = none := rfl

theorem mem_entries : (k, v) ∈ m.entries ↔ m.find? k = some v := by
  obtain ⟨es, hs⟩ := m
  change (k, v) ∈ es ↔ findEntry k es = some v
  induction es with
  | nil => simp [findEntry]
  | cons e es ih =>
    obtain ⟨he, hes⟩ := pairwise_cons.mp hs
    rw [findEntry, mem_cons, ih hes]
    split_ifs with hk
    · constructor
      · rintro (h | h)
        · rw [← h]
        · exact absurd hk (he _ ((ih hes).mpr h)).ne
      · intro h
        exact Or.inl (Prod.ext hk.symm (Option.some.inj h).symm)
    · exact or_iff_right fun h => hk (by rw [← h])

theorem find?_eq_none : m.find? k = none ↔ ∀ v, (k, v) ∉ m.entries := by
  simp only [mem_entries, Option.eq_none_iff_forall_ne_some, ne_eq]

theorem findEntry_cons {e : K × V} {es : List (K × V)} :
    findEntry k (e :: es) = if k = e.1 then some e.2 else findEntry k es :=
  if_congr eq_comm rfl rfl

theorem findEntry_insertEntry {es : List (K × V)} :
    findEntry k' (insertEntry k v es) = if k' = k then some v else findEntry k' es := by
  induction es with
  | nil => exact findEntry_cons
  | cons e es ih =>
    rw [insertEntry]
    by_cases hlt : k < e.1
    · rw [if_pos hlt, findEntry_cons]
    · rw [if_neg hlt]
      by_cases heq : k = e.1
      · rw [if_pos heq, findEntry_cons, findEntry_cons, ← heq]
        split_ifs <;> rfl
      · rw [if_neg heq, findEntry_cons, findEntry_cons, ih]
        by_cases hk : k' = k
        · rw [if_pos hk, if_pos hk, if_neg fun h => heq (hk.symm.trans h)]
        · rw [if_neg hk, if_neg hk]

theorem find?_insert : (m.insert k v).find? k' = if k' = k then some v else m.find? k' :=
  findEntry_insertEntry

theorem find?_filter {p : K → V → Bool} :
    (m.filter p).find? k = (m.find? k).filter (p k) := by
  apply Option.ext
  intro v
  rw [← mem_entries, filter, mem_filter, mem_entries, Option.filter_eq_some_iff]

theorem filter_eq_self {p : K → V → Bool} (h : ∀ k v, m.find? k = some v → p k v = true) :
    m.filter p = m := by
  obtain ⟨es, hs⟩ := m
  have hall : es.filter (fun e => p e.1 e.2) = es :=
    filter_eq_self.2 fun e he => h e.1 e.2 (mem_entries.1 he)
  simp only [filter, hall]

/-! ## Sizes -/

theorem length_insertEntry {es : List (K × V)} (hk : ∀ v, (k, v) ∉ es) :
    (insertEntry k v es).length = es.length + 1 := by
  induction es with
  | nil => rfl
  | cons e es ih =>
    rw [insertEntry]
    split_ifs with hlt heq
    · rfl
    · exact absurd (heq ▸ mem_cons_self) (hk e.2)
    · rw [length_cons, ih fun v hv => hk v (mem_cons_of_mem e hv), length_cons]

theorem size_insert_of_find?_eq_none (h : m.find? k = none) :
    (m.insert k v).size = m.size + 1 :=
  length_insertEntry (find?_eq_none.mp h)

theorem length_insertEntry_of_mem {es : List (K × V)}
    (hs : es.Pairwise fun e e' => e.1 < e'.1) (h : (k, w) ∈ es) :
    (insertEntry k v es).length = es.length := by
  induction es with
  | nil => exact absurd h not_mem_nil
  | cons e es ih =>
    obtain ⟨he, hes⟩ := pairwise_cons.mp hs
    rw [insertEntry]
    rcases mem_cons.mp h with rfl | h
    · rw [if_neg (lt_irrefl k), if_pos rfl]
      rfl
    · rw [if_neg (lt_asymm (he _ h)), if_neg (he _ h).ne', length_cons, ih hes h,
        length_cons]

theorem size_insert_of_find?_eq_some (h : m.find? k = some w) :
    (m.insert k v).size = m.size :=
  length_insertEntry_of_mem m.sorted (mem_entries.2 h)

theorem size_filter_le {p : K → V → Bool} : (m.filter p).size ≤ m.size :=
  length_filter_le _ _

def keys (m : OrderedMap K V) : List K := m.entries.map Prod.fst

theorem mem_keys : k ∈ m.keys ↔ (m.find? k).isSome := by
  rw [keys, mem_map, Option.isSome_iff_exists]
  constructor
  · rintro ⟨e, he, rfl⟩
    exact ⟨e.2, mem_entries.1 he⟩
  · rintro ⟨v, hv⟩
    exact ⟨(k, v), mem_entries.2 hv, rfl⟩

theorem nodup_keys : m.keys.Nodup :=
  pairwise_map.mpr (m.sorted.imp fun h => h.ne)

theorem length_keys : m.keys.length = m.size := length_map _

theorem length_eq_size {l : List K} (hl : l.Nodup) (h : ∀ k, k ∈ l ↔ (m.find? k).isSome) :
    l.length = m.size := by
  have hperm : l.Perm m.keys :=
    (perm_ext_iff_of_nodup hl m.nodup_keys).mpr fun k => (h k).trans mem_keys.symm
  rw [hperm.length_eq, length_keys]

end OrderedMap
