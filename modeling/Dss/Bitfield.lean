import Mathlib.Data.List.Basic

/-!
# Sets of numbers as bit fields

A list of words holds a set of numbers: a number is in it if its bit is set, counted from the
lowest bit of the first word. Whatever numbers are inserted, in whatever order, the field holds
just these, and reading it gives them sorted.
-/

namespace Bitfield

open List

variable {w : ℕ} {words words' : List (BitVec w)} {i j n : ℕ} {is : List ℕ}

/-- Whether a number is in the set. -/
def bit (words : List (BitVec w)) (i : ℕ) : Bool := (words.getD (i / w) 0).getLsbD (i % w)

def insert (words : List (BitVec w)) (i : ℕ) : List (BitVec w) :=
  words.modify (i / w) (· ||| 1#w <<< (i % w))

def positions (words : List (BitVec w)) (n : ℕ) : List ℕ := (List.range n).filter (bit words)

theorem length_insert : (insert words i).length = words.length :=
  length_modify _ _ _

theorem length_foldl_insert : (is.foldl insert words).length = words.length := by
  induction is generalizing words with
  | nil => rfl
  | cons i is ih => rw [foldl_cons, ih, length_insert]

theorem getLsbD_one_shiftLeft (hj : j < w) :
    (1#w <<< i).getLsbD j = decide (j = i) := by
  rw [BitVec.getLsbD_shiftLeft, BitVec.getLsbD_one, decide_eq_true hj, Bool.true_and,
    decide_eq_true (by omega : 0 < w), Bool.true_and, Bool.eq_iff_iff]
  simp only [Bool.and_eq_true, Bool.not_eq_true', decide_eq_false_iff_not, decide_eq_true_eq]
  omega

theorem and_shiftLeft_eq_zero_iff {word : BitVec w} (hi : i < w) :
    word &&& (1#w <<< i) = 0 ↔ word.getLsbD i = false := by
  constructor
  · intro h
    have hbit := congrArg (fun v => BitVec.getLsbD v i) h
    simpa [getLsbD_one_shiftLeft hi] using hbit
  · intro h
    refine BitVec.eq_of_getLsbD_eq fun j hj => ?_
    rw [BitVec.getLsbD_and, getLsbD_one_shiftLeft hj]
    by_cases hji : j = i
    · rw [hji, h]
      exact BitVec.getLsbD_zero.symm
    · rw [decide_eq_false hji, Bool.and_false]
      exact BitVec.getLsbD_zero.symm

theorem bit_insert (hi : i < words.length * w) :
    bit (insert words i) j = (j = i || bit words j) := by
  have hw : 0 < w := by
    refine Nat.pos_of_ne_zero ?_
    rintro rfl
    exact Nat.not_lt_zero i hi
  have hword : i / w < words.length := Nat.div_lt_of_lt_mul (by rwa [Nat.mul_comm])
  rw [bit, bit, insert, getD_eq_getElem?_getD, getD_eq_getElem?_getD,
    getElem?_modify]
  by_cases hsame : i / w = j / w
  · rw [← hsame, getElem?_eq_getElem hword]
    simp only [Option.map_eq_map, Option.map_some, Option.getD_some, if_true]
    rw [BitVec.getLsbD_or, getLsbD_one_shiftLeft (Nat.mod_lt j hw), Bool.or_comm]
    congr 1
    rw [decide_eq_decide]
    constructor
    · intro hmod
      rw [← Nat.div_add_mod j w, ← Nat.div_add_mod i w, hmod, hsame]
    · rintro rfl
      rfl
  · have hne : j ≠ i := fun h => hsame (by rw [h])
    simp only [if_neg hsame, decide_eq_false hne, Bool.false_or, Option.map_eq_map, Option.map_id']

theorem bit_foldl_insert (his : ∀ i ∈ is, i < words.length * w) :
    bit (is.foldl insert words) j = (j ∈ is || bit words j) := by
  induction is generalizing words with
  | nil => rw [foldl_nil, decide_eq_false not_mem_nil, Bool.false_or]
  | cons i is ih =>
    rw [forall_mem_cons] at his
    rw [foldl_cons, ih (by rw [length_insert]; exact his.2), bit_insert his.1, ← Bool.or_assoc,
      Bool.eq_iff_iff]
    simp only [Bool.or_eq_true, decide_eq_true_eq, mem_cons]
    rw [or_comm (a := j ∈ is)]

theorem bit_replicate_zero : bit (List.replicate n (0 : BitVec w)) j = false := by
  rw [bit, getD_eq_getElem?_getD, getElem?_replicate]
  split_ifs
  · exact BitVec.getLsbD_zero
  · exact BitVec.getLsbD_zero

theorem mem_positions : i ∈ positions words n ↔ i < n ∧ bit words i = true := by
  rw [positions, mem_filter, mem_range]

theorem sortedLT_positions : (positions words n).Pairwise (· < ·) :=
  pairwise_lt_range.filter _

theorem eq_of_bit (hlength : words.length = words'.length)
    (h : ∀ i < words.length * w, bit words i = bit words' i) : words = words' := by
  refine ext_getElem hlength fun k hk hk' => ?_
  refine BitVec.eq_of_getLsbD_eq fun j hj => ?_
  have hdiv : (k * w + j) / w = k := by
    rw [Nat.mul_comm, Nat.mul_add_div (by omega), Nat.div_eq_of_lt hj, Nat.add_zero]
  have hmod : (k * w + j) % w = j := by
    rw [Nat.mul_comm, Nat.mul_add_mod, Nat.mod_eq_of_lt hj]
  have hlt : k * w + j < words.length * w := by
    calc k * w + j < k * w + w := by omega
      _ = (k + 1) * w := (Nat.succ_mul k w).symm
      _ ≤ words.length * w := Nat.mul_le_mul_right w hk
  have hbit := h _ hlt
  rwa [bit, bit, hdiv, hmod, getD_eq_getElem?_getD, getD_eq_getElem?_getD,
    getElem?_eq_getElem hk, getElem?_eq_getElem hk'] at hbit

end Bitfield
