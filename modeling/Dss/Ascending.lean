import Mathlib.Data.Int.Notation
import Mathlib.Data.Nat.Notation

/-!
# Ascending sequences that may end

What an iterator hands out: integers, each greater than the one before, and nothing once it has
come to its end. The distance to a bound limits how many there can be below it.
-/

/-- A strictly ascending sequence of integers, or the beginning of one. -/
structure Ascending : Type where
  get : ℕ → Option ℤ
  ascends : ∀ i a b, get i = some a → get (i + 1) = some b → a < b
  ends : ∀ i, get i = none → get (i + 1) = none

namespace Ascending

variable {s : Ascending} {i j k : ℕ} {a b bound : ℤ}

theorem eq_none_of_le (hij : i ≤ j) (h : s.get i = none) : s.get j = none := by
  induction hij with
  | refl => exact h
  | step _ ih => exact s.ends _ ih

theorem exists_of_le (hij : i ≤ j) (h : s.get j = some b) : ∃ a, s.get i = some a := by
  rcases hi : s.get i with - | a
  · rw [eq_none_of_le hij hi] at h
    cases h
  · exact ⟨a, rfl⟩

theorem lt_of_lt (hij : i < j) (ha : s.get i = some a) (hb : s.get j = some b) : a < b := by
  induction hij generalizing b with
  | refl => exact s.ascends _ a b ha hb
  | step hle ih =>
    obtain ⟨c, hc⟩ := exists_of_le (Nat.le_succ _) hb
    exact Int.lt_trans (ih hc) (s.ascends _ c b hc hb)

theorem le_of_le (ha : s.get i = some a) (hb : s.get j = some b) (hab : a ≤ b) : i ≤ j := by
  apply Nat.le_of_not_lt
  intro hji
  have hlt := lt_of_lt hji hb ha
  omega

theorem get_injective (ha : s.get i = some a) (hb : s.get j = some a) : i = j :=
  Nat.le_antisymm (le_of_le ha hb (Int.le_refl a)) (le_of_le hb ha (Int.le_refl a))

def map (s : Ascending) (f : ℤ → ℤ)
    (hf : ∀ i a b, s.get i = some a → s.get (i + 1) = some b → f a < f b) : Ascending where
  get i := (s.get i).map f
  ascends i a b ha hb := by
    obtain ⟨a', ha', rfl⟩ := Option.map_eq_some_iff.mp ha
    obtain ⟨b', hb', rfl⟩ := Option.map_eq_some_iff.mp hb
    exact hf i a' b' ha' hb'
  ends i h := by
    rw [Option.map_eq_none_iff] at h ⊢
    exact s.ends i h

theorem get_map {f : ℤ → ℤ}
    (hf : ∀ i a b, s.get i = some a → s.get (i + 1) = some b → f a < f b)
    (h : s.get i = some a) : (s.map f hf).get i = some (f a) :=
  congrArg (Option.map f) h

def every (interval : ℤ) (h : 0 < interval) (start : ℤ) : Ascending where
  get i := some (start + interval * i)
  ascends i a b ha hb := by
    have hsucc : interval * ((i + 1 : ℕ) : ℤ) = interval * i + interval := by
      rw [Int.natCast_succ, Int.mul_add, Int.mul_one]
    rw [← Option.some.inj ha, ← Option.some.inj hb, hsucc]
    omega
  ends _ h := nomatch h

/-! ## Skipping -/

/-- Elements are passed as long as they are below the bound, at most so many. -/
def skipWithin (s : Ascending) (bound : ℤ) : ℕ → ℕ → ℕ
  | 0, i => i
  | fuel + 1, i =>
    match s.get i with
    | none => i
    | some a => if a < bound then skipWithin s bound fuel (i + 1) else i

def skip (s : Ascending) (bound : ℤ) (i : ℕ) : ℕ :=
  match s.get i with
  | none => i
  | some a => skipWithin s bound (bound - a).toNat i

theorem skipWithin_spec {fuel : ℕ} (hfuel : ∀ a, s.get i = some a → bound - a ≤ fuel) :
    i ≤ s.skipWithin bound fuel i ∧
      (∀ k, i ≤ k → k < s.skipWithin bound fuel i → ∃ a, s.get k = some a ∧ a < bound) ∧
      ∀ a, s.get (s.skipWithin bound fuel i) = some a → bound ≤ a := by
  have hstay (h : ∀ a, s.get i = some a → bound ≤ a) : i ≤ i ∧
      (∀ k, i ≤ k → k < i → ∃ a, s.get k = some a ∧ a < bound) ∧
      ∀ a, s.get i = some a → bound ≤ a :=
    ⟨Nat.le_refl i, fun k hik hki => absurd hki (Nat.not_lt.mpr hik), h⟩
  induction fuel generalizing i with
  | zero =>
    apply hstay
    intro a ha
    have hle := hfuel a ha
    omega
  | succ fuel ih =>
    rw [skipWithin]
    rcases ha : s.get i with - | a
    · apply hstay
      rw [ha]
      exact nofun
    · by_cases hlt : a < bound
      · dsimp only
        rw [if_pos hlt]
        have hnext : ∀ b, s.get (i + 1) = some b → bound - b ≤ fuel := by
          intro b hb
          have hab := s.ascends i a b ha hb
          have hle := hfuel a ha
          omega
        obtain ⟨hle, hpassed, hend⟩ := ih hnext fun h =>
          ⟨Nat.le_refl _, fun k hik hki => absurd hki (Nat.not_lt.mpr hik), h⟩
        refine ⟨by omega, fun k hik hk => ?_, hend⟩
        rcases Nat.eq_or_lt_of_le hik with rfl | hlater
        · exact ⟨a, ha, hlt⟩
        · exact hpassed k hlater hk
      · dsimp only
        rw [if_neg hlt]
        apply hstay
        intro b hb
        rw [ha] at hb
        cases hb
        omega

/-- **Skipping.** What is passed is below the bound, and what is there is not. -/
theorem skip_spec (s : Ascending) (bound : ℤ) (i : ℕ) : i ≤ s.skip bound i ∧
    (∀ k, i ≤ k → k < s.skip bound i → ∃ a, s.get k = some a ∧ a < bound) ∧
    ∀ a, s.get (s.skip bound i) = some a → bound ≤ a := by
  rcases ha : s.get i with - | a
  · have hskip : s.skip bound i = i := by rw [skip, ha]
    rw [hskip, ha]
    exact ⟨Nat.le_refl i, fun k hik hki => absurd hki (Nat.not_lt.mpr hik), nofun⟩
  · have hskip : s.skip bound i = s.skipWithin bound (bound - a).toNat i := by rw [skip, ha]
    rw [hskip]
    apply skipWithin_spec
    intro b hb
    rw [ha] at hb
    cases hb
    omega

theorem skip_eq_self (h : ∀ a, s.get i = some a → bound ≤ a) : s.skip bound i = i := by
  obtain ⟨hle, hpassed, -⟩ := s.skip_spec bound i
  rcases Nat.eq_or_lt_of_le hle with heq | hlt
  · exact heq.symm
  · obtain ⟨a, ha, hbelow⟩ := hpassed i (Nat.le_refl i) hlt
    have hbound := h a ha
    omega

theorem skip_of_lt (ha : s.get i = some a) (h : a < bound) :
    s.skip bound i = s.skip bound (i + 1) := by
  obtain ⟨hle, hpassed, hend⟩ := s.skip_spec bound i
  obtain ⟨hle', hpassed', hend'⟩ := s.skip_spec bound (i + 1)
  rcases Nat.lt_trichotomy (s.skip bound i) (s.skip bound (i + 1)) with hlt | heq | hlt
  · rcases Nat.eq_or_lt_of_le hle with heq | hlater
    · have hbound := hend a (by rw [← heq]; exact ha)
      omega
    · obtain ⟨b, hb, hbelow⟩ := hpassed' _ hlater hlt
      have hbound := hend b hb
      omega
  · exact heq
  · obtain ⟨b, hb, hbelow⟩ := hpassed _ (by omega) hlt
    have hbound := hend' b hb
    omega

end Ascending
