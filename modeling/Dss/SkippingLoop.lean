import Mathlib.Data.List.Basic

/-!
# Loops that remove from the list they walk through

A loop over the positions of a list removes elements, and goes on to the next position, which is one
too far. So of a run of adjacent elements to remove every other one stays, and if the loop is run
again, every fourth one.
-/

namespace SkippingLoop

variable {α : Type} (p : α → Bool)

def skim : List α → List α
  | [] => []
  | [x] => if p x then [] else [x]
  | x :: y :: l => if p x then y :: skim l else x :: skim (y :: l)

/-- The loop, with the position it has reached. It takes at most as many turns as the list has
elements. -/
def loop : ℕ → ℕ → List α → List α
  | 0, _, l => l
  | n + 1, i, l =>
    match l[i]? with
    | none => l
    | some x => loop n (i + 1) (if p x then l.eraseIdx i else l)

/-- How many elements of a run stand up to a position, that one included; `k` of them stand
before the list. -/
def place (k : ℕ) : List α → ℕ → ℕ
  | [], _ => k
  | x :: _, 0 => if p x then k + 1 else 0
  | x :: l, i + 1 => place (if p x then k + 1 else 0) l i

/-- Keeps the elements of a run whose place is a multiple of `m`. -/
def sieve (m : ℕ) (k : ℕ) : List α → List α
  | [] => []
  | x :: l =>
    if p x then if m ∣ k + 1 then x :: sieve m (k + 1) l else sieve m (k + 1) l
    else x :: sieve m 0 l

variable {p} {m k : ℕ} {l l' : List α} {x : α}

theorem mem_sieve : x ∈ sieve p m k l ↔
    ∃ i, l[i]? = some x ∧ (p x = true → m ∣ place p k l i) := by
  induction l generalizing k with
  | nil => simp [sieve]
  | cons y l ih =>
    -- the first position, and those behind it
    have hsplit : (∃ i, (y :: l)[i]? = some x ∧ (p x = true → m ∣ place p k (y :: l) i)) ↔
        (y = x ∧ (p y = true → m ∣ k + 1)) ∨
          ∃ i, l[i]? = some x ∧
            (p x = true → m ∣ place p (if p y = true then k + 1 else 0) l i) := by
      constructor
      · rintro ⟨i, hi, hplace⟩
        rcases i with - | i
        · obtain rfl := Option.some.inj hi
          refine Or.inl ⟨rfl, fun hy => ?_⟩
          simpa [place, hy] using hplace hy
        · exact Or.inr ⟨i, hi, hplace⟩
      · rintro (⟨rfl, hdvd⟩ | ⟨i, hi, hplace⟩)
        · refine ⟨0, rfl, fun hy => ?_⟩
          simpa [place, hy] using hdvd hy
        · exact ⟨i + 1, hi, hplace⟩
    rw [hsplit, sieve]
    rcases hy : p y with - | -
    · simp [← ih, eq_comm (a := x)]
    · by_cases hdvd : m ∣ k + 1
      · simp [hdvd, ← ih, eq_comm (a := x)]
      · simp [hdvd, ← ih]

theorem sieve_one : sieve p 1 k l = l := by
  induction l generalizing k with
  | nil => rfl
  | cons x l ih => rw [sieve, if_pos (Nat.one_dvd _), ih, ih, ite_self]

theorem mem_sieve_of_not (h : p x = false) : x ∈ sieve p m k l ↔ x ∈ l := by
  rw [mem_sieve, List.mem_iff_getElem?]
  simp [h]

theorem sieve_add : sieve p m (k + m) l = sieve p m k l := by
  induction l generalizing k with
  | nil => rfl
  | cons x l ih =>
    have hdvd : m ∣ k + m + 1 ↔ m ∣ k + 1 := by
      rw [Nat.add_right_comm]
      exact Nat.dvd_add_left (Nat.dvd_refl m)
    rw [sieve, sieve, Nat.add_right_comm, ih]
    simp only [← Nat.add_right_comm k m 1, hdvd]

theorem skim_eq_sieve : skim p l = sieve p 2 0 l := by
  induction l using skim.induct p with
  | case1 => rfl
  | case2 x hx => simp [skim, sieve, hx]
  | case3 x hx => simp [skim, sieve, hx]
  | case4 x y l hx ih =>
    have htwo : sieve p 2 2 l = sieve p 2 0 l := sieve_add
    simp [skim, sieve, hx, ih, htwo]
  | case5 x y l hx ih => simp [skim, sieve, hx, ih]

theorem sieve_append : ∃ k', sieve p m k (l ++ l') = sieve p m k l ++ sieve p m k' l' := by
  induction l generalizing k with
  | nil => exact ⟨k, rfl⟩
  | cons x l ih =>
    rcases hx : p x with - | -
    · obtain ⟨k', hk'⟩ := ih (k := 0)
      exact ⟨k', by simp [sieve, hx, hk']⟩
    · obtain ⟨k', hk'⟩ := ih (k := k + 1)
      refine ⟨k', ?_⟩
      by_cases hdvd : m ∣ k + 1
      · simp [sieve, hx, hdvd, hk']
      · simp [sieve, hx, hdvd, hk']

/-- Twice is once with the product. -/
theorem sieve_sieve {n : ℕ} : sieve p n (k / m) (sieve p m k l) = sieve p (m * n) k l := by
  induction l generalizing k with
  | nil => rfl
  | cons x l ih =>
    rw [sieve, sieve]
    rcases hx : p x with - | -
    · have hzero := ih (k := 0)
      rw [Nat.zero_div] at hzero
      simp [sieve, hx, hzero]
    · have hdiv : (k + 1) / m = k / m + if m ∣ k + 1 then 1 else 0 := Nat.succ_div
      by_cases hdvd : m ∣ k + 1
      · rw [if_pos hdvd] at hdiv
        have hiff : n ∣ k / m + 1 ↔ m * n ∣ k + 1 := by
          rw [← hdiv]
          exact Nat.dvd_div_iff_mul_dvd hdvd
        simp only [if_true, if_pos hdvd, sieve, hx, hiff]
        rw [← hdiv, ih]
      · rw [if_neg hdvd] at hdiv
        have hnot : ¬ m * n ∣ k + 1 := fun h => hdvd (Nat.dvd_trans (Nat.dvd_mul_right m n) h)
        rw [if_neg hdvd, if_neg hnot, ← ih, hdiv]
        rfl

theorem loop_append {n : ℕ} {pre : List α} (h : l.length ≤ n) :
    loop p n pre.length (pre ++ l) = pre ++ skim p l := by
  induction n generalizing pre l with
  | zero => rw [List.length_eq_zero_iff.mp (Nat.le_zero.mp h), loop, skim]
  | succ n ih =>
    rcases l with - | ⟨x, l⟩
    · simp [loop, skim]
    · have hx : (pre ++ x :: l)[pre.length]? = some x := by simp
      have hlength : l.length ≤ n := Nat.le_of_succ_le_succ h
      rw [loop, hx]
      dsimp only
      rcases hp : p x with - | -
      · have hstep := @ih l (pre ++ [x]) hlength
        rw [List.length_append, List.append_assoc] at hstep
        refine hstep.trans ?_
        rcases l with - | ⟨y, l⟩
        · simp [skim, hp]
        · simp [skim, hp]
      · -- the element behind the one that is removed is passed over
        rw [List.eraseIdx_append_of_length_le (Nat.le_refl _), Nat.sub_self]
        rcases l with - | ⟨y, l⟩
        · have hnone : ∀ n, loop p n (pre.length + 1) pre = pre := by
            intro n
            rcases n with - | n
            · rfl
            · rw [loop, List.getElem?_eq_none_iff.mpr (Nat.le_succ _)]
          simp [skim, hp, hnone]
        · have hstep := @ih l (pre ++ [y]) (Nat.le_of_succ_le hlength)
          rw [List.length_append, List.append_assoc] at hstep
          refine hstep.trans ?_
          simp [skim, hp]

theorem loop_eq : loop p l.length 0 l = skim p l :=
  @loop_append α p l l.length [] (Nat.le_refl _)

end SkippingLoop
