/-!
# Labelled transition systems

Finite runs of a step relation: an invariant that every step preserves holds at the end of every
run, and a run all of whose steps meet a side condition is a run of the restricted relation.
For a step function there is a third rule, which says exactly which runs are lawful in every state.
-/

namespace Transition

universe u v

variable {S : Type u} {L : Type v}

/-- `Run step s ls t`: the steps labelled `ls`, taken in order from `s`, lead to
`t`. The last label is the last step, so inductions peel off the newest one. -/
inductive Run (step : L → S → S → Prop) (s : S) : List L → S → Prop where
  | nil : Run step s [] s
  /-- one more step at the end -/
  | snoc {ls : List L} {l : L} {t u : S} :
      Run step s ls t → step l t u → Run step s (ls ++ [l]) u

/-- The steps of a relation whose label and source state meet a condition. -/
def Guarded (ok : L → S → Prop) (step : L → S → S → Prop) : L → S → S → Prop :=
  fun l s t => ok l s ∧ step l s t

namespace Run

variable {step : L → S → S → Prop} {s t u : S} {ls ms : List L}

theorem invariant {Inv : S → Prop} (h0 : Inv s)
    (pres : ∀ l s t, Inv s → step l s t → Inv t) (hr : Run step s ls t) : Inv t := by
  induction hr with
  | nil => exact h0
  | snoc _ hstep ih => exact pres _ _ _ ih hstep

theorem of_guarded {ok : L → S → Prop} (hr : Run (Guarded ok step) s ls t) :
    Run step s ls t := by
  induction hr with
  | nil => exact .nil
  | snoc _ hstep ih => exact ih.snoc hstep.2

theorem append (hr : Run step s ls t) (hr' : Run step t ms u) :
    Run step s (ls ++ ms) u := by
  induction hr' with
  | nil => rw [List.append_nil]; exact hr
  | snoc _ hstep ih => rw [← List.append_assoc]; exact ih.snoc hstep

end Run

/-- Taking the steps of a step function one by one, as long as each is enabled and
its source state meets the condition. -/
def execute (ok : L → S → Prop) [∀ l s, Decidable (ok l s)] (step : S → L → Option S)
    (s : S) : List L → Option S
  | [] => some s
  | l :: ls =>
    if ok l s then
      match step s l with
      | some t => execute ok step t ls
      | none => none
    else none

theorem Run.of_execute {ok : L → S → Prop} [∀ l s, Decidable (ok l s)]
    {step : S → L → Option S} {t : S} {ls : List L} :
    ∀ {s : S}, execute ok step s ls = some t →
      Run (Guarded ok fun l s t => step s l = some t) s ls t := by
  induction ls with
  | nil =>
    intro s h
    obtain rfl := Option.some.inj h
    exact .nil
  | cons l ls ih =>
    intro s h
    rw [execute] at h
    by_cases hok : ok l s
    · rw [if_pos hok] at h
      rcases hs : step s l with - | u
      · rw [hs] at h
        cases h
      · rw [hs] at h
        exact (Run.nil.snoc ⟨hok, hs⟩).append (ih h)
    · rw [if_neg hok] at h
      cases h

/-! ## Step functions -/

section stepFunction

def Always (step : S → L → S) (P : S → Prop) : S → List L → Prop
  | s, [] => P s
  | s, l :: ls => P s ∧ Always step P (step s l) ls

def Meets (step : S → L → S) (ok : S → L → Prop) : S → List L → Prop
  | _, [] => True
  | s, l :: ls => ok s l ∧ Meets step ok (step s l) ls

variable {step : S → L → S} {P Inv : S → Prop} {ok : S → L → Prop}

/-- Whether a given run meets the condition can be computed. -/
instance decidableMeets [∀ s l, Decidable (ok s l)] :
    (s : S) → (ls : List L) → Decidable (Meets step ok s ls)
  | _, [] => inferInstanceAs (Decidable True)
  | s, l :: ls =>
    have := decidableMeets (step s l) ls
    inferInstanceAs (Decidable (ok s l ∧ Meets step ok (step s l) ls))

theorem Always.head {s : S} {ls : List L} (h : Always step P s ls) : P s := by
  cases ls with
  | nil => exact h
  | cons l ls => exact h.1

/-- Steps that meet the condition keep the invariant, so a run of such steps is lawful all
along. -/
theorem always_of_meets (hlaw : ∀ s, Inv s → P s)
    (hkeep : ∀ s l, Inv s → ok s l → Inv (step s l)) {ls : List L} {s : S} (h : Inv s)
    (hmeets : Meets step ok s ls) : Always step P s ls := by
  induction ls generalizing s with
  | nil => exact hlaw s h
  | cons l ls ih => exact ⟨hlaw s h, ih (hkeep s l h hmeets.1) hmeets.2⟩

theorem meets_trivial {s : S} {ls : List L} : Meets step (fun _ _ => True) s ls := by
  induction ls generalizing s with
  | nil => trivial
  | cons l ls ih => exact ⟨trivial, ih⟩

theorem meets_and {ok' : S → L → Prop} {ls : List L} {s : S} (h : Meets step ok s ls)
    (h' : Meets step ok' s ls) : Meets step (fun s l => ok s l ∧ ok' s l) s ls := by
  induction ls generalizing s with
  | nil => trivial
  | cons l ls ih => exact ⟨⟨h.1, h'.1⟩, ih h.2 h'.2⟩

theorem meets_congr {ok' : S → L → Prop} (h : ∀ s l, ok s l ↔ ok' s l) {ls : List L} {s : S} :
    Meets step ok s ls ↔ Meets step ok' s ls := by
  induction ls generalizing s with
  | nil => exact Iff.rfl
  | cons l ls ih => exact and_congr (h s l) ih

/-- The exactness rule for the runs within a guard: only the steps that the guard lets through
are looked at. -/
theorem always_iff_meets_within {guard : S → L → Prop} (hlaw : ∀ s, Inv s → P s)
    (hkeep : ∀ s l, Inv s → guard s l → ok s l → Inv (step s l))
    (hbreak : ∀ s l, Inv s → guard s l → ¬ ok s l → ¬ P (step s l)) {ls : List L} {s : S}
    (h : Inv s) (hguard : Meets step guard s ls) :
    Always step P s ls ↔ Meets step ok s ls := by
  induction ls generalizing s with
  | nil => exact ⟨fun _ => trivial, fun _ => hlaw s h⟩
  | cons l ls ih =>
    obtain ⟨hl, hls⟩ := hguard
    constructor
    · rintro ⟨-, htail⟩
      have hok : ok s l := by
        apply Classical.byContradiction
        intro hnot
        exact hbreak s l h hl hnot htail.head
      exact ⟨hok, (ih (hkeep s l h hl hok) hls).mp htail⟩
    · rintro ⟨hok, htail⟩
      exact ⟨hlaw s h, (ih (hkeep s l h hl hok) hls).mpr htail⟩

/-- **The exactness rule.** If steps that meet the condition keep the invariant, and any other
step leads to a state that is not lawful, then a run is lawful all along if and only if each
of its steps meets the condition. -/
theorem always_iff_meets (hlaw : ∀ s, Inv s → P s)
    (hkeep : ∀ s l, Inv s → ok s l → Inv (step s l))
    (hbreak : ∀ s l, Inv s → ¬ ok s l → ¬ P (step s l)) {ls : List L} {s : S} (h : Inv s) :
    Always step P s ls ↔ Meets step ok s ls :=
  always_iff_meets_within hlaw (fun s l hinv _ => hkeep s l hinv)
    (fun s l hinv _ => hbreak s l hinv) h meets_trivial

end stepFunction

end Transition
