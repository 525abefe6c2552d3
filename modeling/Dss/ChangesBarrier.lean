import Dss.ModelEventRuns

/-!
# The model change barrier

A caller of `pendingChangesBarrier` that is let through can rely on everything enqueued before the
last `etModelDirty` that was in the queue when it came. It waits for a value of a counter that
wraps, which is the count of some position beyond those dirty events, less than half the range of
the counter ahead (`Served`), whatever the other threads do meanwhile.
-/

namespace Dss

open Transition Function

namespace World

variable {w w' : World} {c : BitVec 32}

/-- Fewer than `2 ^ 31` events are pending. -/
def FewPending (_ : Action) (w : World) : Prop :=
  w.maintenance.modelEvents.length < 2 ^ 31

instance (a : Action) (w : World) : Decidable (FewPending a w) :=
  inferInstanceAs (Decidable (_ < _))

/-- What a caller in state `b` may rely on, having entered when `n` events had
been enqueued. -/
def Served (c : BitVec 32) (w : World) (n : ℕ) : Barrier → Prop
  | .waiting s =>
    ∃ t, s = Counter.after c t ∧ t < w.taken + 2 ^ 31 ∧
      ∀ j < n, w.enqueued[j]? = some .etModelDirty → j < t
  | .returned true =>
    ∀ j < n, w.enqueued[j]? = some .etModelDirty → j ≤ w.handled.length
  | _ => True

structure BarrierInv (c : BitVec 32) (w : World) : Prop where
  /-- the queue and the counter agree with the histories -/
  tracks : Tracks c w
  entered : ∀ i, w.enteredAt i ≤ w.enqueued.length
  served : ∀ i, Served c w (w.enteredAt i) (w.barrier i)

theorem Served.mono {n : ℕ} {b : Barrier} (_hn : n ≤ w.enqueued.length)
    (g : Grows w w') (h : Served c w n b) : Served c w' n b := by
  have dirty : ∀ j < n, w'.enqueued[j]? = some .etModelDirty →
      w.enqueued[j]? = some .etModelDirty := by
    intro j hj hd
    rw [← g.getElem? (by omega), hd]
  rcases b with - | - | s | r
  case waiting =>
    obtain ⟨t, hs, hlt, hdirty⟩ := h
    have htaken := g.taken
    exact ⟨t, hs, by omega, fun j hj hd => hdirty j hj (dirty j hj hd)⟩
  case returned =>
    cases r with
    | false => trivial
    | true =>
      intro j hj hd
      exact le_trans (h j hj (dirty j hj hd)) g.handled
  all_goals trivial

theorem served_snapshot (ht : Tracks c w) (hfew : w.maintenance.modelEvents.length < 2 ^ 31)
    (n : ℕ) :
    Served c w n (.waiting w.maintenance.indexOfNextSyncState) := by
  obtain ⟨t, hge, hle, hs, hdirty⟩ := ModelMaintenance.indexOfNextSyncState_eq c ht.count
  refine ⟨t, hs, by omega, ?_⟩
  intro j hj hd
  by_cases htaken : j < w.taken
  · omega
  · -- not taken yet, so it is in the queue
    have := hdirty (j - w.taken) (by
      rw [ht.queue, List.getElem?_drop, Nat.add_sub_of_le (by omega), hd])
    omega

/-- The exit test: a target that is reached has been counted, so the dirty events
before it are in hand or handled. -/
theorem served_reached (ht : Tracks c w) {n : ℕ} {s : BitVec 32}
    (h : Served c w n (.waiting s)) (hs : w.maintenance.reached s = true) :
    Served c w n (.returned true) := by
  obtain ⟨t, rfl, hlt, hdirty⟩ := h
  rw [ModelMaintenance.reached, ht.count, Bool.not_eq_true', decide_eq_false_iff_not] at hs
  have hle : t ≤ w.taken := Counter.le_of_not_ahead c hlt hs
  have hcur : w.taken ≤ w.handled.length + 1 := by
    rw [taken]
    cases w.maintenance.current <;> simp
  intro j hj hd
  have := hdirty j hj hd
  omega

theorem BarrierInv.others (hw : BarrierInv c w) (ht : Tracks c w') (g : Grows w w')
    (hb : w'.barrier = w.barrier) (he : w'.enteredAt = w.enteredAt) : BarrierInv c w' := by
  refine ⟨ht, ?_, ?_⟩
  · intro i
    rw [he]
    exact le_trans (hw.entered i) g.enqueued.length_le
  · intro i
    rw [hb, he]
    exact (hw.served i).mono (hw.entered i) g

theorem BarrierInv.move (hw : BarrierInv c w) {i : ℕ} {b : Barrier}
    (hb : Served c w (w.enteredAt i) b) : BarrierInv c (w.moveBarrier i b) := by
  have ht : Tracks c (w.moveBarrier i b) := ⟨hw.tracks.taken_le, hw.tracks.queue,
    hw.tracks.count, hw.tracks.handled, hw.tracks.current⟩
  refine ⟨ht, hw.entered, ?_⟩
  intro i'
  change Served c w (w.enteredAt i') (update w.barrier i b i')
  by_cases hi : i' = i
  · subst hi
    rw [update_self]
    exact hb
  · rw [update_of_ne hi]
    exact hw.served i'

theorem BarrierInv.step {a : Action} (hw : BarrierInv c w) (hfew : FewPending a w)
    (h : Step a w w') : BarrierInv c w' := by
  obtain ⟨ht, g⟩ := hw.tracks.step h
  cases a with
  | add e =>
    obtain ⟨new, -, -, -, -, -, -, -, -, hb, he⟩ := step_add h
    exact hw.others ht g hb he
  | take =>
    obtain ⟨e, rest, -, -, rfl⟩ := step_take h
    exact hw.others ht g rfl rfl
  | handle =>
    obtain ⟨e, new, -, -, -, -, -, -, -, hb, he, -⟩ := step_handle h
    exact hw.others ht g hb he
  | enter i =>
    obtain rfl := step_enter h
    refine ⟨ht, ?_, ?_⟩
    · intro i'
      change update w.enteredAt i w.enqueued.length i' ≤ w.enqueued.length
      rw [update_apply]
      split_ifs
      · exact le_refl _
      · exact hw.entered i'
    · intro i'
      change Served c w (update w.enteredAt i w.enqueued.length i')
        (update w.barrier i .entered i')
      by_cases hi : i' = i
      · subst hi
        rw [update_self, update_self]
        trivial
      · rw [update_of_ne hi, update_of_ne hi]
        exact hw.served i'
  | snapshot i =>
    obtain ⟨-, rfl⟩ := step_snapshot h
    exact hw.move (served_snapshot hw.tracks hfew _)
  | poll i =>
    rcases step_poll h with rfl | ⟨s, hb, hs, rfl⟩
    · exact hw
    · have hserved := hw.served i
      rw [hb] at hserved
      exact hw.move (served_reached hw.tracks hserved hs)
  | timeout i =>
    obtain rfl := step_timeout h
    exact hw.move trivial

theorem barrierInv_start {m : ModelMaintenance} (hidle : m.current = none) :
    BarrierInv m.processedEvents (start m) :=
  ⟨tracks_start hidle, fun _ => Nat.zero_le _, fun _ => trivial⟩

/-- **The barrier.** However the threads interleave, and whatever value the
counter started from, when `pendingChangesBarrier` has returned `true` to caller
`i`, everything enqueued before an `etModelDirty` that was enqueued before the
call has been handled. -/
theorem pendingChangesBarrier_sound {m : ModelMaintenance} (hidle : m.current = none)
    {as : List Action} (hr : Run (Guarded FewPending Step) (start m) as w)
    {i : ℕ} (hret : w.barrier i = .returned true) {k : ℕ} (hk : k < w.enteredAt i)
    (hdirty : w.enqueued[k]? = some .etModelDirty) :
    w.enqueued.take k <+: w.handled := by
  have hw : BarrierInv m.processedEvents w :=
    hr.invariant (barrierInv_start hidle) fun _ _ _ hi hs => hi.step hs.1 hs.2
  have hserved := hw.served i
  rw [hret] at hserved
  rw [hw.tracks.handled]
  exact List.take_prefix_take_left (hserved k hk hdirty)

def beforeWrap : ModelMaintenance :=
  { isInitializing := false
    processedEvents := BitVec.allOnes 32
    modelEvents := [.etDummyEvent, .etModelDirty]
    websvcEnabled := true }

/-- The barrier opens once the dirty event has been taken, past the wrap-around
of the counter. -/
theorem pendingChangesBarrier_sound_wrap :
    ∃ w, Run (Guarded FewPending Step) (start beforeWrap)
        [.enter 0, .snapshot 0, .take, .handle, .take, .poll 0] w ∧
      w.barrier 0 = .returned true ∧ w.enqueued.take 1 <+: w.handled := by
  have hr : Run (Guarded FewPending Step) (start beforeWrap)
      [.enter 0, .snapshot 0, .take, .handle, .take, .poll 0] _ := Run.of_execute rfl
  have hret := pendingChangesBarrier_sound rfl hr (i := 0) (by decide) (k := 1) (by decide)
    (by decide)
  exact ⟨_, hr, by decide, hret⟩

end World

end Dss
