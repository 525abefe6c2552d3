import Dss.ModelEventRuns

/-!
# Masking change notifications

The handling of an `etModelDirty` raises a notification, and is meant to mask the dirty events
that are already in the queue. The mask is set to the count of events taken, not to the count at
which the queue will have been emptied, so it masks the event at hand only. The law holds on runs
that never handle a dirty event with another one behind it in the queue.
-/

namespace Dss

open Transition List

namespace World

variable {w w' : World} {c : BitVec 32}

/-- No notification comes from an event that was in the queue when an earlier one
was raised. -/
def Masks (w : World) : Prop :=
  w.raises.Pairwise fun r r' => r.enqueued ≤ r'.event

/-- Every dirty event handled has a notification raised after it was enqueued. -/
def Follows (w : World) : Prop :=
  ∀ j < w.handled.length, w.enqueued[j]? = some .etModelDirty →
    ∃ r ∈ w.raises, j < r.enqueued

def maskedUpTo (w : World) : ℕ :=
  match w.raises.getLast? with
  | none => 0
  | some r => r.event + 1

/-- The condition on the state in which a dirty event is handled: no other one is
in the queue, and fewer than `2 ^ 31` events were taken since the mask was set. -/
def Unmasked (a : Action) (w : World) : Prop :=
  a = .handle → w.maintenance.current = some .etModelDirty →
    .etModelDirty ∉ w.maintenance.modelEvents ∧ w.taken - w.maskedUpTo < 2 ^ 31

instance (a : Action) (w : World) : Decidable (Unmasked a w) :=
  inferInstanceAs (Decidable (_ → _ → _ ∧ _))

structure NotifyInv (c : BitVec 32) (w : World) : Prop where
  /-- the queue and the counter agree with the histories -/
  tracks : Tracks c w
  enabled : w.maintenance.websvcEnabled = true
  mask : w.maintenance.suppressSaveRequestNotify = Counter.after c w.maskedUpTo
  raised : ∀ r ∈ w.raises, r.event < w.handled.length
  /-- no dirty event that is not handled was in the queue at a notification -/
  fresh : ∀ r ∈ w.raises, ∀ j, w.handled.length ≤ j → j < r.enqueued →
    w.enqueued[j]? ≠ some .etModelDirty
  past : ∀ r ∈ w.raises, r.enqueued ≤ w.enqueued.length
  masks : Masks w
  follows : Follows w

theorem NotifyInv.maskedUpTo_le (hw : NotifyInv c w) : w.maskedUpTo ≤ w.handled.length := by
  rw [maskedUpTo]
  rcases hl : w.raises.getLast? with - | r
  · exact Nat.zero_le _
  · exact hw.raised r (mem_of_getLast? hl)

theorem NotifyInv.notifies (hw : NotifyInv c w)
    (hcur : w.maintenance.current = some .etModelDirty)
    (hlt : w.taken - w.maskedUpTo < 2 ^ 31) : w.maintenance.notifies = true := by
  have hle := hw.maskedUpTo_le
  have ht := taken_of_some hcur
  have hdiff := Counter.toInt_after_sub_after c (m := w.taken) (by omega)
    (by omega : w.taken < w.maskedUpTo + 2 ^ 31)
  rw [ModelMaintenance.notifies, hw.enabled, hw.tracks.count, hw.mask, Bool.true_and,
    decide_eq_true_iff]
  omega

theorem NotifyInv.idle (hw : NotifyInv c w) (ht : Tracks c w') (g : Grows w w')
    (hweb : w'.maintenance.websvcEnabled = w.maintenance.websvcEnabled)
    (hmask : w'.maintenance.suppressSaveRequestNotify =
      w.maintenance.suppressSaveRequestNotify)
    (hh : w'.handled = w.handled) (hr : w'.raises = w.raises) : NotifyInv c w' := by
  have hlen : w.handled.length ≤ w.enqueued.length :=
    le_trans (Nat.le_add_right ..) hw.tracks.taken_le
  refine ⟨ht, hweb.trans hw.enabled, ?_, ?_, ?_, ?_, ?_, ?_⟩
  · rw [hmask, hw.mask, maskedUpTo, maskedUpTo, hr]
  · rw [hr, hh]
    exact hw.raised
  · rw [hr, hh]
    intro r hmem j hge hj
    rw [g.getElem? (lt_of_lt_of_le hj (hw.past r hmem))]
    exact hw.fresh r hmem j hge hj
  · rw [hr]
    exact fun r hmem => le_trans (hw.past r hmem) g.enqueued.length_le
  · rw [Masks, hr]
    exact hw.masks
  · rw [Follows, hr, hh]
    intro j hj hd
    rw [g.getElem? (by omega)] at hd
    exact hw.follows j hj hd

theorem NotifyInv.other (hw : NotifyInv c w) (ht : Tracks c w') (g : Grows w w')
    {e : EventType} (hcur : w.maintenance.current = some e) (he : e ≠ .etModelDirty)
    (hweb : w'.maintenance.websvcEnabled = w.maintenance.websvcEnabled)
    (hmask : w'.maintenance.suppressSaveRequestNotify =
      w.maintenance.suppressSaveRequestNotify)
    (hh : w'.handled = w.handled ++ [e]) (hr : w'.raises = w.raises) :
    NotifyInv c w' := by
  have hnext := hw.tracks.current e hcur
  have hlt := (List.getElem?_eq_some_iff.mp hnext).1
  have hlen : w'.handled.length = w.handled.length + 1 := by rw [hh]; simp
  refine ⟨ht, hweb.trans hw.enabled, ?_, ?_, ?_, ?_, ?_, ?_⟩
  · rw [hmask, hw.mask, maskedUpTo, maskedUpTo, hr]
  · rw [hr, hlen]
    exact fun r hmem => Nat.lt_succ_of_lt (hw.raised r hmem)
  · rw [hr]
    intro r hmem j hge hj
    rw [g.getElem? (lt_of_lt_of_le hj (hw.past r hmem))]
    exact hw.fresh r hmem j (by omega) hj
  · rw [hr]
    exact fun r hmem => le_trans (hw.past r hmem) g.enqueued.length_le
  · rw [Masks, hr]
    exact hw.masks
  · rw [Follows, hr, hlen]
    intro j hj hd
    rw [g.getElem? (by omega)] at hd
    rcases Nat.lt_succ_iff_lt_or_eq.mp hj with hj | rfl
    · exact hw.follows j hj hd
    · exact absurd (Option.some.inj (hnext.symm.trans hd)) he

/-- Handling a dirty event raises a notification that masks what is in the
queue, there being nothing to mask. -/
theorem NotifyInv.dirty (hw : NotifyInv c w) (ht : Tracks c w') (g : Grows w w')
    (hcur : w.maintenance.current = some .etModelDirty)
    (hnone : .etModelDirty ∉ w.maintenance.modelEvents)
    (hweb : w'.maintenance.websvcEnabled = w.maintenance.websvcEnabled)
    (hmask : w'.maintenance.suppressSaveRequestNotify = w.maintenance.processedEvents)
    (hh : w'.handled = w.handled ++ [.etModelDirty])
    (hr : w'.raises = w.raises ++ [⟨w.handled.length, w.enqueued.length⟩]) :
    NotifyInv c w' := by
  have hnext := hw.tracks.current _ hcur
  have hlt := (List.getElem?_eq_some_iff.mp hnext).1
  have htaken := taken_of_some hcur
  have hlen : w'.handled.length = w.handled.length + 1 := by rw [hh]; simp
  have hlast : w'.maskedUpTo = w.taken := by
    rw [maskedUpTo, hr, getLast?_concat, htaken]
  -- a dirty event of an earlier queue would have to be the one in hand
  have hfresh : ∀ r ∈ w.raises, r.enqueued ≤ w.handled.length := by
    intro r hmem
    by_contra hgt
    exact hw.fresh r hmem _ (le_refl _) (by omega) hnext
  refine ⟨ht, hweb.trans hw.enabled, ?_, ?_, ?_, ?_, ?_, ?_⟩
  · rw [hmask, hlast, hw.tracks.count]
  · rw [hr, hlen]
    intro r hmem
    rcases mem_append.mp hmem with hold | hnew
    · exact Nat.lt_succ_of_lt (hw.raised r hold)
    · obtain rfl := mem_singleton.mp hnew
      exact Nat.lt_succ_self _
  · rw [hr]
    intro r hmem j hge hj
    rcases mem_append.mp hmem with hold | hnew
    · rw [g.getElem? (lt_of_lt_of_le hj (hw.past r hold))]
      exact hw.fresh r hold j (by omega) hj
    · obtain rfl := mem_singleton.mp hnew
      intro hd
      rw [g.getElem? hj] at hd
      refine hnone ?_
      rw [hw.tracks.queue, mem_iff_getElem?]
      exact ⟨j - w.taken, by rw [getElem?_drop, Nat.add_sub_of_le (by omega), hd]⟩
  · rw [hr]
    intro r hmem
    rcases mem_append.mp hmem with hold | hnew
    · exact le_trans (hw.past r hold) g.enqueued.length_le
    · obtain rfl := mem_singleton.mp hnew
      exact g.enqueued.length_le
  · rw [Masks, hr, pairwise_append]
    refine ⟨hw.masks, pairwise_singleton _ _, ?_⟩
    intro r hmem r' hmem'
    obtain rfl := mem_singleton.mp hmem'
    exact hfresh r hmem
  · rw [Follows, hr]
    intro j hj _
    exact ⟨_, mem_append_right _ (mem_singleton.mpr rfl), by
      change j < w.enqueued.length
      omega⟩

theorem NotifyInv.step {a : Action} (hw : NotifyInv c w) (hok : Unmasked a w)
    (h : Step a w w') : NotifyInv c w' := by
  obtain ⟨ht, g⟩ := hw.tracks.step h
  cases a with
  | add e =>
    obtain ⟨new, -, -, -, hmask, hweb, -, hh, hr, -⟩ := step_add h
    exact hw.idle ht g hweb hmask hh hr
  | take =>
    obtain ⟨e, rest, -, -, rfl⟩ := step_take h
    exact hw.idle ht g rfl rfl rfl rfl
  | handle =>
    obtain ⟨e, new, hcur, -, -, -, -, hweb, hh, -, -, hraise⟩ := step_handle h
    by_cases he : e = .etModelDirty
    · subst he
      obtain ⟨hnone, hlt⟩ := hok rfl hcur
      rw [if_pos ⟨rfl, hw.notifies hcur hlt⟩] at hraise
      exact hw.dirty ht g hcur hnone hweb hraise.2 hh hraise.1
    · rw [if_neg fun hc => he hc.1] at hraise
      exact hw.other ht g hcur he hweb hraise.2 hh hraise.1
  | enter i =>
    obtain rfl := step_enter h
    exact hw.idle ht g rfl rfl rfl rfl
  | snapshot i =>
    obtain ⟨-, rfl⟩ := step_snapshot h
    exact hw.idle ht g rfl rfl rfl rfl
  | poll i =>
    rcases step_poll h with rfl | ⟨s, -, -, rfl⟩
    · exact hw
    · exact hw.idle ht g rfl rfl rfl rfl
  | timeout i =>
    obtain rfl := step_timeout h
    exact hw.idle ht g rfl rfl rfl rfl

/-- The state before the first event: nothing in hand, nothing masked, and the
web service enabled. -/
structure Fresh (m : ModelMaintenance) : Prop where
  idle : m.current = none
  mask : m.suppressSaveRequestNotify = m.processedEvents
  enabled : m.websvcEnabled = true

theorem notifyInv_start {m : ModelMaintenance} (hm : Fresh m) :
    NotifyInv m.processedEvents (start m) := by
  refine ⟨tracks_start hm.idle, hm.enabled, ?_, ?_, ?_, ?_, List.Pairwise.nil, ?_⟩
  · exact hm.mask.trans (Counter.after_zero _).symm
  · exact fun r hr => absurd hr not_mem_nil
  · exact fun r hr => absurd hr not_mem_nil
  · exact fun r hr => absurd hr not_mem_nil
  · exact fun j hj => absurd hj (Nat.not_lt_zero j)

/-- **Masking, where it works.** In every run whose steps meet `Unmasked`, from any
queue and any value of the counter, no notification comes from an event that was
already queued at an earlier one, and every dirty event handled has one raised
after it was enqueued. -/
theorem masks_and_follows {m : ModelMaintenance} (hm : Fresh m) {as : List Action}
    (hr : Run (Guarded Unmasked Step) (start m) as w) : Masks w ∧ Follows w := by
  have hw : NotifyInv m.processedEvents w :=
    hr.invariant (notifyInv_start hm) fun _ _ _ hi hs => hi.step hs.1 hs.2
  exact ⟨hw.masks, hw.follows⟩

def twoDirty : ModelMaintenance :=
  { isInitializing := false
    processedEvents := 0
    modelEvents := [.etDummyEvent, .etModelDirty, .etModelDirty]
    websvcEnabled := true }

/-- One dirty event, and another one once it has been handled. -/
theorem masks_and_follows_spaced :
    ∃ w, Run (Guarded Unmasked Step) (start { twoDirty with modelEvents := [.etModelDirty] })
        [.take, .handle, .add .etModelDirty, .take, .handle] w ∧
      w.raises.length = 2 ∧ Masks w ∧ Follows w := by
  have hr : Run (Guarded Unmasked Step)
      (start { twoDirty with modelEvents := [.etModelDirty] })
      [.take, .handle, .add .etModelDirty, .take, .handle] _ := Run.of_execute rfl
  exact ⟨_, hr, rfl, masks_and_follows ⟨rfl, rfl, rfl⟩ hr⟩

/-- Two dirty events in the queue: the second one is not masked. -/
theorem masks_fails :
    ¬ ∀ (m : ModelMaintenance) (as : List Action) (w : World), Fresh m →
      Run Step (start m) as w → Masks w ∧ Follows w := by
  intro h
  have hr : Run (Guarded (fun _ _ => True) Step) (start twoDirty)
      [.take, .handle, .take, .handle, .take, .handle] _ := Run.of_execute rfl
  obtain ⟨hmasks, -⟩ := h _ _ _ ⟨rfl, rfl, rfl⟩ hr.of_guarded
  revert hmasks
  unfold Masks
  decide

end World

end Dss
