import Mathlib.Data.Finset.Card
import Dss.SetBuilder

/-!
# The algebra of sets

A set is a vector of references, which are equal if their dSUIDs are. What the operations make of
sets without duplicates has none: `combine` is the union, `remove` the difference.
-/

namespace Dss

open List

namespace SetBuilder

variable {D : Type} [DecidableEq D] {set other s : List D} {d dsid : D}

/-! ## The operations -/

theorem mem_addDevice : d ∈ addDevice set dsid ↔ d ∈ set ∨ d = dsid := by
  unfold addDevice
  split_ifs with hmem
  · refine ⟨Or.inl, ?_⟩
    rintro (h | rfl)
    · exact h
    · exact hmem
  · rw [mem_append, mem_singleton]

theorem nodup_addDevice (h : set.Nodup) : (addDevice set dsid).Nodup := by
  unfold addDevice
  split_ifs with hmem
  · exact h
  · exact h.append (nodup_singleton dsid) (disjoint_singleton.mpr hmem)

theorem mem_combine : d ∈ combine set other ↔ d ∈ set ∨ d ∈ other := by
  unfold combine
  induction set generalizing other with
  | nil => simp
  | cons e set ih =>
    rw [foldl_cons, ih, mem_addDevice, mem_cons, or_comm (a := d ∈ other), ← or_assoc,
      or_comm (a := d ∈ set)]

theorem nodup_combine (h : other.Nodup) : (combine set other).Nodup := by
  induction set generalizing other with
  | nil => exact h
  | cons e set ih => exact ih (nodup_addDevice h)

theorem mem_remove (h : set.Nodup) : d ∈ SetBuilder.remove set other ↔ d ∈ set ∧ d ∉ other := by
  rw [SetBuilder.remove, ← diff_eq_foldl, h.mem_sdiff_iff]

theorem nodup_remove (h : set.Nodup) : (SetBuilder.remove set other).Nodup := by
  rw [SetBuilder.remove, ← diff_eq_foldl, h.sdiff_eq_filter]
  exact h.filter _

variable {rt : Runtime D} {ap : Apartment D}

theorem nodup_getSubset {selectDevice : Device D → Bool}
    (h : getSubset rt ap selectDevice set = .ok s) : s.Nodup := by
  unfold getSubset at h
  have hstart : ([] : List D).Nodup := nodup_nil
  generalize ([] : List D) = result at h hstart
  induction set generalizing result with
  | nil => exact Except.ok.inj h ▸ hstart
  | cons e set ih =>
    rw [foldlM_cons] at h
    cases hdevice : ap.getDeviceByDSID rt e with
    | error failure =>
      rw [hdevice] at h
      cases h
    | ok device =>
      rw [hdevice] at h
      refine ih _ h ?_
      split_ifs
      · exact nodup_addDevice hstart
      · exact hstart

/-! ## Filters -/

/-- The functions that select devices of a set. -/
inductive Filter (D : Type) : Type where
  /-- `getSubset` -/
  | subset (selectDevice : Device D → Bool) : Filter D
  | group (groupNr : ℤ) : Filter D
  | groupName (name : String) : Filter D
  | zone (zoneID : ℤ) : Filter D
  | zoneName (zoneName : String) : Filter D
  | functionID (id : ℤ) : Filter D
  | tag (tagName : String) : Filter D

def Filter.select (rt : Runtime D) (ap : Apartment D) (set : List D) :
    Filter D → Except Exception (List D)
  | subset selectDevice => getSubset rt ap selectDevice set
  | group groupNr => getByGroup rt ap set groupNr
  | groupName name => getByGroupName rt ap set name
  | zone zoneID => getByZone rt ap set zoneID
  | zoneName name => getByZoneName rt ap set name
  | functionID id => getByFunctionID rt ap set id
  | tag tagName => getByTag rt ap set tagName

theorem nodup_getByGroup {groupNr : ℤ} (hset : set.Nodup)
    (h : getByGroup rt ap set groupNr = .ok s) : s.Nodup := by
  unfold getByGroup at h
  split_ifs at h
  · exact nodup_getSubset h
  · exact Except.ok.inj h ▸ hset

theorem nodup_getByZone {zoneID : ℤ} (hset : set.Nodup)
    (h : getByZone rt ap set zoneID = .ok s) : s.Nodup := by
  unfold getByZone at h
  split_ifs at h
  · exact nodup_getSubset h
  · exact Except.ok.inj h ▸ hset

theorem Filter.nodup_select {f : Filter D} (hset : set.Nodup) (h : f.select rt ap set = .ok s) :
    s.Nodup := by
  cases f with
  | subset | functionID | tag => exact nodup_getSubset h
  | group => exact nodup_getByGroup hset h
  | zone => exact nodup_getByZone hset h
  | groupName name =>
    cases set with
    | nil => exact Except.ok.inj h ▸ nodup_nil
    | cons first rest =>
      simp only [select, getByGroupName] at h
      cases hdevice : ap.getDeviceByDSID rt first with
      | error failure => rw [hdevice] at h; cases h
      | ok device =>
        cases hgroup : ap.getGroup name with
        | error failure => rw [hdevice, hgroup] at h; cases h
        | ok group =>
          rw [hdevice, hgroup] at h
          exact nodup_getByGroup hset h
  | zoneName name =>
    cases set with
    | nil => exact Except.ok.inj h ▸ nodup_nil
    | cons first rest =>
      simp only [select, getByZoneName] at h
      cases hdevice : ap.getDeviceByDSID rt first with
      | error failure => rw [hdevice] at h; cases h
      | ok device =>
        cases hzone : ap.getZoneByName name with
        | error failure => rw [hdevice, hzone] at h; cases h
        | ok zone =>
          rw [hdevice, hzone] at h
          exact nodup_getByZone hset h

/-! ## Sets that are built -/

/-- How a set is built: from vectors without duplicates, by the operations. -/
inductive SetTerm (D : Type) : Type where
  | devices (set : List D) (nodup : set.Nodup) : SetTerm D
  | addDevice (t : SetTerm D) (dsid : D) : SetTerm D
  | removeDevice (t : SetTerm D) (dsid : D) : SetTerm D
  | combine (t other : SetTerm D) : SetTerm D
  | remove (t other : SetTerm D) : SetTerm D
  | filter (f : Filter D) (t : SetTerm D) : SetTerm D

def SetTerm.eval (rt : Runtime D) (ap : Apartment D) : SetTerm D → Except Exception (List D)
  | devices set _ => .ok set
  | addDevice t dsid => (t.eval rt ap).map fun set => SetBuilder.addDevice set dsid
  | removeDevice t dsid => (t.eval rt ap).map fun set => set.erase dsid
  | combine t other =>
    (t.eval rt ap).bind fun set => (other.eval rt ap).map fun o => SetBuilder.combine set o
  | remove t other =>
    (t.eval rt ap).bind fun set => (other.eval rt ap).map fun o => SetBuilder.remove set o
  | filter f t => (t.eval rt ap).bind fun set => f.select rt ap set

theorem map_eq_ok {α β : Type} {x : Except Exception α} {f : α → β} {b : β}
    (h : x.map f = .ok b) : ∃ a, x = .ok a ∧ f a = b := by
  cases x with
  | error e => cases h
  | ok a => exact ⟨a, rfl, Except.ok.inj h⟩

theorem bind_eq_ok {α β : Type} {x : Except Exception α} {f : α → Except Exception β} {b : β}
    (h : x.bind f = .ok b) : ∃ a, x = .ok a ∧ f a = .ok b := by
  cases x with
  | error e => cases h
  | ok a => exact ⟨a, rfl, h⟩

theorem SetTerm.nodup_eval {t : SetTerm D} (h : t.eval rt ap = .ok s) : s.Nodup := by
  induction t generalizing s with
  | devices set nodup => exact Except.ok.inj h ▸ nodup
  | addDevice t dsid ih =>
    obtain ⟨set, hset, rfl⟩ := map_eq_ok h
    exact nodup_addDevice (ih hset)
  | removeDevice t dsid ih =>
    obtain ⟨set, hset, rfl⟩ := map_eq_ok h
    exact (ih hset).erase dsid
  | combine t other iht ihother =>
    obtain ⟨set, hset, h⟩ := bind_eq_ok h
    obtain ⟨o, ho, rfl⟩ := map_eq_ok h
    exact nodup_combine (ihother ho)
  | remove t other iht ihother =>
    obtain ⟨set, hset, h⟩ := bind_eq_ok h
    obtain ⟨o, ho, rfl⟩ := map_eq_ok h
    exact nodup_remove (iht hset)
  | filter f t ih =>
    obtain ⟨set, hset, h⟩ := bind_eq_ok h
    exact f.nodup_select (ih hset) h

/-- **Set algebra.** A set that is built has no duplicates and as many elements as its length
says; combining two such sets makes their union, and removing one from the other the difference. -/
theorem eval_algebra (rt : Runtime D) (ap : Apartment D) :
    (∀ (t : SetTerm D) s, t.eval rt ap = .ok s → s.Nodup ∧ s.length = s.toFinset.card) ∧
      ∀ (t other : SetTerm D) a b, t.eval rt ap = .ok a → other.eval rt ap = .ok b →
        (∀ d, d ∈ combine a b ↔ d ∈ a ∨ d ∈ b) ∧
          ∀ d, d ∈ SetBuilder.remove a b ↔ d ∈ a ∧ d ∉ b := by
  refine ⟨fun t s h => ?_, fun t other a b ha hb => ?_⟩
  · have hnodup := SetTerm.nodup_eval h
    exact ⟨hnodup, (toFinset_card_of_nodup hnodup).symm⟩
  · exact ⟨fun d => mem_combine, fun d => mem_remove (SetTerm.nodup_eval ha)⟩

/-- A device is added twice, and removed. -/
theorem eval_algebra_lamp : [1, 2].Nodup ∧
    (2 ∈ SetBuilder.remove [1, 2] [2] ↔ 2 ∈ [1, 2] ∧ 2 ∉ [2]) := by
  have hrun := eval_algebra (D := ℕ) ⟨fun _ => 0, fun _ => none, fun _ => ""⟩ ⟨[], []⟩
  have hset := hrun.1 (.addDevice (.addDevice (.devices [1] (by decide)) 2) 2) [1, 2] rfl
  exact ⟨hset.1, (hrun.2 (.addDevice (.addDevice (.devices [1] (by decide)) 2) 2)
    (.devices [2] (by decide)) [1, 2] [2] rfl rfl).2 2⟩

end SetBuilder

end Dss
