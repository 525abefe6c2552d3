import Dss.FirstMatch
import Dss.KeyedList
import Mathlib.Data.List.Induction

/-!
# Records that accumulate

Each element has a key, and there is a record for each key so far. An element is added to the
record of its key, which is searched for from the beginning, or becomes a new record at the end.
-/

namespace Accumulation

open FirstMatch List

universe u v w

variable {α : Type u} {β : Type v} {K : Type w} [DecidableEq K]

section define

variable (key : α → K) (recordKey : β → K) (make : α → β) (add : β → α → β)

def extend (record : Option β) (a : α) : Option β := some (record.elim (make a) (add · a))

def total (k : K) (as : List α) : Option β :=
  (as.filter fun a => key a = k).foldl (extend make add) none

def collect (records : List β) (a : α) : List β :=
  (mergeFirst (fun r => if recordKey r = key a then some (add r a) else none) records).getD
    (records ++ [make a])

structure Accounts (as : List α) (records : List β) : Prop where
  nodup : (records.map recordKey).Nodup
  mem_iff : ∀ r, r ∈ records ↔ total key make add (recordKey r) as = some r

end define

variable {key : α → K} {recordKey : β → K} {make : α → β} {add : β → α → β} {as : List α}
  {records records' : List β} {a : α} {k : K} {r : β}

theorem total_append_of_eq (h : key a = k) :
    total key make add k (as ++ [a]) = extend make add (total key make add k as) a := by
  rw [total, filter_append, filter_cons_of_pos (by simpa using h), foldl_append]
  rfl

theorem total_append_of_ne (h : key a ≠ k) :
    total key make add k (as ++ [a]) = total key make add k as := by
  rw [total, filter_append, filter_cons_of_neg (by simpa using h), filter_nil,
    append_nil, total]

theorem recordKey_total (hmake : ∀ a, recordKey (make a) = key a)
    (hadd : ∀ r a, recordKey (add r a) = recordKey r) :
    ∀ {r}, total key make add k as = some r → recordKey r = k := by
  induction as using reverseRecOn with
  | nil =>
    intro r h
    cases h
  | append_singleton as a ih =>
    intro r h
    by_cases ha : key a = k
    · rw [total_append_of_eq ha] at h
      obtain rfl := Option.some.inj h
      rcases hr : total key make add k as with - | r
      · exact (hmake a).trans ha
      · exact (hadd r a).trans (ih hr)
    · rw [total_append_of_ne ha] at h
      exact ih h

theorem Accounts.nil : Accounts key recordKey make add [] [] :=
  ⟨nodup_nil, fun _ => iff_of_false not_mem_nil nofun⟩

theorem Accounts.perm (h : Accounts key recordKey make add as records)
    (hperm : records'.Perm records) : Accounts key recordKey make add as records' :=
  ⟨(hperm.map recordKey).nodup_iff.mpr h.nodup, fun r => hperm.mem_iff.trans (h.mem_iff r)⟩

theorem Accounts.first (h : Accounts key recordKey make add as records)
    (hmake : ∀ a, recordKey (make a) = key a) (hadd : ∀ r a, recordKey (add r a) = recordKey r)
    (hnew : ∀ r ∈ records, recordKey r ≠ key a) :
    Accounts key recordKey make add (as ++ [a]) (records ++ [make a]) := by
  have hnone : total key make add (key a) as = none := by
    refine Option.eq_none_iff_forall_not_mem.mpr fun r hr => ?_
    have hkey := recordKey_total hmake hadd hr
    exact hnew r ((h.mem_iff r).mpr (hkey ▸ hr)) hkey
  constructor
  case nodup =>
    refine KeyedList.nodup_append h.nodup fun hmem => ?_
    obtain ⟨r, hr, hkey⟩ := mem_map.mp hmem
    exact hnew r hr (hkey.trans (hmake a))
  case mem_iff =>
    intro r
    rw [mem_append, mem_singleton]
    by_cases hr : key a = recordKey r
    · rw [total_append_of_eq hr, ← hr, hnone, or_iff_right fun hmem => hnew r hmem hr.symm]
      exact ⟨fun heq => congrArg some heq.symm, fun heq => (Option.some.inj heq).symm⟩
    · rw [total_append_of_ne hr, or_iff_left, h.mem_iff]
      rintro rfl
      exact hr (hmake a).symm

theorem Accounts.further {pre post : List β}
    (h : Accounts key recordKey make add as (pre ++ r :: post))
    (hadd : ∀ r a, recordKey (add r a) = recordKey r) (hr : recordKey r = key a) :
    Accounts key recordKey make add (as ++ [a]) (pre ++ add r a :: post) := by
  have hkeys : (pre ++ add r a :: post).map recordKey = (pre ++ r :: post).map recordKey := by
    rw [map_append, map_cons, hadd, map_append, map_cons]
  have hnodup := h.nodup
  have htotal := (h.mem_iff r).mp (mem_append_right pre mem_cons_self)
  rw [hr] at htotal
  constructor
  case nodup =>
    rw [hkeys]
    exact hnodup
  case mem_iff =>
    intro s
    by_cases hs : key a = recordKey s
    · rw [total_append_of_eq hs, ← hs, htotal]
      constructor
      · intro hmem
        rw [← hkeys] at hnodup
        exact congrArg some (inj_on_of_nodup_map hnodup
          (mem_append_right pre mem_cons_self) hmem ((hadd r a).trans (hr.trans hs)))
      · intro heq
        rw [← Option.some.inj heq]
        exact mem_append_right pre mem_cons_self
    · -- another record is neither the old one nor the new one
      have hold : s ≠ r := fun heq => hs (heq ▸ hr.symm)
      have hnew : s ≠ add r a := fun heq => hs (by rw [heq, hadd, hr])
      rw [total_append_of_ne hs, ← h.mem_iff, mem_append, mem_append, mem_cons,
        mem_cons, or_iff_right hold, or_iff_right hnew]

theorem Accounts.collect (h : Accounts key recordKey make add as records)
    (hmake : ∀ a, recordKey (make a) = key a) (hadd : ∀ r a, recordKey (add r a) = recordKey r)
    (a : α) : Accounts key recordKey make add (as ++ [a])
      (collect key recordKey make add records a) := by
  rw [Accumulation.collect]
  rcases hmerge : mergeFirst (fun r => if recordKey r = key a then some (add r a) else none)
    records with - | records'
  · refine h.first hmake hadd fun r hr hkey => ?_
    have hnone := forall_of_mergeFirst_eq_none hmerge r hr
    rw [if_pos hkey] at hnone
    cases hnone
  · obtain ⟨pre, r, r', post, rfl, rfl, htaken, -⟩ := mergeFirst_eq_some hmerge
    obtain ⟨hkey, htaken⟩ := Option.ite_none_right_eq_some.mp htaken
    rw [← Option.some.inj htaken]
    exact h.further hadd hkey

end Accumulation
