import Mathlib.Data.List.Infix

/-!
# Records in a text

Each record is a mark, a key, a stop and a content. The content of a key is what follows the first
mark, key and stop in the text, up to the next mark. If no key or content has a mark or a stop,
this is the content of the first record of the key.
-/

namespace MarkedRecords

open List

universe u

variable {α : Type u} {mark stop : α} {word key key' content as rest : List α}

/-! ## One record -/

/-- What follows a record: nothing, or the next one. -/
def Ends (mark : α) (rest : List α) : Prop := ∀ a ∈ rest.head?, a = mark

theorem not_isPrefix_of_stop (hne : mark ≠ stop) (hkey : mark ∉ key) (hcontent : stop ∉ content)
    (hrest : Ends mark rest) : ¬ key ++ [stop] <+: content ++ rest := by
  induction content generalizing key with
  | nil =>
    rintro ⟨t, ht⟩
    subst ht
    cases key with
    | nil => exact hne (hrest stop rfl).symm
    | cons a key => exact hkey (hrest a rfl ▸ mem_cons_self)
  | cons c content ih =>
    rw [mem_cons, not_or] at hcontent
    intro hpre
    cases key with
    | nil => exact hcontent.1 (cons_prefix_cons.mp hpre).1
    | cons a key =>
      exact ih (fun hmem => hkey (mem_cons_of_mem a hmem)) hcontent.2
        (cons_prefix_cons.mp hpre).2

theorem prefix_record_iff (hne : mark ≠ stop) (hkey : mark ∉ key) (hkey' : stop ∉ key')
    (hcontent : stop ∉ content) (hrest : Ends mark rest) :
    key ++ [stop] <+: key' ++ stop :: (content ++ rest) ↔ key' = key := by
  constructor
  · intro hpre
    induction key generalizing key' with
    | nil =>
      cases key' with
      | nil => rfl
      | cons b key' =>
        exact absurd ((cons_prefix_cons.mp hpre).1 ▸ mem_cons_self) hkey'
    | cons a key ih =>
      have hmark : mark ∉ key := fun hmem => hkey (mem_cons_of_mem a hmem)
      cases key' with
      | nil =>
        exact absurd (cons_prefix_cons.mp hpre).2
          (not_isPrefix_of_stop hne hmark hcontent hrest)
      | cons b key' =>
        obtain ⟨hab, hpre⟩ := cons_prefix_cons.mp hpre
        have hstop : stop ∉ key' := fun hmem => hkey' (mem_cons_of_mem b hmem)
        rw [hab, ih hmark hstop hpre]
  · rintro rfl
    exact ⟨content ++ rest, by rw [append_assoc]; rfl⟩

/-! ## Records -/

def write (mark stop : α) (record : List α × List α) : List α :=
  mark :: (record.1 ++ stop :: record.2)

/-- Neither mark nor stop is part of a record. -/
structure Plain (mark stop : α) (record : List α × List α) : Prop where
  mark_key : mark ∉ record.1
  stop_key : stop ∉ record.1
  mark_content : mark ∉ record.2
  stop_content : stop ∉ record.2

variable {records : List (List α × List α)}

theorem ends_write : Ends mark (records.flatMap (write mark stop)) := by
  intro a ha
  cases records with
  | nil => cases ha
  | cons r records => exact (Option.some.inj ha).symm

theorem cons_intercalate (h : records ≠ []) :
    mark :: List.intercalate [mark] (records.map fun r => r.1 ++ stop :: r.2) =
      records.flatMap (write mark stop) := by
  induction records with
  | nil => exact absurd rfl h
  | cons r records ih =>
    rw [flatMap_cons, write]
    cases records with
    | nil => simp
    | cons r' records =>
      rw [← ih (cons_ne_nil r' records)]
      simp

/-! ## Looking up -/

variable [DecidableEq α]

def findBehind (word : List α) : List α → Option (List α)
  | [] => if word = [] then some [] else none
  | a :: as =>
    if word <+: a :: as then some ((a :: as).drop word.length) else findBehind word as

theorem findBehind_append (h : mark ∉ as) :
    findBehind (mark :: word) (as ++ rest) = findBehind (mark :: word) rest := by
  induction as with
  | nil => rfl
  | cons a as ih =>
    obtain ⟨hne, has⟩ := not_or.mp fun hmem => h (mem_cons.mpr hmem)
    rw [cons_append, findBehind, if_neg fun hpre => hne (cons_prefix_cons.mp hpre).1,
      ih has]

theorem findBehind_write (hne : mark ≠ stop) {r : List α × List α} (hr : Plain mark stop r)
    (hkey : mark ∉ key) (hrest : Ends mark rest) :
    findBehind (mark :: (key ++ [stop])) (write mark stop r ++ rest) =
      if r.1 = key then some (r.2 ++ rest)
      else findBehind (mark :: (key ++ [stop])) rest := by
  have hpre := prefix_record_iff hne hkey hr.stop_key hr.stop_content hrest
  rw [write, cons_append, append_assoc, cons_append, findBehind]
  by_cases hmatch : r.1 = key
  · rw [if_pos (cons_prefix_cons.mpr ⟨rfl, hpre.mpr hmatch⟩), if_pos hmatch, ← hmatch,
      length_cons, drop_succ_cons]
    have hsplit : r.1 ++ stop :: (r.2 ++ rest) = (r.1 ++ [stop]) ++ (r.2 ++ rest) := by
      rw [append_assoc]
      rfl
    rw [hsplit, drop_left]
  · have hskip : mark ∉ r.1 ++ stop :: r.2 := by
      rw [mem_append, mem_cons]
      rintro (hmem | rfl | hmem)
      · exact hr.mark_key hmem
      · exact hne rfl
      · exact hr.mark_content hmem
    have happend : r.1 ++ stop :: (r.2 ++ rest) = (r.1 ++ stop :: r.2) ++ rest := by
      rw [append_assoc, cons_append]
    rw [if_neg fun h => hmatch (hpre.mp (cons_prefix_cons.mp h).2), if_neg hmatch, happend,
      findBehind_append hskip]

theorem findBehind_flatMap (hne : mark ≠ stop) (hplain : ∀ r ∈ records, Plain mark stop r)
    (hkey : mark ∉ key) :
    (findBehind (mark :: (key ++ [stop])) (records.flatMap (write mark stop))).map
        (List.takeWhile (· ≠ mark)) =
      (records.find? (·.1 = key)).map (·.2) := by
  induction records with
  | nil => rfl
  | cons r records ih =>
    rw [forall_mem_cons] at hplain
    rw [flatMap_cons, findBehind_write hne hplain.1 hkey ends_write, find?_cons]
    by_cases hmatch : r.1 = key
    · rw [if_pos hmatch, decide_eq_true hmatch, Option.map_some, Option.map_some]
      have hcontent : ∀ a ∈ r.2, decide (a ≠ mark) = true := fun a ha =>
        decide_eq_true fun heq => hplain.1.mark_content (heq ▸ ha)
      rw [takeWhile_append_of_pos hcontent]
      rcases htext : records.flatMap (write mark stop) with - | ⟨a, as⟩
      · rw [takeWhile_nil, append_nil]
      · have hends : Ends mark (records.flatMap (write mark stop)) := ends_write
        have ha : a = mark := hends a (by rw [htext]; rfl)
        rw [takeWhile_cons_of_neg (by simp [ha]), append_nil]
    · rw [if_neg hmatch, decide_eq_false hmatch, ih hplain.2]

end MarkedRecords
