import Dss.SetBuilderReading

/-!
# When the parser ends as it should

The parser returns a set or throws, unless the reading ends in a call that is cut short; and then
too if one of the steps in front of that call throws. `empty`, and a function that is not known,
read nothing, so that something between their brackets is left for the closing one. The set of
`add` or `remove` may end at the end of the text. And `addDevices` looks behind a comma for
another parameter, though the text may end with it.
-/

namespace Dss

open List

namespace SetBuilder

open Position

variable {D α : Type} {text tail rest : List Char} {c : Char}

/-! ## The reading comes to its end -/

section Finish

variable {rt : Runtime D} {size : ℕ} {k : List Char → Reading D}

/-- The fuel suffices. -/
def Reading.Finishes (r : Reading D) : Prop := r.ending ≠ .unread

theorem finishes_withParameter {x : Except Exception (α × List Char)}
    {k : α → List Char → Reading D}
    (hk : ∀ a rest, x = .ok (a, rest) → (k a rest).Finishes) :
    (withParameter x k).Finishes := by
  cases x with
  | error e =>
    intro h
    cases h
  | ok p => exact hk p.1 p.2 rfl

theorem finishes_parameterAs {f : List Char → Except Exception α} {s : α → Step D}
    (hk : ∀ c rest, c :: rest <:+ tail → c ∈ [',', ')'] → (k (c :: rest)).Finishes) :
    (withParameter (parameterAs f tail) fun a rest => (s a).andThen (k rest)).Finishes := by
  refine finishes_withParameter fun a rest hparameter => ?_
  obtain ⟨hsuffix, c, rest, rfl, hc⟩ := parameterAs_ok hparameter
  exact hk c rest hsuffix hc

theorem finishes_readDevice
    (hk : ∀ c rest, c :: rest <:+ tail → c ∈ [',', ')'] → (k (c :: rest)).Finishes) :
    (readDevice rt tail k).Finishes := by
  cases tail with
  | nil =>
    intro h
    cases h
  | cons c tail =>
    rw [readDevice]
    by_cases hc : c = '\''
    · rw [if_pos hc]
      exact finishes_parameterAs hk
    · rw [if_neg hc]
      exact finishes_parameterAs hk

theorem finishes_readDevices (fuel : ℕ) (hfuel : tail.length < fuel)
    (hk : ∀ rest, rest <:+ tail → (k rest).Finishes) :
    (readDevices rt fuel tail k).Finishes := by
  induction fuel generalizing tail with
  | zero => exact absurd hfuel (Nat.not_lt_zero _)
  | succ fuel ih =>
    refine finishes_readDevice fun c rest hrest _ => ?_
    have hsuffix : c :: rest <:+ tail := by
      refine hrest.trans ?_
      split_ifs
      · exact tail_suffix tail
      · exact suffix_rfl
    dsimp only
    by_cases hc : c = ','
    · rw [if_pos hc]
      -- one comma at least lies behind
      have hlt : (c :: rest).length < tail.length := by
        by_cases hhead : tail.head? = some ','
        · rw [if_pos hhead] at hrest
          have hle := hrest.length_le
          cases tail with
          | nil => cases hhead
          | cons c tail => exact Nat.lt_succ_of_le hle
        · refine lt_of_le_of_ne hsuffix.length_le fun hlength => hhead ?_
          rw [← hsuffix.eq_of_length hlength, head?_cons, hc]
      exact ih (by omega) fun rest' hrest' => hk rest' (hrest'.trans hsuffix)
    · rw [if_neg hc]
      exact hk _ hsuffix

theorem finishes_readCall {read : List Char → (List Char → Reading D) → Reading D}
    (hread : ∀ k, (∀ rest, rest <:+ tail → (k rest).Finishes) → (read tail k).Finishes)
    (hlength : tail.length ≤ size) (functionName : List Char)
    (hk : ∀ rest, rest <:+ tail → (k rest).Finishes) :
    (readCall rt size read functionName tail k).Finishes := by
  have hclose : ∀ rest, rest <:+ tail → (close size rest k).Finishes := by
    intro rest hrest
    cases rest with
    | nil =>
      intro h
      cases h
    | cons c rest =>
      rw [close]
      split_ifs
      · intro h
        cases h
      · exact hk rest (suffix_of_cons hrest)
      · intro h
        cases h
  have hclosing : ∀ c rest, c :: rest <:+ tail → c ∈ [',', ')'] →
      (close size (c :: rest) k).Finishes := fun c rest hrest _ => hclose _ hrest
  rw [readCall]
  split_ifs
  · intro h
    cases h
  · rw [readFunction.eq_def]
    split
    · exact finishes_parameterAs hclosing
    · split_ifs <;> exact finishes_parameterAs hclosing
    · split_ifs <;> exact finishes_parameterAs hclosing
    · exact finishes_parameterAs hclosing
    · exact finishes_parameterAs hclosing
    · exact hread _ hclose
    · exact hread _ hclose
    · exact finishes_readDevices _ (Nat.lt_succ_of_le hlength) hclose
    · exact hclose _ suffix_rfl
    · exact hclose _ suffix_rfl

theorem finishes_readSet (fuel : ℕ) (hfuel : tail.length < fuel) (hlength : tail.length ≤ size)
    (hk : ∀ rest, rest <:+ tail → (k rest).Finishes) :
    (readSet rt size fuel tail k).Finishes := by
  induction fuel generalizing tail k with
  | zero => exact absurd hfuel (Nat.not_lt_zero _)
  | succ fuel ih =>
    rw [readSet]
    have hblank : tail.dropWhile isSpace <:+ tail := dropWhile_suffix _
    generalize tail.dropWhile isSpace = tail' at hblank
    rcases hrest : tail'.dropWhile (fun c => !decide (c ∈ delimiters)) with - | ⟨c, rest⟩
    · dsimp only
      split_ifs
      · exact hk _ nil_suffix
      · exact hk _ nil_suffix
    · have hsuffix : c :: rest <:+ tail := by
        rw [← hrest]
        exact (dropWhile_suffix _).trans hblank
      have hlt : rest.length < tail.length := hsuffix.length_le
      have hnext : ∀ rest', rest' <:+ rest → ∀ k : List Char → Reading D,
          (∀ rest'', rest'' <:+ rest' → (k rest'').Finishes) →
            (readSet rt size fuel rest' k).Finishes := by
        intro rest' hrest' k hk
        have hle := hrest'.length_le
        exact ih (by omega) (by omega) hk
      have hbehind : ∀ rest', rest' <:+ rest → (k rest').Finishes :=
        fun rest' hrest' => hk rest' (hrest'.trans (suffix_of_cons hsuffix))
      dsimp only
      split_ifs
      · refine finishes_readCall (hnext rest suffix_rfl) (by omega) _ fun rest' hrest' => ?_
        rw [readBehindCall]
        have hdrop : rest'.dropWhile isSpace <:+ rest := (dropWhile_suffix _).trans hrest'
        generalize rest'.dropWhile isSpace = rest' at hdrop
        cases rest' with
        | nil => exact hbehind _ hdrop
        | cons c rest' =>
          dsimp only
          split_ifs
          · exact hnext rest' (suffix_of_cons hdrop) k fun rest'' hrest'' =>
              hbehind rest'' (hrest''.trans (suffix_of_cons hdrop))
          · exact hbehind _ hdrop
      · exact hnext rest suffix_rfl k hbehind
      · exact hk _ nil_suffix
      · exact hnext rest suffix_rfl k hbehind
      · exact hk _ hsuffix

theorem finishes_readText (h : tail <:+ text) : (readText rt text tail).Finishes := by
  refine finishes_readSet _ (Nat.lt_succ_of_le h.length_le) h.length_le fun rest _ hunread => ?_
  cases hunread

end Finish

/-! ## Sets and exceptions -/

/-- A set is returned or an exception is thrown. -/
def Total (x : Build (List D)) : Prop := (∃ set, x = .ok set) ∨ ∃ e, x = .error (.threw e)

section Total

variable [DecidableEq D] {rt : Runtime D} {ap : Apartment D} {g : Group} {set : List D}
  {sets : List (List D)} {context : Option Group}

omit [DecidableEq D] in
theorem total_lookup_bind {x : Except Exception α} {f : α → Build (List D)} :
    Total (lookup x >>= f) ↔ ∀ a, x = .ok a → Total (f a) := by
  cases x with
  | error e =>
    refine ⟨fun _ a ha => ?_, fun _ => Or.inr ⟨e, rfl⟩⟩
    cases ha
  | ok a =>
    refine ⟨fun h b hb => ?_, fun h => h a rfl⟩
    cases hb
    exact h

theorem total_run_iff {r : Reading D} (hr : r.Finishes) :
    Total (r.run rt ap g sets) ↔
      ∀ v, r.ending = .cut v → ∃ e, r.evaluate rt ap g sets = .error e := by
  rw [Reading.run, total_lookup_bind]
  cases hevaluate : r.evaluate rt ap g sets with
  | error e =>
    refine ⟨fun _ v _ => ⟨e, rfl⟩, fun _ a ha => ?_⟩
    cases ha
  | ok sets' =>
    cases hending : r.ending with
    | complete =>
      refine ⟨fun _ v hv => ?_, fun _ a _ => Or.inl ⟨_, rfl⟩⟩
      cases hv
    | refused e =>
      refine ⟨fun _ v hv => ?_, fun _ a _ => Or.inr ⟨e, rfl⟩⟩
      cases hv
    | unread => exact absurd hending hr
    | cut v =>
      refine ⟨fun h => ?_, fun h => ?_⟩
      · rcases h sets' rfl with ⟨set, hset⟩ | ⟨e, he⟩
        · cases hset
        · cases he
      · obtain ⟨e, he⟩ := h v rfl
        cases he

theorem parseSet_eq (hsize : text.length < 2 ^ 31) (h : tail <:+ text) :
    (do
      let (result, _) ← parseSet text rt ap (some g) (text.length + 1) (before text tail) set
      return result) = (readText rt text tail).run rt ap g [set] :=
  parseSet_bind hsize _ tail h set [] _ _ fun _ _ _ => rfl

omit [DecidableEq D] in
theorem getGroup_eq_broadcastGroup (zone : Zone D) :
    zone.getGroup groupIDBroadcast = some zone.broadcastGroup :=
  (Option.some_get _).symm

theorem startSet_eq :
    startSet rt ap text context =
      (lookup (start rt ap text context)).map fun x =>
        (x.2.1, some x.1, before text x.2.2) := by
  rw [startSet.eq_def, start.eq_def]
  by_cases hdot : text.head? = some '.'
  · rw [if_pos hdot, if_pos hdot]
    cases hzone : ap.getZone 0 with
    | error e => rfl
    | ok zone =>
      rw [lookup_ok, ok_bind, getGroup_eq_broadcastGroup, deref]
      cases hset : zone.broadcastGroup.getDevices rt ap with
      | error e => simp only [bind, Except.bind, hset]; rfl
      | ok set =>
        cases text with
        | nil => cases hdot
        | cons c rest =>
          have hbefore : before (c :: rest) rest = 1 := by
            rw [before, length_cons, Nat.add_sub_cancel_left]
          simp only [bind, Except.bind, hset, tail_cons]
          exact congrArg (fun n => Except.ok (set, some zone.broadcastGroup, n)) hbefore.symm
  · rw [if_neg hdot, if_neg hdot]
    rcases context with - | group
    · cases hzone : ap.getZone 0 with
      | error e => rfl
      | ok zone =>
        rw [lookup_ok, ok_bind, getGroup_eq_broadcastGroup]
        exact congrArg (fun n => Except.ok ([], some zone.broadcastGroup, n)) before_self.symm
    · dsimp only
      cases hset : group.getDevices rt ap with
      | error e => rfl
      | ok set => exact congrArg (fun n => Except.ok (set, some group, n)) before_self.symm

theorem start_suffix {x : Group × List D × List Char} (h : start rt ap text context = .ok x) :
    x.2.2 <:+ text := by
  rw [start.eq_def] at h
  split_ifs at h
  · cases hzone : ap.getZone 0 with
    | error e => rw [hzone] at h; cases h
    | ok zone =>
      cases hset : zone.broadcastGroup.getDevices rt ap with
      | error e => simp [hzone, hset, bind, Except.bind] at h
      | ok set =>
        simp only [hzone, hset, bind, Except.bind, pure, Except.pure, Except.ok.injEq] at h
        rw [← h]
        exact tail_suffix text
  · rcases context with - | group
    · cases hzone : ap.getZone 0 with
      | error e => rw [hzone] at h; cases h
      | ok zone =>
        rw [hzone] at h
        cases h
        exact suffix_rfl
    · dsimp only at h
      cases hset : group.getDevices rt ap with
      | error e => rw [hset] at h; cases h
      | ok set =>
        rw [hset] at h
        cases h
        exact suffix_rfl

theorem buildSet_eq {setDescription : String} (hsize : setDescription.length < 2 ^ 31) :
    buildSet rt ap setDescription context =
      lookup (start rt ap setDescription.toList context) >>= fun x =>
        (readText rt setDescription.toList x.2.2).run rt ap x.1 [x.2.1] := by
  have htext : setDescription.toList.length < 2 ^ 31 := hsize
  rw [buildSet]
  generalize setDescription.toList = text at htext
  rw [startSet_eq]
  cases hstart : start rt ap text context with
  | error e => rfl
  | ok x => exact parseSet_eq htext (start_suffix hstart)

theorem total_buildSet_iff {setDescription : String} (hsize : setDescription.length < 2 ^ 31) :
    Total (buildSet rt ap setDescription context) ↔
      StopsBeforeCut rt ap setDescription.toList context := by
  rw [buildSet_eq hsize, total_lookup_bind]
  have hrun {x : Group × List D × List Char}
      (hstart : start rt ap setDescription.toList context = .ok x) :
      Total ((readText rt setDescription.toList x.2.2).run rt ap x.1 [x.2.1]) ↔
        ∀ v, (readText rt setDescription.toList x.2.2).ending = .cut v →
          ∃ e, (readText rt setDescription.toList x.2.2).evaluate rt ap x.1 [x.2.1] = .error e :=
    total_run_iff (finishes_readText (start_suffix hstart))
  refine ⟨fun h group set tail v hstart => ?_, fun h x hstart => ?_⟩
  · exact (hrun hstart).mp (h (group, set, tail) hstart) v
  · exact (hrun hstart).mpr fun v => h x.1 x.2.1 x.2.2 v hstart

variable (rt ap)

/-- **Sets from text.** From a text of less than `2 ^ 31` characters, in the context of any group
or zone, a set is built or an exception is thrown, if and only if one of the steps throws in front
of a call that is cut short. -/
theorem buildSet_total_iff (setDescription : String) (hsize : setDescription.length < 2 ^ 31) :
    (∀ context : Option Group, Total (buildSet rt ap setDescription context) ↔
      StopsBeforeCut rt ap setDescription.toList context) ∧
    ∀ context : Option (Zone D), Total (buildSetOfZone rt ap setDescription context) ↔
      StopsBeforeCut rt ap setDescription.toList
        (context.bind fun zone => zone.getGroup groupIDBroadcast) := by
  refine ⟨fun context => total_buildSet_iff hsize, fun context => ?_⟩
  cases context with
  | none => exact total_buildSet_iff hsize
  | some zone => exact total_buildSet_iff hsize

end Total

/-! ## Texts that make the parser fail -/

def noDsuids : Runtime ℕ where
  dsuidFromDsid _ := 0
  dsuidFromString _ := none
  dsuid2str d := toString d

def lampApartment : Apartment ℕ where
  devices := [{ dsid := 1, name := "lamp", zoneID := 0, functionID := 4, groupIds := [1] }]
  zones :=
    [{ id := 0, name := "", devices := [1],
       groups := [⟨0, 0, "broadcast"⟩, ⟨1, 0, "yellow"⟩],
       broadcast := ⟨⟨0, 0, "broadcast"⟩, List.mem_cons_self, rfl⟩ }]

theorem buildSet_subtract :
    buildSet noDsuids lampApartment ".subtract(yellow)" none = .error (.broke .assertion) := by
  decide

/-- Not every text ends in a set or an exception. -/
theorem buildSet_fails :
    ¬ ∀ (setDescription : String) (context : Option Group),
      Total (buildSet noDsuids lampApartment setDescription context) := by
  intro h
  rcases h ".subtract(yellow)" none with ⟨set, hset⟩ | ⟨e, he⟩
  · rw [buildSet_subtract] at hset
    cases hset
  · rw [buildSet_subtract] at he
    cases he

theorem buildSet_total_subtract :
    Total (buildSet noDsuids lampApartment ".subtract(yellow)" none) ↔
      StopsBeforeCut noDsuids lampApartment ".subtract(yellow)".toList none :=
  (buildSet_total_iff noDsuids lampApartment ".subtract(yellow)" (by decide)).1 none

end SetBuilder

end Dss
