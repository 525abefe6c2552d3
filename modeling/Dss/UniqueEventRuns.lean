import Dss.UniqueEvents

/-!
# Unique events in every interleaving

If a push that puts its event into the queue always meets none of the identity there, the queue
never has two. What makes a pending event carry other values than the last push gave it are a time
that is kept, and an event that is in both lists.
-/

namespace Dss

open List Option Function

namespace Event

variable {e other third : Event} {name : String}

theorem isReplacementFor_iff : e.isReplacementFor other = true ↔ e.identity = other.identity := by
  simp only [isReplacementFor, identity, Bool.and_eq_true, beq_iff_eq, Prod.mk.injEq]
  tauto

theorem Agrees.refl : e.Agrees e := fun _ => rfl

theorem identity_mergeInto : (e.mergeInto other).identity = other.identity :=
  rfl

theorem isUnique_mergeInto (h : e.isUnique = true) : (e.mergeInto other).isUnique = true :=
  h

theorem mergeInto_self : e.mergeInto e = e := by
  obtain ⟨name, location, context, time, raisedAt, properties⟩ := e
  cases time with
  | none => rfl
  | some time => rfl

theorem agrees_mergeInto (hidentity : e.identity = other.identity)
    (hrefreshes : e.refreshes other = true) : (e.mergeInto other).Agrees e := by
  obtain ⟨hname, hcontext, hlocation⟩ : e.name = other.name ∧
      e.getPropertyByName "context" = other.getPropertyByName "context" ∧
      e.getPropertyByName "location" = other.getPropertyByName "location" := by
    simpa [identity] using hidentity
  intro name
  by_cases h₁ : name = "name"
  · subst h₁
    exact hname.symm
  by_cases h₂ : name = "location"
  · subst h₂
    exact hlocation.symm
  by_cases h₃ : name = "context"
  · subst h₃
    exact hcontext.symm
  by_cases h₄ : name = "time"
  · subst h₄
    rcases htime : e.time with - | time
    · -- the time of the other event is kept, and has no text
      have hkept : other.getPropertyByName "time" = "" := by
        have hset : e.hasPropertySet "time" = false := by
          show e.time.isSome = false
          rw [htime]
          rfl
        simpa [refreshes, hset] using hrefreshes
      have hnone : e.getPropertyByName "time" = "" := by
        show e.time.getD "" = ""
        rw [htime]
        rfl
      have hmerged : (e.mergeInto other).getPropertyByName "time" =
          other.getPropertyByName "time" := by
        show (if e.time.isSome then _ else other.time).getD "" = other.time.getD ""
        rw [htime]
        rfl
      rw [hmerged, hkept, hnone]
    · show (if e.time.isSome then some (e.time.getD "") else other.time).getD "" = e.time.getD ""
      rw [htime]
      rfl
  · simp only [getPropertyByName, if_neg h₁, if_neg h₂, if_neg h₃, if_neg h₄, mergeInto]

theorem getPropertyByName_unsetIf {n : String} (hn : n ≠ "name") :
    (if e.hasPropertySet n then e.unsetProperty n else e).getPropertyByName name =
      if name = n then "" else e.getPropertyByName name := by
  by_cases hname : name = n
  · subst hname
    rw [if_pos rfl]
    exact getPropertyByName_of_not_set (hasPropertySet_unsetIf hn)
  · split_ifs
    · simp only [unsetProperty, getPropertyByName, Properties.getD]
      split_ifs <;> simp_all [AList.lookup_erase_ne]
    · rfl

theorem getPropertyByName_withoutSchedule : e.withoutSchedule.getPropertyByName name =
    if name = "iCalRRule" ∨ name = "iCalStartTime" ∨ name = "time" then ""
    else e.getPropertyByName name := by
  rw [withoutSchedule, getPropertyByName_unsetIf (by decide), getPropertyByName_unsetIf (by decide),
    getPropertyByName_unsetIf (by decide)]
  split_ifs <;> simp_all

theorem Agrees.withoutSchedule (h : e.Agrees other) :
    e.withoutSchedule.Agrees other.withoutSchedule := by
  intro name
  rw [getPropertyByName_withoutSchedule, getPropertyByName_withoutSchedule, h name]

theorem name_withoutSchedule : e.withoutSchedule.name = e.name := by
  have h := @getPropertyByName_withoutSchedule e "name"
  exact h

theorem identity_withoutSchedule : e.withoutSchedule.identity = e.identity := by
  rw [identity, identity, name_withoutSchedule, getPropertyByName_withoutSchedule,
    getPropertyByName_withoutSchedule, if_neg (by decide), if_neg (by decide)]

theorem isUnique_withoutSchedule (h : e.isUnique = true) : e.withoutSchedule.isUnique = true := by
  rw [isUnique, getPropertyByName_withoutSchedule]
  exact h

end Event

namespace PendingEvents

open Event

variable {T S : Type} {rt : ScheduleRuntime S} {w w' : PendingEvents T S}
  {k : String × String × String} {t : T} {now : ℤ} {o q i : ℕ} {task : PushTask S}

/-! ## At most one -/

theorem eq_of_countP_le_one {A : Type} {p : A → Bool} {l : List A} {a b : A}
    (h : l.countP p ≤ 1) (ha : a ∈ l) (hb : b ∈ l) (hpa : p a = true) (hpb : p b = true) :
    a = b := by
  rw [countP_eq_length_filter] at h
  have ha' : a ∈ l.filter p := mem_filter.mpr ⟨ha, hpa⟩
  have hb' : b ∈ l.filter p := mem_filter.mpr ⟨hb, hpb⟩
  rcases hfilter : l.filter p with - | ⟨c, rest⟩
  · rw [hfilter] at ha'
    cases ha'
  · rw [hfilter] at h ha' hb'
    obtain rfl : rest = [] := length_eq_zero_iff.mp (Nat.le_zero.mp (Nat.le_of_succ_le_succ h))
    rw [mem_singleton.mp ha', mem_singleton.mp hb']

/-! ## The lists -/

def AtMostOne (k : String × String × String) (objects : ℕ → Event) (l : List ℕ) : Prop :=
  (l.countP fun o => (objects o).identity = k) ≤ 1

/-- All events of the list with this identity have the properties of the latest one. -/
def Carries (k : String × String × String) (objects : ℕ → Event) (l : List ℕ)
    (latest : Option Event) : Prop :=
  ∀ o ∈ l, (objects o).identity = k → ∃ e, latest = some e ∧ (objects o).Agrees e

section lists

variable {objects objects' : ℕ → Event} {l l' : List ℕ} {latest : Option Event} {e : Event}

theorem AtMostOne.of_sublist (h : AtMostOne k objects l) (hsub : l'.Sublist l)
    (hidentity : ∀ o ∈ l', (objects' o).identity = (objects o).identity) :
    AtMostOne k objects' l' := by
  refine le_trans (le_of_eq (countP_congr fun o ho => ?_)) (hsub.countP_le.trans h)
  rw [hidentity o ho]

theorem Carries.of_sublist (h : Carries k objects l latest) (hsub : l'.Sublist l)
    (hidentity : ∀ o ∈ l', (objects' o).identity = (objects o).identity)
    (hobjects : ∀ o ∈ l', (objects o).identity = k → objects' o = objects o) :
    Carries k objects' l' latest := by
  intro o ho hk
  rw [hidentity o ho] at hk
  obtain ⟨e, he, hagrees⟩ := h o (hsub.subset ho) hk
  exact ⟨e, he, (hobjects o ho hk).symm ▸ hagrees⟩

theorem AtMostOne.append (h : AtMostOne k objects l)
    (hnone : (objects o).identity = k → ∀ q ∈ l, (objects q).identity ≠ k) :
    AtMostOne k objects (l ++ [o]) := by
  rw [AtMostOne, countP_append, countP_singleton]
  by_cases hk : (objects o).identity = k
  · have hzero : (l.countP fun q => (objects q).identity = k) = 0 :=
      countP_eq_zero.mpr fun q hq => by simpa using hnone hk q hq
    rw [hzero, if_pos (decide_eq_true hk)]
  · rw [if_neg (by simpa using hk)]
    exact h

theorem Carries.append (hnone : ∀ q ∈ l, (objects q).identity ≠ k) :
    Carries k objects (l ++ [o]) (some (objects o)) := by
  intro q hq hk
  rcases mem_append.mp hq with hq | hq
  · exact absurd hk (hnone q hq)
  · rw [mem_singleton.mp hq]
    exact ⟨_, rfl, Agrees.refl⟩

theorem Carries.append_of_ne (h : Carries k objects l latest) (hne : (objects o).identity ≠ k) :
    Carries k objects (l ++ [o]) latest := by
  intro q hq hk
  rcases mem_append.mp hq with hq | hq
  · exact h q hq hk
  · rw [mem_singleton.mp hq] at hk
    exact absurd hk hne

theorem AtMostOne.carries (h : AtMostOne k objects' l) (hq : q ∈ l)
    (hk : (objects' q).identity = k) (hagrees : (objects' q).Agrees e) :
    Carries k objects' l (some e) := by
  intro o ho hko
  obtain rfl := eq_of_countP_le_one h ho hq (decide_eq_true hko) (decide_eq_true hk)
  exact ⟨e, rfl, hagrees⟩

end lists

/-! ## The invariant -/

def Pending (w : PendingEvents T S) (o : ℕ) : Prop :=
  o ∈ w.queue ∨ o ∈ w.runnerEvents ∨ ∃ t, o ∈ (w.threads t).task.events

/-- What runs keep: the law, and who holds the lock of the runner's loop. -/
structure Inv (k : String × String × String) (w : PendingEvents T S) : Prop extends Law k w where
  allocated : ∀ o, w.Pending o → o < w.allocated
  unique : ∀ o, w.Pending o → w.identityOf o = k → (w.objects o).isUnique = true
  locked : ∀ t, (w.threads t).raising ≠ none → w.lockedBy = some t

theorem inv_start (e : Event) : Inv k (start e : PendingEvents T S) := by
  refine ⟨⟨Nat.zero_le _, Nat.zero_le _, ?_, ?_⟩, ?_, ?_, ?_⟩
  · exact fun _ o ho => absurd ho not_mem_nil
  · exact fun o ho => absurd ho not_mem_nil
  · rintro o (ho | ho | ⟨t, ho⟩) <;> cases ho
  · rintro o (ho | ho | ⟨t, ho⟩) <;> cases ho
  · exact fun t ht => absurd rfl ht

theorem Law.of_sublist (h : Law k w) (hobjects : w'.objects = w.objects)
    (hqueue : w'.queue.Sublist w.queue) (hrunner : w'.runnerEvents.Sublist w.runnerEvents)
    (hlatestQueue : w'.latestQueue = w.latestQueue)
    (hlatestRunner : w'.latestRunner = w.latestRunner) (hquiet : w'.Quiet k → w.Quiet k) :
    Law k w' := by
  have hfirst : AtMostOne k w.objects w'.queue :=
    AtMostOne.of_sublist h.queue_le_one hqueue fun _ _ => rfl
  have hsecond : AtMostOne k w.objects w'.runnerEvents :=
    AtMostOne.of_sublist h.runner_le_one hrunner fun _ _ => rfl
  refine ⟨?_, ?_, fun hq => ?_, ?_⟩
  · rw [← hobjects] at hfirst
    exact hfirst
  · rw [← hobjects] at hsecond
    exact hsecond
  · have hcarries : Carries k w.objects w'.queue (w.latestQueue k) :=
      Carries.of_sublist (h.queue_carries (hquiet hq)) hqueue (fun _ _ => rfl) fun _ _ _ => rfl
    rw [← hobjects, ← hlatestQueue] at hcarries
    exact hcarries
  · have hcarries : Carries k w.objects w'.runnerEvents (w.latestRunner k) :=
      Carries.of_sublist h.runner_carries hrunner (fun _ _ => rfl) fun _ _ _ => rfl
    rw [← hobjects, ← hlatestRunner] at hcarries
    exact hcarries

theorem Inv.counter (hinv : Inv k w) (counter : ℕ) :
    Inv k { w with scheduledEventCounter := counter } :=
  ⟨⟨hinv.queue_le_one, hinv.runner_le_one, hinv.queue_carries, hinv.runner_carries⟩,
    hinv.allocated, hinv.unique, hinv.locked⟩

theorem pending_of_task (htask : (w.threads t).task.events = [o]) : w.Pending o :=
  Or.inr (Or.inr ⟨t, by rw [htask]; exact mem_singleton_self o⟩)

theorem objects_merge_self : (w.merge o q).objects q = (w.objects o).mergeInto (w.objects q) :=
  update_self _ _ _

theorem objects_merge {z : ℕ} (hz : z = q → o = q) : (w.merge o q).objects z = w.objects z := by
  by_cases hzq : z = q
  · obtain rfl := hz hzq
    rw [hzq, objects_merge_self, mergeInto_self]
  · exact update_of_ne hzq _ _

theorem identity_merge (z : ℕ) :
    ((w.merge o q).objects z).identity = (w.objects z).identity := by
  by_cases hz : z = q
  · rw [hz, objects_merge_self, identity_mergeInto]
  · rw [objects_merge fun h => absurd h hz]

theorem of_replaced {l : List ℕ}
    (h : (l.find? fun q => (w.objects o).isReplacementFor (w.objects q)) = some q) :
    q ∈ l ∧ w.identityOf o = w.identityOf q := by
  have hreplaced := find?_some h
  exact ⟨mem_of_find?_eq_some h, isReplacementFor_iff.1 hreplaced⟩

theorem unique_merge (hinv : Inv k w) (ho : w.Pending o) (hsame : w.identityOf o = w.identityOf q)
    {z : ℕ} (hz : w.Pending z) (hk : w.identityOf z = k) :
    ((w.merge o q).objects z).isUnique = true := by
  by_cases hzq : z = q
  · rw [hzq, objects_merge_self]
    rw [hzq, ← hsame] at hk
    exact isUnique_mergeInto (hinv.unique o ho hk)
  · rw [objects_merge fun h => absurd h hzq]
    exact hinv.unique z hz hk

theorem atMostOne_merge {l : List ℕ} (h : AtMostOne k w.objects l) :
    AtMostOne k (w.merge o q).objects l :=
  h.of_sublist (List.Sublist.refl _) fun z _ => identity_merge z

/-- The list that has the event that is replaced carries what is recorded of the new one. -/
theorem carries_merge {l : List ℕ} {latest : String × String × String → Option Event}
    (hone : AtMostOne k w.objects l) (hmem : q ∈ l) (hsame : w.identityOf o = w.identityOf q)
    (hrefreshes : w.identityOf o = k → (w.objects o).refreshes (w.objects q) = true)
    (hcarries : w.identityOf o ≠ k → Carries k w.objects l (latest k)) :
    Carries k (w.merge o q).objects l
      (Function.update latest (w.identityOf o) (some (w.objects o)) k) := by
  by_cases hk : w.identityOf o = k
  · rw [hk, update_self]
    refine (atMostOne_merge hone).carries hmem ?_ ?_
    · rw [identity_merge]
      exact hsame.symm.trans hk
    · rw [objects_merge_self]
      exact agrees_mergeInto hsame (hrefreshes hk)
  · rw [update_of_ne (Ne.symm hk)]
    refine (hcarries hk).of_sublist (List.Sublist.refl _) (fun z _ => identity_merge z)
      fun z _ hz => objects_merge fun hzq => ?_
    exact absurd (hsame.trans (hzq ▸ hz)) hk

/-- The other list carries what it did, if it does not have the event that is replaced. -/
theorem carries_merge_other {l : List ℕ} {latest : Option Event}
    (h : Carries k w.objects l latest) (hsame : w.identityOf o = w.identityOf q)
    (hfits : w.identityOf o = k → o = q ∨ q ∉ l) : Carries k (w.merge o q).objects l latest := by
  refine h.of_sublist (List.Sublist.refl _) (fun z _ => identity_merge z)
    fun z hz hkz => objects_merge fun hzq => ?_
  rcases hfits (hsame.trans (hzq ▸ hkz)) with hoq | hnot
  · exact hoq
  · exact absurd (hzq ▸ hz) hnot

theorem carries_record {l : List ℕ} {latest : String × String × String → Option Event}
    (hnone : w.identityOf o = k → ∀ q ∈ l, w.identityOf q ≠ k)
    (hcarries : w.identityOf o ≠ k → Carries k w.objects l (latest k)) :
    Carries k w.objects (l ++ [o])
      (Function.update latest (w.identityOf o) (some (w.objects o)) k) := by
  by_cases hk : w.identityOf o = k
  · rw [hk, update_self]
    exact Carries.append (hnone hk)
  · rw [update_of_ne (Ne.symm hk)]
    exact (hcarries hk).append_of_ne hk

theorem Inv.raising_eq_none (hinv : Inv k w) (hfree : w.lockedBy = none) (t : T) :
    (w.threads t).raising = none := by
  by_contra hsome
  rw [hinv.locked t hsome] at hfree
  cases hfree

theorem objects_takeSchedule_self :
    (w.takeSchedule o).objects o = (w.objects o).withoutSchedule :=
  update_self _ _ _

theorem objects_takeSchedule_of_ne {z : ℕ} (hz : z ≠ o) :
    (w.takeSchedule o).objects z = w.objects z :=
  update_of_ne hz _ _

theorem identity_takeSchedule (z : ℕ) :
    ((w.takeSchedule o).objects z).identity = (w.objects z).identity := by
  by_cases hz : z = o
  · rw [hz, objects_takeSchedule_self, identity_withoutSchedule]
  · rw [objects_takeSchedule_of_ne hz]

theorem isUnique_takeSchedule {z : ℕ} (h : (w.objects z).isUnique = true) :
    ((w.takeSchedule o).objects z).isUnique = true := by
  by_cases hz : z = o
  · rw [hz, objects_takeSchedule_self]
    exact isUnique_withoutSchedule (hz ▸ h)
  · rw [objects_takeSchedule_of_ne hz]
    exact h

theorem Inv.create (hinv : Inv k w) (e : Event) :
    Inv k { w with objects := Function.update w.objects w.allocated e
                   allocated := w.allocated + 1 } := by
  have hobjects : ∀ o, w.Pending o → update w.objects w.allocated e o = w.objects o :=
    fun o ho => update_of_ne (hinv.allocated o ho).ne _ _
  have hqueue := fun o (ho : o ∈ w.queue) => hobjects o (Or.inl ho)
  have hrunner := fun o (ho : o ∈ w.runnerEvents) => hobjects o (Or.inr (Or.inl ho))
  refine ⟨⟨?_, ?_, fun hq => ?_, ?_⟩, fun o ho => ?_, fun o ho hk => ?_, hinv.locked⟩
  · exact AtMostOne.of_sublist hinv.queue_le_one (List.Sublist.refl _)
      fun o ho => congrArg Event.identity (hqueue o ho)
  · exact AtMostOne.of_sublist hinv.runner_le_one (List.Sublist.refl _)
      fun o ho => congrArg Event.identity (hrunner o ho)
  · have hquiet : w.Quiet k := by
      intro t o hraising ho
      have hne := hq t o hraising ho
      rw [identityOf] at hne
      dsimp only at hne
      rwa [hobjects o (Or.inr (Or.inr ⟨t, ho⟩))] at hne
    exact Carries.of_sublist (hinv.queue_carries hquiet) (List.Sublist.refl _)
      (fun o ho => congrArg Event.identity (hqueue o ho)) fun o ho _ => hqueue o ho
  · exact Carries.of_sublist hinv.runner_carries (List.Sublist.refl _)
      (fun o ho => congrArg Event.identity (hrunner o ho)) fun o ho _ => hrunner o ho
  · exact Nat.lt_succ_of_lt (hinv.allocated o ho)
  · have hobject := hobjects o ho
    show (update w.objects w.allocated e o).isUnique = true
    rw [hobject]
    refine hinv.unique o ho ?_
    rw [identityOf, ← hobject]
    exact hk

theorem Inv.takeOut (hinv : Inv k w) {queue : List ℕ} {runner : List (RunnerEntry S)}
    (hqueue : queue.Sublist w.queue) (hrunner : runner.Sublist w.runner) :
    Inv k { w with queue := queue, runner := runner } := by
  have hevents : (runner.map RunnerEntry.event).Sublist w.runnerEvents := hrunner.map _
  have hpending : ∀ o, Pending { w with queue := queue, runner := runner } o → w.Pending o := by
    rintro o (ho | ho | ho)
    · exact Or.inl (hqueue.subset ho)
    · exact Or.inr (Or.inl (hevents.subset ho))
    · exact Or.inr (Or.inr ho)
  refine ⟨hinv.toLaw.of_sublist rfl hqueue hevents rfl rfl fun hq => hq, ?_, ?_, hinv.locked⟩
  · exact fun o ho => hinv.allocated o (hpending o ho)
  · exact fun o ho hk => hinv.unique o (hpending o ho) hk

/-! ## What fits -/

theorem fits_add {schedule : Schedule S} {id : String} {throws : Bool}
    (htask : (w.threads t).task = .adding o schedule id) (h : fits k w (.add t throws) = true)
    (hk : w.identityOf o = k) (hfound : w.replacedInRunner o = some q) :
    (w.objects o).refreshes (w.objects q) = true ∧ (o = q ∨ q ∉ w.queue) := by
  simpa [fits, htask, hk, hfound] using h

theorem fits_check (htask : (w.threads t).task = .checking o) (h : fits k w (.check t) = true)
    (hk : w.identityOf o = k) (hfound : w.replacedInQueue o = some q) :
    (w.objects o).refreshes (w.objects q) = true ∧ (o = q ∨ q ∉ w.runnerEvents) := by
  simpa [fits, htask, hk, hfound] using h

theorem fits_insert (htask : (w.threads t).task = .inserting o)
    (h : fits k w (.insert t) = true) (hk : w.identityOf o = k) :
    ∀ q ∈ w.queue, w.identityOf q ≠ k := by
  simpa [fits, htask, hk] using h

/-! ## Threads -/

variable [DecidableEq T]

theorem threads_setTask_self : (w.setTask t task).threads t = { w.threads t with task := task } :=
  update_self _ _ _

theorem threads_setTask_of_ne {u : T} (hu : u ≠ t) :
    (w.setTask t task).threads u = w.threads u :=
  update_of_ne hu _ _

theorem raising_setTask (u : T) :
    ((w.setTask t task).threads u).raising = (w.threads u).raising := by
  by_cases hu : u = t
  · rw [hu, threads_setTask_self]
  · rw [threads_setTask_of_ne hu]

theorem pending_setTask (h : (w.setTask t task).Pending o) : w.Pending o ∨ o ∈ task.events := by
  rcases h with hqueue | hrunner | ⟨u, hu⟩
  · exact Or.inl (Or.inl hqueue)
  · exact Or.inl (Or.inr (Or.inl hrunner))
  · by_cases hut : u = t
    · rw [hut, threads_setTask_self] at hu
      exact Or.inr hu
    · rw [threads_setTask_of_ne hut] at hu
      exact Or.inl (Or.inr (Or.inr ⟨u, hu⟩))

theorem quiet_of_quiet_setTask (h : (w.setTask t task).Quiet k)
    (ht : (w.threads t).raising = none ∨ ∀ o ∈ (w.threads t).task.events, w.identityOf o ≠ k) :
    w.Quiet k := by
  intro u o hraising ho
  by_cases hut : u = t
  · subst hut
    rcases ht with hnone | hother
    · exact absurd hnone hraising
    · exact hother o ho
  · exact h u o (by rw [raising_setTask]; exact hraising)
      (by rw [threads_setTask_of_ne hut]; exact ho)

theorem Inv.setTask (hinv : Inv k w) (hevents : ∀ o ∈ task.events, o < w.allocated ∧
      (w.identityOf o = k → (w.objects o).isUnique = true))
    (ht : (w.threads t).raising = none ∨ ∀ o ∈ (w.threads t).task.events, w.identityOf o ≠ k ∨
      o ∈ task.events) :
    Inv k (w.setTask t task) := by
  have hquiet : (w.setTask t task).Quiet k → w.Quiet k := by
    intro hq u o hraising ho
    by_cases hut : u = t
    · subst hut
      rcases ht with hnone | hother
      · exact absurd hnone hraising
      · rcases hother o ho with hne | hmem
        · exact hne
        · exact hq u o (by rw [raising_setTask]; exact hraising)
            (by rw [threads_setTask_self]; exact hmem)
    · exact hq u o (by rw [raising_setTask]; exact hraising)
        (by rw [threads_setTask_of_ne hut]; exact ho)
  refine ⟨hinv.toLaw.of_sublist rfl (List.Sublist.refl _) (List.Sublist.refl _) rfl rfl hquiet,
    ?_, ?_, ?_⟩
  · intro o ho
    rcases pending_setTask ho with ho | ho
    · exact hinv.allocated o ho
    · exact (hevents o ho).1
  · intro o ho hk
    rcases pending_setTask ho with ho | ho
    · exact hinv.unique o ho hk
    · exact (hevents o ho).2 hk
  · intro u hu
    rw [raising_setTask] at hu
    exact hinv.locked u hu

theorem startPush_eq (rt : ScheduleRuntime S) (w : PendingEvents T S) (t : T) (now : ℤ) (o : ℕ) :
    ∃ counter task, task.events = [o] ∧ w.startPush rt t now o =
      PendingEvents.setTask { w with scheduledEventCounter := counter } t task := by
  rw [startPush]
  rcases EventRunner.scheduleFromEvent rt now (w.objects o) with - | schedule
  · refine ⟨w.scheduledEventCounter, _, ?_, rfl⟩
    split_ifs <;> rfl
  · exact ⟨w.scheduledEventCounter + 1, _, rfl, rfl⟩

/-! ## Replacing an event -/

theorem pending_of_idle (h : (w.setTask t .idle).Pending o) : w.Pending o := by
  rcases pending_setTask h with ho | ho
  · exact ho
  · cases ho

theorem quiet_of_merge {latestQueue latestRunner : String × String × String → Option Event}
    (hquiet : Quiet k (PendingEvents.setTask { w.merge o q with
      latestQueue := latestQueue, latestRunner := latestRunner } t task)) :
    (w.setTask t task).Quiet k := by
  intro u z hraising hz
  have hne := hquiet u z hraising hz
  rwa [identityOf, setTask, identity_merge] at hne

theorem Inv.mergeQueue (hinv : Inv k w) (htask : (w.threads t).task = .checking o)
    (hfound : w.replacedInQueue o = some q)
    (hfits : w.identityOf o = k → (w.objects o).refreshes (w.objects q) = true ∧
      (o = q ∨ q ∉ w.runnerEvents)) :
    Inv k (((w.recordQueue o).merge o q).setTask t .idle) := by
  obtain ⟨hmem, hsame⟩ := of_replaced hfound
  have ho : w.Pending o := pending_of_task (by rw [htask]; rfl)
  refine ⟨⟨atMostOne_merge hinv.queue_le_one, atMostOne_merge hinv.runner_le_one, fun hq => ?_, ?_⟩,
    ?_, ?_, ?_⟩
  · refine carries_merge hinv.queue_le_one hmem hsame (fun hk => (hfits hk).1) fun hk =>
      hinv.queue_carries (quiet_of_quiet_setTask (quiet_of_merge hq) (Or.inr fun z hz => ?_))
    rw [htask] at hz
    rw [mem_singleton.mp hz]
    exact hk
  · exact carries_merge_other hinv.runner_carries hsame fun hk => (hfits hk).2
  · exact fun z hz => hinv.allocated z (pending_of_idle hz)
  · intro z hz hk
    exact unique_merge hinv ho hsame (pending_of_idle hz) ((identity_merge z).symm.trans hk)
  · intro u hu
    rw [raising_setTask] at hu
    exact hinv.locked u hu

theorem Inv.mergeRunner (hinv : Inv k w) {schedule : Schedule S} {id : String}
    (htask : (w.threads t).task = .adding o schedule id) (hfree : w.lockedBy = none)
    (hfound : w.replacedInRunner o = some q)
    (hfits : w.identityOf o = k → (w.objects o).refreshes (w.objects q) = true ∧
      (o = q ∨ q ∉ w.queue)) :
    Inv k (((w.recordRunner o).merge o q).setTask t .idle) := by
  obtain ⟨hmem, hsame⟩ := of_replaced hfound
  have ho : w.Pending o := pending_of_task (by rw [htask]; rfl)
  refine ⟨⟨atMostOne_merge hinv.queue_le_one, atMostOne_merge hinv.runner_le_one, fun hq => ?_, ?_⟩,
    ?_, ?_, ?_⟩
  · exact carries_merge_other (hinv.queue_carries (quiet_of_quiet_setTask (quiet_of_merge hq)
      (Or.inl (hinv.raising_eq_none hfree t)))) hsame fun hk => (hfits hk).2
  · exact carries_merge hinv.runner_le_one hmem hsame (fun hk => (hfits hk).1)
      fun _ => hinv.runner_carries
  · exact fun z hz => hinv.allocated z (pending_of_idle hz)
  · intro z hz hk
    exact unique_merge hinv ho hsame (pending_of_idle hz) ((identity_merge z).symm.trans hk)
  · intro u hu
    rw [raising_setTask] at hu
    exact hinv.locked u hu

/-! ## Putting in an event -/

theorem Inv.insertQueue (hinv : Inv k w) (htask : (w.threads t).task = .inserting o)
    (hfits : w.identityOf o = k → ∀ q ∈ w.queue, w.identityOf q ≠ k) :
    Inv k (w.insertQueue t o) := by
  have ho : w.Pending o := pending_of_task (by rw [htask]; rfl)
  have hpending : ∀ z, (w.insertQueue t o).Pending z → w.Pending z := by
    intro z hz
    rcases pending_setTask hz with (hz | hz | hz) | hz
    · rcases mem_append.mp hz with hz | hz
      · exact Or.inl hz
      · rw [mem_singleton.mp hz]
        exact ho
    · exact Or.inr (Or.inl hz)
    · exact Or.inr (Or.inr hz)
    · cases hz
  refine ⟨⟨AtMostOne.append hinv.queue_le_one hfits, hinv.runner_le_one, fun hq => ?_,
    hinv.runner_carries⟩, ?_, ?_, ?_⟩
  · have hfirst : (w.setTask t .idle).Quiet k := hq
    refine carries_record hfits fun hk =>
      hinv.queue_carries (quiet_of_quiet_setTask hfirst (Or.inr fun z hz => ?_))
    rw [htask] at hz
    rw [mem_singleton.mp hz]
    exact hk
  · exact fun z hz => hinv.allocated z (hpending z hz)
  · exact fun z hz hk => hinv.unique z (hpending z hz) hk
  · intro u hu
    have hraising : ((w.setTask t .idle).threads u).raising ≠ none := hu
    rw [raising_setTask] at hraising
    exact hinv.locked u hraising

theorem Inv.appendRunner (hinv : Inv k w) {schedule : Schedule S} {id : String}
    (htask : (w.threads t).task = .adding o schedule id) (hfree : w.lockedBy = none)
    (hnone : w.identityOf o = k → ∀ q ∈ w.runnerEvents, w.identityOf q ≠ k) :
    Inv k (PendingEvents.setTask { w.recordRunner o with
      runner := w.runner ++ [{ id := id, event := o, schedule := schedule }] } t .idle) := by
  have ho : w.Pending o := pending_of_task (by rw [htask]; rfl)
  set w' : PendingEvents T S := PendingEvents.setTask { w.recordRunner o with
    runner := w.runner ++ [{ id := id, event := o, schedule := schedule }] } t .idle with hdef
  have hevents : w'.runnerEvents = w.runnerEvents ++ [o] := by
    show (w.runner ++ [_]).map RunnerEntry.event = _
    rw [map_append]
    rfl
  have hpending : ∀ z, w'.Pending z → w.Pending z := by
    intro z hz
    rcases pending_setTask hz with (hz | hz | hz) | hz
    · exact Or.inl hz
    · have hz' : z ∈ w'.runnerEvents := hz
      rw [hevents] at hz'
      rcases mem_append.mp hz' with hz | hz
      · exact Or.inr (Or.inl hz)
      · rw [mem_singleton.mp hz]
        exact ho
    · exact Or.inr (Or.inr hz)
    · cases hz
  refine ⟨⟨hinv.queue_le_one, ?_, fun hq => ?_, ?_⟩, ?_, ?_, ?_⟩
  · rw [hevents]
    exact AtMostOne.append hinv.runner_le_one hnone
  · have hfirst : (w.setTask t .idle).Quiet k := hq
    exact hinv.queue_carries
      (quiet_of_quiet_setTask hfirst (Or.inl (hinv.raising_eq_none hfree t)))
  · rw [hevents]
    exact carries_record hnone fun _ => hinv.runner_carries
  · exact fun z hz => hinv.allocated z (hpending z hz)
  · exact fun z hz hk => hinv.unique z (hpending z hz) hk
  · intro u hu
    have hraising' : ((w.setTask t .idle).threads u).raising ≠ none := hu
    rw [raising_setTask] at hraising'
    exact hinv.locked u hraising'

theorem Inv.addEvent (hinv : Inv k w) {schedule : Schedule S} {id : String} {throws : Bool}
    (htask : (w.threads t).task = .adding o schedule id) (hfree : w.lockedBy = none)
    (hfits : w.identityOf o = k → ∀ q, w.replacedInRunner o = some q →
      (w.objects o).refreshes (w.objects q) = true ∧ (o = q ∨ q ∉ w.queue)) :
    Inv k (w.addEvent t o schedule id throws) := by
  have ho : w.Pending o := pending_of_task (by rw [htask]; rfl)
  rw [PendingEvents.addEvent]
  rcases hreplaced : (if (w.objects o).isUnique then w.replacedInRunner o else none) with - | q
  · cases throws with
    | true =>
      exact hinv.setTask (fun z hz => by cases hz) (Or.inl (hinv.raising_eq_none hfree t))
    | false =>
      refine hinv.appendRunner htask hfree fun hk q hq hkq => ?_
      rw [if_pos (hinv.unique o ho hk)] at hreplaced
      have hnot := find?_eq_none.mp hreplaced q hq
      exact hnot (isReplacementFor_iff.2 (hk.trans hkq.symm))
  · have hfound : w.replacedInRunner o = some q := by
      split_ifs at hreplaced
      exact hreplaced
    exact hinv.mergeRunner htask hfree hfound fun hk => hfits hk q hfound

/-! ## Pushing and raising -/

theorem Inv.startPush (hinv : Inv k w) (hidle : (w.threads t).task = .idle)
    (ho : o < w.allocated) (hmarked : w.identityOf o = k → (w.objects o).isUnique = true) :
    Inv k (w.startPush rt t now o) := by
  obtain ⟨counter, task, hevents, heq⟩ := startPush_eq rt w t now o
  rw [heq]
  refine (hinv.counter counter).setTask (fun z hz => ?_) (Or.inr fun z hz => ?_)
  · rw [hevents] at hz
    rw [mem_singleton.mp hz]
    exact ⟨ho, hmarked⟩
  · have hz' : z ∈ (w.threads t).task.events := hz
    rw [hidle] at hz'
    cases hz'

theorem runnerEvents_advance {x : RunnerEntry S} {schedule : Schedule S}
    (hx : w.runner[i]? = some x) :
    (w.advance t now i x schedule).runnerEvents = w.runnerEvents := by
  apply ext_getElem?
  intro j
  simp only [runnerEvents, PendingEvents.advance, getElem?_map]
  by_cases hj : i = j
  · subst hj
    have hi : i < w.runner.length := (List.getElem?_eq_some_iff.mp hx).1
    rw [getElem?_set_self hi, hx]
    rfl
  · rw [getElem?_set_ne hj]

theorem threads_advance_self {x : RunnerEntry S} {schedule : Schedule S} :
    (w.advance t now i x schedule).threads t =
      { w.threads t with raising := some (now, i + 1) } :=
  update_self _ _ _

theorem task_advance {x : RunnerEntry S} {schedule : Schedule S} (u : T) :
    ((w.advance t now i x schedule).threads u).task = (w.threads u).task := by
  by_cases hu : u = t
  · rw [hu, threads_advance_self]
  · exact congrArg EventThread.task (update_of_ne hu _ _)

theorem raising_advance {x : RunnerEntry S} {schedule : Schedule S} {u : T}
    (ht : (w.threads t).raising ≠ none) :
    ((w.advance t now i x schedule).threads u).raising ≠ none ↔ (w.threads u).raising ≠ none := by
  by_cases hu : u = t
  · rw [hu, threads_advance_self]
    exact iff_of_true (some_ne_none _) ht
  · rw [PendingEvents.advance]
    dsimp only
    rw [update_of_ne hu]

theorem Inv.advance (hinv : Inv k w) {x : RunnerEntry S} {schedule : Schedule S}
    (hx : w.runner[i]? = some x) (ht : (w.threads t).raising ≠ none) :
    Inv k (w.advance t now i x schedule) := by
  have hrunner : (w.advance t now i x schedule).runnerEvents = w.runnerEvents :=
    runnerEvents_advance hx
  have hpending : ∀ o, (w.advance t now i x schedule).Pending o → w.Pending o := by
    rintro o (ho | ho | ⟨u, ho⟩)
    · exact Or.inl ho
    · rw [hrunner] at ho
      exact Or.inr (Or.inl ho)
    · rw [task_advance] at ho
      exact Or.inr (Or.inr ⟨u, ho⟩)
  refine ⟨hinv.toLaw.of_sublist rfl (List.Sublist.refl _) ?_ rfl rfl fun hq u o hu ho => ?_,
    ?_, ?_, ?_⟩
  · rw [hrunner]
  · exact hq u o ((raising_advance ht).mpr hu) (by rw [task_advance]; exact ho)
  · exact fun o ho => hinv.allocated o (hpending o ho)
  · exact fun o ho hk => hinv.unique o (hpending o ho) hk
  · exact fun u hu => hinv.locked u ((raising_advance ht).mp hu)

theorem Inv.release (hinv : Inv k w) (ht : (w.threads t).raising ≠ none)
    (hidle : (w.threads t).task = .idle) : Inv k (w.release t) := by
  have htask : ∀ u, ((w.release t).threads u).task = (w.threads u).task := by
    intro u
    by_cases hu : u = t
    · rw [hu, PendingEvents.release]
      dsimp only
      rw [update_self]
    · exact congrArg EventThread.task (update_of_ne hu _ _)
  have hraising : ∀ u, ((w.release t).threads u).raising ≠ none →
      u ≠ t ∧ (w.threads u).raising ≠ none := by
    intro u hu
    by_cases hut : u = t
    · rw [hut, PendingEvents.release] at hu
      dsimp only at hu
      rw [update_self] at hu
      exact absurd rfl hu
    · rw [PendingEvents.release] at hu
      dsimp only at hu
      rw [update_of_ne hut] at hu
      exact ⟨hut, hu⟩
  have hpending : ∀ o, (w.release t).Pending o → w.Pending o := by
    rintro o (ho | ho | ⟨u, ho⟩)
    · exact Or.inl ho
    · exact Or.inr (Or.inl ho)
    · rw [htask] at ho
      exact Or.inr (Or.inr ⟨u, ho⟩)
  refine ⟨hinv.toLaw.of_sublist rfl (List.Sublist.refl _) (List.Sublist.refl _) rfl rfl
    fun hq u o hu ho => ?_, ?_, ?_, ?_⟩
  · by_cases hut : u = t
    · rw [hut, hidle] at ho
      cases ho
    · refine hq u o ?_ (by rw [htask]; exact ho)
      rw [PendingEvents.release]
      dsimp only
      rw [update_of_ne hut]
      exact hu
  · exact fun o ho => hinv.allocated o (hpending o ho)
  · exact fun o ho hk => hinv.unique o (hpending o ho) hk
  · intro u hu
    obtain ⟨hne, hu⟩ := hraising u hu
    have hsame := (hinv.locked u hu).symm.trans (hinv.locked t ht)
    exact absurd (some.inj hsame) hne

/-- **A due event is pushed** without its schedule. If it is of the identity, it is the only one
of the runner; what the queue has of the identity is put right by the push that follows. -/
theorem Inv.pushDue (hinv : Inv k w) (ho : o ∈ w.runnerEvents)
    (hraising : (w.threads t).raising ≠ none) (hidle : (w.threads t).task = .idle)
    (hevents : task.events = [o]) : Inv k ((w.takeSchedule o).setTask t task) := by
  have hpending : ∀ z, ((w.takeSchedule o).setTask t task).Pending z → w.Pending z := by
    intro z hz
    rcases pending_setTask hz with hz | hz
    · exact hz
    · rw [hevents] at hz
      rw [mem_singleton.mp hz]
      exact Or.inr (Or.inl ho)
  have hrunner : AtMostOne k (w.takeSchedule o).objects w.runnerEvents :=
    AtMostOne.of_sublist hinv.runner_le_one (List.Sublist.refl _)
      fun z _ => identity_takeSchedule z
  refine ⟨⟨?_, hrunner, fun hq => ?_, ?_⟩, ?_, ?_, ?_⟩
  · exact AtMostOne.of_sublist hinv.queue_le_one (List.Sublist.refl _)
      fun z _ => identity_takeSchedule z
  · have hk : w.identityOf o ≠ k := by
      have hne := hq t o (by rw [raising_setTask]; exact hraising)
        (by rw [threads_setTask_self, hevents]; exact mem_singleton_self o)
      rwa [identityOf, PendingEvents.setTask, identity_takeSchedule] at hne
    have hquiet : w.Quiet k := by
      intro u z hu hz
      by_cases hut : u = t
      · rw [hut, hidle] at hz
        cases hz
      · have hne := hq u z (by rw [raising_setTask]; exact hu)
          (by rw [threads_setTask_of_ne hut]; exact hz)
        rwa [identityOf, PendingEvents.setTask, identity_takeSchedule] at hne
    have hcarries : Carries k (w.takeSchedule o).objects w.queue (w.latestQueue k) := by
      refine Carries.of_sublist (hinv.queue_carries hquiet) (List.Sublist.refl _)
        (fun z _ => identity_takeSchedule z) fun z _ hz => objects_takeSchedule_of_ne fun hzo => ?_
      exact hk (hzo ▸ hz)
    exact hcarries
  · by_cases hk : w.identityOf o = k
    · obtain ⟨e, he, hagrees⟩ := hinv.runner_carries o ho hk
      have hlatest : (w.takeSchedule o).latestRunner k = some e.withoutSchedule := by
        rw [takeSchedule, hk]
        dsimp only
        rw [update_self, he]
        rfl
      have hcarries : Carries k (w.takeSchedule o).objects w.runnerEvents
          (some e.withoutSchedule) := by
        refine hrunner.carries ho ?_ ?_
        · rw [identity_takeSchedule]
          exact hk
        · rw [objects_takeSchedule_self]
          exact hagrees.withoutSchedule
      rw [← hlatest] at hcarries
      exact hcarries
    · have hlatest : (w.takeSchedule o).latestRunner k = w.latestRunner k :=
        update_of_ne (Ne.symm hk) _ _
      have hcarries : Carries k (w.takeSchedule o).objects w.runnerEvents (w.latestRunner k) := by
        refine Carries.of_sublist hinv.runner_carries (List.Sublist.refl _)
          (fun z _ => identity_takeSchedule z)
          fun z _ hz => objects_takeSchedule_of_ne fun hzo => ?_
        exact hk (hzo ▸ hz)
      rw [← hlatest] at hcarries
      exact hcarries
  · exact fun z hz => hinv.allocated z (hpending z hz)
  · intro z hz hk
    exact isUnique_takeSchedule
      (hinv.unique z (hpending z hz) ((identity_takeSchedule z).symm.trans hk))
  · intro u hu
    rw [raising_setTask] at hu
    exact hinv.locked u hu

theorem Inv.visit (hinv : Inv k w) {throws : Bool} (hraising : (w.threads t).raising ≠ none)
    (hidle : (w.threads t).task = .idle) : Inv k (w.visit rt t now i throws) := by
  rw [PendingEvents.visit]
  rcases hx : w.runner[i]? with - | x
  · exact hinv.release hraising hidle
  dsimp only
  have hadvance : ∀ schedule, Inv k (w.advance t now i x schedule) := fun schedule =>
    hinv.advance hx hraising
  have hidle' : ∀ schedule, ((w.advance t now i x schedule).threads t).task = .idle :=
    fun schedule => (task_advance t).trans hidle
  have hraising' : ∀ schedule, ((w.advance t now i x schedule).threads t).raising ≠ none :=
    fun schedule => (raising_advance hraising).mpr hraising
  by_cases hnone : (x.schedule.getNextOccurence rt now).1 = 0
  · rw [if_pos hnone]
    exact hadvance _
  rw [if_neg hnone]
  cases throws with
  | true => exact (hadvance _).release (hraising' _) (hidle' _)
  | false =>
    by_cases hdue : DateTime.difference (x.schedule.getNextOccurence rt now).1 now ≤ 0
    · rw [if_pos hdue]
      -- the entry is the one that the loop has come to, whatever its schedule
      set schedule := if (x.schedule.getNextOccurence rt now).2.hasRecurrence then _ else _
      obtain ⟨counter, task, hevents, heq⟩ :=
        startPush_eq rt ((w.advance t now i x schedule).takeSchedule x.event) t now x.event
      rw [heq]
      have hmem : x.event ∈ (w.advance t now i x schedule).runnerEvents := by
        rw [runnerEvents_advance hx]
        exact mem_map_of_mem (mem_of_getElem? hx)
      exact ((hadvance schedule).pushDue hmem (hraising' _) (hidle' _) hevents).counter counter
    · rw [if_neg hdue]
      exact hadvance _

/-! ## The other actions -/

theorem Inv.raise (hinv : Inv k w) (hidle : (w.threads t).task = .idle)
    (hfree : w.lockedBy = none) :
    Inv k { w with
      lockedBy := some t
      threads := Function.update w.threads t { task := .idle, raising := some (now, i) } } := by
  have hnobody := hinv.raising_eq_none hfree
  have htask : ∀ u, (update w.threads t
      { task := .idle, raising := some (now, i) } u).task = (w.threads u).task := by
    intro u
    by_cases hu : u = t
    · rw [hu, update_self, hidle]
    · rw [update_of_ne hu]
  have hpending : ∀ o, Pending { w with
      lockedBy := some t
      threads := update w.threads t { task := .idle, raising := some (now, i) } } o →
      w.Pending o := by
    rintro o (ho | ho | ⟨u, ho⟩)
    · exact Or.inl ho
    · exact Or.inr (Or.inl ho)
    · refine Or.inr (Or.inr ⟨u, ?_⟩)
      rw [← htask u]
      exact ho
  refine ⟨hinv.toLaw.of_sublist rfl (List.Sublist.refl _) (List.Sublist.refl _) rfl rfl
    fun _ u o hu _ => absurd (hnobody u) hu, ?_, ?_, ?_⟩
  · exact fun o ho => hinv.allocated o (hpending o ho)
  · exact fun o ho hk => hinv.unique o (hpending o ho) hk
  · intro u hu
    by_cases hut : u = t
    · rw [hut]
    · have hraising : (w.threads u).raising ≠ none := by
        dsimp only at hu
        rwa [update_of_ne hut] at hu
      exact absurd (hnobody u) hraising

/-! ## Runs -/

theorem Inv.step (hinv : Inv k w) {a : Action T} (ha : Meets k a w)
    (hstep : w.step rt a = some w') : Inv k w' := by
  obtain ⟨hmarked, hfits⟩ := ha
  cases a with
  | create e =>
    obtain rfl := some.inj hstep
    exact hinv.create e
  | push t now o =>
    rw [PendingEvents.step] at hstep
    split at hstep
    case h_1 hidle _ =>
      split_ifs at hstep with ho
      obtain rfl := some.inj hstep
      exact hinv.startPush hidle ho (of_decide_eq_true hmarked)
    case h_2 => cases hstep
  | add t throws =>
    rw [PendingEvents.step] at hstep
    split at hstep
    case h_1 o schedule id htask =>
      split_ifs at hstep with hfree
      obtain rfl := some.inj hstep
      exact hinv.addEvent htask (isNone_iff_eq_none.mp hfree)
        fun hk q hfound => fits_add htask hfits hk hfound
    case h_2 => cases hstep
  | check t =>
    rw [PendingEvents.step] at hstep
    split at hstep
    case h_1 o htask =>
      obtain rfl := some.inj hstep
      rw [checkQueue]
      rcases hfound : w.replacedInQueue o with - | q
      · -- nothing is replaced, and the thread goes on with the same event
        have ho : w.Pending o := pending_of_task (by rw [htask]; rfl)
        refine hinv.setTask (fun z hz => ?_) (Or.inr fun z hz => Or.inr ?_)
        · rw [mem_singleton.mp hz]
          exact ⟨hinv.allocated o ho, hinv.unique o ho⟩
        · rw [htask] at hz
          exact hz
      · exact hinv.mergeQueue htask hfound fun hk => fits_check htask hfits hk hfound
    case h_2 => cases hstep
  | insert t =>
    rw [PendingEvents.step] at hstep
    split at hstep
    case h_1 o htask =>
      obtain rfl := some.inj hstep
      exact hinv.insertQueue htask (fits_insert htask hfits)
    case h_2 => cases hstep
  | pop =>
    obtain rfl := some.inj hstep
    exact hinv.takeOut (tail_sublist _) (List.Sublist.refl _)
  | remove id =>
    rw [PendingEvents.step] at hstep
    split_ifs at hstep
    obtain rfl := some.inj hstep
    exact hinv.takeOut (List.Sublist.refl _) (eraseP_sublist)
  | raise t now =>
    rw [PendingEvents.step] at hstep
    split at hstep
    case h_1 hidle _ =>
      split_ifs at hstep with hfree
      obtain rfl := some.inj hstep
      exact hinv.raise hidle (isNone_iff_eq_none.mp hfree)
    case h_2 => cases hstep
  | visit t throws =>
    rw [PendingEvents.step] at hstep
    split at hstep
    case h_1 now i hidle hraising =>
      obtain rfl := some.inj hstep
      exact hinv.visit (by rw [hraising]; exact some_ne_none _) hidle
    case h_2 => cases hstep

open Transition

/-- **Unique events.** Whatever threads do in whatever order, if each event of an identity is
unique when it is pushed, and fits where it is put, then the queue and the runner have at most one
of it, with the values that were pushed there last. -/
theorem law_of_fitting_run (rt : ScheduleRuntime S) (k : String × String × String) (e : Event)
    {actions : List (Action T)} {w : PendingEvents T S}
    (hrun : Run (Guarded (Meets k) fun a w w' => w.step rt a = some w') (start e) actions w) :
    Law k w := by
  have hinv : Inv k w := Run.invariant (inv_start e)
    (fun _ _ _ hinv hstep => hinv.step hstep.1 hstep.2) hrun
  exact hinv.toLaw

def noTimes : ScheduleRuntime Unit where
  parseRFC2445 := fun _ => none
  dateToString := fun _ => ""
  iCalSchedule := fun _ _ _ => ()
  getNextOccurence := fun _ _ => (0, ())
  leapAdjust := fun _ _ => ()

def uniqueEvent (value : String) : Event :=
  (({ name := "blink" : Event }.setProperty "unique" "1").setProperty "value" value)

/-- A push behind another one replaces its event. -/
theorem law_of_fitting_run_replaced :
    ∃ w : PendingEvents Bool Unit,
      Run (Guarded (Meets ("blink", "", "")) fun a w w' => w.step noTimes a = some w')
        (start (uniqueEvent "0"))
        [.create (uniqueEvent "1"), .create (uniqueEvent "2"), .push false 10 0, .check false,
          .insert false, .push true 11 1, .check true] w ∧
      w.queue = [0] ∧ (w.objects 0).getPropertyByName "value" = "2" ∧ Law ("blink", "", "") w := by
  have hrun : Run (Guarded (Meets ("blink", "", ""))
      fun a (w w' : PendingEvents Bool Unit) => w.step noTimes a = some w')
      (start (uniqueEvent "0"))
      [.create (uniqueEvent "1"), .create (uniqueEvent "2"), .push false 10 0, .check false,
        .insert false, .push true 11 1, .check true] _ := Run.of_execute rfl
  exact ⟨_, hrun, rfl, rfl, law_of_fitting_run noTimes _ _ hrun⟩

/-- Two threads that both have looked before either puts its event into the queue. -/
theorem unique_law_fails :
    ¬ ∀ (rt : ScheduleRuntime Unit) (k : String × String × String) (e : Event)
        (actions : List (Action Bool)) (w : PendingEvents Bool Unit),
      Run (Guarded (fun a w => marked k w a = true) fun a w w' => w.step rt a = some w')
        (start e) actions w → Law k w := by
  intro h
  have hrun : Run (Guarded (fun a w => marked ("blink", "", "") w a = true)
      fun a (w w' : PendingEvents Bool Unit) => w.step noTimes a = some w')
      (start (uniqueEvent "0"))
      [.create (uniqueEvent "1"), .create (uniqueEvent "2"), .push false 10 0, .push true 11 1,
        .check false, .check true, .insert false, .insert true] _ := Run.of_execute rfl
  have htwo := (h noTimes _ _ _ _ hrun).queue_le_one
  exact absurd htwo (by decide)

end PendingEvents

end Dss
