import Dss.ActionExecute

/-!
# The events that come back

An event for a delay differs from those for the other delays in the delay and the time only, and
replaces them if the events are unique. So of unique events only one is scheduled: it comes back
at the time of the first, with the delay of the last.
-/

namespace Dss

open List

namespace Event

variable {e : Event} {name key value : String}

theorem lookup_setProperty_of_ne (h : key ≠ name) :
    (e.setProperty name value).properties.lookup key = e.properties.lookup key := by
  rw [setProperty]
  split_ifs
  · rfl
  · rfl
  · rfl
  · rfl
  · exact AList.lookup_insert_ne h

def Kept (name : String) : Prop :=
  name ≠ "" ∧ name ≠ "location" ∧ name ≠ "context" ∧ name ≠ "time"

instance : Decidable (Kept name) := inferInstanceAs (Decidable (_ ∧ _))

theorem lookup_setProperty_self (h : Kept name) :
    (e.setProperty name value).properties.lookup name = some value := by
  rw [setProperty, if_neg h.1, if_neg h.2.1, if_neg h.2.2.1, if_neg h.2.2.2]
  exact AList.lookup_insert _

theorem lookup_unsetProperty_of_ne (h : key ≠ name) :
    (e.unsetProperty name).properties.lookup key = e.properties.lookup key := by
  rw [unsetProperty]
  split_ifs
  · rfl
  · rfl
  · rfl
  · exact AList.lookup_erase_ne h

theorem lookup_withoutSchedule (htime : key ≠ "time") (hstart : key ≠ "iCalStartTime")
    (hrule : key ≠ "iCalRRule") :
    e.withoutSchedule.properties.lookup key = e.properties.lookup key := by
  have hunset : ∀ (e : Event) (name : String), key ≠ name →
      (if e.hasPropertySet name then e.unsetProperty name else e).properties.lookup key =
        e.properties.lookup key := by
    intro e name h
    split_ifs
    · exact lookup_unsetProperty_of_ne h
    · rfl
  rw [withoutSchedule, hunset _ _ hrule, hunset _ _ hstart, hunset _ _ htime]

end Event

namespace ActionExecute

open SystemTrigger Event

variable {S : Type} {rt : ActionRuntime S} {properties : Properties} {path key : String}
  {delay other start : ℤ} {r : EventRunner S} {e : Event}

/-! ## Fragments -/

theorem lookup_foldl_setProperty (hkey : Kept key) {l : List (Sigma fun _ : String => String)}
    (hl : l.NodupKeys) :
    (l.foldl (fun e entry => e.setProperty entry.1 entry.2) e).properties.lookup key =
      (l.dlookup key).or (e.properties.lookup key) := by
  induction l generalizing e with
  | nil => rfl
  | cons entry l ih =>
    obtain ⟨name, value⟩ := entry
    obtain ⟨hnotMem, hl⟩ := nodupKeys_cons.mp hl
    rw [foldl_cons, ih hl]
    by_cases h : key = name
    · subst h
      rw [lookup_setProperty_self hkey, dlookup_cons_eq, dlookup_eq_none.mpr hnotMem]
      rfl
    · rw [lookup_setProperty_of_ne h, dlookup_cons_ne _ _ h]

theorem lookup_applyProperties (hkey : Kept key) {name : String} :
    (applyProperties { name := name } properties).properties.lookup key =
      properties.lookup key := by
  rw [applyProperties, lookup_foldl_setProperty hkey properties.nodupKeys]
  exact Option.or_none

theorem fragment_eq : fragment properties path delay =
    { applyProperties { name := "action_execute" } properties with
      properties := ((applyProperties { name := "action_execute" } properties).properties.insert
        "path" path).insert "delay" (toString delay)
      time := some ("+" ++ toString delay) } := by
  simp [fragment, setProperty]

theorem name_fragment : (fragment properties path delay).name = "action_execute" := by
  have hname : ∀ (l : List (Sigma fun _ : String => String)) (e : Event),
      (l.foldl (fun e entry => e.setProperty entry.1 entry.2) e).name = e.name := by
    intro l
    induction l with
    | nil => exact fun _ => rfl
    | cons entry l ih =>
      intro e
      rw [foldl_cons, ih, name_setProperty]
  rw [fragment_eq]
  exact hname _ _

theorem time_fragment : (fragment properties path delay).time = some ("+" ++ toString delay) := by
  rw [fragment_eq]

theorem lookup_fragment (hkey : Kept key) (hpath : key ≠ "path") (hdelay : key ≠ "delay") :
    (fragment properties path delay).properties.lookup key = properties.lookup key := by
  rw [fragment_eq]
  rw [AList.lookup_insert_ne hdelay, AList.lookup_insert_ne hpath, lookup_applyProperties hkey]

theorem isUnique_fragment : (fragment properties path delay).isUnique =
    (properties.getD "unique" "" != "") := by
  rw [isUnique, getPropertyByName]
  simp only [String.reduceEq, if_false, Properties.getD]
  rw [lookup_fragment (by decide) (by decide) (by decide)]

theorem isReplacementFor_fragment :
    (fragment properties path delay).isReplacementFor e =
      (fragment properties path other).isReplacementFor e := by
  rw [fragment_eq, fragment_eq]
  simp [isReplacementFor, getPropertyByName]

theorem fragment_isReplacementFor : (fragment properties path delay).isReplacementFor
    (fragment properties path other) = true := by
  rw [@isReplacementFor_fragment _ _ delay other]
  simp [isReplacementFor]

theorem safeName_fragment : SafeName (fragment properties path delay).name := by
  rw [name_fragment]
  exact ⟨by decide, by decide, by decide, by decide⟩

theorem scheduleFromEvent_fragment {runner : ScheduleRuntime S} (hpos : 0 ≤ delay)
    (hdelay : delay < 2 ^ 31) :
    EventRunner.scheduleFromEvent runner start (fragment properties path delay) =
      if 0 < delay then some (.static (start + delay)) else none := by
  obtain ⟨n, rfl⟩ := Int.eq_ofNat_of_zero_le hpos
  have htime : (fragment properties path n).time = some ("+" ++ toString n) := time_fragment
  rw [EventRunner.scheduleFromEvent_of_offset (by omega) htime]
  exact if_congr Int.natCast_pos.symm rfl rfl

/-! ## Pushing them -/

/-- No event that is waiting is replaced by one that comes back. -/
def Fresh (properties : Properties) (path : String) (r : EventRunner S) : Prop :=
  ∀ waiting ∈ r.eventQueue ++ r.scheduledEvents.map (·.event),
    (fragment properties path 0).isReplacementFor waiting = false

def Added (r r' : EventRunner S) (entries : List (Schedule S × Event)) : Prop :=
  r'.eventQueue = r.eventQueue ∧ ∃ xs, r'.scheduledEvents = r.scheduledEvents ++ xs ∧
    xs.map (fun x => (x.schedule, x.event)) = entries

theorem Added.trans {r' r'' : EventRunner S} {entries entries' : List (Schedule S × Event)}
    (h : Added r r' entries) (h' : Added r' r'' entries') : Added r r'' (entries ++ entries') := by
  obtain ⟨hqueue, xs, hxs, rfl⟩ := h
  obtain ⟨hqueue', ys, hys, rfl⟩ := h'
  exact ⟨hqueue'.trans hqueue, xs ++ ys, by rw [hys, hxs, append_assoc],
    map_append⟩

def entryOf (start : ℤ) (properties : Properties) (path : String) (delay : ℤ) :
    Schedule S × Event :=
  (.static (start + delay), fragment properties path delay)

theorem pushEvent_fragment (hpos : 0 < delay) (hdelay : delay < 2 ^ 31)
    (hmerge : ¬ r.Merges (fragment properties path delay)) :
    (r.pushEvent rt.runner start (fragment properties path delay)).2 = none ∧
      Added r (r.pushEvent rt.runner start (fragment properties path delay)).1
        [entryOf start properties path delay] := by
  have hschedule := @scheduleFromEvent_fragment S properties path delay start rt.runner
    (Int.le_of_lt hpos) hdelay
  rw [if_pos hpos] at hschedule
  obtain ⟨hnone, hentries, hqueue⟩ :=
    EventRunner.pushEvent_appends_of_not_merges hschedule hmerge safeName_fragment
  exact ⟨hnone, hqueue, _, hentries, rfl⟩

theorem pushFragments_of_not_unique (hunique : properties.getD "unique" "" = "")
    {delays : List ℤ} (hdelays : ∀ delay ∈ delays, 0 < delay ∧ delay < 2 ^ 31) :
    (pushFragments rt start properties path delays r).2 = none ∧
      Added r (pushFragments rt start properties path delays r).1
        (delays.map (entryOf start properties path)) := by
  induction delays generalizing r with
  | nil => exact ⟨rfl, rfl, [], (append_nil _).symm, rfl⟩
  | cons delay delays ih =>
    obtain ⟨hpos, hdelay⟩ := hdelays delay mem_cons_self
    have hmerge : ¬ r.Merges (fragment properties path delay) := by
      rintro ⟨h, -⟩
      rw [isUnique_fragment, hunique] at h
      exact absurd h (by decide)
    obtain ⟨hnone, hadded⟩ := @pushEvent_fragment S rt properties path delay start r hpos hdelay
      hmerge
    obtain ⟨hnone', hadded'⟩ := @ih (r.pushEvent rt.runner start (fragment properties path delay)).1
      fun other hmem => hdelays other (mem_cons_of_mem delay hmem)
    rw [pushFragments]
    split
    · rename_i hpush
      rw [hpush] at hnone
      cases hnone
    · rename_i r' hpush
      rw [hpush] at hadded hnone' hadded'
      exact ⟨hnone', hadded.trans hadded'⟩

theorem replaceFirst_append {α : Type} {p : α → Bool} {f : α → α} {l : List α} {x : α}
    (hl : ∀ a ∈ l, p a = false) (hx : p x = true) :
    replaceFirst p f (l ++ [x]) = l ++ [f x] := by
  induction l with
  | nil => simp [replaceFirst, hx]
  | cons a l ih =>
    rw [cons_append, replaceFirst, hl a mem_cons_self, ih fun b hb => hl b (mem_cons_of_mem a hb)]
    rfl

theorem pushFragments_merged (hunique : properties.getD "unique" "" ≠ "")
    {delays : List ℤ} (hdelays : ∀ delay ∈ delays, 0 < delay ∧ delay < 2 ^ 31)
    {xs : List (ScheduledEvent S)} {x : ScheduledEvent S}
    (hfresh : ∀ y ∈ xs, (fragment properties path 0).isReplacementFor y.event = false)
    (hentries : r.scheduledEvents = xs ++ [x]) (hx : x.event = fragment properties path delay) :
    (pushFragments rt start properties path delays r).2 = none ∧
      (pushFragments rt start properties path delays r).1.eventQueue = r.eventQueue ∧
      (pushFragments rt start properties path delays r).1.scheduledEvents =
        xs ++ [{ x with event := fragment properties path ((delay :: delays).getLast nofun) }] := by
  induction delays generalizing r x delay with
  | nil => exact ⟨rfl, rfl, by rw [pushFragments, hentries, getLast_singleton, ← hx]⟩
  | cons next delays ih =>
    obtain ⟨hpos, hdelay⟩ := hdelays next mem_cons_self
    have hreplaces : (fragment properties path next).isReplacementFor x.event = true := by
      rw [hx]
      exact fragment_isReplacementFor
    have hmerge : r.Merges (fragment properties path next) := by
      refine ⟨?_, any_eq_true.mpr ⟨x, ?_, hreplaces⟩⟩
      · rw [isUnique_fragment, bne_iff_ne]
        exact hunique
      · rw [hentries]
        exact mem_append_right _ mem_cons_self
    have hschedule := @scheduleFromEvent_fragment S properties path next start rt.runner
      (Int.le_of_lt hpos) hdelay
    rw [if_pos hpos] at hschedule
    obtain ⟨hnone, hqueue, hevents⟩ := EventRunner.pushEvent_of_merges hschedule hmerge
    have hothers : ∀ y ∈ xs,
        (fragment properties path next).isReplacementFor y.event = false := by
      intro y hy
      rw [@isReplacementFor_fragment _ _ next 0]
      exact hfresh y hy
    rw [hentries, @replaceFirst_append (ScheduledEvent S)
      (fun y => (fragment properties path next).isReplacementFor y.event) _ xs x hothers
      hreplaces, hx] at hevents
    have hrest := @ih next (r.pushEvent rt.runner start (fragment properties path next)).1
      (fun other hmem => hdelays other (mem_cons_of_mem next hmem))
      { x with event := fragment properties path next } hevents rfl
    rw [pushFragments]
    split
    · rename_i hpush
      rw [hpush] at hnone
      cases hnone
    · rename_i r' hpush
      rw [hpush] at hqueue hrest
      exact ⟨hrest.1, hrest.2.1.trans hqueue, hrest.2.2⟩

theorem pushFragments_of_unique (hunique : properties.getD "unique" "" ≠ "")
    (hfresh : ∀ y ∈ r.scheduledEvents,
      (fragment properties path 0).isReplacementFor y.event = false)
    {delays : List ℤ} (hdelays : ∀ other ∈ delay :: delays, 0 < other ∧ other < 2 ^ 31) :
    (pushFragments rt start properties path (delay :: delays) r).2 = none ∧
      Added r (pushFragments rt start properties path (delay :: delays) r).1
        [(.static (start + delay),
          fragment properties path ((delay :: delays).getLast nofun))] := by
  have hmerge : ¬ r.Merges (fragment properties path delay) := by
    rintro ⟨-, hany⟩
    obtain ⟨y, hy, hreplaces⟩ := any_eq_true.mp hany
    rw [@isReplacementFor_fragment _ _ delay 0, hfresh y hy] at hreplaces
    cases hreplaces
  obtain ⟨hpos, hdelay⟩ := hdelays delay mem_cons_self
  obtain ⟨hnone, hqueue, entries, hentries, hadded⟩ := pushEvent_fragment hpos hdelay hmerge
  obtain ⟨x, rfl, hx⟩ := map_eq_singleton_iff.mp hadded
  obtain ⟨hschedule, hevent⟩ := Prod.mk.inj hx
  obtain ⟨hnone', hqueue', hentries'⟩ := @pushFragments_merged S rt properties path delay start
    (r.pushEvent rt.runner start (fragment properties path delay)).1 hunique delays
    (fun other hmem => hdelays other (mem_cons_of_mem delay hmem)) _ _ hfresh hentries hevent
  rw [pushFragments]
  split
  · rename_i hpush
    rw [hpush] at hnone
    cases hnone
  · rename_i r' hpush
    rw [hpush] at hqueue hnone' hqueue' hentries'
    exact ⟨hnone', hqueue'.trans hqueue, _, hentries', by rw [map_singleton, hschedule]⟩

theorem pushEvent_fragment_zero (hfresh : properties.getD "unique" "" ≠ "" →
      Fresh properties path r) :
    r.pushEvent rt.runner start (fragment properties path 0) =
      ({ r with eventQueue := r.eventQueue ++ [fragment properties path 0] }, none) := by
  have hschedule := @scheduleFromEvent_fragment S properties path 0 start rt.runner
    (by decide) (by decide)
  rw [if_neg (by decide)] at hschedule
  have hmerge : ¬ ((fragment properties path 0).isUnique ∧
      r.eventQueue.any (fragment properties path 0).isReplacementFor) := by
    rintro ⟨hunique, hany⟩
    rw [isUnique_fragment, bne_iff_ne] at hunique
    obtain ⟨waiting, hwaiting, hreplaces⟩ := any_eq_true.mp hany
    rw [hfresh hunique waiting (mem_append_left _ hwaiting)] at hreplaces
    cases hreplaces
  rw [EventRunner.pushEvent, hschedule]
  rw [EventRunner.enqueue, if_neg hmerge]

end ActionExecute

end Dss
