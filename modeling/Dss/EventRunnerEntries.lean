import Dss.EventRunnerMirror
import Dss.Numbers

/-!
# Entries that are made

A node is made below the monitor node whatever is there already, as long as no part of its path is
empty. So an event that has a schedule, a safe name and no property `unique` gets an entry of its
own at the end of the list, and no exception is thrown.
-/

namespace Dss

/-! ## Nodes of an entry -/

namespace PropertyNode

variable {node : PropertyNode} {f : PropertyNode → PropertyNode} {id leaf : String}

theorem create_eq_none {parts : List String} (h : ∀ part ∈ parts, newName part ≠ "") :
    (node.create f parts).2 = none := by
  induction parts generalizing node with
  | nil => rfl
  | cons part parts ih =>
    have hparts : ∀ other ∈ parts, newName other ≠ "" :=
      fun other hmem => h other (List.mem_cons_of_mem part hmem)
    rw [create]
    by_cases hself : isSelf (part :: parts) = true
    · rw [if_pos hself]
    · rw [if_neg hself]
      split
      · exact ih hparts
      · rw [if_neg (h part List.mem_cons_self)]
        exact ih hparts

theorem createProperty_leaf_eq_none (hid : SafeName id) (hempty : id ≠ "")
    (hleaf : leaf ∈ leafNames) {path : String}
    (hpath : path.toList = id.toList ++ '/' :: leaf.toList) :
    (node.createProperty path f).2 = none := by
  obtain ⟨hplain, hplus, -⟩ := plain_of_mem_leafNames hleaf
  rw [createProperty, splitPath_pair hpath hid.slash hplain.2.1]
  apply create_eq_none
  intro part hmem
  rcases List.mem_pair.mp hmem with rfl | rfl
  · rw [newName, if_neg hid.plus, getAndRemoveIndex_of_not_mem hid.bracket]
    exact hempty
  · rw [newName_of_plain hplain hplus]
    exact hplain.1

end PropertyNode

namespace EventRunner

variable {S : Type} {rt : ScheduleRuntime S} {r : EventRunner S} {now : ℤ} {e : Event}
  {schedule : Schedule S}

theorem scheduleFromEvent_of_offset {n : ℕ} (hn : n < 2 ^ 31)
    (htime : e.time = some ("+" ++ toString n)) :
    scheduleFromEvent rt now e = if 0 < n then some (.static (now + n)) else none := by
  have hset : e.hasPropertySet "time" = true := by
    simp [Event.hasPropertySet, htime]
  have hget : e.getPropertyByName "time" = "+" ++ toString n := by
    simp [Event.getPropertyByName, htime]
  obtain ⟨c, cs, hdigits⟩ := List.exists_cons_of_ne_nil (@Nat.toDigits_ne_nil n 10)
  have hlist : (toString n).toList = c :: cs := by
    rw [Nat.toString_eq_ofList_toDigits, String.toList_ofList, hdigits]
  have htext : ("+" ++ toString n).toList = '+' :: c :: cs := by
    rw [String.toList_append, hlist]
    rfl
  have hback : String.ofList (c :: cs) = toString n := by
    rw [← hlist, String.ofList_toList]
  rw [scheduleFromEvent, if_pos hset, hget, htext]
  simp only [hback, parseInt?_toString hn, Option.getD_some]
  exact if_congr Int.natCast_pos rfl rfl

/-- An entry is added at the end. -/
structure Appends (r r' : EventRunner S) (x : ScheduledEvent S) : Prop where
  scheduledEvents_eq : r'.scheduledEvents = r.scheduledEvents ++ [x]
  eventQueue_eq : r'.eventQueue = r.eventQueue

theorem addEvent_appends {x : ScheduledEvent S} (hmerge : ¬ r.Merges x.event)
    (hid : SafeName x.id) (hempty : x.id ≠ "") :
    (r.addEvent x).2 = none ∧ r.Appends (r.addEvent x).1 x := by
  have hcreate {monitor : PropertyNode} {f : PropertyNode → PropertyNode} {leaf path : String}
      (hleaf : leaf ∈ PropertyNode.leafNames)
      (hpath : path.toList = x.id.toList ++ '/' :: leaf.toList) :
      monitor.createProperty path f = ((monitor.createProperty path f).1, none) := by
    rw [← @PropertyNode.createProperty_leaf_eq_none monitor f x.id leaf hid hempty hleaf path
      hpath]
  rw [addEvent, if_neg (by exact hmerge), @hcreate _ _ "id" (x.id ++ "/id") (by decide) (by simp)]
  dsimp only
  rw [@hcreate _ _ "name" (x.id ++ "/name") (by decide) (by simp)]
  exact ⟨rfl, rfl, rfl⟩

theorem pushEvent_appends_of_not_merges (hschedule : scheduleFromEvent rt now e = some schedule)
    (hmerge : ¬ r.Merges e) (hname : SafeName e.name) :
    (r.pushEvent rt now e).2 = none ∧
      r.Appends (r.pushEvent rt now e).1 (r.scheduledEvent now e schedule) := by
  obtain ⟨hnone, hentries, hqueue⟩ :=
    @addEvent_appends S { r with scheduledEventCounter := r.scheduledEventCounter + 1 }
      (r.scheduledEvent now e schedule) hmerge hname.scheduledEventID scheduledEventID_ne_empty
  rw [pushEvent, hschedule]
  exact ⟨hnone, hentries, hqueue⟩

theorem pushEvent_appends (hschedule : scheduleFromEvent rt now e = some schedule)
    (hunique : e.isUnique = false) (hname : SafeName e.name) :
    (r.pushEvent rt now e).2 = none ∧
      r.Appends (r.pushEvent rt now e).1 (r.scheduledEvent now e schedule) := by
  refine pushEvent_appends_of_not_merges hschedule ?_ hname
  rintro ⟨h, -⟩
  rw [hunique] at h
  cases h

theorem pushEvent_appends_of_rule {name start rRule : String}
    (he : e = (({ name := name } : Event).setProperty "iCalStartTime" start).setProperty
      "iCalRRule" rRule) (hname : SafeName name) :
    (r.pushEvent rt now e).2 = none ∧ r.Appends (r.pushEvent rt now e).1
      (r.scheduledEvent now e (.iCal (rt.iCalSchedule rRule start now))) := by
  have hschedule : scheduleFromEvent rt now e =
      some (.iCal (rt.iCalSchedule rRule start now)) := by
    rw [he, scheduleFromEvent, if_neg (by simp [Event.setProperty, Event.hasPropertySet]), if_pos]
    · simp [Event.setProperty, Event.getPropertyByName, Properties.getD, -AList.insert_empty]
    · simp [Event.setProperty, Event.hasPropertySet, Properties.has, -AList.insert_empty]
  have hunique : e.isUnique = false := by
    simp [he, Event.setProperty, Event.isUnique, Event.getPropertyByName, Properties.getD,
      -AList.insert_empty]
  refine pushEvent_appends hschedule hunique ?_
  rw [he]
  exact hname

theorem pushEvent_of_merges (hschedule : scheduleFromEvent rt now e = some schedule)
    (hmerge : r.Merges e) :
    (r.pushEvent rt now e).2 = none ∧
      (r.pushEvent rt now e).1.eventQueue = r.eventQueue ∧
      (r.pushEvent rt now e).1.scheduledEvents =
        replaceFirst (fun y => e.isReplacementFor y.event)
          (fun y => { y with event := e.mergeInto y.event }) r.scheduledEvents := by
  rw [pushEvent, hschedule]
  dsimp only
  rw [addEvent, if_pos (by exact hmerge)]
  exact ⟨rfl, rfl, rfl⟩

end EventRunner

end Dss
