import Dss.ZoneMessages

/-!
# Unknown zones and groups

A message about a zone or a group that is not there should be passed over. The handlers for scene
calls, undo calls and blinks look at the pointer. The one for sensor values does not, and neither
does the one for deferred calls: it raises the event at a group that is null.
-/

namespace Dss

namespace ZoneMessages

open SceneAccess SceneHelper Throwing Throwing.Statement

variable {V : Type}

/-! ## The law and the condition -/

/-- There is no such zone, or no such group in it. -/
def Missing (a : MessageApartment V) (ids : ℤ × ℤ) : Prop :=
  ∀ zi, zone? a ids.1 = some zi → group? a zi ids.2 = none

/-- The handler returns, and has changed nothing in the model and raised nothing. -/
def Ignored (x : Handler V) (w : World V) : Prop :=
  (x w).1.apartment = w.apartment ∧ (x w).1.raised = w.raised ∧ (x w).2 = none

def PassedOver (rt : MessageRuntime V) (w : World V) (m : Message) : Prop :=
  Missing w.apartment m.ids → Ignored (m.handle rt) w

def OriginKnown (rt : MessageRuntime V) (e : ModelDeferredSceneEvent) : Prop :=
  e.source ≠ dsuidNull ∧ (e.originDeviceID : ℤ) ≠ 0 →
    (rt.getByBusID e.originDeviceID e.source).isSome

def RaisedNow (now : ℤ) (e : ModelDeferredSceneEvent) : Prop :=
  e.isCalled = false ∧ (e.isDue now = true ∨ isDimSequence e.sceneID = true)

/-- The handler goes on with a null pointer, if the group is not there: it is about a sensor value,
or about a deferred call that is raised now. -/
def GoesOn (rt : MessageRuntime V) : Message → Prop
  | .deferredScene now e => OriginKnown rt e ∧ RaisedNow now e
  | .zoneSensorValue _ _ _ _ _ _ => True
  | _ => False

/-- The message is for a zone that is there, and a group that is not, and the handler goes on. -/
def Slips (rt : MessageRuntime V) (w : World V) (m : Message) : Prop :=
  ∃ zi, zone? w.apartment m.ids.1 = some zi ∧ group? w.apartment zi m.ids.2 = none ∧ GoesOn rt m

/-! ## Looking up -/

variable {rt : MessageRuntime V} {w : World V} {zi : ℕ} {id : ℤ} {x : ℕ → Handler V}
  {y : Option ℕ → Handler V} {handler : Handler V}

theorem withZone_of_none (h : zone? w.apartment id = none) :
    withZone id x w = (w, some .itemNotFound) := by
  rw [withZone, inspect_apply, h]
  rfl

theorem withZone_of_some (h : zone? w.apartment id = some zi) : withZone id x w = x zi w := by
  rw [withZone, inspect_apply, h]

theorem withGroup_of_none (h : group? w.apartment zi id = none) :
    withGroup zi id y w = y none w := by
  rw [withGroup, inspect_apply, h]

theorem catching_of_itemNotFound {w' : World V} (h : handler w = (w', some .itemNotFound)) :
    catching isItemNotFound handler w = (w', none) := by
  rw [catching, h]
  rfl

theorem catching_of_ok {w' : World V} (h : handler w = (w', none)) :
    catching isItemNotFound handler w = (w', none) := by
  rw [catching, h]

theorem ignored_of_eq (h : handler w = (w, none)) : Ignored handler w := by
  rw [Ignored, h]
  exact ⟨rfl, rfl, rfl⟩

theorem ignored_of_noZone (h : zone? w.apartment id = none) :
    Ignored (catching isItemNotFound (withZone id x)) w :=
  ignored_of_eq (catching_of_itemNotFound (withZone_of_none h))

theorem ignored_of_skip {groupID : ℤ} {x : ℕ → Option ℕ → Handler V}
    (hzone : zone? w.apartment id = some zi) (hgroup : group? w.apartment zi groupID = none)
    (hskip : x zi none = skip) :
    Ignored (catching isItemNotFound
      (withZone id fun zi => withGroup zi groupID (x zi))) w := by
  refine ignored_of_eq (catching_of_ok ?_)
  rw [withZone_of_some hzone, withGroup_of_none hgroup, hskip]
  rfl

theorem not_ignored_of_nullPointer {groupID : ℤ} {x : ℕ → Option ℕ → Handler V}
    (hzone : zone? w.apartment id = some zi) (hgroup : group? w.apartment zi groupID = none)
    (hnull : x zi none = raise .nullPointer) :
    ¬ Ignored (catching isItemNotFound
      (withZone id fun zi => withGroup zi groupID (x zi))) w := by
  have hraise : (withZone id fun zi => withGroup zi groupID (x zi)) w =
      (w, some .nullPointer) := by
    rw [withZone_of_some hzone, withGroup_of_none hgroup, hnull]
    rfl
  rintro ⟨-, -, hfailure⟩
  rw [catching, hraise] at hfailure
  cases hfailure

/-! ## Deferred calls -/

section deferred

variable {e : ModelDeferredSceneEvent} {origin : CallOrigin} {raised : List GroupEvent}
  {groupID : ℤ} {scene : ℕ}

def KeepsRaised (raised : List GroupEvent) (x : Handler V) : Prop :=
  Triple (fun w => w.raised = raised) x (fun w => w.raised = raised) fun e _ => e = .assertion

theorem keepsRaised_skip : KeepsRaised raised (skip : Handler V) := Triple.skip fun _ h => h

theorem keepsRaised_forEach {α : Type} {f : α → Handler V} {as : List α}
    (h : ∀ a, KeepsRaised raised (f a)) : KeepsRaised raised (forEach f as) := by
  induction as with
  | nil => exact keepsRaised_skip
  | cons a as ih => exact (h a).andThen ih

theorem keepsRaised_inspect {α : Type} {f : World V → α} {x : α → Handler V}
    (h : ∀ a, KeepsRaised raised (x a)) : KeepsRaised raised (inspect f x) :=
  Triple.inspect fun a => (h a).pre fun _ hw => hw.1

theorem keepsRaised_setOnStateOf (group : ZoneGroup) (applicationType : ApplicationType) :
    KeepsRaised raised (setOnStateOf group applicationType origin scene : Handler V) := by
  rw [setOnStateOf]
  split
  · exact keepsRaised_skip
  · split_ifs
    · exact Triple.raise fun _ _ => rfl
    · exact Triple.change fun _ h => h
    · exact Triple.change fun _ h => h

theorem keepsRaised_setOnState (group : ZoneGroup) :
    KeepsRaised raised (setOnState group origin scene : Handler V) := by
  rw [setOnState]
  split_ifs
  · exact keepsRaised_skip
  · exact keepsRaised_setOnStateOf group .lights
  · exact keepsRaised_setOnStateOf group .heating
  · exact keepsRaised_skip

theorem keepsRaised_forTargets (zis : List ℕ) :
    KeepsRaised raised (forTargets groupID
      (fun zi gi => setOnStateAt zi gi origin fun _ : MessageGroup V => scene) zis) := by
  refine keepsRaised_forEach fun zi => keepsRaised_inspect fun gis => keepsRaised_forEach
    fun gi => keepsRaised_inspect fun group => ?_
  cases group with
  | none => exact keepsRaised_skip
  | some group => exact keepsRaised_setOnState group.toZoneGroup

theorem KeepsRaised.cases (h : KeepsRaised w.raised handler) :
    (∃ w', handler w = (w', none) ∧ w'.raised = w.raised) ∨
      ∃ w', handler w = (w', some .assertion) := by
  have hend := h w rfl
  rcases hw : handler w with ⟨w', - | e⟩
  · rw [hw] at hend
    exact Or.inl ⟨w', rfl, hend⟩
  · rw [hw] at hend
    obtain rfl : e = .assertion := hend
    exact Or.inr ⟨w', rfl⟩

theorem stateChanges_cases {zoneID : ℤ} (hzone : zone? w.apartment zoneID = some zi) :
    (∃ w', handleDeferredModelStateChanges origin zoneID groupID scene w = (w', none) ∧
        w'.raised = w.raised) ∨
      ∃ w', handleDeferredModelStateChanges origin zoneID groupID scene w =
        (w', some .assertion) := by
  rw [handleDeferredModelStateChanges, zonesToUpdate]
  split_ifs
  · exact (keepsRaised_forTargets _).cases
  · rw [withZone_of_some hzone]
    exact (keepsRaised_forTargets [zi]).cases

theorem report_cases (rt : MessageRuntime V) (gi : Option ℕ) (originDSUID : Dsuid)
    (hzone : zone? w.apartment e.zoneID = some zi) :
    (∃ w' event, report rt e zi gi originDSUID w = (w', none) ∧ w'.raised = w.raised ++ [event]) ∨
      ∃ w', report rt e zi gi originDSUID w = (w', some .assertion) := by
  rcases @stateChanges_cases V w zi e.callOrigin e.groupID e.sceneID e.zoneID hzone with
    ⟨w', hw, hraised⟩ | ⟨w', hw⟩
  · refine Or.inl ⟨_, createGroupCallSceneEvent rt (groupRef w'.apartment zi gi) originDSUID e,
      andThen_of_ok hw, ?_⟩
    show w'.raised ++ _ = _
    rw [hraised]
  · exact Or.inr ⟨w', andThen_of_throw hw⟩

def deferredBody (rt : MessageRuntime V) (now : ℤ) (e : ModelDeferredSceneEvent) (zi : ℕ)
    (gi : Option ℕ) (originDSUID : Dsuid) : Handler V :=
  if e.isDue now then
    if e.isCalled then skip else report rt e zi gi originDSUID
  else if isDimSequence e.sceneID then
    if e.isCalled then keep e
    else andThen (report rt e zi gi originDSUID) (keep e.setCalled)
  else keep e

theorem ignored_keep (e : ModelDeferredSceneEvent) : Ignored (keep e) w := ⟨rfl, rfl, rfl⟩

theorem ignored_deferredBody {now : ℤ} {gi : Option ℕ} {originDSUID : Dsuid}
    (h : ¬ RaisedNow now e) : Ignored (deferredBody rt now e zi gi originDSUID) w := by
  rw [RaisedNow, not_and_or, not_or] at h
  rw [deferredBody]
  split_ifs with hdue hcalled hdim hcalled
  · exact ignored_of_eq rfl
  · obtain h | ⟨h, -⟩ := h
    · exact absurd (Bool.eq_false_iff.mpr hcalled) h
    · exact absurd hdue h
  · exact ignored_keep e
  · obtain h | ⟨-, h⟩ := h
    · exact absurd (Bool.eq_false_iff.mpr hcalled) h
    · exact absurd hdim h
  · exact ignored_keep e

theorem deferredBody_cases {now : ℤ} {gi : Option ℕ} {originDSUID : Dsuid}
    (h : RaisedNow now e) (hzone : zone? w.apartment e.zoneID = some zi) :
    (∃ w' event, deferredBody rt now e zi gi originDSUID w = (w', none) ∧
        w'.raised = w.raised ++ [event]) ∨
      ∃ w', deferredBody rt now e zi gi originDSUID w = (w', some .assertion) := by
  obtain ⟨hcalled, hnow⟩ := h
  have hreport := report_cases rt gi originDSUID hzone
  rw [deferredBody, hcalled]
  by_cases hdue : e.isDue now = true
  · rw [if_pos hdue]
    exact hreport
  · rw [if_neg hdue, if_pos (hnow.resolve_left hdue)]
    rcases hreport with ⟨w', event, hw, hraised⟩ | ⟨w', hw⟩
    · exact Or.inl ⟨_, event, andThen_of_ok hw, hraised⟩
    · exact Or.inr ⟨w', andThen_of_throw hw⟩

theorem handleDeferredScene_eq {now : ℤ} (hzone : zone? w.apartment e.zoneID = some zi)
    (hgroup : group? w.apartment zi e.groupID = none) :
    handleDeferredScene rt now e w = catching isItemNotFound
      (withOrigin rt e.source e.originDeviceID (deferredBody rt now e zi none)) w := by
  have hbody : (withZone e.zoneID fun zi => withGroup zi e.groupID fun gi =>
      withOrigin rt e.source e.originDeviceID (deferredBody rt now e zi gi)) w =
        withOrigin rt e.source e.originDeviceID (deferredBody rt now e zi none) w := by
    rw [withZone_of_some hzone, withGroup_of_none hgroup]
  have hcatch {x y : Handler V} (h : x w = y w) :
      catching isItemNotFound x w = catching isItemNotFound y w := by
    rw [catching, catching, h]
  exact hcatch hbody

theorem withOrigin_cases (rt : MessageRuntime V) (e : ModelDeferredSceneEvent)
    (x : Dsuid → Handler V) :
    (OriginKnown rt e ∧ ∃ originDSUID, withOrigin rt e.source e.originDeviceID x = x originDSUID) ∨
      ¬ OriginKnown rt e ∧ withOrigin rt e.source e.originDeviceID x = raise .itemNotFound := by
  rw [OriginKnown, withOrigin]
  by_cases hnamed : e.source ≠ dsuidNull ∧ (e.originDeviceID : ℤ) ≠ 0
  · rw [if_pos hnamed]
    cases rt.getByBusID e.originDeviceID e.source with
    | none => exact Or.inr ⟨fun h => Bool.noConfusion (h hnamed), rfl⟩
    | some originDSUID => exact Or.inl ⟨fun _ => rfl, originDSUID, rfl⟩
  · rw [if_neg hnamed]
    exact Or.inl ⟨fun h => absurd h hnamed, e.source, rfl⟩

/-- **A deferred call to a group that is not there** is passed over if and only if it is not raised
now. -/
theorem ignored_deferredScene_iff {now : ℤ} (hzone : zone? w.apartment e.zoneID = some zi)
    (hgroup : group? w.apartment zi e.groupID = none) :
    Ignored (handleDeferredScene rt now e) w ↔ ¬ (OriginKnown rt e ∧ RaisedNow now e) := by
  rw [Ignored, handleDeferredScene_eq hzone hgroup]
  rcases withOrigin_cases rt e (deferredBody rt now e zi none) with
    ⟨hknown, originDSUID, heq⟩ | ⟨hknown, heq⟩
  · rw [heq]
    by_cases hnow : RaisedNow now e
    · refine iff_of_false ?_ (not_not_intro ⟨hknown, hnow⟩)
      rcases @deferredBody_cases V rt w zi e now none originDSUID hnow hzone with
        ⟨w', event, hw, hraised⟩ | ⟨w', hw⟩
      · rw [catching_of_ok hw]
        rintro ⟨-, hsame, -⟩
        rw [hraised] at hsame
        exact List.cons_ne_nil event [] (List.append_right_eq_self.mp hsame)
      · rw [catching, hw]
        rintro ⟨-, -, hfailure⟩
        cases hfailure
    · refine iff_of_true ?_ fun h => hnow h.2
      obtain ⟨hapartment, hraised, hok⟩ :=
        @ignored_deferredBody V rt w zi e now none originDSUID hnow
      rw [catching_of_ok (Prod.ext rfl hok)]
      exact ⟨hapartment, hraised, rfl⟩
  · rw [heq]
    exact iff_of_true ⟨rfl, rfl, rfl⟩ fun h => hknown h.1

end deferred

/-! ## Messages -/

theorem ignored_of_missingZone (m : Message) (hzone : zone? w.apartment m.ids.1 = none) :
    Ignored (m.handle rt) w := by
  cases m with
  | callScene source zoneID groupID originDeviceID sceneID origin forced token =>
    rw [Message.handle, onGroupCallScene]
    split_ifs
    · exact ignored_of_eq rfl
    · exact ignored_of_noZone hzone
  | undoScene source zoneID groupID originDeviceID sceneID origin token =>
    rw [Message.handle, onGroupUndoScene]
    split_ifs
    · exact ignored_of_eq rfl
    · exact ignored_of_noZone hzone
  | blink source zoneID groupID originDeviceID origin token => exact ignored_of_noZone hzone
  | deferredScene now e => exact ignored_of_noZone hzone
  | zoneSensorValue now source zoneID groupID sensorType sensorValue =>
    exact ignored_of_noZone hzone

theorem ignored_iff_not_goesOn (m : Message) (hzone : zone? w.apartment m.ids.1 = some zi)
    (hgroup : group? w.apartment zi m.ids.2 = none) :
    Ignored (m.handle rt) w ↔ ¬ GoesOn rt m := by
  cases m with
  | callScene source zoneID groupID originDeviceID sceneID origin forced token =>
    refine iff_of_true ?_ not_false
    rw [Message.handle, onGroupCallScene]
    split_ifs
    · exact ignored_of_eq rfl
    · exact ignored_of_skip hzone hgroup rfl
  | undoScene source zoneID groupID originDeviceID sceneID origin token =>
    refine iff_of_true ?_ not_false
    rw [Message.handle, onGroupUndoScene]
    split_ifs
    · exact ignored_of_eq rfl
    · exact ignored_of_skip hzone hgroup rfl
  | blink source zoneID groupID originDeviceID origin token =>
    exact iff_of_true (ignored_of_skip hzone hgroup rfl) not_false
  | deferredScene now e => exact ignored_deferredScene_iff hzone hgroup
  | zoneSensorValue now source zoneID groupID sensorType sensorValue =>
    -- the pointer is used without a look at it
    exact iff_of_false (not_ignored_of_nullPointer hzone hgroup rfl) (not_not_intro trivial)

theorem passedOver_iff (rt : MessageRuntime V) (w : World V) (m : Message) :
    PassedOver rt w m ↔ ¬ Slips rt w m := by
  rcases hzone : zone? w.apartment m.ids.1 with - | zi
  · refine iff_of_true (fun _ => ignored_of_missingZone m hzone) ?_
    rintro ⟨zi, hsome, -⟩
    rw [hzone] at hsome
    cases hsome
  · rcases hgroup : group? w.apartment zi m.ids.2 with - | gi
    · have hmissing : Missing w.apartment m.ids := by
        intro zj hzj
        rw [hzone] at hzj
        rwa [← Option.some.inj hzj]
      have hslips : Slips rt w m ↔ GoesOn rt m := by
        constructor
        · rintro ⟨-, -, -, hgoes⟩
          exact hgoes
        · exact fun hgoes => ⟨zi, hzone, hgroup, hgoes⟩
      rw [PassedOver, hslips, imp_iff_right hmissing]
      exact ignored_iff_not_goesOn m hzone hgroup
    · -- the group is there
      refine iff_of_true (fun hmissing => ?_) ?_
      · have hnone := hmissing zi hzone
        rw [hgroup] at hnone
        cases hnone
      · rintro ⟨zj, hzj, hnone, -⟩
        rw [hzone] at hzj
        obtain rfl := Option.some.inj hzj
        rw [hgroup] at hnone
        cases hnone

/-! ## Runs -/

/-- What happens to the server: a message, or anything else. Groups and zones may be removed, and
calls may be deferred, at any time. -/
inductive Action (V : Type) : Type where
  | message (m : Message)
  /-- another change -/
  | other (f : World V → World V)

/-- A message of the bus is handled, or something else happens. -/
def step (rt : MessageRuntime V) (w : World V) : Action V → World V
  | .message m => (m.handle rt w).1
  | .other f => f w

/-- A message for a group that is not there is passed over. -/
def Lawful (rt : MessageRuntime V) (w : World V) : Action V → Prop
  | .message m => PassedOver rt w m
  | .other _ => True

/-- The message is none of those that slip through. -/
def Fits (rt : MessageRuntime V) (w : World V) : Action V → Prop
  | .message m => ¬ Slips rt w m
  | .other _ => True

theorem lawful_iff (rt : MessageRuntime V) (w : World V) (action : Action V) :
    Lawful rt w action ↔ Fits rt w action := by
  cases action with
  | message m => exact passedOver_iff rt w m
  | other f => exact Iff.rfl

/-- **Unknown zones and groups.** In a run, every message about a zone or a group that is not there
is passed over, if and only if no message slips. -/
theorem lawful_run_iff (rt : MessageRuntime V) (w : World V) (actions : List (Action V)) :
    Transition.Meets (step rt) (Lawful rt) w actions ↔
      Transition.Meets (step rt) (Fits rt) w actions :=
  Transition.meets_congr (lawful_iff rt)

/-! ## A group that has gone -/

def silentRuntime : MessageRuntime Unit where
  getByBusID _ _ := none
  getBySerial _ := none
  serialNumber _ := none
  sensorValueToDouble _ _ := ()
  doubleToString _ := ""
  dsuid2str _ := ""

def emptyZone : World Unit where
  apartment := { zones := [{ zoneID := 1, devices := [], groups := [] }], states := [] }

def deferredCall : ModelDeferredSceneEvent where
  source := dsuidNull
  timestamp := 10
  isCalled := false
  zoneID := 1
  groupID := 16
  originDeviceID := 0
  sceneID := scene1
  callOrigin := .coDsmApi
  forcedFlag := false
  originToken := ""

/-- It is raised at a group that is null, and a sensor value for the group uses a null pointer. -/
theorem lawful_run_fails :
    ¬ Transition.Meets (step silentRuntime) (Lawful silentRuntime) emptyZone
        [.message (.deferredScene 12 deferredCall)] ∧
      ¬ Transition.Meets (step silentRuntime) (Lawful silentRuntime) emptyZone
        [.message (.zoneSensorValue 12 dsuidNull 1 16 9 100)] := by
  have hmissing : Missing emptyZone.apartment (1, 16) := by
    intro zi hzi
    obtain rfl : 0 = zi := Option.some.inj hzi
    rfl
  constructor
  · rintro ⟨hlawful, -⟩
    obtain ⟨-, hraised, -⟩ := hlawful hmissing
    cases hraised
  · rintro ⟨hlawful, -⟩
    obtain ⟨-, -, hreturned⟩ := hlawful hmissing
    cases hreturned

example : ((handleDeferredScene silentRuntime 12 deferredCall emptyZone).1.raised.map
    GroupEvent.raisedAtGroup) = [none] := by decide

end ZoneMessages

end Dss
