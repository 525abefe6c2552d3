import Dss.Matching
import Dss.SystemTriggerIsolation

/-!
# Fields of triggers

A trigger node gives an event by its type, and each of its other fields is a value that the event
has to have, or a wildcard. Each type has a check of its own.

Four of the nine checks go wrong. The one for a scene of a device compares the scene before it looks
for the wildcard. The one for a sensor event does not look at the name of the event where there is
an id. The one for a binary input falls back to the type where the index is another one. And the one
for a state is content with either the state or the value, and takes one that is not given for the
empty text.
-/

namespace Dss

open Option

namespace TriggerFields

open Matching SystemTrigger

/-! ## Triggers -/

inductive TriggerKind : Type where
  | zoneScene | busZoneScene | undoZoneScene | deviceScene | deviceMsg | deviceAction
  | deviceSensor | deviceBinaryInput | stateChange
  deriving DecidableEq

def TriggerKind.type : TriggerKind → String
  | .zoneScene => "zone-scene"
  | .busZoneScene => "bus-zone-scene"
  | .undoZoneScene => "undo-zone-scene"
  | .deviceScene => "device-scene"
  | .deviceMsg => "device-msg"
  | .deviceAction => "device-action"
  | .deviceSensor => "device-sensor"
  | .deviceBinaryInput => "device-binary-input"
  | .stateChange => "state-change"

def TriggerKind.evtName : TriggerKind → String
  | .zoneScene => "callScene"
  | .busZoneScene => "callSceneBus"
  | .undoZoneScene => "undoScene"
  | .deviceScene => "callScene"
  | .deviceMsg => "buttonClick"
  | .deviceAction => "buttonDeviceAction"
  | .deviceSensor => "deviceSensorEvent"
  | .deviceBinaryInput => "deviceBinaryInputEvent"
  | .stateChange => "stateChange"

section Fields

variable (rt : Runtime) (trigger : PropertyNode)

def text (name : String) : Option String :=
  (trigger.getPropertyByName name).map (·.getAsString rt.doubleToString)

def number (name : String) : Option ℤ :=
  (trigger.getPropertyByName name).bind fun node => node.getIntegerValue.toOption

def flag (name : String) : Option Bool :=
  (trigger.getPropertyByName name).bind fun node => node.getBoolValue.toOption

def HoldsText (name : String) : Prop :=
  ∀ node, trigger.getPropertyByName name = some node → ∃ s, node.value = .string s

def HoldsNumber (name : String) : Prop :=
  ∀ node, trigger.getPropertyByName name = some node → ∃ i, node.value = .integer i ∧ -1 ≤ i

def HoldsFlag (name : String) : Prop :=
  ∀ node, trigger.getPropertyByName name = some node → ∃ b, node.value = .boolean b

def Given (name : String) : Prop := (trigger.getPropertyByName name).isSome = true

def HasFields : TriggerKind → Prop
  | .zoneScene | .busZoneScene =>
    Given trigger "zone" ∧ Given trigger "group" ∧ Given trigger "scene" ∧
      HoldsNumber trigger "zone" ∧ HoldsNumber trigger "group" ∧ HoldsNumber trigger "scene" ∧
      HoldsFlag trigger "forced"
  | .undoZoneScene =>
    Given trigger "zone" ∧ HoldsNumber trigger "zone" ∧ HoldsNumber trigger "group" ∧
      HoldsNumber trigger "scene"
  | .deviceScene =>
    Given trigger "dsuid" ∧ Given trigger "scene" ∧ HoldsText trigger "dsuid" ∧
      HoldsNumber trigger "scene"
  | .deviceMsg => Given trigger "dsuid" ∧ Given trigger "msg"
  | .deviceAction => Given trigger "dsuid" ∧ Given trigger "action"
  | .deviceSensor =>
    Given trigger "dsuid" ∧ (Given trigger "eventid" ∨ Given trigger "evt") ∧
      HoldsText trigger "dsuid" ∧ HoldsText trigger "evt"
  | .deviceBinaryInput =>
    (Given trigger "dsuid" ∧ Given trigger "index" ∨ Given trigger "stype") ∧
      Given trigger "state" ∧ HoldsText trigger "dsuid"
  | .stateChange => Given trigger "name" ∧ (Given trigger "state" ∨ Given trigger "value")

/-- A trigger node of this kind with the fields it needs. -/
structure WellFormed (kind : TriggerKind) : Prop where
  type : text rt trigger "type" = some kind.type
  fields : HasFields trigger kind

end Fields

/-! ## What a trigger asks for -/

section Meaning

variable (rt : Runtime) (t : SystemTrigger) (trigger : PropertyNode)

def eventScene : Option ℤ := (t.properties.lookup "sceneID").map (strToIntDef · (-1))

def eventOrigin : Option String := (t.properties.lookup "originDSUID").bind rt.dsuidFromString

def eventForced : Bool := t.properties.getD "forced" "" == "true"

def nonempty (given : Option String) : Option String := given.filter fun s => s != ""

def MeetsZone (kind : TriggerKind) : Prop :=
  t.evtSrcIsGroup = true ∧
    Fits (-1) (number trigger "zone") (some t.evtSrcZone) ∧
    Fits (-1) (number trigger "group") (some t.evtSrcGroup) ∧
    (if kind = .undoZoneScene then Fits (-1) (number trigger "scene") (eventScene t)
      else Is (number trigger "scene") (eventScene t) ∧
        Is (flag trigger "forced") (some (eventForced t)))

/-- Every field that is given is the event's, or the wildcard where there is one. An empty origin
and an empty old value are not given. -/
def Meets : TriggerKind → Prop
  | .zoneScene =>
    MeetsZone t trigger .zoneScene ∧
      Fits "-1" (nonempty (text rt trigger "dsuid")) (eventOrigin rt t)
  | .busZoneScene =>
    MeetsZone t trigger .busZoneScene ∧
      Fits "-1" (nonempty (text rt trigger "dsuid")) (eventOrigin rt t)
  | .undoZoneScene =>
    MeetsZone t trigger .undoZoneScene ∧
      Fits "-1" (nonempty (text rt trigger "dsuid")) (eventOrigin rt t)
  | .deviceScene =>
    t.evtSrcIsDevice = true ∧ Fits "-1" (text rt trigger "dsuid") (some t.evtSrcDSID) ∧
      Fits (-1) (number trigger "scene") (eventScene t)
  | .deviceMsg =>
    Fits "-1" (text rt trigger "dsuid") (some t.evtSrcDSID) ∧
      Fits "-1" (text rt trigger "msg") (t.properties.lookup "clickType") ∧
      Fits "-1" (text rt trigger "buttonIndex") (t.properties.lookup "buttonIndex")
  | .deviceAction =>
    Fits "-1" (text rt trigger "dsuid") (some t.evtSrcDSID) ∧
      Fits "-1" (text rt trigger "action") (t.properties.lookup "actionID")
  | .deviceSensor =>
    Fits "-1" (text rt trigger "dsuid") (some t.evtSrcDSID) ∧
      Fits "-1" (text rt trigger "eventid") (t.properties.lookup "sensorIndex") ∧
      Fits "-1" (text rt trigger "evt") (t.properties.lookup "sensorEvent")
  | .deviceBinaryInput =>
    Fits "-1" (text rt trigger "dsuid") (some t.evtSrcDSID) ∧
      Is (text rt trigger "index") (t.properties.lookup "inputIndex") ∧
      Is (text rt trigger "stype") (t.properties.lookup "inputType") ∧
      Is (text rt trigger "state") (t.properties.lookup "inputState")
  | .stateChange =>
    Is (text rt trigger "name") (t.properties.lookup "statename") ∧
      Is (text rt trigger "state") (t.properties.lookup "state") ∧
      Is (text rt trigger "value") (t.properties.lookup "value") ∧
      Is (nonempty (text rt trigger "oldvalue")) (t.properties.lookup "oldvalue")

def StandsFor (kind : TriggerKind) : Prop := t.evtName = kind.evtName ∧ Meets rt t trigger kind

/-! ## Where the checks differ -/

/-- The event has the property. -/
def Carries (key : String) : Prop := (t.properties.lookup key).isSome = true

/-- A parameter that says something: it is neither empty nor -1. -/
def Says (key : String) : Prop :=
  ∃ s, t.properties.lookup key = some s ∧ s ≠ "" ∧ s ≠ "-1"

def Readable : TriggerKind → Prop
  | .zoneScene | .busZoneScene | .undoZoneScene =>
    Carries t "sceneID" ∧ (Carries t "originDSUID" → (eventOrigin rt t).isSome = true)
  | .deviceScene => Carries t "sceneID" ∧ t.evtSrcDSID ≠ dsuidNullText
  | .deviceMsg => Says t "clickType" ∧ Carries t "buttonIndex" ∧ t.evtSrcDSID ≠ dsuidNullText
  | .deviceAction => Says t "actionID" ∧ t.evtSrcDSID ≠ dsuidNullText
  | .deviceSensor => Carries t "sensorEvent" ∧ Carries t "sensorIndex"
  | .deviceBinaryInput => Carries t "inputIndex" ∧ Carries t "inputType" ∧ Carries t "inputState"
  | .stateChange =>
    Carries t "statename" ∧ Carries t "state" ∧ Carries t "value" ∧ Carries t "oldvalue"

/-- An origin that was never set is taken for the one that is given. -/
def MistakesOrigin (kind : TriggerKind) : Prop :=
  MeetsZone t trigger kind ∧ ¬ Carries t "originDSUID" ∧
    nonempty (text rt trigger "dsuid") = some rt.unsetDSUID ∧ rt.unsetDSUID ≠ "-1"

def Mistakes : TriggerKind → Prop
  | .zoneScene => MistakesOrigin rt t trigger .zoneScene
  | .busZoneScene => MistakesOrigin rt t trigger .busZoneScene
  | .undoZoneScene => MistakesOrigin rt t trigger .undoZoneScene
  | .deviceScene =>
    t.evtSrcIsDevice = true ∧ Fits "-1" (text rt trigger "dsuid") (some t.evtSrcDSID) ∧
      number trigger "scene" = some (-1) ∧ eventScene t ≠ some (-1)
  | .deviceMsg | .deviceAction => False
  | .deviceSensor =>
    Fits "-1" (text rt trigger "dsuid") (some t.evtSrcDSID) ∧
      (Given trigger "eventid" ∧
        Fits "-1" (text rt trigger "eventid") (t.properties.lookup "sensorIndex")) ∧
      ¬ Fits "-1" (text rt trigger "evt") (t.properties.lookup "sensorEvent")
  | .deviceBinaryInput =>
    Fits "-1" (text rt trigger "dsuid") (some t.evtSrcDSID) ∧
      (Given trigger "stype" ∧
        Is (text rt trigger "stype") (t.properties.lookup "inputType")) ∧
      Is (text rt trigger "state") (t.properties.lookup "inputState") ∧
      ¬ Is (text rt trigger "index") (t.properties.lookup "inputIndex")
  | .stateChange =>
    Is (text rt trigger "name") (t.properties.lookup "statename") ∧
      Is (nonempty (text rt trigger "oldvalue")) (t.properties.lookup "oldvalue") ∧
      (t.properties.lookup "state" = some ((text rt trigger "state").getD "") ∨
        t.properties.lookup "value" = some ((text rt trigger "value").getD "")) ∧
      ¬ (Is (text rt trigger "state") (t.properties.lookup "state") ∧
        Is (text rt trigger "value") (t.properties.lookup "value"))

/-- The check of the type and what the trigger asks for differ: the event lacks something that is
read all the same, or it is taken for another. -/
def Slips (kind : TriggerKind) : Prop :=
  t.evtName = kind.evtName ∧
    (Meets rt t trigger kind ∧ ¬ Readable rt t kind ∨
      Readable rt t kind ∧ Mistakes rt t trigger kind)

end Meaning

/-! ## The parts of the checks -/

section Parts

variable {rt : Runtime} {t : SystemTrigger} {trigger : PropertyNode} {name : String}

theorem get_eq_ok_iff {p : Properties} {key s : String} :
    p.get key = .ok s ↔ p.lookup key = some s := by
  rw [Properties.get]
  cases p.lookup key with
  | none => exact iff_of_false (fun h => by cases h) fun h => by cases h
  | some value =>
    refine ⟨fun h => congrArg some (Except.ok.inj h), fun h => ?_⟩
    exact congrArg Except.ok (some.inj h)

theorem carries_iff {key : String} : Carries t key ↔ ∃ s, t.properties.lookup key = some s :=
  isSome_iff_exists

theorem given_iff : Given trigger name ↔ ∃ node, trigger.getPropertyByName name = some node :=
  isSome_iff_exists

theorem text_of_eq_some {node : PropertyNode} (h : trigger.getPropertyByName name = some node) :
    text rt trigger name = some (node.getAsString rt.doubleToString) := by
  rw [text, h, map_some]

theorem text_of_eq_none (h : trigger.getPropertyByName name = none) :
    text rt trigger name = none := by
  rw [text, h, map_none]

theorem given_iff_text : Given trigger name ↔ ∃ s, text rt trigger name = some s := by
  rw [Given, ← isSome_iff_exists, text, isSome_map]

theorem HoldsText.getStringValue (rt : Runtime) {node : PropertyNode} (h : HoldsText trigger name)
    (hnode : trigger.getPropertyByName name = some node) :
    node.getStringValue = .ok (node.getAsString rt.doubleToString) := by
  obtain ⟨s, hs⟩ := h node hnode
  rw [PropertyNode.getStringValue, PropertyNode.getAsString, hs]

theorem number_eq_some_iff {i : ℤ} : number trigger name = some i ↔
    ∃ node, trigger.getPropertyByName name = some node ∧ node.getIntegerValue = .ok i := by
  rw [number, bind_eq_some_iff]
  refine exists_congr fun node => and_congr_right fun _ => ?_
  cases node.getIntegerValue with
  | error e => exact iff_of_false (fun h => by cases h) fun h => by cases h
  | ok j => exact ⟨fun h => congrArg _ (some.inj h), fun h => congrArg _ (Except.ok.inj h)⟩

theorem integerFits_iff {p : ℤ → Bool} :
    integerFits (trigger.getPropertyByName name) p = true ↔
      ∃ i, number trigger name = some i ∧ p i = true := by
  simp only [number_eq_some_iff]
  cases hnode : trigger.getPropertyByName name with
  | none => simp [integerFits]
  | some node =>
    rw [integerFits]
    cases hvalue : node.getIntegerValue with
    | error e => simp [hvalue]
    | ok i => simp [hvalue]

theorem HoldsNumber.exists_number (h : HoldsNumber trigger name) (hgiven : Given trigger name) :
    ∃ i, number trigger name = some i ∧ -1 ≤ i := by
  obtain ⟨node, hnode⟩ := given_iff.1 hgiven
  obtain ⟨i, hi, hle⟩ := h node hnode
  refine ⟨i, number_eq_some_iff.2 ⟨node, hnode, ?_⟩, hle⟩
  rw [PropertyNode.getIntegerValue, hi]

theorem HoldsNumber.fits_iff (h : HoldsNumber trigger name) (hgiven : Given trigger name)
    {value : ℤ} : integerFits (trigger.getPropertyByName name)
        (fun i => decide (i < 0) || i == value) = true ↔
      Fits (-1) (number trigger name) (some value) := by
  obtain ⟨i, hi, hle⟩ := h.exists_number hgiven
  rw [integerFits_iff, hi, fits_some_iff]
  simp only [some.injEq, exists_eq_left', Bool.or_eq_true, decide_eq_true_eq, beq_iff_eq]
  omega

theorem originFits_iff {origin : String} : originFits rt trigger origin = true ↔
    Fits "-1" (nonempty (text rt trigger "dsuid")) (some origin) := by
  rw [originFits, text, nonempty]
  cases trigger.getPropertyByName "dsuid" with
  | none => exact iff_of_true rfl fits_none
  | some node =>
    rw [map_some, filter_some]
    by_cases hempty : node.getAsString rt.doubleToString = ""
    · simp [hempty, fits_none]
    · simp [hempty, fits_some_iff, @eq_comm _ origin]

theorem originDSUID_eq_ok_iff {origin : String} : t.originDSUID rt = .ok origin ↔
    ¬ Carries t "originDSUID" ∧ origin = rt.unsetDSUID ∨ eventOrigin rt t = some origin := by
  rw [originDSUID, eventOrigin, Carries]
  cases t.properties.lookup "originDSUID" with
  | none => simp [eq_comm]
  | some s =>
    simp only [isSome_some, bind_some, str2dsuid]
    cases rt.dsuidFromString s with
    | none => simp
    | some o => simp

end Parts

/-! ## The checks -/

section Checks

variable {rt : Runtime} {t : SystemTrigger} {trigger : PropertyNode}

theorem wildcard_or_iff {s value : String} :
    (s == "-1" || s == value) = true ↔ Fits "-1" (some s) (some value) := by
  rw [Bool.or_eq_true, beq_iff_eq, beq_iff_eq, fits_some_iff, some.injEq, @eq_comm _ value]

theorem beq_iff_is {s value : String} : (s == value) = true ↔ Is (some s) (some value) := by
  rw [beq_iff_eq, is_some_iff, some.injEq, eq_comm]

theorem or_wildcard_iff {s value : String} :
    (s == value || s == "-1") = true ↔ Fits "-1" (some s) (some value) := by
  rw [Bool.or_comm, wildcard_or_iff]

theorem getD_wildcard_iff {given : Option String} {value : String} :
    (value == given.getD "-1" || given.getD "-1" == "-1") = true ↔
      Fits "-1" given (some value) := by
  cases given with
  | none => exact iff_of_true (Bool.or_true _) fits_none
  | some s =>
    rw [getD_some, @BEq.comm _ _ _ value, or_wildcard_iff]

theorem says_iff {key s : String} (h : t.properties.lookup key = some s) :
    ¬ (s == "" || s == "-1") = true ↔ Says t key := by
  rw [Bool.or_eq_true, beq_iff_eq, beq_iff_eq, not_or, Says, h]
  refine ⟨fun hs => ⟨s, rfl, hs⟩, ?_⟩
  rintro ⟨s', hs', hsay⟩
  rw [some.inj hs']
  exact hsay

theorem exists_origin_iff :
    (∃ origin, t.originDSUID rt = .ok origin ∧
        Fits "-1" (nonempty (text rt trigger "dsuid")) (some origin)) ↔
      (Carries t "originDSUID" → (eventOrigin rt t).isSome = true) ∧
        (Fits "-1" (nonempty (text rt trigger "dsuid")) (eventOrigin rt t) ∨
          ¬ Carries t "originDSUID" ∧
            nonempty (text rt trigger "dsuid") = some rt.unsetDSUID) := by
  have hnone : ¬ Carries t "originDSUID" → eventOrigin rt t = none := by
    intro h
    rw [Carries, Bool.not_eq_true, isSome_eq_false_iff, isNone_iff_eq_none] at h
    rw [eventOrigin, h, bind_none]
  simp only [originDSUID_eq_ok_iff]
  by_cases hcarries : Carries t "originDSUID"
  · cases horigin : eventOrigin rt t with
    | none => simp [hcarries]
    | some origin => simp [hcarries]
  · rw [hnone hcarries]
    cases hgiven : nonempty (text rt trigger "dsuid") with
    | none => simp [hcarries, fits_none]
    | some s => simp [hcarries, fits_some_iff, @eq_comm _ s]

theorem sceneIs_iff {s : String} (hgiven : Given trigger "scene")
    (hscene : t.properties.lookup "sceneID" = some s) (h : HoldsNumber trigger "scene") :
    integerFits (trigger.getPropertyByName "scene") (· == strToIntDef s (-1)) = true ↔
      Is (number trigger "scene") (eventScene t) := by
  obtain ⟨i, hi, -⟩ := h.exists_number hgiven
  rw [integerFits_iff, hi, is_some_iff, eventScene, hscene, map_some]
  simp only [some.injEq, exists_eq_left', beq_iff_eq]
  exact eq_comm

theorem forced_iff (h : HoldsFlag trigger "forced") {b : Bool} :
    SaysYes (match trigger.getPropertyByName "forced" with
      | none => (pure true : Except Failure Bool)
      | some flag =>
        match flag.getBoolValue with
        | .ok iForced => pure (iForced == b)
        | .error _ => pure false) ↔ Is (flag trigger "forced") (some b) := by
  rw [flag]
  cases hnode : trigger.getPropertyByName "forced" with
  | none => exact iff_of_true rfl is_none
  | some node =>
    obtain ⟨b', hb'⟩ := h node hnode
    have hvalue : node.getBoolValue = .ok b' := by rw [PropertyNode.getBoolValue, hb']
    dsimp only
    rw [bind_some, hvalue, Except.toOption, is_some_iff]
    exact saysYes_pure.trans (by rw [beq_iff_eq, some.injEq, eq_comm])

def FiresZone (kind : TriggerKind) (rt : Runtime) (t : SystemTrigger) (trigger : PropertyNode) :
    Prop :=
  MeetsZone t trigger kind ∧
    (Fits "-1" (nonempty (text rt trigger "dsuid")) (eventOrigin rt t) ∨
      ¬ Carries t "originDSUID" ∧ nonempty (text rt trigger "dsuid") = some rt.unsetDSUID)

theorem checkSceneZone_iff {kind : TriggerKind} (hkind : kind = .zoneScene ∨ kind = .busZoneScene)
    (hevt : t.evtName = kind.evtName) (h : HasFields trigger kind) :
    SaysYes (t.checkSceneZone rt trigger) ↔ Readable rt t kind ∧ FiresZone kind rt t trigger := by
  have hname : (t.evtName == "callScene" || t.evtName == "callSceneBus") = true := by
    rw [hevt]
    rcases hkind with rfl | rfl <;> rfl
  have hfields : HasFields trigger .zoneScene := by
    rcases hkind with rfl | rfl <;> exact h
  have hreadable : Readable rt t kind = Readable rt t .zoneScene := by
    rcases hkind with rfl | rfl <;> rfl
  have hother : kind ≠ .undoZoneScene := by
    rcases hkind with rfl | rfl <;> decide
  obtain ⟨hzone, hgroup, hscene, hzoneNumber, hgroupNumber, hsceneNumber, hforced⟩ := hfields
  rw [checkSceneZone, hreadable, FiresZone, MeetsZone, if_neg hother]
  simp only [hname, saysYes_refuse, saysYes_bind, get_eq_ok_iff, Bool.not_eq_true',
    Bool.not_eq_false, hzoneNumber.fits_iff hzone, hgroupNumber.fits_iff hgroup, originFits_iff]
  constructor
  · rintro ⟨-, hsrc, s, hs, origin, horigin, hz, hg, hsc, ho, hf⟩
    obtain ⟨hread, hfits⟩ := exists_origin_iff.1 ⟨origin, horigin, ho⟩
    exact ⟨⟨carries_iff.2 ⟨s, hs⟩, hread⟩,
      ⟨hsrc, hz, hg, (sceneIs_iff hscene hs hsceneNumber).mp hsc,
        (forced_iff hforced).mp hf⟩, hfits⟩
  · rintro ⟨⟨hcarries, hread⟩, ⟨hsrc, hz, hg, hsc, hf⟩, hfits⟩
    obtain ⟨s, hs⟩ := carries_iff.1 hcarries
    obtain ⟨origin, horigin, ho⟩ := exists_origin_iff.2 ⟨hread, hfits⟩
    exact ⟨trivial, hsrc, s, hs, origin, horigin, hz, hg,
      (sceneIs_iff hscene hs hsceneNumber).mpr hsc, ho, (forced_iff hforced).mpr hf⟩

theorem HoldsNumber.optional_fits_iff {name : String} (h : HoldsNumber trigger name) {value : ℤ} :
    ((trigger.getPropertyByName name).isNone || integerFits (trigger.getPropertyByName name)
        (fun i => decide (i < 0) || i == value)) = true ↔
      Fits (-1) (number trigger name) (some value) := by
  rw [Bool.or_eq_true, isNone_iff_eq_none]
  cases hnode : trigger.getPropertyByName name with
  | none =>
    rw [number, hnode]
    exact iff_of_true (Or.inl rfl) fits_none
  | some node =>
    rw [← hnode, h.fits_iff (given_iff.2 ⟨node, hnode⟩), hnode]
    exact or_iff_right (some_ne_none node)

theorem checkUndoSceneZone_iff (hevt : t.evtName = TriggerKind.undoZoneScene.evtName)
    (h : HasFields trigger .undoZoneScene) :
    SaysYes (t.checkUndoSceneZone rt trigger) ↔
      Readable rt t .undoZoneScene ∧ FiresZone .undoZoneScene rt t trigger := by
  obtain ⟨hzone, hzoneNumber, hgroupNumber, hsceneNumber⟩ := h
  have hname : (t.evtName != "undoScene") = false := by
    rw [hevt]
    rfl
  have hgiven : (trigger.getPropertyByName "zone").isNone = false := by
    rw [isNone_eq_false_iff]
    exact hzone
  rw [checkUndoSceneZone]
  simp only [hname, hgiven, saysYes_refuse, saysYes_bind, saysYes_pure, get_eq_ok_iff,
    Bool.not_eq_true', Bool.not_eq_false, Bool.false_or, hzoneNumber.fits_iff hzone,
    hgroupNumber.optional_fits_iff, hsceneNumber.optional_fits_iff, originFits_iff]
  constructor
  · rintro ⟨-, hsrc, s, hs, origin, horigin, -, hz, hg, hsc, ho⟩
    obtain ⟨hread, hfits⟩ := exists_origin_iff.1 ⟨origin, horigin, ho⟩
    refine ⟨⟨carries_iff.2 ⟨s, hs⟩, hread⟩, ⟨hsrc, hz, hg, ?_⟩, hfits⟩
    rw [eventScene, hs]
    exact hsc
  · rintro ⟨⟨hcarries, hread⟩, ⟨hsrc, hz, hg, hsc⟩, hfits⟩
    obtain ⟨s, hs⟩ := carries_iff.1 hcarries
    obtain ⟨origin, horigin, ho⟩ := exists_origin_iff.2 ⟨hread, hfits⟩
    rw [eventScene, hs] at hsc
    exact ⟨Bool.false_ne_true, hsrc, s, hs, origin, horigin, Bool.false_ne_true, hz, hg, hsc, ho⟩

theorem checkDeviceScene_iff (hevt : t.evtName = TriggerKind.deviceScene.evtName)
    (h : HasFields trigger .deviceScene) :
    SaysYes (t.checkDeviceScene trigger) ↔ Readable rt t .deviceScene ∧
      t.evtSrcIsDevice = true ∧ Fits "-1" (text rt trigger "dsuid") (some t.evtSrcDSID) ∧
        Is (number trigger "scene") (eventScene t) := by
  obtain ⟨hdsuid, hscene, hdsuidText, hsceneNumber⟩ := h
  have hname : (t.evtName != "callScene") = false := by
    rw [hevt]
    rfl
  obtain ⟨dsuidNode, hdsuidNode⟩ := given_iff.1 hdsuid
  obtain ⟨sceneNode, hsceneNode⟩ := given_iff.1 hscene
  have hsceneIs {s : String} (hs : t.properties.lookup "sceneID" = some s) :
      integerFits (some sceneNode) (· == strToIntDef s (-1)) = true ↔
        Is (number trigger "scene") (eventScene t) := by
    rw [← hsceneNode]
    exact sceneIs_iff hscene hs hsceneNumber
  rw [checkDeviceScene, hdsuidNode, hsceneNode, text_of_eq_some hdsuidNode]
  simp only [hname, saysYes_refuse, saysYes_bind, saysYes_pure, get_eq_ok_iff, Bool.not_eq_true',
    Bool.not_eq_false, hdsuidText.getStringValue rt hdsuidNode, Except.ok.injEq,
    exists_eq_left', wildcard_or_iff, beq_iff_eq]
  constructor
  · rintro ⟨-, hsrc, s, hs, hnull, hsc, hd⟩
    exact ⟨⟨carries_iff.2 ⟨s, hs⟩, hnull⟩, hsrc, hd, (hsceneIs hs).mp hsc⟩
  · rintro ⟨⟨hcarries, hnull⟩, hsrc, hd, hsc⟩
    obtain ⟨s, hs⟩ := carries_iff.1 hcarries
    exact ⟨Bool.false_ne_true, hsrc, s, hs, hnull, (hsceneIs hs).mpr hsc, hd⟩

theorem checkDevice_iff (hevt : t.evtName = TriggerKind.deviceMsg.evtName)
    (h : HasFields trigger .deviceMsg) :
    SaysYes (t.checkDevice rt trigger) ↔
      Readable rt t .deviceMsg ∧ Meets rt t trigger .deviceMsg := by
  obtain ⟨hdsuid, hmsg⟩ := h
  have hname : (t.evtName != "buttonClick") = false := by
    rw [hevt]
    rfl
  obtain ⟨dsuidNode, hdsuidNode⟩ := given_iff.1 hdsuid
  obtain ⟨msgNode, hmsgNode⟩ := given_iff.1 hmsg
  rw [checkDevice, Meets, hdsuidNode, hmsgNode, text_of_eq_some hdsuidNode,
    text_of_eq_some hmsgNode]
  simp only [hname, saysYes_refuse, saysYes_bind, saysYes_pure, get_eq_ok_iff, Bool.and_eq_true,
    wildcard_or_iff, beq_iff_eq]
  constructor
  · rintro ⟨-, click, hclick, index, hindex, hnull, hsay, ⟨hd, hm⟩, hi⟩
    refine ⟨⟨(says_iff hclick).mp hsay, carries_iff.2 ⟨index, hindex⟩, hnull⟩, hd, ?_, ?_⟩
    · rw [hclick]
      exact or_wildcard_iff.1 hm
    · rw [hindex]
      exact getD_wildcard_iff.1 hi
  · rintro ⟨⟨hsay, hcarries, hnull⟩, hd, hm, hi⟩
    obtain ⟨click, hclick, -⟩ := id hsay
    obtain ⟨index, hindex⟩ := carries_iff.1 hcarries
    rw [hclick] at hm
    rw [hindex] at hi
    exact ⟨Bool.false_ne_true, click, hclick, index, hindex, hnull, (says_iff hclick).mpr hsay,
      ⟨hd, or_wildcard_iff.2 hm⟩, getD_wildcard_iff.2 hi⟩

theorem checkDirectDeviceAction_iff (hevt : t.evtName = TriggerKind.deviceAction.evtName)
    (h : HasFields trigger .deviceAction) :
    SaysYes (t.checkDirectDeviceAction rt trigger) ↔
      Readable rt t .deviceAction ∧ Meets rt t trigger .deviceAction := by
  obtain ⟨hdsuid, haction⟩ := h
  have hname : (t.evtName != "buttonDeviceAction") = false := by
    rw [hevt]
    rfl
  obtain ⟨dsuidNode, hdsuidNode⟩ := given_iff.1 hdsuid
  obtain ⟨actionNode, hactionNode⟩ := given_iff.1 haction
  rw [checkDirectDeviceAction, checkDeviceId, Meets, hdsuidNode, hactionNode,
    text_of_eq_some hdsuidNode, text_of_eq_some hactionNode]
  simp only [hname, saysYes_refuse, saysYes_bind, saysYes_pure, get_eq_ok_iff, Bool.and_eq_true,
    wildcard_or_iff, beq_iff_eq]
  constructor
  · rintro ⟨-, action, haction, hnull, hsay, hd, ha⟩
    refine ⟨⟨(says_iff haction).mp hsay, hnull⟩, hd, ?_⟩
    rw [haction]
    exact or_wildcard_iff.1 ha
  · rintro ⟨⟨hsay, hnull⟩, hd, ha⟩
    obtain ⟨action, haction, -⟩ := id hsay
    rw [haction] at ha
    exact ⟨Bool.false_ne_true, action, haction, hnull, (says_iff haction).mpr hsay, hd,
      or_wildcard_iff.2 ha⟩

def FiresSensor (rt : Runtime) (t : SystemTrigger) (trigger : PropertyNode) : Prop :=
  Fits "-1" (text rt trigger "dsuid") (some t.evtSrcDSID) ∧
    (Given trigger "eventid" ∧
        Fits "-1" (text rt trigger "eventid") (t.properties.lookup "sensorIndex") ∨
      ¬ Given trigger "eventid" ∧
        Fits "-1" (text rt trigger "evt") (t.properties.lookup "sensorEvent"))

theorem checkDeviceSensor_iff (hevt : t.evtName = TriggerKind.deviceSensor.evtName)
    (h : HasFields trigger .deviceSensor) :
    SaysYes (t.checkDeviceSensor rt trigger) ↔
      Readable rt t .deviceSensor ∧ FiresSensor rt t trigger := by
  obtain ⟨hdsuid, hany, hdsuidText, hevtText⟩ := h
  have hname : (t.evtName != "deviceSensorEvent") = false := by
    rw [hevt]
    rfl
  obtain ⟨dsuidNode, hdsuidNode⟩ := given_iff.1 hdsuid
  rw [checkDeviceSensor, FiresSensor, hdsuidNode, text_of_eq_some hdsuidNode]
  simp only [hname, saysYes_refuse, saysYes_bind, get_eq_ok_iff,
    hdsuidText.getStringValue rt hdsuidNode, Except.ok.injEq, exists_eq_left',
    Bool.not_eq_true', Bool.not_eq_false, wildcard_or_iff]
  cases hid : trigger.getPropertyByName "eventid" with
  | some idNode =>
    -- the index decides, but the name is read all the same
    have hgiven : Given trigger "eventid" := given_iff.2 ⟨idNode, hid⟩
    simp only [saysYes_pure, or_wildcard_iff, hgiven, text_of_eq_some hid, not_true, false_and,
      true_and, or_false]
    constructor
    · rintro ⟨-, name, hname, index, hindex, hd, hi⟩
      rw [hindex]
      exact ⟨⟨carries_iff.2 ⟨name, hname⟩, carries_iff.2 ⟨index, hindex⟩⟩, hd, hi⟩
    · rintro ⟨⟨hcarriesName, hcarriesIndex⟩, hd, hi⟩
      obtain ⟨name, hname⟩ := carries_iff.1 hcarriesName
      obtain ⟨index, hindex⟩ := carries_iff.1 hcarriesIndex
      rw [hindex] at hi
      exact ⟨Bool.false_ne_true, name, hname, index, hindex, hd, hi⟩
  | none =>
    have hgiven : ¬ Given trigger "eventid" := by
      rw [Given, hid]
      exact Bool.false_ne_true
    obtain ⟨evtNode, hevtNode⟩ := given_iff.1 (hany.resolve_left hgiven)
    simp only [hevtNode, saysYes_bind, saysYes_pure, or_wildcard_iff, hgiven,
      text_of_eq_some hevtNode, hevtText.getStringValue rt hevtNode, Except.ok.injEq,
      exists_eq_left', not_false_iff, false_and, true_and, false_or]
    constructor
    · rintro ⟨-, name, hname, index, hindex, hd, hi⟩
      rw [hname]
      exact ⟨⟨carries_iff.2 ⟨name, hname⟩, carries_iff.2 ⟨index, hindex⟩⟩, hd, hi⟩
    · rintro ⟨⟨hcarriesName, hcarriesIndex⟩, hd, hi⟩
      obtain ⟨name, hname⟩ := carries_iff.1 hcarriesName
      obtain ⟨index, hindex⟩ := carries_iff.1 hcarriesIndex
      rw [hname] at hi
      exact ⟨Bool.false_ne_true, name, hname, index, hindex, hd, hi⟩

/-- Where a trigger for a binary input says yes: the type decides if it is given, and else the
index. -/
def FiresBinaryInput (rt : Runtime) (t : SystemTrigger) (trigger : PropertyNode) : Prop :=
  Fits "-1" (text rt trigger "dsuid") (some t.evtSrcDSID) ∧
    Is (text rt trigger "stype") (t.properties.lookup "inputType") ∧
    (¬ Given trigger "stype" → Is (text rt trigger "index") (t.properties.lookup "inputIndex")) ∧
    Is (text rt trigger "state") (t.properties.lookup "inputState")

theorem checkDeviceBinaryInput_iff (hevt : t.evtName = TriggerKind.deviceBinaryInput.evtName)
    (h : HasFields trigger .deviceBinaryInput) :
    SaysYes (t.checkDeviceBinaryInput rt trigger) ↔
      Readable rt t .deviceBinaryInput ∧ FiresBinaryInput rt t trigger := by
  obtain ⟨hany, hstate, hdsuidText⟩ := h
  have hname : (t.evtName != "deviceBinaryInputEvent") = false := by
    rw [hevt]
    rfl
  obtain ⟨stateNode, hstateNode⟩ := given_iff.1 hstate
  rw [checkDeviceBinaryInput, Readable, FiresBinaryInput, hstateNode, text_of_eq_some hstateNode,
    carries_iff, carries_iff, carries_iff]
  simp only [hname, saysYes_refuse, saysYes_bind, get_eq_ok_iff]
  cases hindex : t.properties.lookup "inputIndex" with
  | none => simp
  | some index =>
    cases htype : t.properties.lookup "inputType" with
    | none => simp
    | some type =>
      cases hinput : t.properties.lookup "inputState" with
      | none => simp
      | some state =>
        simp only [some.injEq, exists_eq_left', exists_eq', true_and, Bool.false_eq_true,
          not_false_iff]
        cases htypeNode : trigger.getPropertyByName "stype" with
        | none =>
          have hnone : ¬ Given trigger "stype" := by
            rw [Given, htypeNode]
            exact Bool.false_ne_true
          obtain ⟨hdsuid, hindexGiven⟩ := hany.resolve_right hnone
          obtain ⟨dsuidNode, hdsuidNode⟩ := given_iff.1 hdsuid
          obtain ⟨indexNode, hindexNode⟩ := given_iff.1 hindexGiven
          simp only [hdsuidNode, hindexNode, text_of_eq_none htypeNode, hnone,
            text_of_eq_some hdsuidNode, text_of_eq_some hindexNode, is_none, isNone_some,
            map_none, any_none, Bool.false_and, Bool.false_eq_true, if_false,
            hdsuidText.getStringValue rt hdsuidNode, saysYes_bind, saysYes_refuse,
            saysYes_accept, saysYes_pure, Bool.not_eq_true', Bool.not_eq_false, wildcard_or_iff,
            Except.ok.injEq, exists_eq_left', Bool.and_eq_true, beq_iff_is, not_false_iff,
            true_implies, true_and, or_false]
        | some typeNode =>
          have hgiven : Given trigger "stype" := given_iff.2 ⟨typeNode, htypeNode⟩
          simp only [text_of_eq_some htypeNode, hgiven, isNone_some, map_some,
            any_some, Bool.and_false, Bool.false_eq_true, not_true, false_implies, true_and,
            not_false_iff]
          cases hdsuidNode : trigger.getPropertyByName "dsuid" with
          | none =>
            simp only [text_of_eq_none hdsuidNode, fits_none, saysYes_pure, Bool.and_eq_true,
              beq_iff_is, true_and]
          | some dsuidNode =>
            simp only [text_of_eq_some hdsuidNode, saysYes_bind, saysYes_refuse, wildcard_or_iff,
              hdsuidText.getStringValue rt hdsuidNode, Except.ok.injEq, exists_eq_left',
              Bool.not_eq_true', Bool.not_eq_false]
            cases trigger.getPropertyByName "index" with
            | none => simp only [saysYes_pure, Bool.and_eq_true, beq_iff_is]
            | some indexNode =>
              -- with the type there, the index changes nothing
              simp only [saysYes_pure, saysYes_refuse, saysYes_accept, bne, Bool.not_eq_true',
                Bool.not_eq_false, Bool.and_eq_true, beq_iff_is]
              tauto

/-- Where a trigger for a state says yes: the state or the value will do, and one that is not given
is the empty text. -/
def FiresState (rt : Runtime) (t : SystemTrigger) (trigger : PropertyNode) : Prop :=
  Is (text rt trigger "name") (t.properties.lookup "statename") ∧
    (t.properties.lookup "state" = some ((text rt trigger "state").getD "") ∨
      t.properties.lookup "value" = some ((text rt trigger "value").getD "")) ∧
    Is (nonempty (text rt trigger "oldvalue")) (t.properties.lookup "oldvalue")

theorem oldvalue_iff {given : Option String} {value : String} :
    (given.getD "" == "" || given.getD "" == value) = true ↔ Is (nonempty given) (some value) := by
  rw [nonempty]
  cases given with
  | none => exact iff_of_true rfl is_none
  | some s =>
    rw [filter_some]
    by_cases hs : s = ""
    · simp [hs, is_none]
    · simp [hs, is_some_iff, @eq_comm _ value]

theorem checkState_iff (hevt : t.evtName = TriggerKind.stateChange.evtName)
    (h : HasFields trigger .stateChange) :
    SaysYes (t.checkState rt trigger) ↔ Readable rt t .stateChange ∧ FiresState rt t trigger := by
  obtain ⟨hname, hany⟩ := h
  obtain ⟨nameNode, hnameNode⟩ := given_iff.1 hname
  have hchange : (t.evtName != "addonStateChange" && t.evtName != "stateChange") = false := by
    rw [hevt]
    rfl
  have haddon : (t.evtName == "addonStateChange") = false := by
    rw [hevt]
    rfl
  -- so the trigger is not refused for having neither
  have hgiven : ((text rt trigger "state").isNone && (text rt trigger "value").isNone) = false := by
    rw [Bool.and_eq_false_iff, isNone_eq_false_iff, isNone_eq_false_iff]
    exact hany.imp (fun h => isSome_iff_exists.mpr (given_iff_text.1 h))
      fun h => isSome_iff_exists.mpr (given_iff_text.1 h)
  rw [checkState, Readable, FiresState, text_of_eq_some hnameNode, carries_iff, carries_iff,
    carries_iff, carries_iff]
  simp only [hchange, haddon, hnameNode, saysYes_refuse, saysYes_bind, get_eq_ok_iff,
    Bool.false_eq_true, if_false, map_some]
  constructor
  · rintro ⟨name, hname, state, hstate, value, hvalue, oldvalue, holdvalue, -, hyes⟩
    rw [bne_iff_ne, not_not, saysYes_pure, Bool.and_eq_true, Bool.or_eq_true, beq_iff_eq,
      beq_iff_eq] at hyes
    obtain ⟨hn, hany, ho⟩ := hyes
    rw [hname, hstate, hvalue, holdvalue]
    exact ⟨⟨⟨name, rfl⟩, ⟨state, rfl⟩, ⟨value, rfl⟩, oldvalue, rfl⟩,
      is_some_iff.mpr (congrArg some hn.symm),
      hany.imp (fun h => congrArg some h.symm) fun h => congrArg some h.symm, oldvalue_iff.1 ho⟩
  · rintro ⟨⟨⟨name, hname⟩, ⟨state, hstate⟩, ⟨value, hvalue⟩, oldvalue, holdvalue⟩, hn, hany, ho⟩
    rw [hname, is_some_iff] at hn
    rw [hstate, hvalue] at hany
    rw [holdvalue] at ho
    refine ⟨name, hname, state, hstate, value, hvalue, oldvalue, holdvalue, ?_, ?_⟩
    · rw [← text, ← text, hgiven]
      exact Bool.false_ne_true
    · rw [bne_iff_ne, not_not, saysYes_pure, Bool.and_eq_true, Bool.or_eq_true, beq_iff_eq,
        beq_iff_eq]
      exact ⟨(some.inj hn).symm, hany.imp (fun h => (some.inj h).symm)
        fun h => (some.inj h).symm, oldvalue_iff.2 ho⟩

def check (rt : Runtime) (t : SystemTrigger) (trigger : PropertyNode) :
    TriggerKind → Except Failure Bool
  | .zoneScene | .busZoneScene => t.checkSceneZone rt trigger
  | .undoZoneScene => t.checkUndoSceneZone rt trigger
  | .deviceScene => t.checkDeviceScene trigger
  | .deviceMsg => t.checkDevice rt trigger
  | .deviceAction => t.checkDirectDeviceAction rt trigger
  | .deviceSensor => t.checkDeviceSensor rt trigger
  | .deviceBinaryInput => t.checkDeviceBinaryInput rt trigger
  | .stateChange => t.checkState rt trigger

theorem checkTriggerNode_iff {kind : TriggerKind} (h : text rt trigger "type" = some kind.type) :
    SaysYes (t.checkTriggerNode rt trigger) ↔
      t.evtName = kind.evtName ∧ SaysYes (check rt t trigger kind) := by
  obtain ⟨typeNode, htypeNode, htype⟩ := map_eq_some_iff.mp h
  rw [checkTriggerNode, htypeNode]
  dsimp only
  rw [htype]
  by_cases hevt : t.evtName = kind.evtName
  · rw [hevt, and_iff_right rfl]
    cases kind <;> simp only [TriggerKind.type, TriggerKind.evtName, check, String.reduceEq,
      reduceIte]
  · refine iff_of_false ?_ fun h => hevt h.1
    cases kind <;> simp only [TriggerKind.type, TriggerKind.evtName] at hevt ⊢ <;>
      simp only [hevt, String.reduceEq, reduceIte, ite_self, not_saysYes_no, not_false_iff]

/-- Where a trigger of a type says yes, to an event that it can read. -/
def Fires (rt : Runtime) (t : SystemTrigger) (trigger : PropertyNode) : TriggerKind → Prop
  | .zoneScene => FiresZone .zoneScene rt t trigger
  | .busZoneScene => FiresZone .busZoneScene rt t trigger
  | .undoZoneScene => FiresZone .undoZoneScene rt t trigger
  | .deviceScene =>
    t.evtSrcIsDevice = true ∧ Fits "-1" (text rt trigger "dsuid") (some t.evtSrcDSID) ∧
      Is (number trigger "scene") (eventScene t)
  | .deviceMsg => Meets rt t trigger .deviceMsg
  | .deviceAction => Meets rt t trigger .deviceAction
  | .deviceSensor => FiresSensor rt t trigger
  | .deviceBinaryInput => FiresBinaryInput rt t trigger
  | .stateChange => FiresState rt t trigger

theorem check_iff {kind : TriggerKind} (hevt : t.evtName = kind.evtName)
    (h : HasFields trigger kind) :
    SaysYes (check rt t trigger kind) ↔ Readable rt t kind ∧ Fires rt t trigger kind := by
  cases kind with
  | zoneScene => exact checkSceneZone_iff (Or.inl rfl) hevt h
  | busZoneScene => exact checkSceneZone_iff (Or.inr rfl) hevt h
  | undoZoneScene => exact checkUndoSceneZone_iff hevt h
  | deviceScene => exact checkDeviceScene_iff hevt h
  | deviceMsg => exact checkDevice_iff hevt h
  | deviceAction => exact checkDirectDeviceAction_iff hevt h
  | deviceSensor => exact checkDeviceSensor_iff hevt h
  | deviceBinaryInput => exact checkDeviceBinaryInput_iff hevt h
  | stateChange => exact checkState_iff hevt h

/-! ## Where they differ from what is asked for -/

theorem firesZone_iff {kind : TriggerKind} :
    (FiresZone kind rt t trigger ↔ MeetsZone t trigger kind ∧
        Fits "-1" (nonempty (text rt trigger "dsuid")) (eventOrigin rt t)) ↔
      ¬ MistakesOrigin rt t trigger kind := by
  rw [FiresZone, MistakesOrigin]
  by_cases hcarries : Carries t "originDSUID"
  · simp [hcarries]
  · have hnone : eventOrigin rt t = none := by
      rw [Carries, Bool.not_eq_true, isSome_eq_false_iff, isNone_iff_eq_none]
        at hcarries
      rw [eventOrigin, hcarries, bind_none]
    rw [hnone]
    by_cases hunset : nonempty (text rt trigger "dsuid") = some rt.unsetDSUID
    · rw [hunset, fits_some_iff]
      simp [hcarries]
    · simp [hunset]

theorem firesDeviceScene_iff (h : HasFields trigger .deviceScene) :
    (Fires rt t trigger .deviceScene ↔ Meets rt t trigger .deviceScene) ↔
      ¬ Mistakes rt t trigger .deviceScene := by
  obtain ⟨-, hscene, -, hnumber⟩ := h
  obtain ⟨i, hi, -⟩ := hnumber.exists_number hscene
  rw [Fires, Meets, Mistakes, hi, is_some_iff, fits_some_iff, some.injEq]
  by_cases hwildcard : i = -1
  · rw [hwildcard]
    tauto
  · tauto

theorem firesSensor_iff :
    (FiresSensor rt t trigger ↔ Meets rt t trigger .deviceSensor) ↔
      ¬ Mistakes rt t trigger .deviceSensor := by
  rw [FiresSensor, Meets, Mistakes]
  by_cases hgiven : Given trigger "eventid"
  · by_cases hevt : Fits "-1" (text rt trigger "evt") (t.properties.lookup "sensorEvent")
    · simp [hgiven, hevt]
    · simp [hgiven, hevt]
  · have hnone : text rt trigger "eventid" = none := by
      rw [text, map_eq_none_iff]
      exact not_isSome_iff_eq_none.mp hgiven
    rw [hnone]
    simp [hgiven, fits_none]

theorem firesBinaryInput_iff :
    (FiresBinaryInput rt t trigger ↔ Meets rt t trigger .deviceBinaryInput) ↔
      ¬ Mistakes rt t trigger .deviceBinaryInput := by
  rw [FiresBinaryInput, Meets, Mistakes]
  tauto

theorem eq_some_getD_of_is {given value : Option String} (h : Is given value)
    (hgiven : ∃ s, given = some s) : value = some (given.getD "") := by
  obtain ⟨s, rfl⟩ := hgiven
  exact is_some_iff.mp h

theorem firesState_iff (h : HasFields trigger .stateChange) :
    (FiresState rt t trigger ↔ Meets rt t trigger .stateChange) ↔
      ¬ Mistakes rt t trigger .stateChange := by
  have hany : Is (text rt trigger "state") (t.properties.lookup "state") →
      Is (text rt trigger "value") (t.properties.lookup "value") →
        t.properties.lookup "state" = some ((text rt trigger "state").getD "") ∨
          t.properties.lookup "value" = some ((text rt trigger "value").getD "") := by
    intro hstate hvalue
    rcases h.2 with hgiven | hgiven
    · exact Or.inl (eq_some_getD_of_is hstate (given_iff_text.1 hgiven))
    · exact Or.inr (eq_some_getD_of_is hvalue (given_iff_text.1 hgiven))
  rw [FiresState, Meets, Mistakes]
  tauto

theorem fires_iff {kind : TriggerKind} (h : HasFields trigger kind) :
    (Fires rt t trigger kind ↔ Meets rt t trigger kind) ↔ ¬ Mistakes rt t trigger kind := by
  cases kind with
  | zoneScene => exact firesZone_iff
  | busZoneScene => exact firesZone_iff
  | undoZoneScene => exact firesZone_iff
  | deviceScene => exact firesDeviceScene_iff h
  | deviceMsg => exact iff_of_true Iff.rfl not_false
  | deviceAction => exact iff_of_true Iff.rfl not_false
  | deviceSensor => exact firesSensor_iff
  | deviceBinaryInput => exact firesBinaryInput_iff
  | stateChange => exact firesState_iff h

variable (rt t) in
/-- **Trigger fields.** A well-formed trigger fires exactly for the events that have every field
that is given, or its wildcard, if and only if its check does not slip. -/
theorem checkTriggerNode_fields_iff {kind : TriggerKind} (h : WellFormed rt trigger kind) :
    (t.checkTriggerNode rt trigger = .ok true ↔ StandsFor rt t trigger kind) ↔
      ¬ Slips rt t trigger kind := by
  have hcheck := checkTriggerNode_iff (t := t) h.type
  rw [SaysYes] at hcheck
  rw [hcheck, StandsFor, Slips]
  by_cases hevt : t.evtName = kind.evtName
  · have hfires := @fires_iff rt t _ _ h.fields
    rw [check_iff hevt h.fields]
    by_cases hread : Readable rt t kind
    · simp only [hevt, hread, true_and, not_true, and_false, false_or]
      exact hfires
    · simp [hevt, hread]
  · simp [hevt]

end Checks

/-! ## Two triggers -/

def lampDSUID : String := "3504175fe0000000000000000000000100"

def anySceneTrigger : PropertyNode where
  name := "0"
  children := [textNode "type" "device-scene", textNode "dsuid" lampDSUID,
    { name := "scene", value := .integer (-1) }]

def sceneCall : SystemTrigger :=
  ofEvent bareRuntime
    { name := "callScene", raisedAt := .device lampDSUID 1,
      properties := (∅ : Properties).insert "sceneID" "5" }

def secondInputTrigger : PropertyNode where
  name := "0"
  children := [textNode "type" "device-binary-input", textNode "dsuid" lampDSUID,
    textNode "index" "1", textNode "stype" "5", textNode "state" "1"]

def firstInputChange : SystemTrigger :=
  ofEvent bareRuntime
    { name := "deviceBinaryInputEvent", raisedAt := .device lampDSUID 1,
      properties := (((∅ : Properties).insert "inputIndex" "0").insert "inputType" "5").insert
        "inputState" "1" }

theorem wellFormed_secondInputTrigger :
    WellFormed bareRuntime secondInputTrigger .deviceBinaryInput where
  type := rfl
  fields := by
    refine ⟨Or.inr rfl, rfl, ?_⟩
    intro node hnode
    cases hnode
    exact ⟨_, rfl⟩

theorem checkTriggerNode_fields_iff_secondInput :
    (firstInputChange.checkTriggerNode bareRuntime secondInputTrigger = .ok true ↔
        StandsFor bareRuntime firstInputChange secondInputTrigger .deviceBinaryInput) ↔
      ¬ Slips bareRuntime firstInputChange secondInputTrigger .deviceBinaryInput :=
  checkTriggerNode_fields_iff bareRuntime firstInputChange wellFormed_secondInputTrigger

/-- The wildcard matches no scene, and another index fires. -/
theorem checkTriggerNode_fields_fails :
    ¬ (sceneCall.checkTriggerNode bareRuntime anySceneTrigger = .ok true ↔
        StandsFor bareRuntime sceneCall anySceneTrigger .deviceScene) ∧
      ¬ (firstInputChange.checkTriggerNode bareRuntime secondInputTrigger = .ok true ↔
        StandsFor bareRuntime firstInputChange secondInputTrigger .deviceBinaryInput) := by
  constructor
  · intro h
    have hstands : StandsFor bareRuntime sceneCall anySceneTrigger .deviceScene := by
      refine ⟨rfl, rfl, ?_, ?_⟩
      · exact fits_some_iff.mpr (Or.inr rfl)
      · exact fits_some_iff.mpr (Or.inl rfl)
    have hno : sceneCall.checkTriggerNode bareRuntime anySceneTrigger = .ok false := by decide
    rw [h.mpr hstands] at hno
    cases hno
  · intro h
    have hyes : firstInputChange.checkTriggerNode bareRuntime secondInputTrigger = .ok true := by
      decide
    obtain ⟨-, -, hindex, -⟩ := h.mp hyes
    have hother : some "0" = some "1" := is_some_iff.mp hindex
    exact absurd hother (by decide)

end TriggerFields

end Dss
