import Dss.CloudEvents

/-!
# Uploading a batch of events

`doUploadSensorData` of both hubs: an array is opened, each event is converted within an object of
its own, and the object is ended whether or not the conversion failed. Without a converted event
nothing is posted.

A batch should become the array of the objects that its convertible events yield alone. An object
of a refused event stays in the array, and one that was left open, or closed once too often, ends
in a failed assertion.
-/

namespace Dss

open Interruptible Json List

/-- What is posted. -/
structure CloudRequest : Type where
  url : String
  parameters : String
  headers : List (String × String)
  postdata : String
  deriving DecidableEq

structure CloudHub (E : Type) : Type where
  arrayName : String
  request : String → CloudRequest
  toJson : E → JSONWriter Unit

inductive CloudUpload : Type where
  | failedAssertion : CloudUpload
  /-- the function returns, and may have posted something -/
  | returned : Bool → Option CloudRequest → CloudUpload
  deriving DecidableEq

namespace CloudHub

variable {E : Type}

/-- The loop: what is written, and how many events were converted. An exception of another class
than `DSSException`, or a failed assertion, ends everything. -/
def convertAll (hub : CloudHub E) : ℕ → List E → Except Thrown (List Call × ℕ)
  | _, [] => .ok ([], 0)
  | n, e :: events =>
    let script := hub.toJson e n
    match script.result with
    | .ok () => do
      let (calls, ct) ← convertAll hub script.state events
      return (.startObject :: (written script ++ .endObject :: calls), ct + 1)
    | .error (.dssException _) => do
      let (calls, ct) ← convertAll hub script.state events
      return (.startObject :: (written script ++ .endObject :: calls), ct)
    | .error failure => .error failure

example (hub : CloudHub E) (n : ℕ) : hub.convertAll n [] = .ok ([], 0) := by rw [convertAll]

/-- `doUploadSensorData`, where so many headers were made before. -/
def doUploadSensorData (hub : CloudHub E) (writer : Json.Writer) (n : ℕ) (events : List E) :
    CloudUpload :=
  match hub.convertAll n events with
  | .error _ => .failedAssertion
  | .ok (calls, ct) =>
    let document := .startObject :: .string hub.arrayName :: .startArray ::
      (calls ++ [.endArray])
    if writer.accepts document = false then .failedAssertion
    else if ct = 0 then .returned false none
    else if writer.accepts (document ++ [.endObject]) = false then .failedAssertion
    else .returned true (some (hub.request (writer.text (document ++ [.endObject]))))

/-! ## What should come of it -/

def objectOf (script : Script ℕ Call Thrown Unit) : Option Value :=
  match run start (.startObject :: (written script ++ [.endObject])) with
  | some (.complete v) => some v
  | _ => none

def yields (hub : CloudHub E) : ℕ → List E → List (Option Value)
  | _, [] => []
  | n, e :: events =>
    let script := hub.toJson e n
    match script.result with
    | .ok () => objectOf script :: yields hub script.state events
    | .error _ => yields hub script.state events

def document (hub : CloudHub E) (objects : List Value) : Value :=
  .object [(hub.arrayName, .array objects)]

def outcome (hub : CloudHub E) (objects : List Value) : CloudUpload :=
  if objects = [] then .returned false none
  else .returned true (some (hub.request (hub.document objects).text))

/-- No assertion fails, what is posted is the document with one complete object for each
convertible event, and nothing is posted if there is none. -/
def Isolates (hub : CloudHub E) (n : ℕ) (events : List E) (upload : CloudUpload) : Prop :=
  ∃ objects, hub.yields n events = objects.map some ∧ upload = hub.outcome objects

end CloudHub

/-! ## The hubs -/

def MsHub.hub (rt : CloudRuntime) : CloudHub CloudEvent where
  arrayName := "eventsList"
  request postdata :=
    { url := "public/dss/v1_0/DSSEventData/SaveEvent"
      parameters := "dssid=" ++ rt.dsid ++ "&source=dss"
      headers := [("Content-Type", "application/json;charset=UTF-8")]
      postdata := postdata }
  toJson := MsHub.toJson rt

def DsHub.hub (rt : CloudRuntime) : CloudHub CloudEvent where
  arrayName := "Events"
  request postdata :=
    { url := "v1/DSS/" ++ rt.dsid ++ "/Events"
      parameters := ""
      headers := [("Content-Type", "application/json;charset=UTF-8"),
        ("Accept", "application/json")]
      postdata := postdata }
  toJson := DsHub.toJson rt

/-- `WebserviceMsHub::doUploadSensorData` -/
def MsHub.doUploadSensorData (rt : CloudRuntime) (n : ℕ) (events : List CloudEvent) :
    CloudUpload :=
  (MsHub.hub rt).doUploadSensorData rt.writer n events

/-- `WebserviceDsHub::doUploadSensorData` -/
def DsHub.doUploadSensorData (rt : CloudRuntime) (n : ℕ) (events : List CloudEvent) :
    CloudUpload :=
  (DsHub.hub rt).doUploadSensorData rt.writer n events

namespace CloudHub

/-! ## Scripts -/

variable {E : Type} {hub : CloudHub E} {w : Json.Writer} {e : E} {events : List E} {n : ℕ}
  {calls : List Call} {script : Script ℕ Call Thrown Unit}
  {fate : E → Fate}

/-- The fates that do not disturb the document around. -/
def Harmless (fate : Fate) : Prop := fate = .complete ∨ fate = .refused

theorem isDSSException_iff {failure : Thrown} :
    failure.isDSSException = true ↔ ∃ text, failure = .dssException text := by
  cases failure with
  | dssException text => exact iff_of_true rfl ⟨text, rfl⟩
  | invalidArgument text => exact iff_of_false nofun (by rintro ⟨text, ⟨⟩⟩)
  | nullPointer => exact iff_of_false nofun (by rintro ⟨text, ⟨⟩⟩)
  | failedAssertion => exact iff_of_false nofun (by rintro ⟨text, ⟨⟩⟩)

theorem objectOf_of_written {members : List (String × Value)}
    (h : written script = membersCalls members) : objectOf script = some (.object members) := by
  have hrun : run start (.startObject :: (written script ++ [.endObject])) =
      some (.complete (.object members)) := by
    rw [h, ← Value.calls]
    exact run_start_calls
  rw [objectOf, hrun]

theorem convertAll_cons_of_ok (h : (hub.toJson e n).result = .ok ()) :
    hub.convertAll n (e :: events) =
      (hub.convertAll (hub.toJson e n).state events).map fun rest =>
        (.startObject :: (written (hub.toJson e n) ++ .endObject :: rest.1), rest.2 + 1) := by
  rw [convertAll]
  simp only [h]
  cases hub.convertAll (hub.toJson e n).state events <;> rfl

theorem convertAll_cons_of_caught {failure : Thrown}
    (h : (hub.toJson e n).result = .error failure) (hcaught : failure.isDSSException = true) :
    hub.convertAll n (e :: events) =
      (hub.convertAll (hub.toJson e n).state events).map fun rest =>
        (.startObject :: (written (hub.toJson e n) ++ .endObject :: rest.1), rest.2) := by
  obtain ⟨text, rfl⟩ := isDSSException_iff.1 hcaught
  rw [convertAll]
  simp only [h]
  cases hub.convertAll (hub.toJson e n).state events <;> rfl

theorem convertAll_cons_of_error {failure : Thrown}
    (h : (hub.toJson e n).result = .error failure) (hcaught : failure.isDSSException = false) :
    hub.convertAll n (e :: events) = .error failure := by
  rw [convertAll]
  simp only [h]
  cases failure with
  | dssException text => cases hcaught
  | invalidArgument text => rfl
  | nullPointer => rfl
  | failedAssertion => rfl

theorem yields_cons_of_ok (h : (hub.toJson e n).result = .ok ()) :
    hub.yields n (e :: events) =
      objectOf (hub.toJson e n) :: hub.yields (hub.toJson e n).state events := by
  rw [yields]
  simp only [h]

theorem yields_cons_of_error {failure : Thrown} (h : (hub.toJson e n).result = .error failure) :
    hub.yields n (e :: events) = hub.yields (hub.toJson e n).state events := by
  rw [yields]
  simp only [h]

theorem exists_of_map_eq_ok {α β ε : Type} {f : α → β} {x : Except ε α} {b : β}
    (h : x.map f = .ok b) : ∃ a, x = .ok a ∧ f a = b := by
  cases x with
  | error failure => cases h
  | ok a =>
    cases h
    exact ⟨a, rfl, rfl⟩

theorem calls_of_convertAll_cons {ct : ℕ} (h : hub.convertAll n (e :: events) = .ok (calls, ct)) :
    ∃ rest ct', hub.convertAll (hub.toJson e n).state events = .ok (rest, ct') ∧
      calls = .startObject :: (written (hub.toJson e n) ++ .endObject :: rest) := by
  rcases hresult : (hub.toJson e n).result with failure | ⟨⟩
  · rcases hcaught : failure.isDSSException with - | -
    · rw [convertAll_cons_of_error hresult hcaught] at h
      cases h
    · rw [convertAll_cons_of_caught hresult hcaught] at h
      obtain ⟨⟨rest, ct'⟩, hrest, heq⟩ := exists_of_map_eq_ok h
      exact ⟨rest, ct', hrest, (congrArg Prod.fst heq).symm⟩
  · rw [convertAll_cons_of_ok hresult] at h
    obtain ⟨⟨rest, ct'⟩, hrest, heq⟩ := exists_of_map_eq_ok h
    exact ⟨rest, ct', hrest, (congrArg Prod.fst heq).symm⟩

theorem eq_startObject_of_convertAll {ct : ℕ} (h : hub.convertAll n events = .ok (calls, ct)) :
    calls = [] ∨ ∃ rest, calls = .startObject :: rest := by
  cases events with
  | nil =>
    cases h
    exact Or.inl rfl
  | cons e events =>
    obtain ⟨rest, ct', -, heq⟩ := calls_of_convertAll_cons h
    exact Or.inr ⟨_, heq⟩

/-! ## Batches without harm -/

theorem run_object {members : List (String × Value)} {items : List Value} {frames : List Frame}
    (h : written script = membersCalls members) :
    run (.within (.array items :: frames))
        (.startObject :: (written script ++ .endObject :: calls)) =
      run (.within (.array (items ++ [.object members]) :: frames)) calls := by
  rw [h, run_startObject_of_array, run_append_of_some (run_membersCalls [] members),
    nil_append, run_endObject_of_within_array]

theorem convertAll_of_harmless
    (hfate : ∀ e, Meets Thrown.isDSSException (fate e) (hub.toJson e))
    (h : ∀ e ∈ events, Harmless (fate e)) : ∃ items objects,
      hub.convertAll n events = .ok (itemsCalls items, objects.length) ∧
      hub.yields n events = objects.map some ∧ List.Sublist objects items ∧
      items.length = events.length ∧
      objects.length = events.countP fun e => fate e = .complete := by
  induction events generalizing n with
  | nil => exact ⟨[], [], rfl, rfl, List.Sublist.slnil, rfl, rfl⟩
  | cons e events ih =>
    obtain ⟨items, objects, hconvert, hyields, hsub, hlength, hcount⟩ :=
      @ih (hub.toJson e n).state fun e' he' => h e' (mem_cons_of_mem e he')
    have hmeets := hfate e n
    rcases h e mem_cons_self with hcomplete | hrefused
    · rw [hcomplete] at hmeets
      obtain ⟨members, ⟨⟩, hwritten, hresult⟩ := hmeets
      refine ⟨.object members :: items, .object members :: objects, ?_, ?_, ?_, ?_, ?_⟩
      · rw [convertAll_cons_of_ok hresult, hconvert, hwritten]
        simp [Except.map, itemsCalls, Value.calls]
      · rw [yields_cons_of_ok hresult, hyields, objectOf_of_written hwritten, map_cons]
      · exact hsub.cons_cons _
      · rw [length_cons, length_cons, hlength]
      · rw [length_cons, hcount, countP_cons_of_pos (by simp [hcomplete])]
    · rw [hrefused] at hmeets
      obtain ⟨members, failure, hwritten, hresult, hcaught⟩ := hmeets
      refine ⟨.object members :: items, objects, ?_, ?_, ?_, ?_, ?_⟩
      · rw [convertAll_cons_of_caught hresult hcaught, hconvert, hwritten]
        simp [Except.map, itemsCalls, Value.calls]
      · rw [yields_cons_of_error hresult, hyields]
      · exact hsub.cons _
      · rw [length_cons, length_cons, hlength]
      · rw [hcount, countP_cons_of_neg (by simp [hrefused])]

/-! ## Batches with harm -/

theorem run_of_object {ct : ℕ} {members : List (String × Value)} {frames : List Frame}
    {rest : List Call} (h : hub.convertAll n events = .ok (calls, ct)) :
    run (.within (.object members :: frames)) (calls ++ .endArray :: rest) = none := by
  rcases eq_startObject_of_convertAll h with rfl | ⟨calls, rfl⟩
  · exact run_endArray_of_object
  · exact run_startObject_of_object

theorem run_of_not_harmless {ct : ℕ} {items : List Value} {frames : List Frame}
    {rest : List Call} (hfate : ∀ e, Meets Thrown.isDSSException (fate e) (hub.toJson e))
    (h : ∃ e ∈ events, ¬ Harmless (fate e))
    (hconvert : hub.convertAll n events = .ok (calls, ct)) :
    run (.within (.array items :: frames)) (calls ++ .endArray :: rest) = none := by
  induction events generalizing n calls ct items with
  | nil =>
    obtain ⟨e, he, -⟩ := h
    cases he
  | cons e events ih =>
    -- behind a harmless event, the others decide
    have hharmless : Harmless (fate e) → ∃ e' ∈ events, ¬ Harmless (fate e') := by
      intro hhead
      obtain ⟨e', he', hnot⟩ := h
      rcases mem_cons.mp he' with rfl | he'
      · exact absurd hhead hnot
      · exact ⟨e', he', hnot⟩
    obtain ⟨calls', ct', hconvert', rfl⟩ := calls_of_convertAll_cons hconvert
    have hmeets := hfate e n
    rw [cons_append, append_assoc, cons_append]
    rcases hkind : fate e with - | - | - | - | -
    all_goals rw [hkind] at hmeets
    · obtain ⟨members, ⟨⟩, hwritten, -⟩ := hmeets
      rw [run_object hwritten]
      exact ih (hharmless (Or.inl hkind)) hconvert'
    · obtain ⟨members, failure, hwritten, -, -⟩ := hmeets
      rw [run_object hwritten]
      exact ih (hharmless (Or.inr hkind)) hconvert'
    · -- the handler ends the inner object
      obtain ⟨members, name, members', failure, hwritten, -, -⟩ := hmeets
      rw [hwritten, append_assoc, run_startObject_of_array,
        run_append_of_some (run_membersCalls [] members), cons_append,
        cons_append, run_startObject_of_member,
        run_append_of_some (run_membersCalls [] members')]
      exact run_of_object hconvert'
    · -- the caller ends an object that is closed
      obtain ⟨members, ⟨⟩, hwritten, -⟩ := hmeets
      rw [hwritten, append_assoc, run_startObject_of_array,
        run_append_of_some (run_membersCalls [] members), singleton_append,
        run_endObject_of_within_array]
      exact run_endObject_of_array
    · obtain ⟨failure, hresult, hcaught⟩ := hmeets
      rw [convertAll_cons_of_error hresult hcaught] at hconvert
      cases hconvert

/-! ## The law -/

theorem run_start_document {name : String} : run start
      (.startObject :: .string name :: .startArray :: calls) =
    run (.within [.array [], .member [] name]) calls :=
  rfl

theorem doUploadSensorData_of_not_harmless (hw : w.Sound)
    (hfate : ∀ e, Meets Thrown.isDSSException (fate e) (hub.toJson e))
    (h : ∃ e ∈ events, ¬ Harmless (fate e)) :
    hub.doUploadSensorData w n events = .failedAssertion := by
  rw [doUploadSensorData]
  rcases hconvert : hub.convertAll n events with failure | ⟨calls, ct⟩
  · rfl
  · have hrun : w.accepts (.startObject :: .string hub.arrayName :: .startArray ::
        (calls ++ [.endArray])) = false := by
      rw [hw.accepts_eq, run_start_document, run_of_not_harmless hfate h hconvert]
      rfl
    simp only [hrun, if_true]

theorem doUploadSensorData_of_harmless {items : List Value} {ct : ℕ} (hw : w.Sound)
    (hconvert : hub.convertAll n events = .ok (itemsCalls items, ct)) :
    hub.doUploadSensorData w n events = if ct = 0 then .returned false none
      else .returned true (some (hub.request (hub.document items).text)) := by
  have hopen : run start (.startObject :: .string hub.arrayName :: .startArray ::
      (itemsCalls items ++ [.endArray])) =
      some (.within [.object [(hub.arrayName, .array items)]]) := by
    rw [run_start_document, run_append_of_some (run_itemsCalls [] items)]
    rfl
  have hclosed : run start ((.startObject :: .string hub.arrayName :: .startArray ::
      (itemsCalls items ++ [.endArray])) ++ [.endObject]) =
      some (.complete (hub.document items)) := by
    rw [run_append_of_some hopen]
    rfl
  have haccepts : w.accepts (.startObject :: .string hub.arrayName :: .startArray ::
      (itemsCalls items ++ [.endArray])) = true := by
    rw [hw.accepts_eq, hopen]
    rfl
  have haccepts' : w.accepts ((.startObject :: .string hub.arrayName :: .startArray ::
      (itemsCalls items ++ [.endArray])) ++ [.endObject]) = true := by
    rw [hw.accepts_eq, hclosed]
    rfl
  rw [doUploadSensorData, hconvert]
  simp only [haccepts, haccepts', hw.text_eq _ _ hclosed, Bool.true_eq_false, if_false]

theorem text_document_ne {objects items : List Value} (hsub : List.Sublist objects items)
    (hlength : objects.length < items.length) (hne : objects ≠ []) :
    (hub.document items).text ≠ (hub.document objects).text := by
  intro heq
  have hlt := length_lt_of_sublist hsub hlength hne
  have hlist := congrArg length (String.ofList_injective heq)
  simp only [document, Value.chars, membersChars, length_cons, length_append,
    length_nil] at hlist
  omega

/-- **When a batch is uploaded as it should be.** All of its events are converted, or all of them
are refused. -/
theorem isolates_iff (hw : w.Sound)
    (hrequest : Function.Injective hub.request)
    (hfate : ∀ e, Meets Thrown.isDSSException (fate e) (hub.toJson e)) :
    hub.Isolates n events (hub.doUploadSensorData w n events) ↔
      (∀ e ∈ events, fate e = .complete) ∨ ∀ e ∈ events, fate e = .refused := by
  by_cases hharmless : ∀ e ∈ events, Harmless (fate e)
  · obtain ⟨items, objects, hconvert, hyields, hsub, hlength, hcount⟩ :=
      @convertAll_of_harmless E hub events n fate hfate hharmless
    have hupload := doUploadSensorData_of_harmless hw hconvert
    constructor
    · rintro ⟨objects', hyields', houtcome⟩
      obtain rfl : objects = objects' :=
        map_injective_iff.mpr (fun _ _ => Option.some.inj) (hyields.symm.trans hyields')
      rcases eq_nil_or_concat objects with rfl | ⟨l, v, rfl⟩
      · -- nothing was converted
        right
        intro e he
        have hnot := countP_eq_zero.mp hcount.symm e he
        exact (hharmless e he).resolve_left (by simpa using hnot)
      · -- what was posted has no other items
        left
        have hne : l.concat v ≠ [] := by simp
        rw [hupload, if_neg (by simp), outcome, if_neg hne] at houtcome
        have htext := hrequest (Option.some.inj (CloudUpload.returned.inj houtcome).2)
        have hall : (l.concat v).length = items.length := by
          by_contra hdiffers
          exact text_document_ne hsub (lt_of_le_of_ne hsub.length_le hdiffers) hne htext
        have hcountP : (events.countP fun e => decide (fate e = .complete)) = events.length := by
          rw [← hcount, hall, hlength]
        intro e he
        simpa using countP_eq_length.mp hcountP e he
    · rintro (hcomplete | hrefused)
      · refine ⟨objects, hyields, ?_⟩
        have hall : objects.length = items.length := by
          rw [hcount, hlength, countP_eq_length]
          exact fun e he => by simpa using hcomplete e he
        rw [hupload, outcome, hsub.eq_of_length hall]
        simp only [length_eq_zero_iff]
      · refine ⟨objects, hyields, ?_⟩
        have hnone : objects = [] := by
          rw [← length_eq_zero_iff, hcount, countP_eq_zero]
          exact fun e he => by simp [hrefused e he]
        rw [hupload, hnone]
        rfl
  · have hex : ∃ e ∈ events, ¬ Harmless (fate e) := by
      simpa only [not_forall, exists_prop] using hharmless
    obtain ⟨e, he, hnot⟩ := hex
    constructor
    · rintro ⟨objects, -, houtcome⟩
      rw [doUploadSensorData_of_not_harmless hw hfate ⟨e, he, hnot⟩, outcome] at houtcome
      split_ifs at houtcome
    · rintro (hcomplete | hrefused)
      · exact absurd (Or.inl (hcomplete e he)) hnot
      · exact absurd (Or.inr (hrefused e he)) hnot

end CloudHub

end Dss
