import Dss.Interruptible
import Dss.JsonCalls

/-!
# Programs that write members of an object

A program writes members of an open object, and may fail on the way. Who runs it catches some of
its failures and then ends the object. `Meets` says which one of five fates the program has, and
the rules say how programs that follow one another or open objects come by theirs.
-/

namespace Json

open Interruptible Program

variable {S F A B : Type} {caught : F → Bool}

def written (script : Script S Call F A) : List Call := script.calls.map Prod.fst

/-- How far a program gets. -/
inductive Fate : Type where
  /-- it ends, and has written some members -/
  | complete : Fate
  /-- it fails in a way that is caught, having written some members -/
  | refused : Fate
  | opened : Fate
  /-- it ends, and has closed the object that it did not open -/
  | closed : Fate
  /-- it fails in a way that is not caught -/
  | crashed : Fate
  deriving DecidableEq

def HasFate (caught : F → Bool) : Fate → Script S Call F A → Prop
  | .complete, r => ∃ members a, written r = membersCalls members ∧ r.result = .ok a
  | .refused, r => ∃ members failure, written r = membersCalls members ∧
      r.result = .error failure ∧ caught failure = true
  | .opened, r => ∃ members name members' failure,
      written r = membersCalls members ++ .string name :: .startObject :: membersCalls members' ∧
      r.result = .error failure ∧ caught failure = true
  | .closed, r => ∃ members a, written r = membersCalls members ++ [.endObject] ∧
      r.result = .ok a
  | .crashed, r => ∃ failure, r.result = .error failure ∧ caught failure = false

/-- Every run of the program has this fate. -/
def Meets (caught : F → Bool) (fate : Fate) (x : Program S Call F A) : Prop :=
  ∀ s, HasFate caught fate (x s)

/-! ## Parts of programs -/

def object (name : String) (body : Program S Call F Unit) : Program S Call F Unit := do
  call (.string name)
  call .startObject
  body
  call .endObject

def array (name : String) (body : Program S Call F Unit) : Program S Call F Unit := do
  call (.string name)
  call .startArray
  body
  call .endArray

def item (body : Program S Call F Unit) : Program S Call F Unit := do
  call .startObject
  body
  call .endObject

/-! ## What is written -/

variable {x : Program S Call F A} {f : A → Program S Call F B} {s : S} {a : A} {failure : F}
  {body : Program S Call F Unit} {name : String}

theorem written_bind_of_ok (h : (x s).result = .ok a) :
    written ((x >>= f) s) = written (x s) ++ written (f a (x s).state) := by
  rw [bind_of_ok h, written, List.map_append]
  rfl

theorem result_bind_of_ok (h : (x s).result = .ok a) :
    ((x >>= f) s).result = (f a (x s).state).result := by
  rw [bind_of_ok h]

theorem written_bind_of_error (h : (x s).result = .error failure) :
    written ((x >>= f) s) = written (x s) := by
  rw [bind_of_error h]
  rfl

theorem result_bind_of_error (h : (x s).result = .error failure) :
    ((x >>= f) s).result = .error failure := by
  rw [bind_of_error h]

theorem written_object_of_ok (h : (body s).result = .ok ()) : written (object name body s) =
    .string name :: .startObject :: (written (body s) ++ [.endObject]) := by
  show .string name :: .startObject :: written ((body >>= fun _ => call .endObject) s) = _
  rw [written_bind_of_ok h]
  rfl

theorem result_object_of_ok (h : (body s).result = .ok ()) :
    (object name body s).result = .ok () := by
  show ((body >>= fun _ => call .endObject) s).result = .ok ()
  rw [result_bind_of_ok h]
  rfl

theorem written_object_of_error (h : (body s).result = .error failure) :
    written (object name body s) = .string name :: .startObject :: written (body s) := by
  show .string name :: .startObject :: written ((body >>= fun _ => call .endObject) s) = _
  rw [written_bind_of_error h]

theorem result_object_of_error (h : (body s).result = .error failure) :
    (object name body s).result = .error failure := by
  show ((body >>= fun _ => call .endObject) s).result = .error failure
  exact result_bind_of_error h

/-! ## The rules -/

variable {fate : Fate}

theorem meets_pure (a : A) : Meets caught .complete (pure a : Program S Call F A) :=
  fun _ => ⟨[], a, rfl, rfl⟩

theorem meets_get : Meets caught .complete (get : Program S Call F S) :=
  fun s => ⟨[], s, rfl, rfl⟩

theorem meets_modify (m : S → S) : Meets caught .complete (modify m : Program S Call F Unit) :=
  fun _ => ⟨[], (), rfl, rfl⟩

theorem meets_member (name : String) (v : Value) {c : Call} (hv : v.calls = [c]) :
    Meets caught .complete (call (.string name) >>= fun _ => call c : Program S Call F Unit) := by
  refine fun s => ⟨[(name, v)], (), ?_, rfl⟩
  rw [membersCalls, hv]
  rfl

theorem meets_fail_caught (h : caught failure = true) :
    Meets caught .refused (fail failure : Program S Call F A) :=
  fun _ => ⟨[], failure, rfl, rfl, h⟩

theorem meets_fail (h : caught failure = false) :
    Meets caught .crashed (fail failure : Program S Call F A) :=
  fun _ => ⟨failure, rfl, h⟩

theorem meets_endObject :
    Meets caught .closed (call .endObject : Program S Call F Unit) :=
  fun _ => ⟨[], (), rfl, rfl⟩

theorem Meets.bind (hx : Meets caught .complete x) (hf : ∀ a, Meets caught fate (f a)) :
    Meets caught fate (x >>= f) := by
  intro s
  obtain ⟨ms, a, hwritten, hok⟩ := hx s
  have hnext := hf a (x s).state
  cases fate with
  | complete =>
    obtain ⟨ms', b, hwritten', hok'⟩ := hnext
    refine ⟨ms ++ ms', b, ?_, ?_⟩
    · rw [written_bind_of_ok hok, hwritten, hwritten', membersCalls_append]
    · rw [result_bind_of_ok hok, hok']
  | refused =>
    obtain ⟨ms', failure, hwritten', herror, hcaught⟩ := hnext
    refine ⟨ms ++ ms', failure, ?_, ?_, hcaught⟩
    · rw [written_bind_of_ok hok, hwritten, hwritten', membersCalls_append]
    · rw [result_bind_of_ok hok, herror]
  | opened =>
    obtain ⟨ms', name, inner, failure, hwritten', herror, hcaught⟩ := hnext
    refine ⟨ms ++ ms', name, inner, failure, ?_, ?_, hcaught⟩
    · rw [written_bind_of_ok hok, hwritten, hwritten', membersCalls_append, List.append_assoc]
    · rw [result_bind_of_ok hok, herror]
  | closed =>
    obtain ⟨ms', b, hwritten', hok'⟩ := hnext
    refine ⟨ms ++ ms', b, ?_, ?_⟩
    · rw [written_bind_of_ok hok, hwritten, hwritten', membersCalls_append, List.append_assoc]
    · rw [result_bind_of_ok hok, hok']
  | crashed =>
    obtain ⟨failure, herror, hcaught⟩ := hnext
    refine ⟨failure, ?_, hcaught⟩
    rw [result_bind_of_ok hok, herror]

theorem Meets.refused_bind (hx : Meets caught .refused x) :
    Meets caught .refused (x >>= f) := by
  intro s
  obtain ⟨ms, failure, hwritten, herror, hcaught⟩ := hx s
  refine ⟨ms, failure, ?_, result_bind_of_error herror, hcaught⟩
  rw [written_bind_of_error herror, hwritten]

theorem Meets.crashed_bind (hx : Meets caught .crashed x) : Meets caught .crashed (x >>= f) := by
  intro s
  obtain ⟨failure, herror, hcaught⟩ := hx s
  exact ⟨failure, result_bind_of_error herror, hcaught⟩

theorem Meets.object (hbody : Meets caught .complete body) :
    Meets caught .complete (object name body) := by
  intro s
  obtain ⟨ms, ⟨⟩, hwritten, hok⟩ := hbody s
  refine ⟨[(name, .object ms)], (), ?_, result_object_of_ok hok⟩
  rw [written_object_of_ok hok, hwritten, membersCalls, membersCalls, Value.calls,
    List.append_nil]

theorem Meets.object_opened (hbody : Meets caught .refused body) :
    Meets caught .opened (Json.object name body) := by
  intro s
  obtain ⟨ms, failure, hwritten, herror, hcaught⟩ := hbody s
  refine ⟨[], name, ms, failure, ?_, result_object_of_error herror, hcaught⟩
  rw [written_object_of_error herror, hwritten]
  rfl

theorem Meets.object_crashed (hbody : Meets caught .crashed body) :
    Meets caught .crashed (Json.object name body) := by
  intro s
  obtain ⟨failure, herror, hcaught⟩ := hbody s
  exact ⟨failure, result_object_of_error herror, hcaught⟩

theorem Meets.ite {c : Prop} [Decidable c] {y : Program S Call F A}
    (hx : c → Meets caught fate x) (hy : ¬ c → Meets caught fate y) :
    Meets caught fate (if c then x else y) := by
  split_ifs with h
  · exact hx h
  · exact hy h

theorem meets_forM {X : Type} {f : X → Program S Call F Unit} (xs : List X)
    (h : ∀ x ∈ xs, Meets caught .complete (f x)) : Meets caught .complete (xs.forM f) := by
  induction xs with
  | nil => exact meets_pure ()
  | cons x xs ih =>
    exact (h x List.mem_cons_self).bind fun _ => ih fun y hy => h y (List.mem_cons_of_mem x hy)

theorem Meets.next {y : Program S Call F B} (hx : Meets caught .complete x)
    (hy : Meets caught fate y) : Meets caught fate (x >>= fun _ => y) :=
  hx.bind fun _ => hy

/-! ## Guards -/

def Fate.completeIf (c : Bool) (fate : Fate) : Fate := if c then .complete else fate

variable {c c' : Bool}

theorem Meets.guard_bind (hx : Meets caught (.completeIf c .refused) x)
    (hf : ∀ a, Meets caught (.completeIf c' .refused) (f a)) :
    Meets caught (.completeIf (c && c') .refused) (x >>= f) := by
  cases c with
  | false => exact Meets.refused_bind hx
  | true => exact Meets.bind hx hf

theorem Meets.guard_next (hx : Meets caught (.completeIf c .refused) x)
    (hf : ∀ a, Meets caught .complete (f a)) :
    Meets caught (.completeIf c .refused) (x >>= f) := by
  cases c with
  | false => exact Meets.refused_bind hx
  | true => exact Meets.bind hx hf

theorem Meets.crash_next (hx : Meets caught (.completeIf c .crashed) x)
    (hf : c = true → ∀ a, Meets caught .complete (f a)) :
    Meets caught (.completeIf c .crashed) (x >>= f) := by
  cases c with
  | false => exact Meets.crashed_bind hx
  | true => exact Meets.bind hx (hf rfl)

theorem Meets.guard_object (hbody : Meets caught (.completeIf c .refused) body) :
    Meets caught (.completeIf c .opened) (Json.object name body) := by
  cases c with
  | false => exact Meets.object_opened hbody
  | true => exact Meets.object hbody

theorem Meets.crash_object (hbody : Meets caught (.completeIf c .crashed) body) :
    Meets caught (.completeIf c .crashed) (Json.object name body) := by
  cases c with
  | false => exact Meets.object_crashed hbody
  | true => exact Meets.object hbody

/-! ## Arrays -/

def WritesItems (x : Program S Call F Unit) : Prop :=
  ∀ s, ∃ items, written (x s) = itemsCalls items ∧ (x s).result = .ok ()

theorem writesItems_pure : WritesItems (pure () : Program S Call F Unit) :=
  fun _ => ⟨[], rfl, rfl⟩

theorem Meets.item (hbody : Meets caught .complete body) : WritesItems (item body) := by
  intro s
  obtain ⟨ms, ⟨⟩, hwritten, hok⟩ := hbody s
  refine ⟨[.object ms], ?_, ?_⟩
  · show .startObject :: written ((body >>= fun _ => call .endObject) s) = _
    rw [written_bind_of_ok hok, hwritten, itemsCalls, itemsCalls, List.append_nil]
    rfl
  · show ((body >>= fun _ => call .endObject) s).result = .ok ()
    rw [result_bind_of_ok hok]
    rfl

theorem WritesItems.ite {c : Prop} [Decidable c] {x y : Program S Call F Unit}
    (hx : WritesItems x) (hy : WritesItems y) : WritesItems (if c then x else y) := by
  split_ifs
  · exact hx
  · exact hy

theorem writesItems_forM {X : Type} {f : X → Program S Call F Unit} (xs : List X)
    (h : ∀ x ∈ xs, WritesItems (f x)) : WritesItems (xs.forM f) := by
  induction xs with
  | nil => exact writesItems_pure
  | cons x xs ih =>
    intro s
    obtain ⟨items, hwritten, hok⟩ := h x List.mem_cons_self s
    obtain ⟨items', hwritten', hok'⟩ :=
      ih (fun y hy => h y (List.mem_cons_of_mem x hy)) (f x s).state
    refine ⟨items ++ items', ?_, ?_⟩
    · show written ((f x >>= fun _ => xs.forM f) s) = _
      rw [written_bind_of_ok hok, hwritten, hwritten', itemsCalls_append]
    · show ((f x >>= fun _ => xs.forM f) s).result = .ok ()
      rw [result_bind_of_ok hok, hok']

theorem WritesItems.array (hbody : WritesItems body) :
    Meets caught .complete (array name body) := by
  intro s
  obtain ⟨items, hwritten, hok⟩ := hbody s
  refine ⟨[(name, .array items)], (), ?_, ?_⟩
  · show .string name :: .startArray :: written ((body >>= fun _ => call .endArray) s) = _
    rw [written_bind_of_ok hok, hwritten, membersCalls, membersCalls, List.append_nil]
    rfl
  · show ((body >>= fun _ => call .endArray) s).result = .ok ()
    rw [result_bind_of_ok hok]
    rfl

end Json
