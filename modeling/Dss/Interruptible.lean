import Mathlib.Data.List.Basic

/-!
# Programs that another side may interrupt

A program works on a state and makes calls, each of which may be answered by an exception. It is
written down as a script: the calls in order, each with the state as it is then, and the end that
is reached if every call is answered. An exception leaves the state that the program has then.
-/

namespace Interruptible

variable {S C F A B : Type}

/-- What a program does. -/
structure Script (S C F A : Type) : Type where
  calls : List (C × S)
  state : S
  result : Except F A

def Program (S C F A : Type) : Type := S → Script S C F A

namespace Program

def andThen (x : Program S C F A) (f : A → Program S C F B) : Program S C F B := fun s =>
  match (x s).result with
  | .ok a => ⟨(x s).calls ++ (f a (x s).state).calls, (f a (x s).state).state,
      (f a (x s).state).result⟩
  | .error failure => ⟨(x s).calls, (x s).state, .error failure⟩

instance : Monad (Program S C F) where
  pure a := fun s => ⟨[], s, .ok a⟩
  bind := andThen

def get : Program S C F S := fun s => ⟨[], s, .ok s⟩

def modify (f : S → S) : Program S C F Unit := fun s => ⟨[], f s, .ok ()⟩

def call (c : C) : Program S C F Unit := fun s => ⟨[(c, s)], s, .ok ()⟩

def fail (failure : F) : Program S C F A := fun s => ⟨[], s, .error failure⟩

variable {x : Program S C F A} {f : A → Program S C F B} {s : S}

@[simp]
theorem pure_apply (a : A) : (pure a : Program S C F A) s = ⟨[], s, .ok a⟩ :=
  rfl

theorem bind_of_ok {a : A} (h : (x s).result = .ok a) :
    (x >>= f) s = ⟨(x s).calls ++ (f a (x s).state).calls, (f a (x s).state).state,
      (f a (x s).state).result⟩ := by
  show andThen x f s = _
  rw [andThen, h]

theorem bind_of_error {failure : F} (h : (x s).result = .error failure) :
    (x >>= f) s = ⟨(x s).calls, (x s).state, .error failure⟩ := by
  show andThen x f s = _
  rw [andThen, h]

@[simp]
theorem get_bind {f : S → Program S C F B} : (get >>= f) s = f s s :=
  rfl

@[simp]
theorem pure_bind' {a : A} : ((pure a : Program S C F A) >>= f) s = f a s :=
  rfl

theorem bind_congr_apply {y : Program S C F A} (h : x s = y s) : (x >>= f) s = (y >>= f) s := by
  show andThen x f s = andThen y f s
  rw [andThen, andThen, h]

theorem bind_assoc' {G : Type} {g : B → Program S C F G} :
    (x >>= f) >>= g = x >>= fun a => f a >>= g := by
  funext s
  rcases hx : (x s).result with failure | a
  · rw [bind_of_error hx, bind_of_error (by rw [bind_of_error hx]),
      bind_of_error hx]
  · rw [bind_of_ok hx]
    rcases hf : (f a (x s).state).result with failure | b
    · have hxf : ((x >>= f) s).result = .error failure := by rw [bind_of_ok hx, hf]
      rw [bind_of_error hxf, bind_of_error hf, bind_of_ok hx]
    · have hxf : ((x >>= f) s).result = .ok b := by rw [bind_of_ok hx, hf]
      rw [bind_of_ok hxf, bind_of_ok hf, bind_of_ok hx, List.append_assoc]

theorem bind_pure' : (x >>= pure) s = x s := by
  rcases hx : (x s).result with failure | a
  · rw [bind_of_error hx, ← hx]
  · rw [bind_of_ok hx, pure_apply, List.append_nil, ← hx]

theorem getElem?_bind {k : ℕ} {entry : C × S} (h : ((x >>= f) s).calls[k]? = some entry) :
    (x s).calls[k]? = some entry ∨ ∃ a, (x s).result = .ok a ∧ (x s).calls.length ≤ k ∧
      (f a (x s).state).calls[k - (x s).calls.length]? = some entry := by
  rcases hx : (x s).result with failure | a
  · rw [bind_of_error hx] at h
    exact Or.inl h
  · rw [bind_of_ok hx] at h
    by_cases hk : k < (x s).calls.length
    · rw [List.getElem?_append_left hk] at h
      exact Or.inl h
    · rw [List.getElem?_append_right (Nat.le_of_not_lt hk)] at h
      exact Or.inr ⟨a, rfl, Nat.le_of_not_lt hk, h⟩

theorem ok_of_bind {b : B} (h : ((x >>= f) s).result = .ok b) :
    ∃ a, (x s).result = .ok a ∧ (f a (x s).state).result = .ok b ∧
      ((x >>= f) s).state = (f a (x s).state).state := by
  rcases hx : (x s).result with failure | a
  · rw [bind_of_error hx] at h
    cases h
  · rw [bind_of_ok hx] at h ⊢
    exact ⟨a, rfl, h, rfl⟩

theorem ok_bind_iff : (∃ b, ((x >>= f) s).result = .ok b) ↔
    ∃ a, (x s).result = .ok a ∧ ∃ b, (f a (x s).state).result = .ok b := by
  constructor
  · rintro ⟨b, h⟩
    obtain ⟨a, ha, hb, -⟩ := ok_of_bind h
    exact ⟨a, ha, b, hb⟩
  · rintro ⟨a, ha, b, hb⟩
    exact ⟨b, by rw [bind_of_ok ha, hb]⟩

/-! ## What a program keeps -/

/-- What holds of the state before, holds at each call and at the end. -/
def Keeps (P : S → Prop) (x : Program S C F A) : Prop :=
  ∀ s, P s → (∀ entry ∈ (x s).calls, P entry.2) ∧ P (x s).state

variable {P : S → Prop}

theorem keeps_pure (a : A) : Keeps P (pure a : Program S C F A) :=
  fun _ hs => ⟨nofun, hs⟩

theorem keeps_get : Keeps P (get : Program S C F S) :=
  fun _ hs => ⟨nofun, hs⟩

theorem keeps_call (c : C) : Keeps P (call c : Program S C F Unit) := by
  refine fun s hs => ⟨fun entry hentry => ?_, hs⟩
  rw [List.mem_singleton.mp hentry]
  exact hs

theorem keeps_fail (failure : F) : Keeps P (fail failure : Program S C F A) :=
  fun _ hs => ⟨nofun, hs⟩

theorem keeps_modify {m : S → S} (h : ∀ s, P s → P (m s)) :
    Keeps P (modify m : Program S C F Unit) :=
  fun s hs => ⟨nofun, h s hs⟩

theorem Keeps.bind (hx : Keeps P x) (hf : ∀ a, Keeps P (f a)) : Keeps P (x >>= f) := by
  intro s hs
  obtain ⟨hcalls, hstate⟩ := hx s hs
  rcases hresult : (x s).result with failure | a
  · rw [bind_of_error hresult]
    exact ⟨hcalls, hstate⟩
  · obtain ⟨hcalls', hstate'⟩ := hf a (x s).state hstate
    rw [bind_of_ok hresult]
    refine ⟨fun entry hentry => ?_, hstate'⟩
    rcases List.mem_append.mp hentry with hentry | hentry
    · exact hcalls entry hentry
    · exact hcalls' entry hentry

theorem Keeps.ite {c : Prop} [Decidable c] {y : Program S C F A} (hx : Keeps P x)
    (hy : Keeps P y) : Keeps P (if c then x else y) := by
  split_ifs
  · exact hx
  · exact hy

/-! ## What a program does from a state -/

/-- The calls, and the state and the result behind them, if every call is answered. -/
structure Does (x : Program S C F A) (s : S) (cs : List C) (t : S) (r : Except F A) : Prop where
  calls : (x s).calls.map Prod.fst = cs
  state : (x s).state = t
  result : (x s).result = r

variable {cs ds : List C} {t u : S} {r : Except F B} {a : A}

theorem Does.pure : Does (pure a : Program S C F A) s [] s (.ok a) := ⟨rfl, rfl, rfl⟩

theorem Does.call {c : C} : Does (call c : Program S C F Unit) s [c] s (.ok ()) := ⟨rfl, rfl, rfl⟩

theorem Does.modify {m : S → S} : Does (modify m : Program S C F Unit) s [] (m s) (.ok ()) :=
  ⟨rfl, rfl, rfl⟩

theorem Does.bind (hx : Does x s cs t (.ok a)) (hf : Does (f a) t ds u r) :
    Does (x >>= f) s (cs ++ ds) u r := by
  obtain ⟨hcalls, rfl, hresult⟩ := hx
  constructor
  · rw [bind_of_ok hresult, List.map_append, hcalls, hf.calls]
  · rw [bind_of_ok hresult, hf.state]
  · rw [bind_of_ok hresult, hf.result]

theorem Does.get_bind {f : S → Program S C F B} (hf : Does (f s) s cs t r) :
    Does (get >>= f) s cs t r := by
  constructor
  · rw [Program.get_bind, hf.calls]
  · rw [Program.get_bind, hf.state]
  · rw [Program.get_bind, hf.result]

theorem Does.call_bind {c : C} {f : Unit → Program S C F B} (hf : Does (f ()) s cs t r) :
    Does (Program.call c >>= f) s (c :: cs) t r :=
  Does.bind Does.call hf

theorem Does.modify_bind {m : S → S} {f : Unit → Program S C F B}
    (hf : Does (f ()) (m s) cs t r) : Does (Program.modify m >>= f) s cs t r :=
  Does.bind Does.modify hf

theorem Does.ite {p : Prop} [Decidable p] {x y : Program S C F B} (hx : Does x s cs t r)
    (hy : Does y s ds u r) :
    Does (if p then x else y) s (if p then cs else ds) (if p then t else u) r := by
  split_ifs
  · exact hx
  · exact hy

end Program

/-! ## Runs -/

/-- How a run ends. -/
inductive Outcome (S F A : Type) : Type where
  /-- at a call that was answered by an exception, behind so many that were not -/
  | interrupted (n : ℕ) (state : S) : Outcome S F A
  | ended (state : S) (result : Except F A) : Outcome S F A

def Outcome.state : Outcome S F A → S
  | interrupted _ state => state
  | ended state _ => state

/-- The first call that is answered by an exception, behind `n` others, and the state then. -/
def interruption (throws : ℕ → C → Bool) : ℕ → List (C × S) → Option (ℕ × S)
  | _, [] => none
  | n, (c, s) :: calls => if throws n c then some (n, s) else interruption throws (n + 1) calls

/-- The number of the first of the calls that is answered by an exception, from `n` on. -/
def firstThrow (throws : ℕ → C → Bool) : ℕ → List C → Option ℕ
  | _, [] => none
  | n, c :: calls => if throws n c then some n else firstThrow throws (n + 1) calls

def Script.run (throws : ℕ → C → Bool) (script : Script S C F A) : Outcome S F A :=
  match interruption throws 0 script.calls with
  | some (n, s) => .interrupted n s
  | none => .ended script.state script.result

variable {throws : ℕ → C → Bool} {script : Script S C F A} {n : ℕ} {s : S}

theorem getElem?_of_interruption {calls : List (C × S)} {m : ℕ}
    (h : interruption throws m calls = some (n, s)) :
    ∃ k c, n = m + k ∧ calls[k]? = some (c, s) := by
  induction calls generalizing m with
  | nil => cases h
  | cons entry calls ih =>
    obtain ⟨c, t⟩ := entry
    rw [interruption] at h
    split at h
    · cases h
      exact ⟨0, c, rfl, rfl⟩
    · obtain ⟨k, c', rfl, hk⟩ := ih h
      exact ⟨k + 1, c', by rw [Nat.add_assoc, Nat.add_comm 1], hk⟩

theorem firstThrow_map (throws : ℕ → C → Bool) (n : ℕ) (calls : List (C × S)) :
    firstThrow throws n (calls.map Prod.fst) = (interruption throws n calls).map Prod.fst := by
  induction calls generalizing n with
  | nil => rfl
  | cons entry calls ih =>
    rw [List.map_cons, firstThrow, interruption, ih]
    split_ifs
    · rfl
    · rfl

/-- A run is interrupted at the first call that is answered by an exception. -/
theorem Script.interrupted_iff : (∃ s, script.run throws = .interrupted n s) ↔
    firstThrow throws 0 (script.calls.map Prod.fst) = some n := by
  rw [firstThrow_map, Script.run]
  rcases interruption throws 0 script.calls with - | ⟨m, t⟩
  · exact iff_of_false (fun ⟨_, h⟩ => by cases h) (fun h => by cases h)
  · rw [Option.map_some, Option.some_inj]
    exact ⟨fun ⟨_, h⟩ => by cases h; rfl, fun h => ⟨t, by rw [← h]⟩⟩

theorem Script.ended_iff : (∃ t a, script.run throws = .ended t (.ok a)) ↔
    firstThrow throws 0 (script.calls.map Prod.fst) = none ∧ ∃ a, script.result = .ok a := by
  rw [firstThrow_map, Script.run]
  rcases interruption throws 0 script.calls with - | ⟨m, t⟩
  · refine ⟨fun ⟨_, a, h⟩ => ?_, fun ⟨_, a, h⟩ => ⟨script.state, a, by rw [h]⟩⟩
    exact ⟨rfl, a, (Outcome.ended.inj h).2⟩
  · exact iff_of_false (fun ⟨_, _, h⟩ => by cases h) fun h => by cases h.1

theorem Script.getElem?_of_run (h : script.run throws = .interrupted n s) :
    ∃ c, script.calls[n]? = some (c, s) := by
  rw [Script.run] at h
  split at h
  · rename_i hinterruption
    cases h
    obtain ⟨k, c, rfl, hk⟩ := getElem?_of_interruption hinterruption
    exact ⟨c, by rwa [Nat.zero_add]⟩
  · cases h

theorem Script.ended_of_run {state : S} {result : Except F A}
    (h : script.run throws = .ended state result) :
    script.state = state ∧ script.result = result := by
  rw [Script.run] at h
  split at h
  · cases h
  · cases h
    exact ⟨rfl, rfl⟩

theorem Script.run_of_throws {c : C} {t : S} {calls : List (C × S)}
    (hcalls : script.calls = (c, t) :: calls) (hthrows : throws 0 c = true) :
    script.run throws = .interrupted 0 t := by
  rw [Script.run, hcalls, interruption, if_pos hthrows]

theorem Script.state_run_of_not_throws {c : C} {t : S} {calls : List (C × S)}
    (hcalls : script.calls = (c, t) :: calls) (hthrows : throws 0 c = false) :
    (∃ entry ∈ calls, (script.run throws).state = entry.2) ∨
      (script.run throws).state = script.state := by
  rw [Script.run, hcalls, interruption, if_neg (ne_true_of_eq_false hthrows)]
  split
  · rename_i hinterruption
    obtain ⟨k, c', -, hk⟩ := getElem?_of_interruption hinterruption
    exact Or.inl ⟨_, List.mem_of_getElem? hk, rfl⟩
  · exact Or.inr rfl

theorem Script.run_of_nil (h : script.calls = []) :
    script.run throws = .ended script.state script.result := by
  rw [Script.run, h, interruption]

end Interruptible
