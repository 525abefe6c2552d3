import Dss.Base
import Dss.SessionManager

/-!
# The sessions that are there

The session map against the list of sessions that were registered and since then neither removed
nor cleaned up. The two agree as long as nobody asks for an id that is not in the map: `getSession`
then leaves a null entry behind, which `touchSession` dereferences.
-/

namespace Dss

open Option

structure SessionWorld : Type where
  manager : SessionManager
  /-- registered, and neither removed nor cleaned up -/
  live : List String

namespace SessionWorld

/-! ## Runs -/

def spares (m : SessionManager) (now : ℤ) (id : String) : Bool :=
  match m.sessions.find? id with
  | some (some session) => session.isStillValid now
  | _ => true

/-- The ids that should be there after an operation. `cleanupOldestSession` cleans
up one session, the one it names in the log. -/
def liveAfter (w : SessionWorld) (call : SessionCall) (now : ℤ) (answer : SessionAnswer) :
    List String :=
  match call, answer with
  | .registerSession, .id token => if token = "" then w.live else w.live ++ [token]
  | .registerApplicationSession, .id token => if token = "" then w.live else w.live ++ [token]
  | .removeSession id, _ => w.live.filter fun id' => id' ≠ id
  | .cleanupSessions, _ => w.live.filter (spares w.manager now)
  | .cleanupOldestSession, _ => w.live.filter fun id' => some id' ≠ w.manager.oldest
  | _, _ => w.live

def step (gen : SessionTokenGenerator) (w : SessionWorld) (call : SessionCall) (now : ℤ) :
    Option SessionWorld :=
  (w.manager.perform gen call now).map fun r =>
    { manager := r.1, live := w.liveAfter call now r.2 }

def Start (w : SessionWorld) : Prop :=
  w.manager.sessions = OrderedMap.empty ∧ w.live = []

/-! ## The law -/

/-- What holds in a state: the map holds exactly the sessions that should be there,
there are no null entries, and not too many of them. -/
structure Law (w : SessionWorld) : Prop where
  exact : ∀ id, id ∈ w.live ↔ ∃ session, w.manager.sessions.find? id = some (some session)
  noNull : ∀ id, w.manager.sessions.find? id ≠ some none
  size_le : w.manager.sessions.size ≤ w.manager.maxSessionCount

/-- What holds of an operation: it does not dereference a null pointer, a
registration is refused only if there are as many sessions as configured, and
looking up an unknown id leaves the map alone. -/
structure CallLaw (gen : SessionTokenGenerator) (w : SessionWorld) (call : SessionCall)
    (now : ℤ) : Prop where
  noCrash : w.manager.perform gen call now ≠ none
  refused : ∀ m, w.manager.perform gen call now = some (m, .id "") →
    w.manager.maxSessionCount ≤ w.live.length
  unknown : ∀ id, call = .getSession id ∨ call = .touchSession id → id ∉ w.live →
    ∀ m answer, w.manager.perform gen call now = some (m, answer) →
      m.sessions = w.manager.sessions

/-- The law holds before and behind each call, and each call returns what it owes. -/
def LawfulRun (gen : SessionTokenGenerator) : SessionWorld → List (SessionCall × ℤ) → Prop
  | w, [] => Law w
  | w, c :: cs =>
    Law w ∧ CallLaw gen w c.1 c.2 ∧
      ∀ w', w.step gen c.1 c.2 = some w' → LawfulRun gen w' cs

/-- An id that `getSession` is asked for is in the map. -/
def Known (w : SessionWorld) (call : SessionCall) : Prop :=
  ∀ id, call = .getSession id → (w.manager.sessions.find? id).isSome

/-- `Known`, for each call of a run. -/
def KnownRun (gen : SessionTokenGenerator) : SessionWorld → List (SessionCall × ℤ) → Prop
  | _, [] => True
  | w, c :: cs =>
    Known w c.1 ∧ ∀ w', w.step gen c.1 c.2 = some w' → KnownRun gen w' cs

/-! ## The invariant -/

variable {gen : SessionTokenGenerator} {w w' : SessionWorld} {call : SessionCall} {now : ℤ}

/-- What runs keep: each living id was generated, and stands once in the list. -/
structure Inv (gen : SessionTokenGenerator) (w : SessionWorld) : Prop extends Law w where
  nodup : w.live.Nodup
  generated : ∀ id ∈ w.live, ∃ n < w.manager.generated, id = gen.token n

theorem Inv.start (h : Start w) : Inv gen w := by
  obtain ⟨hsessions, hlive⟩ := h
  refine ⟨⟨fun id => ?_, fun id => ?_, ?_⟩, ?_, ?_⟩
  · rw [hsessions, hlive]
    simp
  · rw [hsessions]
    exact (some_ne_none _).symm
  · rw [hsessions]
    exact Nat.zero_le _
  · rw [hlive]
    exact List.nodup_nil
  · rw [hlive]
    exact fun id h => absurd h List.not_mem_nil

theorem Law.mem_live_iff (h : Law w) (id : String) :
    id ∈ w.live ↔ (w.manager.sessions.find? id).isSome := by
  rw [h.exact, isSome_iff_exists]
  constructor
  · rintro ⟨session, hs⟩
    exact ⟨_, hs⟩
  · rintro ⟨_ | session, hs⟩
    · exact absurd hs (h.noNull id)
    · exact ⟨session, hs⟩

theorem Inv.length_live (h : Inv gen w) : w.live.length = w.manager.sessions.size :=
  OrderedMap.length_eq_size h.nodup h.mem_live_iff

theorem Inv.find?_token (h : Inv gen w) :
    w.manager.sessions.find? (gen.token w.manager.generated) = none := by
  rw [← not_isSome_iff_eq_none, ← h.mem_live_iff]
  intro hmem
  obtain ⟨n, hlt, heq⟩ := h.generated _ hmem
  exact absurd (gen.injective heq) hlt.ne'

/-- Removing the same ids from the list and from the map keeps the invariant. -/
theorem Inv.filter (h : Inv gen w) {m : SessionManager} {p : String → Bool}
    {q : String → Option Session → Bool} (hm : m = { w.manager with
      sessions := w.manager.sessions.filter q })
    (hpq : ∀ id session, w.manager.sessions.find? id = some session → q id session = p id) :
    Inv gen { manager := m, live := w.live.filter p } := by
  have hfind : ∀ id, (w.manager.sessions.filter q).find? id =
      if p id then w.manager.sessions.find? id else none := by
    intro id
    rw [OrderedMap.find?_filter]
    rcases hs : w.manager.sessions.find? id with - | session
    · rw [filter_none, ite_self]
    · rw [filter_some, hpq id session hs]
  rw [hm]
  refine ⟨⟨fun id => ?_, fun id => ?_, ?_⟩, h.nodup.filter _, fun id hid => ?_⟩
  · rw [List.mem_filter, h.exact, hfind]
    cases p id <;> simp
  · rw [hfind]
    split_ifs
    · exact h.noNull id
    · exact (some_ne_none _).symm
  · exact OrderedMap.size_filter_le.trans h.size_le
  · exact h.generated id (List.mem_filter.mp hid).1

theorem Inv.register (h : Inv gen w) (now : ℤ) (mark : Session → Session)
    (hmark : ∀ s, (mark s).id = s.id) :
    ∃ id, (w.manager.register gen now mark).2 = .id id ∧
      Inv gen
        { manager := (w.manager.register gen now mark).1
          live := if id = "" then w.live else w.live ++ [id] } := by
  unfold SessionManager.register
  split_ifs with hfull
  · exact ⟨"", rfl, by exact h⟩
  · have hkey : (mark (w.manager.createSession (gen.token w.manager.generated) now)).id =
        gen.token w.manager.generated := hmark _
    have hnew := h.find?_token
    refine ⟨_, rfl, ?_⟩
    dsimp only
    rw [hkey, if_neg (gen.ne_empty _)]
    generalize hid : gen.token w.manager.generated = id at hkey hnew
    refine ⟨⟨fun id' => ?_, fun id' => ?_, ?_⟩, ?_, fun id' hmem => ?_⟩
    · rw [List.mem_append, h.exact]
      rw [OrderedMap.find?_insert]
      by_cases heq : id' = id
      · simp [heq]
      · simp [heq]
    · rw [OrderedMap.find?_insert]
      split_ifs
      · exact fun hs => absurd (some.inj hs) (some_ne_none _)
      · exact h.noNull id'
    · rw [OrderedMap.size_insert_of_find?_eq_none hnew]
      exact Nat.lt_of_not_le hfull
    · refine List.nodup_append.mpr ⟨h.nodup, List.nodup_singleton _, fun a ha b hb => ?_⟩
      rintro rfl
      rw [List.mem_singleton.mp hb, h.mem_live_iff, hnew] at ha
      exact absurd ha Bool.false_ne_true
    · rcases List.mem_append.mp hmem with hmem | hmem
      · obtain ⟨n, hlt, heq⟩ := h.generated id' hmem
        exact ⟨n, Nat.lt_succ_of_lt hlt, heq⟩
      · exact ⟨w.manager.generated, Nat.lt_succ_self _, (List.mem_singleton.mp hmem).trans hid.symm⟩

theorem Inv.removeSession (h : Inv gen w) (id : String) :
    Inv gen { manager := (w.manager.removeSession id).1
              live := w.live.filter fun id' => id' ≠ id } := by
  have hm : (w.manager.removeSession id).1 =
      { w.manager with sessions := w.manager.sessions.filter fun id' _ => id' ≠ id } := by
    unfold SessionManager.removeSession
    split_ifs with hs
    · rfl
    · have hsame : w.manager.sessions.filter (fun id' _ => id' ≠ id) = w.manager.sessions := by
        apply OrderedMap.filter_eq_self
        intro id' session hfound
        refine decide_eq_true fun heq => hs ?_
        rw [← heq, hfound]
        rfl
      rw [hsame]
  exact h.filter hm fun _ _ _ => rfl

theorem Inv.touchSession (h : Inv gen w) {id : String} {r : SessionManager × SessionAnswer}
    (hr : w.manager.touchSession id now = some r) :
    Inv gen { manager := r.1, live := w.live } := by
  unfold SessionManager.touchSession at hr
  split at hr
  · rw [← some.inj hr]
    exact h
  · cases hr
  · rename_i session hs
    rw [← some.inj hr]
    refine ⟨⟨fun id' => ?_, fun id' => ?_, ?_⟩, h.nodup, h.generated⟩
    · rw [h.exact]
      rw [OrderedMap.find?_insert]
      split_ifs with heq
      · rw [heq, hs]
        simp
      · exact Iff.rfl
    · rw [OrderedMap.find?_insert]
      split_ifs
      · exact fun hs => absurd (some.inj hs) (some_ne_none _)
      · exact h.noNull id'
    · rw [OrderedMap.size_insert_of_find?_eq_some hs]
      exact h.size_le

theorem Inv.cleanupSessions (h : Inv gen w) :
    Inv gen { manager := (w.manager.cleanupSessions now).1
              live := w.live.filter (spares w.manager now) } := by
  refine h.filter rfl fun id session hs => ?_
  rcases session with - | session
  · exact absurd hs (h.noNull id)
  · rw [spares, hs]

theorem Inv.cleanupOldestSession (h : Inv gen w) :
    Inv gen { manager := w.manager.cleanupOldestSession.1
              live := w.live.filter fun id' => some id' ≠ w.manager.oldest } := by
  have hnull : w.manager.sessions.filter (fun _ session => session.isSome) =
      w.manager.sessions := by
    apply OrderedMap.filter_eq_self
    rintro id (- | session) hs
    · exact absurd hs (h.noNull id)
    · rfl
  refine h.filter (q := fun id' _ => decide (some id' ≠ w.manager.oldest)) ?_ fun _ _ _ => rfl
  unfold SessionManager.cleanupOldestSession
  rw [hnull]
  cases w.manager.oldest with
  | none =>
    rw [OrderedMap.filter_eq_self fun _ _ _ => decide_eq_true (some_ne_none _)]
  | some id => simp only [OrderedMap.erase, ne_eq, some_inj]

/-- An operation keeps the invariant, unless `getSession` is asked for an id that is
not in the map. -/
theorem Inv.step (h : Inv gen w) (hk : Known w call) (hs : w.step gen call now = some w') :
    Inv gen w' := by
  obtain ⟨r, hr, rfl⟩ := map_eq_some_iff.mp hs
  cases call with
  | registerSession =>
    obtain ⟨id, hid, hinv⟩ := h.register now (fun session => session) fun _ => rfl
    have hlive : w.liveAfter .registerSession now (.id id) =
        if id = "" then w.live else w.live ++ [id] := rfl
    rw [← hlive, ← hid] at hinv
    rw [← some.inj hr]
    exact hinv
  | registerApplicationSession =>
    obtain ⟨id, hid, hinv⟩ := h.register now Session.markAsApplicationSession fun _ => rfl
    have hlive : w.liveAfter .registerApplicationSession now (.id id) =
        if id = "" then w.live else w.live ++ [id] := rfl
    rw [← hlive, ← hid] at hinv
    rw [← some.inj hr]
    exact hinv
  | getSession id =>
    obtain ⟨session, hsession⟩ := isSome_iff_exists.mp (hk id rfl)
    rw [← some.inj hr, SessionManager.getSession, hsession]
    exact h
  | removeSession id =>
    rw [← some.inj hr]
    exact h.removeSession id
  | touchSession id => exact h.touchSession hr
  | cleanupSessions =>
    rw [← some.inj hr]
    exact h.cleanupSessions
  | cleanupOldestSession =>
    rw [← some.inj hr]
    exact h.cleanupOldestSession

theorem le_size_of_refused {m m' : SessionManager} (mark : Session → Session)
    (hmark : ∀ s, (mark s).id = s.id) (h : m.register gen now mark = (m', .id "")) :
    m.maxSessionCount ≤ m.sessions.size := by
  unfold SessionManager.register at h
  split_ifs at h with hfull
  · exact hfull
  · have hid := SessionAnswer.id.inj (Prod.mk.inj h).2
    rw [hmark] at hid
    exact absurd hid (gen.ne_empty _)

/-- In a state where the law holds it holds of every operation but a `getSession` of
an id that is not in the map. -/
theorem Inv.callLaw_iff (h : Inv gen w) : CallLaw gen w call now ↔ Known w call := by
  constructor
  · rintro hlaw id rfl
    by_contra hnot
    have hnone := not_isSome_iff_eq_none.mp hnot
    have hunknown : id ∉ w.live := fun hmem => hnot ((h.mem_live_iff id).mp hmem)
    have hsame := hlaw.unknown id (Or.inl rfl) hunknown _ _
      (congrArg some (by rw [SessionManager.getSession, hnone]))
    have hfind := congrArg (fun m => m.find? id) hsame
    rw [OrderedMap.find?_insert, if_pos rfl, hnone] at hfind
    cases hfind
  · intro hk
    refine ⟨fun hcrash => ?_, fun m hrefused => ?_, ?_⟩
    · cases call <;> try exact absurd hcrash (some_ne_none _)
      rename_i id
      rw [SessionManager.perform, SessionManager.touchSession] at hcrash
      split at hcrash
      · cases hcrash
      · exact h.noNull id ‹_›
      · cases hcrash
    · rw [h.length_live]
      cases call with
      | registerSession => exact le_size_of_refused id (fun _ => rfl) (some.inj hrefused)
      | registerApplicationSession =>
        exact le_size_of_refused Session.markAsApplicationSession (fun _ => rfl)
          (some.inj hrefused)
      | getSession id =>
        obtain ⟨session, hsession⟩ := isSome_iff_exists.mp (hk id rfl)
        rw [SessionManager.perform, SessionManager.getSession, hsession] at hrefused
        cases hrefused
      | removeSession id =>
        rw [SessionManager.perform, SessionManager.removeSession] at hrefused
        split at hrefused <;> cases hrefused
      | touchSession id =>
        rw [SessionManager.perform, SessionManager.touchSession] at hrefused
        split at hrefused <;> cases hrefused
      | cleanupSessions => cases hrefused
      | cleanupOldestSession =>
        rw [SessionManager.perform, SessionManager.cleanupOldestSession] at hrefused
        split at hrefused <;> cases hrefused
    · rintro id (rfl | rfl) hunknown m answer hr
      · exact absurd ((h.mem_live_iff id).mpr (hk id rfl)) hunknown
      · have hnone : w.manager.sessions.find? id = none := by
          rw [← not_isSome_iff_eq_none, ← h.mem_live_iff]
          exact hunknown
        rw [SessionManager.perform, SessionManager.touchSession, hnone] at hr
        rw [← (Prod.mk.inj (some.inj hr)).1]

/-! ## The law of the store -/

/-- **Session store.** The law holds in every state of a run and of every operation
of it exactly when `getSession` is never asked for an id that is not in the map. -/
theorem lawfulRun_iff (h₀ : Start w) (calls : List (SessionCall × ℤ)) :
    LawfulRun gen w calls ↔ KnownRun gen w calls := by
  have hinv : Inv gen w := Inv.start h₀
  clear h₀
  induction calls generalizing w with
  | nil => exact iff_of_true hinv.toLaw trivial
  | cons c cs ih =>
    constructor
    · rintro ⟨-, hcall, hrest⟩
      have hk := hinv.callLaw_iff.1 hcall
      exact ⟨hk, fun w' hs => (ih (hinv.step hk hs)).mp (hrest w' hs)⟩
    · rintro ⟨hk, hrest⟩
      exact ⟨hinv.toLaw, hinv.callLaw_iff.2 hk,
        fun w' hs => (ih (hinv.step hk hs)).mpr (hrest w' hs)⟩

def countingTokens : SessionTokenGenerator :=
  { token := fun n => toString n
    injective := toString_nat_inj
    ne_empty := fun _ => Nat.repr_ne_empty }

def noSessions : SessionWorld :=
  { manager := { sessions := OrderedMap.empty }, live := [] }

/-- Registering a session, getting it, and removing it. -/
theorem lawfulRun_one :
    LawfulRun countingTokens noSessions
      [(.registerSession, 0), (.getSession "0", 1), (.removeSession "0", 2)] := by
  refine (lawfulRun_iff ⟨rfl, rfl⟩ _).mpr ⟨fun _ h => (SessionCall.noConfusion h), ?_⟩
  intro w hw
  obtain rfl := some.inj hw
  refine ⟨fun id h => ?_, fun w' _ => ⟨fun _ h => (SessionCall.noConfusion h), fun _ _ => trivial⟩⟩
  obtain rfl := SessionCall.getSession.inj h
  rfl

/-- Getting a session that is not there, and touching it. -/
theorem lawfulRun_fails :
    ¬ ∀ (gen : SessionTokenGenerator) (w : SessionWorld) (calls : List (SessionCall × ℤ)),
      Start w → LawfulRun gen w calls := by
  intro h
  obtain ⟨-, -, hrest⟩ := h countingTokens noSessions
    [(.getSession "x", 0), (.touchSession "x", 1)] ⟨rfl, rfl⟩
  exact (hrest _ rfl).2.1.noCrash rfl

end SessionWorld

end Dss
