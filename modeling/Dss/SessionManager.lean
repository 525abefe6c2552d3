import Mathlib.Data.String.Basic
import Dss.OrderedMap
import Dss.Seconds

/-!
# The session manager

The map of sessions, each operation as one critical section under `m_MapMutex`. A session pointer
may be null; an operation that would dereference one returns `none`. `getSession` looks up with
`operator[]`, which creates a null entry for an id it does not find. The others use `find`.
-/

namespace Dss

/-- What `SessionTokenGenerator` gives out. The tokens are hashes over a counter
that are taken to be distinct, and they are not empty. -/
structure SessionTokenGenerator : Type where
  /-- the token of the n-th call of `generate` -/
  token : ℕ → String
  injective : ∀ {m n : ℕ}, token m = token n → m = n
  ne_empty : ∀ n, token n ≠ ""

structure Session : Type where
  /-- `m_Token` -/
  id : String
  usageCount : ℤ := 0
  /-- `m_LastTouched`, in seconds -/
  lastTouched : ℤ
  /-- `m_SessionTimeoutSec` -/
  timeout : ℤ := 30
  isApplicationSession : Bool := false
  deriving DecidableEq

namespace Session

def setTimeout (s : Session) (timeout : ℤ) : Session := { s with timeout := timeout }

def markAsApplicationSession (s : Session) : Session := { s with isApplicationSession := true }

def touch (s : Session) (now : ℤ) : Session := { s with lastTouched := now }

def isUsed (s : Session) : Bool := s.usageCount ≠ 0

def isStillValid (s : Session) (now : ℤ) : Bool :=
  s.isUsed || decide (0 < DateTime.difference (s.lastTouched + s.timeout) now)

/-- `getIdleTime`: despite its name the time of the last touch, as an unsigned
number of seconds. -/
def getIdleTime (s : Session) : ℤ := s.lastTouched % 2 ^ 32

end Session

structure SessionManager : Type where
  timeoutSecs : ℤ := 60
  maxSessionCount : ℕ := 100
  /-- `m_Sessions`: a null pointer is `none` -/
  sessions : OrderedMap String (Option Session)
  generated : ℕ := 0
  /-- whether `m_pRelayTarget` has been set up -/
  relayTarget : Bool := false

inductive SessionCall : Type where
  | registerSession : SessionCall
  | registerApplicationSession : SessionCall
  | getSession : String → SessionCall
  | removeSession : String → SessionCall
  | touchSession : String → SessionCall
  | cleanupSessions : SessionCall
  | cleanupOldestSession : SessionCall
  deriving DecidableEq

/-- What an operation returns. -/
inductive SessionAnswer : Type where
  /-- nothing -/
  | done : SessionAnswer
  | id : String → SessionAnswer
  | session : Option Session → SessionAnswer
  deriving DecidableEq

namespace SessionManager

/-- `createSession`, with the token that has been generated. -/
def createSession (m : SessionManager) (token : String) (now : ℤ) : Session :=
  ({ id := token, lastTouched := now } : Session).setTimeout m.timeoutSecs

/-- What `registerSession` and `registerApplicationSession` have in common. -/
def register (gen : SessionTokenGenerator) (m : SessionManager) (now : ℤ)
    (mark : Session → Session) : SessionManager × SessionAnswer :=
  if m.maxSessionCount ≤ m.sessions.size then (m, .id "")
  else
    let session := mark (m.createSession (gen.token m.generated) now)
    ({ m with
        sessions := m.sessions.insert session.id (some session)
        generated := m.generated + 1
        relayTarget := true }, .id session.id)

def registerSession (gen : SessionTokenGenerator) (m : SessionManager) (now : ℤ) :
    SessionManager × SessionAnswer :=
  m.register gen now id

def registerApplicationSession (gen : SessionTokenGenerator) (m : SessionManager) (now : ℤ) :
    SessionManager × SessionAnswer :=
  m.register gen now Session.markAsApplicationSession

/-- `getSession`: `m_Sessions[id]`. -/
def getSession (m : SessionManager) (id : String) : SessionManager × SessionAnswer :=
  match m.sessions.find? id with
  | some session => (m, .session session)
  | none => ({ m with sessions := m.sessions.insert id none }, .session none)

def removeSession (m : SessionManager) (id : String) : SessionManager × SessionAnswer :=
  if (m.sessions.find? id).isSome then ({ m with sessions := m.sessions.erase id }, .done)
  else (m, .done)

/-- `touchSession` dereferences what it finds. -/
def touchSession (m : SessionManager) (id : String) (now : ℤ) :
    Option (SessionManager × SessionAnswer) :=
  match m.sessions.find? id with
  | none => some (m, .done)
  | some none => none
  | some (some session) =>
    some ({ m with sessions := m.sessions.insert id (some (session.touch now)) }, .done)

/-- The loop of `cleanupOldestSession` over the entries that are not null: `age` is
never raised, so that the last one with an idle time is taken. -/
def oldest (m : SessionManager) : Option String :=
  m.sessions.entries.foldl
    (fun oldest e =>
      match e.2 with
      | none => oldest
      | some session => if 0 < session.getIdleTime then some e.1 else oldest)
    none

def cleanupOldestSession (m : SessionManager) : SessionManager × SessionAnswer :=
  let sessions := m.sessions.filter fun _ session => session.isSome
  match m.oldest with
  | none => ({ m with sessions := sessions }, .done)
  | some id => ({ m with sessions := sessions.erase id }, .done)

def cleanupSessions (m : SessionManager) (now : ℤ) : SessionManager × SessionAnswer :=
  ({ m with
      sessions := m.sessions.filter fun _ session =>
        match session with
        | none => false
        | some session => session.isStillValid now }, .done)

/-- One operation at a time; `none` when it dereferences a null pointer. -/
def perform (gen : SessionTokenGenerator) (m : SessionManager) (call : SessionCall) (now : ℤ) :
    Option (SessionManager × SessionAnswer) :=
  match call with
  | .registerSession => some (m.registerSession gen now)
  | .registerApplicationSession => some (m.registerApplicationSession gen now)
  | .getSession id => some (m.getSession id)
  | .removeSession id => some (m.removeSession id)
  | .touchSession id => m.touchSession id now
  | .cleanupSessions => some (m.cleanupSessions now)
  | .cleanupOldestSession => some m.cleanupOldestSession

end SessionManager

end Dss
