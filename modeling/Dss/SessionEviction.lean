import Dss.FirstMatch
import Dss.SessionManager

/-!
# Making room for a session

`cleanupOldestSession` should take out the session that has been idle for the longest time. It looks
for a maximum, but never raises it, and compares the time at which a session was touched: the
session that is taken out is the last one of the map that was not touched at second 0.
-/

namespace Dss

open Option

namespace SessionManager

variable {m m' : SessionManager} {idle : Session → ℤ} {id : String} {s : Session}

def Live (m : SessionManager) (id : String) (s : Session) : Prop :=
  m.sessions.find? id = some (some s)

/-- One session is taken out, which is idle for as long as any other one, and so are the null
pointers; every other session stays. -/
def Evicts (idle : Session → ℤ) (m m' : SessionManager) : Prop :=
  ∃ id s, m.Live id s ∧ (∀ id' s', m.Live id' s' → idle s' ≤ idle s) ∧
    m' = { m with sessions := m'.sessions } ∧
    ∀ id', m'.sessions.find? id' =
      if id' = id then none else (m.sessions.find? id').filter Option.isSome

/-- An entry that the loop takes for the oldest one so far: `getIdleTime` is not 0. -/
def counted (e : String × Option Session) : Bool :=
  e.2.any fun s => decide (0 < s.getIdleTime)

def lastCounted (m : SessionManager) : Option (String × Option Session) :=
  (m.sessions.entries.filter counted).getLast?

/-- The session that is counted last is idle for longest. -/
def Fits (idle : Session → ℤ) (m : SessionManager) : Prop :=
  ∃ id s, m.lastCounted = some (id, some s) ∧ ∀ id' s', m.Live id' s' → idle s' ≤ idle s

theorem oldest_eq (m : SessionManager) : m.oldest = m.lastCounted.map Prod.fst := by
  refine (List.foldl_ext _ (fun last e => if counted e then some e.1 else last) none ?_).trans ?_
  · rintro last ⟨id, - | s⟩ -
    · rfl
    · exact if_congr decide_eq_true_iff.symm rfl rfl
  · rw [FirstMatch.foldl_replace counted fun e => some e.1, ← lastCounted]
    cases m.lastCounted with
    | none => rfl
    | some e => rfl

theorem exists_live_of_lastCounted {e : String × Option Session}
    (h : m.lastCounted = some e) : ∃ id s, e = (id, some s) ∧ m.Live id s := by
  obtain ⟨id, - | s⟩ := e
  · have hcounted := List.of_mem_filter (List.mem_of_getLast? h)
    cases hcounted
  · have hmem := List.mem_of_mem_filter (List.mem_of_getLast? h)
    exact ⟨id, s, rfl, OrderedMap.mem_entries.mp hmem⟩

theorem cleanupOldestSession_eq (m : SessionManager) :
    m.cleanupOldestSession.1 = { m with sessions := m.cleanupOldestSession.1.sessions } := by
  rw [cleanupOldestSession]
  split
  · rfl
  · rfl

theorem find?_cleanupOldestSession (m : SessionManager) (id' : String) :
    m.cleanupOldestSession.1.sessions.find? id' =
      if m.oldest = some id' then none else (m.sessions.find? id').filter Option.isSome := by
  rw [cleanupOldestSession]
  rcases m.oldest with - | id
  · exact OrderedMap.find?_filter
  · dsimp only
    rw [OrderedMap.erase, OrderedMap.find?_filter, OrderedMap.find?_filter]
    by_cases hid : id = id'
    · subst hid
      rw [if_pos rfl]
      cases (m.sessions.find? id).filter isSome with
      | none => rfl
      | some session => simp
    · rw [if_neg fun h => hid (some.inj h)]
      cases (m.sessions.find? id').filter isSome with
      | none => rfl
      | some session => simp [Ne.symm hid]

theorem Evicts.fits (h : Evicts idle m m.cleanupOldestSession.1) : Fits idle m := by
  obtain ⟨id, s, hlive, hmax, -, hleft⟩ := h
  have hid := hleft id
  rw [if_pos rfl, find?_cleanupOldestSession, oldest_eq, hlive] at hid
  split_ifs at hid with holdest
  · obtain ⟨e, he, hfst⟩ := map_eq_some_iff.mp holdest
    obtain ⟨id', s', rfl, hlive'⟩ := exists_live_of_lastCounted he
    obtain rfl : id' = id := hfst
    obtain rfl : s' = s := some.inj (some.inj (hlive'.symm.trans hlive))
    exact ⟨id', s', he, hmax⟩
  · cases hid

theorem Fits.evicts (h : Fits idle m) : Evicts idle m m.cleanupOldestSession.1 := by
  obtain ⟨id, s, hlast, hmax⟩ := h
  obtain ⟨id', s', heq, hlive⟩ := exists_live_of_lastCounted hlast
  obtain ⟨rfl, hs⟩ := Prod.mk.inj heq
  obtain rfl := some.inj hs
  refine ⟨id, s, hlive, hmax, cleanupOldestSession_eq m, fun other => ?_⟩
  rw [find?_cleanupOldestSession, oldest_eq, hlast]
  exact if_congr (by rw [map_some, some_inj, eq_comm]) rfl rfl

/-- **Making room.** Whatever is taken for the idle time of a session, `cleanupOldestSession` takes
out one that is idle for the longest time if and only if that is the last one in the map for which
`getIdleTime` is not 0. -/
theorem cleanupOldestSession_evicts_iff (idle : Session → ℤ) (m : SessionManager) :
    Evicts idle m m.cleanupOldestSession.1 ↔ Fits idle m :=
  ⟨Evicts.fits, Fits.evicts⟩

/-! ## Two sessions -/

theorem sorted_twoSessions (v w : Option Session) :
    [("a", v), ("b", w)].Pairwise fun e e' => e.1 < e'.1 := by
  have hlt : "a" < "b" := by decide
  refine List.pairwise_cons.mpr ⟨fun e he => ?_, List.pairwise_singleton _ _⟩
  obtain rfl := List.mem_singleton.mp he
  exact hlt

def twoSessions (first second : ℤ) : SessionManager where
  sessions := ⟨[("a", some { id := "a", lastTouched := first }),
    ("b", some { id := "b", lastTouched := second })], sorted_twoSessions _ _⟩

/-- The session that was touched later is taken out, though the other one has been idle for longer;
the one with the smaller `getIdleTime` is taken out; and of sessions that were touched at second 0,
none is. -/
theorem cleanupOldestSession_fails :
    ¬ Evicts (fun s => 10 - s.lastTouched) (twoSessions 1 2)
        (twoSessions 1 2).cleanupOldestSession.1 ∧
      ¬ Evicts Session.getIdleTime (twoSessions 2 1) (twoSessions 2 1).cleanupOldestSession.1 ∧
      ¬ Evicts (fun s => 10 - s.lastTouched) (twoSessions 0 0)
        (twoSessions 0 0).cleanupOldestSession.1 := by
  have hlast : (twoSessions 1 2).lastCounted =
      some ("b", some { id := "b", lastTouched := 2 }) := by decide
  have hlast' : (twoSessions 2 1).lastCounted =
      some ("b", some { id := "b", lastTouched := 1 }) := by decide
  refine ⟨fun h => ?_, fun h => ?_, fun h => ?_⟩
  · obtain ⟨id, s, hfits, hmax⟩ := h.fits
    obtain ⟨rfl, hs⟩ := Prod.mk.inj (some.inj (hlast.symm.trans hfits))
    obtain rfl := some.inj hs
    exact absurd (hmax "a" { id := "a", lastTouched := 1 } rfl) (by decide)
  · obtain ⟨id, s, hfits, hmax⟩ := h.fits
    obtain ⟨rfl, hs⟩ := Prod.mk.inj (some.inj (hlast'.symm.trans hfits))
    obtain rfl := some.inj hs
    exact absurd (hmax "a" { id := "a", lastTouched := 2 } rfl) (by decide)
  · obtain ⟨id, s, hfits, -⟩ := h.fits
    cases hfits

end SessionManager

end Dss
