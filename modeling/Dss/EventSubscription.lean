import Dss.Exception
import Dss.Event

/-!
# Event subscriptions

The property filters of a subscription and the loop of `EventSubscription::matches` that combines
them. Each option leaves the loop early in a different place, `foMatchOne` after a cast to a match
filter whose result nothing uses. What is left over at the end is the flag `fMatch`, which is only
ever set under `foMatchAll`. `matches_eq_ok_accepts_iff` says where the loop computes `accepts`,
what the three options are for.
-/

namespace Dss

/-- The property filters: the three subclasses of `EventPropertyFilter`. -/
inductive EventPropertyFilter : Type where
  /-- `EventPropertyMatchFilter`: the property reads as the value -/
  | matchValue : (propertyName value : String) → EventPropertyFilter
  /-- `EventPropertyExistsFilter`: the property is set -/
  | exists : (propertyName : String) → EventPropertyFilter
  /-- `EventPropertyMissingFilter`: the property is not set -/
  | missing : (propertyName : String) → EventPropertyFilter
  deriving DecidableEq

namespace EventPropertyFilter

/-- The virtual `matches` of the three filter classes. -/
def «matches» (e : Event) : EventPropertyFilter → Bool
  | matchValue name value => e.getPropertyByName name == value
  | .exists name => e.hasPropertySet name
  | missing name => !e.hasPropertySet name

/-- Whether the dynamic type of the filter is `EventPropertyMatchFilter`. -/
def isMatchFilter : EventPropertyFilter → Bool
  | matchValue .. => true
  | .exists _ | missing _ => false

/-- `dynamic_cast<EventPropertyMatchFilter&>`: a reference cast, so it throws
on a filter of another class. -/
def castToMatchFilter (f : EventPropertyFilter) : Except Exception EventPropertyFilter :=
  if f.isMatchFilter then .ok f else .error .badCast

end EventPropertyFilter

/-- `EventPropertyFilterOption`. -/
inductive FilterOption : Type where
  | foMatchNone : FilterOption
  | foMatchAll : FilterOption
  | foMatchOne : FilterOption
  deriving DecidableEq

/-- `EventSubscription`, as far as matching reads it; a new subscription
matches all. -/
structure EventSubscription : Type where
  /-- `m_Filter` -/
  filters : List EventPropertyFilter := []
  filterOption : FilterOption := .foMatchAll

namespace EventSubscription

open EventPropertyFilter

/-- The loop of `EventSubscription::matches` over the filters that are left,
with its flag `fMatch`. -/
def matchesLoop (option : FilterOption) (e : Event) :
    List EventPropertyFilter → Bool → Except Exception Bool
  | [], fMatch => .ok fMatch
  | f :: fs, fMatch =>
    if f.matches e then
      match option with
      | .foMatchOne => do
        let _ ← f.castToMatchFilter
        return true
      | .foMatchNone => .ok false
      | .foMatchAll => matchesLoop option e fs true
    else
      match option with
      | .foMatchAll => .ok false
      | .foMatchOne | .foMatchNone => matchesLoop option e fs fMatch

/-- `EventSubscription::matches`. -/
def «matches» (s : EventSubscription) (e : Event) : Except Exception Bool :=
  if s.filters.length = 0 then .ok true
  else matchesLoop s.filterOption e s.filters false

/-- What the filters of a subscription ask for, option by option; an empty list
asks for nothing. -/
def accepts (s : EventSubscription) (e : Event) : Bool :=
  s.filters.isEmpty ||
    match s.filterOption with
    | .foMatchAll => s.filters.all (·.matches e)
    | .foMatchOne => s.filters.any (·.matches e)
    | .foMatchNone => !s.filters.any (·.matches e)

/-! ## What the loop returns, option by option -/

/-- Under `foMatchAll` the loop is a conjunction; the flag only matters for an
empty list. -/
theorem matchesLoop_all (e : Event) :
    ∀ (fs : List EventPropertyFilter) (fMatch : Bool),
      matchesLoop .foMatchAll e fs fMatch =
        .ok (fs.all (·.matches e) && (fMatch || !fs.isEmpty)) := by
  intro fs
  induction fs with
  | nil => simp [matchesLoop]
  | cons f fs ih =>
    by_cases hf : f.matches e
    · simp [matchesLoop, hf, ih]
    · simp [matchesLoop, hf]

/-- Under `foMatchOne` the first matching filter decides: `true` if it is a
match filter, an exception if it is of another class. -/
theorem matchesLoop_one (e : Event) (fMatch : Bool) :
    ∀ fs : List EventPropertyFilter,
      matchesLoop .foMatchOne e fs fMatch =
        match fs.find? (·.matches e) with
        | none => .ok fMatch
        | some f => if f.isMatchFilter then .ok true else .error .badCast := by
  intro fs
  induction fs with
  | nil => rfl
  | cons f fs ih =>
    by_cases hf : f.matches e
    · by_cases hm : f.isMatchFilter
      · simp [matchesLoop, hf, castToMatchFilter, hm]
      · simp [matchesLoop, hf, castToMatchFilter, hm]
    · simp [matchesLoop, hf, ih]

/-- Under `foMatchNone` the loop never returns `true` unless the flag was set,
which nothing does under this option. -/
theorem matchesLoop_none (e : Event) (fMatch : Bool) :
    ∀ fs : List EventPropertyFilter,
      matchesLoop .foMatchNone e fs fMatch =
        .ok (!fs.any (·.matches e) && fMatch) := by
  intro fs
  induction fs with
  | nil => simp [matchesLoop]
  | cons f fs ih =>
    by_cases hf : f.matches e
    · simp [matchesLoop, hf]
    · simp [matchesLoop, hf, ih]

/-! ## When `matches` does what the option asks for -/

/-- The subscriptions and events on which no early exit goes wrong: under
`foMatchOne` the first filter that matches is a match filter, under
`foMatchNone` some filter matches. -/
def MatchesSoundly (s : EventSubscription) (e : Event) : Prop :=
  s.filters = [] ∨
    match s.filterOption with
    | .foMatchAll => True
    | .foMatchOne => ∀ f, s.filters.find? (·.matches e) = some f → f.isMatchFilter
    | .foMatchNone => ∃ f ∈ s.filters, f.matches e

/-- **Matching is exact precisely on the sound inputs**: `matches` returns
without an exception, and returns what the filter option asks for, if and only
if the list is empty, or all filters have to match, or the first filter that
matches in a match-one list is a match filter, or some filter of a match-none
list does match. -/
theorem matches_eq_ok_accepts_iff (s : EventSubscription) (e : Event) :
    s.matches e = .ok (s.accepts e) ↔ s.MatchesSoundly e := by
  obtain ⟨fs, option⟩ := s
  rcases fs with - | ⟨f, fs⟩
  · simp [«matches», accepts, MatchesSoundly]
  have hloop : (⟨f :: fs, option⟩ : EventSubscription).matches e =
      matchesLoop option e (f :: fs) false := rfl
  rw [hloop]
  cases option with
  | foMatchAll => simp [matchesLoop_all, accepts, MatchesSoundly]
  | foMatchOne =>
    rw [matchesLoop_one]
    rcases hfind : (f :: fs).find? (·.matches e) with - | g
    · -- nothing matches: the loop runs off the end with the flag still down
      have hany : (f :: fs).any (·.matches e) = false := by
        rw [← Bool.not_eq_true, List.any_eq_true]
        rintro ⟨g, hg, hm⟩
        exact List.find?_eq_none.mp hfind g hg hm
      simp [accepts, MatchesSoundly, hfind, hany]
    · have hany : (f :: fs).any (·.matches e) = true :=
        List.any_eq_true.mpr ⟨g, List.mem_of_find?_eq_some hfind,
          List.find?_some hfind⟩
      by_cases hg : g.isMatchFilter
      · simp [accepts, MatchesSoundly, hfind, hany, hg]
      · simp [accepts, MatchesSoundly, hfind, hany, hg]
  | foMatchNone =>
    rw [matchesLoop_none]
    by_cases hf : f.matches e
    · simp [accepts, MatchesSoundly, hf]
    · simp [accepts, MatchesSoundly, hf]

/-- A match-none subscription rejects an event none of its filters match, and
an exists filter in a match-one list makes `matches` throw. -/
theorem matches_ne_ok_accepts :
    (⟨[.matchValue "action" "deleted"], .foMatchNone⟩ : EventSubscription).matches
        { name := "deviceEvent" } ≠
      .ok ((⟨[.matchValue "action" "deleted"], .foMatchNone⟩ : EventSubscription).accepts
        { name := "deviceEvent" }) ∧
    (⟨[.exists "name"], .foMatchOne⟩ : EventSubscription).matches { name := "running" } =
      .error .badCast := by
  decide

end EventSubscription

end Dss
