import Dss.SetDescription

/-!
# The parser follows the reading of the text

At each position of a text of less than `2 ^ 31` characters, whose positions an `int` holds, a
routine of the parser does what the reading of the rest says.
-/

namespace Dss

namespace SetBuilder

open Position

variable {D α β : Type} {text tail rest : List Char} {c : Char}

/-! ## Routines one behind the other -/

theorem ok_bind (a : α) (f : α → Build β) : ((.ok a : Build α) >>= f) = f a := rfl

theorem error_bind (s : Stop) (f : α → Build β) : ((.error s : Build α) >>= f) = .error s := rfl

theorem lookup_ok (a : α) : lookup (.ok a) = .ok a := rfl

/-! ## Characters -/

section Characters

theorem charAt_before (h : c :: tail <:+ text) : charAt text (before text (c :: tail)) = .ok c := by
  rw [charAt, getElem?_before h]
  rfl

theorem charAt_before_nil : charAt text (before text []) = .error (.broke .outside) := by
  rw [charAt, getElem?_before List.nil_suffix]
  rfl

theorem findFirstOf_before (h : tail <:+ text) (chars : List Char) :
    findFirstOf text chars (before text tail) =
      if tail.dropWhile (fun c => !decide (c ∈ chars)) = [] then none
      else some (before text (tail.dropWhile fun c => !decide (c ∈ chars))) := by
  rw [findFirstOf, drop_before h, findIdx?_eq, before_dropWhile h]
  split_ifs <;> rfl

theorem substr_before (h : tail <:+ text) (count : ℕ) :
    substr text (before text tail : ℕ) count = .ok (tail.take count) := by
  have hle : before text tail ≤ text.length := before_le
  rw [substr, if_neg (by omega), Int.toNat_natCast, drop_before h]

variable (hsize : text.length < 2 ^ 31)
include hsize

theorem toIndex_before (tail : List Char) : toIndex (before text tail) = before text tail := by
  have hle : before text tail ≤ text.length := before_le
  exact Nat.mod_eq_of_lt (by omega)

theorem next_before (h : c :: tail <:+ text) :
    next (before text (c :: tail)) = before text tail := by
  rw [next, before_cons h]
  exact toIndex_before hsize tail

theorem skipBlanks_before (fuel : ℕ) (h : tail <:+ text) (hfuel : tail.length < fuel) :
    skipBlanks text fuel (before text tail) = .ok (before text (tail.dropWhile isSpace)) := by
  induction fuel generalizing tail with
  | zero => exact absurd hfuel (Nat.not_lt_zero _)
  | succ fuel ih =>
    rw [skipBlanks, getElem?_before h]
    cases tail with
    | nil => rfl
    | cons c tail =>
      by_cases hc : isSpace c = true
      · simp only [List.head?_cons, hc, if_true, List.dropWhile_cons_of_pos, next_before hsize h]
        exact ih (suffix_of_cons h) (by simpa using hfuel)
      · simp [hc]

theorem skipWhitespace_before (h : tail <:+ text) :
    skipWhitespace text (before text tail) = .ok (before text (tail.dropWhile isSpace)) :=
  skipBlanks_before hsize _ h (Nat.lt_succ_of_le h.length_le)

end Characters

/-! ## Parameters -/

def locate (text : List Char) (x : Except Exception (α × List Char)) : Build (α × ℕ) :=
  lookup (x.map fun p => (p.1, before text p.2))

theorem isSpace_of_closing (h : c ∈ [',', ')']) : isSpace c = false := by
  rcases List.mem_pair.mp h with rfl | rfl <;> rfl

theorem closing_of_dropWhile {chars : List Char}
    (h : tail.dropWhile (fun c => !decide (c ∈ chars)) = c :: rest) : c ∈ chars := by
  have hhead := List.head?_dropWhile_not (fun c => !decide (c ∈ chars)) tail
  rw [h] at hhead
  simpa using hhead

theorem parameter_ok {p : List Char} (h : parameter tail = .ok (p, rest)) :
    rest <:+ tail ∧ ∃ c t, rest = c :: t ∧ c ∈ [',', ')'] := by
  rw [parameter] at h
  split at h
  · cases h
  · rename_i c t hdrop
    cases h
    refine ⟨?_, c, t, rfl, closing_of_dropWhile hdrop⟩
    rw [← hdrop]
    exact (List.dropWhile_suffix _).trans (List.dropWhile_suffix _)

theorem parameterAs_ok {f : List Char → Except Exception α} {a : α}
    (h : parameterAs f tail = .ok (a, rest)) :
    rest <:+ tail ∧ ∃ c t, rest = c :: t ∧ c ∈ [',', ')'] := by
  rw [parameterAs] at h
  rcases hp : parameter tail with e | ⟨p, rest'⟩
  · rw [hp] at h
    cases h
  · rw [hp] at h
    obtain ⟨b, hb, hpure⟩ : ∃ b, f (trim p) = .ok b ∧ (b, rest') = (a, rest) := by
      cases hf : f (trim p) with
      | error e => simp [hf, bind, Except.bind] at h
      | ok b => exact ⟨b, rfl, by simpa [hf, bind, Except.bind, pure, Except.pure] using h⟩
    cases hpure
    exact parameter_ok hp

section Parameters

variable (hsize : text.length < 2 ^ 31)
include hsize

theorem readParameter_before (h : tail <:+ text) :
    readParameter text (before text tail) = locate text (parameter tail) := by
  have hblank : tail.dropWhile isSpace <:+ text := (List.dropWhile_suffix _).trans h
  have hle : before text (tail.dropWhile isSpace) ≤ text.length := before_le
  rw [readParameter, skipWhitespace_before hsize h, parameter]
  generalize tail.dropWhile isSpace = tail at hblank hle
  have hdrop := before_dropWhile (p := fun c => !decide (c ∈ [',', ')'])) hblank
  have hstart : (before text tail : ℤ).bmod (2 ^ 32) = before text tail := by
    rw [Int.bmod_eq_of_le] <;> omega
  rw [ok_bind, findFirstOf_before hblank, hstart]
  rcases hrest : tail.dropWhile (fun c => !decide (c ∈ [',', ')'])) with - | ⟨c, rest⟩
  · rfl
  · have hsuffix : c :: rest <:+ text := by
      rw [← hrest]
      exact (List.dropWhile_suffix _).trans hblank
    have hc : isSpace c = false := isSpace_of_closing (closing_of_dropWhile hrest)
    have hcount : (((before text (c :: rest) : ℕ) : ℤ) - before text tail) % 2 ^ 32 =
        (tail.takeWhile fun c => !decide (c ∈ [',', ')'])).length := by
      have hle' : before text (c :: rest) ≤ text.length := before_le
      rw [hrest] at hdrop
      omega
    simp only [reduceCtorEq, if_false, toIndex_before hsize, hcount, Int.toNat_natCast,
      substr_before hblank, take_takeWhile, skipWhitespace_before hsize hsuffix,
      List.dropWhile_cons, hc]
    rfl

theorem readAs_before (f : List Char → Except Exception α) (h : tail <:+ text) :
    (do
      let (p, index) ← readParameter text (before text tail)
      return (← lookup (f (trim p)), index)) = locate text (parameterAs f tail) := by
  rw [readParameter_before hsize h, parameterAs]
  rcases parameter tail with e | ⟨p, rest⟩
  · rfl
  · cases hf : f (trim p) <;> simp [locate, lookup, bind, Except.bind, Except.map, Except.mapError,
      pure, Except.pure, hf]

theorem readInt_before (h : tail <:+ text) :
    readInt text (before text tail) = locate text (parameterAs toInt tail) :=
  readAs_before hsize toInt h

theorem readDSID_before (rt : Runtime D) (h : tail <:+ text) :
    readDSID text rt (before text tail) = locate text (parameterAs (toDsuid rt) tail) :=
  readAs_before hsize (toDsuid rt) h

theorem readString_before (h : tail <:+ text) :
    readString text (before text tail) = locate text (parameterAs unquote tail) :=
  readAs_before hsize unquote h

end Parameters

/-! ## Taking the steps -/

section Run

variable [DecidableEq D] {rt : Runtime D} {ap : Apartment D} {g : Group} {set : List D}
  {sets : List (List D)}

theorem run_cut (v : Violation) :
    (⟨[], .cut v⟩ : Reading D).run rt ap g sets = .error (.broke v) :=
  rfl

theorem run_andThen (s : Step D) (r : Reading D) :
    (s.andThen r).run rt ap g sets = lookup (s.apply rt ap g sets) >>= r.run rt ap g := by
  have hsteps : (s.andThen r).evaluate rt ap g sets =
      s.apply rt ap g sets >>= r.evaluate rt ap g := rfl
  rw [Reading.run, hsteps]
  cases s.apply rt ap g sets with
  | error e => rfl
  | ok sets => rfl

theorem run_restrict (a : Restriction D) (r : Reading D) :
    ((Step.restrict a).andThen r).run rt ap g (set :: sets) =
      lookup (a.apply rt ap g set) >>= fun set => r.run rt ap g (set :: sets) := by
  rw [run_andThen, Step.apply]
  cases a.apply rt ap g set with
  | error e => rfl
  | ok set => rfl

theorem run_enter (r : Reading D) :
    (Step.enter.andThen r).run rt ap g sets =
      lookup (g.getDevices rt ap) >>= fun set => r.run rt ap g (set :: sets) := by
  rw [run_andThen, Step.apply]
  cases g.getDevices rt ap with
  | error e => rfl
  | ok set => rfl

end Run

/-! ## The parser goes on as the reading does -/

section Follow

variable [DecidableEq D] (rt : Runtime D) (ap : Apartment D) (g : Group)

def Continues (text : List Char) (sets : List (List D)) (K : List D × ℕ → Build (List D))
    (k : List Char → Reading D) : Prop :=
  ∀ rest, rest <:+ text → ∀ set,
    K (set, before text rest) = (k rest).run rt ap g (set :: sets)

def Parses (text : List Char) (parse : ℕ → List D → Build (List D × ℕ))
    (read : List Char → (List Char → Reading D) → Reading D) : Prop :=
  ∀ tail, tail <:+ text → ∀ set sets K k, Continues rt ap g text sets K k →
    parse (before text tail) set >>= K = (read tail k).run rt ap g (set :: sets)

variable {rt ap g} {set : List D} {sets : List (List D)} {K : List D × ℕ → Build (List D)}
  {k : List Char → Reading D}

theorem parameter_bind (hK : Continues rt ap g text sets K k) {f : List Char → Except Exception α}
    {look : α → Except Exception β} {out : β → List D} {r : α → Restriction D}
    (h : tail <:+ text) (happly : ∀ a, (r a).apply rt ap g set = (look a).map out) :
    (do
      let (a, index) ← locate text (parameterAs f tail)
      let y ← lookup (look a)
      return (out y, index)) >>= K =
      (withParameter (parameterAs f tail) fun a rest =>
        (Step.restrict (r a)).andThen (k rest)).run rt ap g (set :: sets) := by
  cases hparameter : parameterAs f tail with
  | error e => rfl
  | ok p =>
    obtain ⟨a, rest⟩ := p
    have hrest : rest <:+ text := (parameterAs_ok hparameter).1.trans h
    rw [withParameter, run_restrict, happly]
    cases hlook : look a with
    | error e => simp only [locate, lookup, Except.map, Except.mapError, ok_bind, hlook]; rfl
    | ok y =>
      simp only [locate, lookup, Except.map, Except.mapError, ok_bind, hlook]
      exact hK rest hrest (out y)

variable (hsize : text.length < 2 ^ 31)
include hsize

theorem addParameter_bind (hK : Continues rt ap g text sets K k) (h : tail <:+ text) :
    addParameter text rt ap (before text tail) set >>= K =
      (readDevice rt tail k).run rt ap g (set :: sets) := by
  rw [addParameter]
  cases tail with
  | nil => rw [charAt_before_nil, error_bind, readDevice, run_cut, error_bind]
  | cons c tail =>
    rw [charAt_before h, ok_bind, readDevice]
    by_cases hc : c = '\''
    · rw [if_pos hc, if_pos hc, readString_before hsize h]
      exact parameter_bind hK h fun name => rfl
    · rw [if_neg hc, if_neg hc, readDSID_before hsize rt h]
      exact parameter_bind hK h fun dsuid => rfl

theorem addDevices_bind (hK : Continues rt ap g text sets K k) (fuel : ℕ) (h : tail <:+ text) :
    addDevices text rt ap fuel (before text tail) set >>= K =
      (readDevices rt fuel tail k).run rt ap g (set :: sets) := by
  induction fuel generalizing tail set with
  | zero => rfl
  | succ fuel ih =>
    rw [addDevices, readDevices]
    -- after a parameter the loop goes on at a comma
    have hloop : ∀ after : List Char → Reading D, after [] = ⟨[], .cut .outside⟩ →
        (∀ c rest, after (c :: rest) =
          if c = ',' then readDevices rt fuel (c :: rest) k else k (c :: rest)) →
        Continues rt ap g text sets
          (fun x => (do
            if (← charAt text x.2) = ',' then addDevices text rt ap fuel x.2 x.1
            else return (x.1, x.2)) >>= K) after := by
      intro after hnil hcons rest hrest set
      cases rest with
      | nil =>
        dsimp only
        rw [charAt_before_nil, error_bind, error_bind, hnil, run_cut]
      | cons c rest =>
        dsimp only
        rw [charAt_before hrest, ok_bind, hcons]
        by_cases hc : c = ','
        · rw [if_pos hc, if_pos hc]
          exact ih hrest
        · rw [if_neg hc, if_neg hc]
          exact hK _ hrest set
    cases tail with
    | nil => rw [charAt_before_nil]; rfl
    | cons c tail =>
      rw [charAt_before h, ok_bind, List.head?_cons]
      by_cases hc : c = ','
      · rw [if_pos hc, if_pos (congrArg some hc), next_before hsize h]
        refine (bind_assoc _ _ _).trans ?_
        exact addParameter_bind hsize (hloop _ rfl fun _ _ => rfl) (suffix_of_cons h)
      · rw [if_neg hc, if_neg fun hsome => hc (Option.some.inj hsome)]
        refine (bind_assoc _ _ _).trans ?_
        exact addParameter_bind hsize (hloop _ rfl fun _ _ => rfl) h

/-- A function does what its reading says, if the set between its brackets is parsed as it is
read. -/
theorem callFunction_bind {parse : ℕ → List D → Build (List D × ℕ)}
    {read : List Char → (List Char → Reading D) → Reading D}
    (hparse : Parses rt ap g text parse read) (hK : Continues rt ap g text sets K k)
    (function : Option Function) (h : c :: tail <:+ text) :
    callFunction text rt ap parse function (before text (c :: tail)) set (some g) >>= K =
      (readFunction rt text.length read function (c :: tail) k).run rt ap g (set :: sets) := by
  have hinner {leave : Step D} {result : List D → List D}
      (hleave : ∀ inner, leave.apply rt ap g (inner :: set :: sets) = .ok (result inner :: sets)) :
      Continues rt ap g text (set :: sets) (fun x => K (result x.1, x.2))
        fun rest => leave.andThen (k rest) := by
    intro rest hrest inner
    rw [run_andThen, hleave]
    exact hK rest hrest (result inner)
  rcases function with - | f
  · exact hK _ h []
  · cases f with
    | dsid =>
      rw [callFunction, readDSID_before hsize rt h]
      exact parameter_bind hK h fun dsuid => rfl
    | zone | group =>
      rw [callFunction, readFunction, charAt_before h, ok_bind, List.head?_cons]
      by_cases hc : c = '\''
      · rw [if_pos hc, if_pos (congrArg some hc), readString_before hsize h]
        exact parameter_bind hK h fun name => (id_map _).symm
      · rw [if_neg hc, if_neg fun hsome => hc (Option.some.inj hsome), readInt_before hsize h]
        exact parameter_bind hK h fun id => (id_map _).symm
    | fid =>
      rw [callFunction, readInt_before hsize h]
      exact parameter_bind hK h fun id => (id_map _).symm
    | tag =>
      rw [callFunction, readString_before hsize h]
      exact parameter_bind hK h fun name => (id_map _).symm
    | add | remove =>
      rw [callFunction, readFunction, run_enter, deref, ok_bind, bind_assoc]
      refine congrArg _ (funext fun devices => ?_)
      rw [bind_assoc]
      exact hparse _ h devices (set :: sets) _ _ (hinner fun inner => rfl)
    | empty =>
      exact hK _ h []
    | addDevices =>
      exact addDevices_bind hsize hK _ h

theorem closeCall_bind (hK : Continues rt ap g text sets K k) (h : tail <:+ text) :
    closeCall text set (before text tail) >>= K =
      (close text.length tail k).run rt ap g (set :: sets) := by
  rw [closeCall]
  cases tail with
  | nil => rw [charAt_before_nil, error_bind, error_bind, close, run_cut]
  | cons c tail =>
    rw [charAt_before h, ok_bind, close]
    by_cases hcomma : c = ','
    · have hclosing : (c = ')' || c = ',') = true := by simp [hcomma]
      rw [hclosing, if_pos hcomma, if_pos hcomma]
      rfl
    · rw [if_neg hcomma, if_neg hcomma]
      by_cases hclose : c = ')'
      · have hclosing : (c = ')' || c = ',') = true := by simp [hclose]
        rw [hclosing, if_pos hclose, next_before hsize h]
        exact hK _ (suffix_of_cons h) set
      · have hclosing : (c = ')' || c = ',') = false := by simp [hclose, hcomma]
        rw [hclosing, if_neg hclose, assert, if_neg Bool.false_ne_true, error_bind, error_bind,
          run_cut]

theorem restrictByFunction_bind {parse : ℕ → List D → Build (List D × ℕ)}
    {read : List Char → (List Char → Reading D) → Reading D}
    (hparse : Parses rt ap g text parse read) (hK : Continues rt ap g text sets K k)
    (functionName : List Char) (h : '(' :: tail <:+ text) :
    restrictByFunction text rt ap parse functionName (before text tail) set (some g) >>= K =
      (readCall rt text.length read functionName tail k).run rt ap g (set :: sets) := by
  have htail : tail <:+ text := suffix_of_cons h
  have hopening : (before text tail + 2 ^ 32 - 1) % 2 ^ 32 = before text ('(' :: tail) := by
    have hlt := before_lt h
    have hcons := before_cons h
    omega
  rw [restrictByFunction]
  cases tail with
  | nil => rw [if_pos ((length_le_before_iff htail).mpr rfl)]; rfl
  | cons c tail =>
    rw [if_neg fun hle => List.cons_ne_nil c tail ((length_le_before_iff htail).mp hle),
      hopening, charAt_before h, ok_bind,
      decide_eq_true (rfl : '(' = '('), assert, if_pos rfl, ok_bind, bind_assoc]
    refine callFunction_bind hsize hparse (fun rest hrest set => ?_) _ htail
    exact closeCall_bind hsize hK hrest

theorem parseBehindCall_bind {parse : ℕ → List D → Build (List D × ℕ)}
    {read : List Char → (List Char → Reading D) → Reading D}
    (hparse : Parses rt ap g text parse read) (hK : Continues rt ap g text sets K k)
    (h : tail <:+ text) :
    parseBehindCall text parse set (before text tail) >>= K =
      (readBehindCall read tail k).run rt ap g (set :: sets) := by
  have hblank : tail.dropWhile isSpace <:+ text := (List.dropWhile_suffix _).trans h
  rw [parseBehindCall, readBehindCall, skipWhitespace_before hsize h, ok_bind,
    getElem?_before hblank]
  generalize tail.dropWhile isSpace = tail at hblank
  rcases tail with - | ⟨c, rest⟩
  · exact hK [] hblank set
  · dsimp only [List.head?_cons]
    by_cases hc : c ≠ ',' ∧ c ≠ ')'
    · rw [if_pos hc, if_pos hc, next_before hsize hblank]
      exact hparse rest (suffix_of_cons hblank) set sets K k hK
    · rw [if_neg hc, if_neg hc]
      exact hK (c :: rest) hblank set

omit hsize in
theorem run_item (item : List Char) (r : Reading D) :
    (readItem item r).run rt ap g (set :: sets) =
      lookup (restrictBy rt ap (String.ofList (trim item)) set g) >>= fun set =>
        r.run rt ap g (set :: sets) :=
  run_restrict _ _

theorem parseItem_bind {parse : ℕ → List D → Build (List D × ℕ)}
    {read : List Char → (List Char → Reading D) → Reading D}
    (hparse : Parses rt ap g text parse read) (hK : Continues rt ap g text sets K k)
    (name : List Char) (h : c :: rest <:+ text) (hc : c ∈ delimiters) (hcall : c ≠ '(') :
    parseItem text rt ap parse (name ++ [c]) (before text (c :: rest)) set (some g) >>= K =
      (if c = '.' then
        if rest = [] then readItem (name ++ ['.']) (k []) else readItem name (read rest k)
      else readItem name (k (c :: rest))).run rt ap g (set :: sets) := by
  have hlast : (before text (c :: rest) = text.length - 1) ↔ rest = [] := by
    have hcons := before_cons h
    have hlength := before_add_length (suffix_of_cons h)
    rw [← List.length_eq_zero_iff]
    omega
  have hback : (before text rest + 2 ^ 32 - 1) % 2 ^ 32 = before text (c :: rest) := by
    have hcons := before_cons h
    have hlt := before_lt h
    omega
  rw [parseItem, deref, ok_bind, bind_assoc, before_cons h, toIndex_before hsize]
  simp only [hback, hlast, List.getLast?_concat, List.dropLast_concat, Option.some.injEq]
  by_cases hdot : c = '.'
  · subst hdot
    by_cases hrest : rest = []
    · subst hrest
      rw [if_pos rfl, if_pos rfl, run_item]
      refine congrArg _ (funext fun tmp => ?_)
      exact hK [] List.nil_suffix tmp
    · rw [if_pos rfl, if_neg hrest, run_item]
      simp only [hrest, decide_false]
      refine congrArg _ (funext fun tmp => ?_)
      exact hparse rest (suffix_of_cons h) tmp sets K k hK
  · have hparam : (decide (c = ',') || decide (c = ')')) = true := by
      simp only [delimiters, List.mem_cons, List.not_mem_nil, or_false, hdot, hcall,
        false_or] at hc
      rcases hc with rfl | rfl <;> rfl
    rw [if_neg hdot, run_item]
    simp only [hparam, Bool.or_true, Bool.not_true, Bool.and_false, if_true]
    refine congrArg _ (funext fun tmp => ?_)
    exact hK _ h tmp

theorem parseItem_bind_of_forall {parse : ℕ → List D → Build (List D × ℕ)}
    (hK : Continues rt ap g text sets K k)
    (hname : ∀ c ∈ tail, c ∉ delimiters) (hne : text ≠ []) :
    parseItem text rt ap parse tail (text.length - 1) set (some g) >>= K =
      (readItem tail (k [])).run rt ap g (set :: sets) := by
  have hindex : text.length - 1 + 1 = before text [] :=
    Nat.sub_add_cancel (List.length_pos_iff.mpr hne)
  have hparam :
      (decide (tail.getLast? = some ',') || decide (tail.getLast? = some ')')) = false := by
    rw [Bool.or_eq_false_iff, decide_eq_false_iff_not, decide_eq_false_iff_not]
    refine ⟨fun hlast => ?_, fun hlast => ?_⟩ <;>
      exact hname _ (List.mem_of_getLast? hlast) (by decide)
  rw [parseItem, deref, ok_bind, bind_assoc, hindex, toIndex_before hsize, run_item]
  simp only [hparam, decide_true, Bool.not_true, Bool.or_false, Bool.false_and]
  refine congrArg _ (funext fun tmp => ?_)
  exact hK [] List.nil_suffix tmp

theorem parseSet_bind (fuel : ℕ) :
    Parses rt ap g text (parseSet text rt ap (some g) fuel) (readSet rt text.length fuel) := by
  induction fuel with
  | zero =>
    intro tail h set sets K k hK
    rfl
  | succ fuel ih =>
    intro tail h set sets K k hK
    rw [parseSet, readSet, skipWhitespace_before hsize h, ok_bind]
    have hblank : tail.dropWhile isSpace <:+ text := (List.dropWhile_suffix _).trans h
    generalize tail.dropWhile isSpace = tail at hblank
    have hpos := before_dropWhile (p := fun c => !decide (c ∈ delimiters)) hblank
    dsimp only
    rw [findFirstOf_before hblank]
    rcases hrest : tail.dropWhile (fun c => !decide (c ∈ delimiters)) with - | ⟨c, rest⟩
    · have hname : ∀ c ∈ tail, c ∉ delimiters := by
        simpa [List.dropWhile_eq_nil_iff] using hrest
      have hentry : tail.takeWhile (fun c => !decide (c ∈ delimiters)) = tail := by
        simpa using hname
      rw [if_pos rfl, Option.getD_none, hentry]
      by_cases hnil : tail = []
      · subst hnil
        rw [if_pos ((length_le_before_iff hblank).mpr rfl)]
        exact hK [] hblank set
      · have hne : ¬ text.length ≤ before text tail :=
          fun hle => hnil ((length_le_before_iff hblank).mp hle)
        have hlength := before_add_length hblank
        have hcount : text.length - 1 + 1 - before text tail = tail.length := by omega
        obtain ⟨c, hc⟩ := Option.isSome_iff_exists.mp (List.getLast?_isSome.mpr hnil)
        have hlast : charAt text (text.length - 1) = .ok c := by
          rw [charAt, ← List.getLast?_eq_getElem?]
          obtain ⟨front, rfl⟩ := hblank
          rw [List.getLast?_append, hc, Option.some_or]
        have hcall : c ≠ '(' := by
          rintro rfl
          exact hname _ (List.mem_of_getLast? hc) (by decide)
        have hwhole : tail ≠ ['.'] := by
          rintro rfl
          exact hname '.' List.mem_cons_self (by decide)
        have htext : text ≠ [] := by
          rintro rfl
          exact hnil (List.suffix_nil.mp hblank)
        rw [if_neg hne, if_neg hnil, substr_before hblank, ok_bind, hcount, List.take_length,
          if_neg hwhole, hlast, ok_bind, if_neg hcall]
        exact parseItem_bind_of_forall hsize hK hname htext
    · have hsuffix : c :: rest <:+ text := by
        rw [← hrest]
        exact (List.dropWhile_suffix _).trans hblank
      have hne : ¬ text.length ≤ before text tail := by
        intro hle
        rw [(length_le_before_iff hblank).mp hle] at hrest
        cases hrest
      have hcount : before text (c :: rest) + 1 - before text tail =
          (tail.takeWhile fun c => !decide (c ∈ delimiters)).length + 1 := by
        rw [hrest] at hpos
        omega
      rw [if_neg (List.cons_ne_nil c rest), Option.getD_some, if_neg hne, substr_before hblank,
        ok_bind, hcount, take_takeWhile_succ hrest, before_cons hsuffix, toIndex_before hsize,
        charAt_before hsuffix, ok_bind, List.dropLast_concat]
      generalize tail.takeWhile (fun c => !decide (c ∈ delimiters)) = name
      have hmem : c ∈ delimiters := closing_of_dropWhile hrest
      have hcontinue : parseSet text rt ap (some g) fuel (before text rest) ap.getDevices >>= K =
          ((Step.restrict .apartment).andThen (readSet rt text.length fuel rest k)).run rt ap g
            (set :: sets) := by
        exact ih rest (suffix_of_cons hsuffix) _ sets K k hK
      dsimp only
      by_cases hcall : c = '('
      · subst hcall
        have hentry : name ++ ['('] ≠ ['.'] := by
          intro heq
          have hlast := congrArg List.getLast? heq
          simp at hlast
        rw [if_neg hentry, if_pos rfl, bind_assoc]
        refine restrictByFunction_bind hsize ih (fun rest hrest set => ?_) name hsuffix
        exact parseBehindCall_bind hsize ih hK hrest
      · rw [if_neg hcall, if_neg hcall]
        by_cases hwhole : name ++ [c] = ['.']
        · obtain ⟨rfl, hc⟩ : name = [] ∧ c = '.' := by
            simpa [List.append_eq_singleton_iff] using hwhole
          rw [if_pos hwhole, if_pos hc]
          exact hcontinue
        · rw [if_neg hwhole, parseItem_bind hsize ih hK name hsuffix hmem hcall]
          by_cases hdot : c = '.'
          · have hname : name ≠ [] := by
              rintro rfl
              exact hwhole (congrArg (fun c => [c]) hdot)
            rw [if_pos hdot, if_pos hdot, if_neg hname]
          · rw [if_neg hdot, if_neg hdot]

end Follow

end SetBuilder

end Dss
