import Mathlib.Data.List.Nodup
import Dss.Transition

/-!
# Web sockets

The web server keeps a list of the web sockets it has accepted. The loop that looks for the entry of
a closing connection does not go on to the next one: it ends only at the first entry, and otherwise
keeps the lock for good.
-/

namespace Dss

open List Function

inductive WebSocketState : Type where
  /-- `ws_disconnected` -/
  | disconnected : WebSocketState
  /-- `ws_connected` -/
  | connected : WebSocketState
  /-- `ws_ready` -/
  | ready : WebSocketState
  deriving DecidableEq

/-- `websocket_connection_t` -/
structure WebSocketConnection (C : Type) : Type where
  id : ℕ
  connection : C
  state : WebSocketState

structure WebSockets (C : Type) : Type where
  websockets : List (WebSocketConnection C) := []
  /-- `m_max_ws_clients` -/
  maxClients : ℕ := 5
  userData : C → Option ℕ := fun _ => none
  nextId : ℕ := 0
  /-- whether a close callback holds `m_websocket_mutex` and does not return -/
  lockHeld : Bool := false
  written : List (C × String) := []
  accepted : List C := []
  readied : List C := []

namespace WebSockets

variable {C : Type}

/-! ## The callbacks -/

/-- `WebSocketConnectHandler`: 0 to accept. What it looks at before the lock is a flag. -/
def connectHandler [DecidableEq C] (c : C) (admitted : Bool) (w : WebSockets C) :
    WebSockets C × ℕ :=
  if admitted then
    if w.maxClients ≤ w.websockets.length then (w, 1)
    else
      ({ w with
          websockets :=
            w.websockets ++ [{ id := w.nextId, connection := c, state := .connected }]
          userData := Function.update w.userData c (some w.nextId)
          nextId := w.nextId + 1 }, 0)
  else (w, 1)

def markReady (id : ℕ) (x : WebSocketConnection C) : WebSocketConnection C :=
  if x.id = id then { x with state := .ready } else x

/-- `WebSocketReadyHandler`, which does not lock. -/
def readyHandler (c : C) (w : WebSockets C) : WebSockets C :=
  match w.userData c with
  | none => w
  | some client =>
    { w with
      written := w.written ++ [(c, "\x7b \"ok\": true \x7d")]
      websockets := w.websockets.map (markReady client) }

/-- The loop of `WebSocketCloseHandler` from a position: where it finds the client, if it
returns with these many steps. The position stays. -/
def closeLoop (client : Option ℕ) (websockets : List (WebSocketConnection C)) :
    ℕ → ℕ → Option (Option ℕ)
  | 0, _ => none
  | fuel + 1, i =>
    match websockets[i]? with
    | none => some none
    | some x => if some x.id = client then some (some i) else closeLoop client websockets fuel i

/-- `WebSocketCloseHandler`. If the loop does not return, the lock is held. -/
def closeHandler [DecidableEq C] (c : C) (w : WebSockets C) : WebSockets C :=
  match closeLoop (w.userData c) w.websockets (w.websockets.length + 1) 0 with
  | none => { w with lockHeld := true }
  | some none => w
  | some (some i) =>
    { w with
      userData := Function.update w.userData c none
      websockets := w.websockets.eraseIdx i }

def sendToWebSockets (data : String) (w : WebSockets C) : WebSockets C :=
  if data = "" then w
  else
    { w with
      written := w.written ++
        (w.websockets.filter fun x => x.state = .ready).map fun x => (x.connection, data) }

/-! ## Runs -/

/-- What happens to a connection, or is sent to all of them. -/
inductive Call (C : Type) : Type where
  | connect (c : C) (admitted : Bool)
  | ready (c : C)
  | close (c : C)
  | send (data : String)

/-- One call; one that needs the lock is left out while it is held. -/
def step [DecidableEq C] (w : WebSockets C) : Call C → WebSockets C
  | .connect c admitted =>
    if w.lockHeld then w
    else
      match connectHandler c admitted w with
      | (w, 0) => { w with accepted := w.accepted ++ [c] }
      | (w, _) => w
  | .ready c =>
    let readied := if c ∈ w.accepted then c :: w.readied else w.readied
    { readyHandler c w with readied := readied }
  | .close c =>
    if w.lockHeld then w
    else
      { closeHandler c w with
        accepted := w.accepted.filter (· ≠ c)
        readied := w.readied.filter (· ≠ c) }
  | .send data => if w.lockHeld then w else sendToWebSockets data w

/-- What the registry promises. -/
structure Law (w : WebSockets C) : Prop where
  mem_iff : ∀ c, c ∈ w.websockets.map WebSocketConnection.connection ↔ c ∈ w.accepted
  nodup : (w.websockets.map WebSocketConnection.connection).Nodup
  length_le : w.websockets.length ≤ w.maxClients
  writes : ∀ data, data ≠ "" → ∃ ready : List C, ready.Nodup ∧
    (∀ c, c ∈ ready ↔ c ∈ w.accepted ∧ c ∈ w.readied) ∧
    (sendToWebSockets data w).written = w.written ++ ready.map fun c => (c, data)
  returned : w.lockHeld = false

/-- Before the first call. -/
structure Start (w : WebSockets C) : Prop where
  websockets_eq : w.websockets = []
  userData_eq : ∀ c, w.userData c = none
  lockHeld_eq : w.lockHeld = false
  accepted_eq : w.accepted = []
  readied_eq : w.readied = []

/-- A connection that closes is the first of the list, or the list is empty; one that is
accepted is not in the list already. -/
def Fits (w : WebSockets C) : Call C → Prop
  | .connect c admitted => admitted = true → w.websockets.length < w.maxClients →
      c ∉ w.websockets.map WebSocketConnection.connection
  | .ready _ => True
  | .close c => ∀ x ∈ w.websockets.head?, x.connection = c
  | .send _ => True

instance [DecidableEq C] (w : WebSockets C) : ∀ call, Decidable (w.Fits call)
  | .connect c admitted => inferInstanceAs (Decidable (admitted = true →
      w.websockets.length < w.maxClients →
        c ∉ w.websockets.map WebSocketConnection.connection))
  | .ready _ => inferInstanceAs (Decidable True)
  | .close c => inferInstanceAs (Decidable (∀ x ∈ w.websockets.head?, x.connection = c))
  | .send _ => inferInstanceAs (Decidable True)

/-! ## The loop of the close callback -/

section closeLoop

variable {client : Option ℕ} {websockets : List (WebSocketConnection C)}
  {x : WebSocketConnection C} {i fuel : ℕ}

theorem closeLoop_eq_none (hx : websockets[i]? = some x) (hne : some x.id ≠ client) :
    closeLoop client websockets fuel i = none := by
  induction fuel with
  | zero => rfl
  | succ fuel ih =>
    rw [closeLoop, hx]
    dsimp only
    rw [if_neg hne, ih]

end closeLoop

/-! ## The invariant -/

/-- The list, the pointers and the calls so far agree. -/
structure Inv (w : WebSockets C) : Prop where
  connections_eq : w.websockets.map WebSocketConnection.connection = w.accepted
  nodup : w.accepted.Nodup
  ids_nodup : (w.websockets.map WebSocketConnection.id).Nodup
  lt_nextId : ∀ x ∈ w.websockets, x.id < w.nextId
  length_le : w.websockets.length ≤ w.maxClients
  userData_eq : ∀ x ∈ w.websockets, w.userData x.connection = some x.id
  userData_none : ∀ c ∉ w.accepted, w.userData c = none
  ready_iff : ∀ x ∈ w.websockets, x.state = .ready ↔ x.connection ∈ w.readied
  readied_accepted : ∀ c ∈ w.readied, c ∈ w.accepted
  lockHeld_eq : w.lockHeld = false

variable {w : WebSockets C} {c : C} {x y : WebSocketConnection C}

theorem connection_markReady {id : ℕ} : (markReady id x).connection = x.connection := by
  rw [markReady]
  split_ifs <;> rfl

theorem id_markReady {id : ℕ} : (markReady id x).id = x.id := by
  rw [markReady]
  split_ifs <;> rfl

theorem state_markReady {id : ℕ} :
    (markReady id x).state = .ready ↔ x.id = id ∨ x.state = .ready := by
  rw [markReady]
  split_ifs with hid
  · simp [hid]
  · simp [hid]

theorem Start.inv (h : w.Start) : w.Inv where
  connections_eq := by rw [h.websockets_eq, h.accepted_eq]; rfl
  nodup := by rw [h.accepted_eq]; exact nodup_nil
  ids_nodup := by rw [h.websockets_eq]; exact nodup_nil
  lt_nextId x hx := by rw [h.websockets_eq] at hx; cases hx
  length_le := by rw [h.websockets_eq]; exact Nat.zero_le _
  userData_eq x hx := by rw [h.websockets_eq] at hx; cases hx
  userData_none c _ := h.userData_eq c
  ready_iff x hx := by rw [h.websockets_eq] at hx; cases hx
  readied_accepted c hc := by rw [h.readied_eq] at hc; cases hc
  lockHeld_eq := h.lockHeld_eq

namespace Inv

theorem mem_accepted (h : w.Inv) (hx : x ∈ w.websockets) : x.connection ∈ w.accepted := by
  rw [← h.connections_eq]
  exact mem_map_of_mem hx

theorem exists_entry (h : w.Inv) (hc : c ∈ w.accepted) : ∃ x ∈ w.websockets, x.connection = c := by
  rw [← h.connections_eq] at hc
  exact mem_map.mp hc

theorem userData_eq_iff (h : w.Inv) (hx : x ∈ w.websockets) :
    w.userData c = some x.id ↔ x.connection = c := by
  constructor
  · intro hdata
    have hc : c ∈ w.accepted := by
      by_contra hnot
      rw [h.userData_none c hnot] at hdata
      cases hdata
    obtain ⟨y, hy, rfl⟩ := h.exists_entry hc
    rw [h.userData_eq y hy] at hdata
    rw [inj_on_of_nodup_map h.ids_nodup hy hx (Option.some.inj hdata)]
  · rintro rfl
    exact h.userData_eq x hx

theorem writes (h : w.Inv) {data : String} (hdata : data ≠ "") : ∃ ready : List C,
    ready.Nodup ∧ (∀ c, c ∈ ready ↔ c ∈ w.accepted ∧ c ∈ w.readied) ∧
      (sendToWebSockets data w).written = w.written ++ ready.map fun c => (c, data) := by
  refine ⟨(w.websockets.filter fun x => x.state = .ready).map WebSocketConnection.connection,
    ?_, fun c => ⟨?_, ?_⟩, ?_⟩
  · have hnodup := h.nodup
    rw [← h.connections_eq] at hnodup
    exact hnodup.sublist (filter_sublist.map _)
  · intro hc
    obtain ⟨x, hx, rfl⟩ := mem_map.mp hc
    obtain ⟨hmem, hready⟩ := mem_filter.mp hx
    exact ⟨h.mem_accepted hmem, (h.ready_iff x hmem).mp (of_decide_eq_true hready)⟩
  · rintro ⟨haccepted, hreadied⟩
    obtain ⟨x, hx, rfl⟩ := h.exists_entry haccepted
    refine mem_map_of_mem (mem_filter.mpr ⟨hx, ?_⟩)
    exact decide_eq_true ((h.ready_iff x hx).mpr hreadied)
  · rw [sendToWebSockets, if_neg hdata, map_map]
    rfl

theorem law (h : w.Inv) : w.Law where
  mem_iff c := by rw [h.connections_eq]
  nodup := by rw [h.connections_eq]; exact h.nodup
  length_le := h.length_le
  writes _ hdata := h.writes hdata
  returned := h.lockHeld_eq

/-! ## Accepting -/

variable [DecidableEq C] {admitted : Bool}

theorem step_connect_of_rejected (hlock : w.lockHeld = false)
    (h : ¬ (admitted = true ∧ w.websockets.length < w.maxClients)) :
    w.step (.connect c admitted) = w := by
  rw [step, if_neg (ne_true_of_eq_false hlock), connectHandler]
  by_cases hadmitted : admitted = true
  · rw [if_pos hadmitted, if_pos (Nat.le_of_not_lt fun hlt => h ⟨hadmitted, hlt⟩)]
    rfl
  · rw [if_neg hadmitted]
    rfl

theorem step_connect_of_accepted (hlock : w.lockHeld = false) (hadmitted : admitted = true)
    (hlt : w.websockets.length < w.maxClients) :
    w.step (.connect c admitted) =
      { w with
        websockets :=
          w.websockets ++ [{ id := w.nextId, connection := c, state := .connected }]
        userData := Function.update w.userData c (some w.nextId)
        nextId := w.nextId + 1
        accepted := w.accepted ++ [c] } := by
  rw [step, if_neg (ne_true_of_eq_false hlock), connectHandler, if_pos hadmitted,
    if_neg (Nat.not_le_of_lt hlt)]
  rfl

theorem connect (h : w.Inv) (hfits : Fits w (.connect c admitted)) :
    (w.step (.connect c admitted)).Inv := by
  by_cases haccept : admitted = true ∧ w.websockets.length < w.maxClients
  · obtain ⟨hadmitted, hlt⟩ := haccept
    have hnew : c ∉ w.accepted := by
      rw [← h.connections_eq]
      exact hfits hadmitted hlt
    rw [step_connect_of_accepted h.lockHeld_eq hadmitted hlt]
    exact {
      connections_eq := by
        rw [map_append, h.connections_eq]
        rfl
      nodup := by
        rw [nodup_append]
        refine ⟨h.nodup, nodup_singleton c, ?_⟩
        intro a ha b hb heq
        rw [mem_singleton.mp hb] at heq
        exact hnew (heq ▸ ha)
      ids_nodup := by
        rw [map_append, nodup_append]
        refine ⟨h.ids_nodup, nodup_singleton _, ?_⟩
        intro a ha b hb heq
        obtain ⟨x, hx, rfl⟩ := mem_map.mp ha
        rw [mem_singleton.mp hb] at heq
        exact absurd heq (Nat.ne_of_lt (h.lt_nextId x hx))
      lt_nextId := fun x hx => by
        rcases mem_append.mp hx with hold | hmade
        · exact Nat.lt_succ_of_lt (h.lt_nextId x hold)
        · rw [mem_singleton.mp hmade]
          exact Nat.lt_succ_self _
      length_le := by
        rw [length_append]
        exact hlt
      userData_eq := fun x hx => by
        rcases mem_append.mp hx with hold | hmade
        · have hne : x.connection ≠ c := fun heq => hnew (heq ▸ h.mem_accepted hold)
          dsimp only
          rw [update_of_ne hne]
          exact h.userData_eq x hold
        · rw [mem_singleton.mp hmade]
          exact update_self _ _ _
      userData_none := fun other hother => by
        rw [mem_append, not_or, mem_singleton] at hother
        dsimp only
        rw [update_of_ne hother.2]
        exact h.userData_none other hother.1
      ready_iff := fun x hx => by
        rcases mem_append.mp hx with hold | hmade
        · exact h.ready_iff x hold
        · rw [mem_singleton.mp hmade]
          refine ⟨fun hready => (by cases hready), fun hready => ?_⟩
          exact absurd (h.readied_accepted c hready) hnew
      readied_accepted := fun other hother =>
        mem_append_left _ (h.readied_accepted other hother)
      lockHeld_eq := h.lockHeld_eq }
  · rw [step_connect_of_rejected h.lockHeld_eq haccept]
    exact h

theorem not_law_connect (h : w.Inv) (hadmitted : admitted = true)
    (hlt : w.websockets.length < w.maxClients)
    (hmem : c ∈ w.websockets.map WebSocketConnection.connection) :
    ¬ (w.step (.connect c admitted)).Law := by
  intro hlaw
  have hnodup := hlaw.nodup
  rw [step_connect_of_accepted h.lockHeld_eq hadmitted hlt] at hnodup
  rw [map_append, nodup_append] at hnodup
  exact hnodup.2.2 c hmem c (mem_singleton_self c) rfl

/-! ## Getting ready -/

theorem ready (h : w.Inv) : (w.step (.ready c)).Inv := by
  rw [step, readyHandler]
  by_cases hc : c ∈ w.accepted
  · obtain ⟨x, hx, rfl⟩ := h.exists_entry hc
    rw [h.userData_eq x hx, if_pos hc]
    exact {
      connections_eq := by
        rw [map_map, ← h.connections_eq]
        exact map_congr_left fun _ _ => connection_markReady
      nodup := h.nodup
      ids_nodup := by
        have hids : (w.websockets.map (markReady x.id)).map WebSocketConnection.id =
            w.websockets.map WebSocketConnection.id := by
          rw [map_map]
          exact map_congr_left fun _ _ => id_markReady
        rw [hids]
        exact h.ids_nodup
      lt_nextId := fun y hy => by
        obtain ⟨z, hz, rfl⟩ := mem_map.mp hy
        rw [id_markReady]
        exact h.lt_nextId z hz
      length_le := by
        rw [length_map]
        exact h.length_le
      userData_eq := fun y hy => by
        obtain ⟨z, hz, rfl⟩ := mem_map.mp hy
        rw [connection_markReady, id_markReady]
        exact h.userData_eq z hz
      userData_none := h.userData_none
      ready_iff := fun y hy => by
        obtain ⟨z, hz, rfl⟩ := mem_map.mp hy
        -- the entry at the address is the one of the connection
        have hsame : z.id = x.id ↔ z.connection = x.connection := by
          rw [← h.userData_eq_iff hz, h.userData_eq x hx, Option.some_inj]
          exact eq_comm
        rw [state_markReady, connection_markReady, mem_cons, hsame, h.ready_iff z hz]
      readied_accepted := fun other hother => by
        rcases mem_cons.mp hother with rfl | hold
        · exact hc
        · exact h.readied_accepted other hold
      lockHeld_eq := h.lockHeld_eq }
  · rw [h.userData_none c hc, if_neg hc]
    exact h

/-! ## Closing -/

theorem step_close_of_first {rest : List (WebSocketConnection C)} (hlock : w.lockHeld = false)
    (hlist : w.websockets = x :: rest) (hdata : w.userData c = some x.id) :
    w.step (.close c) =
      { w with
        userData := Function.update w.userData c none
        websockets := rest
        accepted := w.accepted.filter (· ≠ c)
        readied := w.readied.filter (· ≠ c) } := by
  rw [step, if_neg (ne_true_of_eq_false hlock), closeHandler]
  have hloop : closeLoop (w.userData c) w.websockets (w.websockets.length + 1) 0 =
      some (some 0) := by
    rw [hlist]
    exact if_pos hdata.symm
  rw [hloop]
  dsimp only
  rw [hlist, eraseIdx_cons_zero]

theorem close_of_nil (h : w.Inv) (hlist : w.websockets = []) : (w.step (.close c)).Inv := by
  have haccepted : w.accepted = [] := by
    rw [← h.connections_eq, hlist]
    rfl
  have hreadied : w.readied = [] := by
    apply eq_nil_iff_forall_not_mem.mpr
    intro other hother
    have hmem := h.readied_accepted other hother
    rw [haccepted] at hmem
    cases hmem
  have hstart : (w.step (.close c)).Start := by
    rw [step, if_neg (ne_true_of_eq_false h.lockHeld_eq), closeHandler, hlist]
    exact {
      websockets_eq := hlist
      userData_eq := fun other => h.userData_none other (by rw [haccepted]; exact not_mem_nil)
      lockHeld_eq := h.lockHeld_eq
      accepted_eq := by rw [haccepted, filter_nil]
      readied_eq := by rw [hreadied, filter_nil] }
  exact hstart.inv

theorem close (h : w.Inv) (hfits : Fits w (.close c)) : (w.step (.close c)).Inv := by
  rcases hlist : w.websockets with - | ⟨x, rest⟩
  · exact h.close_of_nil hlist
  · have hx : x ∈ w.websockets := by rw [hlist]; exact mem_cons_self
    have hrest : ∀ y ∈ rest, y ∈ w.websockets := by
      intro y hy
      rw [hlist]
      exact mem_cons_of_mem x hy
    obtain rfl : x.connection = c := hfits x (by rw [hlist]; rfl)
    rw [step_close_of_first h.lockHeld_eq hlist (h.userData_eq x hx)]
    have hconnections := h.connections_eq
    have hnodup := h.nodup
    rw [hlist, map_cons] at hconnections
    rw [← hconnections, nodup_cons] at hnodup
    have hkept : w.accepted.filter (· ≠ x.connection) =
        rest.map WebSocketConnection.connection := by
      rw [← hconnections, filter_cons_of_neg (by simp)]
      apply filter_eq_self.mpr
      intro other hother
      refine decide_eq_true ?_
      rintro rfl
      exact hnodup.1 hother
    have hne {y : WebSocketConnection C} (hy : y ∈ rest) : y.connection ≠ x.connection := by
      intro heq
      exact hnodup.1 (heq ▸ mem_map_of_mem hy)
    exact {
      connections_eq := hkept.symm
      nodup := by
        rw [hkept]
        exact hnodup.2
      ids_nodup := by
        have hids := h.ids_nodup
        rw [hlist, map_cons, nodup_cons] at hids
        exact hids.2
      lt_nextId := fun y hy => h.lt_nextId y (hrest y hy)
      length_le := by
        have hle := h.length_le
        rw [hlist] at hle
        exact Nat.le_of_succ_le hle
      userData_eq := fun y hy => by
        dsimp only
        rw [update_of_ne (hne hy)]
        exact h.userData_eq y (hrest y hy)
      userData_none := fun other hother => by
        dsimp only
        by_cases hself : other = x.connection
        · rw [hself, update_self]
        · rw [update_of_ne hself]
          refine h.userData_none other fun hmem => hother ?_
          exact mem_filter.mpr ⟨hmem, decide_eq_true hself⟩
      ready_iff := fun y hy => by
        rw [h.ready_iff y (hrest y hy), mem_filter, decide_eq_true_iff]
        exact ⟨fun hready => ⟨hready, hne hy⟩, And.left⟩
      readied_accepted := fun other hother => by
        obtain ⟨hready, hself⟩ := mem_filter.mp hother
        exact mem_filter.mpr ⟨h.readied_accepted other hready, hself⟩
      lockHeld_eq := h.lockHeld_eq }

theorem not_law_close (h : w.Inv) (hfits : ¬ Fits w (.close c)) :
    ¬ (w.step (.close c)).Law := by
  intro hlaw
  rcases hlist : w.websockets with - | ⟨x, rest⟩
  · refine hfits fun x hx => ?_
    rw [hlist] at hx
    cases hx
  · have hne : x.connection ≠ c := by
      rintro rfl
      refine hfits fun y hy => ?_
      rw [hlist] at hy
      rw [← Option.some.inj hy]
    have hx : x ∈ w.websockets := by rw [hlist]; exact mem_cons_self
    have hloop : closeLoop (w.userData c) w.websockets (w.websockets.length + 1) 0 = none := by
      refine closeLoop_eq_none (x := x) (by rw [hlist]; rfl) fun heq => hne ?_
      exact (h.userData_eq_iff hx).mp heq.symm
    have hreturned := hlaw.returned
    rw [step, if_neg (ne_true_of_eq_false h.lockHeld_eq), closeHandler, hloop] at hreturned
    cases hreturned

/-! ## Runs -/

theorem step (h : w.Inv) {call : Call C} (hfits : w.Fits call) : (w.step call).Inv := by
  cases call with
  | connect c admitted => exact h.connect hfits
  | ready c => exact h.ready
  | close c => exact h.close hfits
  | send data =>
    rw [WebSockets.step, if_neg (ne_true_of_eq_false h.lockHeld_eq), sendToWebSockets]
    split_ifs
    · exact h
    · exact { h with }

theorem not_law_step (h : w.Inv) {call : Call C} (hfits : ¬ w.Fits call) :
    ¬ (w.step call).Law := by
  cases call with
  | connect c admitted =>
    simp only [Fits, Classical.not_imp, not_not] at hfits
    exact h.not_law_connect hfits.1 hfits.2.1 hfits.2.2
  | ready c => exact absurd trivial hfits
  | close c => exact h.not_law_close hfits
  | send data => exact absurd trivial hfits

end Inv

/-- **The registry of the web sockets.** In a run of callbacks and broadcasts, the list is
always the one of the accepted connections, a text goes to those that are ready, and every
close callback returns, exactly if only the first connection of the list ever closes (or any
while the list is empty), and none that is in the list connects again. -/
theorem registry_iff [DecidableEq C] {w : WebSockets C} (h : w.Start) (calls : List (Call C)) :
    Transition.Always step Law w calls ↔ Transition.Meets step Fits w calls :=
  Transition.always_iff_meets (fun _ hinv => hinv.law) (fun _ _ hinv hfits => hinv.step hfits)
    (fun _ _ hinv hfits => hinv.not_law_step hfits) h.inv

/-! ## Single runs -/

theorem noWebSockets_start : ({} : WebSockets ℕ).Start := ⟨rfl, fun _ => rfl, rfl, rfl, rfl⟩

theorem registry_inOrder : Transition.Always step Law ({} : WebSockets ℕ)
    [.connect 1 true, .connect 2 true, .ready 1, .close 1, .close 2] := by
  exact (registry_iff noWebSockets_start _).mpr (by decide)

/-- The second one closes first. -/
theorem registry_fails : ¬ Transition.Always step Law ({} : WebSockets ℕ)
    [.connect 1 true, .connect 2 true, .close 2] := by
  rintro ⟨-, -, -, hlaw⟩
  exact absurd hlaw.returned (by decide)

end WebSockets

end Dss
