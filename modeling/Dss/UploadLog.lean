import Dss.SensorLog
import Dss.SingleHolder

/-!
# The upload log under concurrency

`SensorLog` with all that may happen between its critical sections. `triggerUpload` releases the
mutex before `send_packet` takes it, the uploader is called without it and may answer and report at
any time, and a refusal is entered in a critical section of its own.

In a run each event that is not rejected is numbered, and stands with its priority.
-/

namespace Dss

/-- `RestTransferStatus_t` -/
inductive RestTransferStatus : Type where
  | networkError : RestTransferStatus
  | jsonError : RestTransferStatus
  | restOk : RestTransferStatus
  deriving DecidableEq

/-- `SensorLog`, over any type of events. -/
structure UploadLog (A : Type) : Type where
  eventsHighPrio : List A := []
  events : List A := []
  packet : List A := []
  pendingUpload : Bool := false
  uploadRun : Int32 := 0
  /-- the assertion of `send_packet` has failed -/
  assertionFailed : Bool := false

namespace UploadLog

open SensorLog (maxPostEvents maxElements maxPrioElements)

/-! ## The critical sections -/

section criticalSections

variable {A : Type}

/-- `packet_append`: the packet and the events that are left. What is free is computed with
`size_t`. -/
def packetAppend (packet events : List A) : List A × List A :=
  let space := min events.length ((maxPostEvents + 2 ^ 64 - packet.length) % 2 ^ 64)
  (packet ++ events.take space, events.drop space)

/-- The end of the critical section of `send_packet`. -/
def fillPacket (s : UploadLog A) : UploadLog A :=
  let (packet, eventsHighPrio) := packetAppend s.packet s.eventsHighPrio
  let (packet, events) := packetAppend packet s.events
  { s with
    packet := packet
    eventsHighPrio := eventsHighPrio
    events := events
    assertionFailed := s.assertionFailed || packet.isEmpty }

/-- The critical section of `send_packet`, and whether the packet is uploaded behind it. -/
def sendPacket (next : Bool) (s : UploadLog A) : UploadLog A × Bool :=
  let s :=
    if next then
      { s with uploadRun := s.uploadRun + Int32.ofNat s.packet.length, packet := [] }
    else { s with uploadRun := 0 }
  if s.eventsHighPrio.isEmpty && s.events.isEmpty && s.packet.isEmpty then
    ({ s with pendingUpload := false }, false)
  else if s.eventsHighPrio.isEmpty && s.uploadRun % Int32.ofNat maxPostEvents != 0 &&
      decide (s.events.length < maxPostEvents) then
    ({ s with pendingUpload := false }, false)
  else (s.fillPacket, true)

/-- The critical section of `append`, unless the event is rejected. -/
def append (event : A) (highPrio : Bool) (s : UploadLog A) : Option (UploadLog A) :=
  if highPrio then
    if maxPrioElements ≤ s.eventsHighPrio.length then none
    else some { s with eventsHighPrio := s.eventsHighPrio ++ [event] }
  else if maxElements ≤ s.events.length + s.packet.length then none
  else some { s with events := s.events ++ [event] }

/-- The critical section of `triggerUpload`, and whether `send_packet` is called behind it. -/
def triggerUpload (s : UploadLog A) : UploadLog A × Bool :=
  if s.pendingUpload then (s, false)
  else if s.packet.isEmpty && s.eventsHighPrio.isEmpty && s.events.isEmpty then (s, false)
  else ({ s with pendingUpload := true }, true)

/-- The critical section behind a refusal, and that of `done` behind a network error. -/
def giveUp (s : UploadLog A) : UploadLog A := { s with pendingUpload := false }

end criticalSections

/-! ## Runs -/

structure Entry (E : Type) : Type where
  event : E
  /-- the priority that it was appended with -/
  highPrio : Bool
  number : ℕ
  deriving DecidableEq

inductive Call (A : Type) : Type where
  | returned : Call A
  /-- before the critical section of `triggerUpload` -/
  | trigger : Call A
  /-- before the one of `send_packet`; from `done`, with what was uploaded -/
  | send (reported : Option (List A)) : Call A
  | upload : Call A
  /-- the uploader has accepted these events, and has not reported yet -/
  | accepted (contents : List A) : Call A
  /-- before the critical section that gives an upload up -/
  | giveUp : Call A
  deriving DecidableEq

def Call.holds {A : Type} : Call A → Bool
  | returned | trigger => false
  | send _ | upload | accepted _ | giveUp => true

def Call.isInFlight {A : Type} : Call A → Bool
  | upload | accepted _ => true
  | returned | trigger | send _ | giveUp => false

structure Uploads (E : Type) : Type where
  log : UploadLog (Entry E) := {}
  calls : List (Call (Entry E)) := []
  taken : List (Entry E) := []
  /-- the contents of the uploads that were reported with success or a permanent error -/
  reported : List (Entry E) := []

inductive Input (E : Type) : Type where
  /-- `append` is called, up to the end of its critical section -/
  | append (event : E) (highPrio : Bool) : Input E
  /-- `triggerUpload` is called -/
  | triggerUpload : Input E
  | goOn (call : ℕ) : Input E
  | answer (call : ℕ) (accepts : Bool) : Input E
  /-- the uploader calls `done`, with any reply -/
  | done (call : ℕ) (status : RestTransferStatus) : Input E

namespace Uploads

variable {E : Type}

def begin (w : Uploads E) (call : Call (Entry E)) : Uploads E :=
  { w with calls := w.calls ++ [call] }

def moveTo (w : Uploads E) (i : ℕ) (call : Call (Entry E)) : Uploads E :=
  { w with calls := w.calls.set i call }

/-- `append`, which calls `triggerUpload` behind an event of high priority. -/
def append (w : Uploads E) (event : E) (highPrio : Bool) : Uploads E :=
  let entry : Entry E := ⟨event, highPrio, w.taken.length⟩
  match w.log.append entry highPrio with
  | none => w
  | some log =>
    begin { w with log := log, taken := w.taken ++ [entry] }
      (if highPrio then .trigger else .returned)

def goOn (w : Uploads E) (i : ℕ) : Uploads E :=
  match w.calls[i]? with
  | some .trigger =>
    moveTo { w with log := w.log.triggerUpload.1 } i
      (if w.log.triggerUpload.2 then .send none else .returned)
  | some (.send contents) =>
    moveTo { w with
      log := (w.log.sendPacket contents.isSome).1
      reported := w.reported ++ contents.getD [] } i
      (if (w.log.sendPacket contents.isSome).2 then .upload else .returned)
  | some .giveUp => moveTo { w with log := w.log.giveUp } i .returned
  | some .returned | some .upload | some (.accepted _) | none => w

def answer (w : Uploads E) (i : ℕ) (accepts : Bool) : Uploads E :=
  match w.calls[i]? with
  | some .upload => w.moveTo i (if accepts then .accepted w.log.packet else .giveUp)
  | some .returned | some .trigger | some (.send _) | some (.accepted _) | some .giveUp
  | none => w

/-- The uploader calls `done`. -/
def done (w : Uploads E) (i : ℕ) (status : RestTransferStatus) : Uploads E :=
  match w.calls[i]? with
  | some (.accepted contents) =>
    w.moveTo i (match status with
      | .networkError => .giveUp
      | .jsonError | .restOk => .send (some contents))
  | some .returned | some .trigger | some (.send _) | some .upload | some .giveUp | none => w

def step (w : Uploads E) : Input E → Uploads E
  | .append event highPrio => w.append event highPrio
  | .triggerUpload => w.begin .trigger
  | .goOn call => w.goOn call
  | .answer call accepts => w.answer call accepts
  | .done call status => w.done call status

end Uploads

end UploadLog

end Dss
