/-
  DetectionJobs/Simulation/World.lean
  ===================================
  **The service on a virtual clock.**

  Time stands still while anything can happen, and then jumps to when the next thing is
  due.  No two readings of the clock are equal, though no time need have passed.
-/
import DetectionJobs.Service.Lookup
import DetectionJobs.Simulation.Detector
import DetectionJobs.Worker.Shift

namespace DetectionJobs.Simulation

structure World where
  backend : Backend
  detector : Detector
  config : Worker.Config
  /-- Whether a row is written for a job that is submitted. -/
  writePending : Bool
  /-- Milliseconds since the start. -/
  clock : Nat
  /-- The date on which everything happens. -/
  date : Date
  /-- How often the clock was read, or an identifier drawn. -/
  readings : Nat
  /-- The last identifier that was handed out. -/
  lastId : Ulid
  /-- How many recoveries are still to fail. -/
  recoverFaults : Nat
  /-- What the worker has counted and is to do. -/
  ledger : Worker.Ledger
  isStopped : Bool
  /-- The deliveries that were received outside a worker. -/
  deliveries : List Delivery
deriving DecidableEq, Repr

namespace World

/-- A world in which nothing has happened yet. -/
def start (config : Worker.Config) (writePending : Bool) (detector : Detector) (date : Date) :
    World where
  backend := .empty
  detector := detector
  config := config
  writePending := writePending
  clock := 0
  date := date
  readings := 0
  lastId := .zero
  recoverFaults := 0
  ledger := .empty
  isStopped := false
  deliveries := []

/-! ### Clock and identifiers -/

/-- The time and the identifiers at a reading: readings lie a nanosecond apart. -/
def supplyAt (date : Date) (reading : Nat) : Worker.Supply where
  now := ⟨date, reading / 1000000000, reading % 1000000000⟩
  ids i := .ofRandom (reading * 2 ^ 24 + i)

def supply (w : World) : Worker.Supply × World :=
  (supplyAt w.date w.readings, { w with readings := w.readings + 1 })

def drawId (w : World) : Ulid × World :=
  let source : Ulid.Source := ⟨w.clock + 1, w.readings⟩
  let (last, id) := Ulid.generate w.lastId source source
  (id, { w with lastId := last, readings := w.readings + 1 })

def advance (w : World) (millis : Nat) : World := { w with clock := w.clock + millis }

/-- A span in whole milliseconds, rounded up. -/
def millis (s : Span) : Nat := (s.nanos + 999999) / 1000000

/-! ### Faults -/

/-- Whether the next recovery fails. -/
def drawRecovery (w : World) : Bool × World :=
  match w.recoverFaults with
  | n + 1 => (true, { w with recoverFaults := n })
  | 0 => (false, w)

def withBroker (w : World) (b : Queue.Broker) : World :=
  { w with backend := { w.backend with broker := b } }

def withRepository (w : World) (r : Repository) : World :=
  { w with backend := { w.backend with repository := r } }

/-! ### Receiving and handling without a worker -/

/-- The number under which calls outside a worker wait at the bell. -/
def outsider : Nat := 1

/-- Receives an entry, or waits for one in vain. -/
def receive (w : World) (wait : Nat) : World × Except Queue.Fault (Option Delivery) :=
  match Queue.Receiver.begin w.backend.broker with
  | .error f => (w, .error f)
  | .ok _ =>
    match Queue.Receiver.settle outsider w.backend.broker with
    | (b, .received raw) => (w.withBroker b, .ok (some (.ofRaw raw)))
    | (b, _) => ((w.withBroker (Queue.Receiver.leave outsider b)).advance wait, .ok none)

/-- Calls the detection service for a task. -/
def callDetector (w : World) (m : Message) :
    (Nat × Option (Except Detection.Fault (List Prediction))) × World :=
  let (step, detector) :=
    w.detector.call ⟨w.clock, m.imageUrl, w.config.detectionTimeout.millis⟩
  (step.outcome w.config.detectionTimeout, { w with detector := detector })

/-- Tells a task what its detection call came to; `none` if the task died in it. -/
def tell (t : Worker.Task) :
    (Nat × Option (Except Detection.Fault (List Prediction))) × World →
      World × Option Worker.Task
  | ((delay, none), w) => (w.advance delay, none)
  | ((delay, some answer), w) =>
    let (s, w) := (w.advance delay).supply
    let (b, t) := t.detected w.config s.now w.backend answer
    ({ w with backend := b }, some t)

/-- One turn of the work on a delivery; `none` if the work died in it. -/
def turn (w : World) (t : Worker.Task) : World × Option Worker.Task :=
  match t.phase with
  | .detecting m => tell t (w.callDetector m)
  | _ =>
    match t.pause? w.config with
    | some pause => (w.advance (millis pause), some (t.resume w.config))
    | none =>
      let (s, w) := w.supply
      let (b, l, t) := t.step w.config s w.backend w.ledger
      ({ w with backend := b, ledger := l }, some t)

/-- Works on a delivery to its end; `none` if the work died. -/
def work : (fuel : Nat) → World → Worker.Task → World × Option Outcome
  | 0, w, _ => (w, none)
  | fuel + 1, w, t =>
    match t.outcome? with
    | some o => (w, some o)
    | none =>
      match w.turn t with
      | (w, none) => (w, none)
      | (w, some t) => work fuel w t

/-- Enough for the work on one delivery: every try of its settlement but the last one uses
    up a fault. -/
def workFuel (w : World) : Nat := 2 * w.backend.broker.settleFaults + 16

def handle (w : World) (d : Delivery) : World × Option Outcome :=
  work w.workFuel w (.start d)

/-- Receives and handles until nothing comes, the queue fails, or `limit` deliveries are
    done.  Gives what became of each, and at the end the fault, if there was one. -/
def drain (wait : Nat) : (limit : Nat) → World →
    World × List (Except Queue.Fault (Option Outcome))
  | 0, w => (w, [])
  | limit + 1, w =>
    match w.receive wait with
    | (w, .error f) => (w, [.error f])
    | (w, .ok none) => (w, [])
    | (w, .ok (some d)) =>
      let (w, o) := w.handle d
      let (w, rest) := drain wait limit w
      (w, .ok o :: rest)

/-- A fresh worker over the same backend. -/
def newWorker (w : World) : World := { w with ledger := .empty, isStopped := false }

end World

end DetectionJobs.Simulation
