/-
  DetectionJobs/Worker/Task.lean
  ==============================
  **Working on one delivery.**

  A task is a small machine.  It decodes the message, has the image analysed, records
  the outcome and settles the delivery; a failure that may pass leads to another
  attempt after a pause, and after the last attempt to the list of the dead.  A
  result is recorded before its delivery is acknowledged, and a job is closed before
  its delivery is given up, so that no job is lost between the two.

  One step makes at most one call to the queue or the stored jobs.  While the task
  waits for a detection or for time to pass, nothing but that moves it on.
-/
import DetectionJobs.Detection.Fault
import DetectionJobs.Service.Submission
import DetectionJobs.Worker.Config

namespace DetectionJobs.Worker

/-- Why an attempt failed that may succeed later. -/
inductive Setback where
  | detection (fault : Detection.Fault)
  | repository (fault : Repository.Fault)
deriving DecidableEq, Repr

def Setback.message : Setback → String
  | .detection fault => "Detection failed: " ++ fault.message
  | .repository fault => "Failed to persist result: " ++ fault.message

/-- A settlement that is being tried. -/
structure Settling where
  settlement : Queue.Broker.Settlement
  /-- How many more tries there are, the next one included. -/
  tries : Nat
  /-- The pause after the next try, should it fail. -/
  backoff : Span
  /-- The outcome once the settlement is made. -/
  settled : Outcome
  /-- The outcome if it never is. -/
  held : Outcome
deriving DecidableEq, Repr

/-- The next try, with twice the pause after it. -/
def Settling.next (s : Settling) : Settling :=
  { s with tries := s.tries - 1, backoff := s.backoff.double }

/-- How far the work on a delivery is. -/
inductive Phase where
  | received
  | detecting (m : Message)
  /-- The outcome is to be recorded. -/
  | storing (m : Message) (result : JobResult)
  /-- A pause before the delivery goes back to the queue. -/
  | pausing (reason : String)
  /-- The job is to be closed, since there are no more attempts. -/
  | closing (m : Message) (reason : String)
  /-- The delivery is to be settled. -/
  | settling (s : Settling)
  /-- A pause before the settlement is tried again. -/
  | backingOff (s : Settling) (pause : Span)
  | finished (o : Outcome)
deriving DecidableEq, Repr

/-- A delivery that is being worked on. -/
structure Task where
  delivery : Delivery
  phase : Phase
deriving DecidableEq, Repr

/-- What a step may draw on: the time, and fresh identifiers. -/
structure Supply where
  now : Instant
  ids : Nat → Uuid

/-- What the tasks of one worker share: its counts, and whether a delivery could not
    be settled and has to be recovered. -/
structure Ledger where
  stats : Tally
  needsRecovery : Bool
deriving DecidableEq, Repr

def Ledger.empty : Ledger := ⟨{}, false⟩

namespace Task

/-- A delivery before any work. -/
def start (d : Delivery) : Task := ⟨d, .received⟩

/-- The first try of a settlement; there is always one. -/
def firstTry (c : Config) (s : Queue.Broker.Settlement) (settled held : Outcome) : Phase :=
  .settling ⟨s, max c.settleAttempts 1, c.settleBackoff, settled, held⟩

/-- The number of attempts that failed, with the one that just did. -/
def attempt (t : Task) : Nat := t.delivery.attempts + 1

/-- What follows an attempt that failed: another one, or the end of the job. -/
def afterSetback (c : Config) (t : Task) (m : Message) (s : Setback) : Phase :=
  if t.attempt < c.maxAttempts then .pausing s.message else .closing m s.message

/-- What follows the answer of a detection call. -/
def afterDetection (c : Config) (t : Task) (m : Message) (now : Instant) :
    Except Detection.Fault (List Prediction) → Phase
  | .ok ps => .storing m (.completed m.jobId m.imageUrl ps now)
  | .error f =>
    if f.isRetryable then afterSetback c t m (.detection f)
    else .storing m (.failed m.jobId m.imageUrl f.message now)

/-- The outcome of a job whose result was recorded. -/
def recorded (r : JobResult) : Outcome :=
  match r.status with
  | .failed => .failed
  | _ => .completed

/-- What the stored jobs say of a job that is given up after its last attempt. -/
def exhausted (t : Task) (reason : String) : String :=
  "retries exhausted after " ++ toString t.attempt ++ " attempts: " ++ reason

/-- Ends a task and counts its outcome. -/
def finish (t : Task) (b : Backend) (l : Ledger) (o : Outcome) : Backend × Ledger × Task :=
  ({ b with metrics := { b.metrics with outcomes := b.metrics.outcomes.add o } },
    { l with stats := l.stats.add o }, { t with phase := .finished o })

/-- One step of a task that does not wait. -/
def step (c : Config) (supply : Supply) (b : Backend) (l : Ledger) (t : Task) :
    Backend × Ledger × Task :=
  match t.phase with
  | .received =>
    match Message.decode t.delivery.body with
    | .error _ => (b, l, { t with phase := firstTry c .ack .dropped .dropped })
    | .ok m => (b, l, { t with phase := .detecting m })
  | .storing m result =>
    match b.repository.upsert result supply.ids supply.now with
    | (r, .ok ()) =>
      let o := recorded result
      ({ b with repository := r }, l, { t with phase := firstTry c .ack o o })
    | (r, .error f) =>
      ({ b with repository := r }, l, { t with phase := afterSetback c t m (.repository f) })
  | .closing m reason =>
    let (r, _) := b.repository.markFailed m.jobId m.imageUrl (t.exhausted reason) supply.now
    ({ b with repository := r }, l,
      { t with phase := firstTry c (.deadLetter reason) .deadLettered .unsettled })
  | .settling s =>
    match b.broker.trySettle t.delivery supply.now s.settlement with
    | (broker, .ok ()) => t.finish { b with broker := broker } l s.settled
    | (broker, .error _) =>
      let b := { b with broker := broker }
      if 1 < s.tries then
        (b, l, { t with phase := .backingOff s.next s.backoff })
      else t.finish b { l with needsRecovery := true } s.held
  | _ => (b, l, t)

/-- The answer of the detection call for a task that waits for one. -/
def detected (c : Config) (now : Instant) (b : Backend) (t : Task)
    (answer : Except Detection.Fault (List Prediction)) : Backend × Task :=
  match t.phase with
  | .detecting m =>
    ({ b with metrics := { b.metrics with detections := b.metrics.detections + 1 } },
      { t with phase := afterDetection c t m now answer })
  | _ => (b, t)

/-- The end of the pause of a task that waits for time to pass. -/
def resume (c : Config) (t : Task) : Task :=
  match t.phase with
  | .pausing reason => { t with phase := firstTry c (.requeue reason) .requeued .unsettled }
  | .backingOff s _ => { t with phase := .settling s }
  | _ => t

def pause? (c : Config) (t : Task) : Option Span :=
  match t.phase with
  | .pausing _ => some c.retryDelay
  | .backingOff _ pause => some pause
  | _ => none

/-- Whether a task waits for something that is not its own step. -/
def isWaiting (t : Task) : Bool :=
  match t.phase with
  | .detecting _ => true
  | .pausing _ => true
  | .backingOff _ _ => true
  | _ => false

def outcome? (t : Task) : Option Outcome :=
  match t.phase with
  | .finished o => some o
  | _ => none

end Task

end DetectionJobs.Worker
