/-
  DetectionJobs/Proofs/Fleet/Basic.lean
  =====================================
  **Submitters and workers over one queue and the same stored jobs.**

  A fleet is everything that shares a backend: submissions that are under way and workers
  with their tasks.  One step is one call to the queue or to the stored jobs, or something
  that a party does on its own; whose turn it is, what the detection service answers and
  which faults occur is open.  Beside the steps of the parties there are those that nobody
  asks for: a task may vanish anywhere, a worker may end with its tasks still running,
  faults come and go, and held entries may be put back at any moment.

  A step also gives a report of what was done.  The reports of a run make up its trace,
  which the theorems refer to when they speak of what happened earlier.
-/
import DetectionJobs.Proofs.Queue.Carriage
import DetectionJobs.Proofs.Machine
import DetectionJobs.Worker.Shift

namespace DetectionJobs

/-! ### Submissions, call by call -/

namespace Submission

/-- The call that a submission makes next, or its answer. -/
inductive Stage where
  | recording
  | publishing
  | abandoning (cause : Queue.Fault)
  | answered (answer : Except Fault Accepted)

/-- A submission that is under way. -/
structure Call where
  writePending : Bool
  jobId : String
  imageUrl : String
  stage : Stage

namespace Call

def start (writePending : Bool) (jobId imageUrl : String) : Call :=
  ⟨writePending, jobId, imageUrl, .recording⟩

def step (b : Backend) (now : Instant) (c : Call) : Backend × Call :=
  match c.stage with
  | .recording =>
    match record b c.writePending c.jobId c.imageUrl now with
    | (b, .error f) => (b, { c with stage := .answered (.error (.repository f)) })
    | (b, .ok ()) => (b, { c with stage := .publishing })
  | .publishing =>
    match publish b c.jobId c.imageUrl now with
    | (b, .error f) => (b, { c with stage := .abandoning f })
    | (b, .ok ()) =>
      ({ b with metrics := { b.metrics with submitted := b.metrics.submitted + 1 } },
        { c with stage := .answered (.ok ⟨c.jobId, c.imageUrl⟩) })
  | .abandoning cause =>
    (abandon b c.writePending c.jobId c.imageUrl cause now,
      { c with stage := .answered (.error (.publish cause)) })
  | .answered _ => (b, c)

/-- Three calls in a row are a submission. -/
theorem step_step_step (b : Backend) (writePending : Bool) (jobId imageUrl : String)
    (now : Instant) :
    let next := fun p : Backend × Call => p.2.step p.1 now
    let whole := submit b writePending jobId imageUrl now
    next (next (next (b, start writePending jobId imageUrl))) =
      (whole.1, { start writePending jobId imageUrl with stage := .answered whole.2 }) := by
  intro next whole
  simp only [next, whole, start, submit]
  cases hrecord : record b writePending jobId imageUrl now with
  | mk b₁ answer =>
    cases answer with
    | error f => simp only [step, hrecord]
    | ok _ =>
      cases hpublish : publish b₁ jobId imageUrl now with
      | mk b₂ answer =>
        cases answer with
        | error f => simp only [step, hrecord, hpublish]
        | ok _ => simp only [step, hrecord, hpublish]

end Call

end Submission

/-! ### The parties -/

namespace Fleet

/-- What a call may draw on, with a clock that shows a time of day. -/
structure Draw extends Worker.Supply where
  isClock : now.IsClock

/-- A worker's set-up.  The limit of attempts fits into thirty-two bits, as the counts in
    the envelopes do. -/
structure Post where
  config : Worker.Config
  fits : config.maxAttempts < 2 ^ 32

structure Member where
  post : Post
  shift : Worker.Shift

/-- A task of a fleet: the place of its worker, and its number there. -/
structure Badge where
  worker : Nat
  number : Nat
deriving DecidableEq

/-- What a trace tells. -/
inductive Event where
  | accepted (jobId imageUrl : String)
  /-- An entry was added from outside. -/
  | pushed (entry : String)
  /-- A detection call for the image of a message was answered. -/
  | detected (who : Badge) (m : Message)
      (answer : Except Detection.Fault (List Prediction))
  | recorded (who : Badge) (result : JobResult)
  /-- A job was to be closed after its last attempt. -/
  | closed (who : Badge) (jobId : String) (answer : Except Repository.Fault Bool)
  /-- An entry was acknowledged; tells whether it was held. -/
  | acked (who : Badge) (entry : String) (wasHeld : Bool)
  /-- An entry was added to the dead ones. -/
  | buried (who : Badge) (entry : String)

/-- What a step of a submission adds to the trace. -/
def callReport (b : Backend) (now : Instant) (c : Submission.Call) : List Event :=
  match c.stage with
  | .publishing =>
    match (Submission.publish b c.jobId c.imageUrl now).2 with
    | .ok () =>
      [.pushed (Envelope.wrap ⟨c.jobId, c.imageUrl⟩ now).raw, .accepted c.jobId c.imageUrl]
    | .error _ => []
  | _ => []

def settleReport (b : Queue.Broker) (who : Badge) (d : Delivery) (now : Instant) :
    Queue.Broker.Settlement → List Event
  | .ack => [.acked who d.raw (decide (d.raw ∈ b.inFlight))]
  | .requeue _ => []
  | .deadLetter reason => [.buried who ((d.envelope now).retried reason now).raw]

def taskReport (supply : Worker.Supply) (b : Backend) (who : Badge) (t : Worker.Task) :
    Worker.Shift.TaskMove → List Event
  | .work =>
    match t.phase with
    | .storing _ result =>
      match (b.repository.upsert result supply.ids supply.now).2 with
      | .ok () => [.recorded who result]
      | .error _ => []
    | .closing m reason =>
      [.closed who m.jobId
        (b.repository.markFailed m.jobId m.imageUrl (t.exhausted reason) supply.now).2]
    | .settling s =>
      match (b.broker.trySettle t.delivery supply.now s.settlement).2 with
      | .ok () => settleReport b.broker who t.delivery supply.now s.settlement
      | .error _ => []
    | _ => []
  | .hear answer =>
    match t.phase with
    | .detecting m => [.detected who m answer]
    | _ => []
  | _ => []

end Fleet

/-- A backend and everyone who uses it. -/
structure Fleet where
  backend : Backend
  calls : List Submission.Call
  members : List Fleet.Member

namespace Fleet

/-- An empty queue and nobody who uses it; some jobs may be stored already. -/
def opening (r : Repository) (metrics : Metrics) : Fleet := ⟨⟨.empty, r, metrics⟩, [], []⟩

/-- Nothing has happened yet. -/
def start : Fleet := opening .empty {}

def row? (f : Fleet) (jobId : String) : Option Row := f.backend.repository.find? jobId

/-- The task is at work. -/
def Live (f : Fleet) (who : Badge) (t : Worker.Task) : Prop :=
  ∃ m, f.members[who.worker]? = some m ∧ (who.number, t) ∈ m.shift.tasks

/-! ### Steps -/

/-- What may happen next. -/
inductive Action where
  | submit (writePending : Bool) (jobId imageUrl : String)
  | call (i : Nat) (draw : Draw)
  | push (raw : String)
  /-- A worker begins, with what an earlier run of it may have left. -/
  | hire (post : Post) (number : Nat) (ledger : Worker.Ledger) (isStopped : Bool)
  | loop (worker : Nat) (move : Worker.Shift.Move)
  | task (who : Badge) (draw : Draw) (move : Worker.Shift.TaskMove)
  | stop (worker : Nat)
  /-- A worker ends at once, and its tasks go on. -/
  | halt (worker : Nat)
  /-- A task vanishes, and its place becomes free. -/
  | drop (who : Badge)
  /-- Someone else has all held entries put back. -/
  | recover
  /-- Faults are set up. -/
  | disturb (isDown : Bool) (settleFaults repositoryFaults : Nat)

def withBroker (f : Fleet) (b : Queue.Broker) : Fleet :=
  { f with backend := { f.backend with broker := b } }

def withShift (f : Fleet) (worker : Nat) (m : Member) (s : Worker.Shift) : Fleet :=
  { f with members := f.members.set worker { m with shift := s } }

/-- Takes an action, if it is possible, and reports what was done. -/
def step? (f : Fleet) : Action → Option (Fleet × List Event)
  | .submit writePending jobId imageUrl =>
    some ({ f with calls := f.calls ++ [.start writePending jobId imageUrl] }, [])
  | .call i draw => do
    let c ← f.calls[i]?
    let next := c.step f.backend draw.now
    some ({ f with backend := next.1, calls := f.calls.set i next.2 },
      callReport f.backend draw.now c)
  | .push raw =>
    if Queue.Countable raw then
      some (f.withBroker (f.backend.broker.push raw), [.pushed raw])
    else none
  | .hire post number ledger isStopped =>
    some ({ f with members := f.members ++
      [⟨post, .start number post.config ledger isStopped⟩] }, [])
  | .loop worker move => do
    let m ← f.members[worker]?
    let (b, s) ← m.shift.move? f.backend.broker move
    some ((f.withBroker b).withShift worker m s, [])
  | .task who draw move => do
    let m ← f.members[who.worker]?
    let t ← m.shift.task? who.number
    let (b, s) ← m.shift.taskMove? m.post.config draw.toSupply f.backend who.number move
    some ({ f with backend := b }.withShift who.worker m s,
      taskReport draw.toSupply f.backend who t move)
  | .stop worker => do
    let m ← f.members[worker]?
    some (f.withShift worker m m.shift.stop, [])
  | .halt worker => do
    let m ← f.members[worker]?
    let (b, s) := m.shift.quit f.backend.broker
    some ((f.withBroker b).withShift worker m (s.goto .done), [])
  | .drop who => do
    let m ← f.members[who.worker]?
    let _ ← m.shift.task? who.number
    some (f.withShift who.worker m
      { m.shift with
        tasks := m.shift.tasks.filter (·.1 ≠ who.number)
        places := m.shift.places + 1 }, [])
  | .recover => some (f.withBroker f.backend.broker.recover.2, [])
  | .disturb isDown settleFaults repositoryFaults =>
    some ({ f with backend :=
      { f.backend with
        broker := { f.backend.broker with isDown := isDown, settleFaults := settleFaults }
        repository := { f.backend.repository with faults := repositoryFaults } } }, [])

/-! ### Runs -/

/-- A run of allowed actions, with its trace. -/
abbrev Run (allowed : Fleet → Action → Prop) (f : Fleet) (trace : List Event) (f' : Fleet) :
    Prop :=
  Machine.Run step? allowed f trace f'

abbrev replay? (allowed : Fleet → Action → Prop) [∀ f a, Decidable (allowed f a)] (f : Fleet)
    (actions : List Action) : Option (Fleet × List Event) :=
  Machine.replay? step? allowed f actions

/-! ### Actions to refer to -/

/-- A clock that stands at noon. -/
def noon : Draw := ⟨⟨⟨⟨2024, 6, 1⟩, 43200, 0⟩, .ofRandom⟩, by decide⟩

def standardPost : Post := ⟨.standard, by decide⟩

def submitting : List Action :=
  [.submit false "job-1" "https://x/a.png", .call 0 noon, .call 0 noon]

/-- The loop of the first worker goes on until it is handed an entry. -/
def taking (first : List Worker.Shift.Move) : List Action :=
  (first ++ [Worker.Shift.Move.acquire, .ask, .look]).map (.loop 0)

/-- A worker begins and is handed an entry. -/
def beginning : List Action :=
  .hire standardPost 0 .empty false :: taking [.recover false, .begin]

/-- A task of the first worker gets this answer and records the outcome. -/
def handling (n : Nat) (answer : Except Detection.Fault (List Prediction)) : List Action :=
  [Worker.Shift.TaskMove.work, .hear answer, .work].map (.task ⟨0, n⟩ noon)

end Fleet

end DetectionJobs
