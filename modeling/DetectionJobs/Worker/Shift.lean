/-
  DetectionJobs/Worker/Shift.lean
  ===============================
  **A worker from its start to its end.**

  A worker first puts back what an earlier one held.  Then it goes round and round:
  it waits for a free place, takes a delivery, and hands it to a task of its own.  When
  a task could not settle its delivery, the worker waits for all its tasks and puts back
  everything that is held.  A worker that is stopped takes no more deliveries, gives its
  tasks some time to finish, and abandons the rest.

  The moves are those of the loop and of each task.  Several of them may be possible at
  once; which one is made is left open here.
-/
import DetectionJobs.Queue.Receiver
import DetectionJobs.Worker.Task

namespace DetectionJobs.Worker

/-- How far the loop of a worker is. -/
inductive Stage where
  /-- What an earlier worker held is to be put back. -/
  | starting
  /-- A round begins. -/
  | round
  /-- Waits for all tasks, to put back what is held. -/
  | joining
  | recovering
  /-- A pause after a recovery that failed. -/
  | pausing
  /-- Waits for a free place. -/
  | acquiring
  /-- Has a place, and is about to receive. -/
  | asking
  | receiving (r : Queue.Receiver)
  /-- A pause after a receive that failed.  The loop still has its place. -/
  | resting
  /-- Was stopped, and waits for the tasks. -/
  | draining
  | done
deriving DecidableEq, Repr

/-- Whether the loop would notice at this stage that the worker was stopped. -/
def Stage.noticesStop : Stage → Bool
  | .joining | .pausing | .acquiring | .asking | .receiving _ | .resting => true
  | _ => false

/-- A worker at work. -/
structure Shift where
  /-- The number under which its loop waits at the queue's bell. -/
  number : Nat
  stage : Stage
  isStopped : Bool
  /-- How many more deliveries may be taken. -/
  places : Nat
  ledger : Ledger
  /-- The tasks that run, by their numbers, the oldest first. -/
  tasks : List (Nat × Task)
  /-- How many tasks there were so far. -/
  started : Nat
deriving DecidableEq, Repr

namespace Shift

def start (number : Nat) (c : Config) (l : Ledger) (isStopped : Bool) : Shift :=
  ⟨number, .starting, isStopped, c.concurrency, l, [], 0⟩

def stop (s : Shift) : Shift := { s with isStopped := true }

def task? (s : Shift) (n : Nat) : Option Task := s.tasks.lookup n

/-! ### Moves of the loop -/

/-- What the loop does next. -/
inductive Move where
  /-- Calls for what is held to be put back; the call may fail. -/
  | recover (fails : Bool)
  | begin
  /-- Notices that the worker was stopped. -/
  | leave
  /-- Finds that no task runs. -/
  | join
  /-- Ends a pause. -/
  | wake
  | acquire
  | ask
  | look
  | listen
  /-- Hears the bell. -/
  | resume
  /-- Has waited long enough. -/
  | expire
  /-- Finds that every task is done. -/
  | finish
  /-- Has waited long enough for the tasks, which are abandoned. -/
  | abandon
deriving DecidableEq, Repr

def goto (s : Shift) (stage : Stage) : Shift := { s with stage := stage }

def needRecovery (s : Shift) (needs : Bool) : Shift :=
  { s with ledger := { s.ledger with needsRecovery := needs } }

/-- Gives back the place that the loop has. -/
def freePlace (s : Shift) : Shift := { s with places := s.places + 1 }

/-- Hands a delivery and the loop's place to a new task. -/
def spawn (s : Shift) (raw : String) : Shift :=
  { s with
    tasks := s.tasks ++ [(s.started, .start (.ofRaw raw))]
    started := s.started + 1
    stage := .round }

/-- Leaves the rounds.  A place that the loop has becomes free, and a ring that it did not
    answer is passed on. -/
def quit (b : Queue.Broker) (s : Shift) : Queue.Broker × Shift :=
  match s.stage with
  | .receiving _ => (Queue.Receiver.leave s.number b, s.freePlace.goto .draining)
  | .asking | .resting => (b, s.freePlace.goto .draining)
  | _ => (b, s.goto .draining)

/-- Makes a move of the loop, if it is possible. -/
def move? (b : Queue.Broker) (s : Shift) : Move → Option (Queue.Broker × Shift)
  | .recover fails =>
    match s.stage with
    | .starting =>
      if fails then some (b, (s.needRecovery true).goto .round)
      else some (b.recover.2, s.goto .round)
    | .recovering =>
      if fails then some (b, (s.needRecovery true).goto .pausing)
      else some (b.recover.2, s.goto .acquiring)
    | _ => none
  | .begin =>
    if s.stage = .round then
      some (b, if s.ledger.needsRecovery then (s.needRecovery false).goto .joining
        else s.goto .acquiring)
    else none
  | .leave => if s.isStopped ∧ s.stage.noticesStop then some (s.quit b) else none
  | .join => if s.stage = .joining ∧ s.tasks = [] then some (b, s.goto .recovering) else none
  | .wake =>
    match s.stage with
    | .pausing => some (b, s.goto .round)
    | .resting => some (b, s.freePlace.goto .round)
    | _ => none
  | .acquire =>
    if s.stage = .acquiring ∧ 0 < s.places then
      some (b, { s with places := s.places - 1, stage := .asking })
    else none
  | .ask =>
    if s.stage = .asking then
      some (b, match Queue.Receiver.begin b with
        | .ok r => s.goto (.receiving r)
        | .error _ => s.goto .resting)
    else none
  | .look =>
    if s.stage = .receiving .looking then
      match Queue.Receiver.look b with
      | (b, .received raw) => some (b, s.spawn raw)
      | (b, r) => some (b, s.goto (.receiving r))
    else none
  | .listen =>
    if s.stage = .receiving .listening then
      let (b, r) := Queue.Receiver.listen s.number b
      some (b, s.goto (.receiving r))
    else none
  | .resume =>
    if s.stage = .receiving .waiting ∧ Queue.Receiver.isWoken s.number b then
      let (b, r) := Queue.Receiver.resume s.number b
      some (b, s.goto (.receiving r))
    else none
  | .expire =>
    if s.stage = .receiving .waiting ∧ ¬ Queue.Receiver.isWoken s.number b then
      some (Queue.Receiver.leave s.number b, s.freePlace.goto .round)
    else none
  | .finish => if s.stage = .draining ∧ s.tasks = [] then some (b, s.goto .done) else none
  | .abandon =>
    if s.stage = .draining then
      some (b, { s with tasks := [], places := s.places + s.tasks.length, stage := .done })
    else none

/-! ### Moves of the tasks -/

/-- What a task does next, or what becomes of it. -/
inductive TaskMove where
  /-- Makes a step of its own. -/
  | work
  /-- Gets the answer of its detection call. -/
  | hear (answer : Except Detection.Fault (List Prediction))
  | wake
  /-- Dies in its detection call; its delivery stays held. -/
  | die

/-- Puts a task back among those that run; one that is done frees its place. -/
def putTask (s : Shift) (n : Nat) (t : Task) : Shift :=
  match t.outcome? with
  | some _ => { s with tasks := s.tasks.filter (·.1 ≠ n), places := s.places + 1 }
  | none => { s with tasks := s.tasks.map fun e => if e.1 = n then (n, t) else e }

/-- Makes a move of a task, if it is possible. -/
def taskMove? (c : Config) (supply : Supply) (b : Backend) (s : Shift) (n : Nat) (m : TaskMove) :
    Option (Backend × Shift) := do
  let t ← s.task? n
  match m with
  | .work =>
    if t.isWaiting then none
    let (b, l, t) := t.step c supply b s.ledger
    some (b, { s with ledger := l }.putTask n t)
  | .hear answer =>
    match t.phase with
    | .detecting _ =>
      let (b, t) := t.detected c supply.now b answer
      some (b, s.putTask n t)
    | _ => none
  | .wake =>
    if (t.pause? c).isNone then none
    some (b, s.putTask n (t.resume c))
  | .die =>
    match t.phase with
    | .detecting _ =>
      some (b, { s with tasks := s.tasks.filter (·.1 ≠ n), places := s.places + 1 })
    | _ => none

end Shift

end DetectionJobs.Worker
