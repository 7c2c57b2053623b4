/-
  DetectionJobs/Simulation/Run.lean
  =================================
  **A worker on the virtual clock.**

  The loop and the tasks take turns in the order in which they were woken, and each goes
  on until it has to wait.  Of the moves that the loop could make it makes the one that
  notices a stop first.
-/
import DetectionJobs.Simulation.World

namespace DetectionJobs.Simulation

/-- Who takes turns. -/
inductive Agent where
  | loop
  | task (number : Nat)
deriving DecidableEq, Repr

/-- What a waiting task is to be told, and when. -/
structure Alarm where
  number : Nat
  due : Nat
  /-- What it is told; nothing stands for its death. -/
  move : Option (Except Detection.Fault (List Prediction)) ⊕ Unit

/-- A worker on the clock. -/
structure Run where
  world : World
  shift : Worker.Shift
  /-- When the loop has waited long enough. -/
  due : Nat
  /-- Those whose turn it is, the next one first. -/
  turns : List Agent
  alarms : List Alarm

namespace Run

/-- The number under which the loop waits at the bell. -/
def insider : Nat := 0

/-- A worker that is about to start. -/
def start (w : World) : Run where
  world := w
  shift := .start insider w.config w.ledger w.isStopped
  due := 0
  turns := [.loop]
  alarms := []

/-! ### The loop -/

/-- The move that the loop makes next; nothing if it has to wait. -/
def loopMove? (r : Run) : Option Worker.Shift.Move :=
  let s := r.shift
  let isDue := r.due ≤ r.world.clock
  if s.isStopped ∧ s.stage.noticesStop then some .leave
  else match s.stage with
    | .starting | .recovering => some (.recover (0 < r.world.recoverFaults))
    | .round => some .begin
    | .joining => if s.tasks.isEmpty then some .join else none
    | .pausing | .resting => if isDue then some .wake else none
    | .acquiring => if 0 < s.places then some .acquire else none
    | .asking => some .ask
    | .receiving .looking => some .look
    | .receiving .listening => some .listen
    | .receiving _ =>
      if Queue.Receiver.isWoken s.number r.world.backend.broker then some .resume
      else if isDue then some .expire
      else none
    | .draining =>
      if s.tasks.isEmpty then some .finish else if isDue then some .abandon else none
    | .done => none

/-- When the loop has waited long enough at the stage that it just came to. -/
def dueAfter (r : Run) (before after : Worker.Stage) : Nat :=
  let c := r.world.config
  match before, after with
  | .asking, .receiving _ => r.world.clock + World.millis c.pollTimeout
  | _, .pausing | _, .resting => r.world.clock + World.millis c.pollTimeout
  | _, .draining => r.world.clock + World.millis c.shutdownTimeout
  | _, _ => r.due

/-- Gives the loop a turn: it moves until it has to wait.  New tasks get turns after
    it. -/
def runLoop : (fuel : Nat) → Run → Run
  | 0, r => r
  | fuel + 1, r =>
    match r.loopMove? with
    | none => r
    | some m =>
      match r.shift.move? r.world.backend.broker m with
      | none => r
      | some (b, s) =>
        let w := match m with
          | .recover _ => r.world.drawRecovery.2
          | _ => r.world
        let fresh := (List.range (s.started - r.shift.started)).map fun i =>
          Agent.task (r.shift.started + i)
        runLoop fuel { r with
          world := w.withBroker b
          shift := s
          due := r.dueAfter r.shift.stage s.stage
          turns := r.turns ++ fresh }

/-! ### The tasks -/

def moveTask (r : Run) (n : Nat) (m : Worker.Shift.TaskMove) : Run :=
  let (supply, w) := r.world.supply
  match r.shift.taskMove? w.config supply w.backend n m with
  | none => r
  | some (b, s) => { r with world := { w with backend := b }, shift := s }

/-- Tells a task what it has waited for. -/
def tell (r : Run) (a : Alarm) : Run :=
  r.moveTask a.number (match a.move with
    | .inl (some answer) => .hear answer
    | .inl none => .die
    | .inr () => .wake)

/-- Lets a task wait for an alarm; one that is due at once is told at once.  Gives whether
    the task goes on. -/
def await (r : Run) (a : Alarm) : Run × Bool :=
  if a.due ≤ r.world.clock then (r.tell a, true)
  else ({ r with alarms := r.alarms ++ [a] }, false)

/-- Gives a task a turn: it moves until it has to wait. -/
def runTask (n : Nat) : (fuel : Nat) → Run → Run
  | 0, r => r
  | fuel + 1, r =>
    match r.shift.task? n with
    | none => r
    | some t =>
      match t.phase, t.pause? r.world.config with
      | .detecting m, _ =>
        let ((delay, answer), w) := r.world.callDetector m
        let (r, goesOn) := { r with world := w }.await ⟨n, w.clock + delay, .inl answer⟩
        if goesOn then runTask n fuel r else r
      | _, some pause =>
        let (r, goesOn) := r.await ⟨n, r.world.clock + World.millis pause, .inr ()⟩
        if goesOn then runTask n fuel r else r
      | _, none => runTask n fuel (r.moveTask n .work)

/-! ### Turns and time -/

/-- Gives the loop a turn if it can move and has none yet. -/
def wakeLoop (r : Run) : Run :=
  if r.loopMove?.isSome ∧ ¬ r.turns.contains .loop then { r with turns := r.turns ++ [.loop] }
  else r

/-- Goes through the turns until everything waits. -/
def settle : (fuel : Nat) → Run → Run
  | 0, r => r
  | fuel + 1, r =>
    match r.turns with
    | [] => r
    | a :: rest =>
      let r := { r with turns := rest }
      settle fuel (match a with
        | .loop => runLoop fuel r
        | .task n => runTask n fuel r).wakeLoop

/-- When the loop's wait is over, if it is one for time to pass. -/
def loopDue? (r : Run) : Option Nat :=
  match r.shift.stage with
  | .pausing | .receiving _ | .resting | .draining => some r.due
  | _ => none

/-- When the next thing is due. -/
def nextDue? (r : Run) : Option Nat :=
  (r.loopDue?.toList ++ r.alarms.map (·.due)).min?

/-- Lets time pass until `time`, and gives turns to those whose alarms are due then. -/
def advanceTo (time : Nat) (r : Run) : Run :=
  let r := { r with world := { r.world with clock := time } }
  let (due, later) := r.alarms.partition (·.due ≤ time)
  let r := due.foldl (fun r a => { r.tell a with turns := r.turns ++ [.task a.number] })
    { r with alarms := later }
  r.wakeLoop

/-- Lets the worker go on until nothing is due before `limit`, or for good if there is no
    limit. -/
def goUntil (limit : Option Nat) : (fuel : Nat) → Run → Run
  | 0, r => r
  | fuel + 1, r =>
    let r := settle fuel r
    match r.nextDue? with
    | none => r
    | some time =>
      if r.shift.stage = .done ∨ limit.any (· ≤ time) then r
      else goUntil limit fuel (advanceTo time r)

/-- What the world looks like while the worker runs. -/
def view (r : Run) : World :=
  { r.world with ledger := r.shift.ledger, isStopped := r.shift.isStopped }

/-- Takes over a world that was changed from outside. -/
def adopt (r : Run) (w : World) : Run :=
  let shift := { r.shift with ledger := w.ledger, isStopped := w.isStopped }
  { r with world := w, shift := shift }.wakeLoop

/-- Goes on until `time` and changes the world then, before anyone has a turn. -/
def change (fuel time : Nat) (act : World → World × α) (r : Run) : Run × α :=
  let r := if time ≤ r.world.clock then r else goUntil (some time) fuel r
  let (w, a) := act { r.view with clock := max r.world.clock time }
  (r.adopt w, a)

/-- Stops the worker at `time` and waits for its end. -/
def stopAt (fuel time : Nat) (r : Run) : World :=
  let (r, ()) := r.change fuel time fun w => ({ w with isStopped := true }, ())
  (goUntil none fuel r).view

end Run

end DetectionJobs.Simulation
