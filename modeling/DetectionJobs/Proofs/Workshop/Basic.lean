/-
  DetectionJobs/Proofs/Workshop/Basic.lean
  ========================================
  **One worker, from its start on, and what became of each delivery.**

  A workshop is a queue with its only worker.  Others may add entries, use the stored jobs and
  set up faults whenever they like, but they settle nothing.  The moves of the loop and of the
  tasks come in any order.  A task may vanish anywhere; when the worker has run out of patience
  its tasks may go on for a while, or they are gone at once.

  The trace tells which deliveries were handed to a task, and how each one was left: settled,
  given up after the last try, or lost with its task.
-/
import DetectionJobs.Proofs.Fleet.Solo

namespace DetectionJobs

/-! ### Outcomes -/

namespace Worker

/-- The outcomes of a settlement fit it.  An acknowledgement counts the same whether it is made
    or not. -/
def Settling.Sound (s : Settling) : Prop :=
  match s.settlement with
  | .ack => s.held = s.settled ∧ s.settled ∈ [Outcome.completed, .failed, .dropped]
  | .requeue _ => s.settled = .requeued ∧ s.held = .unsettled
  | .deadLetter _ => s.settled = .deadLettered ∧ s.held = .unsettled

def Phase.Sound : Phase → Prop
  | .settling s => s.Sound
  | .backingOff s _ => s.Sound
  | .finished _ => False
  | _ => True

end Worker

/-! ### The workshop -/

structure Workshop where
  backend : Backend
  shift : Worker.Shift

namespace Workshop

open Worker
open Queue.Broker (Settlement)

/-- What becomes of deliveries, by the numbers of their tasks. -/
inductive Event where
  | handed (n : Nat)
  /-- A settlement took effect. -/
  | settled (n : Nat) (s : Settlement)
  /-- The last try of a settlement failed. -/
  | gaveUp (n : Nat) (s : Settlement)
  /-- The task is gone and settled nothing. -/
  | lost (n : Nat)
deriving DecidableEq

inductive Action where
  /-- Others leave the backend like this. -/
  | elsewhere (b : Backend)
  | loop (move : Shift.Move)
  | task (n : Nat) (supply : Supply) (move : Shift.TaskMove)
  | stop
  /-- The worker does not wait any longer for its tasks, which are still there. -/
  | retire
  | drop (n : Nat)

def loopReport (b : Queue.Broker) (s : Shift) : Shift.Move → List Event
  | .look => if b.ready = [] then [] else [.handed s.started]
  | .abandon => s.tasks.map fun e => .lost e.1
  | _ => []

def taskReport (b : Queue.Broker) (now : Instant) (n : Nat) (t : Task) :
    Shift.TaskMove → List Event
  | .work =>
    match t.phase with
    | .settling s =>
      match (b.trySettle t.delivery now s.settlement).2 with
      | .ok () => [.settled n s.settlement]
      | .error _ => if 1 < s.tries then [] else [.gaveUp n s.settlement]
    | _ => []
  | .die => [.lost n]
  | _ => []

/-- Nobody took or settled an entry. -/
def KeepsHeld (b b' : Queue.Broker) : Prop :=
  b'.inFlight = b.inFlight ∧ b'.dead = b.dead ∧ b'.acked = b.acked

instance (b b' : Queue.Broker) : Decidable (KeepsHeld b b') := by
  unfold KeepsHeld
  infer_instance

/-- Takes an action, if it is possible, and reports what became of deliveries. -/
def step? (c : Config) (w : Workshop) : Action → Option (Workshop × List Event)
  | .elsewhere b =>
    if KeepsHeld w.backend.broker b.broker then some ({ w with backend := b }, []) else none
  | .loop move => do
    let (b, s) ← w.shift.move? w.backend.broker move
    some (⟨{ w.backend with broker := b }, s⟩, loopReport w.backend.broker w.shift move)
  | .task n supply move => do
    let t ← w.shift.task? n
    let (b, s) ← w.shift.taskMove? c supply w.backend n move
    some (⟨b, s⟩, taskReport w.backend.broker supply.now n t move)
  | .stop => some ({ w with shift := w.shift.stop }, [])
  | .retire =>
    if w.shift.stage = .draining then some ({ w with shift := w.shift.goto .done }, []) else none
  | .drop n => do
    let _ ← w.shift.task? n
    some ({ w with shift := { w.shift with
      tasks := w.shift.tasks.filter (·.1 ≠ n)
      places := w.shift.places + 1 } }, [.lost n])

/-- A fresh worker on an empty queue; some jobs may be stored already. -/
def opening (c : Config) (number : Nat) (isStopped : Bool) (r : Repository) (metrics : Metrics) :
    Workshop :=
  ⟨⟨.empty, r, metrics⟩, .start number c .empty isStopped⟩

/-- A run from one workshop to another, with its trace. -/
abbrev Run (c : Config) (w : Workshop) (trace : List Event) (w' : Workshop) : Prop :=
  Machine.Run (step? c) Anything w trace w'

abbrev replay? (c : Config) (w : Workshop) (actions : List Action) :
    Option (Workshop × List Event) :=
  Machine.replay? (step? c) Anything w actions

variable {c : Config} {w w' : Workshop} {trace es : List Event}

/-! ### Moves of the loop -/

/-- What a move of the loop does to its tasks, and what is told of it. -/
inductive LoopFeat (s s' : Shift) : List Event → Prop where
  | quiet (htasks : s'.tasks = s.tasks) (hstarted : s'.started = s.started) : LoopFeat s s' []
  | handed (raw : String) (htasks : s'.tasks = s.tasks ++ [(s.started, .start (.ofRaw raw))])
      (hstarted : s'.started = s.started + 1) : LoopFeat s s' [.handed s.started]
  | abandoned (htasks : s'.tasks = []) (hstarted : s'.started = s.started) :
      LoopFeat s s' (s.tasks.map fun e => .lost e.1)

/-- A move of the loop counts nothing. -/
theorem loopFeat_of_move {b b' : Queue.Broker} {s s' : Shift} {move : Shift.Move}
    (h : s.move? b move = some (b', s')) :
    s'.ledger.stats = s.ledger.stats ∧ LoopFeat s s' (loopReport b s move) := by
  cases Shift.moved_of_move h with
  | handed _ hready =>
    rw [loopReport, hready]
    exact ⟨rfl, .handed _ rfl rfl⟩
  | foundNothing _ hready =>
    rw [loopReport, hready]
    exact ⟨rfl, .quiet rfl rfl⟩
  | abandoned => exact ⟨rfl, .abandoned rfl rfl⟩
  | left =>
    obtain ⟨_, htasks, hstarted, _⟩ := Shift.quit_same b s
    exact ⟨congrArg Ledger.stats (Shift.quit_ledger b s), .quiet htasks hstarted⟩
  | _ => exact ⟨rfl, .quiet rfl rfl⟩

/-! ### Moves of a task -/

/-- What a move of a task does to the queue and to the counts; the task may be gone
    afterwards. -/
inductive TaskFeat (b b' : Queue.Broker) (l l' : Ledger) (now : Instant) (n : Nat) (t : Task) :
    Option Phase → List Event → Prop where
  | going {phase : Phase} (hlists : b.Same b') (hstats : l'.stats = l.stats)
      (hsound : phase.Sound) : TaskFeat b b' l l' now n t (some phase) []
  | settled {s : Settling} (hphase : t.phase = .settling s)
      (hbroker : b' = b.settle t.delivery now s.settlement)
      (hstats : l'.stats = l.stats.add s.settled) :
      TaskFeat b b' l l' now n t none [.settled n s.settlement]
  | gaveUp {s : Settling} (hphase : t.phase = .settling s) (hlists : b.Same b')
      (hstats : l'.stats = l.stats.add s.held) :
      TaskFeat b b' l l' now n t none [.gaveUp n s.settlement]
  | lost (hlists : b.Same b') (hstats : l'.stats = l.stats) :
      TaskFeat b b' l l' now n t none [.lost n]

theorem going?_of_sound {phase : Phase} (h : phase.Sound) : Fleet.going? phase = some phase := by
  cases phase with
  | finished o => cases h
  | _ => rfl

theorem sound_afterSetback (c : Config) (t : Task) (m : Message) (s : Setback) :
    (Task.afterSetback c t m s).Sound := by
  unfold Task.afterSetback
  split
  · trivial
  · trivial

theorem sound_afterDetection (c : Config) (t : Task) (m : Message) (now : Instant)
    (answer : Except Detection.Fault (List Prediction)) :
    (Task.afterDetection c t m now answer).Sound := by
  unfold Task.afterDetection
  split
  · trivial
  · split
    · exact sound_afterSetback c t m _
    · trivial

/-- The delivery of a recorded job is acknowledged, and it counts as one of two outcomes. -/
theorem sound_recorded (c : Config) (result : JobResult) :
    (Task.firstTry c .ack (Task.recorded result) (Task.recorded result)).Sound := by
  refine ⟨rfl, ?_⟩
  cases hstatus : result.status <;> simp [Task.recorded, hstatus]

section Moves

variable {supply : Supply} {b b' : Backend} {s s' : Shift} {n : Nat} {t : Task}

/-- A task that stays alive goes on, or its settlement is over. -/
theorem taskFeat_of_moved {l l' : Ledger} {phase : Phase} {move : Shift.TaskMove} (n : Nat)
    (h : t.Moved c supply b l move b' l' phase) (hsound : t.phase.Sound) :
    TaskFeat b.broker b'.broker l l' supply.now n t (Fleet.going? phase)
      (taskReport b.broker supply.now n t move) := by
  cases h with
  | unreadable hphase =>
    simp only [taskReport, hphase]
    exact .going (.refl _) rfl ⟨rfl, by simp⟩
  | readable hphase =>
    simp only [taskReport, hphase]
    exact .going (.refl _) rfl trivial
  | @heard m answer =>
    have hnext := sound_afterDetection c t m supply.now answer
    rw [going?_of_sound hnext]
    exact .going (.refl _) rfl hnext
  | @recorded m result r hphase =>
    simp only [taskReport, hphase]
    exact .going (.refl _) rfl (sound_recorded c result)
  | @unrecorded m result r fault hphase =>
    have hnext := sound_afterSetback c t m (.repository fault)
    simp only [taskReport, hphase]
    rw [going?_of_sound hnext]
    exact .going (.refl _) rfl hnext
  | closed hphase =>
    simp only [taskReport, hphase]
    exact .going (.refl _) rfl ⟨rfl, rfl⟩
  | @settled s hphase hfaults =>
    have hcall := Queue.Broker.trySettle_of_noFault hfaults t.delivery supply.now s.settlement
    simp only [taskReport, hphase, hcall]
    exact .settled hphase rfl rfl
  | @failed s _ hphase hfaults htries =>
    have hcall := Queue.Broker.trySettle_of_fault hfaults t.delivery supply.now s.settlement
    rw [hphase] at hsound
    simp only [taskReport, hphase, hcall, if_pos htries]
    exact .going ⟨rfl, rfl, rfl, rfl⟩ rfl hsound
  | @gaveUp s _ hphase hfaults htries =>
    have hcall := Queue.Broker.trySettle_of_fault hfaults t.delivery supply.now s.settlement
    simp only [taskReport, hphase, hcall, if_neg htries]
    exact .gaveUp hphase ⟨rfl, rfl, rfl, rfl⟩ rfl
  | paused => exact .going (.refl _) rfl ⟨rfl, rfl⟩
  | backedOff hphase =>
    rw [hphase] at hsound
    exact .going (.refl _) rfl hsound
  | ended hphase =>
    rw [hphase] at hsound
    cases hsound

/-- **Every move of a task** goes on, settles, gives up or loses the task. -/
theorem taskFeat_of_move {move : Shift.TaskMove} (ht : s.task? n = some t)
    (h : s.taskMove? c supply b n move = some (b', s')) (hsound : t.phase.Sound) :
    ∃ next, Fleet.Follows s s' n t next ∧
      TaskFeat b.broker b'.broker s.ledger s'.ledger supply.now n t next
        (taskReport b.broker supply.now n t move) := by
  obtain ⟨t', ht', hmoved⟩ := Shift.taskMoved_of_move h
  obtain rfl := Option.some.inj (ht.symm.trans ht')
  cases hmoved with
  | @went _ _ l phase hmoved =>
    rw [Shift.ledger_putTask]
    exact ⟨_, Fleet.follows_putTask s l n t phase, taskFeat_of_moved n hmoved hsound⟩
  | died => exact ⟨none, ⟨rfl, rfl, rfl⟩, .lost (.refl _) rfl⟩

end Moves

end Workshop

end DetectionJobs
