/-
  DetectionJobs/Proofs/Worker/Errands.lean
  ========================================
  **The work on one delivery, call by call, whatever fails.**

  A delivery is handled on its own: its task makes one move after the other until it is done.
  The queue and the stored jobs may have any number of faults ahead of them, the detection
  service may answer anything, late or never, and the clock may show anything.  Beside the
  work stands a list of the calls that it made, with their answers.

  The way to the settlement takes at most four moves, and which way it is depends on the entry
  and on the answers.  The settlement is then tried as often as the worker was set up to.
-/
import Mathlib.Logic.Function.Iterate
import DetectionJobs.Proofs.Queue.Lists
import DetectionJobs.Proofs.Repository.Rows
import DetectionJobs.Worker.Task

namespace DetectionJobs.Worker

/-- What the work on a delivery meets with. -/
structure Outside where
  /-- What the detection service answers, and after how many milliseconds; nothing if no answer
      ever comes. -/
  reply : Message → Option (Nat × Except Detection.Fault (List Prediction))
  /-- What each call draws on. -/
  draw : Nat → Supply

/-- Milliseconds until the deadline of a detection call, a part of one being rounded up. -/
def Config.patience (c : Config) : Nat := (c.detectionTimeout.nanos + 999999) / 1000000

/-- What a detection call comes to for a worker, which waits for the answer until its deadline. -/
def Outside.heard (x : Outside) (c : Config) (m : Message) :
    Except Detection.Fault (List Prediction) :=
  match x.reply m with
  | some (delay, answer) =>
    if delay ≤ c.patience then answer else .error (.timeout c.detectionTimeout)
  | none => .error (.timeout c.detectionTimeout)

/-- A call that a task makes, and its answer. -/
inductive Errand where
  | detect (m : Message) (answer : Except Detection.Fault (List Prediction))
  | record (result : JobResult) (answer : Except Repository.Fault Unit)
  /-- A job is to be closed unless it has come to its end. -/
  | close (m : Message) (answer : Except Repository.Fault Bool)
  | settle (s : Queue.Broker.Settlement) (answer : Except Queue.Fault Unit)

namespace Errand

def isDetect : Errand → Bool
  | .detect .. => true
  | _ => false

def isRecord : Errand → Bool
  | .record .. => true
  | _ => false

def isClose : Errand → Bool
  | .close .. => true
  | _ => false

def isSettle : Errand → Bool
  | .settle .. => true
  | _ => false

/-- The setback that a call tells of by its answer. -/
def setback? : Errand → Option Setback
  | .detect _ (.error f) => if f.isRetryable then some (.detection f) else none
  | .record _ (.error f) => some (.repository f)
  | _ => none

end Errand

/-- The work on a delivery. -/
structure Bench where
  backend : Backend
  ledger : Ledger
  task : Task
  /-- How often something was drawn on. -/
  draws : Nat
  errands : List Errand

namespace Bench

/-- The call that a task makes with a step of its own. -/
def errand (supply : Supply) (b : Backend) (t : Task) : List Errand :=
  match t.phase with
  | .storing _ result =>
    [.record result (b.repository.upsert result supply.ids supply.now).2]
  | .closing m reason =>
    [.close m (b.repository.markFailed m.jobId m.imageUrl (t.exhausted reason) supply.now).2]
  | .settling s => [.settle s.settlement (b.broker.trySettle t.delivery supply.now s.settlement).2]
  | _ => []

/-- Why the attempt failed, if it did and may succeed later. -/
def setback? (d : Bench) : Option Setback := d.errands.findSome? Errand.setback?

def detections (d : Bench) : Nat := d.errands.countP Errand.isDetect

/-- The next move of the task. -/
def move (c : Config) (x : Outside) (d : Bench) : Bench :=
  let supply := x.draw d.draws
  match d.task.phase with
  | .finished _ => d
  | .detecting m =>
    let answer := x.heard c m
    let (b, t) := d.task.detected c supply.now d.backend answer
    ⟨b, d.ledger, t, d.draws + 1, d.errands ++ [.detect m answer]⟩
  | .pausing _ | .backingOff _ _ => { d with task := d.task.resume c }
  | _ =>
    let (b, l, t) := d.task.step c supply d.backend d.ledger
    ⟨b, l, t, d.draws + 1, d.errands ++ errand supply d.backend d.task⟩

/-- The delivery of an entry before any work. -/
def start (b : Backend) (l : Ledger) (raw : String) : Bench := ⟨b, l, .start (.ofRaw raw), 0, []⟩

/-- How often a settlement is tried; there is always one try. -/
def tries (c : Config) : Nat := max c.settleAttempts 1

/-- As many moves as the work on a delivery takes at most. -/
def enough (c : Config) : Nat := 2 * tries c + 3

/-- The work on a delivery, done. -/
def handle (c : Config) (x : Outside) (b : Backend) (l : Ledger) (raw : String) : Bench :=
  (move c x)^[enough c] (start b l raw)

variable {c : Config} {x : Outside} {b : Backend} {l : Ledger} {d : Bench} {n k : Nat}
  {m : Message} {raw reason : String} {o : Outcome} {s : Settling}

/-! ### Moves -/

theorem move_of_finished (h : d.task.phase = .finished o) : d.move c x = d := by
  simp only [move, h]

/-- Once the work is done, nothing changes. -/
theorem iterate_of_finished (h : d.task.phase = .finished o) (n : Nat) : (move c x)^[n] d = d :=
  Function.iterate_fixed (move_of_finished h) n

theorem iterate_eq_of_finished (h : ((move c x)^[n] d).task.phase = .finished o) (hn : n ≤ k) :
    (move c x)^[k] d = (move c x)^[n] d := by
  obtain ⟨j, rfl⟩ := Nat.exists_eq_add_of_le' hn
  rw [Function.iterate_add_apply, iterate_of_finished h]

/-! ### The settlement -/

/-- The settlement of a delivery is over. -/
structure Settled (x : Outside) (d : Bench) (s : Settling) (d' : Bench) (o : Outcome) : Prop where
  phase : d'.task.phase = .finished o
  repository : d'.backend.repository = d.backend.repository
  stats : d'.ledger.stats = d.ledger.stats.add o
  errands : ∃ tried, d'.errands = d.errands ++ tried ∧ tried.length ≤ s.tries ∧
    ∀ e ∈ tried, ∃ answer, e = .settle s.settlement answer
  /-- It took place after as many failures as were ahead, if there was a try left. -/
  done : d.backend.broker.settleFaults < s.tries → o = s.settled ∧
    d'.ledger.needsRecovery = d.ledger.needsRecovery ∧
    ∃ i, d'.backend.broker = ({ d.backend.broker with settleFaults := 0 }).settle
      d.task.delivery (x.draw i).now s.settlement
  /-- Otherwise it was given up, and the loop of the worker is told. -/
  givenUp : s.tries ≤ d.backend.broker.settleFaults → o = s.held ∧
    d'.ledger.needsRecovery = true ∧
    d'.backend.broker =
      { d.backend.broker with settleFaults := d.backend.broker.settleFaults - s.tries }

/-- A try without a fault ahead settles the delivery. -/
theorem move_of_noFault (hphase : d.task.phase = .settling s)
    (hfaults : d.backend.broker.settleFaults = 0) : d.move c x = ⟨{ d.backend with
        broker := d.backend.broker.settle d.task.delivery (x.draw d.draws).now s.settlement
        metrics := { d.backend.metrics with
          outcomes := d.backend.metrics.outcomes.add s.settled } },
      { d.ledger with stats := d.ledger.stats.add s.settled },
      { d.task with phase := .finished s.settled }, d.draws + 1,
      d.errands ++ [.settle s.settlement (.ok ())]⟩ := by
  have hcall := Queue.Broker.trySettle_of_noFault hfaults d.task.delivery (x.draw d.draws).now
    s.settlement
  simp only [move, hphase, Task.step, errand, hcall, Task.finish]

/-- After the last try, if it fails, the delivery is left as it is. -/
theorem move_of_lastTry (hphase : d.task.phase = .settling s) (htries : s.tries = 1)
    (hfaults : d.backend.broker.settleFaults = n + 1) : d.move c x = ⟨{ d.backend with
        broker := { d.backend.broker with settleFaults := n }
        metrics := { d.backend.metrics with
          outcomes := d.backend.metrics.outcomes.add s.held } },
      ⟨d.ledger.stats.add s.held, true⟩, { d.task with phase := .finished s.held }, d.draws + 1,
      d.errands ++ [.settle s.settlement (.error .closed)]⟩ := by
  have hcall := Queue.Broker.trySettle_of_fault hfaults d.task.delivery (x.draw d.draws).now
    s.settlement
  simp only [move, hphase, Task.step, errand, hcall, Task.finish, htries, Nat.lt_irrefl, if_false]

theorem settled_of_noFault (hphase : d.task.phase = .settling s) (htries : 0 < s.tries)
    (hfaults : d.backend.broker.settleFaults = 0) : Settled x d s (d.move c x) s.settled := by
  have hclear : d.backend.broker = { d.backend.broker with settleFaults := 0 } := by
    rw [← hfaults]
  rw [move_of_noFault hphase hfaults]
  refine ⟨rfl, rfl, rfl, ⟨_, rfl, htries, ?_⟩, fun _ => ⟨rfl, rfl, d.draws, ?_⟩, fun h => ?_⟩
  · intro e he
    exact ⟨_, List.mem_singleton.mp he⟩
  · rw [← hclear]
  · omega

theorem settled_of_lastTry (hphase : d.task.phase = .settling s) (htries : s.tries = 1)
    (hfaults : d.backend.broker.settleFaults = n + 1) : Settled x d s (d.move c x) s.held := by
  rw [move_of_lastTry hphase htries hfaults]
  refine ⟨rfl, rfl, rfl, ⟨_, rfl, by rw [htries]; exact Nat.le_refl 1, ?_⟩, fun h => ?_,
    fun _ => ⟨rfl, rfl, ?_⟩⟩
  · intro e he
    exact ⟨_, List.mem_singleton.mp he⟩
  · omega
  · rw [hfaults, htries]
    rfl

/-- A try failed, and the next one is to be made. -/
def retrying (d : Bench) (s : Settling) (faults : Nat) : Bench where
  backend := { d.backend with broker := { d.backend.broker with settleFaults := faults } }
  ledger := d.ledger
  task := { d.task with phase := .settling s.next }
  draws := d.draws + 1
  errands := d.errands ++ [.settle s.settlement (.error .closed)]

/-- A try that fails and is not the last one is followed by a pause. -/
theorem move_of_fault (hphase : d.task.phase = .settling s) (htries : 1 < s.tries)
    (hfaults : d.backend.broker.settleFaults = n + 1) : d.move c x =
      { d.retrying s n with task := { d.task with phase := .backingOff s.next s.backoff } } := by
  have hcall := Queue.Broker.trySettle_of_fault hfaults d.task.delivery (x.draw d.draws).now
    s.settlement
  simp only [move, hphase, Task.step, errand, hcall, if_pos htries, retrying]

/-- After the pause the settlement is tried again. -/
theorem move_move_of_fault (hphase : d.task.phase = .settling s) (htries : 1 < s.tries)
    (hfaults : d.backend.broker.settleFaults = n + 1) :
    (d.move c x).move c x = d.retrying s n := by
  rw [move_of_fault hphase htries hfaults]
  rfl

theorem Settled.of_retrying {d' : Bench} (htries : 1 < s.tries)
    (hfaults : d.backend.broker.settleFaults = n + 1)
    (h : Settled x (d.retrying s n) s.next d' o) : Settled x d s d' o := by
  obtain ⟨tried, herrands, hlength, hall⟩ := h.errands
  have hnext : s.next.tries = s.tries - 1 := rfl
  refine ⟨h.phase, h.repository, h.stats,
    ⟨.settle s.settlement (.error .closed) :: tried, ?_, ?_, ?_⟩, fun hroom => ?_,
    fun hnone => ?_⟩
  · exact herrands.trans (List.append_assoc ..)
  · rw [List.length_cons]
    omega
  · intro e he
    rcases List.mem_cons.mp he with rfl | he
    · exact ⟨_, rfl⟩
    · exact hall e he
  · exact h.done (by show n < s.next.tries; omega)
  · obtain ⟨houtcome, hflag, hbroker⟩ := h.givenUp (by show s.next.tries ≤ n; omega)
    have hsame : n - s.next.tries = d.backend.broker.settleFaults - s.tries := by omega
    refine ⟨houtcome, hflag, hbroker.trans ?_⟩
    rw [← hsame]
    rfl

/-- **The settlement is tried until it takes place or there are no more tries.** -/
theorem settles (k : Nat) (hphase : d.task.phase = .settling s) (htries : 0 < s.tries)
    (hk : s.tries ≤ k + 1 ∨ d.backend.broker.settleFaults ≤ k) :
    ∃ o, Settled x d s ((move c x)^[2 * k + 1] d) o := by
  -- every two moves use up a try and a fault; after the end nothing changes any more
  induction k generalizing d s with
  | zero =>
    cases hfaults : d.backend.broker.settleFaults with
    | zero => exact ⟨_, settled_of_noFault hphase htries hfaults⟩
    | succ n => exact ⟨_, settled_of_lastTry hphase (by omega) hfaults⟩
  | succ k ih =>
    have hend {o : Outcome} (h : Settled x d s (d.move c x) o) :
        Settled x d s ((move c x)^[2 * (k + 1) + 1] d) o := by
      rw [Function.iterate_succ_apply, iterate_of_finished h.phase]
      exact h
    cases hfaults : d.backend.broker.settleFaults with
    | zero => exact ⟨_, hend (settled_of_noFault hphase htries hfaults)⟩
    | succ n =>
      by_cases hlast : s.tries = 1
      · exact ⟨_, hend (settled_of_lastTry hphase hlast hfaults)⟩
      have hmore : 1 < s.tries := by omega
      have hnext : s.next.tries = s.tries - 1 := rfl
      obtain ⟨o, hsettled⟩ := ih (d := d.retrying s n) (s := s.next) rfl (by omega)
        (by show s.next.tries ≤ k + 1 ∨ n ≤ k; omega)
      refine ⟨o, .of_retrying hmore hfaults ?_⟩
      rw [show 2 * (k + 1) + 1 = 2 * k + 1 + 1 + 1 by omega, Function.iterate_succ_apply,
        Function.iterate_succ_apply, move_move_of_fault hphase hmore hfaults]
      exact hsettled

/-! ### The way to the settlement -/

/-- What is to be recorded of a job: the objects that were found, or why it cannot be done. -/
inductive Finding (m : Message) : Except Detection.Fault (List Prediction) → JobResult → Prop where
  | found (ps : List Prediction) (now : Instant) :
      Finding m (.ok ps) (.completed m.jobId m.imageUrl ps now)
  | rejected {f : Detection.Fault} (now : Instant) (hfinal : f.isRetryable = false) :
      Finding m (.error f) (.failed m.jobId m.imageUrl f.message now)

/-- An attempt failed that may succeed later: these calls were made, and this is what is stored
    after them. -/
inductive SetBack (x : Outside) (c : Config) (r : Repository) (m : Message) :
    Setback → List Errand → Repository → Prop where
  | detection {f : Detection.Fault} (hheard : x.heard c m = .error f)
      (hretryable : f.isRetryable = true) :
      SetBack x c r m (.detection f) [.detect m (.error f)] r
  | repository {result : JobResult} {i : Nat} {f : Repository.Fault} {r' : Repository}
      (hfinding : Finding m (x.heard c m) result)
      (hcall : r.upsert result (x.draw i).ids (x.draw i).now = (r', .error f)) :
      SetBack x c r m (.repository f) [.detect m (x.heard c m), .record result (.error f)] r'

/-- How the work on the delivery of an entry comes to a settlement: the calls that were made,
    what is stored after them, the settlement, and the outcomes with it and without it. -/
inductive Course (x : Outside) (c : Config) (r : Repository) (raw : String) :
    List Errand → Repository → Queue.Broker.Settlement → Outcome → Outcome → Prop where
  | unreadable {fault : Queue.Fault} (hbody : Message.decode (Queue.bodyOf raw) = .error fault) :
      Course x c r raw [] r .ack .dropped .dropped
  | recorded {m : Message} {result : JobResult} {i : Nat} {r' : Repository}
      (hbody : Message.decode (Queue.bodyOf raw) = .ok m)
      (hfinding : Finding m (x.heard c m) result)
      (hcall : r.upsert result (x.draw i).ids (x.draw i).now = (r', .ok ())) :
      Course x c r raw [.detect m (x.heard c m), .record result (.ok ())] r' .ack
        (Task.recorded result) (Task.recorded result)
  | again {m : Message} {setback : Setback} {errands : List Errand} {r' : Repository}
      (hbody : Message.decode (Queue.bodyOf raw) = .ok m)
      (hsetback : SetBack x c r m setback errands r')
      (hroom : Queue.attemptsOf raw + 1 < c.maxAttempts) :
      Course x c r raw errands r' (.requeue setback.message) .requeued .unsettled
  | noMore {m : Message} {setback : Setback} {errands : List Errand} {r' r'' : Repository}
      {reason : String} {i : Nat} {answer : Except Repository.Fault Bool}
      (hbody : Message.decode (Queue.bodyOf raw) = .ok m)
      (hsetback : SetBack x c r m setback errands r')
      (hroom : ¬ Queue.attemptsOf raw + 1 < c.maxAttempts)
      (hreason : reason = "retries exhausted after " ++ toString (Queue.attemptsOf raw + 1) ++
        " attempts: " ++ setback.message)
      (hcall : r'.markFailed m.jobId m.imageUrl reason (x.draw i).now = (r'', answer)) :
      Course x c r raw (errands ++ [.close m answer]) r'' (.deadLetter setback.message)
        .deadLettered .unsettled

/-- The work on the delivery of an entry, with the queue as it was. -/
structure At (b : Queue.Broker) (l : Ledger) (raw : String) (d : Bench) (phase : Phase)
    (errands : List Errand) (r : Repository) : Prop where
  broker : d.backend.broker = b
  ledger : d.ledger = l
  task : d.task = ⟨.ofRaw raw, phase⟩
  errands : d.errands = errands
  repository : d.backend.repository = r

section Way

variable {broker : Queue.Broker} {errands es : List Errand} {r r' : Repository}
  {phase phase' : Phase} {result : JobResult} {setback : Setback} {settled held : Outcome}
  {settlement : Queue.Broker.Settlement} {d' : Bench}

theorem At.phase_eq (h : At broker l raw d phase errands r) : d.task.phase = phase := by rw [h.task]

theorem At.body (h : At broker l raw d phase errands r) :
    d.task.delivery.body = Queue.bodyOf raw := by
  rw [h.task]
  rfl

theorem At.attempt (h : At broker l raw d phase errands r) :
    d.task.attempt = Queue.attemptsOf raw + 1 := by
  rw [Task.attempt, h.task]
  rfl

/-- What follows a setback: a pause before another attempt, or the end of the job. -/
def sequel (c : Config) (raw : String) (m : Message) (setback : Setback) : Phase :=
  if Queue.attemptsOf raw + 1 < c.maxAttempts then .pausing setback.message
  else .closing m setback.message

theorem At.afterSetback_eq (h : At broker l raw d phase errands r) :
    Task.afterSetback c d.task m setback = sequel c raw m setback := by
  rw [Task.afterSetback, h.attempt, sequel]

/-- A move that leaves the queue alone. -/
theorem At.goes_on (h : At broker l raw d phase errands r)
    (hbroker : d'.backend.broker = d.backend.broker) (hledger : d'.ledger = d.ledger)
    (htask : d'.task = { d.task with phase := phase' }) (herrands : d'.errands = d.errands ++ es)
    (hrepository : d'.backend.repository = r') :
    At broker l raw d' phase' (errands ++ es) r' := by
  refine ⟨hbroker.trans h.broker, hledger.trans h.ledger, ?_, ?_, hrepository⟩
  · rw [htask, h.task]
  · rw [herrands, h.errands]

theorem At.unreadable (h : At broker l raw d .received errands r) {fault : Queue.Fault}
    (hbody : Message.decode (Queue.bodyOf raw) = .error fault) :
    At broker l raw (d.move c x) (Task.firstTry c .ack .dropped .dropped) (errands ++ []) r := by
  rw [← h.body] at hbody
  have hmove : d.move c x =
      ⟨d.backend, d.ledger, { d.task with phase := Task.firstTry c .ack .dropped .dropped },
        d.draws + 1, d.errands ++ []⟩ := by
    simp only [move, h.phase_eq, Task.step, hbody, errand]
  rw [hmove]
  exact h.goes_on rfl rfl rfl rfl h.repository

theorem At.readable (h : At broker l raw d .received errands r)
    (hbody : Message.decode (Queue.bodyOf raw) = .ok m) :
    At broker l raw (d.move c x) (.detecting m) (errands ++ []) r := by
  rw [← h.body] at hbody
  have hmove : d.move c x =
      ⟨d.backend, d.ledger, { d.task with phase := .detecting m }, d.draws + 1,
        d.errands ++ []⟩ := by
    simp only [move, h.phase_eq, Task.step, hbody, errand]
  rw [hmove]
  exact h.goes_on rfl rfl rfl rfl h.repository

theorem At.heard (h : At broker l raw d (.detecting m) errands r) :
    At broker l raw (d.move c x)
      (Task.afterDetection c d.task m (x.draw d.draws).now (x.heard c m))
      (errands ++ [.detect m (x.heard c m)]) r := by
  have hmove : d.move c x =
      ⟨{ d.backend with
          metrics := { d.backend.metrics with detections := d.backend.metrics.detections + 1 } },
        d.ledger, { d.task with
          phase := Task.afterDetection c d.task m (x.draw d.draws).now (x.heard c m) },
        d.draws + 1, d.errands ++ [.detect m (x.heard c m)]⟩ := by
    simp only [move, h.phase_eq, Task.detected]
  rw [hmove]
  exact h.goes_on rfl rfl rfl rfl h.repository

/-- What a detection came to is to be recorded, or it is a setback. -/
theorem At.detected (h : At broker l raw d (.detecting m) errands r) :
    (∃ result, Finding m (x.heard c m) result ∧
      At broker l raw (d.move c x) (.storing m result)
        (errands ++ [.detect m (x.heard c m)]) r) ∨
    ∃ f, x.heard c m = .error f ∧ f.isRetryable = true ∧
      At broker l raw (d.move c x) (sequel c raw m (.detection f))
        (errands ++ [.detect m (.error f)]) r := by
  have hheard := h.heard (x := x) (c := c)
  cases hanswer : x.heard c m with
  | ok ps =>
    rw [hanswer] at hheard
    exact Or.inl ⟨_, .found ps _, hheard⟩
  | error f =>
    rw [hanswer] at hheard
    cases hretryable : f.isRetryable with
    | true =>
      rw [Task.afterDetection, if_pos hretryable, h.afterSetback_eq] at hheard
      exact Or.inr ⟨f, rfl, hretryable, hheard⟩
    | false =>
      rw [Task.afterDetection, if_neg (Bool.eq_false_iff.mp hretryable)] at hheard
      exact Or.inl ⟨_, .rejected _ hretryable, hheard⟩

theorem At.recorded (h : At broker l raw d (.storing m result) errands r)
    (hcall : r.upsert result (x.draw d.draws).ids (x.draw d.draws).now = (r', .ok ())) :
    At broker l raw (d.move c x)
      (Task.firstTry c .ack (Task.recorded result) (Task.recorded result))
      (errands ++ [.record result (.ok ())]) r' := by
  rw [← h.repository] at hcall
  have hmove : d.move c x =
      ⟨{ d.backend with repository := r' }, d.ledger, { d.task with
          phase := Task.firstTry c .ack (Task.recorded result) (Task.recorded result) },
        d.draws + 1, d.errands ++ [.record result (.ok ())]⟩ := by
    simp only [move, h.phase_eq, Task.step, errand, hcall]
  rw [hmove]
  exact h.goes_on rfl rfl rfl rfl rfl

theorem At.unrecorded (h : At broker l raw d (.storing m result) errands r)
    {f : Repository.Fault}
    (hcall : r.upsert result (x.draw d.draws).ids (x.draw d.draws).now = (r', .error f)) :
    At broker l raw (d.move c x) (sequel c raw m (.repository f))
      (errands ++ [.record result (.error f)]) r' := by
  rw [← h.repository] at hcall
  rw [← h.afterSetback_eq]
  have hmove : d.move c x =
      ⟨{ d.backend with repository := r' }, d.ledger, { d.task with
          phase := Task.afterSetback c d.task m (.repository f) },
        d.draws + 1, d.errands ++ [.record result (.error f)]⟩ := by
    simp only [move, h.phase_eq, Task.step, errand, hcall]
  rw [hmove]
  exact h.goes_on rfl rfl rfl rfl rfl

theorem At.paused (h : At broker l raw d (.pausing reason) errands r) :
    At broker l raw (d.move c x) (Task.firstTry c (.requeue reason) .requeued .unsettled)
      (errands ++ []) r := by
  have hmove : d.move c x =
      { d with task := { d.task with
          phase := Task.firstTry c (.requeue reason) .requeued .unsettled } } := by
    simp only [move, h.phase_eq, Task.resume]
  rw [hmove]
  exact h.goes_on rfl rfl rfl (List.append_nil _).symm h.repository

theorem At.closed (h : At broker l raw d (.closing m reason) errands r)
    {answer : Except Repository.Fault Bool}
    (hcall : r.markFailed m.jobId m.imageUrl (d.task.exhausted reason) (x.draw d.draws).now =
      (r', answer)) :
    At broker l raw (d.move c x)
      (Task.firstTry c (.deadLetter reason) .deadLettered .unsettled)
      (errands ++ [.close m answer]) r' := by
  rw [← h.repository] at hcall
  have hmove : d.move c x =
      ⟨{ d.backend with repository := r' }, d.ledger, { d.task with
          phase := Task.firstTry c (.deadLetter reason) .deadLettered .unsettled },
        d.draws + 1, d.errands ++ [.close m answer]⟩ := by
    simp only [move, h.phase_eq, Task.step, errand, hcall]
  rw [hmove]
  exact h.goes_on rfl rfl rfl rfl rfl

/-- After at most so many moves the delivery is to be settled, having taken a course. -/
def Arrives (c : Config) (x : Outside) (broker : Queue.Broker) (l : Ledger) (raw : String)
    (r : Repository) (k : Nat) (d : Bench) : Prop :=
  ∃ n errands r' settlement settled held, n ≤ k ∧
    At broker l raw ((move c x)^[n] d) (Task.firstTry c settlement settled held) errands r' ∧
    Course x c r raw errands r' settlement settled held

theorem Arrives.of_at (h : At broker l raw d (Task.firstTry c settlement settled held) errands r')
    (hcourse : Course x c r raw errands r' settlement settled held) (k : Nat) :
    Arrives c x broker l raw r k d :=
  ⟨0, errands, r', settlement, settled, held, Nat.zero_le k, h, hcourse⟩

theorem Arrives.of_move (h : Arrives c x broker l raw r k (d.move c x)) :
    Arrives c x broker l raw r (k + 1) d := by
  obtain ⟨n, errands, r', settlement, settled, held, hn, hat, hcourse⟩ := h
  exact ⟨n + 1, errands, r', settlement, settled, held, Nat.succ_le_succ hn, hat, hcourse⟩

/-- After a setback there is another attempt, or the job is closed. -/
theorem arrives_of_setback (hbody : Message.decode (Queue.bodyOf raw) = .ok m)
    (hat : At broker l raw d (sequel c raw m setback) errands r')
    (hsetback : SetBack x c r m setback errands r') : Arrives c x broker l raw r 1 d := by
  rw [sequel] at hat
  by_cases hroom : Queue.attemptsOf raw + 1 < c.maxAttempts
  · rw [if_pos hroom] at hat
    have hpaused := hat.paused (x := x) (c := c)
    rw [List.append_nil] at hpaused
    exact .of_move (.of_at hpaused (.again hbody hsetback hroom) 0)
  · rw [if_neg hroom] at hat
    have hreason : d.task.exhausted setback.message = "retries exhausted after " ++
        toString (Queue.attemptsOf raw + 1) ++ " attempts: " ++ setback.message := by
      unfold Task.exhausted
      rw [hat.attempt]
    cases hcall : r'.markFailed m.jobId m.imageUrl (d.task.exhausted setback.message)
        (x.draw d.draws).now with
    | mk r'' answer =>
      have hclosed := hat.closed (c := c) hcall
      have hcourse := Course.noMore hbody hsetback hroom hreason hcall
      exact .of_move (.of_at hclosed hcourse 0)

theorem arrives_of_storing (hbody : Message.decode (Queue.bodyOf raw) = .ok m)
    (hat : At broker l raw d (.storing m result) [.detect m (x.heard c m)] r)
    (hfinding : Finding m (x.heard c m) result) : Arrives c x broker l raw r 2 d := by
  cases hcall : r.upsert result (x.draw d.draws).ids (x.draw d.draws).now with
  | mk r' answer =>
    cases answer with
    | ok _ =>
      have hrecorded := hat.recorded (c := c) hcall
      rw [List.singleton_append] at hrecorded
      exact .of_move (.of_at hrecorded (.recorded hbody hfinding hcall) 1)
    | error f =>
      have hunrecorded := hat.unrecorded (c := c) hcall
      rw [List.singleton_append] at hunrecorded
      exact .of_move (arrives_of_setback hbody hunrecorded (.repository hfinding hcall))

theorem Arrives.mono (h : Arrives c x broker l raw r k d) (hk : k ≤ n) :
    Arrives c x broker l raw r n d := by
  obtain ⟨j, errands, r', settlement, settled, held, hj, hat, hcourse⟩ := h
  exact ⟨j, errands, r', settlement, settled, held, Nat.le_trans hj hk, hat, hcourse⟩

/-- **Every delivery comes to its settlement on one of the courses.** -/
theorem arrives (b : Backend) (l : Ledger) (raw : String) :
    Arrives c x b.broker l raw b.repository 4 (start b l raw) := by
  have hstart : At b.broker l raw (start b l raw) .received [] b.repository :=
    ⟨rfl, rfl, rfl, rfl, rfl⟩
  cases hbody : Message.decode (Queue.bodyOf raw) with
  | error fault => exact .of_move (.of_at (hstart.unreadable hbody) (.unreadable hbody) 3)
  | ok m =>
    refine .of_move (.of_move ?_)
    rcases (hstart.readable hbody).detected (x := x) (c := c) with
      ⟨result, hfinding, hat⟩ | ⟨f, hheard, hretryable, hat⟩
    · exact arrives_of_storing hbody hat hfinding
    · exact (arrives_of_setback hbody hat (.detection hheard hretryable)).mono (by omega)

/-- **The work on a delivery takes a course to its settlement and settles it**, with the tries
    or the faults as a bound on how long that takes. -/
theorem handled (c : Config) (x : Outside) (b : Backend) (l : Ledger) (raw : String)
    (hk : tries c ≤ k + 1 ∨ b.broker.settleFaults ≤ k) (hn : 2 * k + 5 ≤ n) :
    ∃ errands r' settlement settled held d o, Course x c b.repository raw errands r' settlement
        settled held ∧
      At b.broker l raw d (Task.firstTry c settlement settled held) errands r' ∧
      Settled x d ⟨settlement, tries c, c.settleBackoff, settled, held⟩
        ((move c x)^[n] (start b l raw)) o := by
  obtain ⟨j, errands, r', settlement, settled, held, hj, hat, hcourse⟩ :=
    arrives (c := c) (x := x) b l raw
  have htries : 0 < tries c := Nat.lt_of_lt_of_le Nat.zero_lt_one (Nat.le_max_right _ _)
  obtain ⟨o, hsettled⟩ := settles (c := c) (x := x) k hat.phase_eq htries
    (by rw [hat.broker]; exact hk)
  refine ⟨errands, r', settlement, settled, held, _, o, hcourse, hat, ?_⟩
  -- what is left of the moves changes nothing
  rw [show n = (n - (2 * k + 1) - j) + (2 * k + 1) + j by omega, Function.iterate_add_apply,
    Function.iterate_add_apply, iterate_of_finished hsettled.phase]
  exact hsettled

theorem tries_le (c : Config) : tries c ≤ tries c - 1 + 1 := by omega

theorem enough_eq (c : Config) : enough c = 2 * (tries c - 1) + 5 := by
  have htries : 1 ≤ tries c := Nat.le_max_right _ _
  rw [enough]
  omega

/-- As many moves as faults may ask for lead to the same end. -/
theorem iterate_eq_handle (hn : 2 * b.broker.settleFaults + 5 ≤ n) :
    (move c x)^[n] (start b l raw) = handle c x b l raw := by
  obtain ⟨_, _, _, _, _, _, o, _, _, hend⟩ := handled c x b l raw (Or.inr (Nat.le_refl _)) hn
  obtain ⟨_, _, _, _, _, _, o', _, _, hend'⟩ :=
    handled c x b l raw (Or.inl (tries_le c)) (Nat.le_of_eq (enough_eq c).symm)
  rcases Nat.le_total n (enough c) with hle | hle
  · exact (iterate_eq_of_finished hend.phase hle).symm
  · exact iterate_eq_of_finished hend'.phase hle

end Way

end Bench

end DetectionJobs.Worker
