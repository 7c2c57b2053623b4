/-
  DetectionJobs/Proofs/Fleet/Moves.lean
  =====================================
  **What a move of a worker can do.**

  Each move of a loop is one of four turns, and each move of a task one of twelve deeds.
  A turn or a deed says everything that a later argument may have to know of the move: what
  became of the lists of the queue and of the stored jobs, what the loop or the task is at
  afterwards, and what the trace tells of it.
-/
import DetectionJobs.Proofs.Fleet.Basic
import DetectionJobs.Proofs.Worker.Moves

namespace DetectionJobs

/-! ### Turns of the loop -/

namespace Worker.Shift

/-- What a move of the loop does. -/
inductive Turn (b : Queue.Broker) (s : Shift) : Queue.Broker → Shift → Prop where
  /-- Nothing that concerns the entries or the tasks.  The loop is about to put back what
      is held only if no task runs. -/
  | quiet {b' : Queue.Broker} {s' : Shift} (hlists : b.Same b') (htasks : s'.tasks = s.tasks)
      (hstarted : s'.started = s.started) (hstarting : s'.stage ≠ .starting)
      (hrecovering : s'.stage = .recovering → s.tasks = []) : Turn b s b' s'
  /-- What is held is put back. -/
  | recovered {s' : Shift} (hstage : s.stage = .starting ∨ s.stage = .recovering)
      (htasks : s'.tasks = s.tasks) (hstarted : s'.started = s.started)
      (hstarting : s'.stage ≠ .starting) (hrecovering : s'.stage ≠ .recovering) :
      Turn b s b.recover.2 s'
  | handed {raw : String} {rest : List String} (hready : b.ready = raw :: rest) :
      Turn b s { b with ready := rest, inFlight := b.inFlight ++ [raw] } (s.spawn raw)
  /-- The loop ends and abandons its tasks. -/
  | abandoned :
      Turn b s b { s with tasks := [], places := s.places + s.tasks.length, stage := .done }

/-- Going to a stage where nothing is put back is a quiet turn. -/
theorem Turn.quiet_of_stage {b b' : Queue.Broker} {s s' : Shift} (hlists : b.Same b')
    (htasks : s'.tasks = s.tasks) (hstarted : s'.started = s.started)
    (hstage : s'.stage ≠ .starting ∧ s'.stage ≠ .recovering) : Turn b s b' s' :=
  .quiet hlists htasks hstarted hstage.1 fun h => absurd h hstage.2

/-- **Every move of the loop is a turn**, and a loop that is done makes none. -/
theorem turn_of_move {b b' : Queue.Broker} {s s' : Shift} {move : Move}
    (h : s.move? b move = some (b', s')) : s.stage ≠ .done ∧ Turn b s b' s' := by
  have hmoved := moved_of_move h
  refine ⟨hmoved.stage_ne_done, ?_⟩
  cases hmoved with
  | started hstage => exact .recovered (Or.inl hstage) rfl rfl nofun nofun
  | recovered hstage => exact .recovered (Or.inr hstage) rfl rfl nofun nofun
  | left =>
    obtain ⟨hlists, htasks, hstarted, hstage⟩ := quit_same b s
    refine .quiet_of_stage hlists htasks hstarted ?_
    rw [hstage]
    exact ⟨nofun, nofun⟩
  | joined _ hidle => exact .quiet (.refl b) rfl rfl nofun fun _ => hidle
  | handed _ hready => exact .handed hready
  | abandoned => exact .abandoned
  | listened | resumed | expired => exact .quiet_of_stage (.bell b _) rfl rfl ⟨nofun, nofun⟩
  | startFailed | recoveryFailed | noticed | began | paused | rested | acquired | asked | refused
  | foundNothing | finished => exact .quiet_of_stage (.refl b) rfl rfl ⟨nofun, nofun⟩

end Worker.Shift

/-! ### Deeds of the tasks -/

namespace Fleet

open Worker

/-- What a move of a task does to what the fleet shares and to the phase of the task, which
    may be gone afterwards, and what the trace tells of it. -/
inductive Deed (c : Config) (supply : Supply) (who : Badge) (b : Backend) (t : Task) :
    Backend → Option Phase → List Event → Prop where
  | unreadable {fault : Queue.Fault} (hphase : t.phase = .received)
      (hbody : Message.decode t.delivery.body = .error fault) :
      Deed c supply who b t b (some (Task.firstTry c .ack .dropped .dropped)) []
  | readable {m : Message} (hphase : t.phase = .received)
      (hbody : Message.decode t.delivery.body = .ok m) :
      Deed c supply who b t b (some (.detecting m)) []
  | heard {m : Message} {answer : Except Detection.Fault (List Prediction)} (metrics : Metrics)
      (hphase : t.phase = .detecting m) :
      Deed c supply who b t { b with metrics := metrics }
        (some (Task.afterDetection c t m supply.now answer)) [.detected who m answer]
  | died {m : Message} (hphase : t.phase = .detecting m) : Deed c supply who b t b none []
  | recorded {m : Message} {result : JobResult} {r : Repository}
      (hphase : t.phase = .storing m result)
      (hcall : b.repository.upsert result supply.ids supply.now = (r, .ok ())) :
      Deed c supply who b t { b with repository := r }
        (some (Task.firstTry c .ack (Task.recorded result) (Task.recorded result)))
        [.recorded who result]
  | unrecorded {m : Message} {result : JobResult} {r : Repository} {fault : Repository.Fault}
      (hphase : t.phase = .storing m result)
      (hcall : b.repository.upsert result supply.ids supply.now = (r, .error fault)) :
      Deed c supply who b t { b with repository := r }
        (some (Task.afterSetback c t m (.repository fault))) []
  | closed {m : Message} {reason : String} {r : Repository} {answer : Except Repository.Fault Bool}
      (hphase : t.phase = .closing m reason)
      (hcall : b.repository.markFailed m.jobId m.imageUrl (t.exhausted reason) supply.now =
        (r, answer)) :
      Deed c supply who b t { b with repository := r }
        (some (Task.firstTry c (.deadLetter reason) .deadLettered .unsettled))
        [.closed who m.jobId answer]
  | settled {s : Settling} (metrics : Metrics) (hphase : t.phase = .settling s) :
      Deed c supply who b t
        { b with broker := b.broker.settle t.delivery supply.now s.settlement, metrics := metrics }
        none (settleReport b.broker who t.delivery supply.now s.settlement)
  | unsettled {s : Settling} {next : Option Phase} (faults : Nat) (metrics : Metrics)
      (hphase : t.phase = .settling s)
      (hnext : next = none ∨ next = some (.backingOff s.next s.backoff)) :
      Deed c supply who b t
        { b with broker := { b.broker with settleFaults := faults }, metrics := metrics } next []
  | paused {reason : String} (hphase : t.phase = .pausing reason) :
      Deed c supply who b t b (some (Task.firstTry c (.requeue reason) .requeued .unsettled)) []
  | backedOff {s : Settling} {pause : Span} (hphase : t.phase = .backingOff s pause) :
      Deed c supply who b t b (some (.settling s)) []
  | ended (metrics : Metrics) : Deed c supply who b t { b with metrics := metrics } none []

/-- The tasks after one of them went on or came to its end. -/
def advance (tasks : List (Nat × Task)) (n : Nat) (t : Task) : Option Phase → List (Nat × Task)
  | some phase => tasks.map fun e => if e.1 = n then (n, { t with phase := phase }) else e
  | none => tasks.filter (·.1 ≠ n)

theorem mem_advance {tasks : List (Nat × Task)} {n : Nat} {t : Task} {next : Option Phase}
    {e : Nat × Task} (h : e ∈ advance tasks n t next) :
    e ∈ tasks ∨ ∃ phase, next = some phase ∧ e = (n, { t with phase := phase }) := by
  cases next with
  | none => exact Or.inl (List.mem_filter.mp h).1
  | some phase =>
    obtain ⟨e', he', heq⟩ := List.mem_map.mp h
    split at heq
    · exact Or.inr ⟨phase, rfl, heq.symm⟩
    · exact Or.inl (heq ▸ he')

/-- What is left of a shift after a deed of one of its tasks. -/
structure Follows (s s' : Shift) (n : Nat) (t : Task) (next : Option Phase) : Prop where
  tasks : s'.tasks = advance s.tasks n t next
  stage : s'.stage = s.stage
  started : s'.started = s.started

/-- The phase of a task that goes on. -/
def going? : Phase → Option Phase
  | .finished _ => none
  | phase => some phase

theorem going?_afterSetback (c : Config) (t : Task) (m : Message) (s : Setback) :
    going? (Task.afterSetback c t m s) = some (Task.afterSetback c t m s) := by
  unfold Task.afterSetback
  split
  · rfl
  · rfl

theorem going?_afterDetection (c : Config) (t : Task) (m : Message) (now : Instant)
    (answer : Except Detection.Fault (List Prediction)) :
    going? (Task.afterDetection c t m now answer) =
      some (Task.afterDetection c t m now answer) := by
  unfold Task.afterDetection
  split
  · rfl
  · split
    · exact going?_afterSetback ..
    · rfl

/-- A task that is put back is at its new phase, or gone if it is done. -/
theorem follows_putTask (s : Shift) (l : Ledger) (n : Nat) (t : Task) (phase : Phase) :
    Follows s (({ s with ledger := l } : Shift).putTask n { t with phase := phase }) n t
      (going? phase) := by
  unfold Shift.putTask Task.outcome?
  cases phase <;> exact ⟨rfl, rfl, rfl⟩

/-- A move of a task that stays alive is a deed. -/
theorem deed_of_moved {c : Config} {supply : Supply} {b b' : Backend} {l l' : Ledger} {t : Task}
    {move : Shift.TaskMove} {phase : Phase} (who : Badge)
    (h : t.Moved c supply b l move b' l' phase) :
    Deed c supply who b t b' (going? phase) (taskReport supply b who t move) := by
  cases h with
  | unreadable hphase hbody =>
    simp only [taskReport, hphase]
    exact .unreadable hphase hbody
  | readable hphase hbody =>
    simp only [taskReport, hphase]
    exact .readable hphase hbody
  | heard hphase =>
    simp only [taskReport, hphase]
    rw [going?_afterDetection]
    exact .heard _ hphase
  | recorded hphase hcall =>
    simp only [taskReport, hphase, hcall]
    exact .recorded hphase hcall
  | unrecorded hphase hcall =>
    simp only [taskReport, hphase, hcall]
    rw [going?_afterSetback]
    exact .unrecorded hphase hcall
  | closed hphase hcall =>
    simp only [taskReport, hphase, hcall]
    exact .closed hphase hcall
  | @settled s hphase hfaults =>
    have hcall := Queue.Broker.trySettle_of_noFault hfaults t.delivery supply.now s.settlement
    simp only [taskReport, hphase, hcall]
    exact .settled _ hphase
  | @failed s n hphase hfaults =>
    have hcall := Queue.Broker.trySettle_of_fault hfaults t.delivery supply.now s.settlement
    simp only [taskReport, hphase, hcall]
    exact .unsettled n b.metrics hphase (Or.inr rfl)
  | @gaveUp s n hphase hfaults =>
    have hcall := Queue.Broker.trySettle_of_fault hfaults t.delivery supply.now s.settlement
    simp only [taskReport, hphase, hcall]
    exact .unsettled n _ hphase (Or.inl rfl)
  | paused hphase => exact .paused hphase
  | backedOff hphase => exact .backedOff hphase
  | ended hphase =>
    simp only [taskReport, hphase]
    exact .ended b.metrics

/-- **Every move of a task is a deed.** -/
theorem deed_of_move {c : Config} {supply : Supply} {b b' : Backend} {s s' : Shift} {n : Nat}
    {move : Shift.TaskMove} (who : Badge)
    (h : s.taskMove? c supply b n move = some (b', s')) :
    ∃ t next, s.task? n = some t ∧ Follows s s' n t next ∧
      Deed c supply who b t b' next (taskReport supply b who t move) := by
  obtain ⟨t, ht, hmoved⟩ := Shift.taskMoved_of_move h
  cases hmoved with
  | @went _ _ l phase hmoved =>
    exact ⟨t, going? phase, ht, follows_putTask s l n t phase, deed_of_moved who hmoved⟩
  | died hphase => exact ⟨t, none, ht, ⟨rfl, rfl, rfl⟩, .died hphase⟩

end Fleet

end DetectionJobs
