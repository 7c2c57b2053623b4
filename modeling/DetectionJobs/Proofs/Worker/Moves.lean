/-
  DetectionJobs/Proofs/Worker/Moves.lean
  ======================================
  **What a move of a worker needs, and what comes of it.**

  The cases are those of the moves themselves: each one says what has to hold before a move
  of the loop or of a task, and what the queue, the stored jobs and the worker are after it.
  An argument about moves goes through these cases and never opens the moves again.
-/
import DetectionJobs.Proofs.Queue.Lists
import DetectionJobs.Worker.Shift

namespace DetectionJobs.Worker

/-! ### Moves of the loop -/

namespace Shift

variable {b b' : Queue.Broker} {s s' : Shift} {move : Move}

/-- Leaving the rounds concerns neither the entries nor the tasks. -/
theorem quit_same (b : Queue.Broker) (s : Shift) :
    b.Same (s.quit b).1 ∧ (s.quit b).2.tasks = s.tasks ∧ (s.quit b).2.started = s.started ∧
      (s.quit b).2.stage = .draining := by
  unfold quit
  split
  · exact ⟨.bell b _, rfl, rfl, rfl⟩
  · exact ⟨.refl b, rfl, rfl, rfl⟩
  · exact ⟨.refl b, rfl, rfl, rfl⟩
  · exact ⟨.refl b, rfl, rfl, rfl⟩

theorem quit_ledger (b : Queue.Broker) (s : Shift) : (s.quit b).2.ledger = s.ledger := by
  unfold quit
  split
  · rfl
  · rfl
  · rfl
  · rfl

theorem quit_isStopped (b : Queue.Broker) (s : Shift) : (s.quit b).2.isStopped = s.isStopped := by
  unfold quit
  split
  · rfl
  · rfl
  · rfl
  · rfl

/-- What a move of the loop makes of the queue and of the worker. -/
inductive Moved (b : Queue.Broker) (s : Shift) : Move → Queue.Broker → Shift → Prop where
  | started (hstage : s.stage = .starting) : Moved b s (.recover false) b.recover.2 (s.goto .round)
  | startFailed (hstage : s.stage = .starting) :
      Moved b s (.recover true) b ((s.needRecovery true).goto .round)
  | recovered (hstage : s.stage = .recovering) :
      Moved b s (.recover false) b.recover.2 (s.goto .acquiring)
  | recoveryFailed (hstage : s.stage = .recovering) :
      Moved b s (.recover true) b ((s.needRecovery true).goto .pausing)
  /-- There is notice of a delivery that could not be settled. -/
  | noticed (hstage : s.stage = .round) (hnotice : s.ledger.needsRecovery = true) :
      Moved b s .begin b ((s.needRecovery false).goto .joining)
  | began (hstage : s.stage = .round) (hcalm : s.ledger.needsRecovery = false) :
      Moved b s .begin b (s.goto .acquiring)
  | left (hstopped : s.isStopped = true) (hnotices : s.stage.noticesStop = true) :
      Moved b s .leave (s.quit b).1 (s.quit b).2
  | joined (hstage : s.stage = .joining) (hidle : s.tasks = []) :
      Moved b s .join b (s.goto .recovering)
  | paused (hstage : s.stage = .pausing) : Moved b s .wake b (s.goto .round)
  | rested (hstage : s.stage = .resting) : Moved b s .wake b (s.freePlace.goto .round)
  | acquired (hstage : s.stage = .acquiring) (hfree : 0 < s.places) :
      Moved b s .acquire b { s with places := s.places - 1, stage := .asking }
  | asked {r : Queue.Receiver} (hstage : s.stage = .asking)
      (hbegin : Queue.Receiver.begin b = .ok r) : Moved b s .ask b (s.goto (.receiving r))
  | refused {fault : Queue.Fault} (hstage : s.stage = .asking)
      (hbegin : Queue.Receiver.begin b = .error fault) : Moved b s .ask b (s.goto .resting)
  | handed {raw : String} {rest : List String} (hstage : s.stage = .receiving .looking)
      (hready : b.ready = raw :: rest) :
      Moved b s .look { b with ready := rest, inFlight := b.inFlight ++ [raw] } (s.spawn raw)
  | foundNothing (hstage : s.stage = .receiving .looking) (hready : b.ready = []) :
      Moved b s .look b (s.goto (.receiving .listening))
  | listened (hstage : s.stage = .receiving .listening) :
      Moved b s .listen (Queue.Receiver.listen s.number b).1
        (s.goto (.receiving (Queue.Receiver.listen s.number b).2))
  | resumed (hstage : s.stage = .receiving .waiting)
      (hwoken : Queue.Receiver.isWoken s.number b = true) :
      Moved b s .resume (Queue.Receiver.resume s.number b).1
        (s.goto (.receiving (Queue.Receiver.resume s.number b).2))
  | expired (hstage : s.stage = .receiving .waiting)
      (hunwoken : ¬ Queue.Receiver.isWoken s.number b = true) :
      Moved b s .expire (Queue.Receiver.leave s.number b) (s.freePlace.goto .round)
  | finished (hstage : s.stage = .draining) (hidle : s.tasks = []) :
      Moved b s .finish b (s.goto .done)
  | abandoned (hstage : s.stage = .draining) :
      Moved b s .abandon b
        { s with tasks := [], places := s.places + s.tasks.length, stage := .done }

theorem moved_of_recover {fails : Bool} (h : s.move? b (.recover fails) = some (b', s')) :
    Moved b s (.recover fails) b' s' := by
  rw [move?] at h
  split at h
  · next hstage =>
    cases fails with
    | false =>
      cases h
      exact .started hstage
    | true =>
      cases h
      exact .startFailed hstage
  · next hstage =>
    cases fails with
    | false =>
      cases h
      exact .recovered hstage
    | true =>
      cases h
      exact .recoveryFailed hstage
  · cases h

theorem moved_of_begin (h : s.move? b .begin = some (b', s')) : Moved b s .begin b' s' := by
  rw [move?, Option.ite_none_right_eq_some] at h
  obtain ⟨hstage, h⟩ := h
  cases hnotice : s.ledger.needsRecovery with
  | true =>
    rw [hnotice] at h
    cases h
    exact .noticed hstage hnotice
  | false =>
    rw [hnotice] at h
    cases h
    exact .began hstage hnotice

theorem moved_of_ask (h : s.move? b .ask = some (b', s')) : Moved b s .ask b' s' := by
  rw [move?, Option.ite_none_right_eq_some] at h
  obtain ⟨hstage, h⟩ := h
  cases hbegin : Queue.Receiver.begin b with
  | ok r =>
    rw [hbegin] at h
    cases h
    exact .asked hstage hbegin
  | error fault =>
    rw [hbegin] at h
    cases h
    exact .refused hstage hbegin

theorem moved_of_look (h : s.move? b .look = some (b', s')) : Moved b s .look b' s' := by
  rw [move?, Option.ite_none_right_eq_some] at h
  obtain ⟨hstage, h⟩ := h
  rw [Queue.Receiver.look, Queue.Broker.takeNext] at h
  cases hready : b.ready with
  | nil =>
    rw [hready] at h
    cases h
    exact .foundNothing hstage hready
  | cons raw rest =>
    rw [hready] at h
    cases h
    exact .handed hstage hready

/-- **What a move of the loop can do.** -/
theorem moved_of_move (h : s.move? b move = some (b', s')) : Moved b s move b' s' := by
  cases move with
  | recover fails => exact moved_of_recover h
  | begin => exact moved_of_begin h
  | ask => exact moved_of_ask h
  | look => exact moved_of_look h
  | leave =>
    rw [move?, Option.ite_none_right_eq_some] at h
    obtain ⟨⟨hstopped, hnotices⟩, h⟩ := h
    obtain ⟨rfl, rfl⟩ := Prod.mk.inj (Option.some.inj h)
    exact .left hstopped hnotices
  | join =>
    rw [move?, Option.ite_none_right_eq_some] at h
    obtain ⟨⟨hstage, hidle⟩, h⟩ := h
    cases h
    exact .joined hstage hidle
  | wake =>
    rw [move?] at h
    split at h
    · next hstage =>
      cases h
      exact .paused hstage
    · next hstage =>
      cases h
      exact .rested hstage
    · cases h
  | acquire =>
    rw [move?, Option.ite_none_right_eq_some] at h
    obtain ⟨⟨hstage, hfree⟩, h⟩ := h
    cases h
    exact .acquired hstage hfree
  | listen =>
    rw [move?, Option.ite_none_right_eq_some] at h
    obtain ⟨hstage, h⟩ := h
    cases h
    exact .listened hstage
  | resume =>
    rw [move?, Option.ite_none_right_eq_some] at h
    obtain ⟨⟨hstage, hwoken⟩, h⟩ := h
    cases h
    exact .resumed hstage hwoken
  | expire =>
    rw [move?, Option.ite_none_right_eq_some] at h
    obtain ⟨⟨hstage, hunwoken⟩, h⟩ := h
    cases h
    exact .expired hstage hunwoken
  | finish =>
    rw [move?, Option.ite_none_right_eq_some] at h
    obtain ⟨⟨hstage, hidle⟩, h⟩ := h
    cases h
    exact .finished hstage hidle
  | abandon =>
    rw [move?, Option.ite_none_right_eq_some] at h
    obtain ⟨hstage, h⟩ := h
    cases h
    exact .abandoned hstage

/-- A loop that is done makes no move. -/
theorem Moved.stage_ne_done (h : Moved b s move b' s') : s.stage ≠ .done := by
  intro hdone
  cases h with
  | left _ hnotices =>
    rw [hdone] at hnotices
    cases hnotices
  | _ => simp_all

end Shift

/-! ### Moves of a task -/

namespace Task

/-- What a move of a task makes of the backend, of the ledger and of its own phase, if it stays
    alive. -/
inductive Moved (c : Config) (supply : Supply) (b : Backend) (l : Ledger) (t : Task) :
    Shift.TaskMove → Backend → Ledger → Phase → Prop where
  | unreadable {fault : Queue.Fault} (hphase : t.phase = .received)
      (hbody : Message.decode t.delivery.body = .error fault) :
      Moved c supply b l t .work b l (firstTry c .ack .dropped .dropped)
  | readable {m : Message} (hphase : t.phase = .received)
      (hbody : Message.decode t.delivery.body = .ok m) :
      Moved c supply b l t .work b l (.detecting m)
  | heard {m : Message} {answer : Except Detection.Fault (List Prediction)}
      (hphase : t.phase = .detecting m) :
      Moved c supply b l t (.hear answer)
        { b with metrics := { b.metrics with detections := b.metrics.detections + 1 } } l
        (afterDetection c t m supply.now answer)
  | recorded {m : Message} {result : JobResult} {r : Repository}
      (hphase : t.phase = .storing m result)
      (hcall : b.repository.upsert result supply.ids supply.now = (r, .ok ())) :
      Moved c supply b l t .work { b with repository := r } l
        (firstTry c .ack (Task.recorded result) (Task.recorded result))
  | unrecorded {m : Message} {result : JobResult} {r : Repository} {fault : Repository.Fault}
      (hphase : t.phase = .storing m result)
      (hcall : b.repository.upsert result supply.ids supply.now = (r, .error fault)) :
      Moved c supply b l t .work { b with repository := r } l
        (afterSetback c t m (.repository fault))
  | closed {m : Message} {reason : String} {r : Repository}
      {answer : Except Repository.Fault Bool} (hphase : t.phase = .closing m reason)
      (hcall : b.repository.markFailed m.jobId m.imageUrl (t.exhausted reason) supply.now =
        (r, answer)) :
      Moved c supply b l t .work { b with repository := r } l
        (firstTry c (.deadLetter reason) .deadLettered .unsettled)
  | settled {s : Settling} (hphase : t.phase = .settling s) (hfaults : b.broker.settleFaults = 0) :
      Moved c supply b l t .work
        { b with
          broker := b.broker.settle t.delivery supply.now s.settlement
          metrics := { b.metrics with outcomes := b.metrics.outcomes.add s.settled } }
        { l with stats := l.stats.add s.settled } (.finished s.settled)
  /-- A try failed that was not the last one. -/
  | failed {s : Settling} {n : Nat} (hphase : t.phase = .settling s)
      (hfaults : b.broker.settleFaults = n + 1) (htries : 1 < s.tries) :
      Moved c supply b l t .work { b with broker := { b.broker with settleFaults := n } } l
        (.backingOff s.next s.backoff)
  | gaveUp {s : Settling} {n : Nat} (hphase : t.phase = .settling s)
      (hfaults : b.broker.settleFaults = n + 1) (htries : ¬ 1 < s.tries) :
      Moved c supply b l t .work
        { b with
          broker := { b.broker with settleFaults := n }
          metrics := { b.metrics with outcomes := b.metrics.outcomes.add s.held } }
        { l with stats := l.stats.add s.held, needsRecovery := true } (.finished s.held)
  | paused {reason : String} (hphase : t.phase = .pausing reason) :
      Moved c supply b l t .wake b l (firstTry c (.requeue reason) .requeued .unsettled)
  | backedOff {s : Settling} {pause : Span} (hphase : t.phase = .backingOff s pause) :
      Moved c supply b l t .wake b l (.settling s)
  | ended {o : Outcome} (hphase : t.phase = .finished o) :
      Moved c supply b l t .work b l (.finished o)

/-- A step of a task that does not wait is one of these. -/
theorem moved_of_step (c : Config) (supply : Supply) (b : Backend) (l : Ledger) {t : Task}
    (hwaiting : t.isWaiting = false) :
    ∃ b' l' phase, t.step c supply b l = (b', l', { t with phase := phase }) ∧
      t.Moved c supply b l .work b' l' phase := by
  obtain ⟨d, phase⟩ := t
  cases phase with
  | received =>
    cases hbody : Message.decode d.body with
    | error fault => exact ⟨_, _, _, by simp only [step, hbody], .unreadable rfl hbody⟩
    | ok m => exact ⟨_, _, _, by simp only [step, hbody], .readable rfl hbody⟩
  | detecting m => cases hwaiting
  | storing m result =>
    cases hcall : b.repository.upsert result supply.ids supply.now with
    | mk r answer =>
      cases answer with
      | ok _ => exact ⟨_, _, _, by simp only [step, hcall], .recorded rfl hcall⟩
      | error fault => exact ⟨_, _, _, by simp only [step, hcall], .unrecorded rfl hcall⟩
  | pausing reason => cases hwaiting
  | closing m reason => exact ⟨_, _, _, rfl, .closed rfl rfl⟩
  | settling s =>
    cases hfaults : b.broker.settleFaults with
    | zero =>
      have hcall := Queue.Broker.trySettle_of_noFault hfaults d supply.now s.settlement
      exact ⟨_, _, _, by simp only [step, hcall, finish], .settled rfl hfaults⟩
    | succ n =>
      have hcall := Queue.Broker.trySettle_of_fault hfaults d supply.now s.settlement
      by_cases htries : 1 < s.tries
      · exact ⟨_, _, _, by simp only [step, hcall, if_pos htries], .failed rfl hfaults htries⟩
      · exact ⟨_, _, _, by simp only [step, hcall, if_neg htries, finish],
          .gaveUp rfl hfaults htries⟩
  | backingOff s pause => cases hwaiting
  | finished o => exact ⟨_, _, _, rfl, .ended rfl⟩

end Task

namespace Shift

theorem ledger_putTask (s : Shift) (n : Nat) (t : Task) : (s.putTask n t).ledger = s.ledger := by
  unfold putTask
  split
  · rfl
  · rfl

theorem isStopped_putTask (s : Shift) (n : Nat) (t : Task) :
    (s.putTask n t).isStopped = s.isStopped := by
  unfold putTask
  split
  · rfl
  · rfl

/-- What a move of one of its tasks makes of a worker. -/
inductive TaskMoved (c : Config) (supply : Supply) (b : Backend) (s : Shift) (n : Nat) (t : Task) :
    TaskMove → Backend → Shift → Prop where
  | went {move : TaskMove} {b' : Backend} {l : Ledger} {phase : Phase}
      (hmoved : t.Moved c supply b s.ledger move b' l phase) :
      TaskMoved c supply b s n t move b'
        (({ s with ledger := l } : Shift).putTask n { t with phase := phase })
  | died {m : Message} (hphase : t.phase = .detecting m) :
      TaskMoved c supply b s n t .die b
        { s with tasks := s.tasks.filter (·.1 ≠ n), places := s.places + 1 }

variable {c : Config} {supply : Supply} {b b' : Backend} {s s' : Shift} {n : Nat}
  {move : TaskMove}

/-- **What a move of a task can do.** -/
theorem taskMoved_of_move (h : s.taskMove? c supply b n move = some (b', s')) :
    ∃ t, s.task? n = some t ∧ TaskMoved c supply b s n t move b' s' := by
  unfold taskMove? at h
  obtain ⟨t, ht, h⟩ := Option.bind_eq_some_iff.mp h
  refine ⟨t, ht, ?_⟩
  cases move with
  | work =>
    by_cases hwaiting : t.isWaiting = true
    · simp [hwaiting] at h
    · obtain ⟨b₁, l, phase, hstep, hmoved⟩ :=
        Task.moved_of_step c supply b s.ledger (Bool.eq_false_iff.mpr hwaiting)
      simp only [if_neg hwaiting, hstep] at h
      cases h
      exact .went hmoved
  | hear answer =>
    cases hphase : t.phase with
    | detecting m =>
      simp only [hphase, Task.detected] at h
      cases h
      exact .went (.heard hphase)
    | _ => simp [hphase] at h
  | wake =>
    cases hphase : t.phase with
    | pausing reason =>
      simp only [Task.pause?, Task.resume, hphase] at h
      cases h
      exact .went (.paused hphase)
    | backingOff settling pause =>
      simp only [Task.pause?, Task.resume, hphase] at h
      cases h
      exact .went (.backedOff hphase)
    | _ => simp [Task.pause?, hphase] at h
  | die =>
    cases hphase : t.phase with
    | detecting m =>
      simp only [hphase] at h
      cases h
      exact .died hphase
    | _ => simp [hphase] at h

end Shift

end DetectionJobs.Worker
