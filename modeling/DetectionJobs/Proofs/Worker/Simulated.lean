/-
  DetectionJobs/Proofs/Worker/Simulated.lean
  ==========================================
  **The service on a virtual clock handles deliveries like this as well.**

  What is said of the work on a delivery, call by call, holds of a delivery that is handled in
  a simulated world: there the script of the detection service and the readings of the clock
  are what the work meets with.  A world runs the work with an amount of fuel, which is enough
  for whatever the work may take.
-/
import DetectionJobs.Proofs.Worker.Effects
import DetectionJobs.Simulation.World

namespace DetectionJobs.Simulation

open Worker

/-- What a step of the script is to whoever waits for an answer. -/
def Step.reply (s : Step) : Option (Nat × Except Detection.Fault (List Prediction)) :=
  match s.act with
  | .answer body => some (s.delay, Detection.predictionsOf body)
  | .fault f => some (s.delay, .error f)
  | .hang | .panic => none

namespace World

/-- What the work on a delivery meets with in a world. -/
def outside (w : World) : Outside where
  reply m := (w.detector.next m.imageUrl).1.reply
  draw i := supplyAt w.date (w.readings + i)

variable {w₀ w : World} {t : Task} {d : Bench} {m : Message} {o : Outcome} {n fuel : Nat}
  {raw : String}

/-! ### Detection calls -/

/-- The calls that were made before do not matter for the next step. -/
theorem next_calls (d : Detector) (calls : List Call) (url : String) :
    ({ d with calls := calls }.next url).1 = (d.next url).1 := by
  unfold Detector.next
  cases Detector.takePinned? url d.pinned with
  | some p => rfl
  | none => cases d.script <;> rfl

theorem outcome_eq {s : Step} {c : Config} (halive : s.act ≠ .panic) :
    (s.outcome c.detectionTimeout).2 = some (match s.reply with
      | some (delay, answer) =>
        if delay ≤ c.patience then answer else .error (.timeout c.detectionTimeout)
      | none => .error (.timeout c.detectionTimeout)) := by
  have hlimit : (c.detectionTimeout.nanos + 999999) / 1000000 = c.patience := rfl
  obtain ⟨delay, act⟩ := s
  simp only [Step.outcome, Step.reply, hlimit]
  by_cases hlate : c.patience < delay
  · rw [if_pos hlate]
    cases act with
    | panic => exact absurd rfl halive
    | hang => rfl
    | _ => simp only [if_neg (Nat.not_le.mpr hlate)]
  · rw [if_neg hlate]
    cases act with
    | panic => exact absurd rfl halive
    | hang => rfl
    | _ => simp only [if_pos (Nat.not_lt.mp hlate)]

/-- A caller that lives hears what the work on a delivery hears. -/
theorem callDetector_eq (halive : ∀ url, (w₀.detector.next url).1.act ≠ .panic)
    (hdetector : w.detector = w₀.detector) (hconfig : w.config = w₀.config) (m : Message) :
    (w.callDetector m).1.2 = some (w₀.outside.heard w₀.config m) := by
  have hstep : (w.detector.call ⟨w.clock, m.imageUrl, w.config.detectionTimeout.millis⟩).1 =
      (w₀.detector.next m.imageUrl).1 := by
    rw [hdetector]
    exact next_calls ..
  simp only [callDetector]
  rw [hconfig] at hstep ⊢
  rw [hstep, outcome_eq (halive m.imageUrl)]
  rfl

/-! ### Turns -/

/-- The task waits for no detection any more. -/
def IsPast (t : Task) : Prop := t.phase ≠ .received ∧ ∀ m, t.phase ≠ .detecting m

/-- The work in a world is the work at a bench, and the script is as it was until it is used. -/
structure Mirrors (w₀ w : World) (t : Task) (d : Bench) : Prop where
  backend : w.backend = d.backend
  ledger : w.ledger = d.ledger
  task : t = d.task
  config : w.config = w₀.config
  date : w.date = w₀.date
  readings : w.readings = w₀.readings + d.draws
  detector : w.detector = w₀.detector ∨ IsPast t

theorem past_afterSetback (c : Config) (t : Task) (m : Message) (s : Setback) :
    IsPast { t with phase := Task.afterSetback c t m s } := by
  unfold Task.afterSetback
  split
  · exact ⟨nofun, nofun⟩
  · exact ⟨nofun, nofun⟩

theorem past_afterDetection (c : Config) (t : Task) (m : Message) (now : Instant)
    (answer : Except Detection.Fault (List Prediction)) :
    IsPast { t with phase := Task.afterDetection c t m now answer } := by
  unfold Task.afterDetection
  split
  · exact ⟨nofun, nofun⟩
  · split
    · exact past_afterSetback c t m _
    · exact ⟨nofun, nofun⟩

theorem past_step (c : Config) (supply : Supply) (b : Backend) (l : Ledger) (h : IsPast t) :
    IsPast (t.step c supply b l).2.2 := by
  obtain ⟨delivery, phase⟩ := t
  cases phase with
  | received => exact absurd rfl h.1
  | detecting m => exact absurd rfl (h.2 m)
  | storing m result =>
    cases hcall : b.repository.upsert result supply.ids supply.now with
    | mk r answer =>
      cases answer with
      | ok _ => simp [IsPast, Task.step, Task.firstTry, hcall]
      | error f =>
        simp only [Task.step, hcall]
        exact past_afterSetback c ⟨delivery, .storing m result⟩ m _
  | closing m reason => simp [IsPast, Task.step, Task.firstTry]
  | settling s =>
    cases hcall : b.broker.trySettle delivery supply.now s.settlement with
    | mk broker answer =>
      cases answer with
      | ok _ => simp [IsPast, Task.step, Task.finish, hcall]
      | error f =>
        by_cases htries : 1 < s.tries
        · simp [IsPast, Task.step, hcall, if_pos htries]
        · simp [IsPast, Task.step, Task.finish, hcall, if_neg htries]
  | pausing reason => exact h
  | backingOff s pause => exact h
  | finished o => exact h

/-- The world after a step of the task. -/
def afterStep (w : World) (t : Task) : World :=
  { w.supply.2 with
    backend := (t.step w.config w.supply.1 w.backend w.ledger).1
    ledger := (t.step w.config w.supply.1 w.backend w.ledger).2.1 }

theorem Mirrors.supply_eq (h : Mirrors w₀ w t d) : w.supply.1 = w₀.outside.draw d.draws := by
  show supplyAt w.date w.readings = supplyAt w₀.date (w₀.readings + d.draws)
  rw [h.date, h.readings]

theorem Mirrors.of_step (h : Mirrors w₀ w t d)
    (hmove : d.move w₀.config w₀.outside =
      ⟨(d.task.step w₀.config (w₀.outside.draw d.draws) d.backend d.ledger).1,
        (d.task.step w₀.config (w₀.outside.draw d.draws) d.backend d.ledger).2.1,
        (d.task.step w₀.config (w₀.outside.draw d.draws) d.backend d.ledger).2.2, d.draws + 1,
        d.errands ++ Bench.errand (w₀.outside.draw d.draws) d.backend d.task⟩) :
    Mirrors w₀ (w.afterStep t) (t.step w.config w.supply.1 w.backend w.ledger).2.2
      (d.move w₀.config w₀.outside) := by
  have hstep : t.step w.config w.supply.1 w.backend w.ledger =
      d.task.step w₀.config (w₀.outside.draw d.draws) d.backend d.ledger := by
    rw [h.supply_eq, h.task, h.config, h.backend, h.ledger]
  rw [hmove]
  refine ⟨?_, ?_, ?_, h.config, h.date, ?_, ?_⟩
  · rw [afterStep, hstep]
  · rw [afterStep, hstep]
  · rw [hstep]
  · show w.readings + 1 = w₀.readings + (d.draws + 1)
    rw [h.readings, Nat.add_assoc]
  · exact h.detector.imp_right fun hpast => past_step _ _ _ _ hpast

/-- The end of a pause. -/
theorem Mirrors.of_resume (h : Mirrors w₀ w t d) (hpause : (t.pause? w.config).isSome) (n : Nat)
    (hmove : d.move w₀.config w₀.outside = { d with task := d.task.resume w₀.config }) :
    Mirrors w₀ (w.advance n) (t.resume w.config) (d.move w₀.config w₀.outside) := by
  rw [hmove]
  refine ⟨h.backend, h.ledger, ?_, h.config, h.date, h.readings, Or.inr ?_⟩
  · rw [h.task, h.config]
  · obtain ⟨delivery, phase⟩ := t
    cases phase with
    | pausing => exact ⟨nofun, nofun⟩
    | backingOff => exact ⟨nofun, nofun⟩
    | _ => cases hpause

/-- The world after a detection call that was answered. -/
def afterCall (w : World) (detector : Detector) (delay : Nat) (b : Backend) : World :=
  { w with
    backend := b
    detector := detector
    clock := w.clock + delay
    readings := w.readings + 1 }

/-- A call of the detection service uses up a step of the script and nothing else. -/
theorem exists_callDetector {answer : Option (Except Detection.Fault (List Prediction))}
    (h : (w.callDetector m).1.2 = answer) :
    ∃ delay detector, w.callDetector m = ((delay, answer), { w with detector := detector }) := by
  obtain ⟨step, detector, hcall⟩ : ∃ step detector, w.callDetector m =
      (Step.outcome step w.config.detectionTimeout, { w with detector := detector }) := by
    unfold callDetector
    cases w.detector.call ⟨w.clock, m.imageUrl, w.config.detectionTimeout.millis⟩ with
    | mk step detector => exact ⟨step, detector, rfl⟩
  -- what the call comes to need not be worked out here
  generalize Step.outcome step w.config.detectionTimeout = outcome at hcall
  obtain ⟨delay, answer'⟩ := outcome
  rw [hcall] at h
  rw [hcall, ← h]
  exact ⟨delay, detector, rfl⟩

/-- The answer of a detection call. -/
theorem Mirrors.of_heard (h : Mirrors w₀ w t d)
    (halive : ∀ url, (w₀.detector.next url).1.act ≠ .panic) (hphase : t.phase = .detecting m) :
    ∃ w' t', w.turn t = (w', some t') ∧
      Mirrors w₀ w' t' (d.move w₀.config w₀.outside) := by
  have hdetector : w.detector = w₀.detector := by
    rcases h.detector with hsame | hpast
    · exact hsame
    · exact absurd hphase (hpast.2 m)
  obtain ⟨delay, detector, hcall⟩ :=
    exists_callDetector (callDetector_eq halive hdetector h.config m)
  generalize hanswer : w₀.outside.heard w₀.config m = answer at hcall
  have hphase' : d.task.phase = .detecting m := by rw [← h.task, hphase]
  refine ⟨w.afterCall detector delay
      (d.task.detected w₀.config (w₀.outside.draw d.draws).now d.backend answer).1,
    (d.task.detected w₀.config (w₀.outside.draw d.draws).now d.backend answer).2, ?_, ?_⟩
  · have hturn : w.turn t = tell t (w.callDetector m) := by simp only [turn, hphase]
    rw [hturn, hcall, tell, ← h.supply_eq, ← h.task, ← h.config, ← h.backend]
    rfl
  · simp only [Bench.move, hphase', hanswer]
    refine ⟨rfl, h.ledger, rfl, h.config, h.date, ?_, Or.inr ?_⟩
    · rw [afterCall, h.readings, Nat.add_assoc]
    · simp only [Task.detected, hphase']
      exact past_afterDetection w₀.config d.task m _ _

/-- **A turn in a world is a move at the bench.** -/
theorem Mirrors.of_turn (h : Mirrors w₀ w t d)
    (halive : ∀ url, (w₀.detector.next url).1.act ≠ .panic) (hgoing : t.outcome? = none) :
    ∃ w' t', w.turn t = (w', some t') ∧
      Mirrors w₀ w' t' (d.move w₀.config w₀.outside) := by
  have hphase : d.task.phase = t.phase := by rw [h.task]
  cases hphase' : t.phase with
  | received | storing | closing | settling =>
    refine ⟨w.afterStep t, _, ?_, h.of_step ?_⟩
    · simp only [turn, hphase', Task.pause?, afterStep, supply]
    · simp only [Bench.move, hphase, hphase']
  | detecting m => exact h.of_heard halive hphase'
  | pausing =>
    refine ⟨w.advance (millis w.config.retryDelay), t.resume w.config, ?_, h.of_resume ?_ _ ?_⟩
    · simp only [turn, hphase', Task.pause?]
    · simp only [Task.pause?, hphase', Option.isSome_some]
    · simp only [Bench.move, hphase, hphase']
  | backingOff s pause =>
    refine ⟨w.advance (millis pause), t.resume w.config, ?_, h.of_resume ?_ _ ?_⟩
    · simp only [turn, hphase', Task.pause?]
    · simp only [Task.pause?, hphase', Option.isSome_some]
    · simp only [Bench.move, hphase, hphase']
  | finished o =>
    rw [Task.outcome?, hphase'] at hgoing
    cases hgoing

theorem work_of_outcome (h : t.outcome? = some o) (fuel : Nat) :
    work (fuel + 1) w t = (w, some o) := by
  simp only [work, h]

theorem work_of_turn {w' : World} {t' : Task} (h : t.outcome? = none)
    (hturn : w.turn t = (w', some t')) (fuel : Nat) :
    work (fuel + 1) w t = work fuel w' t' := by
  simp only [work, h, hturn]

theorem outcome?_eq_some : t.outcome? = some o ↔ t.phase = .finished o := by
  unfold Task.outcome?
  split
  · next hphase => rw [hphase, Option.some.injEq, Phase.finished.injEq]
  · next hnot => exact ⟨nofun, fun hphase => absurd hphase (hnot o)⟩

/-- The work in a world comes to the end that it comes to at the bench. -/
theorem Mirrors.work_eq (h : Mirrors w₀ w t d)
    (halive : ∀ url, (w₀.detector.next url).1.act ≠ .panic)
    (hend : ((Bench.move w₀.config w₀.outside)^[n] d).task.phase = .finished o)
    (hfuel : n < fuel) :
    ∃ w', work fuel w t = (w', some o) ∧
      w'.backend = ((Bench.move w₀.config w₀.outside)^[n] d).backend ∧
      w'.ledger = ((Bench.move w₀.config w₀.outside)^[n] d).ledger := by
  induction n generalizing w t d fuel with
  | zero =>
    obtain ⟨fuel, rfl⟩ := Nat.exists_eq_add_of_lt hfuel
    have hdone : t.outcome? = some o := by
      rw [outcome?_eq_some, h.task]
      exact hend
    exact ⟨w, work_of_outcome hdone _, h.backend, h.ledger⟩
  | succ n ih =>
    obtain ⟨fuel, rfl⟩ : ∃ k, fuel = k + 1 := ⟨fuel - 1, by omega⟩
    cases hdone : t.outcome? with
    | some o' =>
      have hphase : d.task.phase = .finished o' := by rw [← h.task, ← outcome?_eq_some, hdone]
      rw [Bench.iterate_of_finished hphase] at hend ⊢
      obtain rfl : o' = o := Phase.finished.inj (hphase.symm.trans hend)
      exact ⟨w, work_of_outcome hdone _, h.backend, h.ledger⟩
    | none =>
      obtain ⟨w', t', hturn, hmirrors⟩ := h.of_turn halive hdone
      rw [work_of_turn hdone hturn]
      exact ih hmirrors hend (by omega)

/-- **A world handles a delivery as a bench does**, unless the caller of the detection service
    dies: the outcome, what is shared afterwards, and the notice are the same. -/
theorem handle_eq (w : World) (raw : String)
    (halive : ∀ url, (w.detector.next url).1.act ≠ .panic) :
    let d := Bench.handle w.config w.outside w.backend w.ledger raw
    (w.handle (.ofRaw raw)).2 = d.task.outcome? ∧
      (w.handle (.ofRaw raw)).1.backend = d.backend ∧
      (w.handle (.ofRaw raw)).1.ledger = d.ledger := by
  intro d
  have hstart : Mirrors w w (.start (.ofRaw raw)) (.start w.backend w.ledger raw) :=
    ⟨rfl, rfl, rfl, rfl, rfl, rfl, Or.inl rfl⟩
  obtain ⟨_, _, _, _, _, _, o, _, _, hsettled⟩ := Bench.handled w.config w.outside w.backend
    w.ledger raw (Or.inr (Nat.le_refl _)) (Nat.le_refl _)
  obtain ⟨w', hwork, hbackend, hledger⟩ :=
    hstart.work_eq halive hsettled.phase (show _ < w.workFuel by rw [workFuel]; omega)
  have hphase := hsettled.phase
  rw [Bench.iterate_eq_handle (Nat.le_refl _)] at hphase hbackend hledger
  rw [handle, hwork]
  exact ⟨(outcome?_eq_some.mpr hphase).symm, hbackend, hledger⟩

end World

end DetectionJobs.Simulation
