/-
  DetectionJobs/Proofs/Fleet/Stop.lean
  ====================================
  **What a worker does after it was stopped.**

  A loop notices a stop where it waits: for its tasks, for a free place, for an entry, or in
  a pause.  If what it waits for is there as well, either may come first.  So a loop may
  overlook a stop, any number of times, and take entries meanwhile.

  A loop that never overlooks a stop takes nothing more.  It leaves its rounds within three
  moves of its own, and until then there is always such a move that it can make.
-/
import DetectionJobs.Proofs.Fleet.Alert

namespace DetectionJobs

namespace Worker

/-! ### Moves after a stop -/

/-- How many moves the loop is away from its drain, if it overlooks nothing. -/
def Stage.toDraining : Stage → Nat
  | .starting => 3
  | .round | .recovering => 2
  | .draining | .done => 0
  | _ => 1

namespace Shift

variable {b b' : Queue.Broker} {s s' : Shift} {move : Move}

/-- The worker was stopped, and its loop is where it would notice that. -/
def couldLeave (s : Shift) : Bool := s.isStopped && s.stage.noticesStop

/-- Where a loop does not notice a stop, it goes on, and takes nothing. -/
theorem closer_of_move (h : s.move? b move = some (b', s')) (hnotices : s.stage.noticesStop = false)
    (hrounds : ¬ s.HasLeft) :
    s'.isStopped = s.isStopped ∧ s'.started = s.started ∧
      s'.stage.toDraining + 1 ≤ s.stage.toDraining := by
  cases moved_of_move h with
  | started hstage | startFailed hstage =>
    rw [hstage]
    exact ⟨rfl, rfl, Nat.le_refl 3⟩
  | recovered hstage | recoveryFailed hstage | noticed hstage | began hstage =>
    rw [hstage]
    exact ⟨rfl, rfl, Nat.le_refl 2⟩
  | finished hstage | abandoned hstage => exact absurd (Or.inl hstage) hrounds
  | left _ hleaves =>
    rw [hnotices] at hleaves
    cases hleaves
  | joined hstage | paused hstage | rested hstage | acquired hstage | asked hstage
  | refused hstage | handed hstage | foundNothing hstage | listened hstage | resumed hstage
  | expired hstage =>
    rw [hstage] at hnotices
    cases hnotices

theorem left_of_leave (h : s.move? b .leave = some (b', s')) :
    s'.isStopped = s.isStopped ∧ s'.started = s.started ∧ s'.HasLeft := by
  cases moved_of_move h with
  | left => exact ⟨quit_isStopped b s, (quit_same b s).2.2.1, quit_hasLeft b s⟩

/-- A loop that has not left its rounds can move, and where it would notice a stop it can
    leave. -/
theorem exists_move (b : Queue.Broker) (hstopped : s.isStopped = true) (hrounds : ¬ s.HasLeft) :
    ∃ move b' s', s.move? b move = some (b', s') ∧
      (s.stage.noticesStop = true → move = .leave) := by
  cases hnotices : s.stage.noticesStop with
  | true => exact ⟨.leave, _, _, if_pos ⟨hstopped, hnotices⟩, fun _ => rfl⟩
  | false =>
    cases hstage : s.stage with
    | starting => exact ⟨.recover false, _, _, by simp only [move?, hstage]; rfl, nofun⟩
    | recovering => exact ⟨.recover false, _, _, by simp only [move?, hstage]; rfl, nofun⟩
    | round => exact ⟨.begin, _, _, if_pos hstage, nofun⟩
    | draining => exact absurd (Or.inl hstage) hrounds
    | done => exact absurd (Or.inr hstage) hrounds
    | joining | pausing | acquiring | asking | receiving | resting =>
      rw [hstage] at hnotices
      cases hnotices

/-! ### Moves of the tasks -/

theorem isStopped_taskMove {c : Config} {supply : Supply} {b b' : Backend} {n : Nat}
    {move : TaskMove} (h : s.taskMove? c supply b n move = some (b', s')) :
    s'.isStopped = s.isStopped := by
  obtain ⟨t, _, hmoved⟩ := taskMoved_of_move h
  cases hmoved with
  | went => exact isStopped_putTask ..
  | died => rfl

end Shift

end Worker

/-! ### Steps of the fleet -/

namespace Fleet

open Worker

/-- The loop of this worker could leave its rounds, and does something else. -/
def Overlooks (w : Nat) (f : Fleet) : Action → Prop
  | .loop v move =>
    v = w ∧ move ≠ .leave ∧ f.members[w]?.any (fun m => m.shift.couldLeave) = true
  | _ => False

/-- Whatever is possible is allowed, but that this worker overlooks a stop. -/
def Heeds (w : Nat) (f : Fleet) (a : Action) : Prop := ¬ Overlooks w f a

instance (w : Nat) (f : Fleet) (a : Action) : Decidable (Heeds w f a) := by
  unfold Heeds Overlooks
  split <;> infer_instance

def isLoopOf (w : Nat) : Action → Bool
  | .loop v _ => v == w
  | _ => false

/-- How many moves the loop of this worker made. -/
def loopMoves (w : Nat) (past : Past) : Nat := past.countP fun p => isLoopOf w p.2

theorem loopMoves_concat (w : Nat) (past : Past) (f : Fleet) (a : Action) :
    loopMoves w (past ++ [(f, a)]) = loopMoves w past + if isLoopOf w a then 1 else 0 := by
  rw [loopMoves, List.countP_append, List.countP_singleton, loopMoves]

/-- What a stop means for a worker: it takes nothing more and is on its way to its drain. -/
structure Stopping (started moves : Nat) (s : Shift) : Prop where
  isStopped : s.isStopped = true
  started : s.started = started
  leaves : s.HasLeft ∨ moves + s.stage.toDraining ≤ 3

variable {started moves : Nat} {s s' : Shift} {m : Member} {f f' : Fleet} {es : List Event}
  {a : Action} {past : Past} {w : Nat}

theorem stopping_of_isStopped (h : s.isStopped = true) : Stopping s.started 0 s := by
  refine ⟨h, rfl, Or.inr ?_⟩
  rw [Nat.zero_add]
  cases s.stage <;> simp [Stage.toDraining]

theorem Stopping.of_same (h : Stopping started moves s) (hstopped : s'.isStopped = s.isStopped)
    (hstarted : s'.started = s.started) (hstage : s'.stage = s.stage) :
    Stopping started moves s' := by
  refine ⟨hstopped.trans h.isStopped, hstarted.trans h.started, ?_⟩
  rw [Shift.HasLeft, hstage]
  exact h.leaves

/-- **A move that does not overlook the stop brings the loop closer to its drain.** -/
theorem Stopping.of_move {b b' : Queue.Broker} {move : Shift.Move}
    (h : Stopping started moves s) (hstep : s.move? b move = some (b', s'))
    (hheeds : s.stage.noticesStop = true → move = .leave) :
    Stopping started (moves + 1) s' := by
  by_cases hleft : s.HasLeft
  · obtain ⟨hdone, hstopped, hstarted⟩ := Shift.done_of_move hstep hleft
    exact ⟨hstopped.trans h.isStopped, hstarted.trans h.started, Or.inl (Or.inr hdone)⟩
  cases hnotices : s.stage.noticesStop with
  | true =>
    obtain rfl := hheeds hnotices
    obtain ⟨hstopped, hstarted, hleft'⟩ := Shift.left_of_leave hstep
    exact ⟨hstopped.trans h.isStopped, hstarted.trans h.started, Or.inl hleft'⟩
  | false =>
    obtain ⟨hstopped, hstarted, hcloser⟩ := Shift.closer_of_move hstep hnotices hleft
    refine ⟨hstopped.trans h.isStopped, hstarted.trans h.started, Or.inr ?_⟩
    rcases h.leaves with hleft' | hmoves
    · exact absurd hleft' hleft
    · omega

theorem member_withShift {v : Nat} {x : Member} (hm : f.members[w]? = some m)
    (hx : f.members[v]? = some x) (s : Shift) :
    v = w ∧ x = m ∧ (f.withShift v x s).members[w]? = some { m with shift := s } ∨
      v ≠ w ∧ (f.withShift v x s).members[w]? = some m := by
  by_cases hv : v = w
  · subst hv
    obtain rfl := Option.some.inj (hx.symm.trans hm)
    refine Or.inl ⟨rfl, rfl, ?_⟩
    exact List.getElem?_set_self (List.getElem?_eq_some_iff.mp hm).1
  · refine Or.inr ⟨hv, ?_⟩
    rw [withShift, List.getElem?_set_ne hv]
    exact hm

/-- The worker is there, and on its way to its drain. -/
def Leaving (w started moves : Nat) (f : Fleet) : Prop :=
  ∃ m, f.members[w]? = some m ∧ Stopping started moves m.shift

theorem leaving_withShift {v : Nat} {x : Member} (hm : f.members[w]? = some m)
    (hstopping : Stopping started moves m.shift) (hx : f.members[v]? = some x)
    (hself : v = w → x = m → Stopping started moves s) :
    Leaving w started moves (f.withShift v x s) := by
  rcases member_withShift hm hx s with ⟨hv, hxm, hm'⟩ | ⟨_, hm'⟩
  · exact ⟨_, hm', hself hv hxm⟩
  · exact ⟨m, hm', hstopping⟩

theorem Leaving.of_loop (h : Leaving w started moves f) {v : Nat} {x : Member}
    {move : Shift.Move} {b : Queue.Broker} (hheeds : Heeds w f (.loop v move))
    (hx : f.members[v]? = some x) (hmove : x.shift.move? f.backend.broker move = some (b, s)) :
    Leaving w started (moves + if isLoopOf w (.loop v move) then 1 else 0)
      ((f.withBroker b).withShift v x s) := by
  obtain ⟨m, hm, hstopping⟩ := h
  rcases member_withShift (f := f.withBroker b) hm hx s with ⟨rfl, rfl, hm'⟩ | ⟨hv, hm'⟩
  · refine ⟨_, hm', ?_⟩
    rw [isLoopOf, beq_self_eq_true, if_pos rfl]
    refine hstopping.of_move hmove fun hnotices => ?_
    by_contra hother
    refine hheeds ⟨rfl, hother, ?_⟩
    rw [hm]
    simp [Shift.couldLeave, hstopping.isStopped, hnotices]
  · refine ⟨m, hm', ?_⟩
    rw [if_neg (by simpa [isLoopOf] using hv)]
    exact hstopping

theorem Leaving.of_step (h : Leaving w started moves f) (hheeds : Heeds w f a)
    (hstep : f.step? a = some (f', es)) :
    Leaving w started (moves + if isLoopOf w a then 1 else 0) f' := by
  obtain ⟨m, hm, hstopping⟩ := h
  cases step_of_step? hstep with
  | submit => exact ⟨m, hm, hstopping⟩
  | call => exact ⟨m, hm, hstopping⟩
  | push => exact ⟨m, hm, hstopping⟩
  | hire =>
    refine ⟨m, ?_, hstopping⟩
    rw [List.getElem?_append_left (List.getElem?_eq_some_iff.mp hm).1]
    exact hm
  | loop hx hmove => exact Leaving.of_loop ⟨m, hm, hstopping⟩ hheeds hx hmove
  | @task who x t draw move b s hx _ hmove =>
    refine leaving_withShift (f := { f with backend := b }) hm hstopping hx ?_
    rintro rfl rfl
    obtain ⟨_, _, _, hfollows, _⟩ := deed_of_move who hmove
    exact hstopping.of_same (Shift.isStopped_taskMove hmove) hfollows.started hfollows.stage
  | stop hx =>
    refine leaving_withShift hm hstopping hx ?_
    rintro rfl rfl
    exact hstopping.of_same hstopping.isStopped.symm rfl rfl
  | @halt v x hx =>
    refine leaving_withShift (f := f.withBroker _) hm hstopping hx ?_
    rintro rfl rfl
    obtain ⟨_, _, hstarted, _⟩ := Shift.quit_same f.backend.broker x.shift
    exact ⟨(Shift.quit_isStopped _ _).trans hstopping.isStopped, hstarted.trans hstopping.started,
      Or.inl (Or.inr rfl)⟩
  | drop hx =>
    refine leaving_withShift hm hstopping hx ?_
    rintro rfl rfl
    exact hstopping.of_same rfl rfl rfl
  | recover => exact ⟨m, hm, hstopping⟩
  | disturb => exact ⟨m, hm, hstopping⟩

theorem leaving_of_history (hm : f.members[w]? = some m) (hstopped : m.shift.isStopped = true)
    (h : History (Heeds w) f past f') : Leaving w m.shift.started (loopMoves w past) f' := by
  refine h.invariant (P := fun past f => Leaving w m.shift.started (loopMoves w past) f) ?_
    fun past f₁ a f₂ es _ hleaving hheeds hstep => ?_
  · exact ⟨m, hm, stopping_of_isStopped hstopped⟩
  · rw [loopMoves_concat]
    exact hleaving.of_step hheeds hstep

theorem exists_loop_step (hm : f.members[w]? = some m) (hstopped : m.shift.isStopped = true)
    (hrounds : ¬ m.shift.HasLeft) :
    ∃ move f' es, Heeds w f (.loop w move) ∧ f.step? (.loop w move) = some (f', es) := by
  obtain ⟨move, b, s, hmove, hleave⟩ := Shift.exists_move f.backend.broker hstopped hrounds
  refine ⟨move, (f.withBroker b).withShift w m s, [], ?_, ?_⟩
  · rintro ⟨_, hother, hcould⟩
    rw [hm, Option.any_some, Shift.couldLeave, Bool.and_eq_true] at hcould
    exact hother (hleave hcould.2)
  · rw [step?, hm, Option.bind_eq_bind, Option.bind_some, hmove]
    rfl

/-- **A worker that was stopped and does not overlook it takes nothing more.**  Wherever its
    loop is when it is stopped, and whatever the others do: it has left its rounds, or it made
    fewer than three moves since then and can make another one. -/
theorem stopped_worker_drains (hm : f.members[w]? = some m) (hstopped : m.shift.isStopped = true)
    (h : History (Heeds w) f past f') :
    ∃ m', f'.members[w]? = some m' ∧ m'.shift.started = m.shift.started ∧
      (m'.shift.HasLeft ∨ loopMoves w past < 3 ∧
        ∃ move f'' es, Heeds w f' (.loop w move) ∧ f'.step? (.loop w move) = some (f'', es)) := by
  obtain ⟨m', hm', hstopping⟩ := leaving_of_history hm hstopped h
  refine ⟨m', hm', hstopping.started, ?_⟩
  by_cases hleft : m'.shift.HasLeft
  · exact Or.inl hleft
  · refine Or.inr ⟨?_, exists_loop_step hm' hstopping.isStopped hleft⟩
    rcases hstopping.leaves with hleft' | hmoves
    · exact absurd hleft' hleft
    · have hfar : 0 < m'.shift.stage.toDraining := by
        rw [Shift.HasLeft] at hleft
        cases hstage : m'.shift.stage <;> simp [Stage.toDraining, hstage] at hleft ⊢
      omega

/-- A job is submitted, and a worker begins that was stopped before. -/
def beginningStopped : List Action := submitting ++ [.hire standardPost 0 .empty true]

def quitting : List Action := [Shift.Move.recover false, .begin, .leave].map (.loop 0)

theorem stopped_worker_drains_after_beginning :
    ∃ f m past f' m', f.members[0]? = some m ∧ m.shift.isStopped = true ∧
      History (Heeds 0) f past f' ∧ loopMoves 0 past = 3 ∧ f'.members[0]? = some m' ∧
      m'.shift.started = m.shift.started ∧ m'.shift.HasLeft := by
  have hstates : (do
      let first ← start.replay? Anything beginningStopped
      let m ← first.1.members[0]?
      let _ ← first.1.replay? (Heeds 0) quitting
      some (m.shift.isStopped, loopMoves 0 (pastOf first.1 quitting))) = some (true, 3) := by
    decide +kernel
  obtain ⟨⟨f, trace⟩, _, hstates⟩ := Option.bind_eq_some_iff.mp hstates
  obtain ⟨m, hm, hstates⟩ := Option.bind_eq_some_iff.mp hstates
  obtain ⟨⟨f', trace'⟩, hreplay, hstates⟩ := Option.bind_eq_some_iff.mp hstates
  obtain ⟨hstopped, hmoves⟩ := Prod.mk.inj (Option.some.inj hstates)
  have hhistory := history_of_replay hreplay
  obtain ⟨m', hm', hstarted, hleft | ⟨hfew, _⟩⟩ := stopped_worker_drains hm hstopped hhistory
  · exact ⟨f, m, _, f', m', hm, hstopped, hhistory, hmoves, hm', hstarted, hleft⟩
  · rw [hmoves] at hfew
    exact absurd hfew (Nat.lt_irrefl 3)

/-- **A worker may take an entry after it was stopped**, if it overlooks the stop: it was
    stopped before it began, an entry is ready, and there is a free place. -/
theorem stopped_worker_takes :
    ¬ ∀ (past : Past) (f : Fleet) (w : Nat) (m : Member) (past' : Past) (f' : Fleet) (m' : Member),
      History Anything start past f → f.members[w]? = some m → m.shift.isStopped = true →
      History Anything f past' f' → f'.members[w]? = some m' →
      m'.shift.started = m.shift.started := by
  intro hnone
  have hstates : (do
      let first ← start.replay? Anything beginningStopped
      let m ← first.1.members[0]?
      let second ← first.1.replay? Anything (taking [.recover false, .begin])
      let m' ← second.1.members[0]?
      some (m.shift.isStopped, m.shift.started, m'.shift.started)) = some (true, 0, 1) := by
    decide +kernel
  obtain ⟨⟨f, trace⟩, hbefore, hstates⟩ := Option.bind_eq_some_iff.mp hstates
  obtain ⟨m, hm, hstates⟩ := Option.bind_eq_some_iff.mp hstates
  obtain ⟨⟨f', trace'⟩, hafter, hstates⟩ := Option.bind_eq_some_iff.mp hstates
  obtain ⟨m', hm', hstates⟩ := Option.bind_eq_some_iff.mp hstates
  obtain ⟨hstopped, hstates⟩ := Prod.mk.inj (Option.some.inj hstates)
  obtain ⟨hstarted, hstarted'⟩ := Prod.mk.inj hstates
  have hsame := hnone _ f 0 m _ f' m' (history_of_replay hbefore) hm hstopped
    (history_of_replay hafter) hm'
  rw [hstarted, hstarted'] at hsame
  cases hsame

end Fleet

end DetectionJobs
