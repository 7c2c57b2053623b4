/-
  DetectionJobs/Proofs/Fleet/Upshots.lean
  =======================================
  **What a move of a task means for its delivery.**

  A task that moves keeps its delivery, settles it, gives up on it, or dies.  A task that
  gives up leaves its entry held and says so in the ledger of its worker; nothing that a
  task does takes this notice back.
-/
import DetectionJobs.Proofs.Fleet.Entries

namespace DetectionJobs

namespace Fleet

open Worker

variable {c : Config} {supply : Supply} {who : Badge} {b b' : Backend} {s s' : Shift} {n : Nat}
  {t : Task} {next : Option Phase} {es trace : List Event} {f f' : Fleet}

/-! ### Tasks that are not done -/

theorem not_finished_afterSetback (c : Config) (t : Task) (m : Message) (s : Setback)
    (o : Outcome) : Task.afterSetback c t m s ≠ .finished o := by
  unfold Task.afterSetback
  split
  · nofun
  · nofun

theorem not_finished_afterDetection (c : Config) (t : Task) (m : Message) (now : Instant)
    (answer : Except Detection.Fault (List Prediction)) (o : Outcome) :
    Task.afterDetection c t m now answer ≠ .finished o := by
  unfold Task.afterDetection
  split
  · nofun
  · split
    · exact not_finished_afterSetback c t m _ o
    · nofun

/-- A task that goes on is not done. -/
theorem Deed.not_finished {phase : Phase} (h : Deed c supply who b t b' next es)
    (hnext : next = some phase) (o : Outcome) : phase ≠ .finished o := by
  cases h with
  | unreadable =>
    cases hnext
    nofun
  | readable =>
    cases hnext
    nofun
  | heard =>
    cases hnext
    exact not_finished_afterDetection c t _ _ _ o
  | recorded =>
    cases hnext
    nofun
  | unrecorded =>
    cases hnext
    exact not_finished_afterSetback c t _ _ o
  | closed =>
    cases hnext
    nofun
  | unsettled _ _ _ hgoing =>
    rcases hgoing with rfl | rfl
    · cases hnext
    · cases hnext
      nofun
  | paused =>
    cases hnext
    nofun
  | backedOff =>
    cases hnext
    nofun
  | died => cases hnext
  | settled => cases hnext
  | ended => cases hnext

/-- A task that is done leaves its worker at once. -/
def Unfinished (f : Fleet) : Prop := ∀ who t, f.Live who t → ∀ o, t.phase ≠ .finished o

theorem unfinished_of_nobody (h : f.members = []) : Unfinished f := by
  rintro who t ⟨m, hm, _⟩
  rw [h] at hm
  cases hm

theorem Unfinished.of_change (h : Unfinished f) (hchange : Change f f' es) : Unfinished f' := by
  intro who t hlive o
  cases hchange with
  | quiet _ _ htasks => exact h who t (htasks who t hlive) o
  | noted _ _ _ htasks => exact h who t (htasks who t hlive) o
  | dismissed _ _ _ htasks => exact h who t (htasks who t hlive) o
  | published _ _ _ _ htasks => exact h who t (htasks who t hlive) o
  | pushed _ _ _ htasks => exact h who t (htasks who t hlive) o
  | recovered _ _ htasks => exact h who t (htasks who t hlive) o
  | handed _ _ _ htasks =>
    rcases htasks who t hlive with hold | ⟨_, rfl⟩
    · exact h who t hold o
    · nofun
  | worked _ hdeed htasks =>
    rcases htasks who t hlive with hold | ⟨phase, hnext, _, rfl⟩
    · exact h who t hold o
    · exact hdeed.not_finished hnext o

/-! ### Upshots -/

/-- The next step of the task is its last try to settle, and a fault is due. -/
def givesUp (b : Queue.Broker) (t : Task) : Bool :=
  match t.phase with
  | .settling settling => decide (settling.tries ≤ 1 ∧ b.settleFaults ≠ 0)
  | _ => false

/-- What a move of a task means for the delivery that it works on. -/
inductive Upshot (b : Backend) (now : Instant) (s : Shift) (n : Nat) (t : Task) (b' : Backend)
    (s' : Shift) : Shift.TaskMove → Prop where
  | kept {move : Shift.TaskMove} {phase : Phase} (hlists : b.broker.Same b'.broker)
      (hfollows : Follows s s' n t (some phase))
      (hflag : s'.ledger.needsRecovery = s.ledger.needsRecovery)
      (hmove : move ≠ .die) (hgoes : move = .work → givesUp b.broker t = false) :
      Upshot b now s n t b' s' move
  | settled {settling : Settling} (hphase : t.phase = .settling settling)
      (hfaults : b.broker.settleFaults = 0)
      (hlists : b'.broker = b.broker.settle t.delivery now settling.settlement)
      (hfollows : Follows s s' n t none)
      (hflag : s'.ledger.needsRecovery = s.ledger.needsRecovery) : Upshot b now s n t b' s' .work
  /-- The last try failed.  The entry stays held, and the loop is to know of it. -/
  | gaveUp (hlists : b.broker.Same b'.broker) (hfollows : Follows s s' n t none)
      (hflag : s'.ledger.needsRecovery = true) (hgives : givesUp b.broker t = true) :
      Upshot b now s n t b' s' .work
  | died (hlists : b.broker.Same b'.broker) (hfollows : Follows s s' n t none)
      (hflag : s'.ledger.needsRecovery = s.ledger.needsRecovery) : Upshot b now s n t b' s' .die

/-- A task that goes on without having touched the entries keeps its delivery. -/
theorem Upshot.of_putTask {now : Instant} {l : Ledger} {phase : Phase} {move : Shift.TaskMove}
    (hlists : b.broker.Same b'.broker) (hgoing : going? phase = some phase)
    (hflag : l.needsRecovery = s.ledger.needsRecovery)
    (hmove : move ≠ .die) (hgoes : move = .work → givesUp b.broker t = false) :
    Upshot b now s n t b' (({ s with ledger := l } : Shift).putTask n { t with phase := phase })
      move := by
  have hfollows := follows_putTask s l n t phase
  rw [hgoing] at hfollows
  refine .kept hlists hfollows ?_ hmove hgoes
  rw [Shift.ledger_putTask]
  exact hflag

/-- A task that has nothing to settle does not give up. -/
theorem givesUp_of_phase {broker : Queue.Broker} {phase : Phase} (hphase : t.phase = phase)
    (hsettling : ∀ settling, phase ≠ .settling settling) : givesUp broker t = false := by
  subst hphase
  unfold givesUp
  split
  · next settling heq => exact absurd heq (hsettling settling)
  · rfl

theorem givesUp_of_settling {settling : Settling} {faults : Nat}
    (hphase : t.phase = .settling settling) (hfaults : b.broker.settleFaults = faults + 1) :
    givesUp b.broker t = decide (settling.tries ≤ 1) := by
  simp [givesUp, hphase, hfaults]

/-- A move after which the task is still there has one of these upshots. -/
theorem upshot_of_moved {l : Ledger} {phase : Phase} {move : Shift.TaskMove}
    (hfinished : ∀ o, t.phase ≠ .finished o)
    (h : t.Moved c supply b s.ledger move b' l phase) :
    Upshot b supply.now s n t b'
      (({ s with ledger := l } : Shift).putTask n { t with phase := phase }) move := by
  cases h with
  | unreadable hphase | readable hphase | closed hphase =>
    exact .of_putTask (.refl _) rfl rfl nofun fun _ => givesUp_of_phase hphase nofun
  | recorded hphase =>
    exact .of_putTask (.refl _) rfl rfl nofun fun _ => givesUp_of_phase hphase nofun
  | unrecorded hphase =>
    exact .of_putTask (.refl _) (going?_afterSetback ..) rfl nofun fun _ =>
      givesUp_of_phase hphase nofun
  | heard => exact .of_putTask (.refl _) (going?_afterDetection ..) rfl nofun nofun
  | paused => exact .of_putTask (.refl _) rfl rfl nofun nofun
  | backedOff => exact .of_putTask (.refl _) rfl rfl nofun nofun
  | settled hphase hfaults =>
    refine .settled hphase hfaults rfl (follows_putTask s _ n t (.finished _)) ?_
    rw [Shift.ledger_putTask]
  | failed hphase hfaults htries =>
    refine .of_putTask ⟨rfl, rfl, rfl, rfl⟩ rfl rfl nofun fun _ => ?_
    rw [givesUp_of_settling hphase hfaults]
    exact decide_eq_false (Nat.not_le.mpr htries)
  | gaveUp hphase hfaults htries =>
    refine .gaveUp ⟨rfl, rfl, rfl, rfl⟩ (follows_putTask s _ n t (.finished _)) ?_ ?_
    · rw [Shift.ledger_putTask]
    · rw [givesUp_of_settling hphase hfaults]
      exact decide_eq_true (Nat.not_lt.mp htries)
  | ended hphase => exact absurd hphase (hfinished _)

/-- **Every move of a task that is not done has one of these upshots.** -/
theorem upshot_of_move {move : Shift.TaskMove} (ht : s.task? n = some t)
    (hfinished : ∀ o, t.phase ≠ .finished o)
    (h : s.taskMove? c supply b n move = some (b', s')) :
    Upshot b supply.now s n t b' s' move := by
  obtain ⟨t', ht', hmoved⟩ := Shift.taskMoved_of_move h
  obtain rfl := Option.some.inj (ht.symm.trans ht')
  cases hmoved with
  | went hmoved => exact upshot_of_moved hfinished hmoved
  | died => exact .died (.refl _) ⟨rfl, rfl, rfl⟩ rfl

end Fleet

end DetectionJobs
