/-
  DetectionJobs/Proofs/Fleet/Entries.lean
  =======================================
  **Entries and tasks stay in order.**

  Attempts are counted in thirty-two bits.  Pushed entries leave room for one more attempt,
  and an entry is requeued only while the limit of attempts is not reached; so every entry
  that a worker may be handed leaves room, and the body of an entry survives whatever is
  written over it.  What a task has in hand always belongs to the message of its delivery.
-/
import DetectionJobs.Proofs.Fleet.Changes

namespace DetectionJobs

/-! ### Tasks -/

namespace Worker

/-- There is room for the attempt that a requeue would count, and for the next one. -/
def Settling.Fits (d : Delivery) (s : Settling) : Prop :=
  ∀ reason, s.settlement = .requeue reason → d.attempts + 1 < 2 ^ 32 - 1

/-- What a task has in hand belongs to its delivery. -/
def Phase.Fits (d : Delivery) : Phase → Prop
  | .received => True
  | .detecting m => Message.decode d.body = .ok m
  | .storing m result =>
    Message.decode d.body = .ok m ∧ result.jobId = m.jobId ∧ result.status.isTerminal = true
  | .pausing _ => d.attempts + 1 < 2 ^ 32 - 1
  | .closing m _ => Message.decode d.body = .ok m
  | .settling s => s.Fits d
  | .backingOff s _ => s.Fits d
  | .finished _ => True

namespace Task

variable {c : Config} {t : Task} {m : Message}

theorem fits_afterSetback (hlimit : c.maxAttempts < 2 ^ 32)
    (hbody : Message.decode t.delivery.body = .ok m) (s : Setback) :
    (afterSetback c t m s).Fits t.delivery := by
  unfold afterSetback
  split
  · next hattempt =>
    show t.delivery.attempts + 1 < 2 ^ 32 - 1
    unfold attempt at hattempt
    omega
  · exact hbody

theorem fits_afterDetection (hlimit : c.maxAttempts < 2 ^ 32)
    (hbody : Message.decode t.delivery.body = .ok m) (now : Instant)
    (answer : Except Detection.Fault (List Prediction)) :
    (afterDetection c t m now answer).Fits t.delivery := by
  cases answer with
  | ok ps => exact ⟨hbody, rfl, rfl⟩
  | error fault =>
    simp only [afterDetection]
    split
    · exact fits_afterSetback hlimit hbody _
    · exact ⟨hbody, rfl, rfl⟩

end Task

end Worker

namespace Fleet

open Worker

section Deed

variable {c : Config} {supply : Supply} {who : Badge} {b b' : Backend} {t : Task}
  {next : Option Phase} {es : List Event}

/-- A deed keeps what a task has in hand in order. -/
theorem Deed.fits (h : Deed c supply who b t b' next es) (hlimit : c.maxAttempts < 2 ^ 32)
    (ht : t.phase.Fits t.delivery) {phase : Phase} (hnext : next = some phase) :
    phase.Fits t.delivery := by
  cases h with
  | unreadable =>
    cases hnext
    rintro reason ⟨⟩
  | readable _ hbody =>
    cases hnext
    exact hbody
  | heard _ hphase =>
    cases hnext
    rw [hphase] at ht
    exact Task.fits_afterDetection hlimit ht _ _
  | died => cases hnext
  | recorded =>
    cases hnext
    rintro reason ⟨⟩
  | unrecorded hphase =>
    cases hnext
    rw [hphase] at ht
    exact Task.fits_afterSetback hlimit ht.1 _
  | closed =>
    cases hnext
    rintro reason ⟨⟩
  | settled => cases hnext
  | unsettled _ _ hphase hgoing =>
    rw [hphase] at ht
    rcases hgoing with rfl | rfl
    · cases hnext
    · cases hnext
      exact ht
  | paused hphase =>
    cases hnext
    rw [hphase] at ht
    exact fun _ _ => ht
  | backedOff hphase =>
    cases hnext
    rw [hphase] at ht
    exact ht
  | ended => cases hnext

/-- A deed leaves the lists of the queue alone, or it settles the delivery. -/
theorem Deed.queue (h : Deed c supply who b t b' next es) :
    b.broker.Same b'.broker ∨
      ∃ s, t.phase = .settling s ∧ next = none ∧ b'.repository = b.repository ∧
        b'.broker = b.broker.settle t.delivery supply.now s.settlement ∧
        es = settleReport b.broker who t.delivery supply.now s.settlement := by
  cases h with
  | settled _ hphase => exact Or.inr ⟨_, hphase, rfl, rfl, rfl, rfl⟩
  | unsettled => exact Or.inl ⟨rfl, rfl, rfl, rfl⟩
  | _ => exact Or.inl (.refl _)

end Deed

end Fleet

/-! ### Entries -/

namespace Fleet

open Worker

/-- A task works on the delivery of an entry that leaves room for another attempt. -/
structure OrderlyTask (t : Task) : Prop where
  delivery : ∃ raw, t.delivery = .ofRaw raw ∧ Queue.Countable raw
  phase : t.phase.Fits t.delivery

/-- Everything that is handed out leaves room for another attempt. -/
structure Orderly (f : Fleet) : Prop where
  ready : ∀ raw ∈ f.broker.ready, Queue.Countable raw
  held : ∀ raw ∈ f.broker.inFlight, Queue.Countable raw
  task : ∀ who t, f.Live who t → OrderlyTask t

theorem orderly_opening (r : Repository) (metrics : Metrics) : Orderly (opening r metrics) where
  ready := by rintro raw ⟨⟩
  held := by rintro raw ⟨⟩
  task := by rintro who t ⟨m, hm, _⟩; cases hm

variable {f f' : Fleet} {es trace : List Event}

/-- Entries that are where they were stay in order. -/
theorem Orderly.of_same (h : Orderly f) (hlists : f.broker.Same f'.broker)
    (htasks : ∀ who t, f'.Live who t → OrderlyTask t) : Orderly f' where
  ready := by rw [hlists.ready]; exact h.ready
  held := by rw [hlists.inFlight]; exact h.held
  task := htasks

theorem Orderly.of_push (h : Orderly f) {raw : String} (hraw : Queue.Countable raw)
    (hlists : (f.broker.push raw).Same f'.broker) (htasks : NoNewTask f f') : Orderly f' where
  ready := by
    intro entry hentry
    rw [hlists.ready] at hentry
    rcases List.mem_append.mp hentry with hold | hnew
    · exact h.ready entry hold
    · rw [List.mem_singleton.mp hnew]
      exact hraw
  held := by rw [hlists.inFlight]; exact h.held
  task := fun who t hlive => h.task who t (htasks who t hlive)

theorem Orderly.of_settle (h : Orderly f) {t : Task} {s : Settling} {now : Instant}
    (hnow : now.IsClock) (ht : OrderlyTask t) (hphase : t.phase = .settling s)
    (hlists : f'.broker = f.broker.settle t.delivery now s.settlement)
    (htasks : NoNewTask f f') : Orderly f' := by
  obtain ⟨⟨raw, hdelivery, hraw⟩, hfits⟩ := ht
  rw [hphase] at hfits
  rw [hdelivery] at hlists hfits
  refine ⟨fun entry hentry => ?_, fun entry hentry => ?_, fun who t hlive => ?_⟩
  · rw [hlists] at hentry
    rcases Queue.Broker.mem_ready_settle hentry with hold | ⟨reason, hreason, rfl⟩
    · exact h.ready entry hold
    · -- a requeue counts one more attempt, for which its task knows that there is room
      show (Delivery.ofRaw _).attempts < 2 ^ 32 - 1
      rw [(Queue.ofRaw_retriedRaw reason hraw hnow).1]
      exact hfits reason hreason
  · rw [hlists] at hentry
    have hmem := (f.broker.inFlight_settle raw now s.settlement).mem_iff.mp hentry
    exact h.held entry (List.mem_of_mem_erase hmem)
  · exact h.task who t (htasks who t hlive)

theorem Orderly.of_change (h : Orderly f) (hchange : Change f f' es) : Orderly f' := by
  cases hchange with
  | quiet hlists _ htasks =>
    exact h.of_same hlists fun who t hlive => h.task who t (htasks who t hlive)
  | noted hlists _ _ htasks =>
    exact h.of_same hlists fun who t hlive => h.task who t (htasks who t hlive)
  | dismissed hlists _ _ htasks =>
    exact h.of_same hlists fun who t hlive => h.task who t (htasks who t hlive)
  | published _ hnow hlists _ htasks => exact h.of_push (Queue.countable_wrap _ hnow) hlists htasks
  | pushed hcount hlists _ htasks => exact h.of_push hcount hlists htasks
  | recovered hlists _ htasks =>
    have hback := f.broker.same_recover
    refine ⟨fun raw hraw => ?_, fun raw hraw => ?_, fun who t hlive => ?_⟩
    · rw [hlists.ready, hback.ready] at hraw
      rcases List.mem_append.mp hraw with hheld | hready
      · exact h.held raw (List.mem_reverse.mp hheld)
      · exact h.ready raw hready
    · rw [hlists.inFlight, hback.inFlight] at hraw
      cases hraw
    · exact h.task who t (htasks who t hlive)
  | @handed who raw rest hready hlists _ htasks =>
    have hraw : Queue.Countable raw := h.ready raw (by rw [hready]; exact List.mem_cons_self)
    refine ⟨fun entry hentry => ?_, fun entry hentry => ?_, fun who' t hlive => ?_⟩
    · rw [hlists.ready] at hentry
      exact h.ready entry (by rw [hready]; exact List.mem_cons_of_mem raw hentry)
    · rw [hlists.inFlight] at hentry
      rcases List.mem_append.mp hentry with hold | hnew
      · exact h.held entry hold
      · rw [List.mem_singleton.mp hnew]
        exact hraw
    · rcases htasks who' t hlive with hold | ⟨_, rfl⟩
      · exact h.task who' t hold
      · exact ⟨⟨raw, rfl, hraw⟩, trivial⟩
  | @worked who t post draw next es hlive hdeed htasks =>
    have ht := h.task who t hlive
    rcases hdeed.queue with hlists | ⟨s, hphase, rfl, _, hlists, _⟩
    · refine h.of_same hlists fun who' t' hlive' => ?_
      rcases htasks who' t' hlive' with hold | ⟨phase, hnext, _, rfl⟩
      · exact h.task who' t' hold
      · exact ⟨ht.delivery, hdeed.fits post.fits ht.phase hnext⟩
    · refine h.of_settle draw.isClock ht hphase hlists fun who' t' hlive' => ?_
      rcases htasks who' t' hlive' with hold | ⟨_, hnext, _⟩
      · exact hold
      · cases hnext

/-- **A fleet that is orderly stays so in every run.** -/
theorem Orderly.of_run {allowed : Fleet → Action → Prop} (h : Orderly f)
    (hrun : Run allowed f trace f') : Orderly f' :=
  hrun.invariant (P := fun _ f => Orderly f) h
    fun _ _ _ _ _ _ horderly _ hstep => horderly.of_change (change_of_step hstep)

end Fleet

end DetectionJobs
