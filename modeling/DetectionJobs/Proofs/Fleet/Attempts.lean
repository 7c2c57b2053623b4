/-
  DetectionJobs/Proofs/Fleet/Attempts.lean
  ========================================
  **No entry is handed out that has no attempt left.**

  All workers allow the same number of attempts, and entries that come from outside have one
  left.  A delivery is requeued only while another attempt remains after the one that failed,
  so every entry that waits or is held has counted fewer attempts than are allowed, and every
  one that was given up at most that many.
-/
import DetectionJobs.Proofs.Fleet.Traffic

namespace DetectionJobs

namespace Fleet

open Worker

/-! ### What tasks intend -/

/-- A delivery is to be requeued only while an attempt is left after the one that failed. -/
def HasRoom (limit attempts : Nat) : Phase → Prop
  | .pausing _ => attempts + 1 < limit
  | .settling s | .backingOff s _ =>
    ∀ reason, s.settlement = .requeue reason → attempts + 1 < limit
  | _ => True

section Deed

variable {c : Config} {supply : Supply} {who : Badge} {b b' : Backend} {t : Task}
  {next : Option Phase} {es : List Event}

theorem hasRoom_afterSetback (c : Config) (t : Task) (m : Message) (s : Setback) :
    HasRoom c.maxAttempts t.delivery.attempts (Task.afterSetback c t m s) := by
  unfold Task.afterSetback
  split
  · next hattempt => exact hattempt
  · trivial

theorem hasRoom_afterDetection (c : Config) (t : Task) (m : Message) (now : Instant)
    (answer : Except Detection.Fault (List Prediction)) :
    HasRoom c.maxAttempts t.delivery.attempts (Task.afterDetection c t m now answer) := by
  unfold Task.afterDetection
  split
  · trivial
  · split
    · exact hasRoom_afterSetback c t m _
    · trivial

/-- **A task that comes to requeue its delivery knows that an attempt is left.** -/
theorem Deed.hasRoom (h : Deed c supply who b t b' next es)
    (ht : HasRoom c.maxAttempts t.delivery.attempts t.phase) {phase : Phase}
    (hnext : next = some phase) : HasRoom c.maxAttempts t.delivery.attempts phase := by
  cases h with
  | unreadable =>
    cases hnext
    rintro reason ⟨⟩
  | readable =>
    cases hnext
    trivial
  | heard =>
    cases hnext
    exact hasRoom_afterDetection c t _ _ _
  | recorded =>
    cases hnext
    rintro reason ⟨⟩
  | unrecorded =>
    cases hnext
    exact hasRoom_afterSetback c t _ _
  | closed =>
    cases hnext
    rintro reason ⟨⟩
  | unsettled _ _ hphase hgoing =>
    rw [hphase] at ht
    rcases hgoing with rfl | rfl
    · cases hnext
    · cases hnext
      exact ht
  | paused hphase =>
    cases hnext
    rw [hphase] at ht
    exact fun _ _ => ht
  | backedOff hphase =>
    cases hnext
    rw [hphase] at ht
    exact ht
  | died => cases hnext
  | settled => cases hnext
  | ended => cases hnext

theorem pushed_not_mem_of_deed (h : Deed c supply who b t b' next es) (raw : String) :
    Event.pushed raw ∉ es := by
  cases h with
  | @settled s => cases s.settlement <;> simp [settleReport]
  | _ => simp

end Deed

/-! ### Steps of the fleet -/

/-- All workers allow as many attempts, and what is added from outside has one left. -/
def Tended (limit : Nat) (_ : Fleet) : Action → Prop
  | .hire post _ _ _ => post.config.maxAttempts = limit
  | .push raw => Queue.attemptsOf raw < max 1 limit
  | _ => True

instance (limit : Nat) (f : Fleet) : (a : Action) → Decidable (Tended limit f a)
  | .hire post _ _ _ => Nat.decEq post.config.maxAttempts limit
  | .push raw => Nat.decLt (Queue.attemptsOf raw) (max 1 limit)
  | .submit .. | .call .. | .loop .. | .task .. | .stop _ | .halt _ | .drop _ | .recover
  | .disturb .. => .isTrue trivial

/-- Every entry that waits, is held or is worked on has an attempt left. -/
structure Bounded (limit : Nat) (f : Fleet) : Prop where
  post : ∀ m ∈ f.members, m.post.config.maxAttempts = limit
  ready : ∀ raw ∈ f.broker.ready, Queue.attemptsOf raw < max 1 limit
  held : ∀ raw ∈ f.broker.inFlight, Queue.attemptsOf raw < max 1 limit
  task : ∀ who t, f.Live who t →
    t.delivery.attempts < max 1 limit ∧ HasRoom limit t.delivery.attempts t.phase

variable {limit : Nat} {f f' : Fleet} {a : Action} {es : List Event} {past : Past}

theorem bounded_opening (limit : Nat) (r : Repository) (metrics : Metrics) :
    Bounded limit (opening r metrics) where
  post := by rintro m ⟨⟩
  ready := by rintro raw ⟨⟩
  held := by rintro raw ⟨⟩
  task := by
    rintro who t ⟨m, hm, _⟩
    cases hm

/-- The workers after a step are those before it, but for one that was just hired. -/
theorem post_of_step (hstep : f.step? a = some (f', es)) {m' : Member} (hm' : m' ∈ f'.members) :
    (∃ m ∈ f.members, m.post = m'.post) ∨
      ∃ number ledger isStopped, a = .hire m'.post number ledger isStopped := by
  have hset : ∀ {w : Nat} {m : Member} {s : Shift}, f.members[w]? = some m →
      m' ∈ f.members.set w { m with shift := s } → ∃ m ∈ f.members, m.post = m'.post := by
    intro w m s hm hmem
    rcases List.mem_or_eq_of_mem_set hmem with hold | rfl
    · exact ⟨m', hold, rfl⟩
    · exact ⟨m, List.mem_of_getElem? hm, rfl⟩
  cases step_of_step? hstep with
  | submit => exact Or.inl ⟨m', hm', rfl⟩
  | call => exact Or.inl ⟨m', hm', rfl⟩
  | push => exact Or.inl ⟨m', hm', rfl⟩
  | @hire post number ledger isStopped =>
    rcases List.mem_append.mp hm' with hold | hnew
    · exact Or.inl ⟨m', hold, rfl⟩
    · rw [List.mem_singleton.mp hnew]
      exact Or.inr ⟨number, ledger, isStopped, rfl⟩
  | loop hm => exact Or.inl (hset hm hm')
  | task hm => exact Or.inl (hset hm hm')
  | stop hm => exact Or.inl (hset hm hm')
  | halt hm => exact Or.inl (hset hm hm')
  | drop hm => exact Or.inl (hset hm hm')
  | recover => exact Or.inl ⟨m', hm', rfl⟩
  | disturb => exact Or.inl ⟨m', hm', rfl⟩

theorem attemptsOf_wrap (limit : Nat) (m : Message) {now : Instant} (hnow : now.IsClock) :
    Queue.attemptsOf (Envelope.wrap m now).raw < max 1 limit := by
  rw [Queue.attemptsOf, Queue.ofRaw_wrap m hnow]
  exact Nat.lt_of_lt_of_le Nat.zero_lt_one (Nat.le_max_left 1 limit)

theorem attemptsOf_pushed (hallowed : Tended limit f a) (hstep : f.step? a = some (f', es))
    {raw : String} (hpushed : Event.pushed raw ∈ es) : Queue.attemptsOf raw < max 1 limit := by
  cases step_of_step? hstep with
  | @call i draw c =>
    rcases lists_of_call f.backend draw.now c with ⟨_, hreport⟩ | ⟨_, hreport⟩
    · rw [hreport] at hpushed
      cases hpushed
    · simp only [hreport, List.mem_cons, List.not_mem_nil, or_false, reduceCtorEq] at hpushed
      cases hpushed
      exact attemptsOf_wrap limit _ draw.isClock
  | push =>
    cases List.mem_singleton.mp hpushed
    exact hallowed
  | @task who _ _ _ _ _ _ _ ht hmove =>
    obtain ⟨_, _, ht', _, hdeed⟩ := deed_of_move who hmove
    cases ht'.symm.trans ht
    exact absurd hpushed (pushed_not_mem_of_deed hdeed raw)
  | _ => cases hpushed

theorem Bounded.ready_of_settled (h : Bounded limit f) (horderly : Orderly f) {s : Settled}
    (hsettles : f.settlement? a = some s) {entry : String}
    (hentry : entry ∈ (f.broker.settle s.delivery s.now s.settlement).ready) :
    Queue.attemptsOf entry < max 1 limit := by
  obtain ⟨who, t, settling, hlive, hphase, hdelivery, hsettlement, hnow⟩ :=
    live_of_settlement? hsettles
  obtain ⟨raw, hraw, hcount⟩ := (horderly.task who t hlive).delivery
  have hroom := (h.task who t hlive).2
  rw [hdelivery, hraw] at hentry
  rcases Queue.Broker.mem_ready_settle hentry with hold | ⟨reason, hreason, rfl⟩
  · exact h.ready entry hold
  · -- the one that is written again has counted one attempt more, and one is left
    rw [hphase, hraw] at hroom
    have hleft : Queue.attemptsOf raw + 1 < limit := hroom reason (hsettlement.symm.trans hreason)
    rw [Queue.attemptsOf_retriedRaw _ hcount hnow]
    exact Nat.lt_of_lt_of_le hleft (Nat.le_max_right 1 limit)

theorem Bounded.lists_of_step (h : Bounded limit f) (horderly : Orderly f)
    (hunfinished : Unfinished f) (hallowed : Tended limit f a)
    (hstep : f.step? a = some (f', es)) :
    (∀ raw ∈ f'.broker.ready, Queue.attemptsOf raw < max 1 limit) ∧
      ∀ raw ∈ f'.broker.inFlight, Queue.attemptsOf raw < max 1 limit := by
  cases traffic_of_step hunfinished hstep with
  | still hlists =>
    rw [hlists.ready, hlists.inFlight]
    exact ⟨h.ready, h.held⟩
  | @pushed raw hpushed hlists =>
    rw [hlists.ready, hlists.inFlight]
    refine ⟨fun entry hentry => ?_, h.held⟩
    rcases List.mem_append.mp hentry with hold | hnew
    · exact h.ready entry hold
    · rw [List.mem_singleton.mp hnew]
      exact attemptsOf_pushed hallowed hstep hpushed
  | recovered hlists =>
    have hback := f.broker.same_recover
    rw [hlists.ready, hlists.inFlight, hback.ready, hback.inFlight]
    refine ⟨fun entry hentry => ?_, nofun⟩
    rcases List.mem_append.mp hentry with hheld | hready
    · exact h.held entry (List.mem_reverse.mp hheld)
    · exact h.ready entry hready
  | @handed raw rest hready hlists =>
    have hraw := h.ready raw (by rw [hready]; exact List.mem_cons_self)
    rw [hlists.ready, hlists.inFlight]
    refine ⟨fun entry hentry => ?_, fun entry hentry => ?_⟩
    · exact h.ready entry (by rw [hready]; exact List.mem_cons_of_mem raw hentry)
    · rcases List.mem_append.mp hentry with hold | hnew
      · exact h.held entry hold
      · rw [List.mem_singleton.mp hnew]
        exact hraw
  | settled hsettles hlists =>
    rw [hlists]
    refine ⟨fun entry hentry => h.ready_of_settled horderly hsettles hentry,
      fun entry hentry => ?_⟩
    obtain ⟨who, t, settling, hlive, _, hdelivery, _, _⟩ := live_of_settlement? hsettles
    obtain ⟨raw, hraw, _⟩ := (horderly.task who t hlive).delivery
    rw [hdelivery, hraw] at hentry
    have hmem := (f.broker.inFlight_settle raw _ _).mem_iff.mp hentry
    exact h.held entry (List.mem_of_mem_erase hmem)

theorem Bounded.task_of_change (h : Bounded limit f) (hchange : Change f f' es) {who : Badge}
    {t : Task} (hlive : f'.Live who t) :
    t.delivery.attempts < max 1 limit ∧ HasRoom limit t.delivery.attempts t.phase := by
  cases hchange with
  | quiet _ _ htasks => exact h.task who t (htasks who t hlive)
  | noted _ _ _ htasks => exact h.task who t (htasks who t hlive)
  | dismissed _ _ _ htasks => exact h.task who t (htasks who t hlive)
  | published _ _ _ _ htasks => exact h.task who t (htasks who t hlive)
  | pushed _ _ _ htasks => exact h.task who t (htasks who t hlive)
  | recovered _ _ htasks => exact h.task who t (htasks who t hlive)
  | @handed _ raw rest hready _ _ htasks =>
    rcases htasks who t hlive with hold | ⟨_, rfl⟩
    · exact h.task who t hold
    · exact ⟨h.ready raw (by rw [hready]; exact List.mem_cons_self), trivial⟩
  | worked hlive' hdeed htasks hpost =>
    rcases htasks who t hlive with hold | ⟨phase, hnext, _, rfl⟩
    · exact h.task who t hold
    · obtain ⟨m, hm, rfl⟩ := hpost
      obtain ⟨hattempts, hroom⟩ := h.task _ _ hlive'
      rw [← h.post m hm] at hroom ⊢
      exact ⟨by rwa [h.post m hm], hdeed.hasRoom hroom hnext⟩

theorem Bounded.of_step (h : Bounded limit f) (horderly : Orderly f)
    (hunfinished : Unfinished f) (hallowed : Tended limit f a)
    (hstep : f.step? a = some (f', es)) : Bounded limit f' := by
  obtain ⟨hready, hheld⟩ := h.lists_of_step horderly hunfinished hallowed hstep
  refine ⟨fun m' hm' => ?_, hready, hheld, fun who t => h.task_of_change (change_of_step hstep)⟩
  rcases post_of_step hstep hm' with ⟨m, hm, hpost⟩ | ⟨_, _, _, rfl⟩
  · rw [← hpost]
    exact h.post m hm
  · exact hallowed

end Fleet

end DetectionJobs
