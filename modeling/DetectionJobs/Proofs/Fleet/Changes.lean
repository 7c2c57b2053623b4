/-
  DetectionJobs/Proofs/Fleet/Changes.lean
  =======================================
  **What a step of a fleet can do.**

  Whoever takes it, a step changes the fleet in one of eight ways.  A change tells what
  became of the entries, of the rows and of the tasks at work; invariants are shown to be
  kept by each change, not by each action.
-/
import DetectionJobs.Proofs.Fleet.Moves
import DetectionJobs.Proofs.Repository.Rows

namespace DetectionJobs.Fleet

open Worker

def broker (f : Fleet) : Queue.Broker := f.backend.broker

def SameRows (f f' : Fleet) : Prop := ∀ j, f'.row? j = f.row? j

/-- No task began and none went on. -/
def NoNewTask (f f' : Fleet) : Prop := ∀ who t, f'.Live who t → f.Live who t

/-- A step of a fleet, by what it does. -/
inductive Change (f f' : Fleet) : List Event → Prop where
  /-- Nothing that concerns entries, rows or tasks, but that tasks may have gone. -/
  | quiet (hlists : f.broker.Same f'.broker) (hrows : SameRows f f') (htasks : NoNewTask f f') :
      Change f f' []
  /-- A job is recorded as pending. -/
  | noted {jobId imageUrl : String} {now : Instant} (hlists : f.broker.Same f'.broker)
      (hnone : f.row? jobId = none)
      (hrows : ∀ j, f'.row? j =
        if j = jobId then some (Repository.pendingRow imageUrl now) else f.row? j)
      (htasks : NoNewTask f f') : Change f f' []
  /-- A job that could not be published is closed. -/
  | dismissed {jobId imageUrl reason : String} {now : Instant}
      (hlists : f.broker.Same f'.broker)
      (hopen : ∀ row, f.row? jobId = some row → row.status.isTerminal = false)
      (hrows : ∀ j, f'.row? j =
        if j = jobId then some (Repository.closedRow (f.row? jobId) imageUrl reason now)
        else f.row? j)
      (htasks : NoNewTask f f') : Change f f' []
  /-- A job is published, and so accepted. -/
  | published {m : Message} {now : Instant} (hcheck : m.check = .ok m) (hnow : now.IsClock)
      (hlists : (f.broker.push (Envelope.wrap m now).raw).Same f'.broker)
      (hrows : SameRows f f') (htasks : NoNewTask f f') :
      Change f f' [.pushed (Envelope.wrap m now).raw, .accepted m.jobId m.imageUrl]
  | pushed {raw : String} (hcount : Queue.Countable raw)
      (hlists : (f.broker.push raw).Same f'.broker)
      (hrows : SameRows f f') (htasks : NoNewTask f f') : Change f f' [.pushed raw]
  /-- Everything that is held is put back. -/
  | recovered (hlists : f.broker.recover.2.Same f'.broker) (hrows : SameRows f f')
      (htasks : NoNewTask f f') : Change f f' []
  /-- An entry is handed to a new task. -/
  | handed {who : Badge} {raw : String} {rest : List String}
      (hready : f.broker.ready = raw :: rest)
      (hlists : Queue.Broker.Same
        { f.broker with ready := rest, inFlight := f.broker.inFlight ++ [raw] } f'.broker)
      (hrows : SameRows f f')
      (htasks : ∀ who' t, f'.Live who' t →
        f.Live who' t ∨ who' = who ∧ t = .start (.ofRaw raw)) : Change f f' []
  | worked {who : Badge} {t : Task} {post : Post} {draw : Draw} {next : Option Phase}
      {es : List Event} (hlive : f.Live who t)
      (hdeed : Deed post.config draw.toSupply who f.backend t f'.backend next es)
      (htasks : ∀ who' t', f'.Live who' t' →
        f.Live who' t' ∨ ∃ phase, next = some phase ∧ who' = who ∧
          t' = { t with phase := phase })
      (hpost : ∃ m ∈ f.members, m.post = post) : Change f f' es

/-! ### Tasks after a step -/

/-- The tasks of a fleet after one of its workers was put back. -/
theorem live_withShift {f : Fleet} {w : Nat} {m : Member} {s : Shift}
    (hm : f.members[w]? = some m) {who : Badge} {t : Task}
    (h : (f.withShift w m s).Live who t) :
    f.Live who t ∨ who.worker = w ∧ (who.number, t) ∈ s.tasks := by
  obtain ⟨m', hm', hmem⟩ := h
  simp only [withShift] at hm'
  by_cases hw : w = who.worker
  · subst hw
    have hlt : who.worker < f.members.length := (List.getElem?_eq_some_iff.mp hm).1
    rw [List.getElem?_set_self hlt] at hm'
    cases hm'
    exact Or.inr ⟨rfl, hmem⟩
  · rw [List.getElem?_set_ne hw] at hm'
    exact Or.inl ⟨m', hm', hmem⟩

/-- A worker with fewer tasks adds none to its fleet. -/
theorem noNewTask_withShift {f : Fleet} {w : Nat} {m : Member} {s : Shift}
    (hm : f.members[w]? = some m) (h : ∀ e ∈ s.tasks, e ∈ m.shift.tasks) :
    NoNewTask f (f.withShift w m s) := by
  intro who t hlive
  rcases live_withShift hm hlive with hlive | ⟨rfl, hmem⟩
  · exact hlive
  · exact ⟨m, hm, h _ hmem⟩

theorem noNewTask_of_members {f f' : Fleet} (h : f'.members = f.members) : NoNewTask f f' := by
  rintro who t ⟨m, hm, hmem⟩
  rw [h] at hm
  exact ⟨m, hm, hmem⟩

theorem mem_of_task? {s : Shift} {n : Nat} {t : Task} (h : s.task? n = some t) :
    (n, t) ∈ s.tasks := by
  obtain ⟨l₁, l₂, heq, _⟩ := List.lookup_eq_some_iff.mp h
  rw [heq]
  exact List.mem_append_right l₁ List.mem_cons_self

/-- The task that goes by this badge. -/
def task? (f : Fleet) (who : Badge) : Option Task :=
  f.members[who.worker]?.bind fun m => m.shift.task? who.number

theorem task?_of_member {f : Fleet} {who : Badge} {m : Member} {t : Task}
    (hm : f.members[who.worker]? = some m) (ht : m.shift.task? who.number = some t) :
    f.task? who = some t := by
  rw [task?, hm]
  exact ht

theorem member_of_task? {f : Fleet} {who : Badge} {t : Task} (h : f.task? who = some t) :
    ∃ m, f.members[who.worker]? = some m ∧ (who.number, t) ∈ m.shift.tasks := by
  obtain ⟨m, hm, ht⟩ := Option.bind_eq_some_iff.mp h
  exact ⟨m, hm, mem_of_task? ht⟩

/-! ### Steps of submissions -/

/-- A submission leaves the lists of the queue alone, or it publishes its message. -/
theorem lists_of_call (b : Backend) (now : Instant) (c : Submission.Call) :
    b.broker.Same (c.step b now).1.broker ∧ callReport b now c = [] ∨
    (b.broker.push (Envelope.wrap ⟨c.jobId, c.imageUrl⟩ now).raw).Same (c.step b now).1.broker ∧
      callReport b now c =
        [.pushed (Envelope.wrap ⟨c.jobId, c.imageUrl⟩ now).raw, .accepted c.jobId c.imageUrl] := by
  obtain ⟨writePending, jobId, imageUrl, stage⟩ := c
  cases stage with
  | recording =>
    refine Or.inl ⟨?_, rfl⟩
    simp only [Submission.Call.step, Submission.record]
    cases writePending with
    | false => exact .refl _
    | true =>
      cases b.repository.createPending jobId imageUrl now with
      | mk r answer => cases answer <;> exact .refl _
  | publishing =>
    simp only [Submission.Call.step, callReport, Submission.publish]
    cases hpublish : b.broker.publish jobId imageUrl now with
    | error fault => exact Or.inl ⟨.refl _, rfl⟩
    | ok broker =>
      obtain ⟨_, rfl⟩ := Queue.Broker.publish_ok hpublish
      exact Or.inr ⟨.refl _, rfl⟩
  | abandoning cause =>
    refine Or.inl ⟨?_, rfl⟩
    simp only [Submission.Call.step, Submission.abandon]
    cases writePending <;> exact .refl _
  | answered answer => exact Or.inl ⟨.refl _, rfl⟩

section Call

variable (f : Fleet) (calls : List Submission.Call) (writePending : Bool) (jobId imageUrl : String)
  (now : Instant)

theorem change_of_record :
    Change f ⟨(Submission.record f.backend writePending jobId imageUrl now).1, calls, f.members⟩
      [] := by
  unfold Submission.record
  split
  · cases hcall : f.backend.repository.createPending jobId imageUrl now with
    | mk r answer =>
      rcases Repository.find?_createPending hcall with hrows | ⟨hnone, hrows⟩
      · exact .quiet (.refl _) hrows (noNewTask_of_members rfl)
      · exact .noted (.refl _) hnone hrows (noNewTask_of_members rfl)
  · exact .quiet (.refl _) (fun _ => rfl) (noNewTask_of_members rfl)

theorem change_of_abandon (cause : Queue.Fault) :
    Change f ⟨Submission.abandon f.backend writePending jobId imageUrl cause now, calls, f.members⟩
      [] := by
  unfold Submission.abandon
  split
  · cases hcall : f.backend.repository.markFailed jobId imageUrl
        ("enqueue failed: " ++ cause.message) now with
    | mk r answer =>
      rcases Repository.find?_markFailed hcall with
        ⟨_, _, hrows⟩ | ⟨_, _, hrows⟩ | ⟨_, hopen, hrows⟩
      · exact .quiet (.refl _) hrows (noNewTask_of_members rfl)
      · exact .quiet (.refl _) hrows (noNewTask_of_members rfl)
      · exact .dismissed (.refl _) hopen hrows (noNewTask_of_members rfl)
  · exact .quiet (.refl _) (fun _ => rfl) (noNewTask_of_members rfl)

theorem change_of_call (draw : Draw) (c : Submission.Call) :
    Change f ⟨(c.step f.backend draw.now).1, calls, f.members⟩
      (callReport f.backend draw.now c) := by
  obtain ⟨writePending, jobId, imageUrl, stage⟩ := c
  cases stage with
  | recording =>
    have hchange := change_of_record f calls writePending jobId imageUrl draw.now
    simp only [Submission.Call.step, callReport]
    cases hrecord : Submission.record f.backend writePending jobId imageUrl draw.now with
    | mk b answer =>
      rw [hrecord] at hchange
      cases answer with
      | error fault => exact hchange
      | ok _ => exact hchange
  | publishing =>
    simp only [Submission.Call.step, callReport, Submission.publish]
    cases hpublish : f.backend.broker.publish jobId imageUrl draw.now with
    | error fault => exact .quiet (.refl _) (fun _ => rfl) (noNewTask_of_members rfl)
    | ok b =>
      obtain ⟨hcheck, rfl⟩ := Queue.Broker.publish_ok hpublish
      exact .published hcheck draw.isClock (.refl _) (fun _ => rfl) (noNewTask_of_members rfl)
  | abandoning cause => exact change_of_abandon f calls writePending jobId imageUrl draw.now cause
  | answered answer => exact .quiet (.refl _) (fun _ => rfl) (noNewTask_of_members rfl)

end Call

/-! ### Steps of workers -/

theorem change_of_loop {f : Fleet} {w : Nat} {m : Member} {b : Queue.Broker} {s : Shift}
    {move : Shift.Move} (hm : f.members[w]? = some m)
    (h : m.shift.move? f.backend.broker move = some (b, s)) :
    Change f ((f.withBroker b).withShift w m s) [] := by
  cases (Shift.turn_of_move h).2 with
  | quiet hlists htasks =>
    refine .quiet hlists (fun _ => rfl) (noNewTask_withShift hm fun e he => ?_)
    rwa [htasks] at he
  | recovered _ htasks =>
    refine .recovered (.refl _) (fun _ => rfl) (noNewTask_withShift hm fun e he => ?_)
    rwa [htasks] at he
  | handed hready =>
    refine @Change.handed _ _ ⟨w, m.shift.started⟩ _ _ hready (.refl _) (fun _ => rfl) ?_
    intro who t hlive
    rcases live_withShift (f := f.withBroker _) hm hlive with hold | ⟨rfl, hmem⟩
    · exact Or.inl hold
    · rcases List.mem_append.mp hmem with hold | hnew
      · exact Or.inl ⟨m, hm, hold⟩
      · obtain ⟨hnumber, rfl⟩ := Prod.mk.inj (List.mem_singleton.mp hnew)
        exact Or.inr ⟨by rw [← hnumber], rfl⟩
  | abandoned =>
    exact .quiet (.refl _) (fun _ => rfl) (noNewTask_withShift hm fun e he => by cases he)

theorem change_of_task {f : Fleet} {who : Badge} {m : Member} {t : Task} {draw : Draw}
    {b : Backend} {s : Shift} {move : Shift.TaskMove} (hm : f.members[who.worker]? = some m)
    (ht : m.shift.task? who.number = some t)
    (h : m.shift.taskMove? m.post.config draw.toSupply f.backend who.number move = some (b, s)) :
    Change f (({ f with backend := b } : Fleet).withShift who.worker m s)
      (taskReport draw.toSupply f.backend who t move) := by
  obtain ⟨t', next, ht', hfollows, hdeed⟩ := deed_of_move who h
  obtain rfl : t' = t := Option.some.inj (ht'.symm.trans ht)
  refine .worked ⟨m, hm, mem_of_task? ht⟩ hdeed ?_ ⟨m, List.mem_of_getElem? hm, rfl⟩
  intro who' t'' hlive
  rcases live_withShift (f := { f with backend := b }) hm hlive with hold | ⟨hworker, hmem⟩
  · exact Or.inl hold
  · rw [hfollows.tasks] at hmem
    rcases mem_advance hmem with hold | ⟨phase, hnext, heq⟩
    · exact Or.inl ⟨m, by rw [hworker, hm], hold⟩
    · obtain ⟨hnumber, rfl⟩ := Prod.mk.inj heq
      refine Or.inr ⟨phase, hnext, ?_, rfl⟩
      cases who
      cases who'
      cases hworker
      cases hnumber
      rfl

/-! ### Steps of the fleet -/

/-- A step of a fleet, by its action: who takes it, and what comes of it. -/
inductive Step (f : Fleet) : Action → Fleet → List Event → Prop where
  | submit {writePending : Bool} {jobId imageUrl : String} :
      Step f (.submit writePending jobId imageUrl)
        { f with calls := f.calls ++ [.start writePending jobId imageUrl] } []
  | call {i : Nat} {draw : Draw} (c : Submission.Call) :
      Step f (.call i draw)
        ⟨(c.step f.backend draw.now).1, f.calls.set i (c.step f.backend draw.now).2, f.members⟩
        (callReport f.backend draw.now c)
  | push {raw : String} (hcount : Queue.Countable raw) :
      Step f (.push raw) (f.withBroker (f.backend.broker.push raw)) [.pushed raw]
  | hire {post : Post} {number : Nat} {ledger : Ledger} {isStopped : Bool} :
      Step f (.hire post number ledger isStopped)
        { f with members := f.members ++ [⟨post, .start number post.config ledger isStopped⟩] } []
  | loop {w : Nat} {m : Member} {move : Shift.Move} {b : Queue.Broker} {s : Shift}
      (hm : f.members[w]? = some m) (hmove : m.shift.move? f.backend.broker move = some (b, s)) :
      Step f (.loop w move) ((f.withBroker b).withShift w m s) []
  | task {who : Badge} {m : Member} {t : Task} {draw : Draw} {move : Shift.TaskMove}
      {b : Backend} {s : Shift} (hm : f.members[who.worker]? = some m)
      (ht : m.shift.task? who.number = some t)
      (hmove : m.shift.taskMove? m.post.config draw.toSupply f.backend who.number move =
        some (b, s)) :
      Step f (.task who draw move) (({ f with backend := b } : Fleet).withShift who.worker m s)
        (taskReport draw.toSupply f.backend who t move)
  | stop {w : Nat} {m : Member} (hm : f.members[w]? = some m) :
      Step f (.stop w) (f.withShift w m m.shift.stop) []
  | halt {w : Nat} {m : Member} (hm : f.members[w]? = some m) :
      Step f (.halt w)
        ((f.withBroker (m.shift.quit f.backend.broker).1).withShift w m
          ((m.shift.quit f.backend.broker).2.goto .done)) []
  | drop {who : Badge} {m : Member} {t : Task} (hm : f.members[who.worker]? = some m)
      (ht : m.shift.task? who.number = some t) :
      Step f (.drop who)
        (f.withShift who.worker m
          { m.shift with
            tasks := m.shift.tasks.filter (·.1 ≠ who.number)
            places := m.shift.places + 1 }) []
  | recover : Step f .recover (f.withBroker f.backend.broker.recover.2) []
  | disturb {isDown : Bool} {settleFaults repositoryFaults : Nat} :
      Step f (.disturb isDown settleFaults repositoryFaults)
        { f with backend :=
          { f.backend with
            broker := { f.backend.broker with isDown := isDown, settleFaults := settleFaults }
            repository := { f.backend.repository with faults := repositoryFaults } } } []

/-- A step that is possible, opened. -/
theorem step_of_step? {f f' : Fleet} {a : Action} {es : List Event}
    (h : f.step? a = some (f', es)) : Step f a f' es := by
  cases a with
  | submit writePending jobId imageUrl =>
    cases h
    exact .submit
  | call i draw =>
    obtain ⟨c, _, h⟩ := Option.bind_eq_some_iff.mp h
    cases h
    exact .call c
  | push raw =>
    rw [step?, Option.ite_none_right_eq_some] at h
    obtain ⟨hcount, h⟩ := h
    cases h
    exact .push hcount
  | hire post number ledger isStopped =>
    cases h
    exact .hire
  | loop worker move =>
    obtain ⟨m, hm, h⟩ := Option.bind_eq_some_iff.mp h
    obtain ⟨⟨b, s⟩, hmove, h⟩ := Option.bind_eq_some_iff.mp h
    cases h
    exact .loop hm hmove
  | task who draw move =>
    obtain ⟨m, hm, h⟩ := Option.bind_eq_some_iff.mp h
    obtain ⟨t, ht, h⟩ := Option.bind_eq_some_iff.mp h
    obtain ⟨⟨b, s⟩, hmove, h⟩ := Option.bind_eq_some_iff.mp h
    cases h
    exact .task hm ht hmove
  | stop worker =>
    obtain ⟨m, hm, h⟩ := Option.bind_eq_some_iff.mp h
    cases h
    exact .stop hm
  | halt worker =>
    obtain ⟨m, hm, h⟩ := Option.bind_eq_some_iff.mp h
    cases h
    exact .halt hm
  | drop who =>
    obtain ⟨m, hm, h⟩ := Option.bind_eq_some_iff.mp h
    obtain ⟨t, ht, h⟩ := Option.bind_eq_some_iff.mp h
    cases h
    exact .drop hm ht
  | recover =>
    cases h
    exact .recover
  | disturb isDown settleFaults repositoryFaults =>
    cases h
    exact .disturb

/-- **Every step of a fleet is a change.** -/
theorem change_of_step {f f' : Fleet} {a : Action} {es : List Event}
    (h : f.step? a = some (f', es)) : Change f f' es := by
  cases step_of_step? h with
  | submit => exact .quiet (.refl _) (fun _ => rfl) (noNewTask_of_members rfl)
  | call c => exact change_of_call f _ _ c
  | push hcount => exact .pushed hcount (.refl _) (fun _ => rfl) (noNewTask_of_members rfl)
  | hire =>
    refine .quiet (.refl _) (fun _ => rfl) ?_
    rintro who t ⟨m, hm, hmem⟩
    rw [List.getElem?_append] at hm
    split at hm
    · exact ⟨m, hm, hmem⟩
    · obtain rfl := List.mem_singleton.mp (List.mem_of_getElem? hm)
      cases hmem
  | loop hm hmove => exact change_of_loop hm hmove
  | task hm ht hmove => exact change_of_task hm ht hmove
  | stop hm => exact .quiet (.refl _) (fun _ => rfl) (noNewTask_withShift hm fun _ he => he)
  | @halt _ m hm =>
    obtain ⟨hlists, htasks, _⟩ := Shift.quit_same f.backend.broker m.shift
    refine .quiet hlists (fun _ => rfl) (noNewTask_withShift hm fun e he => ?_)
    rwa [← htasks]
  | drop hm _ =>
    exact .quiet (.refl _) (fun _ => rfl)
      (noNewTask_withShift hm fun _ he => (List.mem_filter.mp he).1)
  | recover => exact .recovered (.refl _) (fun _ => rfl) (noNewTask_of_members rfl)
  | disturb => exact .quiet ⟨rfl, rfl, rfl, rfl⟩ (fun _ => rfl) (noNewTask_of_members rfl)

end DetectionJobs.Fleet
