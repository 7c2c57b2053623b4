/-
  DetectionJobs/Proofs/Worker/Effects.lean
  ========================================
  **What the work on one delivery leaves behind, in every combination of faults.**

  The entry, the answer of the detection service, the faults of the stored jobs and the
  attempts that are left decide the outcome and the one row that may change; the faults of the
  queue decide whether the delivery is settled.  A failure on one side leaves the other side
  as it would be without it.
-/
import DetectionJobs.Proofs.Worker.Errands

namespace DetectionJobs.Worker

namespace Bench

def ready (d : Bench) : List String := d.backend.broker.ready

def inFlight (d : Bench) : List String := d.backend.broker.inFlight

def dead (d : Bench) : List String := d.backend.broker.dead

def row? (d : Bench) (jobId : String) : Option Row := d.backend.repository.find? jobId

/-- The entry is an envelope of the same body, which counts one attempt more and says why. -/
def Retries (raw reason entry : String) : Prop :=
  ∃ e, Envelope.ofRaw? entry = some e ∧ e.body = Queue.bodyOf raw ∧
    e.attempts = Queue.attemptsOf raw + 1 ∧ e.lastError = some reason

/-- The attempt at the message met with the setback: the detection call gave it as its answer, or
    the call that was to record the outcome did, and these calls are the first that were made. -/
def Hinders (x : Outside) (c : Config) (r : Repository) (m : Message) (made : List Errand)
    (setback : Setback) : Prop :=
  ∃ errands r', SetBack x c r m setback errands r' ∧ errands <+: made

/-- What becomes of the job of a message that is given up.  The conditional write fails if there
    are more faults ahead than the attempt met; otherwise it closes a job that is pending or has
    no row, and leaves one that came to its end. -/
inductive Closing (r : Repository) (m : Message) (reason : String) (made : List Errand) :
    Option Row → Prop where
  | unable {f : Repository.Fault} (hcall : .close m (.error f) ∈ made)
      (hfaults : made.countP Errand.isRecord < r.faults) :
      Closing r m reason made (r.find? m.jobId)
  | ended {row : Row} (hcall : .close m (.ok false) ∈ made)
      (hfaults : r.faults ≤ made.countP Errand.isRecord)
      (hrow : r.find? m.jobId = some row) (hend : row.status.isTerminal = true) :
      Closing r m reason made (some row)
  | closed {now : Instant} (hcall : .close m (.ok true) ∈ made)
      (hfaults : r.faults ≤ made.countP Errand.isRecord)
      (hopen : ∀ row, r.find? m.jobId = some row → row.status = .pending) :
      Closing r m reason made
        (some (Repository.closedRow (r.find? m.jobId) m.imageUrl reason now))

/-- What becomes of the entry of a delivery that was set back: a new one is in its place, or it
    is still held. -/
def Replaced (b : Queue.Broker) (c : Config) (raw reason : String) (settled o : Outcome)
    (before after : List String) : Prop :=
  b.settleFaults < tries c ∧ o = settled ∧
      (∃ entry, Retries raw reason entry ∧ after = before ++ [entry]) ∨
    tries c ≤ b.settleFaults ∧ o = .unsettled

/-- What a delivery of the message comes to. -/
structure Worked (x : Outside) (c : Config) (b : Backend) (raw : String) (m : Message) (d : Bench)
    (o : Outcome) : Prop where
  completed : o = .completed ↔ (∃ ps, x.heard c m = .ok ps) ∧ b.repository.faults = 0
  failed : o = .failed ↔
    (∃ f, x.heard c m = .error f ∧ f.isRetryable = false) ∧ b.repository.faults = 0
  /-- Then the row of the job says what was found, or why the job cannot be done. -/
  recorded : o = .completed ∨ o = .failed → ∃ result ids now, Finding m (x.heard c m) result ∧
    d.row? m.jobId =
      some (Repository.recordedRow (b.repository.find? m.jobId) result ids now)
  /-- With attempts left, no row changes, and the delivery goes back to the queue. -/
  again : o ≠ .completed → o ≠ .failed → Queue.attemptsOf raw + 1 < c.maxAttempts →
    (∀ j, d.row? j = b.repository.find? j) ∧ d.dead = b.broker.dead ∧
    ∃ setback, Hinders x c b.repository m d.errands setback ∧
      Replaced b.broker c raw setback.message .requeued o b.broker.ready d.ready
  /-- Without, the delivery is given up, and the job is closed with it. -/
  noMore : o ≠ .completed → o ≠ .failed → c.maxAttempts ≤ Queue.attemptsOf raw + 1 →
    d.ready = b.broker.ready ∧
    ∃ setback, Hinders x c b.repository m d.errands setback ∧
      Closing b.repository m ("retries exhausted after " ++
        toString (Queue.attemptsOf raw + 1) ++ " attempts: " ++ setback.message)
        d.errands (d.row? m.jobId) ∧
      Replaced b.broker c raw setback.message .deadLettered o b.broker.dead d.dead

/-- How the work on the delivery of an entry ends. -/
structure Ending (c : Config) (b : Backend) (l : Ledger) (raw : String) (d : Bench) (o : Outcome) :
    Prop where
  phase : d.task.phase = .finished o
  counted : d.ledger.stats = l.stats.add o
  /-- The delivery is no longer held just if fewer faults are ahead than there are tries. -/
  settled : b.broker.settleFaults < tries c →
    b.broker.inFlight.Perm (raw :: d.inFlight) ∧ d.ledger.needsRecovery = l.needsRecovery
  held : tries c ≤ b.broker.settleFaults → d.inFlight = b.broker.inFlight ∧
    d.ready = b.broker.ready ∧ d.dead = b.broker.dead ∧ d.ledger.needsRecovery = true

/-- What the work on the delivery of an entry does. -/
structure Effects (x : Outside) (c : Config) (b : Backend) (l : Ledger) (raw : String) (d : Bench)
    (o : Outcome) : Prop extends Ending c b l raw d o where
  /-- No call but a settlement is made twice. -/
  once : d.errands.countP Errand.isDetect ≤ 1 ∧ d.errands.countP Errand.isRecord ≤ 1 ∧
    d.errands.countP Errand.isClose ≤ 1 ∧ d.errands.countP Errand.isSettle ≤ tries c
  unreadable : ∀ fault, Message.decode (Queue.bodyOf raw) = .error fault → o = .dropped ∧
    (∀ e ∈ d.errands, ∃ answer, e = .settle .ack answer) ∧
    d.backend.repository = b.repository
  readable : ∀ m, Message.decode (Queue.bodyOf raw) = .ok m → Worked x c b raw m d o
  /-- An acknowledgement adds no entry. -/
  acked : o = .dropped ∨ o = .completed ∨ o = .failed →
    d.ready = b.broker.ready ∧ d.dead = b.broker.dead
  others : ∀ j, (∀ m, Message.decode (Queue.bodyOf raw) = .ok m → m.jobId ≠ j) →
    d.row? j = b.repository.find? j

variable {c : Config} {x : Outside} {b : Backend} {l : Ledger} {d d₀ : Bench} {m : Message}
  {raw reason : String} {o settled held : Outcome} {errands : List Errand} {r r' : Repository}
  {settlement : Queue.Broker.Settlement} {setback : Setback} {result : JobResult}

/-! ### The queue after the settlement -/

/-- The settlement as the queue shows it. -/
inductive Sealed (x : Outside) (c : Config) (b : Backend) (l : Ledger) (raw : String)
    (settlement : Queue.Broker.Settlement) (settled held : Outcome) (d : Bench) (o : Outcome) :
    Prop where
  | done (i : Nat) (hroom : b.broker.settleFaults < tries c) (houtcome : o = settled)
      (hflag : d.ledger.needsRecovery = l.needsRecovery)
      (hready : d.ready = b.broker.ready ++ settlement.back raw (x.draw i).now)
      (hdead : d.dead = b.broker.dead ++ settlement.buried raw (x.draw i).now)
      (hheld : d.inFlight.Perm (b.broker.inFlight.erase raw)) :
      Sealed x c b l raw settlement settled held d o
  | givenUp (hnone : tries c ≤ b.broker.settleFaults) (houtcome : o = held)
      (hflag : d.ledger.needsRecovery = true) (hready : d.ready = b.broker.ready)
      (hdead : d.dead = b.broker.dead) (hheld : d.inFlight = b.broker.inFlight) :
      Sealed x c b l raw settlement settled held d o

theorem sealed_of_settled {phase : Phase} {backoff : Span}
    (hat : At b.broker l raw d₀ phase errands r)
    (h : Settled x d₀ ⟨settlement, tries c, backoff, settled, held⟩ d o) :
    Sealed x c b l raw settlement settled held d o := by
  have hdone := h.done
  have hgivenUp := h.givenUp
  rw [hat.broker, hat.ledger, hat.task] at hdone
  rw [hat.broker] at hgivenUp
  rcases Nat.lt_or_ge b.broker.settleFaults (tries c) with hroom | hnone
  · obtain ⟨houtcome, hflag, i, hbroker⟩ := hdone hroom
    have hlists := Queue.Broker.lists_settle ({ b.broker with settleFaults := 0 }) raw
      (x.draw i).now settlement
    refine .done i hroom houtcome hflag ?_ ?_ ?_
    · rw [ready, hbroker]
      exact hlists.1
    · rw [dead, hbroker]
      exact hlists.2
    · rw [inFlight, hbroker]
      exact Queue.Broker.inFlight_settle _ raw _ settlement
  · obtain ⟨houtcome, hflag, hbroker⟩ := hgivenUp hnone
    refine .givenUp hnone houtcome hflag ?_ ?_ ?_
    · rw [ready, hbroker]
    · rw [dead, hbroker]
    · rw [inFlight, hbroker]

theorem Sealed.ending (h : Sealed x c b l raw settlement settled held d o)
    (hheld : raw ∈ b.broker.inFlight) (hphase : d.task.phase = .finished o)
    (hcounted : d.ledger.stats = l.stats.add o) : Ending c b l raw d o := by
  refine ⟨hphase, hcounted, fun hroom => ?_, fun hnone => ?_⟩
  · cases h with
    | done i _ _ hflag _ _ hperm =>
      exact ⟨(List.perm_cons_erase hheld).trans (hperm.symm.cons raw), hflag⟩
    | givenUp hnone => omega
  · cases h with
    | done i hroom => omega
    | givenUp _ _ hflag hready hdead hsame => exact ⟨hsame, hready, hdead, hflag⟩

/-- An acknowledgement adds no entry. -/
theorem Sealed.of_ack (h : Sealed x c b l raw .ack settled settled d o) :
    o = settled ∧ d.ready = b.broker.ready ∧ d.dead = b.broker.dead := by
  cases h with
  | done i _ houtcome _ hready hdead =>
    exact ⟨houtcome, hready.trans (List.append_nil _), hdead.trans (List.append_nil _)⟩
  | givenUp _ houtcome _ hready hdead => exact ⟨houtcome, hready, hdead⟩

theorem retries_retriedRaw (hcount : Queue.Countable raw) {now : Instant} (hnow : now.IsClock) :
    Retries raw reason (Queue.retriedRaw raw reason now) := by
  obtain ⟨hattempts, hbody⟩ := Queue.envelope_ofRaw raw now
  exact ⟨_, Queue.ofRaw?_retriedRaw reason hcount hnow, hbody, congrArg (· + 1) hattempts, rfl⟩

theorem Sealed.of_requeue (h : Sealed x c b l raw (.requeue reason) .requeued .unsettled d o)
    (hcount : Queue.Countable raw) (hclock : ∀ i, (x.draw i).now.IsClock) :
    d.dead = b.broker.dead ∧
      Replaced b.broker c raw reason .requeued o b.broker.ready d.ready := by
  cases h with
  | done i hroom houtcome _ hready hdead =>
    refine ⟨hdead.trans (List.append_nil _), Or.inl ⟨hroom, houtcome, ?_⟩⟩
    exact ⟨_, retries_retriedRaw hcount (hclock i), hready⟩
  | givenUp hnone houtcome _ hready hdead => exact ⟨hdead, Or.inr ⟨hnone, houtcome⟩⟩

theorem Sealed.of_deadLetter
    (h : Sealed x c b l raw (.deadLetter reason) .deadLettered .unsettled d o)
    (hcount : Queue.Countable raw) (hclock : ∀ i, (x.draw i).now.IsClock) :
    d.ready = b.broker.ready ∧
      Replaced b.broker c raw reason .deadLettered o b.broker.dead d.dead := by
  cases h with
  | done i hroom houtcome _ hready hdead =>
    refine ⟨hready.trans (List.append_nil _), Or.inl ⟨hroom, houtcome, ?_⟩⟩
    exact ⟨_, retries_retriedRaw hcount (hclock i), hdead⟩
  | givenUp hnone houtcome _ hready hdead => exact ⟨hready, Or.inr ⟨hnone, houtcome⟩⟩

/-! ### The stored jobs after the way -/

/-- A result is recorded just if no fault is ahead. -/
theorem faults_of_upsert {ids : Nat → Uuid} {now : Instant} {answer : Except Repository.Fault Unit}
    (h : r.upsert result ids now = (r', answer)) : answer = .ok () ↔ r.faults = 0 := by
  cases hfaults : r.faults with
  | zero =>
    rw [Repository.upsert_of_noFault hfaults] at h
    cases h
    exact ⟨fun _ => rfl, fun _ => rfl⟩
  | succ n =>
    rw [Repository.upsert, Repository.call_of_fault hfaults] at h
    cases h
    simp

theorem Finding.final (h : Finding m (x.heard c m) result) (f : Detection.Fault)
    (hheard : x.heard c m = .error f) : f.isRetryable = false := by
  rw [hheard] at h
  cases h with
  | rejected _ hfinal => exact hfinal

theorem Finding.jobId {answer : Except Detection.Fault (List Prediction)}
    (h : Finding m answer result) : result.jobId = m.jobId := by
  cases h <;> rfl

/-- A setback changes no row. -/
theorem SetBack.rows (h : SetBack x c r m setback errands r') (j : String) :
    r'.find? j = r.find? j := by
  cases h with
  | detection => rfl
  | repository _ hcall =>
    rcases Repository.find?_upsert hcall with ⟨_, _, hrows⟩ | ⟨hfault, _⟩
    · exact hrows j
    · cases hfault

/-- After a setback the job is neither completed nor rejected. -/
theorem SetBack.not_recorded (h : SetBack x c r m setback errands r') :
    ¬ ((∃ ps, x.heard c m = .ok ps) ∧ r.faults = 0) ∧
      ¬ ((∃ f, x.heard c m = .error f ∧ f.isRetryable = false) ∧ r.faults = 0) := by
  cases h with
  | detection hheard hretryable =>
    constructor
    · rintro ⟨⟨ps, hok⟩, _⟩
      rw [hheard] at hok
      cases hok
    · rintro ⟨⟨f, herror, hfinal⟩, _⟩
      rw [hheard] at herror
      cases herror
      rw [hretryable] at hfinal
      cases hfinal
  | repository _ hcall =>
    have hfaults : r.faults ≠ 0 := fun hnone => by
      cases (faults_of_upsert hcall).mpr hnone
    exact ⟨fun h => hfaults h.2, fun h => hfaults h.2⟩

/-- A setback met as many faults as results were to be recorded. -/
theorem SetBack.faults (h : SetBack x c r m setback errands r') :
    r'.faults = r.faults - errands.countP Errand.isRecord := by
  cases h with
  | detection => rfl
  | repository _ hcall =>
    cases hfaults : r.faults with
    | zero => cases (faults_of_upsert hcall).mpr hfaults
    | succ n =>
      rw [Repository.upsert, Repository.call_of_fault hfaults] at hcall
      cases hcall
      rfl

/-- The conditional write fails just if a fault is ahead. -/
theorem faults_of_markFailed {jobId imageUrl : String} {now : Instant}
    {answer : Except Repository.Fault Bool}
    (h : r.markFailed jobId imageUrl reason now = (r', answer)) :
    (∃ f, answer = .error f) ↔ 0 < r.faults := by
  cases hfaults : r.faults with
  | zero =>
    rw [Repository.markFailed_of_noFault hfaults] at h
    cases h
    simp
  | succ n =>
    rw [Repository.markFailed, Repository.call_of_fault hfaults] at h
    cases h
    simp

/-- After a setback the conditional write says what becomes of the job. -/
theorem SetBack.closing (h : SetBack x c r m setback errands r') {r'' : Repository}
    {now : Instant} {answer : Except Repository.Fault Bool} {made : List Errand}
    (hcall : r'.markFailed m.jobId m.imageUrl reason now = (r'', answer))
    (hmade : .close m answer ∈ made)
    (hrecords : made.countP Errand.isRecord = errands.countP Errand.isRecord) :
    Closing r m reason made (r''.find? m.jobId) := by
  have hahead := faults_of_markFailed hcall
  rw [h.faults, ← hrecords, Nat.sub_pos_iff_lt] at hahead
  have hroom {closed : Bool} (hok : answer = .ok closed) :
      r.faults ≤ made.countP Errand.isRecord := by
    refine Nat.not_lt.mp fun hlt => ?_
    obtain ⟨f, hf⟩ := hahead.mpr hlt
    rw [hok] at hf
    cases hf
  rcases Repository.find?_markFailed hcall with ⟨f, hf, hrows⟩ | ⟨hok, ⟨row, hrow, hend⟩, hrows⟩ |
    ⟨hok, hopen, hrows⟩
  · rw [hf] at hmade
    rw [hrows, h.rows]
    exact .unable hmade (hahead.mp ⟨f, hf⟩)
  · rw [hok] at hmade
    rw [hrows, hrow]
    rw [h.rows] at hrow
    exact .ended hmade (hroom hok) hrow hend
  · rw [hok] at hmade
    rw [hrows, if_pos rfl, h.rows]
    refine .closed hmade (hroom hok) fun row hrow => ?_
    rw [← h.rows] at hrow
    exact Status.isTerminal_eq_false.mp (hopen row hrow)

/-- The conditional write changes no row of another job. -/
theorem others_of_markFailed {jobId imageUrl j : String} {now : Instant}
    {answer : Except Repository.Fault Bool}
    (h : r.markFailed jobId imageUrl reason now = (r', answer)) (hj : j ≠ jobId) :
    r'.find? j = r.find? j := by
  rcases Repository.find?_markFailed h with ⟨_, _, hrows⟩ | ⟨_, _, hrows⟩ | ⟨_, _, hrows⟩
  · exact hrows j
  · exact hrows j
  · rw [hrows, if_neg hj]

/-! ### Courses -/

theorem SetBack.once (h : SetBack x c r m setback errands r') :
    errands.countP Errand.isDetect = 1 ∧ errands.countP Errand.isRecord ≤ 1 ∧
      errands.countP Errand.isClose = 0 ∧ errands.countP Errand.isSettle = 0 := by
  cases h with
  | detection => exact ⟨rfl, Nat.zero_le 1, rfl, rfl⟩
  | repository => exact ⟨rfl, Nat.le_refl 1, rfl, rfl⟩

/-- On the way to the settlement no call is made twice. -/
theorem Course.once (h : Course x c r raw errands r' settlement settled held) :
    errands.countP Errand.isDetect ≤ 1 ∧ errands.countP Errand.isRecord ≤ 1 ∧
      errands.countP Errand.isClose ≤ 1 ∧ errands.countP Errand.isSettle = 0 := by
  cases h with
  | unreadable => exact ⟨Nat.zero_le 1, Nat.zero_le 1, Nat.zero_le 1, rfl⟩
  | recorded => exact ⟨Nat.le_refl 1, Nat.le_refl 1, Nat.zero_le 1, rfl⟩
  | again _ hsetback =>
    obtain ⟨hdetect, hrecord, hclose, hsettle⟩ := hsetback.once
    exact ⟨by omega, hrecord, by omega, hsettle⟩
  | noMore _ hsetback =>
    obtain ⟨hdetect, hrecord, hclose, hsettle⟩ := hsetback.once
    simp only [List.countP_append, List.countP_singleton, Errand.isDetect, Errand.isRecord,
      Errand.isClose, Errand.isSettle, hdetect, hclose, hsettle]
    exact ⟨by simp, by simpa using hrecord, by simp, by simp⟩

theorem countP_of_settles {tried : List Errand} {p : Errand → Bool}
    (hall : ∀ e ∈ tried, ∃ answer, e = .settle settlement answer)
    (hp : ∀ answer, p (.settle settlement answer) = false) : tried.countP p = 0 := by
  refine List.countP_eq_zero.mpr fun e he => ?_
  obtain ⟨answer, rfl⟩ := hall e he
  rw [hp]
  nofun

/-- A settlement makes no other call. -/
theorem once_of_settled {s : Settling} (h : Settled x d₀ s d o)
    (hway : d₀.errands.countP Errand.isDetect ≤ 1 ∧ d₀.errands.countP Errand.isRecord ≤ 1 ∧
      d₀.errands.countP Errand.isClose ≤ 1 ∧ d₀.errands.countP Errand.isSettle = 0) :
    d.errands.countP Errand.isDetect ≤ 1 ∧ d.errands.countP Errand.isRecord ≤ 1 ∧
      d.errands.countP Errand.isClose ≤ 1 ∧ d.errands.countP Errand.isSettle ≤ s.tries := by
  obtain ⟨tried, herrands, hlength, hall⟩ := h.errands
  obtain ⟨hdetect, hrecord, hclose, hsettle⟩ := hway
  have htried : tried.countP Errand.isSettle ≤ tried.length := List.countP_le_length
  rw [herrands, List.countP_append, List.countP_append, List.countP_append, List.countP_append,
    countP_of_settles hall fun _ => rfl, countP_of_settles hall fun _ => rfl,
    countP_of_settles hall fun _ => rfl]
  exact ⟨hdetect, hrecord, hclose, by omega⟩

/-- Only the row of the job may change. -/
theorem Course.others (h : Course x c r raw errands r' settlement settled held) (j : String)
    (hj : ∀ m, Message.decode (Queue.bodyOf raw) = .ok m → m.jobId ≠ j) :
    r'.find? j = r.find? j := by
  cases h with
  | unreadable => rfl
  | @recorded m _ _ _ hbody hfinding hcall =>
    rcases Repository.find?_upsert hcall with ⟨_, hfault, _⟩ | ⟨_, hrows⟩
    · cases hfault
    · rw [hrows, if_neg]
      rw [hfinding.jobId]
      exact fun heq => hj m hbody heq.symm
  | again _ hsetback => exact hsetback.rows j
  | @noMore m _ _ _ _ _ _ _ hbody hsetback _ _ hcall =>
    rw [others_of_markFailed hcall fun heq => hj m hbody heq.symm]
    exact hsetback.rows j

/-- The outcome of a finding that was recorded. -/
theorem Finding.outcome {answer : Except Detection.Fault (List Prediction)}
    (h : Finding m answer result) :
    (Task.recorded result = .completed ↔ ∃ ps, answer = .ok ps) ∧
      (Task.recorded result = .failed ↔ ∃ f, answer = .error f ∧ f.isRetryable = false) ∧
      (Task.recorded result = .completed ∨ Task.recorded result = .failed) := by
  cases h with
  | found ps => exact ⟨⟨fun _ => ⟨ps, rfl⟩, fun _ => rfl⟩, ⟨nofun, nofun⟩, Or.inl rfl⟩
  | rejected _ hfinal =>
    exact ⟨⟨nofun, nofun⟩, ⟨fun _ => ⟨_, rfl, hfinal⟩, fun _ => rfl⟩, Or.inr rfl⟩

theorem worked_of_recorded (hfinding : Finding m (x.heard c m) result) {i : Nat}
    (hcall : b.repository.upsert result (x.draw i).ids (x.draw i).now = (r', .ok ()))
    (houtcome : o = Task.recorded result) (hrepository : d.backend.repository = r') :
    Worked x c b raw m d o := by
  have hfaults := (faults_of_upsert hcall).mp rfl
  obtain ⟨hcompleted, hfailed, hends⟩ := hfinding.outcome
  rw [← houtcome] at hcompleted hfailed hends
  refine ⟨?_, ?_, fun _ => ?_, fun hnot hnot' => ?_, fun hnot hnot' => ?_⟩
  · rw [hcompleted]
    exact (and_iff_left hfaults).symm
  · rw [hfailed]
    exact (and_iff_left hfaults).symm
  · refine ⟨result, (x.draw i).ids, (x.draw i).now, hfinding, ?_⟩
    rcases Repository.find?_upsert hcall with ⟨_, hfault, _⟩ | ⟨_, hrows⟩
    · cases hfault
    · rw [row?, hrepository, hrows, hfinding.jobId, if_pos rfl]
  · exact absurd hends (not_or.mpr ⟨hnot, hnot'⟩)
  · exact absurd hends (not_or.mpr ⟨hnot, hnot'⟩)

/-- A delivery that was set back ends in neither way of a job that is recorded. -/
theorem worked_of_setBack (hsetback : SetBack x c b.repository m setback errands r')
    (hmade : errands <+: d.errands) (houtcome : o ≠ .completed ∧ o ≠ .failed)
    (hagain : Queue.attemptsOf raw + 1 < c.maxAttempts →
      (∀ j, d.row? j = b.repository.find? j) ∧ d.dead = b.broker.dead ∧
        Replaced b.broker c raw setback.message .requeued o b.broker.ready d.ready)
    (hnoMore : c.maxAttempts ≤ Queue.attemptsOf raw + 1 → d.ready = b.broker.ready ∧
      Closing b.repository m ("retries exhausted after " ++
        toString (Queue.attemptsOf raw + 1) ++ " attempts: " ++ setback.message)
        d.errands (d.row? m.jobId) ∧
      Replaced b.broker c raw setback.message .deadLettered o b.broker.dead d.dead) :
    Worked x c b raw m d o := by
  obtain ⟨hnotFound, hnotRejected⟩ := hsetback.not_recorded
  have hhinders : Hinders x c b.repository m d.errands setback := ⟨errands, r', hsetback, hmade⟩
  refine ⟨?_, ?_, fun hends => ?_, fun _ _ hroom => ?_, fun _ _ hroom => ?_⟩
  · exact ⟨fun heq => absurd heq houtcome.1, fun hboth => absurd hboth hnotFound⟩
  · exact ⟨fun heq => absurd heq houtcome.2, fun hboth => absurd hboth hnotRejected⟩
  · exact absurd hends (not_or.mpr houtcome)
  · obtain ⟨hrows, hdead, hreplaced⟩ := hagain hroom
    exact ⟨hrows, hdead, setback, hhinders, hreplaced⟩
  · obtain ⟨hready, hclosing, hreplaced⟩ := hnoMore hroom
    exact ⟨hready, setback, hhinders, hclosing, hreplaced⟩

/-- An entry that was replaced, or is held, is that of a delivery that was set back. -/
theorem Replaced.not_recorded {before after : List String}
    (h : Replaced b.broker c raw reason settled o before after)
    (hsettled : settled = .requeued ∨ settled = .deadLettered) :
    o ≠ .dropped ∧ o ≠ .completed ∧ o ≠ .failed := by
  rcases h with ⟨_, rfl, _⟩ | ⟨_, rfl⟩
  · rcases hsettled with rfl | rfl
    · exact ⟨nofun, nofun, nofun⟩
    · exact ⟨nofun, nofun, nofun⟩
  · exact ⟨nofun, nofun, nofun⟩

/-- **The effects of a course and its settlement.** -/
theorem effects_of_course (hcount : Queue.Countable raw) (hclock : ∀ i, (x.draw i).now.IsClock)
    (hcourse : Course x c b.repository raw errands r' settlement settled held)
    (hsealed : Sealed x c b l raw settlement settled held d o)
    (hrepository : d.backend.repository = r') (hending : Ending c b l raw d o)
    (honce : d.errands.countP Errand.isDetect ≤ 1 ∧ d.errands.countP Errand.isRecord ≤ 1 ∧
      d.errands.countP Errand.isClose ≤ 1 ∧ d.errands.countP Errand.isSettle ≤ tries c)
    (herrands : ∃ tried, d.errands = errands ++ tried ∧
      ∀ e ∈ tried, ∃ answer, e = .settle settlement answer) : Effects x c b l raw d o := by
  have hothers : ∀ j, (∀ m, Message.decode (Queue.bodyOf raw) = .ok m → m.jobId ≠ j) →
      d.row? j = b.repository.find? j := by
    intro j hj
    rw [row?, hrepository]
    exact hcourse.others j hj
  obtain ⟨tried, htried, hall⟩ := herrands
  cases hcourse with
  | unreadable hbody =>
    obtain ⟨houtcome, hready, hdead⟩ := hsealed.of_ack
    refine ⟨hending, honce, fun _ _ => ⟨houtcome, ?_, hrepository⟩, fun m hm => ?_,
      fun _ => ⟨hready, hdead⟩, hothers⟩
    · rw [htried]
      exact hall
    · rw [hbody] at hm
      cases hm
  | @recorded m _ _ _ hbody hfinding hcall =>
    obtain ⟨houtcome, hready, hdead⟩ := hsealed.of_ack
    refine ⟨hending, honce, fun _ hfault => ?_, fun m' hm => ?_, fun _ => ⟨hready, hdead⟩,
      hothers⟩
    · rw [hbody] at hfault
      cases hfault
    · obtain rfl : m = m' := Except.ok.inj (hbody.symm.trans hm)
      exact worked_of_recorded hfinding hcall houtcome hrepository
  | @again m setback _ _ hbody hsetback hroom =>
    obtain ⟨hdead, hreplaced⟩ := hsealed.of_requeue hcount hclock
    have hnot := hreplaced.not_recorded (Or.inl rfl)
    refine ⟨hending, honce, fun _ hfault => ?_, fun m' hm => ?_, fun hends => ?_, hothers⟩
    · rw [hbody] at hfault
      cases hfault
    · obtain rfl : m = m' := Except.ok.inj (hbody.symm.trans hm)
      refine worked_of_setBack hsetback ⟨tried, htried.symm⟩ hnot.2
        (fun _ => ⟨fun j => ?_, hdead, hreplaced⟩)
        fun hnone => absurd hroom (Nat.not_lt.mpr hnone)
      rw [row?, hrepository]
      exact hsetback.rows j
    · exact absurd hends (not_or.mpr ⟨hnot.1, not_or.mpr hnot.2⟩)
  | @noMore m setback _ _ _ reason i answer hbody hsetback hroom hreason hcall =>
    obtain ⟨hready, hreplaced⟩ := hsealed.of_deadLetter hcount hclock
    have hnot := hreplaced.not_recorded (Or.inr rfl)
    refine ⟨hending, honce, fun _ hfault => ?_, fun m' hm => ?_, fun hends => ?_, hothers⟩
    · rw [hbody] at hfault
      cases hfault
    · obtain rfl : m = m' := Except.ok.inj (hbody.symm.trans hm)
      have hmade := (List.prefix_append _ [Errand.close m answer]).trans ⟨tried, htried.symm⟩
      have hclose : .close m answer ∈ d.errands := by
        rw [htried]
        exact List.mem_append_left _ (List.mem_append_right _ (List.mem_singleton_self _))
      refine worked_of_setBack hsetback hmade hnot.2 (fun hmore => absurd hmore hroom)
        fun _ => ⟨hready, ?_, hreplaced⟩
      rw [row?, hrepository, ← hreason]
      refine hsetback.closing hcall hclose ?_
      rw [htried, List.countP_append, List.countP_append, countP_of_settles hall fun _ => rfl]
      rfl
    · exact absurd hends (not_or.mpr ⟨hnot.1, not_or.mpr hnot.2⟩)

/-- **What the work on one delivery does**, for every entry that is held, every answer of the
    detection service or none, and all faults that are ahead. -/
theorem delivery_effects (c : Config) (x : Outside) (b : Backend) (l : Ledger) (raw : String)
    (hheld : raw ∈ b.broker.inFlight) (hcount : Queue.Countable raw)
    (hclock : ∀ i, (x.draw i).now.IsClock) :
    ∃ o, Effects x c b l raw (handle c x b l raw) o := by
  obtain ⟨errands, r', settlement, settled, held, d₀, o, hcourse, hat, hsettled⟩ :=
    handled c x b l raw (Or.inl (tries_le c)) (Nat.le_of_eq (enough_eq c).symm)
  have hsealed := sealed_of_settled hat hsettled
  have hcounted := hsettled.stats
  rw [hat.ledger] at hcounted
  have honce := hcourse.once
  rw [← hat.errands] at honce
  obtain ⟨tried, herrands, _, hall⟩ := hsettled.errands
  rw [hat.errands] at herrands
  exact ⟨o, effects_of_course hcount hclock hcourse hsealed
    (hsettled.repository.trans hat.repository) (hsealed.ending hheld hsettled.phase hcounted)
    (once_of_settled hsettled honce) ⟨tried, herrands, hall⟩⟩

/-- The body of a message without an envelope. -/
def bare : String := (⟨"job-1", "https://x/a.png"⟩ : Message).body

/-- The entry is held, and the next call to the stored jobs and the next settlement fail. -/
def troubled : Backend :=
  ⟨{ Queue.Broker.empty with inFlight := [bare], settleFaults := 1 }, ⟨[], 1⟩, {}⟩

def noon : Instant := ⟨⟨2024, 6, 1⟩, 43200, 0⟩

/-- The detection service finds nothing, and it is noon. -/
def quietNoon : Outside := ⟨fun _ => some (0, .ok []), fun _ => ⟨noon, .ofRandom⟩⟩

def outage : Setback := .repository (.unavailable "simulated database outage")

/-- The only setback there can be is the fault of the stored jobs. -/
theorem eq_outage_of_troubled {made : List Errand}
    (h : Hinders quietNoon .standard troubled.repository m made setback) : setback = outage := by
  obtain ⟨errands, r', hsetback, _⟩ := h
  cases hsetback with
  | detection hheard =>
    simp only [Outside.heard, quietNoon, Nat.zero_le, if_true] at hheard
    cases hheard
  | repository _ hcall =>
    rw [Repository.upsert, Repository.call_of_fault (r := troubled.repository) rfl] at hcall
    cases hcall
    rfl

theorem delivery_effects_of_troubled :
    bare ∈ troubled.broker.inFlight ∧ Queue.Countable bare ∧
      (∀ i, (quietNoon.draw i).now.IsClock) ∧
      Effects quietNoon .standard troubled .empty bare
        (handle .standard quietNoon troubled .empty bare) .requeued ∧
      ∃ entry, (handle .standard quietNoon troubled .empty bare).ready = [entry] ∧
        Retries bare "Failed to persist result: Repository unavailable: simulated database outage"
          entry := by
  have hheld : bare ∈ troubled.broker.inFlight := List.mem_singleton_self _
  have hcount : Queue.Countable bare := by decide +kernel
  have hnoon : noon.IsClock := by decide
  have hclock : ∀ i, (quietNoon.draw i).now.IsClock := fun _ => hnoon
  obtain ⟨o, heffects⟩ :=
    delivery_effects .standard quietNoon troubled .empty bare hheld hcount hclock
  have houtcome : (handle .standard quietNoon troubled .empty bare).task.phase =
      .finished .requeued := by
    decide +kernel
  obtain rfl : o = .requeued := Phase.finished.inj (heffects.phase.symm.trans houtcome)
  refine ⟨hheld, hcount, hclock, heffects, ?_⟩
  have hroom : Queue.attemptsOf bare + 1 < Config.standard.maxAttempts := by decide +kernel
  cases hbody : Message.decode (Queue.bodyOf bare) with
  | error fault => cases (heffects.unreadable fault hbody).1
  | ok m =>
    obtain ⟨_, _, setback, hhinders, hreplaced⟩ :=
      (heffects.readable m hbody).again nofun nofun hroom
    rw [eq_outage_of_troubled hhinders] at hreplaced
    rcases hreplaced with ⟨_, _, entry, hretries, hready⟩ | ⟨hnone, _⟩
    · exact ⟨entry, hready, hretries⟩
    · exact absurd hnone (by decide)

end Bench

end DetectionJobs.Worker
