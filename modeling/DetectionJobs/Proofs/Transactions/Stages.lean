/-
  DetectionJobs/Proofs/Transactions/Stages.lean
  =============================================
  **How far a call has come, and what its transaction holds by then.**

  A call that records a result takes the lock on its job before anything else.  What it wrote
  since depends only on what the committed tables hold of this job, and nobody else changes
  that as long as the lock is held.  A call that reads takes its snapshot with its first query,
  and so reads what some of the committed writes have left.
-/
import DetectionJobs.Proofs.Transactions.Changes

namespace DetectionJobs.Repository

/-! ### Statements that are carried out -/

namespace Session

variable {c : Session} {x : Transaction} {t committed : Tables} {transaction? : Option Transaction}
  {s : Statement} {reply : Reply}

theorem apply_ok {now : Instant} {ids : Nat → Uuid} {result : Tables × Reply}
    (h : s.apply now ids t = .ok result) :
    s.accept = .ok () ∧ s.effect now ids t = .ok result := by
  rw [Statement.apply] at h
  cases haccept : s.accept with
  | error refusal =>
    rw [haccept] at h
    cases h
  | ok _ =>
    rw [haccept] at h
    exact ⟨rfl, h⟩

/-- A statement within a transaction leaves the committed tables alone. -/
theorem carryOut_within (hx : c.transaction? = some x)
    (h : c.carryOut committed s = .ok (t, transaction?, reply))
    (hplain : s.isPlain = true) (hsnapshot : decide (s = .readSnapshot) = false) :
    s.accept = .ok () ∧
      (∃ seen, s.effect c.now c.ids (x.view committed) = .ok (seen, reply)) ∧
      t = committed ∧ transaction? = some ⟨x.sightAfter committed,
        s.changes c.now c.ids (x.view committed) x.own, s.lock?.toList ++ x.locks⟩ := by
  have hcarry : c.carryOut committed s = (do
      let result ← s.apply c.now c.ids (x.view committed)
      let own := s.changes c.now c.ids (x.view committed) x.own
      return (committed, some ⟨x.sightAfter committed, own, s.lock?.toList ++ x.locks⟩,
        result.2)) := by
    obtain ⟨call, now, ids, since, stage, opened⟩ := c
    cases hx
    cases s with
    | readSnapshot => cases hsnapshot
    | begin | commit | rollback => cases hplain
    | _ => rfl
  rw [hcarry] at h
  cases happly : s.apply c.now c.ids (x.view committed) with
  | error refusal =>
    rw [happly] at h
    cases h
  | ok result =>
    rw [happly] at h
    cases h
    obtain ⟨haccept, heffect⟩ := apply_ok happly
    exact ⟨haccept, ⟨_, heffect⟩, rfl, rfl⟩

/-- A statement outside a transaction is committed at once. -/
theorem carryOut_outside (hx : c.transaction? = none)
    (h : c.carryOut committed s = .ok (t, transaction?, reply)) (hplain : s.isPlain = true) :
    s.accept = .ok () ∧ (∃ seen, s.effect c.now c.ids committed = .ok (seen, reply)) ∧
      t = (s.changes c.now c.ids committed .none).on committed ∧ transaction? = none := by
  have hcarry : c.carryOut committed s = (do
      let result ← s.apply c.now c.ids committed
      return ((s.changes c.now c.ids committed .none).on committed, none, result.2)) := by
    obtain ⟨call, now, ids, since, stage, opened⟩ := c
    cases hx
    cases s with
    | begin | commit | rollback => cases hplain
    | _ => rfl
  rw [hcarry] at h
  cases happly : s.apply c.now c.ids committed with
  | error refusal =>
    rw [happly] at h
    cases h
  | ok result =>
    rw [happly] at h
    cases h
    obtain ⟨haccept, heffect⟩ := apply_ok happly
    exact ⟨haccept, ⟨_, heffect⟩, rfl, rfl⟩

theorem commits_outside (hx : c.transaction? = none) : c.commits s = s.isPlain := by
  obtain ⟨call, now, ids, since, stage, opened⟩ := c
  cases hx
  cases s <;> rfl

theorem commits_within (hx : c.transaction? = some x) (hplain : s.isPlain = true) :
    c.commits s = false := by
  obtain ⟨call, now, ids, since, stage, opened⟩ := c
  cases hx
  cases s with
  | begin | commit | rollback => cases hplain
  | _ => rfl

end Session

/-! ### What a write makes of the tables -/

namespace Call

def Accepted (now : Instant) : Call → Prop
  | .createPending jobId imageUrl => (Statement.insertPending jobId imageUrl).accept = .ok ()
  | .upsert r => Storable r
  | .markFailed jobId imageUrl reason =>
    (Statement.insertFailed jobId imageUrl reason now).accept = .ok ()
  | .get _ => False

def written (now : Instant) (ids : Nat → Uuid) (t : Tables) : Call → Tables
  | .createPending jobId imageUrl => t.notePending jobId imageUrl now
  | .upsert r => t.recordResult r now ids
  | .markFailed jobId imageUrl reason => t.closeJob jobId imageUrl reason now now
  | .get _ => t

variable {c : Call} {t : Tables} {now : Instant}

theorem isWrite_of_accepted (h : c.Accepted now) : c.isWrite = true := by
  cases c with
  | get => exact h.elim
  | _ => rfl

theorem alone_of_accepted (h : c.Accepted now) (ids : Nat → Uuid) (t : Tables) :
    (c.alone now ids t).1 = c.written now ids t := by
  cases c with
  | createPending jobId imageUrl => rw [alone_createPending h, written]
  | upsert r => rw [alone_upsert h, written]
  | markFailed jobId imageUrl reason => rw [alone_markFailed h, written]
  | get => exact h.elim

theorem unique_written (h : t.Unique) (c : Call) (now : Instant) (ids : Nat → Uuid) :
    (c.written now ids t).Unique := by
  cases c with
  | createPending => exact h.notePending ..
  | upsert => exact h.recordResult ..
  | markFailed => exact h.closeJob ..
  | get => exact h

theorem sameJob_written (c : Call) (now : Instant) (ids : Nat → Uuid) (t : Tables)
    {other : String} (h : other ≠ c.jobId) : t.SameJob other (c.written now ids t) := by
  cases c with
  | createPending jobId imageUrl =>
    constructor
    · exact (t.job?_notePending jobId imageUrl now other).trans (if_neg h)
    · exact t.rowsOf_notePending jobId imageUrl now other
  | upsert r =>
    constructor
    · exact (t.job?_placeResult r.jobId r.imageUrl r.status r.error r.processedAt now other).trans
        (if_neg h)
    · exact (t.rowsOf_recordResult r now ids other).trans (if_neg h)
  | markFailed jobId imageUrl reason =>
    rw [written, Tables.closeJob]
    split
    · constructor
      · exact (t.job?_placeResult jobId imageUrl .failed (some reason) now now other).trans
          (if_neg h)
      · exact t.rowsOf_placeResult jobId imageUrl .failed (some reason) now now other
    · exact ⟨rfl, rfl⟩
  | get => exact ⟨rfl, rfl⟩

end Call

/-! ### How far a call has come -/

namespace Script

def answered : Script α → Reply → Script α
  | .done a, _ => .done a
  | .send _ next, reply => next reply

/-- What is left of a script after some replies. -/
def left (script : Script α) (replies : List Reply) : Script α := replies.foldl answered script

end Script

namespace Workload

/-- The row of a job as a result leaves it. -/
def versionFor (t : Tables) (r : JobResult) (now : Instant) : JobRecord :=
  Statement.overwrite r.status r.error r.processedAt
    ((t.job? r.jobId).getD ⟨r.jobId, r.imageUrl, "", none, none, inMicros now⟩)

section Lookup

variable {jobId : String} {j : JobRecord} {status : Status} {t : Tables}

/-- A state without a known name ends a read. -/
theorem left_of_corrupt (now : Instant) (hstatus : Status.ofName? j.status = none) :
    ((Call.get jobId).script now).left [.done, .done, .job (some j)] =
      .done (.view (.error (.corruptStatus jobId j.status))) := by
  simp only [Script.left, List.foldl_cons, List.foldl_nil, Call.script, Script.get,
    Script.sendAll, List.foldr_cons, List.foldr_nil, Script.map, Script.answered, hstatus]

/-- Once its row was found, the predictions of a job are read. -/
theorem left_of_status (now : Instant) (hstatus : Status.ofName? j.status = some status) :
    ∃ next, ((Call.get jobId).script now).left [.done, .done, .job (some j)] =
        .send (.selectPredictions jobId) next ∧
      ∀ rows, next (.predictions rows) =
        Script.sendAll [.commit] (.done (.view (.ok (some (Script.viewOf j status rows))))) := by
  simp only [Script.left, List.foldl_cons, List.foldl_nil, Call.script, Script.get,
    Script.sendAll, List.foldr_cons, List.foldr_nil, Script.map, Script.answered, hstatus]
  exact ⟨_, rfl, fun _ => rfl⟩

theorem viewOf_of_corrupt (hjob : t.job? jobId = some j)
    (hstatus : Status.ofName? j.status = none) :
    t.viewOf jobId = .error (.corruptStatus jobId j.status) := by
  rw [Tables.viewOf, hjob]
  dsimp only
  rw [hstatus]

theorem viewOf_of_status (hjob : t.job? jobId = some j)
    (hstatus : Status.ofName? j.status = some status) :
    t.viewOf jobId = .ok (some (Script.viewOf j status (t.predictionsOf jobId))) := by
  rw [Tables.viewOf, hjob]
  dsimp only
  rw [hstatus]

end Lookup

/-- What is left to be sent of a call under way, and its transaction, when these writes are
    committed and these are the tables. -/
inductive InProgress (t₀ t : Tables) (log : List Entry) (c : Session) :
    Script Answer → Option Transaction → Prop where
  | fresh : InProgress t₀ t log c (c.call.script c.now) none
  | begun {r : JobResult} (hcall : c.call = .upsert r) :
      InProgress t₀ t log c (((Call.upsert r).script c.now).left [.done]) (some .begun)
  | placed {r : JobResult} {version : JobRecord} (hcall : c.call = .upsert r)
      (hjob : (Statement.upsertJob r).accept = .ok ())
      (hversion : version = versionFor t r c.now) :
      InProgress t₀ t log c (((Call.upsert r).script c.now).left [.done, .done])
        (some ⟨.latest, ⟨[version], [], []⟩, [r.jobId]⟩)
  /-- There are predictions to be added. -/
  | cleared {r : JobResult} {version : JobRecord} {old : List PredictionRecord}
      (hcall : c.call = .upsert r) (hjob : (Statement.upsertJob r).accept = .ok ())
      (hold : (Statement.deletePredictions r.jobId).accept = .ok ())
      (hversion : version = versionFor t r c.now) (hrows : old = t.rowsOf r.jobId) :
      InProgress t₀ t log c
        (Script.sendAll [.insertPredictions r.jobId r.predictions, .commit] (.done .done))
        (some ⟨.latest, ⟨[version], old, []⟩, [r.jobId]⟩)
  /-- Nothing but the commit is left. -/
  | filled {r : JobResult} {version : JobRecord} {old : List PredictionRecord}
      (hcall : c.call = .upsert r) (hstorable : Storable r)
      (hversion : version = versionFor t r c.now) (hrows : old = t.rowsOf r.jobId) :
      InProgress t₀ t log c (Script.sendAll [.commit] (.done .done))
        (some ⟨.latest, ⟨[version], old, Tables.rowsFor r c.now c.ids⟩, [r.jobId]⟩)
  | reading {jobId : String} (hcall : c.call = .get jobId) :
      InProgress t₀ t log c (((Call.get jobId).script c.now).left [.done]) (some .begun)
  | asking {jobId : String} (hcall : c.call = .get jobId) :
      InProgress t₀ t log c (((Call.get jobId).script c.now).left [.done, .done])
        (some ⟨.snapshot none, .none, []⟩)
  /-- The row of the job was found in the snapshot. -/
  | found {jobId : String} {k : Nat} {j : JobRecord} {status : Status} (hcall : c.call = .get jobId)
      (hsince : c.since ≤ k) (hlog : k ≤ log.length)
      (hjob : (after t₀ (log.take k)).job? jobId = some j)
      (hstatus : Status.ofName? j.status = some status) :
      InProgress t₀ t log c (((Call.get jobId).script c.now).left [.done, .done, .job (some j)])
        (some ⟨.snapshot (some (after t₀ (log.take k))), .none, []⟩)
  | closing {jobId : String} {k : Nat} (hcall : c.call = .get jobId) (hsince : c.since ≤ k)
      (hlog : k ≤ log.length) :
      InProgress t₀ t log c
        (Script.sendAll [.commit] (.done (.view ((after t₀ (log.take k)).viewOf jobId))))
        (some ⟨.snapshot (some (after t₀ (log.take k))), .none, []⟩)

def locksOf (transaction? : Option Transaction) : List String :=
  transaction?.elim [] (·.locks)

/-- What others commit leaves a call where it is, if it does not touch the job that the call
    has locked. -/
theorem InProgress.mono {t₀ t t' : Tables} {log : List Entry} {c : Session}
    {script : Script Answer} {transaction? : Option Transaction}
    (h : InProgress t₀ t log c script transaction?) (more : List Entry)
    (hsame : ∀ jobId ∈ locksOf transaction?, t.SameJob jobId t') :
    InProgress t₀ t' (log ++ more) c script transaction? := by
  have htake : ∀ {k}, k ≤ log.length → (log ++ more).take k = log.take k :=
    fun hk => List.take_append_of_le_length hk
  have hlength : log.length ≤ (log ++ more).length := by
    rw [List.length_append]
    omega
  cases h with
  | fresh => exact .fresh
  | begun hcall => exact .begun hcall
  -- once the lock is taken, nobody else writes the row or the predictions of the job
  | @placed r version hcall hjob hversion =>
    obtain ⟨hjob', -⟩ := hsame r.jobId List.mem_cons_self
    refine .placed hcall hjob ?_
    rw [hversion, versionFor, versionFor, hjob']
  | @cleared r version old hcall hjob hold hversion hrows =>
    obtain ⟨hjob', hrows'⟩ := hsame r.jobId List.mem_cons_self
    refine .cleared hcall hjob hold ?_ (hrows.trans hrows'.symm)
    rw [hversion, versionFor, versionFor, hjob']
  | @filled r version old hcall hstorable hversion hrows =>
    obtain ⟨hjob', hrows'⟩ := hsame r.jobId List.mem_cons_self
    refine .filled hcall hstorable ?_ (hrows.trans hrows'.symm)
    rw [hversion, versionFor, versionFor, hjob']
  | reading hcall => exact .reading hcall
  | asking hcall => exact .asking hcall
  -- a snapshot stays what it was
  | found hcall hsince hlog hjob hstatus =>
    rw [← htake hlog] at hjob ⊢
    exact .found hcall hsince (Nat.le_trans hlog hlength) hjob hstatus
  | closing hcall hsince hlog =>
    rw [← htake hlog]
    exact .closing hcall hsince (Nat.le_trans hlog hlength)

theorem InProgress.sends {t₀ t : Tables} {log : List Entry} {c : Session} {script : Script Answer}
    {x : Option Transaction} (h : InProgress t₀ t log c script x) :
    ∃ s next, script = .send s next := by
  cases h with
  | fresh =>
    cases c.call <;> exact ⟨_, _, rfl⟩
  | found _ _ _ _ hstatus =>
    obtain ⟨next, hscript, -⟩ := left_of_status c.now hstatus
    exact ⟨_, next, hscript⟩
  | _ => exact ⟨_, _, rfl⟩

end Workload

end DetectionJobs.Repository
