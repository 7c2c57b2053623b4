/-
  DetectionJobs/Proofs/Transactions/Sequels.lean
  ==============================================
  **What comes of the next statement of a call.**

  A call goes on, or it is over: a read with what some of the committed writes have left, and a
  write with the tables that it makes with nobody else at work.
-/
import DetectionJobs.Proofs.Transactions.Stages

namespace DetectionJobs.Repository

namespace Workload

/-! ### Sequels -/

inductive Sequel (t₀ t : Tables) (log : List Entry) (c : Session) (s : Statement) :
    Tables → Option Transaction → Script Answer → Prop where
  /-- The call goes on, perhaps with a lock that it got. -/
  | goesOn {transaction? : Option Transaction} {script : Script Answer}
      (hquiet : (c.call.isWrite && c.commits s) = false)
      (hlocks : ∀ jobId ∈ locksOf transaction?,
        jobId ∈ locksOf c.transaction? ∨ s.lock? = some jobId ∧ s.isSettled t = false)
      (h : InProgress t₀ t log c script transaction?) : Sequel t₀ t log c s t transaction? script
  | reads {jobId : String} {k : Nat} {transaction? : Option Transaction}
      (hcall : c.call = .get jobId) (hlocks : locksOf transaction? = []) (hsince : c.since ≤ k)
      (hlog : k ≤ log.length) :
      Sequel t₀ t log c s t transaction?
        (.done (.view ((after t₀ (log.take k)).viewOf jobId)))
  /-- The call has written, and it is over. -/
  | writes {a : Answer} (hcommits : c.commits s = true) (haccepted : c.call.Accepted c.now)
      (hlast : ∀ r, c.call = .upsert r → s = .commit)
      (hlock : c.call.jobId ∈ locksOf c.transaction? ∨ s.lock? = some c.call.jobId ∧
        (s.isSettled t = true → c.call.written c.now c.ids t = t)) :
      Sequel t₀ t log c s (c.call.written c.now c.ids t) none (.done a)

/-- What a transaction that recorded a result puts on the tables. -/
theorem record_on {t : Tables} (hunique : t.Unique) (r : JobResult) (now : Instant)
    (ids : Nat → Uuid) :
    (⟨[versionFor t r now], t.rowsOf r.jobId, Tables.rowsFor r now ids⟩ : Changes).on t =
      t.recordResult r now ids := by
  -- taking out all that is seen of the job is taking out all of the job
  have hrest : t.predictions.filter (· ∉ t.rowsOf r.jobId) =
      t.predictions.filter (·.jobId ≠ r.jobId) := by
    apply List.filter_congr
    intro row hrow
    rw [decide_eq_decide, Tables.rowsOf, List.mem_filter, decide_eq_true_eq, not_and]
    exact ⟨fun h => h hrow, fun h _ => h⟩
  rw [Tables.recordResult, Tables.placeResult_eq_place hunique, ← hrest]
  rfl

theorem rowsOf_on_versions (versions : List JobRecord) (t : Tables) (jobId : String) :
    ((⟨versions, [], []⟩ : Changes).on t).rowsOf jobId = t.rowsOf jobId := by
  show (Changes.none.on t).rowsOf jobId = t.rowsOf jobId
  rw [Changes.none_on]

section Calls

variable {t₀ t committed : Tables} {log : List Entry} {c : Session} {s : Statement}
  {transaction? : Option Transaction} {reply : Reply} {r : JobResult} {jobId : String}
  {version : JobRecord} {old : List PredictionRecord}

/-- Within a transaction a plain statement without a lock commits nothing. -/
theorem Sequel.within {x : Transaction} {own : Changes} {script : Script Answer}
    (hx : c.transaction? = some x) (hplain : s.isPlain = true)
    (h : InProgress t₀ t log c script (some ⟨x.sight, own, x.locks⟩)) :
    Sequel t₀ t log c s t (some ⟨x.sight, own, x.locks⟩) script := by
  refine .goesOn ?_ ?_ h
  · rw [Session.commits_within hx hplain, Bool.and_false]
  · intro jobId hmem
    rw [hx]
    exact .inl hmem

/-! ### Writes of one statement -/

theorem sequel_of_single {a : Answer} (hx : c.transaction? = none)
    (hupsert : ∀ r, c.call ≠ .upsert r) (haccepted : c.call.Accepted c.now) (hunique : t.Unique)
    (hplain : s.isPlain = true) (hlock : s.lock? = some c.call.jobId)
    (heffect : s.effect c.now c.ids t = .ok (c.call.written c.now c.ids t, reply))
    (hsettled : s.isSettled t = true → c.call.written c.now c.ids t = t) :
    Sequel t₀ t log c s ((s.changes c.now c.ids t .none).on t) none (.done a) := by
  have heffect' : s.effect c.now c.ids (Changes.none.on t) =
      .ok (c.call.written c.now c.ids t, reply) := by rwa [Changes.none_on]
  have hon := Changes.changes_on heffect' (by rwa [Changes.none_on])
  rw [Changes.none_on] at hon
  rw [hon]
  refine .writes ?_ haccepted (fun r hcall => absurd hcall (hupsert r)) (.inr ⟨hlock, hsettled⟩)
  rw [Session.commits_outside hx, hplain]

theorem sequel_of_createPending {imageUrl : String} {a : Answer}
    (hcall : c.call = .createPending jobId imageUrl) (hx : c.transaction? = none)
    (hunique : t.Unique)
    (hserved : c.carryOut t (.insertPending jobId imageUrl) =
      .ok (committed, transaction?, reply)) :
    Sequel t₀ t log c (.insertPending jobId imageUrl) committed transaction? (.done a) := by
  obtain ⟨haccept, -, rfl, rfl⟩ := Session.carryOut_outside hx hserved rfl
  have hwritten : c.call.written c.now c.ids t = t.notePending jobId imageUrl c.now := by
    rw [hcall, Call.written]
  have heffect := effect_insertPending t c.now c.ids jobId imageUrl
  rw [← hwritten] at heffect
  refine sequel_of_single hx ?_ ?_ hunique rfl ?_ heffect ?_
  · intro r heq
    rw [hcall] at heq
    cases heq
  · rw [hcall]
    exact haccept
  · rw [hcall]
    rfl
  · intro hsettled
    rw [hwritten, Tables.notePending]
    exact if_pos hsettled

theorem sequel_of_markFailed {imageUrl reason : String} {a : Answer}
    (hcall : c.call = .markFailed jobId imageUrl reason) (hx : c.transaction? = none)
    (hunique : t.Unique)
    (hserved : c.carryOut t (.insertFailed jobId imageUrl reason c.now) =
      .ok (committed, transaction?, reply)) :
    Sequel t₀ t log c (.insertFailed jobId imageUrl reason c.now) committed transaction?
      (.done a) := by
  obtain ⟨haccept, -, rfl, rfl⟩ := Session.carryOut_outside hx hserved rfl
  have hwritten : c.call.written c.now c.ids t = t.closeJob jobId imageUrl reason c.now c.now := by
    rw [hcall, Call.written]
  have heffect := effect_insertFailed t c.now c.ids jobId imageUrl reason c.now
  rw [← hwritten] at heffect
  refine sequel_of_single hx ?_ ?_ hunique rfl ?_ heffect ?_
  · intro r heq
    rw [hcall] at heq
    cases heq
  · rw [hcall]
    exact haccept
  · rw [hcall]
    rfl
  · intro hsettled
    cases hsettled

/-! ### Results -/

theorem sequel_of_begun (hcall : c.call = .upsert r) (hx : c.transaction? = some .begun)
    (hserved : c.carryOut t (.upsertJob r) = .ok (committed, transaction?, reply)) :
    Sequel t₀ t log c (.upsertJob r) committed transaction?
      (((Call.upsert r).script c.now).left [.done, reply]) := by
  obtain ⟨haccept, -, rfl, rfl⟩ := Session.carryOut_within hx hserved rfl rfl
  refine .goesOn ?_ ?_ (.placed hcall haccept rfl)
  · rw [Session.commits_within hx rfl, Bool.and_false]
  · -- the one lock that it holds is the one that it got
    intro jobId hlock
    exact .inr ⟨congrArg some (List.mem_singleton.mp hlock).symm, rfl⟩

theorem sequel_of_placed (hcall : c.call = .upsert r)
    (hjob : (Statement.upsertJob r).accept = .ok ()) (hversion : version = versionFor t r c.now)
    (hx : c.transaction? = some ⟨.latest, ⟨[version], [], []⟩, [r.jobId]⟩)
    (hserved : c.carryOut t (.deletePredictions r.jobId) = .ok (committed, transaction?, reply)) :
    Sequel t₀ t log c (.deletePredictions r.jobId) committed transaction?
      (((Call.upsert r).script c.now).left [.done, .done, reply]) := by
  obtain ⟨haccept, -, rfl, rfl⟩ := Session.carryOut_within hx hserved rfl rfl
  have hrows := rowsOf_on_versions [version] committed r.jobId
  refine .within hx rfl ?_
  show InProgress t₀ committed log c (Script.map (fun _ => Answer.done) (Script.sendAll
    ((if r.predictions.isEmpty then [] else [.insertPredictions r.jobId r.predictions]) ++
      [.commit]) (.done ()))) _
  rw [Script.map_sendAll]
  by_cases hempty : r.predictions.isEmpty = true
  · -- nothing is left but the commit
    have hnil := List.isEmpty_iff.mp hempty
    have hnone : Tables.rowsFor r c.now c.ids = [] := by
      rw [Tables.rowsFor, hnil, List.mapIdx_nil]
    have hfilled : InProgress t₀ committed log c _ _ :=
      .filled hcall ⟨hjob, haccept, fun h => absurd hnil h⟩ hversion hrows
    rw [hnone] at hfilled
    rw [if_pos hempty]
    exact hfilled
  · rw [if_neg hempty]
    exact .cleared hcall hjob haccept hversion hrows

theorem sequel_of_cleared (hcall : c.call = .upsert r)
    (hjob : (Statement.upsertJob r).accept = .ok ())
    (hold : (Statement.deletePredictions r.jobId).accept = .ok ())
    (hversion : version = versionFor t r c.now) (hrows : old = t.rowsOf r.jobId)
    (hx : c.transaction? = some ⟨.latest, ⟨[version], old, []⟩, [r.jobId]⟩)
    (hserved : c.carryOut t (.insertPredictions r.jobId r.predictions) =
      .ok (committed, transaction?, reply)) :
    Sequel t₀ t log c (.insertPredictions r.jobId r.predictions) committed transaction?
      (Script.sendAll [.commit] (.done .done)) := by
  obtain ⟨haccept, ⟨seen, heffect⟩, rfl, rfl⟩ := Session.carryOut_within hx hserved rfl rfl
  -- a prediction out of bounds would have been refused
  have hchecks : r.predictions.all meetsChecks = true := by
    rw [Statement.effect] at heffect
    split at heffect
    · cases heffect
    split at heffect
    · assumption
    · cases heffect
  exact .within hx rfl (.filled hcall ⟨hjob, hold, fun _ => ⟨haccept, hchecks⟩⟩ hversion hrows)

theorem sequel_of_filled (hcall : c.call = .upsert r) (hstorable : Storable r)
    (hversion : version = versionFor t r c.now) (hrows : old = t.rowsOf r.jobId)
    (hx : c.transaction? =
      some ⟨.latest, ⟨[version], old, Tables.rowsFor r c.now c.ids⟩, [r.jobId]⟩)
    (hunique : t.Unique)
    (hserved : c.carryOut t .commit = .ok (committed, transaction?, reply)) :
    Sequel t₀ t log c .commit committed transaction? (.done .done) := by
  have hwritten : (⟨[version], old, Tables.rowsFor r c.now c.ids⟩ : Changes).on t =
      c.call.written c.now c.ids t := by
    rw [hcall, hversion, hrows]
    exact record_on hunique r c.now c.ids
  rw [Session.carryOut.eq_def, hx] at hserved
  cases hserved
  rw [hwritten]
  refine .writes ?_ ?_ (fun _ _ => rfl) (.inl ?_)
  · rw [Session.commits.eq_def, hx]
  · rw [hcall]
    exact hstorable
  · rw [hcall, hx]
    exact List.mem_singleton_self _

/-! ### Reads -/

/-- A read commits nothing and holds no lock. -/
theorem Sequel.looking {sight : Sight} {own : Changes} {script : Script Answer}
    (hcall : c.call = .get jobId) (h : InProgress t₀ t log c script (some ⟨sight, own, []⟩)) :
    Sequel t₀ t log c s t (some ⟨sight, own, []⟩) script := by
  refine .goesOn ?_ (List.forall_mem_nil _) h
  rw [hcall]
  rfl

theorem sequel_of_asking (hcall : c.call = .get jobId) (ht : t = after t₀ log)
    (hbegun : c.since ≤ log.length) (hx : c.transaction? = some ⟨.snapshot none, .none, []⟩)
    (hserved : c.carryOut t (.selectJob jobId) = .ok (committed, transaction?, reply)) :
    Sequel t₀ t log c (.selectJob jobId) committed transaction?
      (((Call.get jobId).script c.now).left [.done, .done, reply]) := by
  obtain ⟨-, ⟨seen, heffect⟩, rfl, rfl⟩ := Session.carryOut_within hx hserved rfl rfl
  cases heffect
  -- the snapshot is what all the writes so far have left
  have htaken : committed = after t₀ (log.take log.length) := by rw [List.take_length, ht]
  have hseen : Transaction.view ⟨.snapshot none, .none, []⟩ committed = committed :=
    Changes.none_on committed
  rw [hseen]
  cases hjob : committed.job? jobId with
  | none =>
    have hview : committed.viewOf jobId = .ok none := by rw [Tables.viewOf, hjob]
    have hclosing : InProgress t₀ committed log c _ _ := .closing hcall hbegun Nat.le.refl
    rw [← htaken, hview] at hclosing
    exact .looking hcall hclosing
  | some j =>
    cases hstatus : Status.ofName? j.status with
    | none =>
      have hreads : Sequel t₀ committed log c (.selectJob jobId) committed
          (some ⟨.snapshot (some committed), .none, []⟩) _ := .reads hcall rfl hbegun Nat.le.refl
      rw [← htaken, viewOf_of_corrupt hjob hstatus, ← left_of_corrupt c.now hstatus] at hreads
      exact hreads
    | some status =>
      rw [htaken] at hjob
      have hfound : InProgress t₀ committed log c _ _ :=
        .found hcall hbegun Nat.le.refl hjob hstatus
      rw [← htaken] at hfound
      exact .looking hcall hfound

theorem sequel_of_found {k : Nat} {j : JobRecord} {status : Status}
    {next : Reply → Script Answer} (hcall : c.call = .get jobId) (hsince : c.since ≤ k)
    (hlog : k ≤ log.length) (hjob : (after t₀ (log.take k)).job? jobId = some j)
    (hstatus : Status.ofName? j.status = some status)
    (hx : c.transaction? = some ⟨.snapshot (some (after t₀ (log.take k))), .none, []⟩)
    (hnext : ∀ rows, next (.predictions rows) =
      Script.sendAll [.commit] (.done (.view (.ok (some (Script.viewOf j status rows))))))
    (hserved : c.carryOut t (.selectPredictions jobId) = .ok (committed, transaction?, reply)) :
    Sequel t₀ t log c (.selectPredictions jobId) committed transaction? (next reply) := by
  obtain ⟨-, ⟨seen, heffect⟩, rfl, rfl⟩ := Session.carryOut_within hx hserved rfl rfl
  cases heffect
  have hseen : Transaction.view ⟨.snapshot (some (after t₀ (log.take k))), .none, []⟩ committed =
      after t₀ (log.take k) := Changes.none_on _
  have hclosing : InProgress t₀ committed log c _ _ := .closing hcall hsince hlog
  rw [viewOf_of_status hjob hstatus, ← hnext] at hclosing
  rw [hseen]
  exact .looking hcall hclosing

theorem sequel_of_closing {k : Nat} (hcall : c.call = .get jobId) (hsince : c.since ≤ k)
    (hlog : k ≤ log.length)
    (hx : c.transaction? = some ⟨.snapshot (some (after t₀ (log.take k))), .none, []⟩)
    (hserved : c.carryOut t .commit = .ok (committed, transaction?, reply)) :
    Sequel t₀ t log c .commit committed transaction?
      (.done (.view ((after t₀ (log.take k)).viewOf jobId))) := by
  rw [Session.carryOut.eq_def, hx] at hserved
  cases hserved
  rw [Changes.none_on]
  exact .reads hcall rfl hsince hlog

/-! ### Any statement -/

theorem sequel_of_fresh {next : Reply → Script Answer}
    (hscript : .send s next = c.call.script c.now) (hx : c.transaction? = none)
    (hunique : t.Unique) (hserved : c.carryOut t s = .ok (committed, transaction?, reply)) :
    Sequel t₀ t log c s committed transaction? (next reply) := by
  have hquiet : s = .begin → (c.call.isWrite && c.commits s) = false := by
    rintro rfl
    rw [Session.commits_outside hx]
    exact Bool.and_false _
  cases hcall : c.call with
  | createPending jobId imageUrl =>
    rw [hcall] at hscript
    cases hscript
    exact sequel_of_createPending hcall hx hunique hserved
  | markFailed jobId imageUrl reason =>
    rw [hcall] at hscript
    cases hscript
    exact sequel_of_markFailed hcall hx hunique hserved
  | upsert r =>
    rw [hcall] at hscript
    cases hscript
    cases hserved
    exact .goesOn (hquiet rfl) (List.forall_mem_nil _) (.begun hcall)
  | get jobId =>
    rw [hcall] at hscript
    cases hscript
    cases hserved
    exact .goesOn (hquiet rfl) (List.forall_mem_nil _) (.reading hcall)

/-- **What comes of the next statement of a call.** -/
theorem InProgress.sequel {next : Reply → Script Answer}
    (h : InProgress t₀ t log c (.send s next) c.transaction?) (ht : t = after t₀ log)
    (hunique : t.Unique) (hbegun : c.since ≤ log.length)
    (hserved : c.carryOut t s = .ok (committed, transaction?, reply)) :
    Sequel t₀ t log c s committed transaction? (next reply) := by
  generalize hscript : Script.send s next = script at h
  generalize hx : c.transaction? = x at h
  cases h with
  | fresh => exact sequel_of_fresh hscript hx hunique hserved
  | begun hcall =>
    cases hscript
    exact sequel_of_begun hcall hx hserved
  | placed hcall hjob hversion =>
    cases hscript
    exact sequel_of_placed hcall hjob hversion hx hserved
  | cleared hcall hjob hold hversion hrows =>
    cases hscript
    exact sequel_of_cleared hcall hjob hold hversion hrows hx hserved
  | filled hcall hstorable hversion hrows =>
    cases hscript
    exact sequel_of_filled hcall hstorable hversion hrows hx hunique hserved
  | reading hcall =>
    cases hscript
    rw [Session.carryOut.eq_def, hx] at hserved
    cases hserved
    exact .looking hcall (.asking hcall)
  | asking hcall =>
    cases hscript
    exact sequel_of_asking hcall ht hbegun hx hserved
  | found hcall hsince hlog hjob hstatus =>
    obtain ⟨next', hfound, hnext⟩ := left_of_status c.now hstatus
    rw [hfound] at hscript
    cases hscript
    exact sequel_of_found hcall hsince hlog hjob hstatus hx hnext hserved
  | closing hcall hsince hlog =>
    cases hscript
    exact sequel_of_closing hcall hsince hlog hx hserved

end Calls

end Workload

end DetectionJobs.Repository
