/-
  DetectionJobs/Proofs/Repository/Chronicle.lean
  ==============================================
  **A stored job is what was written of it.**

  The rows are a state; what a caller may rely on is said about the past.  Of the writes of
  a job that succeeded, the first one decides its image and the time of its creation, the
  last one that took effect its state, error and time of processing, and the last result its
  predictions.  Which writes take effect is told from the writes before them alone.

  Calls may be made to fail at any time.  A call that fails leaves the rows as they are.
-/
import DetectionJobs.Proofs.Repository.Agreement

namespace DetectionJobs.Repository

/-! ### Writes -/

/-- A write of one job that succeeded, with what it drew on. -/
inductive Write where
  | note (imageUrl : String) (now : Instant)
  | record (result : JobResult) (ids : Nat → Uuid) (now : Instant)
  | close (imageUrl reason : String) (now : Instant)

namespace Write

def imageUrl : Write → String
  | .note imageUrl _ => imageUrl
  | .record result _ _ => result.imageUrl
  | .close imageUrl _ _ => imageUrl

def time : Write → Instant
  | .note _ now => now
  | .record _ _ now => now
  | .close _ _ now => now

def status : Write → Status
  | .note _ _ => .pending
  | .record result _ _ => result.status
  | .close _ _ _ => .failed

def error : Write → Option String
  | .note _ _ => none
  | .record result _ _ => result.error
  | .close _ reason _ => some reason

def processedAt : Write → Option Instant
  | .note _ _ => none
  | .record result _ _ => some result.processedAt
  | .close _ _ now => some now

def predictions? : Write → Option (List StoredPrediction)
  | .record result ids now => some (result.predictions.mapIdx fun i p => ⟨ids i, p, now⟩)
  | _ => none

/-- Whether the write changes a job that is known to be in this state, or is not known. -/
def takesEffect : Write → Option Status → Bool
  | .note _ _, known => known.isNone
  | .record _ _ _, _ => true
  | .close _ _ _, known => known.all (· = .pending)

end Write

/-- Those of the writes of a job that take effect: each is judged by the last one before it
    that did. -/
def effective (ws : List Write) : List Write :=
  ws.foldl (fun es w => if w.takesEffect (es.getLast?.map Write.status) then es ++ [w] else es) []

def statusAfter (ws : List Write) : Option Status := (effective ws).getLast?.map Write.status

def lastPredictions (ws : List Write) : List StoredPrediction :=
  (ws.filterMap Write.predictions?).getLast?.getD []

theorem effective_concat (ws : List Write) (w : Write) :
    effective (ws ++ [w]) =
      if w.takesEffect (statusAfter ws) then effective ws ++ [w] else effective ws := by
  rw [effective, List.foldl_append]
  rfl

theorem lastPredictions_concat (ws : List Write) (w : Write) :
    lastPredictions (ws ++ [w]) = w.predictions?.getD (lastPredictions ws) := by
  cases hw : w.predictions? with
  | none => simp [lastPredictions, List.filterMap_append, hw]
  | some ps => simp [lastPredictions, List.filterMap_append, hw]

/-! ### What is told of a job -/

/-- A view of a job shows what its writes make of it. -/
structure Shows (ws : List Write) (v : JobView) : Prop where
  first : ∃ w, ws.head? = some w ∧ v.imageUrl = w.imageUrl ∧ v.createdAt = w.time
  last : ∃ w, (effective ws).getLast? = some w ∧
    v.status = w.status ∧ v.error = w.error ∧ v.processedAt = w.processedAt
  predictions : Ranked (lastPredictions ws) v.predictions

/-- A job is told of once it was written. -/
structure Told (jobId : String) (ws : List Write) (v? : Option JobView) : Prop where
  absent : v? = none ↔ ws = []
  present : ∀ v, v? = some v → v.jobId = jobId ∧ Shows ws v

/-- The job as a read that succeeds shows it. -/
def view? (r : Repository) (jobId : String) : Option JobView :=
  (r.find? jobId).map (Row.view jobId)

variable {jobId : String} {ws : List Write} {w : Write} {r : Repository} {row : Row}

theorem told_nothing (h : r.find? jobId = none) : Told jobId [] (r.view? jobId) := by
  rw [view?, h]
  exact ⟨iff_of_true rfl rfl, nofun⟩

theorem told_of_shows (h : r.find? jobId = some row) (hws : ws ≠ [])
    (hshows : Shows ws (Row.view jobId row)) : Told jobId ws (r.view? jobId) := by
  rw [view?, h]
  refine ⟨iff_of_false nofun hws, ?_⟩
  intro v hv
  cases hv
  exact ⟨rfl, hshows⟩

theorem Told.eq_nil (h : Told jobId ws (r.view? jobId)) (hrow : r.find? jobId = none) :
    ws = [] := by
  apply h.absent.mp
  rw [view?, hrow]
  rfl

theorem Told.shows (h : Told jobId ws (r.view? jobId)) (hrow : r.find? jobId = some row) :
    ws ≠ [] ∧ Shows ws (Row.view jobId row) := by
  have hview : r.view? jobId = some (Row.view jobId row) := by
    rw [view?, hrow]
    rfl
  refine ⟨?_, (h.present _ hview).2⟩
  intro hnil
  rw [h.absent.mpr hnil] at hview
  cases hview

/-- The writes tell the state of the row. -/
theorem Told.statusAfter (h : Told jobId ws (r.view? jobId)) :
    statusAfter ws = (r.find? jobId).map (·.status) := by
  cases hrow : r.find? jobId with
  | none =>
    rw [h.eq_nil hrow]
    rfl
  | some row =>
    obtain ⟨w, hlast, hstatus, _⟩ := (h.shows hrow).2.last
    rw [Repository.statusAfter, hlast]
    exact congrArg some hstatus.symm

/-! ### One more write -/

theorem head?_concat (hws : ws ≠ []) : (ws ++ [w]).head? = ws.head? := by
  cases ws with
  | nil => exact absurd rfl hws
  | cons first rest => rfl

theorem Shows.overlook {v : JobView} (h : Shows ws v) (hws : ws ≠ [])
    (heffect : w.takesEffect (statusAfter ws) = false) (hnone : w.predictions? = none) :
    Shows (ws ++ [w]) v := by
  constructor
  · rw [head?_concat hws]
    exact h.first
  · rw [effective_concat, heffect]
    exact h.last
  · rw [lastPredictions_concat, hnone]
    exact h.predictions

/-- A write with effect is seen in the state of the job; its image and the time of its
    creation are those of the row before, if there was one. -/
theorem shows_of_effect (h : Told jobId ws (r.view? jobId))
    (heffect : w.takesEffect (statusAfter ws) = true)
    (himage : row.imageUrl = ((r.find? jobId).map (·.imageUrl)).getD w.imageUrl)
    (hcreated : row.createdAt = ((r.find? jobId).map (·.createdAt)).getD w.time)
    (hstate : row.status = w.status ∧ row.error = w.error ∧ row.processedAt = w.processedAt)
    (hpredictions : Ranked (lastPredictions (ws ++ [w])) row.predictions) :
    Shows (ws ++ [w]) (Row.view jobId row) := by
  refine ⟨?_, ⟨w, ?_, hstate⟩, hpredictions⟩
  · cases hrow : r.find? jobId with
    | none =>
      rw [hrow] at himage hcreated
      rw [h.eq_nil hrow]
      exact ⟨w, rfl, himage, hcreated⟩
    | some old =>
      rw [hrow] at himage hcreated
      obtain ⟨hws, hshows⟩ := h.shows hrow
      obtain ⟨first, hhead, hfirst, htime⟩ := hshows.first
      rw [head?_concat hws]
      exact ⟨first, hhead, himage.trans hfirst, hcreated.trans htime⟩
  · rw [effective_concat, heffect]
    exact List.getLast?_concat

theorem Told.overlook (h : Told jobId ws (r.view? jobId)) (hrow : r.find? jobId = some row)
    (heffect : w.takesEffect (Repository.statusAfter ws) = false)
    (hnone : w.predictions? = none) :
    Told jobId (ws ++ [w]) (r.view? jobId) := by
  obtain ⟨hws, hshows⟩ := h.shows hrow
  exact told_of_shows hrow (by simp) (hshows.overlook hws heffect hnone)

theorem told_put (hshows : Shows (ws ++ [w]) (Row.view jobId row)) :
    Told jobId (ws ++ [w]) ((r.put jobId row).view? jobId) := by
  have hrow : (r.put jobId row).find? jobId = some row := by
    rw [find?_put, if_pos rfl]
  exact told_of_shows hrow (by simp) hshows

theorem ranked_of_none (h : Told jobId ws (r.view? jobId)) (hnone : w.predictions? = none) :
    Ranked (lastPredictions (ws ++ [w]))
      (((r.find? jobId).map (·.predictions)).getD []) := by
  rw [lastPredictions_concat, hnone]
  cases hrow : r.find? jobId with
  | none =>
    rw [h.eq_nil hrow]
    exact ⟨.refl _, .nil, fun _ => rfl⟩
  | some row => exact (h.shows hrow).2.predictions

/-! ### Calls -/

/-- A call that was made, with the stored jobs before and after it. -/
structure Episode where
  call : Call
  now : Instant
  ids : Nat → Uuid
  before : Repository
  after : Repository
  answer : Except Fault Answer

def Call.write? (now : Instant) (ids : Nat → Uuid) : Call → Option Write
  | .createPending _ imageUrl => some (.note imageUrl now)
  | .upsert result => some (.record result ids now)
  | .markFailed _ imageUrl reason => some (.close imageUrl reason now)
  | .get _ => none

/-- The write of a job that the call was, if it succeeded. -/
def Episode.write? (jobId : String) (e : Episode) : Option Write :=
  match e.answer with
  | .error _ => none
  | .ok _ => if e.call.jobId = jobId then e.call.write? e.now e.ids else none

def writes (jobId : String) (log : List Episode) : List Write := log.filterMap (·.write? jobId)

def Call.make (r : Repository) (now : Instant) (ids : Nat → Uuid) (c : Call) : Episode :=
  ⟨c, now, ids, r, (c.inMemory now ids r).1, (c.inMemory now ids r).2⟩

section Calls

variable {c : Call} {now : Instant} {ids : Nat → Uuid}

theorem inMemory_of_fault {n : Nat} (h : r.faults = n + 1) :
    c.inMemory now ids r =
      ({ r with faults := n }, .error (.unavailable "simulated database outage")) := by
  cases c with
  | createPending jobId imageUrl => rw [Call.inMemory, createPending, call_of_fault h]; rfl
  | upsert result => rw [Call.inMemory, upsert, call_of_fault h]; rfl
  | markFailed jobId imageUrl reason => rw [Call.inMemory, markFailed, call_of_fault h]; rfl
  | get jobId => rw [Call.inMemory, get, call_of_fault h]; rfl

theorem inMemory_ok (c : Call) (now : Instant) (ids : Nat → Uuid) (h : r.faults = 0) :
    ∃ a, (c.inMemory now ids r).2 = .ok a := by
  cases c with
  | createPending jobId imageUrl => exact ⟨_, congrArg Prod.snd (inMemory_createPending h _ _)⟩
  | upsert result => exact ⟨_, congrArg Prod.snd (inMemory_upsert h _)⟩
  | markFailed jobId imageUrl reason => exact ⟨_, congrArg Prod.snd (inMemory_markFailed h _ _ _)⟩
  | get jobId => exact ⟨_, congrArg Prod.snd (inMemory_get h _)⟩

/-- A call fails if a fault is due. -/
theorem fails_iff : (∃ f, (c.inMemory now ids r).2 = .error f) ↔ 0 < r.faults := by
  cases hfaults : r.faults with
  | zero =>
    obtain ⟨a, ha⟩ := inMemory_ok c now ids hfaults
    rw [ha]
    simp
  | succ n =>
    rw [inMemory_of_fault hfaults]
    simp

theorem faults_of_ok {a : Answer} (h : (c.inMemory now ids r).2 = .ok a) : r.faults = 0 := by
  by_contra hfaults
  obtain ⟨f, hf⟩ := fails_iff.mpr (Nat.pos_of_ne_zero hfaults)
  rw [hf] at h
  cases h

theorem find?_inMemory_of_ne (h : jobId ≠ c.jobId) :
    (c.inMemory now ids r).1.find? jobId = r.find? jobId := by
  have hput : ∀ row, (r.put c.jobId row).find? jobId = r.find? jobId := by
    intro row
    rw [find?_put, if_neg h]
  cases hfaults : r.faults with
  | succ n =>
    rw [inMemory_of_fault hfaults]
    rfl
  | zero =>
    cases c with
    | createPending own imageUrl =>
      rw [inMemory_createPending hfaults]
      cases r.find? own with
      | none => exact hput _
      | some row => rfl
    | upsert result =>
      rw [inMemory_upsert hfaults]
      exact hput _
    | markFailed own imageUrl reason =>
      rw [inMemory_markFailed hfaults]
      by_cases hended : r.isEnded own = true
      · simp only [hended, if_true]
      · rw [if_neg hended]
        exact hput _
    | get own => rw [inMemory_get hfaults]

theorem told_of_createPending (imageUrl : String) (now : Instant) (ids : Nat → Uuid)
    (h : Told jobId ws (r.view? jobId)) (hfaults : r.faults = 0) :
    Told jobId (ws ++ [.note imageUrl now])
      (((Call.createPending jobId imageUrl).inMemory now ids r).1.view? jobId) := by
  have hknown := h.statusAfter
  rw [inMemory_createPending hfaults]
  cases hrow : r.find? jobId with
  | some row =>
    rw [hrow] at hknown
    have heffect : (Write.note imageUrl now).takesEffect (statusAfter ws) = false := by
      rw [hknown]
      rfl
    exact h.overlook hrow heffect rfl
  | none =>
    rw [hrow] at hknown
    have heffect : (Write.note imageUrl now).takesEffect (statusAfter ws) = true := by
      rw [hknown]
      rfl
    have hranked := ranked_of_none (w := .note imageUrl now) h rfl
    rw [hrow] at hranked
    apply told_put
    apply shows_of_effect h heffect
    · rw [hrow]
      rfl
    · rw [hrow]
      rfl
    · exact ⟨rfl, rfl, rfl⟩
    · exact hranked

theorem told_of_upsert {result : JobResult} (now : Instant) (ids : Nat → Uuid)
    (h : Told result.jobId ws (r.view? result.jobId)) (hfaults : r.faults = 0) :
    Told result.jobId (ws ++ [.record result ids now])
      (((Call.upsert result).inMemory now ids r).1.view? result.jobId) := by
  rw [inMemory_upsert hfaults]
  apply told_put
  apply shows_of_effect h rfl
  · cases r.find? result.jobId <;> rfl
  · cases r.find? result.jobId <;> rfl
  · exact ⟨rfl, rfl, rfl⟩
  · rw [lastPredictions_concat]
    exact ranked_byConfidence _

/-- Closing a job is of no effect just where its row has come to an end. -/
theorem takesEffect_close (imageUrl reason : String) (now : Instant)
    (h : Told jobId ws (r.view? jobId)) :
    (Write.close imageUrl reason now).takesEffect (statusAfter ws) = !r.isEnded jobId := by
  rw [h.statusAfter, isEnded]
  cases r.find? jobId with
  | none => rfl
  | some row => cases hstatus : row.status <;> simp [Write.takesEffect, hstatus, Status.isTerminal]

theorem told_of_markFailed (imageUrl reason : String) (now : Instant) (ids : Nat → Uuid)
    (h : Told jobId ws (r.view? jobId)) (hfaults : r.faults = 0) :
    Told jobId (ws ++ [.close imageUrl reason now])
      (((Call.markFailed jobId imageUrl reason).inMemory now ids r).1.view? jobId) := by
  have heffect := takesEffect_close imageUrl reason now h
  rw [inMemory_markFailed hfaults]
  by_cases hended : r.isEnded jobId = true
  · obtain ⟨row, hrow⟩ := Option.isSome_iff_exists.mp (Option.isSome_of_any hended)
    simp only [hended, if_true]
    rw [hended] at heffect
    exact h.overlook hrow heffect rfl
  · rw [if_neg hended]
    rw [Bool.eq_false_iff.mpr hended] at heffect
    apply told_put
    apply shows_of_effect h heffect
    · cases r.find? jobId <;> rfl
    · cases r.find? jobId <;> rfl
    · exact ⟨rfl, rfl, rfl⟩
    · have hranked := ranked_of_none (w := .close imageUrl reason now) h rfl
      have hpredictions : (closedRow (r.find? jobId) imageUrl reason now).predictions =
          ((r.find? jobId).map (·.predictions)).getD [] := by
        cases r.find? jobId <;> rfl
      rw [hpredictions]
      exact hranked

theorem writes_concat (jobId : String) (past : List Episode) (e : Episode) :
    writes jobId (past ++ [e]) = writes jobId past ++ (e.write? jobId).toList := by
  rw [writes, List.filterMap_append]
  cases hwrite : e.write? jobId <;> simp [hwrite, writes]

/-- Whatever a call is and however it goes, what is told of every job stays what its writes
    make of it. -/
theorem told_step {past : List Episode} (h : ∀ j, Told j (writes j past) (r.view? j))
    (jobId : String) :
    Told jobId (writes jobId (past ++ [c.make r now ids]))
      ((c.make r now ids).after.view? jobId) := by
  have hkept : (c.make r now ids).write? jobId = none →
      (c.make r now ids).after.find? jobId = r.find? jobId →
      Told jobId (writes jobId past ++ ((c.make r now ids).write? jobId).toList)
        ((c.make r now ids).after.view? jobId) := by
    intro hwrite hrow
    rw [hwrite, Option.toList_none, List.append_nil, view?, hrow]
    exact h jobId
  rw [writes_concat]
  -- a call writes this job only if no fault is due and the job is its own
  cases hfaults : r.faults with
  | succ n =>
    apply hkept
    · simp only [Episode.write?, Call.make, inMemory_of_fault hfaults]
    · simp only [Call.make, inMemory_of_fault hfaults]
      rfl
  | zero =>
    obtain ⟨a, ha⟩ := inMemory_ok c now ids hfaults
    by_cases hown : c.jobId = jobId
    · subst hown
      have hwrite : (c.make r now ids).write? c.jobId = c.write? now ids := by
        simp only [Episode.write?, Call.make, ha, if_true]
      rw [hwrite] at hkept ⊢
      cases c with
      | createPending own imageUrl => exact told_of_createPending imageUrl now ids (h own) hfaults
      | upsert result => exact told_of_upsert now ids (h result.jobId) hfaults
      | markFailed own imageUrl reason =>
        exact told_of_markFailed imageUrl reason now ids (h own) hfaults
      | get own =>
        apply hkept rfl
        simp only [Call.make, inMemory_get hfaults]
    · apply hkept
      · simp only [Episode.write?, Call.make, ha, hown, if_false]
      · exact find?_inMemory_of_ne (Ne.symm hown)

end Calls

/-! ### Chronicles -/

/-- What may happen to the stored jobs: a call, or that the next `count` calls are made to
    fail. -/
inductive Act where
  | failNext (count : Nat)
  | call (c : Call) (now : Instant) (ids : Nat → Uuid)

def chronicle (r : Repository) : List Act → List Episode
  | [] => []
  | .failNext count :: acts => chronicle { r with faults := count } acts
  | .call c now ids :: acts => c.make r now ids :: chronicle (c.make r now ids).after acts

/-- What a call does and answers, told from the calls before it. -/
structure Episode.Tells (earlier : List Episode) (e : Episode) : Prop where
  fails : (∃ f, e.answer = .error f) ↔ 0 < e.before.faults
  unchanged : (∃ f, e.answer = .error f) → e.after.rows = e.before.rows
  others : ∀ jobId, jobId ≠ e.call.jobId → e.after.find? jobId = e.before.find? jobId
  closes : ∀ jobId imageUrl reason a, e.call = .markFailed jobId imageUrl reason →
    e.answer = .ok a → a = .written
      ((Write.close imageUrl reason e.now).takesEffect (statusAfter (writes jobId earlier)))
  reads : ∀ jobId a, e.call = .get jobId → e.answer = .ok a →
    ∃ v?, a = .view (.ok v?) ∧ Told jobId (writes jobId earlier) v?

theorem tells_make {past : List Episode} (h : ∀ j, Told j (writes j past) (r.view? j)) (c : Call)
    (now : Instant) (ids : Nat → Uuid) : (c.make r now ids).Tells past := by
  constructor
  · exact fails_iff
  · intro hfails
    obtain ⟨n, hn⟩ := Nat.exists_eq_add_one.mpr (fails_iff.mp hfails)
    rw [Call.make, inMemory_of_fault hn]
  · intro jobId hother
    exact find?_inMemory_of_ne hother
  · intro jobId imageUrl reason a hcall hanswer
    cases hcall
    rw [Call.make, inMemory_markFailed (faults_of_ok hanswer)] at hanswer
    cases hanswer
    exact congrArg Answer.written (takesEffect_close imageUrl reason now (h jobId)).symm
  · intro jobId a hcall hanswer
    cases hcall
    rw [Call.make, inMemory_get (faults_of_ok hanswer)] at hanswer
    cases hanswer
    exact ⟨r.view? jobId, rfl, h jobId⟩

theorem tells_of_told {acts : List Act} {past earlier later : List Episode} {e : Episode}
    (htold : ∀ j, Told j (writes j past) (r.view? j))
    (h : chronicle r acts = earlier ++ e :: later) : e.Tells (past ++ earlier) := by
  -- the acts before `e` move from `earlier` to `past`; `told_step` carries the invariant along
  induction acts generalizing r past earlier with
  | nil => exact absurd h (by simp [chronicle])
  | cons act acts ih =>
    cases act with
    | failNext count => exact ih (r := { r with faults := count }) htold h
    | call c now ids =>
      rw [chronicle] at h
      cases earlier with
      | nil =>
        cases (List.cons.inj h).1
        rw [List.append_nil]
        exact tells_make htold c now ids
      | cons first earlier =>
        obtain ⟨hfirst, hrest⟩ := List.cons.inj h
        have htells := ih (told_step htold) hrest
        rw [hfirst, List.append_assoc] at htells
        exact htells

/-- **A stored job is what was written of it.**  Whatever calls are made, and whichever of them
    are made to fail, a read that succeeds shows of a job nothing if no write of it succeeded,
    else the image and time of the first one, the state, error and time of processing of the
    last one that took effect, and the ranked predictions of the last result.  Closing a job
    tells whether it took effect.  A call that fails changes no row, and no call changes the row
    of another job. -/
theorem chronicle_tells {acts : List Act} {earlier later : List Episode} {e : Episode}
    (h : chronicle .empty acts = earlier ++ e :: later) : e.Tells earlier := by
  have htold : ∀ j, Told j (writes j []) (empty.view? j) := by
    intro j
    exact told_nothing rfl
  exact tells_of_told htold h

/-- The first call fails; the result is not closed by the reason that comes after it. -/
def zerosAmidOutage : List Act :=
  [.failNext 1, .call (.createPending "job-1" "https://x/b.png") noon.now noon.ids,
    .call (.upsert zeros) noon.now noon.ids,
    .call (.markFailed "job-1" "https://x/c.png" "late") noon.now noon.ids,
    .call (.get "job-1") noon.now noon.ids]

theorem chronicle_tells_of_zeros :
    ∃ earlier e, chronicle .empty zerosAmidOutage = earlier ++ [e] ∧ e.call = .get "job-1" ∧
      (writes "job-1" earlier).length = 2 ∧ e.Tells earlier := by
  have hlog : chronicle .empty zerosAmidOutage =
      (chronicle .empty zerosAmidOutage).take 3 ++ [(chronicle .empty zerosAmidOutage)[3]] := rfl
  exact ⟨_, _, hlog, rfl, rfl, chronicle_tells hlog⟩

end DetectionJobs.Repository
