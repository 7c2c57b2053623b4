/-
  DetectionJobs/Proofs/Transactions/Changes.lean
  ==============================================
  **The changes of a transaction are what its statements do to what it sees.**

  As long as jobs have one row each, a statement's changes put on the committed tables give
  the tables that the statement makes of what the transaction saw.
-/
import DetectionJobs.Proofs.Transactions.Basic
import Mathlib.Data.List.Nodup

namespace DetectionJobs.Repository

/-! ### One row for each job -/

namespace Tables

variable {t : Tables}

def Unique (t : Tables) : Prop := (t.jobs.map (·.jobId)).Nodup

theorem eq_of_job? (h : t.Unique) {j old : JobRecord} (hj : j ∈ t.jobs)
    (hold : t.job? j.jobId = some old) : j = old := by
  have hmem : old ∈ t.jobs := List.mem_of_find?_eq_some hold
  exact List.inj_on_of_nodup_map h hj hmem (jobId_of_job? hold).symm

/-- A row that is changed is the version of it that takes its place. -/
theorem putJob_eq_place (h : t.Unique) (fresh : JobRecord) (change : JobRecord → JobRecord)
    (hchange : ∀ j, (change j).jobId = j.jobId) :
    t.putJob fresh change = { t with
      jobs := Changes.place t.jobs (((t.job? fresh.jobId).map change).getD fresh) } := by
  unfold putJob Changes.place
  cases hold : t.job? fresh.jobId with
  | none =>
    have hany : t.jobs.any (·.jobId = fresh.jobId) = false := by
      rw [List.any_eq_false]
      exact List.find?_eq_none.mp hold
    rw [Option.map_none, Option.getD_none, hany, if_neg Bool.false_ne_true]
  | some old =>
    have hid : (change old).jobId = fresh.jobId := (hchange old).trans (jobId_of_job? hold)
    have hany : t.jobs.any (·.jobId = fresh.jobId) = true := by
      rw [List.any_eq_true]
      exact ⟨old, List.mem_of_find?_eq_some hold, decide_eq_true (jobId_of_job? hold)⟩
    rw [Option.map_some, Option.getD_some, hid, hany, if_pos rfl]
    show Tables.mk _ _ = Tables.mk _ _
    congr 1
    -- the row that was found is the only one of its job
    apply List.map_congr_left
    intro j hj
    by_cases hj' : j.jobId = fresh.jobId
    · rw [if_pos hj', if_pos hj', eq_of_job? h hj (hj' ▸ hold)]
    · rw [if_neg hj', if_neg hj']

theorem Unique.putJob (h : t.Unique) (fresh : JobRecord) (change : JobRecord → JobRecord)
    (hchange : ∀ j, (change j).jobId = j.jobId) : (t.putJob fresh change).Unique := by
  unfold Tables.putJob
  cases hold : t.job? fresh.jobId with
  | none =>
    show ((t.jobs ++ [fresh]).map (·.jobId)).Nodup
    rw [List.map_append, List.map_singleton, List.nodup_append]
    refine ⟨h, List.nodup_singleton _, ?_⟩
    intro id hid id' hid' heq
    obtain ⟨j, hj, rfl⟩ := List.mem_map.mp hid
    have hne := List.find?_eq_none.mp hold j hj
    rw [List.mem_singleton.mp hid'] at heq
    exact hne (decide_eq_true heq)
  | some old =>
    show ((t.jobs.map fun j => if j.jobId = fresh.jobId then change j else j).map (·.jobId)).Nodup
    have hids : (t.jobs.map fun j => if j.jobId = fresh.jobId then change j else j).map (·.jobId) =
        t.jobs.map (·.jobId) := by
      rw [List.map_map]
      apply List.map_congr_left
      intro j _
      show (if j.jobId = fresh.jobId then change j else j).jobId = j.jobId
      split
      · exact hchange j
      · rfl
    rw [hids]
    exact h

theorem Unique.placeResult (h : t.Unique) (jobId imageUrl : String) (status : Status)
    (error : Option String) (processedAt now : Instant) :
    (t.placeResult jobId imageUrl status error processedAt now).Unique :=
  h.putJob _ _ fun _ => rfl

theorem Unique.recordResult (h : t.Unique) (r : JobResult) (now : Instant) (ids : Nat → Uuid) :
    (t.recordResult r now ids).Unique :=
  h.placeResult r.jobId r.imageUrl r.status r.error r.processedAt now

theorem Unique.notePending (h : t.Unique) (jobId imageUrl : String) (now : Instant) :
    (t.notePending jobId imageUrl now).Unique := by
  unfold Tables.notePending
  split
  · exact h
  · exact h.putJob _ id fun _ => rfl

theorem Unique.closeJob (h : t.Unique) (jobId imageUrl reason : String)
    (processedAt now : Instant) :
    (t.closeJob jobId imageUrl reason processedAt now).Unique := by
  unfold Tables.closeJob
  split
  · exact h.placeResult ..
  · exact h

/-- A job that has no row yet is added; one that has a row is overwritten. -/
theorem placeResult_eq_place (h : t.Unique) (jobId imageUrl : String) (status : Status)
    (error : Option String) (processedAt now : Instant) :
    t.placeResult jobId imageUrl status error processedAt now = { t with
      jobs := Changes.place t.jobs (Statement.overwrite status error processedAt
        ((t.job? jobId).getD ⟨jobId, imageUrl, "", none, none, inMicros now⟩)) } := by
  have hchange : ∀ j, (Statement.overwrite status error processedAt j).jobId = j.jobId :=
    fun _ => rfl
  refine (putJob_eq_place h _ _ hchange).trans ?_
  show Tables.mk (Changes.place _ (((t.job? jobId).map _).getD _)) _ = _
  cases t.job? jobId <;> rfl

theorem notePending_eq_place (h : t.Unique) (jobId imageUrl : String) (now : Instant)
    (hnone : (t.job? jobId).isSome = false) :
    t.notePending jobId imageUrl now = { t with
      jobs := Changes.place t.jobs
        ⟨jobId, imageUrl, Status.pending.name, none, none, inMicros now⟩ } := by
  rw [notePending, hnone, if_neg Bool.false_ne_true]
  refine (putJob_eq_place h _ id fun _ => rfl).trans ?_
  show Tables.mk (Changes.place _ (((t.job? jobId).map id).getD _)) _ = _
  cases hold : t.job? jobId with
  | none => rfl
  | some j =>
    rw [hold] at hnone
    cases hnone

end Tables

/-! ### Changes put on tables -/

namespace Changes

variable {t t' : Tables} {own : Changes}

@[simp] theorem none_on (t : Tables) : none.on t = t := by
  have hall : t.predictions.filter (· ∉ ([] : List PredictionRecord)) = t.predictions :=
    List.filter_eq_self.mpr fun _ _ => decide_eq_true List.not_mem_nil
  show Tables.mk t.jobs (t.predictions.filter (· ∉ ([] : List PredictionRecord)) ++ []) = t
  rw [hall, List.append_nil]

theorem on_write (own : Changes) (t : Tables) (j : JobRecord) :
    (own.write j).on t = { own.on t with jobs := place (own.on t).jobs j } := by
  show Tables.mk ((own.jobs ++ [j]).foldl place t.jobs) _ = _
  rw [List.foldl_append]
  rfl

/-- The rows that a transaction takes out are those that it sees. -/
theorem on_removed (own : Changes) (t : Tables) (jobId : String) :
    ({ own with
        removed := own.removed ++ (own.on t).rowsOf jobId
        added := own.added.filter (·.jobId ≠ jobId) } : Changes).on t =
      { own.on t with predictions := (own.on t).predictions.filter (·.jobId ≠ jobId) } := by
  show Tables.mk _ _ = Tables.mk _ _
  congr 1
  show _ = (t.predictions.filter (· ∉ own.removed) ++ own.added).filter (·.jobId ≠ jobId)
  rw [List.filter_append, List.filter_filter]
  congr 1
  -- a committed row of the job is either taken out already, or seen
  apply List.filter_congr
  intro row hrow
  rw [Bool.eq_iff_iff, Bool.and_eq_true, decide_eq_true_eq, decide_eq_true_eq, decide_eq_true_eq,
    List.mem_append, not_or]
  constructor
  · rintro ⟨hnot, hseen⟩
    refine ⟨fun heq => hseen ?_, hnot⟩
    apply List.mem_filter.mpr
    refine ⟨List.mem_append_left _ (List.mem_filter.mpr ⟨hrow, decide_eq_true hnot⟩), ?_⟩
    exact decide_eq_true heq
  · rintro ⟨hne, hnot⟩
    exact ⟨hnot, fun hseen => hne (of_decide_eq_true (List.mem_filter.mp hseen).2)⟩

/-- **A statement's changes give what the statement does** to what the transaction sees. -/
theorem changes_on {s : Statement} {now : Instant} {ids : Nat → Uuid} {reply : Reply}
    (h : s.effect now ids (own.on t) = .ok (t', reply)) (hunique : (own.on t).Unique) :
    (s.changes now ids (own.on t) own).on t = t' := by
  cases s with
  | insertPending jobId imageUrl =>
    rw [effect_insertPending] at h
    cases h
    rw [Statement.changes]
    cases hsome : ((own.on t).job? jobId).isSome with
    | true =>
      rw [if_pos rfl, Tables.notePending, hsome, if_pos rfl]
    | false =>
      rw [if_neg Bool.false_ne_true, on_write, Tables.notePending_eq_place hunique _ _ _ hsome]
  | upsertJob r =>
    cases h
    rw [Statement.changes, on_write]
    exact (Tables.placeResult_eq_place hunique ..).symm
  | deletePredictions jobId =>
    cases h
    exact on_removed own t jobId
  | insertPredictions jobId ps =>
    rw [Statement.effect] at h
    split at h
    · cases h
    split at h
    · cases h
      exact congrArg (Tables.mk _) (List.append_assoc ..).symm
    · cases h
  | insertFailed jobId imageUrl reason processedAt =>
    rw [effect_insertFailed] at h
    cases h
    rw [Statement.changes, Tables.closeJob]
    split
    · rw [on_write, Tables.placeResult_eq_place hunique]
    · rfl
  | _ => cases h; rfl

end Changes

end DetectionJobs.Repository
