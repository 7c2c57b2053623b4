/-
  DetectionJobs/Proofs/Repository/Capacity.lean
  =============================================
  **How many predictions of an answer the tables take.**

  An answer may hold any number of predictions, and they are stored with one statement, which
  has eight parameters for each of them.  So the tables refuse a result with more than 8191
  predictions and stay as they are; all others they take, unless a label holds a NUL.
-/
import DetectionJobs.Proofs.Detection.Answers
import DetectionJobs.Proofs.Repository.Agreement

namespace DetectionJobs

/-! ### Answers of any size -/

namespace Json

variable {α : Type} {G : List Char → α → Prop}

theorem exists_tail {as : List α} (h : ∀ a ∈ as, ∃ t, G t a) : ∃ u, Tail G u as := by
  induction as with
  | nil => exact ⟨[], .done .nil⟩
  | cons a as ih =>
    obtain ⟨t, ht⟩ := h a List.mem_cons_self
    obtain ⟨u, hu⟩ := ih fun b hb => h b (List.mem_cons_of_mem a hb)
    exact ⟨_, .more .nil .nil ht hu⟩

/-- Values that have texts have one together, however many they are. -/
theorem exists_listed {as : List α} (h : ∀ a ∈ as, ∃ t, G t a) : ∃ t, Listed G t as := by
  cases as with
  | nil => exact ⟨_, .empty .nil⟩
  | cons a as =>
    obtain ⟨t, ht⟩ := h a List.mem_cons_self
    obtain ⟨u, hu⟩ := exists_tail fun b hb => h b (List.mem_cons_of_mem a hb)
    exact ⟨_, .items .nil ht hu⟩

end Json

namespace Detection

open Json

/-- Any predictions that can be written are those of an answer. -/
theorem exists_answers {ps : List Prediction} (h : ∀ p ∈ ps, ∃ t, Prediction.Text t p) :
    ∃ body, Answers body [⟨none, ps⟩] := by
  obtain ⟨t, ht⟩ := exists_listed h
  have hpredictions : PredictionsText _ ps :=
    .list (.items .nil rfl (.done .nil)) (by simp) (by simp) (.inl ⟨_, rfl, ht⟩)
  have houtput : OutputText _ ⟨none, ps⟩ :=
    .list (.items .nil rfl (.more .nil .nil rfl (.done .nil))) (by simp) (by simp)
      ⟨.inl ⟨_, rfl, .null⟩, ⟨_, rfl, hpredictions⟩⟩
  obtain ⟨u, hanswer⟩ : ∃ u, AnswerText u [⟨none, ps⟩] :=
    ⟨_, .list (.items .nil rfl (.done .nil)) (by simp) (by simp)
      ⟨_, rfl, .items .nil houtput (.done .nil)⟩⟩
  exact ⟨String.ofList u, [], u, [], .nil, .nil, hanswer, by simp⟩

/-- **Answers with any number of predictions are accepted.** -/
theorem accepted_of_any_size (n : Nat) :
    ∃ body, predictionsOf body = .ok (List.replicate n (sample 1)) := by
  have htexts : ∀ p ∈ List.replicate n (sample 1), ∃ t, Prediction.Text t p := by
    intro p hp
    rw [List.eq_of_mem_replicate hp]
    exact ⟨_, sample_text (by decide)⟩
  obtain ⟨body, hbody⟩ := exists_answers htexts
  refine ⟨body, predictionsOf_ok_iff.mpr ⟨_, hbody, fun p hp => ?_, by simp⟩⟩
  rw [List.flatMap_singleton] at hp
  rw [List.eq_of_mem_replicate hp]
  decide +kernel

end Detection

namespace Repository

open Statement (parameterLimit rowWidth)

/-! ### The statement of the predictions -/

section Insert

variable {t : Tables} {jobId imageUrl : String} {ps : List Prediction} {processedAt now : Instant}
  {ids : Nat → Uuid}

theorem length_parameters_insert (jobId : String) (ps : List Prediction) :
    (Statement.insertPredictions jobId ps).parameters.length = rowWidth * ps.length :=
  length_flatMap_rowParameters jobId ps

/-- The most predictions whose parameters a statement can have. -/
def rowLimit : Nat := parameterLimit / rowWidth

theorem rowLimit_lt_iff {n : Nat} : rowLimit < n ↔ parameterLimit < rowWidth * n := by
  simp only [rowLimit, parameterLimit, rowWidth]
  omega

/-- Of the parameters only the texts can hold a NUL. -/
theorem any_hasNul_insert (hjob : IsPlainText jobId) :
    (Statement.insertPredictions jobId ps).parameters.any Statement.parameterHasNul =
      ps.any fun p => Statement.hasNul p.label := by
  induction ps with
  | nil => rfl
  | cons p ps ih =>
    have hrow : (Statement.rowParameters jobId p).any Statement.parameterHasNul =
        Statement.hasNul p.label := by
      simp only [Statement.rowParameters, List.any_cons, List.any_nil, Statement.parameterHasNul,
        Bool.false_or, Bool.or_false]
      rw [show Statement.hasNul jobId = false from hjob, Bool.false_or]
    have hcons : (Statement.insertPredictions jobId (p :: ps)).parameters =
        Statement.rowParameters jobId p ++ (Statement.insertPredictions jobId ps).parameters := rfl
    rw [hcons, List.any_append, hrow, ih, List.any_cons]

theorem accept_insert (ps : List Prediction) (hjob : IsPlainText jobId) :
    (Statement.insertPredictions jobId ps).accept =
      if rowLimit < ps.length then .error (.parameters (rowWidth * ps.length))
      else if ps.any fun p => Statement.hasNul p.label then .error .nul
      else .ok () := by
  rw [Statement.accept, any_hasNul_insert hjob, length_parameters_insert]
  simp only [rowLimit_lt_iff]

/-! ### The whole result -/

/-- A statement that is refused ends the transaction, of which no trace is left. -/
theorem run_refused {committed : Tables} {s : Statement} {refusal : Refusal}
    {next : Reply → Script α} (hplain : s.isPlain = true) (hrefused : s.accept = .error refusal) :
    (Script.send s next).run now ids ⟨committed, some t⟩ =
      (committed, .error (.database refusal.message)) := by
  have happly : s.apply now ids t = .error refusal := by
    rw [Statement.apply, hrefused]
    rfl
  have hwithin : (⟨committed, some t⟩ : Script.Connection).apply now ids s = .error refusal := by
    cases s with
    | begin | commit | rollback => cases hplain
    | _ => simp only [Script.Connection.apply, happly]; rfl
  rw [Script.run, hwithin]

theorem isEmpty_predictions {r : JobResult} (hsome : r.predictions ≠ []) :
    r.predictions.isEmpty = false := by
  rwa [← Bool.not_eq_true, List.isEmpty_iff]

/-- All predictions of a result are in one statement. -/
theorem insert_mem_upsertStatements {r : JobResult} (hsome : r.predictions ≠ []) :
    .insertPredictions r.jobId r.predictions ∈ Script.upsertStatements r := by
  rw [Script.upsertStatements, isEmpty_predictions hsome]
  simp

/-- If the tables refuse the predictions of a result, they refuse all of it. -/
theorem alone_upsert_refused {r : JobResult} {refusal : Refusal}
    (hjob : (Statement.upsertJob r).accept = .ok ())
    (hold : (Statement.deletePredictions r.jobId).accept = .ok ())
    (hrefused : (Statement.insertPredictions r.jobId r.predictions).accept = .error refusal)
    (hsome : r.predictions ≠ []) :
    (Call.upsert r).alone now ids t = (t, .error (.database refusal.message)) := by
  rw [Call.alone, Call.script, Script.upsert, Script.map_sendAll, Script.upsertStatements,
    isEmpty_predictions hsome]
  exact run_begin.trans ((run_within rfl hjob (effect_upsertJob t now ids r)).trans
    ((run_within rfl hold (effect_deletePredictions _ now ids r.jobId)).trans
      (run_refused rfl hrefused)))

theorem accept_upsertJob_completed (hjob : IsPlainText jobId) (himage : IsPlainText imageUrl) :
    (Statement.upsertJob (.completed jobId imageUrl ps processedAt)).accept = .ok () := by
  apply accept_of_plain (by show 5 ≤ _; decide)
  intro p hp
  simp only [Statement.parameters, List.mem_cons, List.not_mem_nil, or_false] at hp
  rcases hp with rfl | rfl | rfl | rfl | rfl
  · exact hjob
  · exact himage
  · show Statement.hasNul Status.completed.name = false
    decide
  · rfl
  · rfl

theorem accept_deletePredictions (hjob : IsPlainText jobId) :
    (Statement.deletePredictions jobId).accept = .ok () := by
  apply accept_of_plain (by show 1 ≤ _; decide)
  intro p hp
  cases List.mem_singleton.mp hp
  exact hjob

/-- **What the tables make of the predictions of an accepted answer:** they refuse them if they
    are more than 8191, or if a label holds a NUL, and otherwise they store all of them. -/
theorem completed_stored_up_to_limit {body : String}
    (hpredictions : Detection.predictionsOf body = .ok ps)
    (hjob : IsPlainText jobId) (himage : IsPlainText imageUrl) :
    (Statement.insertPredictions jobId ps).parameters.length = 8 * ps.length ∧
    (Call.upsert (.completed jobId imageUrl ps processedAt)).alone now ids t =
      if 8191 < ps.length then
        (t, .error (.database (Refusal.parameters (8 * ps.length)).message))
      else if ps.any fun p => Statement.hasNul p.label then
        (t, .error (.database Refusal.nul.message))
      else
        (t.recordResult (.completed jobId imageUrl ps processedAt) now ids, .ok .done) := by
  refine ⟨length_parameters_insert jobId ps, ?_⟩
  have haccept := accept_insert ps hjob
  have hupsert : (Statement.upsertJob (.completed jobId imageUrl ps processedAt)).accept = .ok () :=
    accept_upsertJob_completed hjob himage
  have hlimit : rowLimit = 8191 := rfl
  rw [hlimit] at haccept
  by_cases hmany : 8191 < ps.length
  · rw [if_pos hmany] at haccept ⊢
    refine alone_upsert_refused hupsert (accept_deletePredictions hjob) haccept ?_
    exact List.ne_nil_of_length_pos (Nat.zero_lt_of_lt hmany)
  rw [if_neg hmany] at haccept ⊢
  by_cases hnul : ps.any fun p => Statement.hasNul p.label
  · rw [if_pos hnul] at haccept ⊢
    refine alone_upsert_refused hupsert (accept_deletePredictions hjob) haccept ?_
    rintro rfl
    cases hnul
  · rw [if_neg hnul] at haccept ⊢
    refine alone_upsert ⟨hupsert, accept_deletePredictions hjob, fun _ => ⟨haccept, ?_⟩⟩
    rw [List.all_eq_true]
    exact fun p hp => ((Detection.predictionsOf_exact body).2.1 ps hpredictions p hp).2

end Insert

/-- The result of a job for which as many objects were found. -/
def crowded (n : Nat) : JobResult :=
  .completed "job-1" "https://x/a.png" (List.replicate n (Detection.sample 1)) noon.now

theorem completed_stored_up_to_limit_at_most :
    ∃ body, Detection.predictionsOf body = .ok (crowded 8191).predictions ∧
      (Call.upsert (crowded 8191)).alone noon.now noon.ids .empty =
        (Tables.empty.recordResult (crowded 8191) noon.now noon.ids, .ok .done) := by
  obtain ⟨body, hbody⟩ := Detection.accepted_of_any_size 8191
  have hjob : IsPlainText "job-1" := by decide
  have himage : IsPlainText "https://x/a.png" := by decide
  have hlabels : ¬ (List.replicate 8191 (Detection.sample 1)).any
      (fun p => Statement.hasNul p.label) = true := by
    rw [List.any_replicate]
    decide
  refine ⟨body, hbody, (completed_stored_up_to_limit hbody hjob himage).2.trans ?_⟩
  rw [List.length_replicate, if_neg (Nat.lt_irrefl 8191), if_neg hlabels]
  rfl

/-- **A valid answer may be too large for the tables**, though not for the memory. -/
theorem completed_refused_past_limit :
    ∃ body, Detection.predictionsOf body = .ok (crowded 8192).predictions ∧
      (∃ s ∈ Script.upsertStatements (crowded 8192), s.parameters.length = 65536) ∧
      (Call.upsert (crowded 8192)).alone noon.now noon.ids .empty =
        (.empty, .error (.database "too many parameters: 65536")) ∧
      (Repository.empty.upsert (crowded 8192) noon.ids' noon.now).2 = .ok () := by
  obtain ⟨body, hbody⟩ := Detection.accepted_of_any_size 8192
  have hjob : IsPlainText "job-1" := by decide
  have himage : IsPlainText "https://x/a.png" := by decide
  have hlength : (crowded 8192).predictions.length = 8192 := List.length_replicate
  have hsome : (crowded 8192).predictions ≠ [] :=
    List.ne_nil_of_length_pos (by rw [hlength]; decide)
  have hrefused := accept_insert (crowded 8192).predictions hjob
  rw [hlength, if_pos (show rowLimit < 8192 by decide)] at hrefused
  have hmessage : (Refusal.parameters (rowWidth * 8192)).message =
      "too many parameters: 65536" := by
    decide
  refine ⟨body, hbody, ⟨_, insert_mem_upsertStatements hsome, ?_⟩, ?_, rfl⟩
  · rw [length_parameters_insert, hlength]
    rfl
  · rw [← hmessage]
    exact alone_upsert_refused (accept_upsertJob_completed hjob himage)
      (accept_deletePredictions hjob) hrefused hsome

end Repository

end DetectionJobs
