/-
  DetectionJobs/Proofs/Job/Served.lean
  ====================================
  **What is read back of a job that was served.**

  The view of a job is written as JSON, and a caller reads it.  Its strings, its state and
  its identifiers come back as they were, and its times as their texts show them.  A number
  of a prediction comes back as what the reader makes of its digits: a number near to it,
  and the number itself if it is plain.
-/
import DetectionJobs.Job.View
import DetectionJobs.Proofs.Id.Uuids
import DetectionJobs.Proofs.Job.Predictions
import DetectionJobs.Proofs.Json.Lists
import DetectionJobs.Proofs.Time.Written

namespace DetectionJobs

open Json

/-! ### The state -/

theorem Status.format_reads (s : Status) (depth : Nat) :
    Status.format.Reads depth (.text s.name) s := by
  have hvariant : Status.ofVariant s.name = .ok s := by
    rw [Status.ofVariant, Status.ofName?_name]
  have hstring : (Format.string "variant identifier" Status.ofVariant).Reads depth
      (.text s.name) s := Format.string_reads hvariant depth
  exact fun rest hrest => hstring rest hrest

/-! ### Predictions -/

namespace Prediction

/-- The prediction with its numbers as they are read back. -/
def reread (p : Prediction) : Prediction where
  x := p.x.reread
  y := p.y.reread
  width := p.width.reread
  height := p.height.reread
  confidence := p.confidence.reread
  label := p.label
  classId := p.classId

theorem fields_fills {p : Prediction} (h : ∀ x ∈ p.numbers, x.isFinite = true) (depth : Nat) :
    ∃ s, fields.Fills depth fields.empty p.members s ∧ fields.build s = .ok p.reread := by
  simp only [numbers, List.forall_mem_cons] at h
  obtain ⟨hx, hy, hwidth, hheight, hconfidence, _⟩ := h
  have hreal := fun {x : Double} (name : String) (hfinite : x.isFinite = true) =>
    Fields.Fills.required name (Format.double_reads hfinite depth)
  have hlabel := Fields.Fills.required "class" (Format.text_reads p.label depth)
  have hid := Fields.Fills.required "class_id" (Format.int32_reads p.classId depth)
  refine ⟨_, .as (.and (.and (.and (.and (.and (.and (hreal "x" hx) ?_ (hreal "y" hy)) ?_
    (hreal "width" hwidth)) ?_ (hreal "height" hheight)) ?_ (hreal "confidence" hconfidence)) ?_
    hlabel) ?_ hid), rfl⟩
  all_goals
    intro n hn
    rw [List.mem_singleton.mp hn]
    rfl

theorem members_taken {p : Prediction} (h : ∀ x ∈ p.numbers, x.isFinite = true) (depth : Nat) :
    ∀ m ∈ p.members, m.2.Taken depth := by
  simp only [numbers, List.forall_mem_cons] at h
  obtain ⟨hx, hy, hwidth, hheight, hconfidence, _⟩ := h
  have hlow := p.classId.le_toInt
  have hhigh := p.classId.toInt_lt
  simp only [members, List.forall_mem_cons]
  exact ⟨Value.taken_real hx depth, Value.taken_real hy depth, Value.taken_real hwidth depth,
    Value.taken_real hheight depth, Value.taken_real hconfidence depth,
    Value.taken_text p.label depth, Value.taken_whole (by omega) (by omega) depth,
    List.forall_mem_nil _⟩

/-- No member of a prediction bears the name of one that is added when it is stored. -/
theorem names_of_members {p : Prediction} : ∀ m ∈ p.members, m.1 ≠ "id" ∧ m.1 ≠ "created_at" := by
  simp only [members, List.forall_mem_cons]
  decide

theorem reread_eq_iff {p : Prediction} : p.reread = p ↔ ∀ x ∈ p.numbers, x.reread = x := by
  simp only [numbers, List.forall_mem_cons]
  constructor
  · intro h
    rw [Prediction.mk.injEq] at h
    obtain ⟨hx, hy, hwidth, hheight, hconfidence, _⟩ := h
    exact ⟨hx, hy, hwidth, hheight, hconfidence, List.forall_mem_nil _⟩
  · rintro ⟨hx, hy, hwidth, hheight, hconfidence, _⟩
    rw [reread, hx, hy, hwidth, hheight, hconfidence]

end Prediction

namespace StoredPrediction

/-- The stored prediction as it is read back. -/
def reread (p : StoredPrediction) : StoredPrediction where
  id := p.id
  prediction := p.prediction.reread
  createdAt := p.createdAt.shown

variable {depth : Nat} {tail : List Char}

theorem readMember_id (u : Uuid) (c : Option Instant) (os : List (String × List Char))
    (htail : Delimited tail) :
    readMember depth ⟨none, c, os⟩ "id" (':' :: ((Value.text u.text).chars ++ tail)) =
      .ok (⟨some u, c, os⟩, tail) := by
  have hread := uuidFormat_reads u depth tail htail
  simp [readMember, memberValue, colon, skipSpace, isSpace, Except.bind, hread, Except.map]

theorem readMember_createdAt {t : Instant} (ht : t.IsValid) (i : Option Uuid)
    (os : List (String × List Char)) (htail : Delimited tail) :
    readMember depth ⟨i, none, os⟩ "created_at" (':' :: ((Value.text t.text).chars ++ tail)) =
      .ok (⟨i, some t.shown, os⟩, tail) := by
  have hread := instantFormat_reads ht depth tail htail
  simp [readMember, memberValue, colon, skipSpace, isSpace, Except.bind, hread, Except.map]

/-- Of any other member is kept where its value starts. -/
theorem readMember_other {name : String} {v : Value} (hname : name ≠ "id" ∧ name ≠ "created_at")
    (hv : v.Taken depth) (d : Draft) (htail : Delimited tail) :
    readMember depth d name (':' :: (v.chars ++ tail)) =
      .ok ({ d with others := (name, v.chars ++ tail) :: d.others }, tail) := by
  obtain ⟨w, hw⟩ := hv tail htail
  simp [readMember, hname.1, hname.2, memberValue, colon, skipSpace, isSpace, Except.bind, hw,
    Except.map]

theorem steps_others {ms : List (String × Value)}
    (hnames : ∀ m ∈ ms, m.1 ≠ "id" ∧ m.1 ≠ "created_at") (htaken : ∀ m ∈ ms, m.2.Taken depth)
    (htail : Delimited tail) (d : Draft) :
    Steps (readMember depth) tail d ms
      { d with others := (Fields.starts tail ms).reverse ++ d.others } := by
  induction ms generalizing d with
  | nil => exact .nil d
  | cons m ms ih =>
    rw [List.forall_mem_cons] at hnames htaken
    have hrest := ih hnames.2 htaken.2
      { d with others := (m.1, m.2.chars ++ (laterMembers ms ++ tail)) :: d.others }
    rw [Fields.starts, List.reverse_cons, List.append_assoc]
    exact .cons (readMember_other hnames.1 htaken.1 d (delimited_laterMembers ms htail)) hrest

/-- A draft is a stored prediction if its other members fill the prediction. -/
theorem build_draft {ms : List (String × Value)} {state : Prediction.Draft} {p : Prediction}
    (hfills : Prediction.fields.Fills depth Prediction.fields.empty ms state)
    (hbuild : Prediction.fields.build state = .ok p) (htail : Delimited tail) (u : Uuid)
    (t : Instant) :
    Draft.build depth ⟨some u, some t, (Fields.starts tail ms).reverse⟩ = .ok ⟨u, p, t⟩ := by
  simp only [Draft.build, List.reverse_reverse, hfills.readEntries htail, hbuild]

/-- **A stored prediction is read back.** -/
theorem format_reads {p : StoredPrediction}
    (hnumbers : ∀ x ∈ p.prediction.numbers, x.isFinite = true) (htime : p.createdAt.IsValid)
    (depth : Nat) : format.Reads (depth + 1) p.toValue p.reread := by
  intro rest _
  obtain ⟨state, hfills, hbuild⟩ := Prediction.fields_fills hnumbers depth
  have hlast : Delimited (laterMembers [("created_at", Value.text p.createdAt.text)] ++
      '\x7d' :: rest) := delimited_laterMembers _ (.brace rest)
  -- the identifier is read, the members of the prediction are kept, the moment is read
  have hothers := steps_others Prediction.names_of_members
    (Prediction.members_taken hnumbers depth) hlast ⟨some p.id, none, []⟩
  rw [List.append_nil] at hothers
  have hsteps := Steps.cons
    (readMember_id p.id none [] (delimited_laterMembers _ (.brace rest)))
    (hothers.append (.cons (readMember_createdAt htime _ _ (.brace rest)) (.nil _)))
  have hcollect := collectMembers_written hsteps (length_lt_fuel _ rest)
  have hbuilt := build_draft hfills hbuild hlast p.id p.createdAt.shown
  simp only [format, toValue, List.cons_append, skipSpace_object, inBraces, List.tail_cons,
    hcollect, hbuilt]
  rfl

theorem reread_eq_iff {p : StoredPrediction} : p.reread = p ↔
    (∀ x ∈ p.prediction.numbers, x.reread = x) ∧ p.createdAt.shown = p.createdAt := by
  rw [← Prediction.reread_eq_iff, reread]
  constructor
  · intro h
    rw [StoredPrediction.mk.injEq] at h
    exact h.2
  · rintro ⟨hprediction, htime⟩
    rw [hprediction, htime]

theorem toValue_reread {p : StoredPrediction} (hnumbers : ∀ x ∈ p.prediction.numbers, x.reread = x)
    (htime : p.createdAt.IsValid) : p.reread.toValue = p.toValue := by
  rw [toValue, reread, Prediction.reread_eq_iff.mpr hnumbers, Instant.text_shown _ htime, toValue]

end StoredPrediction

/-! ### Views -/

namespace JobView

/-- The numbers of the predictions in a view. -/
def numbers (v : JobView) : List Double := v.predictions.flatMap (·.prediction.numbers)

/-- The times in a view. -/
def times (v : JobView) : List Instant :=
  v.createdAt :: v.processedAt.toList ++ v.predictions.map (·.createdAt)

/-- The view as it is read back. -/
def reread (v : JobView) : JobView :=
  { v with
    processedAt := v.processedAt.map Instant.shown
    createdAt := v.createdAt.shown
    predictions := v.predictions.map StoredPrediction.reread }

/-- The member that tells an error; there is none without one. -/
def errorMembers (e : Option String) : List (String × Value) :=
  e.toList.map fun e => ("error", .text e)

/-- A moment as it is written; null if there is none. -/
def momentOrNull (t : Option Instant) : Value := t.elim .null fun t => .text t.text

/-- The members of a view, in groups as they are read. -/
def members (v : JobView) : List (String × Value) :=
  [("job_id", .text v.jobId)] ++ [("image_url", .text v.imageUrl)] ++
    [("status", .text v.status.name)] ++ errorMembers v.error ++
    [("processed_at", momentOrNull v.processedAt)] ++ [("created_at", .text v.createdAt.text)] ++
    [("predictions", .list (v.predictions.map StoredPrediction.toValue))]

variable {v : JobView}

theorem forall_numbers {P : Double → Prop} :
    (∀ x ∈ v.numbers, P x) ↔ ∀ p ∈ v.predictions, ∀ x ∈ p.prediction.numbers, P x :=
  List.forall_mem_flatMap

theorem forall_times {P : Instant → Prop} : (∀ t ∈ v.times, P t) ↔
    P v.createdAt ∧ (∀ t ∈ v.processedAt, P t) ∧ ∀ p ∈ v.predictions, P p.createdAt := by
  simp only [times, List.forall_mem_cons, List.forall_mem_append, List.forall_mem_map,
    Option.mem_toList, Option.mem_def, and_assoc]

theorem toValue_eq : v.toValue = .object v.members := by
  obtain ⟨jobId, imageUrl, status, error, processedAt, createdAt, predictions⟩ := v
  cases error <;> cases processedAt <;> rfl

theorem momentOrNull_reads {t : Option Instant} (h : ∀ t' ∈ t, t'.IsValid) (depth : Nat) :
    instantFormat.nullable.Reads depth (momentOrNull t) (t.map Instant.shown) := by
  cases t with
  | none => exact Format.nullable_reads_null _ depth
  | some t => exact Format.nullable_reads_text (instantFormat_reads (h t rfl) depth)

theorem errorMembers_fill (e : Option String) (depth : Nat) :
    ∃ s, (Fields.optionalWithDefault "error" .text).Fills depth none (errorMembers e) s ∧
      (Fields.optionalWithDefault "error" .text).build s = .ok e := by
  cases e with
  | none => exact ⟨none, .nil _, rfl⟩
  | some e =>
    exact ⟨some (some e), .optionalWithDefault "error"
      (Format.nullable_reads_text (Format.text_reads e depth)), rfl⟩

theorem predictions_reads {ps : List StoredPrediction}
    (hnumbers : ∀ p ∈ ps, ∀ x ∈ p.prediction.numbers, x.isFinite = true)
    (htimes : ∀ p ∈ ps, p.createdAt.IsValid) (depth : Nat) :
    (Format.list StoredPrediction.format).Reads (depth + 2)
      (.list (ps.map StoredPrediction.toValue)) (ps.map StoredPrediction.reread) := by
  refine Format.list_reads ?_
  rw [List.forall₂_map_left_iff, List.forall₂_map_right_iff, List.forall₂_same]
  exact fun p hp => StoredPrediction.format_reads (hnumbers p hp) (htimes p hp) depth

theorem fields_fills (hnumbers : ∀ x ∈ v.numbers, x.isFinite = true)
    (htimes : ∀ t ∈ v.times, t.IsValid) (depth : Nat) :
    ∃ s, fields.Fills (depth + 2) fields.empty v.members s ∧ fields.build s = .ok v.reread := by
  rw [forall_numbers] at hnumbers
  obtain ⟨hcreatedAt, hprocessedAt, hpredictions⟩ := forall_times.mp htimes
  have hid := Fields.Fills.required "job_id" (Format.text_reads v.jobId (depth + 2))
  have hurl := Fields.Fills.required "image_url" (Format.text_reads v.imageUrl (depth + 2))
  have hstatus := Fields.Fills.required "status" (Status.format_reads v.status (depth + 2))
  obtain ⟨reason, hreason, hbuild⟩ := errorMembers_fill v.error (depth + 2)
  have hprocessed := Fields.Fills.optional "processed_at"
    (momentOrNull_reads hprocessedAt (depth + 2))
  have hcreated := Fields.Fills.required "created_at"
    (instantFormat_reads hcreatedAt (depth + 2))
  have hfound := Fields.Fills.required "predictions"
    (predictions_reads hnumbers hpredictions depth)
  have hnew : ∀ m ∈ errorMembers v.error, m.1 = "error" := by
    simp [errorMembers]
  refine ⟨_, .as (.and (.and (.and (.and (.and (.and hid ?_ hurl) ?_ hstatus) ?_ hreason) ?_
    hprocessed) ?_ hcreated) ?_ hfound), ?_⟩
  case refine_3 =>
    intro m hm
    rw [hnew m hm]
    rfl
  case refine_7 =>
    simp only [fields, Fields.as, Fields.and, hbuild]
    rfl
  all_goals
    intro n hn
    rw [List.mem_singleton.mp hn]
    rfl

/-- What is written of a view is read as the view that can be read. -/
theorem parse_write (hnumbers : ∀ x ∈ v.numbers, x.isFinite = true)
    (htimes : ∀ t ∈ v.times, t.IsValid) : format.parse v.toValue.write = .ok v.reread := by
  obtain ⟨s, hfills, hbuild⟩ := fields_fills hnumbers htimes 124
  rw [toValue_eq]
  exact (Fields.format_reads "struct JobView" hfills hbuild).parse

/-- A view comes back as it was if its numbers do and its times are shown. -/
theorem reread_eq_iff (htimes : ∀ t ∈ v.times, t.IsValid) :
    v.reread = v ↔ (∀ x ∈ v.numbers, x.reread = x) ∧ ∀ t ∈ v.times, t.IsShown := by
  have hshown : ∀ t ∈ v.times, t.shown = t ↔ t.IsShown := fun t ht =>
    ⟨fun h => h ▸ Instant.isShown_shown (htimes t ht), Instant.shown_eq⟩
  have hprocessed : v.processedAt.map Instant.shown = v.processedAt ↔
      ∀ t ∈ v.processedAt, t.shown = t := by
    cases v.processedAt <;> simp
  have hpredictions : v.predictions.map StoredPrediction.reread = v.predictions ↔
      ∀ p ∈ v.predictions, p.reread = p := by
    have hsame := List.map_inj_left (f := StoredPrediction.reread) (g := id) (l := v.predictions)
    rwa [List.map_id] at hsame
  have hparts : v.reread = v ↔ v.processedAt.map Instant.shown = v.processedAt ∧
      v.createdAt.shown = v.createdAt ∧
      v.predictions.map StoredPrediction.reread = v.predictions := by
    cases v
    simp only [reread, mk.injEq, true_and]
  rw [← forall₂_congr hshown, forall_numbers, forall_times, hparts, hprocessed, hpredictions]
  simp only [StoredPrediction.reread_eq_iff, forall₂_and]
  tauto

/-- If the numbers come back as they were, the same text is written again. -/
theorem toValue_reread (hnumbers : ∀ x ∈ v.numbers, x.reread = x)
    (htimes : ∀ t ∈ v.times, t.IsValid) : v.reread.toValue = v.toValue := by
  rw [forall_numbers] at hnumbers
  obtain ⟨hcreatedAt, hprocessedAt, htimes⟩ := forall_times.mp htimes
  have hprocessed : momentOrNull (v.processedAt.map Instant.shown) =
      momentOrNull v.processedAt := by
    cases h : v.processedAt with
    | none => rfl
    | some t => exact congrArg Value.text (Instant.text_shown t (hprocessedAt t h))
  have hpredictions : (v.predictions.map StoredPrediction.reread).map StoredPrediction.toValue =
      v.predictions.map StoredPrediction.toValue := by
    rw [List.map_map, List.map_inj_left]
    exact fun p hp => StoredPrediction.toValue_reread (hnumbers p hp) (htimes p hp)
  rw [toValue_eq, toValue_eq]
  simp only [members, reread, hprocessed, Instant.text_shown _ hcreatedAt, hpredictions]

/-- **A view that was served is read, and comes back as it was up to the rounding of its
    numbers.**  Each number comes back finite, with its sign, within few magnitudes, and bit for
    bit if it is plain.  The view is the same exactly if all its numbers are and its texts show
    its times; if all its numbers are the same, so is the text that is written of it again. -/
theorem served_is_read (v : JobView) (hnumbers : ∀ x ∈ v.numbers, x.isFinite = true)
    (htimes : ∀ t ∈ v.times, t.IsValid) :
    format.parse v.toValue.write = .ok v.reread ∧
      (∀ x ∈ v.numbers, x.reread.isFinite = true ∧ x.reread.isNegative = x.isNegative ∧
        x.reread.magnitude ≤ x.magnitude + x.slack ∧
        x.magnitude ≤ x.reread.magnitude + x.slack ∧ (x.IsPlain → x.reread = x)) ∧
      (v.reread = v ↔ (∀ x ∈ v.numbers, x.reread = x) ∧ ∀ t ∈ v.times, t.IsShown) ∧
      ((∀ x ∈ v.numbers, x.reread = x) → v.reread.toValue.write = v.toValue.write) := by
  refine ⟨parse_write hnumbers htimes, fun x hx => ?_, reread_eq_iff htimes,
    fun hsame => congrArg Value.write (toValue_reread hsame htimes)⟩
  have hfinite := hnumbers x hx
  obtain ⟨habove, hbelow⟩ := Double.reread_near hfinite
  exact ⟨Double.isFinite_reread hfinite, Double.isNegative_reread hfinite, habove, hbelow,
    Double.reread_of_isPlain hfinite⟩

/-- The view of a job at whose end one object was found, with hardly any confidence. -/
def sample : JobView where
  jobId := "j"
  imageUrl := "https://x/a.png"
  status := .completed
  error := none
  processedAt := some ⟨⟨2024, 6, 1⟩, 2, 500000000⟩
  createdAt := ⟨⟨2024, 6, 1⟩, 0, 0⟩
  predictions := [{
    id := ⟨0x5b3c0e1a111142228333444455556666, by decide⟩
    prediction := ⟨⟨0x4025000000000000⟩, ⟨0x4034000000000000⟩, ⟨0x4014000000000000⟩,
      ⟨0x4019000000000000⟩, ⟨0x3E298C48F56F8D4C⟩, "cat", 0⟩
    createdAt := ⟨⟨2024, 6, 1⟩, 1, 0⟩ }]

theorem sample_is_read :
    (∀ x ∈ sample.numbers, x.isFinite = true) ∧ (∀ t ∈ sample.times, t.IsValid) ∧
      format.parse sample.toValue.write = .ok sample.reread ∧
      ∀ x ∈ sample.numbers.dropLast, x.reread = x := by
  have hnumbers : ∀ x ∈ sample.numbers, x.isFinite = true := by decide
  have htimes : ∀ t ∈ sample.times, t.IsValid := by decide
  -- the box is written with few digits
  have hdigits : ∀ x ∈ sample.numbers.dropLast,
      x.noted.digits ≤ 2 ^ 53 ∧ x.noted.scale.natAbs ≤ 22 := by decide +kernel
  obtain ⟨hread, hvalues, _⟩ := served_is_read sample hnumbers htimes
  refine ⟨hnumbers, htimes, hread, fun x hx => ?_⟩
  obtain ⟨_, _, _, _, hexact⟩ := hvalues x (List.mem_of_mem_dropLast hx)
  exact hexact (Double.isPlain_of_digits_le (hdigits x hx).1 (hdigits x hx).2)

/-- **The confidence comes back as the number above it, and from there as it was**, so that the
    text that is written is another one each time. -/
theorem sample_is_missed :
    (∀ x ∈ sample.numbers, x.isFinite = true) ∧
      (∀ t ∈ sample.times, t.IsClock ∧ 0 ≤ t.date.year ∧ t.date.year ≤ 9999) ∧
      ∃ v, v ≠ sample ∧ format.parse sample.toValue.write = .ok v ∧
        format.parse v.toValue.write = .ok sample ∧ v.toValue.write ≠ sample.toValue.write := by
  have hnumbers : ∀ x ∈ sample.numbers, x.isFinite = true := by decide
  have hnumbers' : ∀ x ∈ sample.reread.numbers, x.isFinite = true := by decide +kernel
  have htimes : ∀ t ∈ sample.times, t.IsValid := by decide
  have htimes' : ∀ t ∈ sample.reread.times, t.IsValid := by decide +kernel
  have hother : sample.reread ≠ sample := by decide +kernel
  have hback : sample.reread.reread = sample := by decide +kernel
  have hfirst := parse_write hnumbers htimes
  have hsecond := parse_write hnumbers' htimes'
  rw [hback] at hsecond
  refine ⟨hnumbers, by decide, _, hother, hfirst, hsecond, fun hsame => hother ?_⟩
  rw [hsame, hfirst, Except.ok.injEq] at hsecond
  exact hsecond

end JobView

end DetectionJobs
