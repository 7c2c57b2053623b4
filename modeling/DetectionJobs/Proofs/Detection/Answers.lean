/-
  DetectionJobs/Proofs/Detection/Answers.lean
  ===========================================
  **Which answers of the detection service are accepted.**

  The grammar says which texts are answers, and with which outputs.  An answer is accepted
  exactly if each prediction of each output is valid; then its predictions are those of the
  outputs, one output after the other.  If some prediction is not, the first one is named
  by its place among all of them.
-/
import DetectionJobs.Detection.Answer
import DetectionJobs.Proofs.Job.Predictions

namespace DetectionJobs.Detection

open Json

/-! ### The text -/

/-- The object that holds the predictions of an output; without its member it holds
    none. -/
def PredictionsText : List Char → List Prediction → Prop :=
  RecordText [("predictions", true)] (GivenOr "predictions" (Listed Prediction.Text) [])

/-- A count, a whole number of thirty-two bits without a sign. -/
def CountText (t : List Char) (n : Nat) : Prop := WholeText 0 (2 ^ 32 - 1) t n

/-- Entries that tell an output.  The count may be null or missing. -/
structure Output.Told (es : List Entry) (o : Output) : Prop where
  count : GivenOr "count_objects" (Nullable CountText) none es o.count
  predictions : Given "predictions" PredictionsText es o.predictions

def OutputText : List Char → Output → Prop :=
  RecordText [("count_objects", true), ("predictions", false)] Output.Told

def AnswerText : List Char → List Output → Prop :=
  RecordText [("outputs", false)] (Given "outputs" (Listed OutputText))

/-- A text that is an answer with the given outputs. -/
def Answers (body : String) (outputs : List Output) : Prop := Alone AnswerText body.toList outputs

/-! ### The reader -/

theorem predictionsFormat_takes (depth : Nat) :
    Takes (predictionsFormat.read (depth + 3)) PredictionsText :=
  (Fields.collects_withDefault (Prediction.format_takes depth).list "predictions" []).takes
    (by decide) "struct OutputPredictions"

theorem takes_count (depth : Nat) :
    Takes (Format.natural32.nullable.read depth) (Nullable CountText) := by
  have h : Takes (Format.natural32.read depth) CountText := by
    refine (takes_between _ _ "u32" Int.toNat).congr fun t n => ?_
    constructor
    · rintro ⟨m, ⟨f, hvalue, hlow, hhigh, rfl⟩, rfl⟩
      obtain ⟨k, rfl⟩ := Int.eq_ofNat_of_zero_le hlow
      exact ⟨f, hvalue, hlow, hhigh, rfl⟩
    · exact fun h => ⟨n, h, rfl⟩
  refine h.nullable fun t n ht => ?_
  obtain ⟨f, _, _, _, rfl⟩ := ht
  obtain ⟨c, u, hcons, hc⟩ := f.chars_front
  rw [hcons, List.head?_cons]
  intro heq
  cases heq
  exact absurd hc (by decide)

theorem outputFormat_takes (depth : Nat) : Takes (Output.format.read (depth + 4)) OutputText := by
  have h := ((Fields.collects_optionalWithDefault (takes_count (depth + 3)) "count_objects").and
    (Fields.collects_required (predictionsFormat_takes depth) "predictions") (by decide)).as
    fun both => (⟨both.1, both.2⟩ : Output)
  have htold : Fields.Collects _ _ Output.Told _ := h.congr fun es o =>
    ⟨fun ⟨_, ⟨hcount, hpredictions⟩, ho⟩ => ho ▸ ⟨hcount, hpredictions⟩,
      fun ht => ⟨(o.count, o.predictions), ⟨ht.count, ht.predictions⟩, rfl⟩⟩
  exact htold.takes (by decide) "struct InferOutput"

theorem answerFormat_takes (depth : Nat) : Takes (answerFormat.read (depth + 6)) AnswerText :=
  (Fields.collects_required (outputFormat_takes depth).list "outputs").takes
    (by decide) "struct InferResponse"

/-- **The texts that are read as an answer are the answers.** -/
theorem parse_iff_answers {body : String} {outputs : List Output} :
    answerFormat.parse body = .ok outputs ↔ Answers body outputs :=
  (answerFormat_takes 121).parse_iff

/-- A text is an answer in one way only. -/
theorem Answers.unique {body : String} {outputs outputs' : List Output} (h : Answers body outputs)
    (h' : Answers body outputs') : outputs = outputs' := by
  have hparse := parse_iff_answers.mpr h
  rw [parse_iff_answers.mpr h'] at hparse
  cases hparse
  rfl

/-! ### The first invalid prediction -/

theorem firstInvalid_eq_none {i : Nat} {ps : List Prediction} :
    firstInvalid i ps = none ↔ ∀ p ∈ ps, p.IsValid := by
  induction ps generalizing i with
  | nil => simp [firstInvalid]
  | cons p ps ih =>
    rw [firstInvalid, List.forall_mem_cons, Prediction.IsValid]
    cases hp : p.report with
    | nil => simp [ih]
    | cons v r => simp

/-- What is found is not valid, and all before it are. -/
theorem firstInvalid_eq_some {i k : Nat} {ps : List Prediction} {report : Validation.Report}
    (h : firstInvalid i ps = some (k, report)) :
    ∃ before p after, ps = before ++ p :: after ∧ k = i + before.length ∧ report = p.report ∧
      ¬ p.IsValid ∧ ∀ q ∈ before, q.IsValid := by
  induction ps generalizing i with
  | nil => cases h
  | cons p ps ih =>
    rw [firstInvalid] at h
    split at h
    · next hp =>
      obtain ⟨before, q, after, rfl, rfl, hreport, hq, hbefore⟩ := ih h
      refine ⟨p :: before, q, after, rfl, by simp; omega, hreport, hq, ?_⟩
      exact List.forall_mem_cons.mpr ⟨List.isEmpty_iff.mp hp, hbefore⟩
    · next hp =>
      cases h
      refine ⟨[], p, ps, rfl, rfl, rfl, ?_, List.forall_mem_nil _⟩
      exact fun hvalid => hp (List.isEmpty_iff.mpr hvalid)

/-! ### Accepted answers -/

/-- The predictions of an answer are those of its outputs, up to the first invalid one. -/
theorem predictionsOf_eq {body : String} {outputs : List Output} (h : Answers body outputs) :
    predictionsOf body = match firstInvalid 0 (outputs.flatMap Output.predictions) with
      | none => .ok (outputs.flatMap Output.predictions)
      | some (i, report) =>
        .error (.malformed ("prediction " ++ toString i ++ " is invalid: " ++ report.text)) := by
  rw [predictionsOf, Format.parseText, parse_iff_answers.mpr h]
  rfl

theorem answers_of_ok {body : String} {ps : List Prediction} (h : predictionsOf body = .ok ps) :
    ∃ outputs, Answers body outputs := by
  unfold predictionsOf Format.parseText at h
  cases hparse : answerFormat.parse body with
  | error f => rw [hparse] at h; cases h
  | ok outputs => exact ⟨outputs, parse_iff_answers.mp hparse⟩

theorem predictionsOf_ok_iff {body : String} {ps : List Prediction} :
    predictionsOf body = .ok ps ↔ ∃ outputs, Answers body outputs ∧
      (∀ p ∈ outputs.flatMap Output.predictions, p.IsValid) ∧
      ps = outputs.flatMap Output.predictions := by
  constructor
  · intro h
    obtain ⟨outputs, hanswers⟩ := answers_of_ok h
    rw [predictionsOf_eq hanswers] at h
    cases hfirst : firstInvalid 0 (outputs.flatMap Output.predictions) with
    | none =>
      rw [hfirst] at h
      cases h
      exact ⟨outputs, hanswers, firstInvalid_eq_none.mp hfirst, rfl⟩
    | some found => rw [hfirst] at h; cases h
  · rintro ⟨outputs, hanswers, hvalid, rfl⟩
    rw [predictionsOf_eq hanswers, firstInvalid_eq_none.mpr hvalid]

/-- Every prediction of an answer has finite numbers. -/
theorem Answers.isFinite {body : String} {outputs : List Output} (h : Answers body outputs) :
    ∀ p ∈ outputs.flatMap Output.predictions, ∀ x ∈ p.numbers, x.isFinite = true := by
  intro p hp
  obtain ⟨o, ho, hp⟩ := List.mem_flatMap.mp hp
  obtain ⟨_, _, _, _, _, hanswer, _⟩ := h
  obtain ⟨_, _, _, houtputs⟩ := hanswer.told
  obtain ⟨_, houtput⟩ := houtputs.mem o ho
  obtain ⟨_, _, _, _, hpredictions⟩ := houtput.told
  obtain ⟨_, ⟨_, _, hlist⟩ | ⟨_, hnone⟩⟩ := hpredictions.told
  · obtain ⟨_, htext⟩ := hlist.mem p hp
    exact htext.isFinite
  · rw [hnone] at hp
    cases hp

/-- **Exactly the valid answers are accepted**, with the predictions of all outputs in their
    order, whatever the outputs count.  What is accepted is finite and keeps the bounds of the
    store; where an answer is not valid, the first invalid prediction is named by its index. -/
theorem predictionsOf_exact (body : String) :
    (∀ ps, predictionsOf body = .ok ps ↔ ∃ outputs, Answers body outputs ∧
      (∀ o ∈ outputs, ∀ p ∈ o.predictions, p.IsValid) ∧
      ps = outputs.flatMap Output.predictions) ∧
    (∀ ps, predictionsOf body = .ok ps →
      ∀ p ∈ ps, p.Proper ∧ Repository.meetsChecks p = true) ∧
    ∀ outputs, Answers body outputs → (∃ o ∈ outputs, ∃ p ∈ o.predictions, ¬ p.IsValid) →
      ∃ before p after, outputs.flatMap Output.predictions = before ++ p :: after ∧
        (∀ q ∈ before, q.IsValid) ∧ ¬ p.IsValid ∧
        predictionsOf body = .error (.malformed
          ("prediction " ++ toString before.length ++ " is invalid: " ++ p.report.text)) := by
  have hmem : ∀ outputs : List Output, (∀ p ∈ outputs.flatMap Output.predictions, p.IsValid) ↔
      ∀ o ∈ outputs, ∀ p ∈ o.predictions, p.IsValid := by
    intro outputs
    simp only [List.mem_flatMap]
    exact ⟨fun h o ho p hp => h p ⟨o, ho, hp⟩, fun h p ⟨o, ho, hp⟩ => h o ho p hp⟩
  refine ⟨fun ps => ?_, fun ps h p hp => ?_, fun outputs hanswers hinvalid => ?_⟩
  · simp only [predictionsOf_ok_iff, hmem]
  · obtain ⟨outputs, hanswers, hvalid, rfl⟩ := predictionsOf_ok_iff.mp h
    have hproper := (Prediction.isValid_iff_proper (hanswers.isFinite p hp)).mp (hvalid p hp)
    exact ⟨hproper, hproper.meetsChecks⟩
  · cases hfirst : firstInvalid 0 (outputs.flatMap Output.predictions) with
    | none =>
      obtain ⟨o, ho, p, hp, hnot⟩ := hinvalid
      exact absurd ((hmem outputs).mp (firstInvalid_eq_none.mp hfirst) o ho p hp) hnot
    | some found =>
      obtain ⟨i, report⟩ := found
      obtain ⟨before, p, after, hsplit, rfl, rfl, hp, hbefore⟩ := firstInvalid_eq_some hfirst
      refine ⟨before, p, after, hsplit, hbefore, hp, ?_⟩
      rw [predictionsOf_eq hanswers, hfirst, Nat.zero_add]

/-! ### One answer -/

/-- A prediction whose numbers are zero but for its confidence. -/
def sample (k : Nat) : Prediction :=
  ⟨.ofInt 0, .ofInt 0, .ofInt 0, .ofInt 0, .ofInt k, "a", 0⟩

def sampleText (k : Nat) : List Char :=
  ['[', '0', ',', '0', ',', '0', ',', '0', ',', Nat.digitChar k, ',', '"', 'a', '"', ',', '0', ']']

/-- An answer with it, in which every record is a list. -/
def sampleBody (k : Nat) : String :=
  "[[[1,[[" ++ String.ofList (sampleText k) ++ "]]]]]"

/-- A number of one digit. -/
theorem digit_form : ∀ k : Nat, k < 10 → ∃ f : NumberForm,
    f.value? = some (.whole k) ∧ [Nat.digitChar k] = f.chars := by
  intro k hk
  have hdigit : (Nat.digitChar k).isDigit = true := by
    revert k; decide
  refine ⟨⟨false, [Nat.digitChar k], none, none, ?_, fun _ h => nomatch h⟩, ?_, rfl⟩
  · by_cases h0 : Nat.digitChar k = '0'
    · exact .inl (by rw [h0])
    · exact .inr ⟨⟨List.cons_ne_nil _ _, by simpa using hdigit⟩, by simpa using h0⟩
  · revert k
    decide

theorem sample_text {k : Nat} (hk : k < 10) :
    Prediction.Text (sampleText k) (sample k) := by
  have hreal : ∀ n : Nat, n < 10 → RealText [Nat.digitChar n] (.ofInt n) := fun n hn => by
    obtain ⟨f, hvalue, hchars⟩ := digit_form n hn
    exact ⟨f, _, hvalue, rfl, hchars⟩
  have hzero := hreal 0 (by decide)
  obtain ⟨f, hvalue, hchars⟩ := digit_form 0 (by decide)
  have hid : Prediction.Int32Text ['0'] 0 := ⟨f, hvalue, by decide, by decide, hchars⟩
  have hlabel : Quoted ['"', 'a', '"'] "a" :=
    ⟨[['a']], .cons (.plain (by decide) (by decide) (by decide)) .nil, rfl⟩
  have hvalues : Bracketed _
      [['0'], ['0'], ['0'], ['0'], [Nat.digitChar k], ['"', 'a', '"'], ['0']] :=
    .items .nil rfl (.more .nil .nil rfl (.more .nil .nil rfl (.more .nil .nil rfl
      (.more .nil .nil rfl (.more .nil .nil rfl (.more .nil .nil rfl (.done .nil)))))))
  refine .list hvalues (by simp [Prediction.slots]) (by simp [Prediction.slots]) ?_
  exact ⟨⟨_, rfl, hzero⟩, ⟨_, rfl, hzero⟩, ⟨_, rfl, hzero⟩, ⟨_, rfl, hzero⟩, ⟨_, rfl, hreal k hk⟩,
    ⟨_, rfl, hlabel⟩, ⟨_, rfl, hid⟩⟩

theorem sample_answers {k : Nat} (hk : k < 10) :
    Answers (sampleBody k) [⟨some 1, [sample k]⟩] := by
  obtain ⟨f, hvalue, hchars⟩ := digit_form 1 (by decide)
  have hcount : Nullable CountText ['1'] (some 1) :=
    .value ⟨f, hvalue, by decide, by decide, hchars⟩
  have hlist : Listed Prediction.Text _ [sample k] := .items .nil (sample_text hk) (.done .nil)
  have hpredictions : PredictionsText _ [sample k] :=
    .list (.items .nil rfl (.done .nil)) (by simp) (by simp) (.inl ⟨_, rfl, hlist⟩)
  have houtput : OutputText _ ⟨some 1, [sample k]⟩ :=
    .list (.items .nil rfl (.more .nil .nil rfl (.done .nil))) (by simp) (by simp)
      ⟨.inl ⟨_, rfl, hcount⟩, ⟨_, rfl, hpredictions⟩⟩
  have houtputs : Listed OutputText _ [⟨some 1, [sample k]⟩] :=
    .items .nil houtput (.done .nil)
  have hanswer : AnswerText _ [⟨some 1, [sample k]⟩] :=
    .list (.items .nil rfl (.done .nil)) (by simp) (by simp) ⟨_, rfl, houtputs⟩
  refine ⟨[], _, [], .nil, .nil, hanswer, ?_⟩
  simp [sampleBody]

theorem predictionsOf_exact_of_sample :
    predictionsOf (sampleBody 1) = .ok [sample 1] ∧ (sample 1).Proper ∧
      predictionsOf (sampleBody 2) = .error (.malformed
        ("prediction " ++ toString 0 ++ " is invalid: " ++ (sample 2).report.text)) := by
  have hone := predictionsOf_exact (sampleBody 1)
  have htwo := predictionsOf_exact (sampleBody 2)
  have hvalid : (sample 1).IsValid := by decide +kernel
  have hinvalid : ¬ (sample 2).IsValid := by decide +kernel
  have hok := (hone.1 [sample 1]).mpr ⟨_, sample_answers (by decide), by simpa using hvalid, rfl⟩
  refine ⟨hok, (hone.2.1 _ hok _ List.mem_cons_self).1, ?_⟩
  obtain ⟨before, p, after, hsplit, hbefore, hp, herror⟩ := htwo.2.2 _ (sample_answers (by decide))
    ⟨_, List.mem_cons_self, _, List.mem_cons_self, hinvalid⟩
  have hsingle : before = [] ∧ p = sample 2 := by
    cases before with
    | nil => exact ⟨rfl, (List.cons.inj hsplit).1.symm⟩
    | cons q before => cases before <;> cases hsplit
  rw [hsingle.1, hsingle.2] at herror
  exact herror

end DetectionJobs.Detection
