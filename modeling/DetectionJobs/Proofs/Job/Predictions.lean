/-
  DetectionJobs/Proofs/Job/Predictions.lean
  =========================================
  **How a prediction is written, and which ones are valid.**

  The rules on a prediction compare its numbers with bounds, and let a NaN pass.  A
  prediction that was read has finite numbers, and for such a one the rules say what they
  seem to: the numbers it stands for lie within the bounds.
-/
import DetectionJobs.Proofs.Json.Finite
import DetectionJobs.Proofs.Json.Records
import DetectionJobs.Repository.Tables

namespace DetectionJobs

open Json

namespace Prediction

/-! ### The text -/

/-- A whole number of thirty-two bits. -/
def Int32Text (t : List Char) (i : Int32) : Prop := WholeText (-2 ^ 31) (2 ^ 31 - 1) t i.toInt

/-- The members of a prediction in their order.  None may be missing. -/
def slots : Slots :=
  ["x", "y", "width", "height", "confidence", "class", "class_id"].map fun name => (name, false)

/-- Entries that tell a prediction: each member is there, and once. -/
structure Told (es : List Entry) (p : Prediction) : Prop where
  x : Given "x" RealText es p.x
  y : Given "y" RealText es p.y
  width : Given "width" RealText es p.width
  height : Given "height" RealText es p.height
  confidence : Given "confidence" RealText es p.confidence
  label : Given "class" Quoted es p.label
  classId : Given "class_id" Int32Text es p.classId

/-- The text of a prediction. -/
def Text : List Char → Prediction → Prop := RecordText slots Told

theorem takes_int32 (depth : Nat) : Takes (Format.int32.read depth) Int32Text := by
  refine (takes_between _ _ "i32" Int32.ofInt).congr fun t i => ?_
  constructor
  · rintro ⟨n, h, rfl⟩
    obtain ⟨f, hvalue, hlow, hhigh, rfl⟩ := h
    have hn : (Int32.ofInt n).toInt = n := Int32.toInt_ofInt_of_le (by omega) (by omega)
    exact ⟨f, by rw [hn]; exact hvalue, by omega, by omega, rfl⟩
  · intro h
    exact ⟨i.toInt, h, Int32.ofInt_toInt i⟩

theorem fields_collects (depth : Nat) :
    ∃ holds, fields.Collects depth Told holds := by
  have hreal := fun name => Fields.collects_required (takes_double depth) name
  have h : fields.Collects depth _ _ :=
    (((((((hreal "x").and (hreal "y") (by decide)).and (hreal "width") (by decide)).and
      (hreal "height") (by decide)).and (hreal "confidence") (by decide)).and
      (Fields.collects_required (takes_text depth) "class") (by decide)).and
      (Fields.collects_required (takes_int32 depth) "class_id") (by decide)).as _
  refine ⟨_, h.congr fun es p => ⟨?_, fun ht => ⟨((((((p.x, p.y), p.width), p.height),
    p.confidence), p.label), p.classId), ?_, rfl⟩⟩⟩
  · rintro ⟨a, ⟨⟨⟨⟨⟨⟨hx, hy⟩, hwidth⟩, hheight⟩, hconfidence⟩, hlabel⟩, hid⟩, rfl⟩
    exact ⟨hx, hy, hwidth, hheight, hconfidence, hlabel, hid⟩
  · exact ⟨⟨⟨⟨⟨⟨ht.x, ht.y⟩, ht.width⟩, ht.height⟩, ht.confidence⟩, ht.label⟩, ht.classId⟩

/-- **A prediction is read from its texts, and from no others.** -/
theorem format_takes (depth : Nat) : Takes (format.read (depth + 1)) Text := by
  obtain ⟨holds, h⟩ := fields_collects depth
  exact h.takes (by decide) "struct Prediction"

/-! ### Valid predictions -/

/-- The numbers of a prediction. -/
def numbers (p : Prediction) : List Double := [p.x, p.y, p.width, p.height, p.confidence]

/-- The box has finite, non-negative numbers, the confidence lies between zero and one, and
    the name of the class has 1 to 255 bytes. -/
structure Proper (p : Prediction) : Prop where
  finite : ∀ x ∈ p.numbers, x.isFinite = true
  nonneg : ∀ x ∈ p.numbers, 0 ≤ x.value
  confidence : p.confidence.value ≤ 1
  label : 1 ≤ p.label.utf8ByteSize ∧ p.label.utf8ByteSize ≤ 255

/-- Every number that is read for a prediction is finite. -/
theorem Text.isFinite {t : List Char} {p : Prediction} (h : Text t p) :
    ∀ x ∈ p.numbers, x.isFinite = true := by
  have hreal : ∀ {name es x}, Given name RealText es x → x.isFinite = true := by
    rintro name es x ⟨v, _, f, n, hvalue, rfl, _⟩
    exact NumberForm.isFinite_value hvalue
  obtain ⟨es, ht⟩ := h.told
  simp only [numbers, List.forall_mem_cons]
  exact ⟨hreal ht.x, hreal ht.y, hreal ht.width, hreal ht.height, hreal ht.confidence,
    List.forall_mem_nil _⟩

theorem byteLength_eq_none_iff {low high : Nat} {s : String} :
    Validation.byteLength low high s = none ↔ low ≤ s.utf8ByteSize ∧ s.utf8ByteSize ≤ high := by
  unfold Validation.byteLength
  split
  · simp; omega
  split
  · simp; omega
  · simp; omega

theorem check_eq_nil_iff {field : String} {reason : Option String} :
    Validation.check field [reason] = [] ↔ reason = none := by
  cases reason <;> simp [Validation.check]

/-- **A prediction with finite numbers is valid exactly if it is proper.** -/
theorem isValid_iff_proper {p : Prediction} (h : ∀ x ∈ p.numbers, x.isFinite = true) :
    p.IsValid ↔ p.Proper := by
  have hfinite := h
  simp only [numbers, List.forall_mem_cons] at h
  obtain ⟨hx, hy, hwidth, hheight, hconfidence, _⟩ := h
  have hrange : ∀ {x : Double}, x.isFinite = true →
      (Validation.range .zero .largest x = none ↔ 0 ≤ x.value) := by
    intro x hx
    rw [Validation.range_eq_none_iff Double.zero_isFinite Double.largest_isFinite hx,
      Double.value_zero]
    exact and_iff_left (Double.value_le_largest hx)
  have hunit : Validation.range .zero (.ofNat 1) p.confidence = none ↔
      0 ≤ p.confidence.value ∧ p.confidence.value ≤ 1 := by
    rw [Validation.range_eq_none_iff Double.zero_isFinite Double.one_isFinite hconfidence,
      Double.value_zero, Double.value_one]
  simp only [IsValid, report, List.append_eq_nil_iff, check_eq_nil_iff, byteLength_eq_none_iff,
    hrange hx, hrange hy, hrange hwidth, hrange hheight, hunit]
  constructor
  · rintro ⟨⟨⟨⟨⟨hlabel, hc, hc'⟩, hh⟩, hw⟩, hx⟩, hy⟩
    exact ⟨hfinite, by simp [numbers, hx, hy, hw, hh, hc], hc', hlabel⟩
  · rintro ⟨_, hnonneg, hc', hlabel⟩
    simp only [numbers, List.forall_mem_cons] at hnonneg
    obtain ⟨hx, hy, hw, hh, hc, _⟩ := hnonneg
    exact ⟨⟨⟨⟨⟨hlabel, hc, hc'⟩, hh⟩, hw⟩, hx⟩, hy⟩

/-- **What is proper, the store keeps.** -/
theorem Proper.meetsChecks {p : Prediction} (h : p.Proper) : Repository.meetsChecks p = true := by
  have hfinite := h.finite
  have hnonneg := h.nonneg
  simp only [numbers, List.forall_mem_cons] at hfinite hnonneg
  obtain ⟨hx, hy, hwidth, hheight, hconfidence, _⟩ := hfinite
  have hleast : ∀ {x : Double}, x.isFinite = true → 0 ≤ x.value →
      Repository.atLeast .zero x = true := by
    intro x hx hvalue
    rw [← Double.value_zero, ← Double.lt_eq_false_iff hx Double.zero_isFinite] at hvalue
    rw [Repository.atLeast, hvalue]
    exact Bool.or_true _
  have hmost : Repository.atMost (.ofNat 1) p.confidence = true := by
    have hvalue := h.confidence
    rw [← Double.value_one, ← Double.lt_eq_false_iff Double.one_isFinite hconfidence] at hvalue
    rw [Repository.atMost, Double.not_isNaN hconfidence, hvalue]
    rfl
  obtain ⟨hx', hy', hwidth', hheight', hconfidence', _⟩ := hnonneg
  simp only [Repository.meetsChecks, hleast hx hx', hleast hy hy', hleast hwidth hwidth',
    hleast hheight hheight', hleast hconfidence hconfidence', hmost, Bool.and_self]

end Prediction

end DetectionJobs
