/-
  DetectionJobs/Proofs/Json/Finite.lean
  =====================================
  **No number that is read is infinite, and none is a NaN.**

  The significand has sixty-four bits, so that it starts as a finite number.  A product
  that is too large is refused where it arises, and quotients by powers of ten only get
  smaller.
-/
import DetectionJobs.Proofs.Json.Grammar
import DetectionJobs.Proofs.Number.Rounding

namespace DetectionJobs.Json

open Double

theorem gather_lt {n : Nat} (hn : n < 2 ^ 64) (taken : Nat) (cs : List Char) :
    (gather n taken cs).1 < 2 ^ 64 := by
  induction cs generalizing n taken with
  | nil => exact hn
  | cons c cs ih =>
    rw [gather]
    split
    · next h => exact ih h.2 _
    · exact hn

theorem isFinite_whole {n : Nat} (hn : n ≤ 2 ^ 64) (negative : Bool) :
    (ofRatio negative n 1).isFinite = true := by
  refine isFinite_ofRatio Nat.one_pos ?_ negative
  calc (n : ℚ) / (1 : Nat) ≤ (2 : ℚ) ^ (64 : ℤ) := by
        rw [Nat.cast_one, div_one]
        exact_mod_cast hn
    _ < (2 : ℚ) ^ (1023 : ℤ) := zpow_lt_zpow_right₀ one_lt_two (by decide)

/-- The powers of ten that a number is divided by are two or more, rounded as they are. -/
theorem two_le_powerOfTen :
    ∀ k < 309, 0 < k → 2 * (powerOfTen k).ratio.2 ≤ (powerOfTen k).ratio.1 := by
  decide +kernel

/-- **Scaling gives finite numbers or nothing.** -/
theorem isFinite_scaleBy {x y : Double} (hx : x.isFinite = true) {e : Int} {steps : Nat}
    (h : scaleBy x e steps = some y) : y.isFinite = true := by
  induction steps generalizing x e with
  | zero =>
    cases h
    exact hx
  | succ steps ih =>
    rw [scaleBy] at h
    split at h
    · split at h
      · simp only at h
        split at h
        · next hfinite =>
          cases h
          exact hfinite
        · cases h
      · cases h
        exact isFinite_div hx (two_le_powerOfTen _ (by omega) (by omega))
    · split at h
      · cases h
        exact hx
      split at h
      · cases h
      · exact ih (isFinite_div hx (two_le_powerOfTen 308 (by decide) (by decide))) h

theorem isFinite_decimal {negative : Bool} {significand : Nat} (hs : significand < 2 ^ 64)
    {e : Int} {n : Numeral} (h : decimal? negative significand e = some n) :
    n.toDouble.isFinite = true := by
  obtain ⟨x, hx, rfl⟩ := Option.map_eq_some_iff.mp h
  have hfinite := isFinite_scaleBy (isFinite_whole hs.le false) hx
  cases negative
  · exact hfinite
  · exact isFinite_neg hfinite

theorem isFinite_scaled {negative : Bool} {significand : Nat} (hs : significand < 2 ^ 64)
    {point : Int} {x : Option ExponentForm} {n : Numeral}
    (h : scaled? negative significand point x = some n) : n.toDouble.isFinite = true := by
  cases x with
  | none => exact isFinite_decimal hs h
  | some e =>
    rw [scaled?] at h
    split at h
    · split at h
      · cases h
      · cases h
        exact isFinite_ofMagnitude (by decide) negative
    · exact isFinite_decimal hs h

theorem isFinite_wholeNumber (negative : Bool) {significand : Nat} (hs : significand < 2 ^ 64) :
    (wholeNumber negative significand).toDouble.isFinite = true := by
  unfold wholeNumber
  split
  · exact isFinite_whole (by simpa using hs.le) _
  split
  · exact isFinite_whole (by simpa using hs.le) _
  · exact isFinite_neg (isFinite_whole hs.le false)

/-- **Every number that has a value has a finite one.** -/
theorem NumberForm.isFinite_value {f : NumberForm} {n : Numeral} (h : f.value? = some n) :
    n.toDouble.isFinite = true := by
  have hwhole : (gather 0 0 f.whole).1 < 2 ^ 64 := gather_lt (by decide) 0 f.whole
  unfold value? at h
  simp only at h
  split at h
  · cases h
    exact isFinite_wholeNumber f.negative hwhole
  · exact isFinite_scaled (gather_lt hwhole 0 _) h

end DetectionJobs.Json
