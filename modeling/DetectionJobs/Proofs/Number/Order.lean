/-
  DetectionJobs/Proofs/Number/Order.lean
  ======================================
  **Finite numbers stand for rational ones, and are compared as these are.**

  Two finite numbers are compared by their magnitudes and signs.  That this compares what
  they stand for comes from the count of smallest steps from zero: it grows with the
  magnitude, also where the exponent changes.
-/
import DetectionJobs.Number.Double
import DetectionJobs.Validation.Report
import Mathlib.Algebra.Order.Field.Power
import Mathlib.Algebra.Order.Ring.Rat
import Mathlib.Tactic.NormNum
import Mathlib.Tactic.Positivity
import Mathlib.Tactic.Ring

namespace DetectionJobs.Double

/-- What a finite number stands for. -/
def value (x : Double) : ℚ :=
  (if x.isNegative then -1 else 1) * ((x.significand : ℚ) * (2 : ℚ) ^ x.exponent)

/-! ### Smallest steps -/

/-- The number of smallest steps from zero to a magnitude. -/
def stepsTo (m : Nat) : Nat :=
  if m / 2 ^ 52 = 0 then m % 2 ^ 52 else (2 ^ 52 + m % 2 ^ 52) * 2 ^ (m / 2 ^ 52 - 1)

theorem stepsTo_lt_succ (m : Nat) : stepsTo m < stepsTo (m + 1) := by
  unfold stepsTo
  by_cases hr : m % 2 ^ 52 + 1 < 2 ^ 52
  · have hq : (m + 1) / 2 ^ 52 = m / 2 ^ 52 := by omega
    have hr' : (m + 1) % 2 ^ 52 = m % 2 ^ 52 + 1 := by omega
    rw [hq, hr']
    split
    · omega
    · exact Nat.mul_lt_mul_of_pos_right (by omega) (Nat.two_pow_pos _)
  · -- The fraction starts again at zero, with the next exponent.
    have hq : (m + 1) / 2 ^ 52 = m / 2 ^ 52 + 1 := by omega
    have hr' : (m + 1) % 2 ^ 52 = 0 := by omega
    have hlast : m % 2 ^ 52 = 2 ^ 52 - 1 := by omega
    rw [hq, hr', hlast, if_neg (Nat.succ_ne_zero _), Nat.add_sub_cancel]
    cases m / 2 ^ 52 with
    | zero => decide
    | succ k =>
      have hpos := Nat.two_pow_pos k
      rw [if_neg (Nat.succ_ne_zero _), Nat.add_sub_cancel, Nat.pow_succ]
      omega

theorem stepsTo_strictMono : StrictMono stepsTo := strictMono_nat_of_lt_succ stepsTo_lt_succ

theorem stepsTo_zero : stepsTo 0 = 0 := by decide

/-- The steps to a number, below zero for negative ones. -/
def steps (x : Double) : ℤ :=
  if x.isNegative then -(stepsTo x.magnitude : ℤ) else stepsTo x.magnitude

/-- The length of a step. -/
def step : ℚ := (2 : ℚ) ^ (-1074 : ℤ)

theorem step_pos : 0 < step := zpow_pos two_pos _

theorem significand_scaled (x : Double) :
    (x.significand : ℚ) * (2 : ℚ) ^ x.exponent = (stepsTo x.magnitude : ℚ) * step := by
  unfold significand exponent stepsTo exponentField
  cases x.magnitude / 2 ^ 52 with
  | zero => rfl
  | succ k =>
    have hexp : ((k + 1 : Nat) : ℤ) - 1075 = (k : ℤ) + (-1074) := by omega
    rw [if_neg (Nat.succ_ne_zero _), if_neg (Nat.succ_ne_zero _), if_neg (Nat.succ_ne_zero _), hexp,
      zpow_add₀ two_ne_zero, zpow_natCast, Nat.add_sub_cancel, ← step]
    push_cast
    ring

theorem value_eq_steps (x : Double) : x.value = (x.steps : ℚ) * step := by
  rw [value, significand_scaled, steps]
  split <;> push_cast <;> ring

/-! ### Order -/

theorem steps_le_iff (x y : Double) : x.steps ≤ y.steps ↔ x.key ≤ y.key := by
  have hle : stepsTo x.magnitude ≤ stepsTo y.magnitude ↔ x.magnitude ≤ y.magnitude :=
    stepsTo_strictMono.le_iff_le
  have hle' : stepsTo y.magnitude ≤ stepsTo x.magnitude ↔ y.magnitude ≤ x.magnitude :=
    stepsTo_strictMono.le_iff_le
  have hzero : ∀ m, stepsTo m = 0 ↔ m = 0 := fun m =>
    ⟨fun h => stepsTo_strictMono.injective (h.trans stepsTo_zero.symm),
      fun h => h ▸ stepsTo_zero⟩
  have hx := hzero x.magnitude
  have hy := hzero y.magnitude
  unfold steps key
  cases x.isNegative <;> cases y.isNegative <;>
    simp only [if_true, Bool.false_eq_true, if_false] <;> omega

/-- **Keys are in the order of what the numbers stand for.** -/
theorem value_le_iff (x y : Double) : x.value ≤ y.value ↔ x.key ≤ y.key := by
  rw [value_eq_steps, value_eq_steps, mul_le_mul_iff_of_pos_right step_pos, Int.cast_le,
    steps_le_iff]

theorem not_isNaN {x : Double} (h : x.isFinite = true) : x.isNaN = false := by
  simp only [isFinite, isNaN, decide_eq_true_eq, decide_eq_false_iff_not] at h ⊢
  omega

/-- **Finite numbers are compared as what they stand for.** -/
theorem lt_eq_false_iff {x y : Double} (hx : x.isFinite = true) (hy : y.isFinite = true) :
    x.lt y = false ↔ y.value ≤ x.value := by
  rw [value_le_iff, lt, not_isNaN hx, not_isNaN hy]
  simp

/-- No finite number is above the largest one. -/
theorem value_le_largest {x : Double} (h : x.isFinite = true) : x.value ≤ largest.value := by
  have hkey : largest.key = infinityMagnitude - 1 := by decide
  rw [value_le_iff, hkey, key]
  simp only [isFinite, decide_eq_true_eq] at h
  split <;> omega

theorem value_zero : Double.zero.value = 0 := by
  have hsteps : Double.zero.steps = 0 := by decide
  rw [value_eq_steps, hsteps, Int.cast_zero, zero_mul]

theorem value_one : (Double.ofNat 1).value = 1 := by
  have hnegative : (Double.ofNat 1).isNegative = false := by decide
  have hsignificand : (Double.ofNat 1).significand = 2 ^ 52 := by decide
  have hexponent : (Double.ofNat 1).exponent = -52 := by decide
  rw [value, hnegative, hsignificand, hexponent]
  norm_num

theorem zero_isFinite : Double.zero.isFinite = true := by decide

theorem one_isFinite : (Double.ofNat 1).isFinite = true := by decide

theorem largest_isFinite : Double.largest.isFinite = true := by decide

end DetectionJobs.Double

/-! ### Ranges -/

namespace DetectionJobs.Validation

/-- **The rule on a range is the one on what the numbers stand for**, as long as they are
    finite; a NaN it would let pass. -/
theorem range_eq_none_iff {low high x : Double} (hlow : low.isFinite = true)
    (hhigh : high.isFinite = true) (hx : x.isFinite = true) :
    range low high x = none ↔ low.value ≤ x.value ∧ x.value ≤ high.value := by
  rw [← Double.lt_eq_false_iff hx hlow, ← Double.lt_eq_false_iff hhigh hx, range]
  cases x.lt low <;> cases high.lt x <;> simp

end DetectionJobs.Validation
