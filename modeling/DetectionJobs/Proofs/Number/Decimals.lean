/-
  DetectionJobs/Proofs/Number/Decimals.lean
  =========================================
  **The decimal that stands for a number is rounded to it.**

  The search for digits works on naturals over a common denominator.  What it compares
  are the number itself and the points halfway to its neighbours, so that a decimal it
  accepts is one that rounding takes back to the number.  Should seventeen digits not be
  enough, the eighteenth leaves less than the distance to the nearer of the two points.
-/
import DetectionJobs.Number.Shortest
import DetectionJobs.Proofs.Number.Nearest
import Mathlib.Tactic.LinearCombination

namespace DetectionJobs.Double

/-- What a decimal stands for. -/
def Decimal.value (d : Decimal) : ℚ := d.digits * 10 ^ d.scale

/-! ### Intervals -/

namespace Interval

/-- The denominator over which a decimal of the grid `10^g` is compared with the interval. -/
def denominator (i : Interval) (g : ℤ) : ℚ := if 0 ≤ g then i.unit else i.unit * 10 ^ (-g).toNat

theorem denominator_pos {i : Interval} (hunit : 0 < i.unit) (g : ℤ) : 0 < i.denominator g := by
  have hpos : (0 : ℚ) < i.unit := by exact_mod_cast hunit
  unfold denominator
  split
  · exact hpos
  · positivity

theorem align_fst (i : Interval) (c : Nat) (g : ℤ) (n : Nat) :
    ((i.align c g n).1 : ℚ) = c * 10 ^ g * i.denominator g := by
  unfold align denominator
  split
  · next h =>
    obtain ⟨k, rfl⟩ := Int.eq_ofNat_of_zero_le h
    rw [Int.toNat_natCast, zpow_natCast]
    push_cast
    ring
  · next h =>
    obtain ⟨k, hk⟩ := Int.eq_ofNat_of_zero_le (by omega : 0 ≤ -g)
    obtain rfl : g = -(k : ℤ) := by omega
    have hpow : (10 : ℚ) ^ k ≠ 0 := by positivity
    rw [neg_neg, Int.toNat_natCast, zpow_neg, zpow_natCast]
    push_cast
    field_simp

theorem align_snd {i : Interval} (hunit : 0 < i.unit) (c : Nat) (g : ℤ) (n : Nat) :
    ((i.align c g n).2 : ℚ) = (n : ℚ) / i.unit * i.denominator g := by
  have hne : (i.unit : ℚ) ≠ 0 := by exact_mod_cast hunit.ne'
  unfold align denominator
  split
  · exact (div_mul_cancel₀ _ hne).symm
  · push_cast
    field_simp

/-- A decimal of the interval is between its ends, which belong to it if it is closed. -/
theorem contains_iff {i : Interval} (hunit : 0 < i.unit) (c : Nat) (g : ℤ) :
    i.contains c g = true ↔
      if i.closed then (i.low : ℚ) / i.unit ≤ c * 10 ^ g ∧ (c : ℚ) * 10 ^ g ≤ i.high / i.unit
      else (i.low : ℚ) / i.unit < c * 10 ^ g ∧ (c : ℚ) * 10 ^ g < i.high / i.unit := by
  have hpos := denominator_pos hunit g
  have hlow := align_snd hunit c g i.low
  have hhigh := align_snd hunit c g i.high
  have hpoint := align_fst i c g i.low
  unfold contains
  simp only
  split
  · rw [Bool.and_eq_true, decide_eq_true_eq, decide_eq_true_eq, ← Nat.cast_le (α := ℚ),
      ← Nat.cast_le (α := ℚ), hlow, hhigh, hpoint, mul_le_mul_iff_left₀ hpos,
      mul_le_mul_iff_left₀ hpos]
  · rw [Bool.and_eq_true, decide_eq_true_eq, decide_eq_true_eq, ← Nat.cast_lt (α := ℚ),
      ← Nat.cast_lt (α := ℚ), hlow, hhigh, hpoint, mul_lt_mul_iff_left₀ hpos,
      mul_lt_mul_iff_left₀ hpos]

/-- What is between the ends belongs to the interval. -/
theorem contains_of_between {i : Interval} (hunit : 0 < i.unit) {c : Nat} {g : ℤ}
    (hlow : (i.low : ℚ) / i.unit < c * 10 ^ g) (hhigh : (c : ℚ) * 10 ^ g < i.high / i.unit) :
    i.contains c g = true := by
  rw [contains_iff hunit]
  split
  · exact ⟨hlow.le, hhigh.le⟩
  · exact ⟨hlow, hhigh⟩

/-- The floor on a grid is what it is named for. -/
theorem floorAt_spec {i : Interval} (hunit : 0 < i.unit) (g : ℤ) :
    (i.floorAt g : ℚ) * 10 ^ g ≤ i.value / i.unit ∧
      (i.value : ℚ) / i.unit < (i.floorAt g + 1) * 10 ^ g := by
  have hpos := denominator_pos hunit g
  have hvalue := align_snd hunit 1 g i.value
  have hpoint := align_fst i 1 g i.value
  have hpointpos : 0 < (i.align 1 g i.value).1 := by
    rw [← Nat.cast_pos (α := ℚ), hpoint, Nat.cast_one, one_mul]
    positivity
  have hfloor : i.floorAt g = (i.align 1 g i.value).2 / (i.align 1 g i.value).1 := rfl
  rw [Nat.cast_one, one_mul] at hpoint
  constructor
  · rw [← mul_le_mul_iff_left₀ hpos, mul_assoc, ← hpoint, ← hvalue, hfloor]
    exact_mod_cast Nat.div_mul_le_self _ _
  · rw [← mul_lt_mul_iff_left₀ hpos, mul_assoc, ← hpoint, ← hvalue, hfloor]
    exact_mod_cast Nat.lt_mul_of_div_lt (Nat.lt_succ_self _) hpointpos

theorem floorAt_pos_iff {i : Interval} (hunit : 0 < i.unit) (g : ℤ) :
    0 < i.floorAt g ↔ (10 : ℚ) ^ g ≤ i.value / i.unit := by
  obtain ⟨hle, hlt⟩ := floorAt_spec hunit g
  have hpow : (0 : ℚ) < 10 ^ g := zpow_pos (by norm_num) g
  constructor
  · intro hpos
    have hone : (1 : ℚ) ≤ i.floorAt g := by exact_mod_cast hpos
    calc (10 : ℚ) ^ g = 1 * 10 ^ g := (one_mul _).symm
      _ ≤ i.floorAt g * 10 ^ g := mul_le_mul_of_nonneg_right hone hpow.le
      _ ≤ i.value / i.unit := hle
  · intro hge
    by_contra hzero
    rw [Nat.eq_zero_of_not_pos hzero, Nat.cast_zero, zero_add, one_mul] at hlt
    exact absurd hge (not_le.mpr hlt)

/-- What is found on a grid belongs to the interval, and is beside the number. -/
theorem pointOn_some {i : Interval} {g : ℤ} {c : Nat} (h : i.pointOn g = some c) :
    i.contains c g = true ∧ c ≤ i.floorAt g + 1 := by
  unfold pointOn at h
  simp only at h
  split at h
  · next hfloor hnext =>
    split at h
    · cases h
      exact ⟨hnext, Nat.le_refl _⟩
    · cases h
      exact ⟨hfloor, Nat.le_succ _⟩
  · next hfloor _ =>
    cases h
    exact ⟨hfloor, Nat.le_succ _⟩
  · next _ hnext =>
    cases h
    exact ⟨hnext, Nat.le_refl _⟩
  · cases h

/-- A grid that is finer than the interval has a point in it. -/
theorem pointOn_of_fine {i : Interval} (hunit : 0 < i.unit) (hlow : i.low < i.value)
    (hhigh : i.value < i.high) {g : ℤ}
    (hfine : (10 : ℚ) ^ g < (i.high : ℚ) / i.unit - i.low / i.unit) :
    ∃ c, i.pointOn g = some c := by
  obtain ⟨hle, hlt⟩ := floorAt_spec hunit g
  have hpos : (0 : ℚ) < i.unit := by exact_mod_cast hunit
  have hlow' : (i.low : ℚ) / i.unit < i.value / i.unit :=
    div_lt_div_of_pos_right (by exact_mod_cast hlow) hpos
  have hhigh' : (i.value : ℚ) / i.unit < i.high / i.unit :=
    div_lt_div_of_pos_right (by exact_mod_cast hhigh) hpos
  have heither : i.contains (i.floorAt g) g = true ∨ i.contains (i.floorAt g + 1) g = true := by
    by_cases h : (i.low : ℚ) / i.unit < i.floorAt g * 10 ^ g
    · exact .inl (contains_of_between hunit h (hle.trans_lt hhigh'))
    · right
      refine contains_of_between hunit ?_ ?_
      · push_cast
        linarith
      · push_cast
        linarith
  unfold pointOn
  simp only
  rcases heither with h | h
  · rw [h]
    cases i.contains (i.floorAt g + 1) g with
    | true => simp only; split <;> exact ⟨_, rfl⟩
    | false => exact ⟨_, rfl⟩
  · rw [h]
    cases i.contains (i.floorAt g) g with
    | true => simp only; split <;> exact ⟨_, rfl⟩
    | false => exact ⟨_, rfl⟩

/-- An estimate that is off by one is put right. -/
theorem scaleFrom_spec {i : Interval} (hunit : 0 < i.unit) {estimate : ℤ}
    (hlow : (10 : ℚ) ^ (estimate - 2) ≤ i.value / i.unit)
    (hhigh : (i.value : ℚ) / i.unit < 10 ^ (estimate + 1)) :
    (10 : ℚ) ^ (i.scaleFrom estimate - 1) ≤ i.value / i.unit ∧
      (i.value : ℚ) / i.unit < 10 ^ i.scaleFrom estimate := by
  unfold scaleFrom
  split
  · next h =>
    rw [add_sub_cancel_right]
    exact ⟨(floorAt_pos_iff hunit _).mp h, hhigh⟩
  · next h =>
    have hlt : (i.value : ℚ) / i.unit < 10 ^ estimate :=
      not_le.mp fun hle => h ((floorAt_pos_iff hunit _).mpr hle)
    split
    · next hzero =>
      rw [show estimate - 1 - 1 = estimate - 2 by ring]
      refine ⟨hlow, not_le.mp fun hle => ?_⟩
      exact ((floorAt_pos_iff hunit _).mpr hle).ne' hzero
    · next hne =>
      exact ⟨(floorAt_pos_iff hunit _).mp (Nat.pos_of_ne_zero hne), hlt⟩

/-- The search ends at a grid with a point if the last one has a point. -/
theorem search_spec {i : Interval} {k : ℤ} (hlast : ∃ c, i.pointOn (k - (17 : Nat)) = some c)
    {tries n : Nat} (hsum : n + tries = 18) (hn : n ≤ 17) :
    ∃ (c j : Nat), j ≤ 17 ∧ i.search k tries n = ⟨c, k - j⟩ ∧ i.pointOn (k - j) = some c := by
  induction tries generalizing n with
  | zero => omega
  | succ tries ih =>
    rw [search]
    split
    · next c hc => exact ⟨c, n, hn, rfl, hc⟩
    · next hnone =>
      have hne : n ≠ 17 := by
        rintro rfl
        obtain ⟨c, hc⟩ := hlast
        rw [hc] at hnone
        cases hnone
      exact ih (by omega) (by omega)

end Interval

theorem Decimal.strip_spec (d : Decimal) (fuel : Nat) :
    (d.strip fuel).value = d.value ∧ (d.strip fuel).digits ≤ d.digits := by
  induction fuel generalizing d with
  | zero => exact ⟨rfl, Nat.le_refl _⟩
  | succ fuel ih =>
    rw [strip]
    split
    · next h =>
      obtain ⟨hvalue, hdigits⟩ := ih ⟨d.digits / 10, d.scale + 1⟩
      have hten : d.digits = d.digits / 10 * 10 := by omega
      refine ⟨hvalue.trans ?_, hdigits.trans (Nat.div_le_self _ _)⟩
      rw [value, value, zpow_add_one₀ (by norm_num)]
      conv_rhs => rw [hten]
      push_cast
      ring
    · exact ⟨rfl, Nat.le_refl _⟩

/-! ### The interval around a number -/

theorem two_zpow_exponent (x : Double) : (2 : ℚ) ^ x.exponent = gap x.magnitude * step := by
  unfold exponent exponentField gap
  split
  · next h =>
    rw [h, Nat.zero_sub, Nat.pow_zero, Nat.cast_one, one_mul, step]
  · next h =>
    have hexp : ((x.magnitude / 2 ^ 52 : Nat) : ℤ) - 1075 =
        ((x.magnitude / 2 ^ 52 - 1 : Nat) : ℤ) + (-1074) := by omega
    rw [hexp, zpow_add₀ two_ne_zero, zpow_natCast, step, Nat.cast_pow, Nat.cast_two]

theorem significand_pos {x : Double} (hx : x.magnitude ≠ 0) : 0 < x.significand := by
  unfold significand exponentField
  split <;> omega

/-- How far below a number its interval starts, in quarters of its steps. -/
def below (x : Double) : Nat := if x.magnitude % 2 ^ 52 = 0 ∧ 1 < x.exponentField then 1 else 2

theorem below_mul_gap (x : Double) {k : Nat} (hk : k + 1 = x.magnitude) :
    x.below * gap x.magnitude = 2 * gap k := by
  unfold below gap exponentField
  rw [← hk]
  split
  · next h =>
    obtain ⟨hzero, hfield⟩ := h
    rw [hk] at hzero hfield
    obtain ⟨j, hj⟩ : ∃ j, (k + 1) / 2 ^ 52 = j + 2 := ⟨(k + 1) / 2 ^ 52 - 2, by omega⟩
    have hprevious : k / 2 ^ 52 = j + 1 := by omega
    rw [hj, hprevious, Nat.one_mul, show j + 2 - 1 = j + 1 from rfl, Nat.add_sub_cancel,
      Nat.pow_succ, Nat.mul_comm]
  · next h =>
    rw [show (k + 1) / 2 ^ 52 - 1 = k / 2 ^ 52 - 1 by omega]

theorem stepsTo_significand (x : Double) :
    (stepsTo x.magnitude : ℚ) = x.significand * gap x.magnitude := by
  have h := size_eq x
  rw [two_zpow_exponent, size, ← mul_assoc, mul_left_inj' step_pos.ne'] at h
  exact h

/-- The interval is measured in quarters of the steps between numbers. -/
theorem quarter_eq (x : Double) : (2 : ℚ) ^ (x.exponent - 2) = gap x.magnitude * step / 4 := by
  rw [zpow_sub₀ two_ne_zero, two_zpow_exponent]
  norm_num

theorem quarters_low {x : Double} (hx : x.magnitude ≠ 0) {k : Nat} (hk : k + 1 = x.magnitude) :
    ((4 * x.significand - x.below : Nat) : ℚ) * 2 ^ (x.exponent - 2) = midpoint k := by
  have hsignificand := significand_pos hx
  have hbelow : x.below ≤ 4 * x.significand := by
    unfold below
    split <;> omega
  have hgap : (x.below : ℚ) * gap x.magnitude = 2 * gap k := by
    exact_mod_cast below_mul_gap x hk
  have hsteps := stepsTo_significand x
  have hsucc : (stepsTo x.magnitude : ℚ) = stepsTo k + gap k := by
    rw [← hk, stepsTo_succ]
    push_cast
    rfl
  rw [midpoint, hk, quarter_eq, Nat.cast_sub hbelow]
  push_cast
  linear_combination (-hgap / 4 - hsteps + hsucc / 2) * step

theorem quarters_value (x : Double) :
    ((4 * x.significand : Nat) : ℚ) * 2 ^ (x.exponent - 2) = x.size := by
  rw [size, stepsTo_significand, quarter_eq]
  push_cast
  ring

theorem quarters_high (x : Double) :
    ((4 * x.significand + 2 : Nat) : ℚ) * 2 ^ (x.exponent - 2) = midpoint x.magnitude := by
  rw [midpoint, stepsTo_succ, quarter_eq]
  push_cast
  rw [stepsTo_significand]
  ring

/-- A natural times a power of two, as a quotient of naturals. -/
theorem quotient_up {e : ℤ} (he : 0 ≤ e) (n : Nat) :
    ((n * 2 ^ e.toNat : Nat) : ℚ) / (1 : Nat) = n * 2 ^ e := by
  obtain ⟨k, rfl⟩ := Int.eq_ofNat_of_zero_le he
  rw [Int.toNat_natCast, zpow_natCast]
  push_cast
  rw [div_one]

theorem quotient_down {e : ℤ} (he : ¬ 0 ≤ e) (n : Nat) :
    (n : ℚ) / ((2 ^ (-e).toNat : Nat) : ℚ) = n * 2 ^ e := by
  obtain ⟨k, hk⟩ := Int.eq_ofNat_of_zero_le (by omega : 0 ≤ -e)
  obtain rfl : e = -(k : ℤ) := by omega
  rw [neg_neg, Int.toNat_natCast, zpow_neg, zpow_natCast, div_eq_mul_inv]
  push_cast
  rfl

/-- The ends of the interval are halfway to the neighbours. -/
structure Surrounds (i : Interval) (x : Double) : Prop where
  unit_pos : 0 < i.unit
  low : ∀ k, k + 1 = x.magnitude → (i.low : ℚ) / i.unit = midpoint k
  value : (i.value : ℚ) / i.unit = x.size
  high : (i.high : ℚ) / i.unit = midpoint x.magnitude
  closed : i.closed = true ↔ x.magnitude % 2 = 0

theorem surrounds_interval {x : Double} (hx : x.magnitude ≠ 0) : Surrounds x.interval x := by
  have hclosed : decide (x.significand % 2 = 0) = true ↔ x.magnitude % 2 = 0 := by
    rw [decide_eq_true_eq]
    unfold significand
    split <;> omega
  have hform : x.interval = if 0 ≤ x.exponent - 2 then
      ⟨(4 * x.significand - x.below) * 2 ^ (x.exponent - 2).toNat,
        4 * x.significand * 2 ^ (x.exponent - 2).toNat,
        (4 * x.significand + 2) * 2 ^ (x.exponent - 2).toNat, 1, x.significand % 2 = 0⟩
      else ⟨4 * x.significand - x.below, 4 * x.significand, 4 * x.significand + 2,
        2 ^ (-(x.exponent - 2)).toNat, x.significand % 2 = 0⟩ := rfl
  rw [hform]
  -- both forms of the interval have the same three quotients
  split
  · next h =>
    exact ⟨Nat.one_pos, fun k hk => (quotient_up h _).trans (quarters_low hx hk),
      (quotient_up h _).trans (quarters_value x), (quotient_up h _).trans (quarters_high x),
      hclosed⟩
  · next h =>
    exact ⟨Nat.two_pow_pos _, fun k hk => (quotient_down h _).trans (quarters_low hx hk),
      (quotient_down h _).trans (quarters_value x), (quotient_down h _).trans (quarters_high x),
      hclosed⟩

/-- **A decimal of the interval around a number is rounded to it.** -/
theorem Surrounds.roundsTo {i : Interval} {x : Double} (h : Surrounds i x) {c : Nat} {g : ℤ}
    (hc : i.contains c g = true) : RoundsTo (c * 10 ^ g) x.magnitude := by
  rw [Interval.contains_iff h.unit_pos, h.high] at hc
  split at hc
  · next hclosed =>
    have heven := h.closed.mp hclosed
    refine ⟨fun k hk => ?_, ?_⟩
    · rw [h.low k hk] at hc
      rcases hc.1.lt_or_eq with hlt | heq
      · exact .inl hlt
      · exact .inr ⟨heq, heven⟩
    · rcases hc.2.lt_or_eq with hlt | heq
      · exact .inl hlt
      · exact .inr ⟨heq, heven⟩
  · refine ⟨fun k hk => .inl ?_, .inl hc.2⟩
    rw [h.low k hk] at hc
    exact hc.1

/-! ### The number of digits -/

/-- A power of ten and one of two, compared as naturals. -/
theorem ten_zpow_le_two_zpow_iff (a b : ℤ) : (10 : ℚ) ^ a ≤ 2 ^ b ↔
    10 ^ a.toNat * 2 ^ (-b).toNat ≤ 2 ^ b.toNat * 10 ^ (-a).toNat := by
  have hten : (10 : ℚ) ^ a = 10 ^ a.toNat / 10 ^ (-a).toNat := by
    rw [← zpow_natCast, ← zpow_natCast, ← zpow_sub₀ (by norm_num)]
    congr 1
    omega
  have htwo : (2 : ℚ) ^ b = 2 ^ b.toNat / 2 ^ (-b).toNat := by
    rw [← zpow_natCast, ← zpow_natCast, ← zpow_sub₀ two_ne_zero]
    congr 1
    omega
  rw [hten, htwo, div_le_div_iff₀ (by positivity) (by positivity)]
  exact_mod_cast Iff.rfl

/-- The estimated number of digits before the point, for numbers from `2^log2` on. -/
def estimate (log2 : ℤ) : ℤ := log2 * 30103 / 100000 + 1

theorem estimate_table : ∀ n : Nat, n < 2098 →
    let log2 : ℤ := n - 1074
    10 ^ (estimate log2 - 2).toNat * 2 ^ (-log2).toNat ≤
        2 ^ log2.toNat * 10 ^ (-(estimate log2 - 2)).toNat ∧
      10 ^ (-(estimate log2 + 1)).toNat * 2 ^ (-(-(log2 + 1))).toNat ≤
        2 ^ (-(log2 + 1)).toNat * 10 ^ (-(-(estimate log2 + 1))).toNat := by
  decide +kernel

/-- **The estimate is off by one at most**, for the logarithm of any finite number. -/
theorem estimate_spec {log2 : ℤ} (hlow : -1074 ≤ log2) (hhigh : log2 ≤ 1023) :
    (10 : ℚ) ^ (estimate log2 - 2) ≤ 2 ^ log2 ∧
      (2 : ℚ) ^ (log2 + 1) ≤ 10 ^ (estimate log2 + 1) := by
  obtain ⟨n, hn⟩ : ∃ n : Nat, log2 = n - 1074 := ⟨(log2 + 1074).toNat, by omega⟩
  obtain ⟨h₁, h₂⟩ := estimate_table n (by omega)
  rw [← hn] at h₁ h₂
  have hpositive := (ten_zpow_le_two_zpow_iff _ _).mpr h₁
  have hnegative := (ten_zpow_le_two_zpow_iff _ _).mpr h₂
  refine ⟨hpositive, ?_⟩
  rw [zpow_neg, zpow_neg] at hnegative
  exact (inv_le_inv₀ (zpow_pos (by norm_num) _) (zpow_pos two_pos _)).mp hnegative

/-- The size of a positive number in powers of two. -/
theorem size_log2 {x : Double} (hx : x.magnitude ≠ 0) (hfinite : x.isFinite = true) :
    -1074 ≤ x.exponent + x.significand.log2 ∧ x.exponent + x.significand.log2 ≤ 1023 ∧
      (2 : ℚ) ^ (x.exponent + x.significand.log2) ≤ x.size ∧
      x.size < (2 : ℚ) ^ (x.exponent + x.significand.log2 + 1) := by
  have hne := (significand_pos hx).ne'
  have hpow : (0 : ℚ) < 2 ^ x.exponent := zpow_pos two_pos _
  obtain ⟨hlow, hhigh⟩ := log2_spec hne
  have hexp : -1074 ≤ x.exponent := by
    unfold exponent
    split <;> omega
  have hexp' := exponent_le hfinite
  have hbits : x.significand.log2 < 53 := (Nat.log2_lt hne).mpr x.significand_lt
  refine ⟨by omega, by omega, ?_, ?_⟩
  · rw [size_eq, zpow_add₀ two_ne_zero, mul_comm]
    exact mul_le_mul_of_nonneg_right hlow hpow.le
  · rw [size_eq, add_assoc, zpow_add₀ two_ne_zero, mul_comm]
    exact mul_lt_mul_of_pos_left hhigh hpow

/-- **Seventeen digits are enough**: their grid is finer than the interval. -/
theorem Surrounds.seventeen {i : Interval} {x : Double} (h : Surrounds i x)
    (hx : x.magnitude ≠ 0) {k : ℤ} (hk : (10 : ℚ) ^ (k - 1) ≤ x.size) :
    ∃ c, i.pointOn (k - (17 : Nat)) = some c := by
  obtain ⟨m, hm⟩ : ∃ m, m + 1 = x.magnitude := ⟨x.magnitude - 1, by omega⟩
  have hunit : (0 : ℚ) < i.unit := by exact_mod_cast h.unit_pos
  have hsize : x.size = (stepsTo m + gap m) * step := by
    rw [size, ← hm, stepsTo_succ]
    push_cast
    rfl
  have hlow : i.low < i.value := by
    rw [← Nat.cast_lt (α := ℚ), ← div_lt_div_iff_of_pos_right hunit, h.low m hm, h.value, size,
      ← hm]
    exact midpoint_lt_stepsTo m
  have hhigh : i.value < i.high := by
    rw [← Nat.cast_lt (α := ℚ), ← div_lt_div_iff_of_pos_right hunit, h.high, h.value]
    exact stepsTo_lt_midpoint _
  refine Interval.pointOn_of_fine h.unit_pos hlow hhigh ?_
  have hbits : (stepsTo m : ℚ) + gap m ≤ 2 ^ 53 * gap m := by
    have := stepsTo_le m
    exact_mod_cast (by omega : stepsTo m + gap m ≤ 2 ^ 53 * gap m)
  have hgap : (0 : ℚ) < gap m := by exact_mod_cast gap_pos m
  have hwider : (gap m : ℚ) ≤ gap (m + 1) := by exact_mod_cast gap_mono (Nat.le_succ m)
  rw [h.high, h.low m hm, ← hm]
  calc (10 : ℚ) ^ (k - (17 : Nat)) = 10 ^ (k - 1) / 10 ^ 16 := by
        rw [show k - ((17 : Nat) : ℤ) = k - 1 - (16 : Nat) by push_cast; ring,
          zpow_sub₀ (by norm_num), zpow_natCast]
    _ ≤ x.size / 10 ^ 16 := div_le_div_of_nonneg_right hk (by positivity)
    _ ≤ 2 ^ 53 / 10 ^ 16 * gap m * step := by
        rw [hsize]
        have := mul_le_mul_of_nonneg_right hbits step_pos.le
        linarith
    _ < gap m * step := by
        refine mul_lt_mul_of_pos_right ?_ step_pos
        linarith
    _ ≤ (gap m + gap (m + 1)) / 2 * step := by
        refine mul_le_mul_of_nonneg_right ?_ step_pos.le
        linarith
    _ = midpoint (m + 1) - midpoint m := by
        rw [midpoint, midpoint, stepsTo_succ (m + 1), stepsTo_succ m]
        push_cast
        ring

/-- **The decimal that is written for a number is rounded to it**, and has seventeen digits
    at most. -/
theorem shortest_spec {x : Double} (hx : x.magnitude ≠ 0) (hfinite : x.isFinite = true) :
    RoundsTo x.shortest.value x.magnitude ∧ x.shortest.digits ≤ 10 ^ 17 := by
  have hsurrounds := surrounds_interval hx
  obtain ⟨hlow, hhigh, hsize, hsize'⟩ := size_log2 hx hfinite
  obtain ⟨hbelow, habove⟩ := estimate_spec hlow hhigh
  obtain ⟨hk, hk'⟩ := Interval.scaleFrom_spec hsurrounds.unit_pos
    (hsurrounds.value ▸ hbelow.trans hsize) (hsurrounds.value ▸ hsize'.trans_le habove)
  rw [hsurrounds.value] at hk
  have hshortest : x.shortest = (x.interval.search (x.interval.scaleFrom
      (estimate (x.exponent + x.significand.log2))) 17 1).strip 20 := by
    rw [shortest, if_neg hx]
    rfl
  generalize x.interval.scaleFrom _ = k at hk hk' hshortest
  obtain ⟨c, j, hj, hsearch, hpoint⟩ :=
    Interval.search_spec (hsurrounds.seventeen hx hk) (show 1 + 17 = 18 from rfl) (by omega)
  obtain ⟨hcontains, hc⟩ := Interval.pointOn_some hpoint
  obtain ⟨hvalue, hdigits⟩ := Decimal.strip_spec ⟨c, k - j⟩ 20
  rw [hshortest, hsearch, hvalue]
  refine ⟨hsurrounds.roundsTo hcontains, hdigits.trans (hc.trans ?_)⟩
  obtain ⟨hfloor, _⟩ := Interval.floorAt_spec hsurrounds.unit_pos (k - j)
  have hpow : (0 : ℚ) < 10 ^ (k - j) := zpow_pos (by norm_num) _
  have hlt : (x.interval.floorAt (k - j) : ℚ) < 10 ^ j := by
    rw [← mul_lt_mul_iff_left₀ hpow, ← zpow_natCast, ← zpow_add₀ (by norm_num),
      add_sub_cancel]
    exact hfloor.trans_lt hk'
  have hle : x.interval.floorAt (k - j) + 1 ≤ 10 ^ j := by exact_mod_cast hlt
  exact hle.trans (Nat.pow_le_pow_right (by omega) hj)

end DetectionJobs.Double
