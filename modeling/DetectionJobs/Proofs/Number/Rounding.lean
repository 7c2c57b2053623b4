/-
  DetectionJobs/Proofs/Number/Rounding.lean
  =========================================
  **A quotient below the largest power of two is rounded to a finite number.**

  A quotient is rounded as many whole multiples of a power of two, which is chosen by the
  quotient's size so that the multiples fit fifty-three bits.  Infinity is left to
  quotients from the largest power on.
-/
import DetectionJobs.Proofs.Number.Order
import Mathlib.Tactic.FieldSimp

namespace DetectionJobs.Double

/-! ### Sign and magnitude -/

theorem magnitude_ofMagnitude {m : Nat} (hm : m < 2 ^ 63) (negative : Bool) :
    (ofMagnitude negative m).magnitude = m := by
  have hsize : UInt64.size = 2 ^ 64 := rfl
  unfold magnitude ofMagnitude
  cases negative <;> simp only [Bool.false_eq_true, if_false, if_true, UInt64.toNat_ofNat'] <;>
    omega

theorem isFinite_ofMagnitude {m : Nat} (hm : m < infinityMagnitude) (negative : Bool) :
    (ofMagnitude negative m).isFinite = true := by
  have hlt : m < 2 ^ 63 := Nat.lt_trans hm (by decide)
  rw [isFinite, magnitude_ofMagnitude hlt]
  simpa using hm

theorem isFinite_neg {x : Double} (h : x.isFinite = true) : x.neg.isFinite = true :=
  isFinite_ofMagnitude (by simpa [isFinite] using h) _

/-! ### Size of a quotient -/

theorem scaled_pos {n d : Nat} (hd : 0 < d) (e : ℤ) : 0 < (scaled n d e).2 := by
  unfold scaled
  split
  · exact Nat.mul_pos hd (Nat.two_pow_pos _)
  · exact hd

theorem scaled_eq (n d : Nat) (e : ℤ) :
    ((scaled n d e).1 : ℚ) / (scaled n d e).2 = (n : ℚ) / d / (2 : ℚ) ^ e := by
  unfold scaled
  split
  · next h =>
    obtain ⟨k, rfl⟩ := Int.eq_ofNat_of_zero_le h
    simp only [Int.toNat_natCast, zpow_natCast]
    push_cast
    rw [div_div]
  · next h =>
    obtain ⟨k, hk⟩ := Int.eq_ofNat_of_zero_le (by omega : 0 ≤ -e)
    obtain rfl : e = -(k : ℤ) := by omega
    simp only [neg_neg, Int.toNat_natCast, zpow_neg, zpow_natCast, div_inv_eq_mul]
    push_cast
    ring

theorem log2_spec {n : Nat} (hn : n ≠ 0) :
    (2 : ℚ) ^ (n.log2 : ℤ) ≤ n ∧ (n : ℚ) < (2 : ℚ) ^ ((n.log2 : ℤ) + 1) := by
  have hlow : 2 ^ n.log2 ≤ n := Nat.log2_self_le hn
  have hhigh : n < 2 ^ (n.log2 + 1) := Nat.lt_log2_self
  constructor
  · rw [zpow_natCast]
    exact_mod_cast hlow
  · have hcast : ((n.log2 : ℤ) + 1) = ((n.log2 + 1 : Nat) : ℤ) := by push_cast; rfl
    rw [hcast, zpow_natCast]
    exact_mod_cast hhigh

/-- **The floor of the logarithm is what it is named for.** -/
theorem floorLog2_spec {n d : Nat} (hn : n ≠ 0) (hd : 0 < d) :
    (2 : ℚ) ^ floorLog2 n d ≤ (n : ℚ) / d ∧ (n : ℚ) / d < (2 : ℚ) ^ (floorLog2 n d + 1) := by
  obtain ⟨hn₁, hn₂⟩ := log2_spec hn
  obtain ⟨hd₁, hd₂⟩ := log2_spec hd.ne'
  have hdpos : (0 : ℚ) < d := by exact_mod_cast hd
  have hpow : ∀ e : ℤ, (0 : ℚ) < (2 : ℚ) ^ e := fun e => zpow_pos two_pos e
  have hupper : (n : ℚ) / d < (2 : ℚ) ^ ((n.log2 : ℤ) - d.log2 + 1) := by
    rw [div_lt_iff₀ hdpos]
    calc (n : ℚ) < (2 : ℚ) ^ ((n.log2 : ℤ) + 1) := hn₂
      _ = (2 : ℚ) ^ ((n.log2 : ℤ) - d.log2 + 1) * (2 : ℚ) ^ (d.log2 : ℤ) := by
        rw [← zpow_add₀ two_ne_zero]
        congr 1
        omega
      _ ≤ (2 : ℚ) ^ ((n.log2 : ℤ) - d.log2 + 1) * d :=
        mul_le_mul_of_nonneg_left hd₁ (hpow _).le
  have hlower : (2 : ℚ) ^ ((n.log2 : ℤ) - d.log2 - 1) ≤ (n : ℚ) / d := by
    rw [le_div_iff₀ hdpos]
    calc (2 : ℚ) ^ ((n.log2 : ℤ) - d.log2 - 1) * d
        ≤ (2 : ℚ) ^ ((n.log2 : ℤ) - d.log2 - 1) * (2 : ℚ) ^ ((d.log2 : ℤ) + 1) :=
          mul_le_mul_of_nonneg_left hd₂.le (hpow _).le
      _ = (2 : ℚ) ^ (n.log2 : ℤ) := by
        rw [← zpow_add₀ two_ne_zero]
        congr 1
        omega
      _ ≤ n := hn₁
  have hscaled := scaled_eq n d ((n.log2 : ℤ) - d.log2)
  have hpos : (0 : ℚ) < (scaled n d ((n.log2 : ℤ) - d.log2)).2 := by
    exact_mod_cast scaled_pos hd _
  have hbelow : (scaled n d ((n.log2 : ℤ) - d.log2)).1 < (scaled n d ((n.log2 : ℤ) - d.log2)).2 ↔
      (n : ℚ) / d < (2 : ℚ) ^ ((n.log2 : ℤ) - d.log2) := by
    rw [← Nat.cast_lt (α := ℚ), ← div_lt_one hpos, hscaled, div_lt_one (hpow _)]
  unfold floorLog2
  simp only
  split
  · next h =>
    rw [sub_add_cancel]
    exact ⟨hlower, hbelow.mp h⟩
  · next h => exact ⟨not_lt.mp fun hlt => h (hbelow.mpr hlt), hupper⟩

/-! ### Rounding -/

theorem roundEven_le (n d : Nat) : roundEven n d ≤ n / d + 1 := by
  unfold roundEven
  simp only
  split
  · omega
  split
  · omega
  split <;> omega

/-- A quotient taken in steps of its size fits fifty-three bits. -/
theorem scaled_div_lt {n d : Nat} (hn : n ≠ 0) (hd : 0 < d) {e : ℤ} (he : floorLog2 n d - 52 ≤ e) :
    (scaled n d e).1 / (scaled n d e).2 < 2 ^ 53 := by
  have hpos : (0 : ℚ) < (scaled n d e).2 := by exact_mod_cast scaled_pos hd e
  have hlt : ((scaled n d e).1 : ℚ) / (scaled n d e).2 < (2 : ℚ) ^ (53 : ℤ) := by
    rw [scaled_eq, div_lt_iff₀ (zpow_pos two_pos e), ← zpow_add₀ two_ne_zero]
    refine (floorLog2_spec hn hd).2.trans_le ?_
    exact zpow_le_zpow_right₀ one_le_two (by omega)
  rw [div_lt_iff₀ hpos] at hlt
  exact Nat.div_lt_of_lt_mul (by rw [Nat.mul_comm]; exact_mod_cast hlt)

/-- **A quotient below `2^1023` is rounded to a finite number.** -/
theorem isFinite_ofRatio {n d : Nat} (hd : 0 < d) (h : (n : ℚ) / d < (2 : ℚ) ^ (1023 : ℤ))
    (negative : Bool) : (ofRatio negative n d).isFinite = true := by
  unfold ofRatio
  split
  · exact isFinite_ofMagnitude (by decide) negative
  · next hn =>
    have hfloor : floorLog2 n d < 1023 :=
      (zpow_lt_zpow_iff_right₀ one_lt_two).mp ((floorLog2_spec hn hd).1.trans_lt h)
    have hscaled := scaled_div_lt hn hd (le_max_left (floorLog2 n d - 52) (-1074))
    have hround := roundEven_le (scaled n d (max (floorLog2 n d - 52) (-1074))).1
      (scaled n d (max (floorLog2 n d - 52) (-1074))).2
    simp only
    generalize roundEven _ _ = r at hround
    generalize (scaled n d _).1 / _ = q at hscaled hround
    refine isFinite_ofMagnitude ?_ negative
    rw [infinityMagnitude]
    omega

/-! ### Quotients of finite numbers -/

theorem significand_lt (x : Double) : x.significand < 2 ^ 53 := by
  unfold significand
  split <;> omega

theorem exponent_le {x : Double} (h : x.isFinite = true) : x.exponent ≤ 971 := by
  simp only [isFinite, decide_eq_true_eq] at h
  rw [infinityMagnitude] at h
  unfold exponent exponentField
  split <;> omega

theorem ratio_pos (x : Double) : 0 < x.ratio.2 := by
  unfold ratio
  split
  · exact Nat.zero_lt_one
  · exact Nat.two_pow_pos _

/-- The ratio of a finite number is its absolute value. -/
theorem ratio_eq (x : Double) :
    (x.ratio.1 : ℚ) / x.ratio.2 = (x.significand : ℚ) * (2 : ℚ) ^ x.exponent := by
  unfold ratio
  split
  · next h =>
    obtain ⟨k, hk⟩ := Int.eq_ofNat_of_zero_le h
    rw [hk]
    simp
  · next h =>
    obtain ⟨k, hk⟩ := Int.eq_ofNat_of_zero_le (by omega : 0 ≤ -x.exponent)
    obtain hneg : x.exponent = -(k : ℤ) := by omega
    rw [hneg]
    simp [div_eq_mul_inv]

theorem ratio_lt {x : Double} (h : x.isFinite = true) :
    (x.ratio.1 : ℚ) / x.ratio.2 < (2 : ℚ) ^ (1024 : ℤ) := by
  have hsignificand : (x.significand : ℚ) < (2 : ℚ) ^ (53 : ℤ) := by
    exact_mod_cast x.significand_lt
  rw [ratio_eq]
  calc (x.significand : ℚ) * (2 : ℚ) ^ x.exponent
      < (2 : ℚ) ^ (53 : ℤ) * (2 : ℚ) ^ x.exponent :=
        mul_lt_mul_of_pos_right hsignificand (zpow_pos two_pos _)
    _ = (2 : ℚ) ^ (53 + x.exponent) := (zpow_add₀ two_ne_zero _ _).symm
    _ ≤ (2 : ℚ) ^ (1024 : ℤ) := by
        refine zpow_le_zpow_right₀ one_le_two ?_
        have := exponent_le h
        omega

/-- **A finite number divided by two or more stays finite.** -/
theorem isFinite_div {x y : Double} (hx : x.isFinite = true) (hy : 2 * y.ratio.2 ≤ y.ratio.1) :
    (x.div y).isFinite = true := by
  have hy₂ : (0 : ℚ) < y.ratio.2 := by exact_mod_cast y.ratio_pos
  have hx₂ : (0 : ℚ) < x.ratio.2 := by exact_mod_cast x.ratio_pos
  have htwo : (2 : ℚ) ≤ y.ratio.1 / y.ratio.2 := by
    rw [le_div_iff₀ hy₂]
    exact_mod_cast hy
  have hpos : 0 < y.ratio.1 := lt_of_lt_of_le (Nat.mul_pos two_pos y.ratio_pos) hy
  have hy₁ : (0 : ℚ) < y.ratio.1 := by exact_mod_cast hpos
  have hquotient : ((x.ratio.1 * y.ratio.2 : Nat) : ℚ) / ((x.ratio.2 * y.ratio.1 : Nat) : ℚ) =
      (x.ratio.1 : ℚ) / x.ratio.2 / (y.ratio.1 / y.ratio.2) := by
    push_cast
    field_simp
  have hdiv : x.div y = ofRatio (x.isNegative != y.isNegative) (x.ratio.1 * y.ratio.2)
      (x.ratio.2 * y.ratio.1) := rfl
  rw [hdiv]
  refine isFinite_ofRatio (Nat.mul_pos x.ratio_pos hpos) ?_ _
  rw [hquotient, div_lt_iff₀ (lt_of_lt_of_le two_pos htwo)]
  calc (x.ratio.1 : ℚ) / x.ratio.2 < (2 : ℚ) ^ (1024 : ℤ) := ratio_lt hx
    _ = (2 : ℚ) ^ (1023 : ℤ) * 2 := by
      rw [show (1024 : ℤ) = 1023 + 1 from rfl, zpow_add_one₀ two_ne_zero]
    _ ≤ (2 : ℚ) ^ (1023 : ℤ) * (y.ratio.1 / y.ratio.2) :=
      mul_le_mul_of_nonneg_left htwo (zpow_pos two_pos _).le

end DetectionJobs.Double
