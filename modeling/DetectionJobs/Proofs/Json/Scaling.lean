/-
  DetectionJobs/Proofs/Json/Scaling.lean
  ======================================
  **What scaling makes of a significand and an exponent is near to the nearest number.**

  A significand is rounded, a power of ten is rounded, and so is their product or quotient.
  The first two roundings are factors close to one, and the last one ends near to what
  they leave.  Where the significand and the power are numbers themselves, the result is
  the nearest number.  Below the reach of the powers there is one more quotient, and the
  two powers of ten it takes are closer together than two roundings would say.
-/
import DetectionJobs.Proofs.Json.Finite
import DetectionJobs.Proofs.Number.Nearest

namespace DetectionJobs.Json

open Double

/-! ### Significands -/

theorem natural_large {c : Nat} (hc : 0 < c) : 2 ^ 52 * step ≤ (c : ℚ) / (1 : Nat) := by
  have hone : (1 : ℚ) ≤ c := by exact_mod_cast hc
  have hstep : 2 ^ 52 * step ≤ 1 := by
    rw [step, ← zpow_natCast, ← zpow_add₀ two_ne_zero]
    exact zpow_le_one_of_nonpos₀ one_le_two (by norm_num)
  rw [Nat.cast_one, div_one]
  linarith

/-- A natural is rounded once. -/
theorem ofNat_within {n : Nat} (hn : 0 < n) (h : (ofNat n).isFinite = true) :
    Within roundoff (ofNat n).size n := by
  have hwithin := (roundsTo_of_finite Nat.one_pos h).within (natural_large hn)
  rwa [Nat.cast_one, div_one] at hwithin

/-- Naturals of fifty-three bits are numbers. -/
theorem exists_magnitude {c : Nat} (hc : 0 < c) (hc' : c ≤ 2 ^ 53) :
    ∃ m, (stepsTo m : ℚ) * step = c := by
  have hlog : c.log2 ≤ 53 := by
    have := (Nat.log2_lt (k := 54) hc.ne').mpr (by omega)
    omega
  have hbits : 2 ^ c.log2 ≤ c ∧ c < 2 ^ (c.log2 + 1) :=
    ⟨Nat.log2_self_le hc.ne', Nat.lt_log2_self⟩
  obtain ⟨s, hs⟩ : ∃ s, s = 52 - c.log2 := ⟨_, rfl⟩
  have hlow : 2 ^ 52 ≤ c * 2 ^ s := calc
    2 ^ 52 ≤ 2 ^ (c.log2 + s) := Nat.pow_le_pow_right (by omega) (by omega)
    _ = 2 ^ c.log2 * 2 ^ s := Nat.pow_add _ _ _
    _ ≤ c * 2 ^ s := Nat.mul_le_mul_right _ hbits.1
  have hhigh : c * 2 ^ s ≤ 2 ^ 53 := by
    by_cases hfull : c.log2 = 53
    · rw [hs, hfull]
      simpa using hc'
    · calc c * 2 ^ s ≤ 2 ^ (c.log2 + 1) * 2 ^ s := Nat.mul_le_mul_right _ hbits.2.le
        _ = 2 ^ (c.log2 + 1 + s) := (Nat.pow_add _ _ _).symm
        _ ≤ 2 ^ 53 := Nat.pow_le_pow_right (by omega) (by omega)
  obtain ⟨e, he⟩ : ∃ e : Nat, (s : ℤ) + e = 1074 := ⟨1074 - s, by omega⟩
  refine ⟨e * 2 ^ 52 + c * 2 ^ s, ?_⟩
  rw [stepsTo_multiple hhigh (.inr hlow), step, ← he, zpow_neg, zpow_add₀ two_ne_zero,
    zpow_natCast, zpow_natCast]
  push_cast
  field_simp

theorem isFinite_ofNat {c : Nat} (hc : c < 2 ^ 64) : (ofNat c).isFinite = true :=
  isFinite_whole hc.le false

theorem ofNat_size {c : Nat} (hc : 0 < c) (hc' : c ≤ 2 ^ 53) : (ofNat c).size = c := by
  obtain ⟨m, hm⟩ := exists_magnitude hc hc'
  have hround := roundsTo_of_finite Nat.one_pos (isFinite_ofNat (c := c) (by omega))
  rw [Nat.cast_one, div_one] at hround
  have hmagnitude : (ofNat c).magnitude = m := hround.unique (hm ▸ .self m)
  rw [size, hmagnitude, hm]

/-! ### Powers of ten -/

theorem isFinite_powerOfTen : ∀ n < 309, (powerOfTen n).isFinite = true := by decide +kernel

theorem powerOfTen_within {n : Nat} (hn : n ≤ 308) :
    Within roundoff (powerOfTen n).size (10 ^ n) := by
  have h := ofNat_within (Nat.pow_pos (by omega)) (isFinite_powerOfTen n (by omega))
  rw [Nat.cast_pow, Nat.cast_ofNat] at h
  exact h

/-- The powers of ten that are numbers. -/
theorem powerOfTen_ratio : ∀ n < 23, (powerOfTen n).ratio.1 = 10 ^ n * (powerOfTen n).ratio.2 := by
  decide +kernel

theorem powerOfTen_size {n : Nat} (hn : n ≤ 22) : (powerOfTen n).size = 10 ^ n := by
  have hpos : (0 : ℚ) < (powerOfTen n).ratio.2 := by exact_mod_cast ratio_pos _
  rw [← ratio_size, powerOfTen_ratio n (by omega), div_eq_iff hpos.ne']
  push_cast
  rfl

theorem powerOfTen_size_pos {n : Nat} (hn : n ≤ 308) : 0 < (powerOfTen n).size := by
  have hpow : (0 : ℚ) < 10 ^ n := by positivity
  have hroundoff : (0 : ℚ) < roundoff := by norm_num [roundoff]
  exact pos_of_mul_pos_right (hpow.trans_le (powerOfTen_within hn).2) hroundoff.le

theorem powerOfTen_magnitude {n : Nat} (hn : n ≤ 308) : (powerOfTen n).magnitude ≠ 0 := by
  intro hzero
  have hpos := powerOfTen_size_pos hn
  rw [size, hzero, stepsTo_zero, Nat.cast_zero, zero_mul] at hpos
  exact lt_irrefl _ hpos

/-- The factor of two powers of ten that are divided by one after the other. -/
def doubleRoundoff : ℚ := 1 + 19 / 20 / 2 ^ 53

theorem powerOfTen_twice_ratio : ∀ n < 60,
    let p := powerOfTen 308
    let q := powerOfTen n
    20 * 2 ^ 53 * (p.ratio.1 * q.ratio.1) ≤
        (20 * 2 ^ 53 + 19) * (10 ^ (308 + n) * (p.ratio.2 * q.ratio.2)) ∧
      20 * 2 ^ 53 * (10 ^ (308 + n) * (p.ratio.2 * q.ratio.2)) ≤
        (20 * 2 ^ 53 + 19) * (p.ratio.1 * q.ratio.1) := by
  decide +kernel

/-- Beyond the largest power, two powers are closer to their product than two roundings
    would say. -/
theorem powerOfTen_twice {n : Nat} (hn : n < 60) :
    Within doubleRoundoff ((powerOfTen 308).size * (powerOfTen n).size) (10 ^ (308 + n)) := by
  have hp : (0 : ℚ) < (powerOfTen 308).ratio.2 := by exact_mod_cast ratio_pos _
  have hq : (0 : ℚ) < (powerOfTen n).ratio.2 := by exact_mod_cast ratio_pos _
  obtain ⟨h₁, h₂⟩ := powerOfTen_twice_ratio n hn
  rw [← Nat.cast_le (α := ℚ)] at h₁ h₂
  simp only [Nat.cast_mul, Nat.cast_add, Nat.cast_pow, Nat.cast_ofNat] at h₁ h₂
  have hfactor : doubleRoundoff = (20 * 2 ^ 53 + 19) / (20 * 2 ^ 53) := by
    norm_num [doubleRoundoff]
  have hunit : (0 : ℚ) < 20 * 2 ^ 53 := by norm_num
  rw [← ratio_size, ← ratio_size, div_mul_div_comm, hfactor]
  generalize (10 : ℚ) ^ (308 + n) = power at h₁ h₂ ⊢
  constructor
  · rw [div_le_iff₀ (mul_pos hp hq), mul_assoc, div_mul_eq_mul_div, le_div_iff₀ hunit, mul_comm]
    exact h₁
  · rw [div_mul_div_comm, le_div_iff₀ (mul_pos hunit (mul_pos hp hq))]
    linarith

/-! ### One product or quotient -/

/-- What an exponent scales by, within the reach of the powers. -/
def powerSize (e : ℤ) : ℚ :=
  if 0 ≤ e then (powerOfTen e.natAbs).size else (powerOfTen e.natAbs).size⁻¹

theorem ten_zpow_natAbs (e : ℤ) :
    (10 : ℚ) ^ e = if 0 ≤ e then (10 : ℚ) ^ e.natAbs else ((10 : ℚ) ^ e.natAbs)⁻¹ := by
  split
  · next h =>
    rw [← zpow_natCast]
    congr 1
    omega
  · next h =>
    rw [← zpow_natCast, ← zpow_neg]
    congr 1
    omega

theorem powerSize_within {e : ℤ} (he : e.natAbs ≤ 308) :
    Within roundoff (powerSize e) (10 ^ e) := by
  rw [powerSize, ten_zpow_natAbs]
  split
  · exact powerOfTen_within he
  · exact (powerOfTen_within he).inv (powerOfTen_size_pos he) (by positivity)

theorem powerSize_eq {e : ℤ} (he : e.natAbs ≤ 22) : powerSize e = 10 ^ e := by
  rw [powerSize, ten_zpow_natAbs, powerOfTen_size he]

theorem powerSize_nonneg (e : ℤ) : 0 ≤ powerSize e := by
  unfold powerSize
  split
  · exact size_nonneg _
  · exact inv_nonneg.mpr (size_nonneg _)

/-- **Within the reach of the powers there is one last rounding.** -/
theorem scaleBy_roundsTo {x y : Double} (hx : x.isFinite = true) {e : ℤ} (he : e.natAbs ≤ 308)
    {steps : Nat} (h : scaleBy x e (steps + 1) = some y) :
    RoundsTo (x.size * powerSize e) y.magnitude := by
  have hfinite := isFinite_scaleBy hx h
  rw [scaleBy, if_pos he] at h
  unfold powerSize
  split
  · next hsign =>
    rw [if_pos hsign] at h
    simp only at h
    split at h
    · cases h
      exact mul_roundsTo hfinite
    · cases h
  · next hsign =>
    rw [if_neg hsign] at h
    cases h
    rw [← div_eq_mul_inv]
    exact div_roundsTo (powerOfTen_magnitude he) hfinite

/-- What is rounded last is two roundings away from the decimal. -/
theorem scaled_within {c : Nat} (hc : 0 < c) (hc' : c < 2 ^ 64) {e : ℤ} (he : e.natAbs ≤ 308) :
    Within (roundoff * roundoff) ((ofNat c).size * powerSize e) (c * 10 ^ e) := by
  have hroundoff : (0 : ℚ) ≤ roundoff := by norm_num [roundoff]
  have hpow : (0 : ℚ) < 10 ^ e := zpow_pos (by norm_num) e
  exact (ofNat_within hc (isFinite_ofNat hc')).mul (size_nonneg _) (Nat.cast_nonneg _)
    (powerSize_nonneg e) hpow.le hroundoff (powerSize_within he)

theorem two_roundings : roundoff * roundoff * (2 ^ 54 - 1) < 2 ^ 54 - 1 + 2 * (2 : Nat) := by
  norm_num [roundoff]

theorem roundoff_sq_pos : 0 < roundoff * roundoff := by norm_num [roundoff]

/-- **Within the reach of the powers, scaling ends within two magnitudes of the nearest one.** -/
theorem scaleBy_near {c : Nat} (hc : 0 < c) (hc' : c < 2 ^ 64) {e : ℤ} (he : e.natAbs ≤ 308)
    {y : Double} (h : scaleBy (.ofNat c) e 3 = some y) : Near 2 (c * 10 ^ e) y.magnitude :=
  (scaleBy_roundsTo (isFinite_ofNat hc') he h).near roundoff_sq_pos (scaled_within hc hc' he)
    two_roundings

/-- **Scaling is exact where the significand and the power of ten are numbers.** -/
theorem scaleBy_exact {c : Nat} (hc : (ofNat c).size = c) (hc' : c < 2 ^ 64) {e : ℤ}
    (he : e.natAbs ≤ 22) {y : Double} (h : scaleBy (.ofNat c) e 3 = some y) :
    RoundsTo (c * 10 ^ e) y.magnitude := by
  have hround := scaleBy_roundsTo (isFinite_ofNat hc') (by omega) h
  rwa [hc, powerSize_eq he] at hround

/-- Scaling gives a number unless the nearest one is within two magnitudes of infinity. -/
theorem scaleBy_isSome {c : Nat} (hc : 0 < c) (hc' : c < 2 ^ 64) {e : ℤ} (he : e.natAbs ≤ 308)
    {m : Nat} (hround : RoundsTo (c * 10 ^ e) m) (hm : m + 2 < infinityMagnitude) :
    ∃ y, scaleBy (.ofNat c) e 3 = some y := by
  rw [scaleBy, if_pos he]
  split
  · next hsign =>
    have hfinite : ((ofNat c).mul (powerOfTen e.natAbs)).isFinite = true := by
      refine mul_isFinite fun m' hm' => ?_
      have hnear : Near 2 (c * 10 ^ e) m' := by
        refine RoundsTo.near ?_ roundoff_sq_pos (scaled_within hc hc' he) two_roundings
        rwa [powerSize, if_pos hsign]
      have := (hnear.distance hround).2
      omega
    simp only [hfinite, if_true]
    exact ⟨_, rfl⟩
  · exact ⟨_, rfl⟩

/-! ### Two quotients -/

theorem ofNat_magnitude {c : Nat} (hc : 0 < c) (hc' : c < 2 ^ 64) : (ofNat c).magnitude ≠ 0 := by
  intro hzero
  have hle := (ofNat_within hc (isFinite_ofNat hc')).2
  rw [size, hzero, stepsTo_zero, Nat.cast_zero, zero_mul, mul_zero] at hle
  exact absurd hle (not_le.mpr (by exact_mod_cast hc))

/-- Beyond the reach of the powers a significand is divided twice. -/
theorem scaleBy_far {c n : Nat} (hc : 0 < c) (hc' : c < 2 ^ 64) (hn : 0 < n) (hn' : n ≤ 308) :
    scaleBy (.ofNat c) (-(308 + n : Nat)) 3 =
      some (((ofNat c).div (powerOfTen 308)).div (powerOfTen n)) := by
  have habs : (-((308 + n : Nat) : ℤ)).natAbs = 308 + n := by omega
  have hrest : -((308 + n : Nat) : ℤ) + 308 = -(n : ℤ) := by omega
  have habs' : (-(n : ℤ)).natAbs = n := by omega
  rw [scaleBy, habs, if_neg (by omega), if_neg (ofNat_magnitude hc hc'), if_neg (by omega), hrest,
    scaleBy, habs', if_pos hn', if_neg (by omega)]

/-- The largest power of ten and the inverse of the smallest normal number.  The exponents are
    variables, so that nothing computes the powers but the kernel. -/
theorem largest_power {a b : Nat} (ha : a = 308) (hb : b = 1022) : 4 * 10 ^ a ≤ 9 * 2 ^ b := by
  subst ha hb
  decide +kernel

/-- From three on, the first quotient is a normal number. -/
theorem quotient_normal {c : Nat} (hc : 3 ≤ c) (hc' : c < 2 ^ 64) :
    2 ^ 52 * step ≤ (ofNat c).size / (powerOfTen 308).size := by
  obtain ⟨a, ha⟩ : ∃ a : Nat, a = 308 := ⟨_, rfl⟩
  obtain ⟨b, hb⟩ : ∃ b : Nat, b = 1022 := ⟨_, rfl⟩
  have hlargest : (4 : ℚ) * 10 ^ a ≤ 9 * 2 ^ b := by exact_mod_cast largest_power ha hb
  have hsmallest : (2 : ℚ) ^ 52 * step = ((2 : ℚ) ^ b)⁻¹ := by
    rw [step, ← zpow_natCast, ← zpow_natCast, ← zpow_neg, ← zpow_add₀ two_ne_zero]
    congr 1
    omega
  have hthree : (3 : ℚ) ≤ c := by exact_mod_cast hc
  have hsize : (5 / 2 : ℚ) ≤ (ofNat c).size := by
    have hle := hthree.trans (ofNat_within (by omega) (isFinite_ofNat hc')).2
    rw [roundoff] at hle
    linarith
  have hpower : (powerOfTen a).size ≤ 5 / 2 * 2 ^ b := by
    have hle := (powerOfTen_within (by omega : a ≤ 308)).1
    have hpos : (0 : ℚ) < 2 ^ b := by positivity
    rw [roundoff] at hle
    linarith
  rw [← ha, le_div_iff₀ (powerOfTen_size_pos ha.le), hsmallest, inv_mul_le_iff₀ (by positivity)]
  calc (powerOfTen a).size ≤ 5 / 2 * 2 ^ b := hpower
    _ ≤ 2 ^ b * (ofNat c).size := by
      rw [mul_comm]
      exact mul_le_mul_of_nonneg_left hsize (by positivity)

theorem three_roundings :
    roundoff * (roundoff * doubleRoundoff) * (2 ^ 54 - 1) < 2 ^ 54 - 1 + 2 * (3 : Nat) := by
  norm_num [roundoff, doubleRoundoff]

/-- What is rounded last after two quotients. -/
theorem quotient_within {c n : Nat} (hc : 3 ≤ c) (hc' : c < 2 ^ 64) (hn : n < 60) :
    Within (roundoff * (roundoff * doubleRoundoff))
      (((ofNat c).div (powerOfTen 308)).size / (powerOfTen n).size)
      (c * 10 ^ (-(308 + n : Nat) : ℤ)) := by
  have hpos := powerOfTen_size_pos (Nat.le_refl 308)
  have hposn := powerOfTen_size_pos (by omega : n ≤ 308)
  have hroundoff : (0 : ℚ) ≤ roundoff := by norm_num [roundoff]
  have hdouble : (0 : ℚ) ≤ doubleRoundoff := by norm_num [doubleRoundoff]
  have hfinite : ((ofNat c).div (powerOfTen 308)).isFinite = true :=
    isFinite_div (isFinite_ofNat hc') (two_le_powerOfTen 308 (by decide) (by decide))
  have hfirst := (div_roundsTo (powerOfTen_magnitude (Nat.le_refl 308)) hfinite).within
    (quotient_normal hc hc')
  have hsecond : Within roundoff (((ofNat c).div (powerOfTen 308)).size / (powerOfTen n).size)
      ((ofNat c).size * ((powerOfTen 308).size * (powerOfTen n).size)⁻¹) := by
    have hmul := hfirst.mul (size_nonneg _) (div_nonneg (size_nonneg _) hpos.le)
      (inv_nonneg.mpr hposn.le) (inv_nonneg.mpr hposn.le) hroundoff (.of_eq rfl)
    rw [mul_one] at hmul
    rw [mul_inv, ← mul_assoc, ← div_eq_mul_inv _ (powerOfTen 308).size,
      div_eq_mul_inv _ (powerOfTen n).size]
    exact hmul
  refine hsecond.trans hroundoff (mul_nonneg hroundoff hdouble) ?_
  rw [zpow_neg, zpow_natCast]
  exact (ofNat_within (by omega) (isFinite_ofNat hc')).mul (size_nonneg _) (Nat.cast_nonneg _)
    (inv_nonneg.mpr (mul_nonneg hpos.le hposn.le)) (by positivity) hroundoff
    ((powerOfTen_twice hn).inv (mul_pos hpos hposn) (by positivity))

theorem midpoint_eq (k : Nat) {b : Nat} (hb : b = 1075) :
    Double.midpoint k = ((stepsTo k + stepsTo (k + 1) : Nat) : ℚ) / 2 ^ b := by
  have hhalf : step / 2 = ((2 : ℚ) ^ b)⁻¹ := by
    rw [step, ← zpow_natCast, ← zpow_neg, div_eq_mul_inv,
      ← zpow_sub_one₀ (two_ne_zero : (2 : ℚ) ≠ 0)]
    congr 1
    omega
  rw [Double.midpoint, div_mul_eq_mul_div, mul_div_assoc, hhalf, Nat.cast_add, div_eq_mul_inv]

/-- One and two are divided twice with less than a normal number between. -/
theorem tiny_table {b : Nat} (hb : b = 1075) : ∀ c < 3, 0 < c → ∀ n < 60,
    let m := (((ofNat c).div (powerOfTen 308)).div (powerOfTen n)).magnitude
    c * 2 ^ b < (stepsTo (m + 3) + stepsTo (m + 3 + 1)) * 10 ^ (308 + n) ∧
      (4 ≤ m → (stepsTo (m - 4) + stepsTo (m - 4 + 1)) * 10 ^ (308 + n) < c * 2 ^ b) := by
  subst hb
  decide +kernel

theorem tiny_near {c n : Nat} (hc : 0 < c) (hc' : c < 3) (hn : n < 60) :
    Near 3 (c * 10 ^ (-(308 + n : Nat) : ℤ))
      (((ofNat c).div (powerOfTen 308)).div (powerOfTen n)).magnitude := by
  obtain ⟨b, hb⟩ : ∃ b : Nat, b = 1075 := ⟨_, rfl⟩
  obtain ⟨hbelow, habove⟩ := tiny_table hb c hc' hc n hn
  generalize (((ofNat c).div (powerOfTen 308)).div (powerOfTen n)).magnitude = m at hbelow habove ⊢
  have hpower : (0 : ℚ) < 2 ^ b := by positivity
  have hten : (0 : ℚ) < 10 ^ (308 + n) := by positivity
  rw [zpow_neg, zpow_natCast, ← div_eq_mul_inv]
  constructor
  · rw [midpoint_eq _ hb, div_lt_div_iff₀ hten hpower]
    exact_mod_cast hbelow
  · intro k hk
    refine (midpoint_strictMono.monotone (by omega : k ≤ m - 4)).trans_lt ?_
    rw [midpoint_eq _ hb, div_lt_div_iff₀ hpower hten]
    exact_mod_cast habove (by omega)

/-- **Beyond the reach of the powers, scaling ends within three magnitudes of the nearest
    one.** -/
theorem scaleBy_near_far {c n : Nat} (hc : 0 < c) (hc' : c < 2 ^ 64) (hn : 0 < n) (hn' : n < 60) :
    ∃ y, scaleBy (.ofNat c) (-(308 + n : Nat)) 3 = some y ∧
      Near 3 (c * 10 ^ (-(308 + n : Nat) : ℤ)) y.magnitude := by
  refine ⟨_, scaleBy_far hc hc' hn (by omega), ?_⟩
  by_cases hsmall : c < 3
  · exact tiny_near hc hsmall hn'
  · have hfinite : (((ofNat c).div (powerOfTen 308)).div (powerOfTen n)).isFinite = true :=
      isFinite_scaleBy (isFinite_ofNat hc') (scaleBy_far hc hc' hn (by omega))
    have hpos : (0 : ℚ) < roundoff * (roundoff * doubleRoundoff) := by
      norm_num [roundoff, doubleRoundoff]
    exact (div_roundsTo (powerOfTen_magnitude (by omega)) hfinite).near hpos
      (quotient_within (by omega) hc' hn') three_roundings

/-! ### Signs -/

/-- Scaling leaves the sign as it is. -/
theorem isNegative_scaleBy {x y : Double} {e : ℤ} {steps : Nat}
    (h : scaleBy x e steps = some y) : y.isNegative = x.isNegative := by
  have hpower : ∀ n, (powerOfTen n).isNegative = false := fun n => isNegative_ofRatio _ _ _
  induction steps generalizing x e with
  | zero =>
    cases h
    rfl
  | succ steps ih =>
    rw [scaleBy] at h
    split at h
    · split at h
      · simp only at h
        split at h
        · cases h
          rw [isNegative_mul, hpower, Bool.bne_false]
        · cases h
      · cases h
        rw [isNegative_div, hpower, Bool.bne_false]
    · split at h
      · cases h
        rfl
      split at h
      · cases h
      · rw [ih h, isNegative_div, hpower, Bool.bne_false]

end DetectionJobs.Json
