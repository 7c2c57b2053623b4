/-
  DetectionJobs/Proofs/Number/Nearest.lean
  ========================================
  **A quotient is rounded to the nearest number, and how far several roundings lead.**

  A magnitude stands for what lies around it, up to halfway to the magnitudes beside it.
  The quotient that is rounded lies there, so that one rounding of a normal number changes
  it by a factor that is close to one.  Where several such factors come together before
  the last rounding, the result is a few magnitudes away from the nearest one at most.
-/
import DetectionJobs.Proofs.Number.Rounding
import Mathlib.Tactic.Linarith

namespace DetectionJobs.Double

/-! ### Steps between magnitudes -/

/-- The number of smallest steps from a magnitude to the next one. -/
def gap (m : Nat) : Nat := 2 ^ (m / 2 ^ 52 - 1)

theorem gap_pos (m : Nat) : 0 < gap m := Nat.two_pow_pos _

theorem gap_mono {k m : Nat} (h : k ≤ m) : gap k ≤ gap m :=
  Nat.pow_le_pow_right Nat.two_pos (by omega)

/-- Multiples of a power of two are magnitudes as long as they fit fifty-three bits. -/
theorem stepsTo_multiple {e r : Nat} (hr : r ≤ 2 ^ 53) (hnormal : e = 0 ∨ 2 ^ 52 ≤ r) :
    stepsTo (e * 2 ^ 52 + r) = r * 2 ^ e := by
  unfold stepsTo
  obtain hsmall | ⟨hlow, hhigh⟩ | hfull :
      r < 2 ^ 52 ∨ 2 ^ 52 ≤ r ∧ r < 2 ^ 53 ∨ r = 2 ^ 53 := by omega
  · obtain rfl : e = 0 := by omega
    rw [if_pos (by omega), Nat.pow_zero]
    omega
  · have hq : (e * 2 ^ 52 + r) / 2 ^ 52 = e + 1 := by omega
    have hmod : (e * 2 ^ 52 + r) % 2 ^ 52 = r - 2 ^ 52 := by omega
    rw [hq, hmod, if_neg (Nat.succ_ne_zero _), Nat.add_sub_cancel, Nat.add_sub_cancel' hlow]
  · have hq : (e * 2 ^ 52 + r) / 2 ^ 52 = e + 2 := by omega
    have hmod : (e * 2 ^ 52 + r) % 2 ^ 52 = 0 := by omega
    rw [hq, hmod, if_neg (Nat.succ_ne_zero _), hfull, show e + 2 - 1 = e + 1 from rfl, Nat.pow_succ]
    omega

theorem stepsTo_succ (m : Nat) : stepsTo (m + 1) = stepsTo m + gap m := by
  by_cases hzero : m / 2 ^ 52 = 0
  · have hm : m < 2 ^ 52 := by omega
    have h₁ := stepsTo_multiple (e := 0) (r := m) (by omega) (.inl rfl)
    have h₂ := stepsTo_multiple (e := 0) (r := m + 1) (by omega) (.inl rfl)
    rw [Nat.zero_mul, Nat.zero_add, Nat.pow_zero, Nat.mul_one] at h₁ h₂
    rw [h₁, h₂, gap, hzero]
  · obtain ⟨e, he⟩ := Nat.exists_eq_succ_of_ne_zero hzero
    have hm : m = e * 2 ^ 52 + (m - e * 2 ^ 52) := by omega
    have h₁ := stepsTo_multiple (e := e) (r := m - e * 2 ^ 52) (by omega) (.inr (by omega))
    have h₂ := stepsTo_multiple (e := e) (r := m - e * 2 ^ 52 + 1) (by omega) (.inr (by omega))
    rw [← Nat.add_assoc, ← hm] at h₂
    rw [← hm] at h₁
    rw [h₁, h₂, gap, he, Nat.add_mul, Nat.one_mul, Nat.succ_sub_one]

/-- A number has fifty-three bits. -/
theorem stepsTo_le (m : Nat) : stepsTo m ≤ (2 ^ 53 - 1) * gap m := by
  unfold stepsTo gap
  split
  · next h => rw [h]; omega
  · exact Nat.mul_le_mul_right _ (by omega)

/-- A normal number has its first bit. -/
theorem le_stepsTo {m : Nat} (hm : 2 ^ 52 ≤ m) : 2 ^ 52 * gap m ≤ stepsTo m := by
  unfold stepsTo gap
  rw [if_neg (by omega)]
  exact Nat.mul_le_mul_right _ (by omega)

theorem gap_add_le (m s : Nat) : stepsTo m + s * gap m ≤ stepsTo (m + s) := by
  induction s with
  | zero => simp
  | succ s ih =>
    have hgap := gap_mono (Nat.le_add_right m s)
    rw [← Nat.add_assoc, stepsTo_succ, Nat.add_mul, Nat.one_mul]
    omega

/-! ### Halfway to the neighbours -/

/-- What is halfway between a magnitude and the next one. -/
def midpoint (m : Nat) : ℚ := ((stepsTo m : ℚ) + stepsTo (m + 1)) / 2 * step

theorem stepsTo_lt_midpoint (m : Nat) : (stepsTo m : ℚ) * step < midpoint m := by
  have hlt : (stepsTo m : ℚ) < stepsTo (m + 1) := by exact_mod_cast stepsTo_lt_succ m
  exact mul_lt_mul_of_pos_right (by linarith) step_pos

theorem midpoint_lt_stepsTo (m : Nat) : midpoint m < (stepsTo (m + 1) : ℚ) * step := by
  have hlt : (stepsTo m : ℚ) < stepsTo (m + 1) := by exact_mod_cast stepsTo_lt_succ m
  exact mul_lt_mul_of_pos_right (by linarith) step_pos

theorem midpoint_strictMono : StrictMono midpoint :=
  strictMono_nat_of_lt_succ fun m => (midpoint_lt_stepsTo m).trans (stepsTo_lt_midpoint (m + 1))

theorem midpoint_pos (m : Nat) : 0 < midpoint m :=
  lt_of_le_of_lt (mul_nonneg (Nat.cast_nonneg _) step_pos.le) (stepsTo_lt_midpoint m)

/-- A magnitude stands for what is nearest to it; what is halfway belongs to the even one. -/
structure RoundsTo (q : ℚ) (m : Nat) : Prop where
  above : ∀ k, k + 1 = m → midpoint k < q ∨ midpoint k = q ∧ m % 2 = 0
  below : q < midpoint m ∨ q = midpoint m ∧ m % 2 = 0

namespace RoundsTo

variable {q : ℚ} {m m' : Nat}

theorem le_midpoint (h : RoundsTo q m) : q ≤ midpoint m := by
  rcases h.below with h | ⟨h, _⟩
  · exact h.le
  · exact h.le

theorem midpoint_le (h : RoundsTo q m) {k : Nat} (hk : k < m) : midpoint k ≤ q := by
  obtain ⟨n, rfl⟩ : ∃ n, m = n + 1 := ⟨m - 1, by omega⟩
  refine (midpoint_strictMono.monotone (by omega : k ≤ n)).trans ?_
  rcases h.above n rfl with h | ⟨h, _⟩
  · exact h.le
  · exact h.le

theorem le_of_both (h : RoundsTo q m) (h' : RoundsTo q m') : m ≤ m' := by
  by_contra hlt
  have hq : midpoint m' = q := le_antisymm (h.midpoint_le (by omega)) h'.le_midpoint
  -- only the next magnitude has the same point halfway, and one of the two is odd
  obtain hnext | hfar : m = m' + 1 ∨ m' + 1 < m := by omega
  · have heven : m % 2 = 0 := by
      rcases h.above m' hnext.symm with hlt | ⟨_, heven⟩
      · exact absurd hq hlt.ne
      · exact heven
    have heven' : m' % 2 = 0 := by
      rcases h'.below with hlt | ⟨_, heven⟩
      · exact absurd hq hlt.ne'
      · exact heven
    omega
  · have hle := h.midpoint_le hfar
    have hlt := midpoint_strictMono (Nat.lt_succ_self m')
    exact absurd hq (hlt.trans_le hle).ne

/-- **There is one magnitude that a quotient is rounded to.** -/
theorem unique (h : RoundsTo q m) (h' : RoundsTo q m') : m = m' :=
  Nat.le_antisymm (h.le_of_both h') (h'.le_of_both h)

/-- What a magnitude stands for is rounded to it. -/
theorem self (m : Nat) : RoundsTo (stepsTo m * step) m where
  above := fun k hk => .inl (hk ▸ midpoint_lt_stepsTo k)
  below := .inl (stepsTo_lt_midpoint m)

end RoundsTo

/-! ### Rounding a quotient -/

/-- A quotient is rounded to the nearest natural, and a half to the even one. -/
theorem roundEven_spec (a : Nat) {b : Nat} (hb : 0 < b) :
    ((a : ℚ) / b < roundEven a b + 1 / 2 ∨
      (a : ℚ) / b = roundEven a b + 1 / 2 ∧ roundEven a b % 2 = 0) ∧
    ((roundEven a b : ℚ) - 1 / 2 < a / b ∨
      (roundEven a b : ℚ) - 1 / 2 = a / b ∧ roundEven a b % 2 = 0) := by
  have hbpos : (0 : ℚ) < b := by exact_mod_cast hb
  have hsplit : (a : ℚ) / b = (a / b : Nat) + ((a % b : Nat) : ℚ) / b := by
    rw [← sub_eq_iff_eq_add', eq_div_iff hbpos.ne', sub_mul, div_mul_cancel₀ _ hbpos.ne',
      sub_eq_iff_eq_add']
    exact_mod_cast (Nat.div_add_mod' a b).symm
  have hlt : ((a % b : Nat) : ℚ) / b < 1 := by
    rw [div_lt_one hbpos]
    exact_mod_cast Nat.mod_lt a hb
  have hnonneg : (0 : ℚ) ≤ ((a % b : Nat) : ℚ) / b := by positivity
  have hhalf : ((a % b : Nat) : ℚ) / b < 1 / 2 ↔ 2 * (a % b) < b := by
    rw [div_lt_div_iff₀ hbpos two_pos, one_mul, mul_comm]
    exact_mod_cast Iff.rfl
  have hhalf' : 1 / 2 < ((a % b : Nat) : ℚ) / b ↔ b < 2 * (a % b) := by
    rw [div_lt_div_iff₀ two_pos hbpos, one_mul, mul_comm]
    exact_mod_cast Iff.rfl
  rw [hsplit]
  unfold roundEven
  simp only
  split
  · next h =>
    have := hhalf.mpr h
    exact ⟨.inl (by linarith), .inl (by linarith)⟩
  split
  · next h =>
    have := hhalf'.mpr h
    push_cast
    exact ⟨.inl (by linarith), .inl (by linarith)⟩
  · next h h' =>
    have htie : ((a % b : Nat) : ℚ) / b = 1 / 2 :=
      le_antisymm (not_lt.mp fun hlt => h' (hhalf'.mp hlt)) (not_lt.mp fun hlt => h (hhalf.mp hlt))
    rw [htie]
    split
    · next heven => exact ⟨.inr ⟨by ring, heven⟩, .inl (by linarith)⟩
    · next hodd =>
      push_cast
      exact ⟨.inl (by linarith), .inr ⟨by ring, by omega⟩⟩

theorem le_roundEven (a b : Nat) : a / b ≤ roundEven a b := by
  unfold roundEven
  simp only
  split
  · exact Nat.le_refl _
  split
  · exact Nat.le_succ _
  split
  · exact Nat.le_refl _
  · exact Nat.le_succ _

/-- The nearest multiple of a power of two is the nearest magnitude, if it has as many bits as
    magnitudes have there. -/
theorem roundsTo_multiple {t : ℚ} {e r : Nat} (hr : r ≤ 2 ^ 53) (ht : t < 2 ^ 53)
    (hnormal : e = 0 ∨ 2 ^ 52 ≤ r ∧ 2 ^ 52 ≤ t)
    (hbelow : t < r + 1 / 2 ∨ t = r + 1 / 2 ∧ r % 2 = 0)
    (habove : r - 1 / 2 < t ∨ r - 1 / 2 = t ∧ r % 2 = 0) :
    RoundsTo (t * 2 ^ e * step) (e * 2 ^ 52 + r) := by
  have hunit : (0 : ℚ) < 2 ^ e * step := mul_pos (pow_pos two_pos e) step_pos
  have hvalue : stepsTo (e * 2 ^ 52 + r) = r * 2 ^ e :=
    stepsTo_multiple hr (hnormal.imp_right And.left)
  have heven : (e * 2 ^ 52 + r) % 2 = r % 2 := by omega
  constructor
  · intro k hk
    have hpos : 0 < r := by omega
    by_cases hregular : e = 0 ∨ 2 ^ 52 < r
    · have hprevious : stepsTo k = (r - 1) * 2 ^ e := by
        obtain rfl : k = e * 2 ^ 52 + (r - 1) := by omega
        exact stepsTo_multiple (by omega) (by omega)
      have hmid : midpoint k = (r - 1 / 2) * (2 ^ e * step) := by
        rw [midpoint, hk, hvalue, hprevious]
        push_cast [Nat.cast_sub (Nat.one_le_iff_ne_zero.mpr hpos.ne')]
        ring
      rw [hmid, heven, mul_assoc t, mul_lt_mul_iff_left₀ hunit, mul_left_inj' hunit.ne']
      exact habove
    · -- The power of two itself: the magnitude before it is nearer than half a multiple.
      obtain rfl : r = 2 ^ 52 := by omega
      have htlow : (2 : ℚ) ^ 52 ≤ t := (hnormal.resolve_left fun h => hregular (.inl h)).2
      left
      calc midpoint k < (stepsTo (k + 1) : ℚ) * step := midpoint_lt_stepsTo k
        _ = 2 ^ 52 * (2 ^ e * step) := by
          rw [hk, hvalue]
          push_cast
          ring
        _ ≤ t * (2 ^ e * step) := mul_le_mul_of_nonneg_right htlow hunit.le
        _ = t * 2 ^ e * step := (mul_assoc _ _ _).symm
  · by_cases hfull : r = 2 ^ 53
    · left
      calc t * 2 ^ e * step = t * (2 ^ e * step) := mul_assoc _ _ _
        _ < 2 ^ 53 * (2 ^ e * step) := mul_lt_mul_of_pos_right ht hunit
        _ = (stepsTo (e * 2 ^ 52 + r) : ℚ) * step := by
          rw [hvalue, hfull]
          push_cast
          ring
        _ < midpoint (e * 2 ^ 52 + r) := stepsTo_lt_midpoint _
    · have hnext : stepsTo (e * 2 ^ 52 + (r + 1)) = (r + 1) * 2 ^ e :=
        stepsTo_multiple (by omega) (by omega)
      have hmid : midpoint (e * 2 ^ 52 + r) = (r + 1 / 2) * (2 ^ e * step) := by
        rw [midpoint, hvalue, Nat.add_assoc, hnext]
        push_cast
        ring
      rw [hmid, heven, mul_assoc t, mul_lt_mul_iff_left₀ hunit, mul_left_inj' hunit.ne']
      exact hbelow

/-- A quotient that is scaled to fifty-three bits is below their power of two. -/
theorem scaled_lt {n d : Nat} (hn : n ≠ 0) (hd : 0 < d) {e : ℤ} (he : floorLog2 n d - 52 ≤ e) :
    ((scaled n d e).1 : ℚ) / (scaled n d e).2 < 2 ^ 53 := by
  have hpos : (0 : ℚ) < (scaled n d e).2 := by exact_mod_cast scaled_pos hd e
  have hlt := Nat.lt_mul_of_div_lt (scaled_div_lt hn hd he) (scaled_pos hd e)
  rw [div_lt_iff₀ hpos]
  exact_mod_cast hlt

/-- It has all of them, unless the exponent is larger for another reason. -/
theorem le_scaled {n d : Nat} (hn : n ≠ 0) (hd : 0 < d) {e : ℤ} (he : e ≤ floorLog2 n d - 52) :
    (2 : ℚ) ^ 52 ≤ ((scaled n d e).1 : ℚ) / (scaled n d e).2 ∧
      2 ^ 52 ≤ (scaled n d e).1 / (scaled n d e).2 := by
  have hpos : (0 : ℚ) < (scaled n d e).2 := by exact_mod_cast scaled_pos hd e
  have hlow : (2 : ℚ) ^ 52 ≤ ((scaled n d e).1 : ℚ) / (scaled n d e).2 := by
    rw [scaled_eq, le_div_iff₀ (zpow_pos two_pos e), ← zpow_natCast, ← zpow_add₀ two_ne_zero]
    refine le_trans (zpow_le_zpow_right₀ one_le_two ?_) (floorLog2_spec hn hd).1
    push_cast
    omega
  refine ⟨hlow, ?_⟩
  rw [Nat.le_div_iff_mul_le (scaled_pos hd e)]
  rw [le_div_iff₀ hpos] at hlow
  exact_mod_cast hlow

/-- **The number that a quotient becomes is the nearest one**, were there no largest one. -/
theorem ofRatio_roundsTo (n : Nat) {d : Nat} (hd : 0 < d) :
    ∃ m, RoundsTo ((n : ℚ) / d) m ∧
      ∀ negative, ofRatio negative n d = ofMagnitude negative (min m infinityMagnitude) := by
  by_cases hn : n = 0
  · refine ⟨0, ⟨fun k hk => absurd hk (Nat.succ_ne_zero k), .inl ?_⟩, fun negative => ?_⟩
    · rw [hn, Nat.cast_zero, zero_div]
      exact midpoint_pos 0
    · rw [Nat.zero_min, ofRatio, if_pos hn]
  · generalize he : max (floorLog2 n d - 52) (-1074) = e
    obtain ⟨k, hk⟩ : ∃ k : Nat, e = k - 1074 := ⟨(e + 1074).toNat, by omega⟩
    have hdiv : (scaled n d e).1 / (scaled n d e).2 < 2 ^ 53 := scaled_div_lt hn hd (by omega)
    have hround := roundEven_le (scaled n d e).1 (scaled n d e).2
    have hquotient : (n : ℚ) / d = ((scaled n d e).1 : ℚ) / (scaled n d e).2 * 2 ^ k * step := by
      rw [scaled_eq, step, mul_assoc, ← zpow_natCast, ← zpow_add₀ two_ne_zero,
        show (k : ℤ) + -1074 = e by omega, div_mul_cancel₀ _ (zpow_pos two_pos e).ne']
    have hnormal : k = 0 ∨ 2 ^ 52 ≤ roundEven (scaled n d e).1 (scaled n d e).2 ∧
        (2 : ℚ) ^ 52 ≤ ((scaled n d e).1 : ℚ) / (scaled n d e).2 := by
      by_cases hzero : k = 0
      · exact .inl hzero
      · obtain ⟨hlow, hlow'⟩ := le_scaled hn hd (by omega : e ≤ floorLog2 n d - 52)
        exact .inr ⟨hlow'.trans (le_roundEven _ _), hlow⟩
    obtain ⟨hbelow, habove⟩ := roundEven_spec (scaled n d e).1 (scaled_pos (n := n) hd e)
    refine ⟨k * 2 ^ 52 + roundEven (scaled n d e).1 (scaled n d e).2, ?_, fun negative => ?_⟩
    · rw [hquotient]
      exact roundsTo_multiple (by omega) (scaled_lt hn hd (by omega)) hnormal hbelow habove
    · rw [ofRatio, if_neg hn]
      simp only [he]
      rw [show (e + 1074).toNat = k by omega]

/-! ### Products and quotients of numbers -/

theorem isNegative_ofMagnitude {m : Nat} (hm : m < 2 ^ 63) (negative : Bool) :
    (ofMagnitude negative m).isNegative = negative := by
  have hsize : UInt64.size = 2 ^ 64 := rfl
  unfold isNegative ofMagnitude
  cases negative <;>
    simp only [Bool.false_eq_true, if_false, if_true, UInt64.toNat_ofNat', decide_eq_true_eq,
      decide_eq_false_iff_not] <;> omega

/-- A number is given by its sign and its magnitude. -/
theorem eq_of_magnitude {x y : Double} (hsign : x.isNegative = y.isNegative)
    (hmagnitude : x.magnitude = y.magnitude) : x = y := by
  obtain ⟨a⟩ := x
  obtain ⟨b⟩ := y
  have ha := a.toNat_lt
  have hb := b.toNat_lt
  simp only [isNegative, magnitude, decide_eq_decide] at hsign hmagnitude
  rw [mk.injEq, ← UInt64.toNat_inj]
  omega

theorem isNegative_ofRatio (negative : Bool) (n d : Nat) :
    (ofRatio negative n d).isNegative = negative := by
  unfold ofRatio
  split
  · exact isNegative_ofMagnitude (by decide) negative
  · exact isNegative_ofMagnitude (lt_of_le_of_lt (Nat.min_le_right _ _) (by decide)) negative

theorem isNegative_mul (x y : Double) : (x.mul y).isNegative = (x.isNegative != y.isNegative) :=
  isNegative_ofRatio _ _ _

theorem isNegative_div (x y : Double) : (x.div y).isNegative = (x.isNegative != y.isNegative) :=
  isNegative_ofRatio _ _ _

/-- A quotient that becomes a finite number becomes the nearest one. -/
theorem roundsTo_of_finite {negative : Bool} {n d : Nat} (hd : 0 < d)
    (h : (ofRatio negative n d).isFinite = true) :
    RoundsTo ((n : ℚ) / d) (ofRatio negative n d).magnitude := by
  obtain ⟨m, hround, hm⟩ := ofRatio_roundsTo n hd
  rw [hm, isFinite, magnitude_ofMagnitude (lt_of_le_of_lt (Nat.min_le_right _ _) (by decide)),
    decide_eq_true_eq] at h
  rw [hm, magnitude_ofMagnitude (lt_of_le_of_lt (Nat.min_le_right _ _) (by decide)),
    Nat.min_eq_left (by omega)]
  exact hround

/-- The absolute value of a finite number. -/
def size (x : Double) : ℚ := stepsTo x.magnitude * step

theorem size_eq (x : Double) : x.size = x.significand * (2 : ℚ) ^ x.exponent :=
  (significand_scaled x).symm

theorem ratio_size (x : Double) : (x.ratio.1 : ℚ) / x.ratio.2 = x.size := by
  rw [ratio_eq, size_eq]

theorem size_nonneg (x : Double) : 0 ≤ x.size := mul_nonneg (Nat.cast_nonneg _) step_pos.le

theorem size_pos {x : Double} (hx : x.magnitude ≠ 0) : 0 < x.size := by
  have hlt : 0 < stepsTo x.magnitude :=
    stepsTo_zero ▸ stepsTo_strictMono (Nat.pos_of_ne_zero hx)
  exact mul_pos (by exact_mod_cast hlt) step_pos

theorem mul_roundsTo {x y : Double} (h : (x.mul y).isFinite = true) :
    RoundsTo (x.size * y.size) (x.mul y).magnitude := by
  have hround := roundsTo_of_finite (Nat.mul_pos x.ratio_pos y.ratio_pos) h
  rw [← ratio_size, ← ratio_size, div_mul_div_comm]
  exact_mod_cast hround

/-- A product is finite if what it is rounded to is below infinity. -/
theorem mul_isFinite {x y : Double}
    (h : ∀ m, RoundsTo (x.size * y.size) m → m < infinityMagnitude) :
    (x.mul y).isFinite = true := by
  obtain ⟨m, hround, hm⟩ :=
    ofRatio_roundsTo (x.ratio.1 * y.ratio.1) (Nat.mul_pos x.ratio_pos y.ratio_pos)
  have hlt : m < infinityMagnitude := by
    refine h m ?_
    rw [← ratio_size, ← ratio_size, div_mul_div_comm]
    exact_mod_cast hround
  have hmul : x.mul y = ofRatio (x.isNegative != y.isNegative) (x.ratio.1 * y.ratio.1)
      (x.ratio.2 * y.ratio.2) := rfl
  rw [hmul, hm, Nat.min_eq_left hlt.le]
  exact isFinite_ofMagnitude hlt _

theorem div_roundsTo {x y : Double} (hy : y.magnitude ≠ 0) (h : (x.div y).isFinite = true) :
    RoundsTo (x.size / y.size) (x.div y).magnitude := by
  have hpos : 0 < y.ratio.1 := by
    have hsize := size_pos hy
    rw [← ratio_size] at hsize
    exact Nat.pos_of_ne_zero fun hzero => by simp [hzero] at hsize
  have hround := roundsTo_of_finite (Nat.mul_pos x.ratio_pos hpos) h
  rw [← ratio_size, ← ratio_size, div_div_div_eq]
  exact_mod_cast hround

/-! ### Factors close to one -/

/-- Two quantities that differ by the factor `r` at most, either way. -/
def Within (r a b : ℚ) : Prop := a ≤ r * b ∧ b ≤ r * a

namespace Within

variable {r s a b c d : ℚ}

theorem of_eq (h : a = b) : Within 1 a b := ⟨by rw [h, one_mul], by rw [h, one_mul]⟩

theorem trans (hr : 0 ≤ r) (hs : 0 ≤ s) (h : Within r a b) (h' : Within s b c) :
    Within (r * s) a c := by
  constructor
  · calc a ≤ r * b := h.1
      _ ≤ r * (s * c) := mul_le_mul_of_nonneg_left h'.1 hr
      _ = r * s * c := (mul_assoc _ _ _).symm
  · calc c ≤ s * b := h'.2
      _ ≤ s * (r * a) := mul_le_mul_of_nonneg_left h.2 hs
      _ = r * s * a := by ring

theorem mul (ha : 0 ≤ a) (hb : 0 ≤ b) (hc : 0 ≤ c) (hd : 0 ≤ d) (hr : 0 ≤ r)
    (h : Within r a b) (h' : Within s c d) : Within (r * s) (a * c) (b * d) := by
  constructor
  · calc a * c ≤ r * b * (s * d) := mul_le_mul h.1 h'.1 hc (mul_nonneg hr hb)
      _ = r * s * (b * d) := by ring
  · calc b * d ≤ r * a * (s * c) := mul_le_mul h.2 h'.2 hd (mul_nonneg hr ha)
      _ = r * s * (a * c) := by ring

theorem inv (ha : 0 < a) (hb : 0 < b) (h : Within r a b) : Within r a⁻¹ b⁻¹ := by
  constructor
  · rw [inv_le_iff_one_le_mul₀ ha, mul_assoc, mul_comm b⁻¹, ← mul_assoc, ← div_eq_mul_inv,
      one_le_div hb]
    exact h.2
  · rw [inv_le_iff_one_le_mul₀ hb, mul_assoc, mul_comm a⁻¹, ← mul_assoc, ← div_eq_mul_inv,
      one_le_div ha]
    exact h.1

end Within

/-- The factor of one rounding. -/
def roundoff : ℚ := 1 + 1 / 2 ^ 53

/-- **Rounding changes a normal quotient by the factor of one rounding at most.** -/
theorem RoundsTo.within {q : ℚ} {m : Nat} (h : RoundsTo q m) (hq : 2 ^ 52 * step ≤ q) :
    Within roundoff (stepsTo m * step) q := by
  have hpow : stepsTo (2 ^ 52) = 2 ^ 52 := by decide
  have hm : 2 ^ 52 ≤ m := by
    by_contra hlt
    have hmid := midpoint_strictMono.monotone (by omega : m ≤ 2 ^ 52 - 1)
    have hlow := midpoint_lt_stepsTo (2 ^ 52 - 1)
    rw [show 2 ^ 52 - 1 + 1 = 2 ^ 52 by rfl, hpow] at hlow
    push_cast at hlow
    linarith [h.le_midpoint]
  have hstep := step_pos
  constructor
  · obtain hfirst | hlater : m = 2 ^ 52 ∨ 2 ^ 52 < m := by omega
    · rw [hfirst, hpow, roundoff]
      push_cast
      linarith
    · obtain ⟨k, rfl⟩ : ∃ k, m = k + 1 := ⟨m - 1, by omega⟩
      have hmid := h.midpoint_le (Nat.lt_succ_self k)
      have hnormal : (2 ^ 52 : ℚ) * gap k ≤ stepsTo k := by
        exact_mod_cast le_stepsTo (by omega : 2 ^ 52 ≤ k)
      have hmul := mul_le_mul_of_nonneg_right hnormal hstep.le
      rw [midpoint, stepsTo_succ] at hmid
      rw [stepsTo_succ, roundoff]
      push_cast at hmid ⊢
      linarith
  · have hmid := h.le_midpoint
    have hnormal : (2 ^ 52 : ℚ) * gap m ≤ stepsTo m := by exact_mod_cast le_stepsTo hm
    have hmul := mul_le_mul_of_nonneg_right hnormal hstep.le
    rw [midpoint, stepsTo_succ] at hmid
    rw [roundoff]
    push_cast at hmid ⊢
    linarith

/-! ### A few magnitudes away -/

/-- A magnitude is near to a quantity if at most `s` others lie between it and the one that
    the quantity is rounded to. -/
structure Near (s : Nat) (q : ℚ) (m : Nat) : Prop where
  below : q < midpoint (m + s)
  above : ∀ k, k + s < m → midpoint k < q

/-- **Near is what it is named for.** -/
theorem Near.distance {s : Nat} {q : ℚ} {m m' : Nat} (h : Near s q m) (h' : RoundsTo q m') :
    m' ≤ m + s ∧ m ≤ m' + s := by
  constructor
  · by_contra hlt
    exact absurd h.below (not_lt.mpr (h'.midpoint_le (by omega)))
  · by_contra hlt
    exact absurd h'.le_midpoint (not_le.mpr (h.above m' (by omega)))

/-- A factor this close to one does not lead over `s` magnitudes. -/
theorem midpoint_mul_lt {r : ℚ} {s : Nat} (hr : r * (2 ^ 54 - 1) < 2 ^ 54 - 1 + 2 * s) (k : Nat) :
    r * midpoint k < midpoint (k + s) := by
  have hgap : (0 : ℚ) < gap k := by exact_mod_cast gap_pos k
  have hbits : (stepsTo k : ℚ) ≤ (2 ^ 53 - 1) * gap k := by
    have hle : (stepsTo k : ℚ) ≤ ((2 ^ 53 - 1 : Nat) : ℚ) * gap k := by exact_mod_cast stepsTo_le k
    rwa [Nat.cast_sub Nat.one_le_two_pow, Nat.cast_pow, Nat.cast_one, Nat.cast_two] at hle
  have hfar : (stepsTo k : ℚ) + s * gap k ≤ stepsTo (k + s) := by exact_mod_cast gap_add_le k s
  have hnext : (gap k : ℚ) ≤ gap (k + s) := by exact_mod_cast gap_mono (Nat.le_add_right k s)
  have hsum : r * (2 * stepsTo k + gap k) < 2 * stepsTo k + gap k + 2 * s * gap k := by
    have hnonneg : (0 : ℚ) ≤ stepsTo k := Nat.cast_nonneg _
    rcases lt_or_ge r 1 with hone | hone
    · have hlt : (r - 1) * (2 * stepsTo k + gap k) < 0 :=
        mul_neg_of_neg_of_pos (by linarith) (by linarith)
      have hfar : (0 : ℚ) ≤ s * gap k := mul_nonneg (Nat.cast_nonneg _) hgap.le
      linarith
    · have hle : (r - 1) * (2 * stepsTo k + gap k) ≤ (r - 1) * ((2 ^ 54 - 1) * gap k) :=
        mul_le_mul_of_nonneg_left (by linarith) (by linarith)
      have hlt : (r * (2 ^ 54 - 1)) * gap k < (2 ^ 54 - 1 + 2 * s) * gap k :=
        mul_lt_mul_of_pos_right hr hgap
      linarith
  rw [midpoint, midpoint, stepsTo_succ, stepsTo_succ, ← mul_assoc]
  refine mul_lt_mul_of_pos_right ?_ step_pos
  push_cast
  linarith

/-- **Rounding what differs from a quantity by a factor this close to one ends near to it.** -/
theorem RoundsTo.near {q q' r : ℚ} {m s : Nat} (h : RoundsTo q m) (hpos : 0 < r)
    (hw : Within r q q') (hr : r * (2 ^ 54 - 1) < 2 ^ 54 - 1 + 2 * s) : Near s q' m where
  below := calc
    q' ≤ r * q := hw.2
    _ ≤ r * midpoint m := mul_le_mul_of_nonneg_left h.le_midpoint hpos.le
    _ < midpoint (m + s) := midpoint_mul_lt hr m
  above := by
    intro k hk
    have hlt : r * midpoint k < r * q' := calc
      r * midpoint k < midpoint (k + s) := midpoint_mul_lt hr k
      _ ≤ q := h.midpoint_le hk
      _ ≤ r * q' := hw.1
    exact lt_of_mul_lt_mul_left hlt hpos.le

end DetectionJobs.Double
