/-
  DetectionJobs/Proofs/Json/Rereading.lean
  ========================================
  **What the reader makes of a written number.**

  A number is written with the shortest digits that stand for it alone, in one of four
  layouts.  The reader takes a significand and an exponent of ten from the layout, which
  stand for the same decimal, and scales the one by the other.  It does so with roundings
  of its own, so that the number it ends at is near to the one that was written but is not
  always that one.
-/
import DetectionJobs.Number.Notation
import DetectionJobs.Proofs.Json.Recognition
import DetectionJobs.Proofs.Json.Scaling
import DetectionJobs.Proofs.Number.Decimals

namespace DetectionJobs

namespace Double

namespace Decimal

/-- The digits before the point, zeros included. -/
def place (d : Decimal) : ℤ := d.scale + (decimalDigits d.digits).length

/-- The layout of a decimal in the data notation. -/
def layout (d : Decimal) : List Char :=
  if -5 < d.place ∧ d.place ≤ 16 then positional (decimalDigits d.digits) d.place ['.', '0']
  else scientific (decimalDigits d.digits) (d.place - 1)

/-- The significand and the exponent of ten that a reader takes from the layout.  A decimal
    without a fraction is written with one, a zero. -/
def noted (d : Decimal) : Decimal :=
  if 0 ≤ d.scale ∧ d.place ≤ 16 then ⟨d.digits * 10 ^ (d.scale.toNat + 1), -1⟩ else d

theorem noted_value (d : Decimal) : d.noted.value = d.value := by
  unfold noted
  split
  · next h =>
    obtain ⟨k, hk⟩ := Int.eq_ofNat_of_zero_le h.1
    rw [value, value, hk, Int.toNat_natCast, zpow_neg_one, pow_succ, zpow_natCast]
    push_cast
    field_simp
  · rfl

theorem digits_lt (n : Nat) : n < 10 ^ (decimalDigits n).length :=
  (Nat.length_toDigits_le_iff (by omega) Nat.length_toDigits_pos).mp (Nat.le_refl _)

theorem noted_digits_lt {d : Decimal} (h : d.digits ≤ 10 ^ 17) : d.noted.digits < 2 ^ 64 := by
  unfold noted place
  split
  · next hplace =>
    have hpow : 10 ^ ((decimalDigits d.digits).length + (d.scale.toNat + 1)) ≤ 10 ^ 17 :=
      Nat.pow_le_pow_right (by omega) (by omega)
    have hlt := Nat.mul_lt_mul_of_pos_right (digits_lt d.digits)
      (Nat.pow_pos (by omega : 0 < 10) (n := d.scale.toNat + 1))
    rw [← Nat.pow_add] at hlt
    exact (hlt.trans_le hpow).trans (by decide)
  · omega

end Decimal

/-- The significand and the exponent of ten that a reader takes from the data notation. -/
def noted (x : Double) : Decimal := x.shortest.noted

theorem dataChars_eq {x : Double} (hx : x.magnitude ≠ 0) :
    x.dataChars = x.signChars ++ x.shortest.layout := by
  rw [dataChars, if_neg hx]
  rfl

end Double

namespace Json

open Double (decimalDigits positional scientific)

/-! ### The layouts as forms -/

theorem gather_all {ds : List Char} (hds : ∀ d ∈ ds, d.isDigit = true) {n : Nat}
    (hn : Nat.ofDigitChars 10 ds n < 2 ^ 64) :
    gather n 0 ds = (Nat.ofDigitChars 10 ds n, ds.length, []) := by
  have hnone : startsWithDigit [] = false := rfl
  have hgather := gather_digits hds hnone 0 hn
  rwa [List.append_nil, Nat.zero_add] at hgather

/-- A form whose digits fit is worth its digits, moved by its fraction and its exponent. -/
theorem NumberForm.value_of_digits (f : NumberForm) {c : Nat}
    (hc : Nat.ofDigitChars 10 (f.whole ++ f.fraction.getD []) 0 = c) (hlt : c < 2 ^ 64)
    (hreal : f.fraction ≠ none ∨ f.exponent ≠ none) :
    f.value? = scaled? f.negative c (-((f.fraction.getD []).length : ℤ)) f.exponent := by
  have hfraction : ∀ d ∈ f.fraction.getD [], d.isDigit = true := by
    cases h : f.fraction with
    | none => exact fun _ hd => nomatch hd
    | some ds => exact (f.isFraction ds h).2
  rw [Nat.ofDigitChars_append] at hc
  have hwhole := gather_all (IsWhole.digits f.isWhole).2
    ((le_ofDigitChars _ _).trans_lt (hc.trans_lt hlt))
  have htail := gather_all hfraction (hc.trans_lt hlt)
  have hne : ¬ (f.fraction = none ∧ f.exponent.isNone = true) := by
    rw [Option.isNone_iff_eq_none]
    tauto
  simp only [value?, hwhole, htail, and_true, if_neg hne, hc, List.length_nil, Int.natCast_zero,
    zero_sub]

theorem digits_decimalDigits (d : Nat) : Digits (decimalDigits d) :=
  ⟨Nat.toDigits_ne_nil, isDigit_of_mem_digits⟩

theorem head_decimalDigits {d : Nat} (hd : 0 < d) : (decimalDigits d).head? ≠ some '0' := by
  obtain ⟨c, cs, hcs, hc⟩ := toDigits_pos hd
  rw [decimalDigits, hcs]
  simpa using hc

theorem isDigit_zeros (k : Nat) : ∀ c ∈ List.replicate k '0', c.isDigit = true := by
  intro c hc
  rw [List.eq_of_mem_replicate hc]
  rfl

section Layouts

variable {d : Nat} (hlt : d < 2 ^ 64) (negative : Bool)

include hlt in
/-- Below one: zeros stand between the point and the digits. -/
theorem form_below_one {place : ℤ} (hplace : place ≤ 0) :
    ∃ f : NumberForm, f.negative = negative ∧
      f.body = ['0', '.'] ++ List.replicate (-place).toNat '0' ++ decimalDigits d ∧
      f.value? = decimal? negative d (place - (decimalDigits d).length) := by
  have hdigits := digits_decimalDigits d
  refine ⟨⟨negative, ['0'], some (List.replicate (-place).toNat '0' ++ decimalDigits d), none,
    .inl rfl, ?_⟩, rfl, by simp [NumberForm.body, NumberForm.fractionChars,
      NumberForm.exponentChars], ?_⟩
  · rintro ds ⟨⟩
    refine ⟨List.append_ne_nil_of_right_ne_nil _ hdigits.1, fun c hc => ?_⟩
    rcases List.mem_append.mp hc with hc | hc
    · exact isDigit_zeros _ c hc
    · exact hdigits.2 c hc
  · rw [NumberForm.value_of_digits _ _ hlt (.inl (Option.some_ne_none _))]
    · simp only [Option.getD_some, List.length_append, List.length_replicate, scaled?]
      congr 1
      omega
    · simp [Nat.ofDigitChars_cons, Nat.ofDigitChars_append, decimalDigits]

/-- Whole numbers are written with a zero as their fraction. -/
theorem form_whole (hd : 0 < d) {zeros : Nat} (hlt : d * 10 ^ (zeros + 1) < 2 ^ 64) :
    ∃ f : NumberForm, f.negative = negative ∧
      f.body = decimalDigits d ++ List.replicate zeros '0' ++ ['.', '0'] ∧
      f.value? = decimal? negative (d * 10 ^ (zeros + 1)) (-1) := by
  have hdigits := digits_decimalDigits d
  refine ⟨⟨negative, decimalDigits d ++ List.replicate zeros '0', some ['0'], none,
    .inr ⟨⟨List.append_ne_nil_of_left_ne_nil hdigits.1 _, fun c hc => ?_⟩, ?_⟩, ?_⟩, rfl,
    by simp [NumberForm.body, NumberForm.fractionChars, NumberForm.exponentChars], ?_⟩
  · rcases List.mem_append.mp hc with hc | hc
    · exact hdigits.2 c hc
    · exact isDigit_zeros _ c hc
  · rw [List.head?_append_of_ne_nil _ hdigits.1]
    exact head_decimalDigits hd
  · rintro ds ⟨⟩
    exact ⟨List.cons_ne_nil _ _, List.forall_mem_singleton.mpr rfl⟩
  · rw [NumberForm.value_of_digits _ _ hlt (.inl (Option.some_ne_none _))]
    · rfl
    · simp [Nat.ofDigitChars_append, decimalDigits, Nat.ofDigitChars_cons]
      ring

include hlt in
/-- The point stands between two of the digits. -/
theorem form_mixed (hd : 0 < d) {place : Nat} (hpos : 0 < place)
    (hplace : place < (decimalDigits d).length) :
    ∃ f : NumberForm, f.negative = negative ∧
      f.body = (decimalDigits d).take place ++ ['.'] ++ (decimalDigits d).drop place ∧
      f.value? = decimal? negative d (place - (decimalDigits d).length) := by
  have hdigits := digits_decimalDigits d
  have hne : (decimalDigits d).take place ≠ [] := by
    simp only [ne_eq, List.take_eq_nil_iff, not_or]
    exact ⟨hpos.ne', hdigits.1⟩
  refine ⟨⟨negative, (decimalDigits d).take place, some ((decimalDigits d).drop place), none,
    .inr ⟨⟨hne, fun c hc => hdigits.2 c (List.mem_of_mem_take hc)⟩, ?_⟩, ?_⟩, rfl,
    by simp [NumberForm.body, NumberForm.fractionChars, NumberForm.exponentChars], ?_⟩
  · rw [List.head?_take, if_neg hpos.ne']
    exact head_decimalDigits hd
  · rintro ds ⟨⟩
    refine ⟨?_, fun c hc => hdigits.2 c (List.mem_of_mem_drop hc)⟩
    rw [ne_eq, List.drop_eq_nil_iff]
    omega
  · rw [NumberForm.value_of_digits _ _ hlt (.inl (Option.some_ne_none _))]
    · simp only [Option.getD_some, List.length_drop, scaled?]
      congr 1
      omega
    · simp only [Option.getD_some, List.take_append_drop]
      exact Nat.ofDigitChars_ten_toDigits

/-- A written exponent of ten. -/
def signedExponent (power : ℤ) : ExponentForm where
  mark := 'e'
  sign := some (if power < 0 then '-' else '+')
  digits := decimalDigits power.natAbs
  isMark := rfl
  isSign := by
    rintro c ⟨⟩
    split
    · exact .inr rfl
    · exact .inl rfl
  isDigits := digits_decimalDigits _

theorem isDown_signedExponent (power : ℤ) : (signedExponent power).isDown = decide (power < 0) := by
  unfold ExponentForm.isDown signedExponent
  by_cases h : power < 0 <;> simp [h]

theorem scaled_signedExponent {power : ℤ} (hpower : power.natAbs ≤ exponentLimit) (c : Nat)
    (point : ℤ) :
    scaled? negative c point (some (signedExponent power)) =
      decimal? negative c (point + power) := by
  have hsize : (signedExponent power).size = power.natAbs := Nat.ofDigitChars_ten_toDigits
  rw [scaled?, hsize, if_neg (by omega), isDown_signedExponent]
  congr 1
  split
  · next h =>
    have hneg : power < 0 := of_decide_eq_true h
    omega
  · next h =>
    have hnonneg : ¬ power < 0 := fun hneg => h (decide_eq_true hneg)
    omega

include hlt in
/-- The point stands after the first digit, and an exponent follows. -/
theorem form_scientific (hd : 0 < d) {power : ℤ} (hpower : power.natAbs ≤ exponentLimit) :
    ∃ f : NumberForm, f.negative = negative ∧ f.body = scientific (decimalDigits d) power ∧
      f.value? = decimal? negative d (power + 1 - (decimalDigits d).length) := by
  have hdigits := digits_decimalDigits d
  have hhead := head_decimalDigits hd
  have hvalue : Nat.ofDigitChars 10 (decimalDigits d) 0 = d := Nat.ofDigitChars_ten_toDigits
  have htail : (signedExponent power).chars =
      ['e', if power < 0 then '-' else '+'] ++ decimalDigits power.natAbs := rfl
  obtain ⟨c, cs, hcs⟩ := List.exists_cons_of_ne_nil hdigits.1
  rw [hcs] at hdigits hhead hvalue ⊢
  have hc : Digits [c] :=
    ⟨List.cons_ne_nil _ _, List.forall_mem_singleton.mpr (hdigits.2 c List.mem_cons_self)⟩
  have hwhole : IsWhole [c] := .inr ⟨hc, hhead⟩
  cases cs with
  | nil =>
    refine ⟨⟨negative, [c], none, some (signedExponent power), hwhole, fun _ h => nomatch h⟩, rfl,
      ?_, ?_⟩
    · simp [NumberForm.body, NumberForm.fractionChars, NumberForm.exponentChars, scientific, htail]
    · rw [NumberForm.value_of_digits _ (by simpa using hvalue) hlt (.inr (Option.some_ne_none _)),
        scaled_signedExponent negative hpower]
      congr 1
      simp
  | cons c' cs =>
    refine ⟨⟨negative, [c], some (c' :: cs), some (signedExponent power), hwhole, ?_⟩, rfl, ?_, ?_⟩
    · rintro ds ⟨⟩
      exact ⟨List.cons_ne_nil _ _, fun e he => hdigits.2 e (List.mem_cons_of_mem c he)⟩
    · simp [NumberForm.body, NumberForm.fractionChars, NumberForm.exponentChars, scientific, htail]
    · rw [NumberForm.value_of_digits _ (by simpa using hvalue) hlt (.inl (Option.some_ne_none _)),
        scaled_signedExponent negative hpower]
      congr 1
      simp only [Option.getD_some, List.length_cons]
      omega

end Layouts

/-! ### A written number -/

theorem midpoint_lt_of_finite {m : Nat} (hm : m < Double.infinityMagnitude) :
    Double.midpoint m < (2 : ℚ) ^ (1024 : ℤ) := by
  obtain ⟨e, he⟩ : ∃ e : Nat, e = 2046 := ⟨_, rfl⟩
  have hinfinity : Double.infinityMagnitude = e * 2 ^ 52 + 2 ^ 52 := by
    rw [Double.infinityMagnitude]
    omega
  have hsteps : Double.stepsTo Double.infinityMagnitude = 2 ^ 52 * 2 ^ e := by
    rw [hinfinity]
    exact Double.stepsTo_multiple (by omega) (.inr (Nat.le_refl _))
  have hvalue : (Double.stepsTo Double.infinityMagnitude : ℚ) * Double.step = 2 ^ (1024 : ℤ) := by
    rw [hsteps, Double.step, Nat.cast_mul, Nat.cast_pow, Nat.cast_pow, Nat.cast_two, ← zpow_natCast,
      ← zpow_natCast, ← zpow_add₀ two_ne_zero, ← zpow_add₀ two_ne_zero,
      show ((52 : Nat) : ℤ) + e + -1074 = 1024 by omega]
  rw [← hvalue]
  refine (Double.midpoint_lt_stepsTo m).trans_le ?_
  refine mul_le_mul_of_nonneg_right ?_ Double.step_pos.le
  exact_mod_cast Double.stepsTo_strictMono.monotone hm

theorem midpoint_zero : Double.midpoint 0 = (2 : ℚ) ^ (-1075 : ℤ) := by
  have hsteps : Double.stepsTo (0 + 1) = 1 := by decide
  rw [Double.midpoint, Double.stepsTo_zero, hsteps, Double.step,
    show (-1075 : ℤ) = -1074 - 1 from rfl, zpow_sub_one₀ (two_ne_zero : (2 : ℚ) ≠ 0),
    Nat.cast_zero, Nat.cast_one, zero_add, one_div, mul_comm]

/-- What is written for a number that is not zero is not zero. -/
theorem shortest_digits_pos {x : Double} (hx : x.magnitude ≠ 0) (hfinite : x.isFinite = true) :
    0 < x.shortest.digits := by
  have hlow := (Double.shortest_spec hx hfinite).1.midpoint_le (Nat.pos_of_ne_zero hx)
  refine Nat.pos_of_ne_zero fun hzero => ?_
  rw [Double.Decimal.value, hzero, Nat.cast_zero, zero_mul] at hlow
  exact absurd hlow (not_le.mpr (Double.midpoint_pos 0))

/-- **The scale of a written number** is within reach of the powers of ten, or a little below. -/
theorem scale_bounds {x : Double} (hx : x.magnitude ≠ 0) (hfinite : x.isFinite = true) :
    -341 ≤ x.shortest.scale ∧ x.shortest.scale ≤ 308 := by
  obtain ⟨hround, hdigits⟩ := Double.shortest_spec hx hfinite
  have hpos : (1 : ℚ) ≤ x.shortest.digits := by exact_mod_cast shortest_digits_pos hx hfinite
  have hpow : (0 : ℚ) < 10 ^ x.shortest.scale := zpow_pos (by norm_num) _
  have hten : (1 : ℚ) < 10 := by norm_num
  constructor
  · by_contra hlt
    have hlow := hround.midpoint_le (Nat.pos_of_ne_zero hx)
    have hvalue : x.shortest.value ≤ 10 ^ (-325 : ℤ) := calc
      x.shortest.value ≤ 10 ^ (17 : ℤ) * 10 ^ x.shortest.scale :=
        mul_le_mul_of_nonneg_right (by exact_mod_cast hdigits) hpow.le
      _ = 10 ^ (17 + x.shortest.scale) := (zpow_add₀ (by norm_num) _ _).symm
      _ ≤ 10 ^ (-325 : ℤ) := zpow_le_zpow_right₀ hten.le (by omega)
    have htiny : (10 : ℚ) ^ (-325 : ℤ) ≤ 2 ^ (-1076 : ℤ) :=
      (Double.ten_zpow_le_two_zpow_iff _ _).mpr (by decide +kernel)
    have hless : (2 : ℚ) ^ (-1076 : ℤ) < 2 ^ (-1075 : ℤ) :=
      zpow_lt_zpow_right₀ one_lt_two (by omega)
    rw [midpoint_zero] at hlow
    exact absurd hlow (not_le.mpr ((hvalue.trans htiny).trans_lt hless))
  · by_contra hlt
    have hhigh := hround.le_midpoint.trans_lt
      (midpoint_lt_of_finite (by simpa [Double.isFinite] using hfinite))
    have hvalue : (10 : ℚ) ^ (309 : ℤ) ≤ x.shortest.value := calc
      (10 : ℚ) ^ (309 : ℤ) ≤ 10 ^ x.shortest.scale := zpow_le_zpow_right₀ hten.le (by omega)
      _ = 1 * 10 ^ x.shortest.scale := (one_mul _).symm
      _ ≤ x.shortest.value := mul_le_mul_of_nonneg_right hpos hpow.le
    have hhuge : (10 : ℚ) ^ (-309 : ℤ) ≤ 2 ^ (-1024 : ℤ) :=
      (Double.ten_zpow_le_two_zpow_iff _ _).mpr (by decide +kernel)
    rw [zpow_neg, zpow_neg, inv_le_inv₀ (zpow_pos (by norm_num) _) (zpow_pos two_pos _)] at hhuge
    exact absurd hhigh (not_lt.mpr (hhuge.trans hvalue))

theorem length_decimalDigits_le {n k : Nat} (hk : 0 < k) (hn : n < 10 ^ k) :
    (decimalDigits n).length ≤ k :=
  (Nat.length_toDigits_le_iff (by omega) hk).mpr hn

/-- A decimal in its layout. -/
theorem layout_form {d : Double.Decimal} (hpos : 0 < d.digits) (hdigits : d.digits ≤ 10 ^ 17)
    (hscale : d.scale.natAbs ≤ 400) (negative : Bool) :
    ∃ f : NumberForm, f.negative = negative ∧ f.body = d.layout ∧
      f.value? = decimal? negative d.noted.digits d.noted.scale := by
  have hnoted := Double.Decimal.noted_digits_lt hdigits
  have hlength : (decimalDigits d.digits).length ≤ 18 :=
    length_decimalDigits_le (by omega) (hdigits.trans_lt (by decide))
  have hlt : d.digits < 2 ^ 64 := by omega
  have hne : 0 < (decimalDigits d.digits).length :=
    List.length_pos_of_ne_nil (digits_decimalDigits _).1
  have hplace : d.place = d.scale + (decimalDigits d.digits).length := rfl
  rw [Double.Decimal.layout]
  by_cases hwhole : 0 ≤ d.scale ∧ d.place ≤ 16
  · rw [Double.Decimal.noted, if_pos hwhole] at hnoted ⊢
    rw [if_pos (by omega), positional, if_neg (by omega), if_pos (by omega),
      show d.place.toNat - (decimalDigits d.digits).length = d.scale.toNat by omega]
    exact form_whole negative hpos hnoted
  · rw [Double.Decimal.noted, if_neg hwhole]
    have hpoint : d.scale = d.place - (decimalDigits d.digits).length := by omega
    rw [hpoint]
    by_cases hpositional : -5 < d.place ∧ d.place ≤ 16
    · rw [if_pos hpositional, positional]
      by_cases hbelow : d.place ≤ 0
      · rw [if_pos hbelow]
        exact form_below_one hlt negative hbelow
      · rw [if_neg hbelow, if_neg (by omega)]
        have hstart : 0 < d.place.toNat := by omega
        have hform := form_mixed hlt negative hpos hstart (by omega)
        rwa [Int.toNat_of_nonneg (by omega)] at hform
    · rw [if_neg hpositional]
      have hpower : (d.place - 1).natAbs ≤ exponentLimit := by
        rw [exponentLimit]
        omega
      have hform := form_scientific hlt negative hpos hpower
      rwa [sub_add_cancel] at hform

/-- **A written number is one of the grammar**, worth its significand scaled by its exponent. -/
theorem dataChars_form {x : Double} (hfinite : x.isFinite = true) :
    ∃ f : NumberForm, f.chars = x.dataChars ∧
      f.value? = decimal? x.isNegative x.noted.digits x.noted.scale := by
  by_cases hx : x.magnitude = 0
  · have hnoted : x.noted = ⟨0, -1⟩ := by
      rw [Double.noted, Double.shortest, if_pos hx]
      rfl
    have hchars : x.dataChars = x.signChars ++ ['0', '.', '0'] := by
      rw [Double.dataChars, if_pos hx]
    refine ⟨⟨x.isNegative, ['0'], some ['0'], none, .inl rfl, ?_⟩, ?_, ?_⟩
    · rintro ds ⟨⟩
      exact ⟨List.cons_ne_nil _ _, List.forall_mem_singleton.mpr rfl⟩
    · rw [hchars, NumberForm.chars, Double.signChars]
      cases x.isNegative <;> rfl
    · rw [hnoted]
      rfl
  · obtain ⟨hlow, hhigh⟩ := scale_bounds hx hfinite
    obtain ⟨f, hnegative, hbody, hvalue⟩ := layout_form (shortest_digits_pos hx hfinite)
      (Double.shortest_spec hx hfinite).2 (by omega) x.isNegative
    refine ⟨f, ?_, hvalue⟩
    rw [NumberForm.chars, hnegative, hbody, Double.dataChars_eq hx, Double.signChars]
    cases x.isNegative <;> rfl

/-! ### The number that is read -/

end Json

/-- What the reader makes of a number in the data notation. -/
def Double.reread (x : Double) : Double :=
  match Json.numeral x.dataChars with
  | .ok (n, _) => n.toDouble
  | .error _ => x

/-- How many magnitudes the reader may miss a number by. -/
def Double.slack (x : Double) : Nat := if x.noted.scale < -308 then 3 else 2

namespace Json

open Double (Near RoundsTo infinityMagnitude)

/-- The two largest numbers are read as numbers. -/
theorem largest_scaled : ∀ k < 2, ∀ negative : Bool,
    let x := Double.ofMagnitude negative (infinityMagnitude - 1 - k)
    (scaleBy (.ofNat x.noted.digits) x.noted.scale 3).isSome = true := by
  decide +kernel

variable {x : Double}

theorem noted_roundsTo (hx : x.magnitude ≠ 0) (hfinite : x.isFinite = true) :
    RoundsTo x.noted.value x.magnitude := by
  rw [Double.noted, Double.Decimal.noted_value]
  exact (Double.shortest_spec hx hfinite).1

theorem noted_digits_pos (hx : x.magnitude ≠ 0) (hfinite : x.isFinite = true) :
    0 < x.noted.digits := by
  have hpos := shortest_digits_pos hx hfinite
  unfold Double.noted Double.Decimal.noted
  split
  · exact Nat.mul_pos hpos (Nat.pow_pos (by omega))
  · exact hpos

theorem noted_scale_bounds (hx : x.magnitude ≠ 0) (hfinite : x.isFinite = true) :
    -341 ≤ x.noted.scale ∧ x.noted.scale ≤ 308 := by
  have hbounds := scale_bounds hx hfinite
  unfold Double.noted Double.Decimal.noted
  split
  · exact ⟨(by decide : (-341 : ℤ) ≤ -1), (by decide : (-1 : ℤ) ≤ 308)⟩
  · exact hbounds

/-- Within reach of the powers a number is scaled to one, whichever it is. -/
theorem noted_scaled_isSome (hx : x.magnitude ≠ 0) (hfinite : x.isFinite = true)
    (hscale : x.noted.scale.natAbs ≤ 308) :
    ∃ y, scaleBy (.ofNat x.noted.digits) x.noted.scale 3 = some y := by
  by_cases hlarge : x.magnitude + 2 < infinityMagnitude
  · exact scaleBy_isSome (noted_digits_pos hx hfinite)
      (Double.Decimal.noted_digits_lt (Double.shortest_spec hx hfinite).2) hscale
      (noted_roundsTo hx hfinite) hlarge
  · have hlt : x.magnitude < infinityMagnitude := by simpa [Double.isFinite] using hfinite
    have htop : infinityMagnitude < 2 ^ 63 := by decide
    obtain ⟨k, hk, hmagnitude⟩ : ∃ k < 2, x.magnitude = infinityMagnitude - 1 - k :=
      ⟨infinityMagnitude - 1 - x.magnitude, by omega, by omega⟩
    have hsame : x = Double.ofMagnitude x.isNegative (infinityMagnitude - 1 - k) := by
      refine Double.eq_of_magnitude ?_ ?_
      · rw [Double.isNegative_ofMagnitude (by omega)]
      · rw [Double.magnitude_ofMagnitude (by omega), hmagnitude]
    have hsome := largest_scaled k hk x.isNegative
    rw [← hsame] at hsome
    exact Option.isSome_iff_exists.mp hsome

/-- **A written number is scaled to a number that is near to it.** -/
theorem noted_scaled (hx : x.magnitude ≠ 0) (hfinite : x.isFinite = true) :
    ∃ y, scaleBy (.ofNat x.noted.digits) x.noted.scale 3 = some y ∧
      Near x.slack x.noted.value y.magnitude := by
  have hpos := noted_digits_pos hx hfinite
  have hlt := Double.Decimal.noted_digits_lt (Double.shortest_spec hx hfinite).2
  obtain ⟨hlow, hhigh⟩ := noted_scale_bounds hx hfinite
  unfold Double.slack
  split
  · next hfar =>
    obtain ⟨n, hn⟩ : ∃ n : Nat, x.noted.scale = -(308 + n : Nat) :=
      ⟨(-308 - x.noted.scale).toNat, by omega⟩
    rw [Double.Decimal.value, hn]
    exact scaleBy_near_far hpos hlt (by omega) (by omega)
  · obtain ⟨y, hy⟩ := noted_scaled_isSome hx hfinite (by omega)
    exact ⟨y, hy, scaleBy_near hpos hlt (by omega) hy⟩

theorem zero_scaled (hx : x.magnitude = 0) :
    scaleBy (.ofNat x.noted.digits) x.noted.scale 3 = some .zero := by
  have hnoted : x.noted = ⟨0, -1⟩ := by
    rw [Double.noted, Double.shortest, if_pos hx]
    rfl
  rw [hnoted]
  decide +kernel

/-- The reader takes the sign from the text and the rest from scaling. -/
theorem numeral_dataChars (hfinite : x.isFinite = true) {y : Double}
    (hy : scaleBy (.ofNat x.noted.digits) x.noted.scale 3 = some y) :
    x.reread = (if x.isNegative then y.neg else y) ∧
      ∀ rest, Ends rest → numeral (x.dataChars ++ rest) = .ok (.real x.reread, rest) := by
  obtain ⟨f, hchars, hvalue⟩ := dataChars_form hfinite
  rw [decimal?, hy, Option.map_some] at hvalue
  have hread : ∀ rest, Ends rest → numeral (x.dataChars ++ rest) =
      .ok (.real (if x.isNegative then y.neg else y), rest) := by
    intro rest hrest
    rw [← hchars]
    exact numeral_complete hvalue hrest
  have hreread : x.reread = (if x.isNegative then y.neg else y) := by
    have hnil := hread [] .nil
    rw [List.append_nil] at hnil
    rw [Double.reread, hnil]
    rfl
  exact ⟨hreread, fun rest hrest => hreread ▸ hread rest hrest⟩

end Json

namespace Double

open Json

variable {x : Double}

/-- What the reader ends at, before the sign. -/
theorem reread_scaled (hfinite : x.isFinite = true) :
    ∃ y, scaleBy (.ofNat x.noted.digits) x.noted.scale 3 = some y ∧
      x.reread = if x.isNegative then y.neg else y := by
  by_cases hx : x.magnitude = 0
  · exact ⟨zero, zero_scaled hx, (numeral_dataChars hfinite (zero_scaled hx)).1⟩
  · obtain ⟨y, hy, _⟩ := noted_scaled hx hfinite
    exact ⟨y, hy, (numeral_dataChars hfinite hy).1⟩

theorem isFinite_of_scaled (hfinite : x.isFinite = true) {y : Double}
    (hy : scaleBy (.ofNat x.noted.digits) x.noted.scale 3 = some y) : y.isFinite = true := by
  by_cases hx : x.magnitude = 0
  · rw [zero_scaled hx] at hy
    cases hy
    exact zero_isFinite
  · exact isFinite_scaleBy
      (isFinite_ofNat (Decimal.noted_digits_lt (shortest_spec hx hfinite).2)) hy

theorem magnitude_lt {y : Double} (h : y.isFinite = true) : y.magnitude < 2 ^ 63 := by
  rw [isFinite, decide_eq_true_eq] at h
  exact h.trans (by decide)

/-- A number is read with the sign that was written and the magnitude it was scaled to. -/
theorem reread_parts (hfinite : x.isFinite = true) {y : Double}
    (hy : scaleBy (.ofNat x.noted.digits) x.noted.scale 3 = some y) :
    x.reread.isNegative = x.isNegative ∧ x.reread.magnitude = y.magnitude := by
  have hlt := magnitude_lt (isFinite_of_scaled hfinite hy)
  have hsign : y.isNegative = false := (isNegative_scaleBy hy).trans (isNegative_ofRatio _ _ _)
  rw [(numeral_dataChars hfinite hy).1]
  cases x.isNegative with
  | false => exact ⟨hsign, rfl⟩
  | true =>
    rw [if_pos rfl, neg, hsign]
    exact ⟨isNegative_ofMagnitude hlt _, magnitude_ofMagnitude hlt _⟩

/-- **Every written number is read as a finite one.** -/
theorem isFinite_reread (hfinite : x.isFinite = true) : x.reread.isFinite = true := by
  obtain ⟨y, hy, _⟩ := reread_scaled hfinite
  have h := isFinite_of_scaled hfinite hy
  rw [isFinite, (reread_parts hfinite hy).2]
  exact h

/-- **The sign stays.** -/
theorem isNegative_reread (hfinite : x.isFinite = true) : x.reread.isNegative = x.isNegative := by
  obtain ⟨y, hy, _⟩ := reread_scaled hfinite
  exact (reread_parts hfinite hy).1

/-- **A number is missed by few magnitudes.** -/
theorem reread_near (hfinite : x.isFinite = true) :
    x.reread.magnitude ≤ x.magnitude + x.slack ∧ x.magnitude ≤ x.reread.magnitude + x.slack := by
  by_cases hx : x.magnitude = 0
  · rw [(reread_parts hfinite (zero_scaled hx)).2, hx]
    exact ⟨Nat.zero_le _, Nat.zero_le _⟩
  · obtain ⟨y, hy, hnear⟩ := noted_scaled hx hfinite
    obtain ⟨hbelow, habove⟩ := hnear.distance (noted_roundsTo hx hfinite)
    rw [(reread_parts hfinite hy).2]
    exact ⟨habove, hbelow⟩

/-- The digits of a number in the data notation, read as a natural, are a number themselves, and
    so is the power of ten that they are scaled by. -/
def IsPlain (x : Double) : Prop :=
  (ofNat x.noted.digits).size = x.noted.digits ∧ x.noted.scale.natAbs ≤ 22

/-- **A plain number is read back bit for bit.** -/
theorem reread_of_isPlain (hfinite : x.isFinite = true) (h : x.IsPlain) : x.reread = x := by
  by_cases hx : x.magnitude = 0
  · obtain ⟨hsign, hmagnitude⟩ := reread_parts hfinite (zero_scaled hx)
    exact eq_of_magnitude hsign (hmagnitude.trans hx.symm)
  · obtain ⟨y, hy, _⟩ := noted_scaled hx hfinite
    obtain ⟨hsign, hmagnitude⟩ := reread_parts hfinite hy
    have hexact := scaleBy_exact h.1 (Decimal.noted_digits_lt (shortest_spec hx hfinite).2) h.2 hy
    exact eq_of_magnitude hsign (hmagnitude.trans (hexact.unique (noted_roundsTo hx hfinite)))

/-- Numbers are plain if they are written with digits up to `2^53`. -/
theorem isPlain_of_digits_le (hdigits : x.noted.digits ≤ 2 ^ 53)
    (hscale : x.noted.scale.natAbs ≤ 22) : x.IsPlain := by
  refine ⟨?_, hscale⟩
  rcases Nat.eq_zero_or_pos x.noted.digits with hzero | hpos
  · have hsize : (ofNat 0).size = 0 := by
      have hsteps : stepsTo (ofNat 0).magnitude = 0 := by decide
      rw [size, hsteps, Nat.cast_zero, zero_mul]
    rw [hzero, hsize, Nat.cast_zero]
  · exact ofNat_size hpos hdigits

end Double

end DetectionJobs
