/-
  DetectionJobs/Proofs/Time/Written.lean
  ======================================
  **A moment is read back from its written form, as the moment that the form shows.**

  The reader takes more than the written form, so that there is one lemma for each field:
  the reader of the field takes exactly its digits, whatever follows.  Years beyond four
  digits carry a sign, and fractions have as many digits as they need; both are read with
  the same lemma on numbers.  A leap second is shown at the end of a minute only.
-/
import DetectionJobs.Job.Prediction
import DetectionJobs.Proofs.Json.Written

namespace DetectionJobs

namespace Instant

open Text (isBlank)

/-- A moment that a clock shows: within the calendar, and not in a leap second. -/
def IsClock (t : Instant) : Prop := t.IsValid ∧ t.nano < 1000000000

instance (t : Instant) : Decidable t.IsClock := by unfold IsClock; infer_instance

/-! ### Digits -/

theorem isDigit_padded {width n : Nat} : ∀ d ∈ padded width n, d.isDigit = true := by
  intro d hd
  rcases List.mem_append.mp hd with h | h
  · rw [List.eq_of_mem_replicate h]
    rfl
  · exact Nat.isDigit_of_mem_toDigits (by omega) (by omega) h

theorem ofDigitChars_padded (width n : Nat) : Nat.ofDigitChars 10 (padded width n) 0 = n := by
  simp [padded, Nat.ofDigitChars_append]

theorem padded_ne_nil (width n : Nat) : padded width n ≠ [] := by
  simp [padded]

/-- A number that fits takes exactly the digits that it is given. -/
theorem length_padded (width : Nat) {n : Nat} (hwidth : 0 < width) (hn : n < 10 ^ width) :
    (padded width n).length = width := by
  have := (Nat.length_toDigits_le_iff (b := 10) (by omega) hwidth).mpr hn
  simp only [padded, List.length_append, List.length_replicate]
  omega

theorem not_isBlank_of_isDigit {d : Char} (h : d.isDigit = true) : isBlank d = false := by
  simp only [Char.isDigit, Bool.and_eq_true, decide_eq_true_eq, ge_iff_le, UInt32.le_iff_toNat_le]
    at h
  obtain ⟨hlow, hhigh⟩ := h
  have h48 : 48 ≤ d.toNat := hlow
  have h57 : d.toNat ≤ 57 := hhigh
  simp only [isBlank, Bool.or_eq_false_iff, Bool.and_eq_false_iff, decide_eq_false_iff_not,
    beq_eq_false_iff_ne]
  omega

theorem dropWhile_blank_digits {ds : List Char} (hds : ∀ d ∈ ds, d.isDigit = true)
    (hne : ds ≠ []) (rest : List Char) : (ds ++ rest).dropWhile isBlank = ds ++ rest := by
  obtain ⟨d, tail, rfl⟩ := List.exists_cons_of_ne_nil hne
  have hd := not_isBlank_of_isDigit (hds d List.mem_cons_self)
  simp [hd]

/-- Digits are read as their number if none of those that follow is within the limit. -/
theorem number_digits {ds rest : List Char} {limit n : Nat} (hds : ∀ d ∈ ds, d.isDigit = true)
    (hne : ds ≠ []) (hlimit : ds.length ≤ limit)
    (hrest : (rest.take (limit - ds.length)).takeWhile Char.isDigit = [])
    (hvalue : Nat.ofDigitChars 10 ds 0 = n) (hn : n < 2 ^ 63) :
    number limit (ds ++ rest) = .ok (n, rest) := by
  obtain ⟨d, tail, rfl⟩ := List.exists_cons_of_ne_nil hne
  have htake : (((d :: tail) ++ rest).take limit).takeWhile Char.isDigit = d :: tail := by
    rw [List.take_append, List.take_of_length_le hlimit, List.takeWhile_append_of_pos hds, hrest,
      List.append_nil]
  have hfold : (d :: tail).foldl (fun n d => 10 * n + (d.toNat - 48)) 0 = n := hvalue
  have hlt : ¬ 2 ^ 63 ≤ n := by omega
  rw [List.cons_append] at htake ⊢
  simp only [number, hds d List.mem_cons_self, Bool.not_true, Bool.false_eq_true, if_false, htake,
    hfold, if_neg hlt]
  rw [← List.cons_append, List.drop_left]

/-! ### Fields -/

theorem field_padded {low high n : Nat} (hlow : low ≤ n) (hhigh : n ≤ high) (hn : n < 100)
    (rest : List Char) : field low high (padded 2 n ++ rest) = .ok (n, rest) := by
  have hlength := length_padded 2 (by omega) hn
  have hnumber : number 2 (padded 2 n ++ rest) = .ok (n, rest) :=
    number_digits isDigit_padded (padded_ne_nil 2 n) (by omega) (by simp [hlength])
      (ofDigitChars_padded 2 n) (by omega)
  rw [field, dropWhile_blank_digits isDigit_padded (padded_ne_nil 2 n), hnumber]
  show (if low ≤ n ∧ n ≤ high then _ else _) = _
  rw [if_pos ⟨hlow, hhigh⟩]

theorem separator_dash (rest : List Char) : separator '-' ('-' :: rest) = .ok ((), rest) := rfl

theorem separator_colon (rest : List Char) : separator ':' (':' :: rest) = .ok ((), rest) := rfl

/-- A signed year takes all of its digits, up to the dash that follows. -/
theorem number_signedYear {n : Nat} (hn : n < 2 ^ 31) (rest : List Char) :
    number (padded 4 n ++ '-' :: rest).length (padded 4 n ++ '-' :: rest) =
      .ok (n, '-' :: rest) := by
  refine number_digits isDigit_padded (padded_ne_nil 4 n) ?_ ?_ (ofDigitChars_padded 4 n)
    (by omega)
  · rw [List.length_append]
    omega
  · cases (padded 4 n ++ '-' :: rest).length - (padded 4 n).length with
    | zero => rfl
    | succ k => rfl

/-- The first step of a reader that succeeded.  It is not unfolded by computation: the bounds
    of a signed year would be counted down in unary. -/
theorem ok_bind (a : α) (f : α → Except ε β) : (Except.ok a >>= f) = f a := (rfl)

theorem year_minus {n : Nat} (hn : n < 2 ^ 31) (rest : List Char) :
    year ('-' :: (padded 4 n ++ '-' :: rest)) = .ok (-(n : Int), '-' :: rest) := by
  have hspace : ('-' :: (padded 4 n ++ '-' :: rest)).dropWhile isBlank =
      '-' :: (padded 4 n ++ '-' :: rest) := rfl
  have hword : (-2 ^ 31 : Int) ≤ -(n : Int) ∧ -(n : Int) < 2 ^ 31 := by omega
  simp only [year, hspace, number_signedYear hn, ok_bind, if_pos hword, pure, Except.pure]

theorem year_plus {n : Nat} (hn : n < 2 ^ 31) (rest : List Char) :
    year ('+' :: (padded 4 n ++ '-' :: rest)) = .ok ((n : Int), '-' :: rest) := by
  have hspace : ('+' :: (padded 4 n ++ '-' :: rest)).dropWhile isBlank =
      '+' :: (padded 4 n ++ '-' :: rest) := rfl
  have hword : (-2 ^ 31 : Int) ≤ (n : Int) ∧ (n : Int) < 2 ^ 31 := by omega
  simp only [year, hspace, number_signedYear hn, ok_bind, if_pos hword, pure, Except.pure]

theorem year_plain {n : Nat} (hn : n < 10 ^ 4) (rest : List Char) :
    year (padded 4 n ++ '-' :: rest) = .ok ((n : Int), '-' :: rest) := by
  have hlength := length_padded 4 (by omega) hn
  have hnumber : number 4 (padded 4 n ++ '-' :: rest) = .ok (n, '-' :: rest) :=
    number_digits isDigit_padded (padded_ne_nil 4 n) (by omega) (by simp [hlength])
      (ofDigitChars_padded 4 n) (by omega)
  obtain ⟨d, ds, hds⟩ := List.exists_cons_of_ne_nil (padded_ne_nil 4 n)
  have hd : d.isDigit = true := isDigit_padded d (by rw [hds]; exact List.mem_cons_self)
  have hspace := dropWhile_blank_digits isDigit_padded (padded_ne_nil 4 n) ('-' :: rest)
  rw [hds, List.cons_append] at hnumber hspace ⊢
  simp only [year, hspace]
  -- a digit is neither of the signs
  split
  · next h => cases h; exact absurd hd (by decide)
  · next h => cases h; exact absurd hd (by decide)
  · simp only [hnumber, bind, Except.bind, pure, Except.pure]

theorem year_yearChars {y : Int} (hlow : Date.firstYear ≤ y) (hhigh : y ≤ Date.lastYear)
    (rest : List Char) : year (yearChars y ++ '-' :: rest) = .ok (y, '-' :: rest) := by
  rw [Date.firstYear] at hlow
  rw [Date.lastYear] at hhigh
  rw [yearChars]
  split
  · have hvalue : -(y.natAbs : Int) = y := by omega
    rw [List.cons_append, year_minus (by omega), hvalue]
  split
  · have hvalue : (y.natAbs : Int) = y := by omega
    rw [List.cons_append, year_plus (by omega), hvalue]
  · have hvalue : (y.natAbs : Int) = y := by omega
    rw [year_plain (by omega), hvalue]

/-- A fraction of `width` digits is read up to the letter that follows. -/
theorem fraction_padded {width n : Nat} (hwidth : 0 < width) (hle : width ≤ 9)
    (hn : n < 10 ^ width) :
    fraction ('.' :: padded width n ++ ['Z']) = .ok (n * 10 ^ (9 - width), ['Z']) := by
  have hlength := length_padded width hwidth hn
  have hbound : n < 2 ^ 63 := by
    have : 10 ^ width ≤ 10 ^ 9 := Nat.pow_le_pow_right (by omega) hle
    omega
  have hnumber : number 9 (padded width n ++ ['Z']) = .ok (n, ['Z']) := by
    refine number_digits isDigit_padded (padded_ne_nil width n) (by omega) ?_
      (ofDigitChars_padded width n) hbound
    cases 9 - (padded width n).length with
    | zero => rfl
    | succ k => cases k <;> rfl
  simp only [fraction, List.cons_append, hnumber, bind, Except.bind, pure, Except.pure,
    List.length_append, hlength, List.length_cons, List.length_nil, Nat.add_sub_cancel]
  rfl

theorem fraction_fractionChars {nano : Nat} (h : nano < 1000000000) :
    fraction (fractionChars nano ++ ['Z']) = .ok (nano, ['Z']) := by
  rw [fractionChars]
  split
  · next h0 => rw [h0]; rfl
  split
  · rw [fraction_padded (by omega) (by omega) (by omega)]
    congr 2
    omega
  split
  · rw [fraction_padded (by omega) (by omega) (by omega)]
    congr 2
    omega
  · rw [fraction_padded (by omega) (by omega) (by omega)]
    congr 2
    omega

/-! ### The whole text -/

/-- A moment whose text shows it: within the calendar, and a leap second only at the end of a
    minute, where it is the sixtieth second. -/
def IsShown (t : Instant) : Prop := t.IsValid ∧ (1000000000 ≤ t.nano → t.second % 60 = 59)

theorem IsClock.isShown {t : Instant} (h : t.IsClock) : t.IsShown :=
  ⟨h.1, fun hleap => absurd h.2 (Nat.not_lt.mpr hleap)⟩

/-- **A moment that its text shows is read back.** -/
theorem read_shown {t : Instant} (h : t.IsShown) : read t.text = .ok t := by
  obtain ⟨⟨hdate, hsecond, hnano⟩, hminute⟩ := h
  obtain ⟨hfirst, hlast, hmonth, hmonth', hday, hday'⟩ := hdate
  have hlength : Date.monthLength t.date.year t.date.month ≤ 31 := by
    unfold Date.monthLength
    repeat' split
    all_goals omega
  have hfraction := fraction_fractionChars (Nat.mod_lt t.nano (by decide : 0 < 1000000000))
  obtain ⟨second, hshown⟩ : ∃ s, s = t.second % 60 + if 1000000000 ≤ t.nano then 1 else 0 :=
    ⟨_, rfl⟩
  have hchars : t.text.toList = yearChars t.date.year ++ '-' :: (padded 2 t.date.month ++
      '-' :: (padded 2 t.date.day ++ 'T' :: (padded 2 (t.second / 3600) ++
        ':' :: (padded 2 (t.second / 60 % 60) ++ ':' :: (padded 2 second ++
          (fractionChars (t.nano % 1000000000) ++ ['Z'])))))) := by
    simp [text, chars, hshown]
  have hoffset : offset (['Z'].dropWhile isBlank) = .ok (0, []) := rfl
  have hvalid : (⟨t.date.year, t.date.month, t.date.day⟩ : Date).IsValid :=
    ⟨hfirst, hlast, hmonth, hmonth', hday, hday'⟩
  have hsixty : second ≤ 60 := by
    rw [hshown]
    split <;> omega
  -- only a leap second is the sixtieth one, and both of its parts are put back
  have hleap : second = 60 ↔ 1000000000 ≤ t.nano := by
    rw [hshown]
    split
    · next h => exact ⟨fun _ => h, fun _ => by rw [hminute h]⟩
    · omega
  have hsum : t.second / 3600 * 3600 + t.second / 60 % 60 * 60 +
      (if second = 60 then 59 else second) = t.second := by
    by_cases h : 1000000000 ≤ t.nano
    · have hlast := hminute h
      rw [if_pos (hleap.mpr h)]
      omega
    · rw [if_neg (mt hleap.mp h), hshown, if_neg h]
      omega
  have hparts : (if second = 60 then t.nano % 1000000000 + 1000000000 else t.nano % 1000000000) =
      t.nano := by
    split <;> omega
  have hlocal : ofLocal t.date t.second t.nano 0 = .ok t := by
    have hnonneg : ¬ (t.second : Int) < 0 := by omega
    have hwithin : ¬ (86400 : Int) ≤ t.second := by omega
    simp [ofLocal, hnonneg, hwithin, hvalid]
  simp only [read, hchars, year_yearChars hfirst hlast, separator_dash, separator_colon, bind,
    Except.bind, field_padded hmonth hmonth' (by omega), field_padded hday (by omega : _ ≤ 31)
      (by omega), field_padded (Nat.zero_le _) (by omega : t.second / 3600 ≤ 23) (by omega),
    field_padded (Nat.zero_le _) (by omega : t.second / 60 % 60 ≤ 59) (by omega),
    field_padded (Nat.zero_le _) hsixty (by omega), hfraction, hoffset, true_or, if_true, hsum,
    hparts, hvalid, decide_true]
  exact hlocal

/-! ### Moments that their text does not show -/

/-- The moment that a text shows: a leap second within a minute looks like the second after it. -/
def shown (t : Instant) : Instant :=
  if 1000000000 ≤ t.nano ∧ t.second % 60 ≠ 59 then
    { t with second := t.second + 1, nano := t.nano - 1000000000 }
  else t

theorem shown_eq {t : Instant} (h : t.IsShown) : t.shown = t := by
  rw [shown, if_neg]
  rintro ⟨hleap, hminute⟩
  exact hminute (h.2 hleap)

theorem isShown_shown {t : Instant} (h : t.IsValid) : t.shown.IsShown := by
  unfold shown
  obtain ⟨hdate, hsecond, hnano⟩ := h
  split
  · refine ⟨⟨hdate, ?_, ?_⟩, ?_⟩ <;> simp only <;> omega
  · exact ⟨⟨hdate, hsecond, hnano⟩, by omega⟩

theorem text_shown (t : Instant) (h : t.IsValid) : t.shown.text = t.text := by
  obtain ⟨hdate, hsecond, hnano⟩ := h
  unfold shown
  split
  · next hleap =>
    have hnot : ¬ 1000000000 ≤ t.nano - 1000000000 := by omega
    have hhour : (t.second + 1) / 3600 = t.second / 3600 := by omega
    have hminute : (t.second + 1) / 60 = t.second / 60 := by omega
    have hmod : (t.second + 1) % 60 = t.second % 60 + 1 := by omega
    have hfraction : (t.nano - 1000000000) % 1000000000 = t.nano % 1000000000 := by omega
    simp only [text, chars, hleap.1, hnot, hhour, hminute, hmod, hfraction, if_true, if_false,
      Nat.add_zero]
  · rfl

/-- **A text is read as the moment that it shows.** -/
theorem read_text_of_isValid {t : Instant} (h : t.IsValid) : read t.text = .ok t.shown := by
  rw [← text_shown t h]
  exact read_shown (isShown_shown h)

end Instant

open Json

theorem instantFormat_reads {t : Instant} (h : t.IsValid) (depth : Nat) :
    instantFormat.Reads depth (.text t.text) t.shown := by
  refine Format.string_reads ?_ depth
  rw [Instant.read_text_of_isValid h]
  rfl

end DetectionJobs
