/-
  DetectionJobs/Proofs/Json/Numbers.lean
  ======================================
  **The scanner of numbers takes the numbers of the grammar, and gives their values.**

  Where a scanner succeeds, the text starts with the parts of a number and what follows
  is no more of it; and on such a text the scanner gives the value of the parts, or fails
  where they have none.  The second fact is an equation, so that it serves both for what
  is taken and for what must be.
-/
import DetectionJobs.Proofs.Json.Tokens

namespace DetectionJobs.Json

/-! ### Runs of digits -/

theorem digits_split (cs : List Char) :
    ∃ ds rest, (∀ d ∈ ds, d.isDigit = true) ∧ startsWithDigit rest = false ∧ cs = ds ++ rest := by
  refine ⟨cs.takeWhile Char.isDigit, cs.dropWhile Char.isDigit,
    List.all_eq_true.mp List.all_takeWhile, ?_, List.takeWhile_append_dropWhile.symm⟩
  have hhead := List.head?_dropWhile_not Char.isDigit cs
  cases h : cs.dropWhile Char.isDigit with
  | nil => rfl
  | cons c rest =>
    rw [h] at hhead
    simpa [startsWithDigit] using hhead

theorem dropWhile_digits {ds rest : List Char} (hds : ∀ d ∈ ds, d.isDigit = true)
    (hrest : startsWithDigit rest = false) : (ds ++ rest).dropWhile Char.isDigit = rest := by
  rw [List.dropWhile_append_of_pos hds]
  cases rest with
  | nil => rfl
  | cons c rest => exact List.dropWhile_cons_of_neg (by simpa [startsWithDigit] using hrest)

theorem startsWithDigit_append {ds rest : List Char} (hds : ∀ d ∈ ds, d.isDigit = true)
    (hrest : startsWithDigit rest = false) :
    startsWithDigit (ds ++ rest) = !ds.isEmpty := by
  cases ds with
  | nil => exact hrest
  | cons d ds => exact hds d List.mem_cons_self

/-- What is gathered from digits does not depend on what follows them. -/
theorem gather_append {ds rest : List Char} (hds : ∀ d ∈ ds, d.isDigit = true)
    (hrest : startsWithDigit rest = false) (n taken : Nat) :
    gather n taken (ds ++ rest) =
      ((gather n taken ds).1, (gather n taken ds).2.1, (gather n taken ds).2.2 ++ rest) := by
  induction ds generalizing n taken with
  | nil =>
    cases rest with
    | nil => rfl
    | cons c rest =>
      rw [startsWithDigit] at hrest
      simp [gather, hrest]
  | cons d ds ih =>
    rw [List.cons_append, gather, gather]
    split
    · exact ih (fun c hc => hds c (List.mem_cons_of_mem d hc)) _ _
    · rfl

/-- The number of digits taken before does not matter to the others. -/
theorem gather_taken (n taken : Nat) (cs : List Char) :
    gather n taken cs = ((gather n 0 cs).1, taken + (gather n 0 cs).2.1, (gather n 0 cs).2.2) := by
  induction cs generalizing n taken with
  | nil => rfl
  | cons c cs ih =>
    rw [gather, gather]
    split
    · rw [ih _ (taken + 1), ih _ (0 + 1)]
      simp only [Prod.mk.injEq, true_and, and_true]
      omega
    · rfl

/-- Digits are taken or left over, from the front. -/
theorem gather_left (n : Nat) (ds : List Char) :
    ds.drop (gather n 0 ds).2.1 = (gather n 0 ds).2.2 := by
  induction ds generalizing n with
  | nil => rfl
  | cons d ds ih =>
    rw [gather]
    split
    · rw [gather_taken, Nat.add_comm (0 + 1)]
      exact ih _
    · rfl

theorem gather_left_digits {ds : List Char} (hds : ∀ d ∈ ds, d.isDigit = true) (n : Nat) :
    ∀ d ∈ (gather n 0 ds).2.2, d.isDigit = true := by
  intro d hd
  rw [← gather_left] at hd
  exact hds d (List.mem_of_mem_drop hd)

/-! ### Exponents -/

theorem exponentDigits_small {ds rest : List Char} (hds : ∀ d ∈ ds, d.isDigit = true)
    (hrest : startsWithDigit rest = false) {n : Nat}
    (h : Nat.ofDigitChars 10 ds n ≤ exponentLimit) :
    exponentDigits n (ds ++ rest) = (some (Nat.ofDigitChars 10 ds n), rest) := by
  induction ds generalizing n with
  | nil =>
    cases rest with
    | nil => rfl
    | cons c rest =>
      rw [startsWithDigit] at hrest
      simp [exponentDigits, hrest]
  | cons d ds ih =>
    rw [Nat.ofDigitChars_cons] at h ⊢
    have hle : 10 * n + digitValue d ≤ exponentLimit := Nat.le_trans (le_ofDigitChars ds _) h
    rw [List.cons_append, exponentDigits, if_pos (hds d List.mem_cons_self)]
    simp only [if_neg (Nat.not_lt.mpr hle)]
    exact ih (fun c hc => hds c (List.mem_cons_of_mem d hc)) h

theorem exponentDigits_large {ds rest : List Char} (hds : ∀ d ∈ ds, d.isDigit = true)
    (hrest : startsWithDigit rest = false) {n : Nat} (hn : n ≤ exponentLimit)
    (h : exponentLimit < Nat.ofDigitChars 10 ds n) :
    ∃ left, exponentDigits n (ds ++ rest) = (none, left) ∧ left.dropWhile Char.isDigit = rest := by
  induction ds generalizing n with
  | nil =>
    rw [Nat.ofDigitChars_nil] at h
    omega
  | cons d ds ih =>
    have hds' : ∀ c ∈ ds, c.isDigit = true := fun c hc => hds c (List.mem_cons_of_mem d hc)
    rw [Nat.ofDigitChars_cons] at h
    rw [List.cons_append, exponentDigits, if_pos (hds d List.mem_cons_self)]
    by_cases hnext : exponentLimit < 10 * n + digitValue d
    · simp only [if_pos hnext]
      exact ⟨_, rfl, dropWhile_digits hds' hrest⟩
    · simp only [if_neg hnext]
      exact ih hds' (Nat.not_lt.mp hnext) h

theorem assemble_toOption (negative : Bool) (significand : Nat) (e : Int) (rest : List Char) :
    (assemble negative significand e rest).toOption =
      (decimal? negative significand e).map (·, rest) := by
  unfold assemble decimal?
  split <;> simp_all [Except.toOption]

/-- The sign of an exponent is taken from its front. -/
theorem exponentPart_sign (e : ExponentForm) (negative : Bool) (significand : Nat) (point : Int)
    (rest : List Char) (hrest : startsWithDigit rest = false) :
    (exponentPart negative significand point (e.sign.toList ++ (e.digits ++ rest))).toOption =
      (scaled? negative significand point (some e)).map (·, rest) := by
  obtain ⟨hne, hds⟩ := e.isDigits
  obtain ⟨d, ds, hcons⟩ := List.exists_cons_of_ne_nil hne
  have hd : d.isDigit = true := hds d (by rw [hcons]; exact List.mem_cons_self)
  unfold exponentPart
  split
  next down digits hsplit =>
  have hpair : down = e.isDown ∧ digits = e.digits ++ rest := by
    rw [ExponentForm.isDown]
    cases hs : e.sign with
    | none =>
      rw [hs, hcons, Option.toList_none, List.nil_append, List.cons_append] at hsplit
      split at hsplit
      · next h => cases h; exact absurd hd (by decide)
      · next h => cases h; exact absurd hd (by decide)
      · cases hsplit; simp [hcons]
    | some c =>
      rw [hs] at hsplit
      rcases e.isSign c hs with rfl | rfl <;> cases hsplit <;> exact ⟨rfl, rfl⟩
  obtain ⟨rfl, rfl⟩ := hpair
  have hdigits : e.digits ++ rest = d :: (ds ++ rest) := by rw [hcons]; rfl
  simp only [hdigits, hd, Bool.not_true, Bool.false_eq_true, if_false, scaled?]
  rw [← hdigits]
  by_cases hlarge : exponentLimit < e.size
  · obtain ⟨left, hread, hleft⟩ := exponentDigits_large hds hrest (Nat.zero_le _) hlarge
    rw [if_pos hlarge, hread]
    simp only [hleft]
    split <;> rfl
  · rw [if_neg hlarge, exponentDigits_small hds hrest (Nat.not_lt.mp hlarge)]
    exact assemble_toOption ..

/-- A sign and what starts with a digit make the front of an exponent. -/
theorem exponent_form {mark : Char} (hmark : isExponentMark mark = true) {sign : Option Char}
    (hsign : ∀ c ∈ sign, c = '+' ∨ c = '-') {digits : List Char}
    (hdigits : startsWithDigit digits = true) :
    ∃ (e : ExponentForm) (rest : List Char), startsWithDigit rest = false ∧
      digits.dropWhile Char.isDigit = rest ∧ mark :: (sign.toList ++ digits) = e.chars ++ rest := by
  obtain ⟨ds, rest, hds, hrest, rfl⟩ := digits_split digits
  rw [startsWithDigit_append hds hrest] at hdigits
  refine ⟨⟨mark, sign, ds, hmark, hsign, by simpa using hdigits, hds⟩, rest, hrest,
    dropWhile_digits hds hrest, ?_⟩
  simp [ExponentForm.chars]

/-- An exponent that is read has a form. -/
theorem exponentPart_shape {negative : Bool} {significand : Nat} {point : Int} {cs : List Char}
    {r : Numeral × List Char} (h : exponentPart negative significand point cs = .ok r)
    {mark : Char} (hmark : isExponentMark mark = true) :
    ∃ (e : ExponentForm) (rest : List Char), startsWithDigit rest = false ∧
      mark :: cs = e.chars ++ rest := by
  unfold exponentPart at h
  split at h
  next down digits hsplit =>
  have hdigits : startsWithDigit digits = true := by
    split at h
    · cases h
    · next c _ =>
      cases hc : c.isDigit with
      | true => exact hc
      | false => simp [hc] at h
  have hform : ∃ sign : Option Char, (∀ c ∈ sign, c = '+' ∨ c = '-') ∧
      cs = sign.toList ++ digits := by
    split at hsplit
    · cases hsplit; exact ⟨some '-', by simp, rfl⟩
    · cases hsplit; exact ⟨some '+', by simp, rfl⟩
    · cases hsplit; exact ⟨none, by simp, rfl⟩
  obtain ⟨sign, hsign, rfl⟩ := hform
  obtain ⟨e, rest, hrest, _, hcs⟩ := exponent_form hmark hsign hdigits
  exact ⟨e, rest, hrest, hcs⟩

/-! ### Fractions -/

/-- Nothing follows that could still belong to an exponent, or be one. -/
def NoExponent (x : Option ExponentForm) (rest : List Char) : Prop :=
  startsWithDigit rest = false ∧ (x = none → ∀ c ∈ rest.head?, isExponentMark c = false)

theorem not_digit_of_mark {c : Char} (h : isExponentMark c = true) :
    c.isDigit = false ∧ c ≠ '.' := by
  simp only [isExponentMark, Bool.or_eq_true, decide_eq_true_eq] at h
  rcases h with rfl | rfl <;> decide

theorem withExponent_toOption {x : Option ExponentForm} {rest : List Char}
    (hrest : NoExponent x rest) (negative : Bool) (significand : Nat) (point : Int) :
    (withExponent negative significand point (x.elim [] ExponentForm.chars ++ rest)).toOption =
      (scaled? negative significand point x).map (·, rest) := by
  obtain ⟨hdigit, hmark⟩ := hrest
  cases x with
  | some e =>
    simp only [Option.elim, ExponentForm.chars, List.cons_append, List.append_assoc, withExponent,
      e.isMark, if_true]
    exact exponentPart_sign e negative significand point rest hdigit
  | none =>
    simp only [Option.elim, List.nil_append, scaled?]
    cases rest with
    | nil => exact assemble_toOption ..
    | cons c rest =>
      simp only [withExponent, hmark rfl c rfl, Bool.false_eq_true, if_false]
      exact assemble_toOption ..

theorem withExponent_shape {negative : Bool} {significand : Nat} {point : Int} {cs : List Char}
    {r : Numeral × List Char} (h : withExponent negative significand point cs = .ok r)
    (hdigit : startsWithDigit cs = false) :
    ∃ (x : Option ExponentForm) (rest : List Char), NoExponent x rest ∧
      cs = x.elim [] ExponentForm.chars ++ rest := by
  cases cs with
  | nil => exact ⟨none, [], ⟨rfl, fun _ _ hc => nomatch hc⟩, rfl⟩
  | cons c cs =>
    simp only [withExponent] at h
    split at h
    · next hmark =>
      obtain ⟨e, rest, hrest, hcs⟩ := exponentPart_shape h hmark
      exact ⟨some e, rest, ⟨hrest, fun h => nomatch h⟩, hcs⟩
    · next hmark =>
      refine ⟨none, c :: cs, ⟨hdigit, fun _ d hd => ?_⟩, rfl⟩
      cases hd
      simpa using hmark

theorem fractionPart_digits {ds rest : List Char} (hds : Digits ds)
    (hrest : startsWithDigit rest = false) (negative : Bool) (significand : Nat) (point : Int) :
    fractionPart negative significand point (ds ++ rest) =
      withExponent negative (gather significand 0 ds).1 (point - (gather significand 0 ds).2.1)
        rest := by
  have hleft := gather_left_digits hds.2 significand
  have htaken := gather_left significand ds
  simp only [fractionPart, gather_append hds.2 hrest, startsWithDigit_append hleft hrest,
    dropWhile_digits hleft hrest]
  cases hcases : (gather significand 0 ds).2.2 with
  | cons d left => rfl
  | nil =>
    have hpos : (gather significand 0 ds).2.1 ≠ 0 := by
      intro hzero
      rw [hcases, hzero, List.drop_zero] at htaken
      exact hds.1 htaken
    simp [hpos]

theorem fractionPart_shape {negative : Bool} {significand : Nat} {point : Int} {cs : List Char}
    {r : Numeral × List Char} (h : fractionPart negative significand point cs = .ok r) :
    ∃ ds, Digits ds ∧ ∃ (x : Option ExponentForm) (rest : List Char), NoExponent x rest ∧
      cs = ds ++ (x.elim [] ExponentForm.chars ++ rest) := by
  obtain ⟨ds, tail, hds, htail, rfl⟩ := digits_split cs
  have hne : ds ≠ [] := by
    rintro rfl
    have hgather := gather_append hds htail significand 0
    simp only [fractionPart, hgather] at h
    simp [gather, htail] at h
  rw [fractionPart_digits ⟨hne, hds⟩ htail] at h
  obtain ⟨x, rest, hrest, rfl⟩ := withExponent_shape h htail
  exact ⟨ds, ⟨hne, hds⟩, x, rest, hrest, rfl⟩

/-! ### Whole numbers -/

/-- What may stand in front of the point. -/
abbrev IsWhole (ds : List Char) : Prop := ds = ['0'] ∨ Digits ds ∧ ds.head? ≠ some '0'

theorem IsWhole.digits {ds : List Char} (h : IsWhole ds) : Digits ds := by
  rcases h with rfl | h
  · exact ⟨List.cons_ne_nil _ _, List.forall_mem_singleton.mpr rfl⟩
  · exact h.1

/-- A whole number of more than one digit does not start with zero. -/
theorem IsWhole.no_leading_zero {d : Char} {ds rest : List Char} (h : IsWhole (d :: ds))
    (hrest : startsWithDigit rest = false) :
    ¬ (d = '0' ∧ startsWithDigit (ds ++ rest) = true) := by
  rintro ⟨rfl, hdigit⟩
  rcases h with h | ⟨_, hhead⟩
  · obtain rfl : ds = [] := (List.cons.inj h).2
    rw [List.nil_append, hrest] at hdigit
    cases hdigit
  · exact hhead rfl

theorem head_ne {cs : List Char} {d : Char} (h : ¬ ∃ tail, cs = d :: tail) :
    ∀ c ∈ cs.head?, c ≠ d := by
  rintro c hc rfl
  exact h (List.head?_eq_some_iff.mp hc)

theorem digitValue_lt {d : Char} (h : d.isDigit = true) : digitValue d < 10 := by
  simp only [Char.isDigit, Bool.and_eq_true, decide_eq_true_eq, UInt32.le_iff_toNat_le] at h
  have h9 : d.val.toNat ≤ 57 := h.2
  rw [digitValue, Char.toNat]
  omega

theorem unsigned_whole {ds rest : List Char} (hds : IsWhole ds)
    (hrest : startsWithDigit rest = false) (negative : Bool) :
    unsigned negative (ds ++ rest) =
      if (gather 0 0 ds).2.2 = [] then afterDigits negative (gather 0 0 ds).1 rest
      else afterManyDigits negative (gather 0 0 ds).1 ((gather 0 0 ds).2.2 ++ rest) := by
  rcases hds with rfl | ⟨⟨hne, hdigits⟩, hhead⟩
  · have hzero : gather 0 0 ['0'] = (0, 1, []) := by decide
    rw [hzero, List.singleton_append, unsigned, if_pos rfl]
    simp [hrest]
  · obtain ⟨d, ds, rfl⟩ := List.exists_cons_of_ne_nil hne
    have hd : d.isDigit = true := hdigits d List.mem_cons_self
    have hds : ∀ c ∈ ds, c.isDigit = true := fun c hc => hdigits c (List.mem_cons_of_mem d hc)
    have hd0 : d ≠ '0' := fun h => hhead (congrArg some h)
    have hfirst : gather 0 0 (d :: ds) = gather (digitValue d) (0 + 1) ds := by
      have hlt := digitValue_lt hd
      rw [gather, if_pos ⟨hd, by omega⟩, Nat.mul_zero, Nat.zero_add]
    rw [hfirst, gather_taken (digitValue d) (0 + 1), List.cons_append, unsigned, if_neg hd0,
      if_pos hd]
    simp only [gather_append hds hrest,
      startsWithDigit_append (gather_left_digits hds (digitValue d)) hrest]
    cases (gather (digitValue d) 0 ds).2.2 <;> rfl

theorem afterManyDigits_point {left tail : List Char} (hleft : ∀ d ∈ left, d.isDigit = true)
    (negative : Bool) (significand : Nat) :
    afterManyDigits negative significand (left ++ '.' :: tail) =
      fractionPart negative significand left.length tail := by
  have hlength : ((left ++ '.' :: tail).length : Int) - ('.' :: tail).length = left.length := by
    rw [List.length_append]
    omega
  have hdrop : (left ++ '.' :: tail).dropWhile Char.isDigit = '.' :: tail :=
    dropWhile_digits hleft rfl
  simp only [afterManyDigits, hdrop, hlength]

theorem afterManyDigits_plain {left tail : List Char} (hleft : ∀ d ∈ left, d.isDigit = true)
    (htail : startsWithDigit tail = false) (hpoint : ∀ c ∈ tail.head?, c ≠ '.')
    (negative : Bool) (significand : Nat) :
    afterManyDigits negative significand (left ++ tail) =
      withExponent negative significand left.length tail := by
  have hlength : ((left ++ tail).length : Int) - tail.length = left.length := by
    rw [List.length_append]
    omega
  simp only [afterManyDigits, dropWhile_digits hleft htail, hlength]
  split
  · exact absurd rfl (hpoint '.' rfl)
  · rfl

theorem afterDigits_mark {c : Char} (h : isExponentMark c = true) (negative : Bool)
    (significand : Nat) (rest : List Char) :
    afterDigits negative significand (c :: rest) =
      withExponent negative significand 0 (c :: rest) := by
  unfold afterDigits
  split
  · next heq => cases heq; exact absurd rfl (not_digit_of_mark h).2
  · next heq => cases heq; simp only [h, if_true, withExponent]
  · next heq => cases heq

theorem afterDigits_end {rest : List Char}
    (h : ∀ c ∈ rest.head?, c ≠ '.' ∧ isExponentMark c = false) (negative : Bool)
    (significand : Nat) :
    afterDigits negative significand rest = .ok (wholeNumber negative significand, rest) := by
  unfold afterDigits
  split
  · exact absurd rfl (h '.' rfl).1
  · next c _ _ => simp [(h c rfl).2]
  · rfl

/-- A number that is read starts with its whole part. -/
theorem unsigned_shape {negative : Bool} {cs : List Char} {r : Numeral × List Char}
    (h : unsigned negative cs = .ok r) :
    ∃ ds rest, IsWhole ds ∧ startsWithDigit rest = false ∧ cs = ds ++ rest := by
  cases cs with
  | nil => cases h
  | cons c cs =>
    rw [unsigned] at h
    by_cases hzero : c = '0'
    · subst hzero
      rw [if_pos rfl] at h
      split at h
      · cases h
      · next hrest => exact ⟨['0'], cs, .inl rfl, by simpa using hrest, rfl⟩
    · rw [if_neg hzero] at h
      by_cases hc : c.isDigit = true
      · obtain ⟨ds, rest, hds, hrest, rfl⟩ := digits_split cs
        refine ⟨c :: ds, rest, .inr ⟨⟨List.cons_ne_nil _ _, ?_⟩, ?_⟩, hrest, rfl⟩
        · exact List.forall_mem_cons.mpr ⟨hc, hds⟩
        · simpa using hzero
      · rw [if_neg hc] at h
        cases h

/-! ### Numbers -/

namespace NumberForm

/-- Nothing follows that could still belong to the number. -/
def Stops (f : NumberForm) (rest : List Char) : Prop :=
  NoExponent f.exponent rest ∧
    (f.fraction = none → f.exponent = none → ∀ c ∈ rest.head?, c ≠ '.')

theorem stops_of_ends (f : NumberForm) {rest : List Char} (h : Ends rest) : f.Stops rest :=
  ⟨⟨h.not_number.1, fun _ c hc => (h.not_number.2 c hc).2⟩,
    fun _ _ c hc => (h.not_number.2 c hc).1⟩

theorem exponentChars_not_digit {x : Option ExponentForm} {rest : List Char}
    (h : NoExponent x rest) :
    startsWithDigit (x.elim [] ExponentForm.chars ++ rest) = false := by
  cases x with
  | none => exact h.1
  | some e => exact (not_digit_of_mark e.isMark).1

/-- **A number that ends is read with its value.** -/
theorem unsigned_toOption (f : NumberForm) {rest : List Char} (hrest : f.Stops rest) :
    (unsigned f.negative (f.body ++ rest)).toOption = f.value?.map (·, rest) := by
  obtain ⟨negative, whole, fraction, exponent, isWhole, isFraction⟩ := f
  obtain ⟨hexponent, hpoint⟩ := hrest
  have hstop : startsWithDigit (exponent.elim [] ExponentForm.chars ++ rest) = false :=
    exponentChars_not_digit hexponent
  have hleft := gather_left_digits (IsWhole.digits isWhole).2 0
  simp only [body, fractionChars, exponentChars, List.append_assoc, value?]
  generalize hfirst : (gather 0 0 whole).1 = significand
  generalize hmany : (gather 0 0 whole).2.2 = left at hleft
  cases fraction with
  | some ds =>
    have hds : Digits ds := isFraction ds rfl
    have hread : unsigned negative (whole ++ '.' :: (ds ++ (exponent.elim [] ExponentForm.chars ++
        rest))) = fractionPart negative significand left.length
          (ds ++ (exponent.elim [] ExponentForm.chars ++ rest)) := by
      rw [unsigned_whole isWhole rfl, hfirst, hmany]
      split
      · next hnil => subst hnil; rfl
      · exact afterManyDigits_point hleft negative significand
    have hvalue := withExponent_toOption hexponent negative (gather significand 0 ds).1
      (left.length - (gather significand 0 ds).2.1)
    simpa [hread, fractionPart_digits hds hstop] using hvalue
  | none =>
    cases exponent with
    | some e =>
      rw [Option.elim_some] at hstop
      have hread : unsigned negative (whole ++ (e.chars ++ rest)) =
          withExponent negative significand left.length (e.chars ++ rest) := by
        rw [unsigned_whole isWhole hstop, hfirst, hmany]
        split
        · next hnil => subst hnil; exact afterDigits_mark e.isMark negative significand _
        · refine afterManyDigits_plain hleft hstop (fun c hc => ?_) negative significand
          cases hc
          exact (not_digit_of_mark e.isMark).2
      have hvalue := withExponent_toOption hexponent negative significand left.length
      simpa [hread, gather] using hvalue
    | none =>
      have hend : ∀ c ∈ rest.head?, c ≠ '.' ∧ isExponentMark c = false := fun c hc =>
        ⟨hpoint rfl rfl c hc, hexponent.2 rfl c hc⟩
      have hread : unsigned negative (whole ++ rest) =
          if left = [] then .ok (wholeNumber negative significand, rest)
          else withExponent negative significand left.length rest := by
        rw [unsigned_whole isWhole hexponent.1, hfirst, hmany, afterDigits_end hend]
        split
        · rfl
        · exact afterManyDigits_plain hleft hexponent.1 (fun c hc => (hend c hc).1) _ _
      have hvalue := withExponent_toOption hexponent negative significand left.length
      by_cases hnil : left = []
      · simp [hread, hnil, Except.toOption]
      · simpa [hread, hnil, gather] using hvalue

/-- A number that is read has a form, and it ends where the reader stops. -/
theorem unsigned_form {negative : Bool} {cs : List Char} {r : Numeral × List Char}
    (h : unsigned negative cs = .ok r) :
    ∃ (f : NumberForm) (rest : List Char), f.negative = negative ∧ f.Stops rest ∧
      cs = f.body ++ rest := by
  obtain ⟨whole, tail, hwhole, htail, rfl⟩ := unsigned_shape h
  rw [unsigned_whole hwhole htail] at h
  have hleft := gather_left_digits (IsWhole.digits hwhole).2 0
  by_cases hpoint : ∃ tail', tail = '.' :: tail'
  · obtain ⟨tail, rfl⟩ := hpoint
    have hfraction : ∃ significand point, fractionPart negative significand point tail = .ok r := by
      split at h
      · exact ⟨_, _, h⟩
      · rw [afterManyDigits_point hleft] at h
        exact ⟨_, _, h⟩
    obtain ⟨_, _, hfraction⟩ := hfraction
    obtain ⟨ds, hds, x, rest, hrest, rfl⟩ := fractionPart_shape hfraction
    refine ⟨⟨negative, whole, some ds, x, hwhole, fun es hes => ?_⟩, rest, rfl,
      ⟨hrest, fun h => nomatch h⟩, ?_⟩
    · cases hes
      exact hds
    · simp [body, fractionChars, exponentChars]
  · have hhead := head_ne hpoint
    by_cases hmark : ∀ c ∈ tail.head?, isExponentMark c = false
    · exact ⟨⟨negative, whole, none, none, hwhole, fun _ h => nomatch h⟩, tail, rfl,
        ⟨⟨htail, fun _ => hmark⟩, fun _ _ => hhead⟩, by simp [body, fractionChars, exponentChars]⟩
    · obtain ⟨c, tail, rfl, hc⟩ : ∃ c tail', tail = c :: tail' ∧ isExponentMark c = true := by
        cases tail with
        | nil => exact absurd (fun _ hc => nomatch hc) hmark
        | cons c tail => exact ⟨c, tail, rfl, by simpa using hmark⟩
      have hexponent : ∃ significand point,
          withExponent negative significand point (c :: tail) = .ok r := by
        split at h
        · rw [afterDigits_mark hc] at h
          exact ⟨_, _, h⟩
        · rw [afterManyDigits_plain hleft htail hhead] at h
          exact ⟨_, _, h⟩
      obtain ⟨_, _, hexponent⟩ := hexponent
      obtain ⟨x, rest, hrest, hcs⟩ := withExponent_shape hexponent htail
      refine ⟨⟨negative, whole, none, x, hwhole, fun _ h => nomatch h⟩, rest, rfl,
        ⟨hrest, fun _ hnone c' hc' => ?_⟩, by simp [body, fractionChars, exponentChars, hcs]⟩
      obtain rfl : x = none := hnone
      obtain rfl : c :: tail = rest := hcs
      exact hhead c' hc'

theorem body_digit (f : NumberForm) : ∃ d ds, f.body = d :: ds ∧ d.isDigit = true := by
  obtain ⟨hne, hds⟩ := IsWhole.digits f.isWhole
  obtain ⟨d, ds, hcons⟩ := List.exists_cons_of_ne_nil hne
  refine ⟨d, ds ++ (f.fractionChars ++ f.exponentChars), by rw [body, hcons]; rfl, ?_⟩
  exact hds d (by rw [hcons]; exact List.mem_cons_self)

/-- A number starts with its sign or with a digit. -/
theorem chars_front (f : NumberForm) : ∃ c u, f.chars = c :: u ∧ (c = '-' ∨ c.isDigit = true) := by
  rw [chars]
  split
  · exact ⟨'-', f.body, rfl, .inl rfl⟩
  · obtain ⟨d, ds, hbody, hd⟩ := f.body_digit
    exact ⟨d, ds, hbody, .inr hd⟩

theorem opens (f : NumberForm) : Opens f.chars := by
  obtain ⟨c, u, hcons, hc⟩ := f.chars_front
  refine ⟨c, u, hcons, ?_⟩
  rcases hc with rfl | hc
  · decide
  · refine ⟨(digit_facts hc).1, ?_⟩
    rintro rfl
    revert hc
    decide

end NumberForm

theorem ok_of_toOption {ε α : Type} {x : Except ε α} {a : α} (h : x.toOption = some a) :
    x = .ok a := by
  cases x with
  | error => cases h
  | ok => cases h; rfl

theorem unsigned_sound {negative : Bool} {cs rest : List Char} {n : Numeral}
    (h : unsigned negative cs = .ok (n, rest)) :
    ∃ f : NumberForm, f.negative = negative ∧ f.value? = some n ∧ cs = f.body ++ rest := by
  obtain ⟨f, tail, rfl, hstops, rfl⟩ := NumberForm.unsigned_form h
  have hvalue := f.unsigned_toOption hstops
  rw [h] at hvalue
  obtain ⟨n', hn', hpair⟩ := Option.map_eq_some_iff.mp hvalue.symm
  cases hpair
  exact ⟨f, rfl, hn', rfl⟩

theorem unsigned_complete {f : NumberForm} {n : Numeral} (h : f.value? = some n)
    {rest : List Char} (hrest : Ends rest) :
    unsigned f.negative (f.body ++ rest) = .ok (n, rest) := by
  have hvalue := f.unsigned_toOption (f.stops_of_ends hrest)
  rw [h] at hvalue
  exact ok_of_toOption hvalue

/-- **What is read as a number is one of the grammar, with its value.** -/
theorem numeral_sound {cs rest : List Char} {n : Numeral} (h : numeral cs = .ok (n, rest)) :
    ∃ f : NumberForm, f.value? = some n ∧ cs = f.chars ++ rest := by
  unfold numeral at h
  split at h
  · obtain ⟨f, hf, hvalue, rfl⟩ := unsigned_sound h
    exact ⟨f, hvalue, by simp [NumberForm.chars, hf]⟩
  · obtain ⟨f, hf, hvalue, rfl⟩ := unsigned_sound h
    exact ⟨f, hvalue, by simp [NumberForm.chars, hf]⟩

/-- **A number of the grammar that has a value is read, where it ends.** -/
theorem numeral_complete {f : NumberForm} {n : Numeral} (h : f.value? = some n)
    {rest : List Char} (hrest : Ends rest) : numeral (f.chars ++ rest) = .ok (n, rest) := by
  have hread := unsigned_complete h hrest
  rw [NumberForm.chars]
  split
  · next hneg =>
    rw [hneg] at hread
    exact hread
  · next hneg =>
    rw [Bool.not_eq_true] at hneg
    rw [hneg] at hread
    obtain ⟨d, ds, hbody, hd⟩ := f.body_digit
    rw [hbody, List.cons_append] at hread ⊢
    unfold numeral
    split
    · next heq => cases heq; exact absurd hd (by decide)
    · exact hread

/-! ### Numbers that nobody reads -/

theorem skipExponent_complete (e : ExponentForm) {rest : List Char}
    (hrest : startsWithDigit rest = false) :
    skipExponent (e.sign.toList ++ (e.digits ++ rest)) = .ok rest := by
  obtain ⟨hne, hds⟩ := e.isDigits
  have hstart : startsWithDigit (e.digits ++ rest) = true := by
    rw [startsWithDigit_append hds hrest]
    simpa using hne
  have hdrop := dropWhile_digits hds hrest
  cases hs : e.sign with
  | some c =>
    rcases e.isSign c hs with rfl | rfl <;> simp [skipExponent, hstart, hdrop]
  | none =>
    rw [Option.toList_none, List.nil_append]
    unfold skipExponent
    split
    · next heq => rw [heq] at hstart; cases hstart
    · next heq => rw [heq] at hstart; cases hstart
    · simp [hstart, hdrop]

theorem skipExponent_sound {cs rest : List Char} (h : skipExponent cs = .ok rest) {mark : Char}
    (hmark : isExponentMark mark = true) : ∃ e : ExponentForm, mark :: cs = e.chars ++ rest := by
  have key : ∀ (sign : Option Char) (digits : List Char), (∀ c ∈ sign, c = '+' ∨ c = '-') →
      (if startsWithDigit digits then Except.ok (digits.dropWhile Char.isDigit)
        else Except.error (Failure.beyond .invalidNumber digits)) = Except.ok rest →
      ∃ e : ExponentForm, mark :: (sign.toList ++ digits) = e.chars ++ rest := by
    intro sign digits hsign hok
    split at hok
    · next hdigits =>
      cases hok
      obtain ⟨e, rest, _, hdrop, hcs⟩ := exponent_form hmark hsign hdigits
      exact ⟨e, by rw [hcs, hdrop]⟩
    · cases hok
  unfold skipExponent at h
  split at h
  · exact key (some '-') _ (by simp) h
  · exact key (some '+') _ (by simp) h
  · exact key none _ (by simp) h

theorem skipExponentPart_complete {x : Option ExponentForm} {rest : List Char}
    (hrest : NoExponent x rest) :
    skipExponentPart (x.elim [] ExponentForm.chars ++ rest) = .ok rest := by
  cases x with
  | some e =>
    simp only [Option.elim, ExponentForm.chars, List.cons_append, List.append_assoc,
      skipExponentPart, e.isMark, if_true]
    exact skipExponent_complete e hrest.1
  | none =>
    cases rest with
    | nil => rfl
    | cons c rest => simp [skipExponentPart, hrest.2 rfl c rfl]

theorem skipExponentPart_sound {cs rest : List Char} (h : skipExponentPart cs = .ok rest) :
    ∃ x : Option ExponentForm, cs = x.elim [] ExponentForm.chars ++ rest := by
  unfold skipExponentPart at h
  split at h
  · split at h
    · next hmark =>
      obtain ⟨e, hcs⟩ := skipExponent_sound h hmark
      exact ⟨some e, hcs⟩
    · cases h
      exact ⟨none, rfl⟩
  · cases h
    exact ⟨none, rfl⟩

theorem skipNumber_point {ds : List Char} (hds : IsWhole ds) (fraction : List Char) :
    skipNumber (ds ++ '.' :: fraction) =
      if startsWithDigit fraction then skipExponentPart (fraction.dropWhile Char.isDigit)
      else .error (.beyond .invalidNumber fraction) := by
  obtain ⟨d, ds, rfl⟩ := List.exists_cons_of_ne_nil hds.digits.1
  have hdigits := List.forall_mem_cons.mp hds.digits.2
  have hdrop : (ds ++ '.' :: fraction).dropWhile Char.isDigit = '.' :: fraction :=
    dropWhile_digits hdigits.2 rfl
  have hzero : ¬ (d = '0' ∧ startsWithDigit (ds ++ '.' :: fraction) = true) :=
    hds.no_leading_zero rfl
  simp only [List.cons_append, skipNumber, if_neg hzero, hdigits.1, if_true, hdrop]

theorem skipNumber_plain {ds rest : List Char} (hds : IsWhole ds)
    (hrest : startsWithDigit rest = false) (hpoint : ∀ c ∈ rest.head?, c ≠ '.') :
    skipNumber (ds ++ rest) = skipExponentPart rest := by
  obtain ⟨d, ds, rfl⟩ := List.exists_cons_of_ne_nil hds.digits.1
  have hdigits := List.forall_mem_cons.mp hds.digits.2
  have hdrop := dropWhile_digits hdigits.2 hrest
  simp only [List.cons_append, skipNumber, if_neg (hds.no_leading_zero hrest), hdigits.1, if_true,
    hdrop]
  split
  · exact absurd rfl (hpoint '.' rfl)
  · rfl

theorem skipNumber_complete (f : NumberForm) {rest : List Char} (hrest : Ends rest) :
    skipNumber (f.body ++ rest) = .ok rest := by
  obtain ⟨negative, whole, fraction, exponent, isWhole, isFraction⟩ := f
  obtain ⟨hexponent, hpoint⟩ := NumberForm.stops_of_ends
    ⟨negative, whole, fraction, exponent, isWhole, isFraction⟩ hrest
  have hskip := skipExponentPart_complete hexponent
  have hstop := NumberForm.exponentChars_not_digit hexponent
  simp only [NumberForm.body, NumberForm.fractionChars, NumberForm.exponentChars,
    List.append_assoc]
  cases fraction with
  | some ds =>
    have hds : Digits ds := isFraction ds rfl
    have hstart : startsWithDigit (ds ++ (exponent.elim [] ExponentForm.chars ++ rest)) = true := by
      rw [startsWithDigit_append hds.2 hstop]
      simpa using hds.1
    rw [Option.elim_some, List.cons_append, skipNumber_point isWhole, if_pos hstart,
      dropWhile_digits hds.2 hstop]
    exact hskip
  | none =>
    rw [Option.elim_none, List.nil_append, skipNumber_plain isWhole hstop]
    · exact hskip
    · cases exponent with
      | none => exact hpoint rfl rfl
      | some e =>
        intro c hc
        cases hc
        exact (not_digit_of_mark e.isMark).2

theorem skipNumber_shape {cs rest : List Char} (h : skipNumber cs = .ok rest) :
    ∃ ds tail, IsWhole ds ∧ startsWithDigit tail = false ∧ cs = ds ++ tail := by
  cases cs with
  | nil => cases h
  | cons c cs =>
    rw [skipNumber] at h
    obtain ⟨ds, tail, hds, htail, rfl⟩ := digits_split cs
    split at h
    · cases h
    · next hzero =>
      split at h
      · next hc =>
        refine ⟨c :: ds, tail, ?_, htail, rfl⟩
        by_cases hc0 : c = '0'
        · subst hc0
          rw [startsWithDigit_append hds htail] at hzero
          left
          simpa using hzero
        · refine .inr ⟨⟨List.cons_ne_nil _ _, ?_⟩, by simpa using hc0⟩
          exact List.forall_mem_cons.mpr ⟨hc, hds⟩
      · cases h

/-- What is passed over as a number is one of the grammar. -/
theorem skipNumber_sound {cs rest : List Char} (h : skipNumber cs = .ok rest) (negative : Bool) :
    ∃ f : NumberForm, f.negative = negative ∧ cs = f.body ++ rest := by
  obtain ⟨whole, tail, hwhole, htail, rfl⟩ := skipNumber_shape h
  by_cases hpoint : ∃ fraction, tail = '.' :: fraction
  · obtain ⟨fraction, rfl⟩ := hpoint
    rw [skipNumber_point hwhole] at h
    split at h
    · next hstart =>
      obtain ⟨ds, tail, hds, hstop, rfl⟩ := digits_split fraction
      rw [startsWithDigit_append hds hstop] at hstart
      rw [dropWhile_digits hds hstop] at h
      obtain ⟨x, rfl⟩ := skipExponentPart_sound h
      refine ⟨⟨negative, whole, some ds, x, hwhole, fun es hes => ?_⟩, rfl, ?_⟩
      · cases hes
        exact ⟨by simpa using hstart, hds⟩
      · simp [NumberForm.body, NumberForm.fractionChars, NumberForm.exponentChars]
    · cases h
  · have hhead := head_ne hpoint
    rw [skipNumber_plain hwhole htail hhead] at h
    obtain ⟨x, rfl⟩ := skipExponentPart_sound h
    exact ⟨⟨negative, whole, none, x, hwhole, fun _ h => nomatch h⟩, rfl,
      by simp [NumberForm.body, NumberForm.fractionChars, NumberForm.exponentChars]⟩

end DetectionJobs.Json
