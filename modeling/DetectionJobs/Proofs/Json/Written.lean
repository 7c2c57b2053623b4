/-
  DetectionJobs/Proofs/Json/Written.lean
  ======================================
  **What was written is read back: strings, numbers and null.**

  A value may stand inside a list or an object, so that something may follow it: a comma
  or the end of its container.  A format *reads* a value as `a` if it takes exactly the
  written form, whatever of that kind follows, and gives `a`.
-/
import DetectionJobs.Json.Record

namespace DetectionJobs.Json

open Text (hexValue?)

/-! ### Strings -/

theorem hexValue?_digitChar : ∀ n < 16, hexValue? (Nat.digitChar n) = some n := by decide

/-- The four digits of a control character give back its code point. -/
theorem hexUnit_control {n : Nat} (hn : n < 32) (rest : List Char) :
    hexUnit ('0' :: '0' :: Nat.digitChar (n / 16) :: Nat.digitChar (n % 16) :: rest) =
      .ok (n, rest) := by
  have h0 : hexValue? '0' = some 0 := by decide
  have h1 := hexValue?_digitChar (n / 16) (by omega)
  have h2 := hexValue?_digitChar (n % 16) (by omega)
  simp only [hexUnit, h0, h1, h2]
  congr 2
  omega

theorem unicodeEscape_control {c : Char} (hc : c.toNat < 32) (rest : List Char) :
    unicodeEscape ('0' :: '0' :: Nat.digitChar (c.toNat / 16) ::
      Nat.digitChar (c.toNat % 16) :: rest) = .ok (c, rest) := by
  have h1 : ¬ (0xDC00 ≤ c.toNat ∧ c.toNat ≤ 0xDFFF) := by omega
  have h2 : ¬ (0xD800 ≤ c.toNat ∧ c.toNat ≤ 0xDBFF) := by omega
  simp only [unicodeEscape, hexUnit_control hc, if_neg h1, if_neg h2, Char.ofNat_toNat]

/-- After a backslash the scanner goes on behind the escape. -/
theorem textFrom_escape {taken cs after : List Char} {c : Char}
    (h : escape cs = .ok (c, after)) :
    textFrom taken ('\\' :: cs) = textFrom (c :: taken) after := by
  rw [textFrom]
  simp only [Char.reduceEq, if_false, if_true]
  split
  · next f hf => rw [h] at hf; cases hf
  · next e a ha =>
    rw [h] at ha
    cases ha
    rfl

theorem textFrom_writtenChar (taken : List Char) (c : Char) (cs : List Char) :
    textFrom taken (writtenChar c ++ cs) = textFrom (c :: taken) cs := by
  unfold writtenChar
  split
  · next h => subst h; exact textFrom_escape rfl
  split
  · next h => subst h; exact textFrom_escape rfl
  split
  · next h => subst h; exact textFrom_escape rfl
  split
  · next h => subst h; exact textFrom_escape rfl
  split
  · next h => subst h; exact textFrom_escape rfl
  split
  · next h => subst h; exact textFrom_escape rfl
  split
  · next h => subst h; exact textFrom_escape rfl
  split
  · next h => exact textFrom_escape (unicodeEscape_control h cs)
  · next hquote hslash _ _ _ _ _ hcontrol =>
    rw [List.singleton_append, textFrom]
    simp only [if_neg hquote, if_neg hslash, if_neg hcontrol]

theorem textFrom_written (s : List Char) (taken rest : List Char) :
    textFrom taken (s.flatMap writtenChar ++ '"' :: rest) =
      .ok (String.ofList (taken.reverse ++ s), rest) := by
  induction s generalizing taken with
  | nil => rw [List.flatMap_nil, List.nil_append, textFrom]; simp
  | cons c s ih =>
    rw [List.flatMap_cons, List.append_assoc, textFrom_writtenChar, ih]
    simp

/-- **A written string is read back.** -/
theorem text_written (s : String) (rest : List Char) :
    text (s.toList.flatMap writtenChar ++ '"' :: rest) = .ok (s, rest) := by
  rw [text, textFrom_written]
  simp

/-! ### What may follow a value -/

/-- Nothing, a comma, or the end of a container. -/
def Delimited (rest : List Char) : Prop :=
  rest = [] ∨ ∃ c tail, rest = c :: tail ∧ (c = ',' ∨ c = ']' ∨ c = '\x7d')

theorem Delimited.nil : Delimited [] := Or.inl rfl

theorem Delimited.comma (tail : List Char) : Delimited (',' :: tail) :=
  Or.inr ⟨_, _, rfl, Or.inl rfl⟩

theorem Delimited.brace (tail : List Char) : Delimited ('\x7d' :: tail) :=
  Or.inr ⟨_, _, rfl, Or.inr (Or.inr rfl)⟩

/-- A format takes the written form of a value and gives `a`. -/
def Format.Reads (f : Format α) (depth : Nat) (v : Value) (a : α) : Prop :=
  ∀ rest, Delimited rest → f.read depth (v.chars ++ rest) = .ok (a, rest)

/-- A text that is the written form of a value holds that value alone. -/
theorem Format.Reads.parse {f : Format α} {v : Value} {a : α} (h : f.Reads maxDepth v a) :
    f.parse v.write = .ok a := by
  have hread := h [] .nil
  rw [List.append_nil] at hread
  simp [Format.parse, Value.write, hread, skipSpace]

/-! ### Formats of single values -/

theorem Format.string_reads {expected : String} {convert : String → Except DataProblem α}
    {s : String} {a : α} (h : convert s = .ok a) (depth : Nat) :
    (Format.string expected convert).Reads depth (.text s) a := by
  intro rest _
  have hspace : skipSpace ('"' :: (s.toList.flatMap writtenChar ++ '"' :: rest)) =
      '"' :: (s.toList.flatMap writtenChar ++ '"' :: rest) := rfl
  simp only [Format.string, Value.chars, writtenText, List.cons_append, List.append_assoc,
    List.nil_append, hspace, text_written, h]

theorem Format.text_reads (s : String) (depth : Nat) : Format.text.Reads depth (.text s) s :=
  Format.string_reads rfl depth

theorem Format.nullable_reads_null (f : Format α) (depth : Nat) :
    f.nullable.Reads depth .null none := by
  intro rest _
  rfl

theorem Format.nullable_reads_text {f : Format α} {depth : Nat} {s : String} {a : α}
    (h : f.Reads depth (.text s) a) : f.nullable.Reads depth (.text s) (some a) := by
  intro rest hrest
  have hread := h rest hrest
  have hspace : skipSpace ((Value.text s).chars ++ rest) = (Value.text s).chars ++ rest := rfl
  simp only [Format.nullable, hspace]
  split
  · next hn => simp [Value.chars, writtenText] at hn
  · rw [hread]

/-! ### Natural numbers -/

theorem le_ofDigitChars (ds : List Char) (n : Nat) : n ≤ Nat.ofDigitChars 10 ds n := by
  induction ds generalizing n with
  | nil => simp
  | cons d ds ih =>
    rw [Nat.ofDigitChars_cons]
    have := ih (10 * n + (d.toNat - '0'.toNat))
    omega

/-- Digits are gathered up to what follows them, as long as their number fits. -/
theorem gather_digits {ds rest : List Char} (hds : ∀ d ∈ ds, d.isDigit = true)
    (hrest : startsWithDigit rest = false) {n : Nat} (taken : Nat)
    (hn : Nat.ofDigitChars 10 ds n < 2 ^ 64) :
    gather n taken (ds ++ rest) = (Nat.ofDigitChars 10 ds n, taken + ds.length, rest) := by
  induction ds generalizing n taken with
  | nil =>
    cases rest with
    | nil => rfl
    | cons c rest =>
      have hc : ¬ (c.isDigit = true ∧ 10 * n + digitValue c < 2 ^ 64) := by
        simp only [startsWithDigit] at hrest
        simp [hrest]
      rw [List.nil_append, gather, if_neg hc]
      rfl
  | cons d ds ih =>
    rw [Nat.ofDigitChars_cons] at hn ⊢
    have hle := le_ofDigitChars ds (10 * n + (d.toNat - '0'.toNat))
    have hd : d.isDigit = true ∧ 10 * n + digitValue d < 2 ^ 64 :=
      ⟨hds d List.mem_cons_self, Nat.lt_of_le_of_lt hle hn⟩
    rw [List.cons_append, gather, if_pos hd, List.length_cons]
    rw [show 10 * n + digitValue d = 10 * n + (d.toNat - '0'.toNat) from rfl]
    rw [ih (fun c hc => hds c (List.mem_cons_of_mem d hc)) _ hn]
    congr 2
    omega

theorem digitChar_ne_zero : ∀ n < 10, 0 < n → Nat.digitChar n ≠ '0' := by decide

/-- Only zero is written with a zero in front. -/
theorem toDigits_pos {n : Nat} (hn : 0 < n) :
    ∃ d ds, Nat.toDigits 10 n = d :: ds ∧ d ≠ '0' := by
  induction n using Nat.strongRecOn with
  | ind n ih =>
    by_cases hlt : n < 10
    · exact ⟨_, [], Nat.toDigits_of_lt_base hlt, digitChar_ne_zero n hlt hn⟩
    · obtain ⟨d, ds, hds, hd⟩ := ih (n / 10) (by omega) (by omega)
      refine ⟨d, ds ++ [Nat.digitChar (n % 10)], ?_, hd⟩
      rw [Nat.toDigits_of_base_le (by omega) (by omega), hds]
      rfl

theorem Delimited.not_digit {rest : List Char} (h : Delimited rest) :
    startsWithDigit rest = false := by
  rcases h with rfl | ⟨c, tail, rfl, rfl | rfl | rfl⟩ <;> rfl

theorem Delimited.afterDigits {rest : List Char} (h : Delimited rest) (n : Nat) :
    afterDigits false n rest = .ok (.whole n, rest) := by
  rcases h with rfl | ⟨c, tail, rfl, rfl | rfl | rfl⟩ <;> rfl

theorem isDigit_of_mem_digits {n : Nat} : ∀ d ∈ Nat.toDigits 10 n, d.isDigit = true :=
  fun _ hd => Nat.isDigit_of_mem_toDigits (by omega) (by omega) hd

/-- **The digits of a number that fits are read back as the number.** -/
theorem unsigned_digits {n : Nat} (hn : n < 2 ^ 64) {rest : List Char} (h : Delimited rest) :
    unsigned false (Nat.toDigits 10 n ++ rest) = .ok (.whole n, rest) := by
  rcases Nat.eq_zero_or_pos n with rfl | hpos
  · rw [Nat.toDigits_zero, List.singleton_append, unsigned, if_pos rfl, h.not_digit]
    exact h.afterDigits 0
  · obtain ⟨d, ds, hds, hd⟩ := toDigits_pos hpos
    have hdigit : ∀ c ∈ d :: ds, c.isDigit = true := by
      rw [← hds]
      exact isDigit_of_mem_digits
    have hvalue : Nat.ofDigitChars 10 ds (digitValue d) = n := by
      have htotal := Nat.ofDigitChars_ten_toDigits (n := n)
      rw [hds, Nat.ofDigitChars_cons, Nat.mul_zero, Nat.zero_add] at htotal
      exact htotal
    have hgather := gather_digits (n := digitValue d)
      (fun c hc => hdigit c (List.mem_cons_of_mem d hc)) h.not_digit 0 (by omega)
    rw [hds, List.cons_append, unsigned, if_neg hd, if_pos (hdigit d List.mem_cons_self)]
    simp only [hgather, hvalue, h.not_digit]
    exact h.afterDigits n

theorem digit_facts {d : Char} (h : d.isDigit = true) :
    isSpace d = false ∧ d ≠ '-' := by
  simp only [Char.isDigit, Bool.and_eq_true, decide_eq_true_eq, ge_iff_le, UInt32.le_iff_toNat_le]
    at h
  refine ⟨?_, ?_⟩
  · simp only [isSpace, Bool.or_eq_false_iff, decide_eq_false_iff_not]
    refine ⟨⟨⟨?_, ?_⟩, ?_⟩, ?_⟩ <;> rintro rfl <;> revert h <;> decide
  · rintro rfl
    revert h
    decide

theorem Format.natural32_reads {n : Nat} (hn : n < 2 ^ 32) (depth : Nat) :
    Format.natural32.Reads depth (.whole n) n := by
  intro rest hrest
  have hwritten : (Value.whole n).chars = Nat.toDigits 10 n := by
    simp [Value.chars, writtenInt]
  obtain ⟨d, ds, hds⟩ := List.exists_cons_of_ne_nil (Nat.toDigits_ne_nil (n := n) (b := 10))
  have hd : d.isDigit = true := isDigit_of_mem_digits d (by rw [hds]; exact List.mem_cons_self)
  have hnumeral : numeral (d :: (ds ++ rest)) = .ok (.whole n, rest) := by
    have hread := unsigned_digits (by omega) hrest (n := n)
    rw [hds, List.cons_append] at hread
    rw [numeral]
    · exact hread
    · intro tail hcons
      cases hcons
      exact (digit_facts hd).2 rfl
  have hspace : skipSpace (d :: (ds ++ rest)) = d :: (ds ++ rest) := by
    simp [skipSpace, List.dropWhile, (digit_facts hd).1]
  have hconvert : (Numeral.whole n).between 0 (2 ^ 32 - 1) "u32" = .ok (n : Int) := by
    rw [Numeral.between, if_pos]
    omega
  rw [hwritten, hds]
  simp only [Format.natural32, Format.number, readNumber, List.cons_append, hspace, hd,
    or_true, if_true, hnumeral, hconvert, Except.map, Int.toNat_natCast]

end DetectionJobs.Json
