/-
  DetectionJobs/Proofs/Json/Lists.lean
  ====================================
  **What was written is read back: numbers, lists, and values whose type is not known.**

  A written value ends where a comma or the end of a container follows, so that readers
  that take a kind of text read it there.  The items of a list are read one after the
  other, each from where the one before has ended.
-/
import DetectionJobs.Proofs.Json.Members
import DetectionJobs.Proofs.Json.Rereading

namespace DetectionJobs.Json

/-! ### From kinds of text to written values -/

theorem Delimited.ends {rest : List Char} (h : Delimited rest) : Ends rest := by
  rcases h with rfl | ⟨c, tail, rfl, hc⟩
  · exact .nil
  · exact .cons (.inr hc) tail

theorem Delimited.bracket (tail : List Char) : Delimited (']' :: tail) :=
  Or.inr ⟨_, _, rfl, Or.inr (Or.inl rfl)⟩

/-- A reader that takes a kind of text reads written values of that kind. -/
theorem Takes.reads {G : List Char → α → Prop} {f : Format α} {depth : Nat}
    (h : Takes (f.read depth) G) {v : Value} {a : α} (hv : G v.chars a) : f.Reads depth v a :=
  fun _ hrest => h.complete .nil hv hrest.ends

/-! ### Numbers -/

/-- A number that is not whole, as one of the grammar. -/
theorem real_form {x : Double} (hfinite : x.isFinite = true) :
    ∃ f : NumberForm, f.chars = (Value.real x).chars ∧ f.value? = some (.real x.reread) := by
  obtain ⟨f, hchars, hvalue⟩ := dataChars_form hfinite
  obtain ⟨y, hy, hreread⟩ := Double.reread_scaled hfinite
  refine ⟨f, ?_, ?_⟩
  · rw [hchars, Value.chars, writtenReal, if_pos hfinite]
  · rw [hvalue, decimal?, hy, hreread]
    rfl

/-- **A number is read as what its notation comes to.** -/
theorem Format.double_reads {x : Double} (hfinite : x.isFinite = true) (depth : Nat) :
    Format.double.Reads depth (.real x) x.reread := by
  obtain ⟨f, hchars, hvalue⟩ := real_form hfinite
  exact (takes_double depth).reads ⟨f, _, hvalue, rfl, hchars.symm⟩

theorem isWhole_toDigits (n : Nat) : IsWhole (Nat.toDigits 10 n) := by
  rcases Nat.eq_zero_or_pos n with rfl | hpos
  · exact .inl (Nat.toDigits_zero 10)
  · obtain ⟨d, ds, hds, hd⟩ := toDigits_pos hpos
    refine .inr ⟨⟨Nat.toDigits_ne_nil, isDigit_of_mem_digits⟩, ?_⟩
    rw [hds]
    simpa using hd

/-- A whole number, as one of the grammar. -/
def wholeForm (n : Int) : NumberForm where
  negative := n < 0
  whole := Nat.toDigits 10 n.natAbs
  fraction := none
  exponent := none
  isWhole := isWhole_toDigits _
  isFraction := fun _ h => (Option.some_ne_none _ h.symm).elim

theorem chars_wholeForm (n : Int) : (wholeForm n).chars = (Value.whole n).chars := by
  rw [NumberForm.chars, Value.chars, writtenInt]
  simp [wholeForm, NumberForm.body, NumberForm.fractionChars, NumberForm.exponentChars]

theorem value_wholeForm {n : Int} (hlow : -2 ^ 63 ≤ n) (hhigh : n < 2 ^ 64) :
    (wholeForm n).value? = some (.whole n) := by
  have hvalue : Nat.ofDigitChars 10 (Nat.toDigits 10 n.natAbs) 0 = n.natAbs :=
    Nat.ofDigitChars_ten_toDigits
  have hgather := gather_all (isWhole_toDigits n.natAbs).digits.2
    (hvalue.trans_lt (by omega : n.natAbs < 2 ^ 64))
  rw [hvalue] at hgather
  simp only [wholeForm, NumberForm.value?, hgather, Option.isNone_none, and_self, if_true,
    wholeNumber]
  by_cases hneg : n < 0
  · have hfits : 0 < n.natAbs ∧ n.natAbs ≤ 2 ^ 63 := by omega
    simp only [hneg, decide_true, Bool.not_true, Bool.false_eq_true, if_false, if_pos hfits]
    congr 2
    omega
  · simp only [hneg, decide_false, Bool.not_false, if_true]
    congr 2
    omega

theorem Format.int32_reads (i : Int32) (depth : Nat) :
    Format.int32.Reads depth (.whole i.toInt) i := by
  have hlow := i.le_toInt
  have hhigh := i.toInt_lt
  have hvalue : (wholeForm i.toInt).value? = some (.whole i.toInt) :=
    value_wholeForm (by omega) (by omega)
  exact (takes_between (-2 ^ 31) (2 ^ 31 - 1) "i32" Int32.ofInt).reads
    ⟨i.toInt, ⟨_, hvalue, hlow, by omega, (chars_wholeForm _).symm⟩, Int32.ofInt_toInt i⟩

/-! ### Values whose type is not known -/

theorem readValue_number {f : NumberForm} {n : Numeral} (hvalue : f.value? = some n)
    {rest : List Char} (hrest : Ends rest) (depth : Nat) :
    ∃ v, readValue depth (f.chars ++ rest) = .ok (v, rest) := by
  have hnumeral := numeral_complete hvalue hrest
  have hspace := f.opens.skipSpace .nil rest
  obtain ⟨c, u, hcons, hc⟩ := f.chars_front
  have hletter : c ≠ 'n' ∧ c ≠ 't' ∧ c ≠ 'f' := by
    refine ⟨?_, ?_, ?_⟩ <;> rintro rfl <;> revert hc <;> decide
  rw [hcons, List.cons_append] at hnumeral ⊢
  rw [hcons, List.nil_append, List.cons_append] at hspace
  rw [readValue]
  simp only [hspace, if_neg hletter.1, if_neg hletter.2.1, if_neg hletter.2.2, if_pos hc, hnumeral]
  cases n with
  | whole n => exact ⟨_, rfl⟩
  | real x => exact ⟨_, rfl⟩

theorem readValue_text (s : String) (rest : List Char) (depth : Nat) :
    readValue depth ((Value.text s).chars ++ rest) = .ok (.text s, rest) := by
  have hchars : (Value.text s).chars ++ rest =
      '"' :: (s.toList.flatMap writtenChar ++ '"' :: rest) := by
    simp [Value.chars, writtenText]
  rw [hchars, readValue, skipSpace_quote]
  simp [text_written]

/-- A written value is taken as one, whichever value it is taken for. -/
def Value.Taken (depth : Nat) (v : Value) : Prop :=
  ∀ rest, Delimited rest → ∃ w, readValue depth (v.chars ++ rest) = .ok (w, rest)

theorem Value.taken_real {x : Double} (hfinite : x.isFinite = true) (depth : Nat) :
    (Value.real x).Taken depth := by
  obtain ⟨f, hchars, hvalue⟩ := real_form hfinite
  exact fun rest hrest => hchars ▸ readValue_number hvalue hrest.ends depth

theorem Value.taken_text (s : String) (depth : Nat) : (Value.text s).Taken depth :=
  fun rest _ => ⟨_, readValue_text s rest depth⟩

theorem Value.taken_whole {n : Int} (hlow : -2 ^ 63 ≤ n) (hhigh : n < 2 ^ 64) (depth : Nat) :
    (Value.whole n).Taken depth :=
  fun _ hrest => chars_wholeForm n ▸ readValue_number (value_wholeForm hlow hhigh) hrest.ends depth

/-! ### Lists -/

/-- A written value starts with its first character. -/
theorem Value.opens (v : Value) : Opens v.chars := by
  cases v with
  | null => exact ⟨'n', _, rfl, by decide, by decide⟩
  | bool b => cases b <;> exact ⟨_, _, rfl, by decide, by decide⟩
  | whole n => exact chars_wholeForm n ▸ (wholeForm n).opens
  | real x =>
    by_cases hfinite : x.isFinite = true
    · obtain ⟨f, hchars, _⟩ := real_form hfinite
      exact hchars ▸ f.opens
    · rw [Value.chars, writtenReal, if_neg hfinite]
      exact ⟨'n', _, rfl, by decide, by decide⟩
  | text s => exact ⟨'"', _, rfl, by decide, by decide⟩
  | list items => exact ⟨'[', _, rfl, by decide, by decide⟩
  | object members => exact ⟨'\x7b', _, rfl, by decide, by decide⟩

/-- Items after the first one, each with its comma. -/
def laterItems (vs : List Value) : List Char := vs.flatMap fun v => ',' :: v.chars

theorem itemChars_cons (v : Value) (vs : List Value) :
    itemChars (v :: vs) = v.chars ++ laterItems vs := by
  induction vs generalizing v with
  | nil => simp [itemChars, laterItems]
  | cons w vs ih =>
    rw [itemChars, ih w]
    simp [laterItems]

theorem delimited_laterItems (vs : List Value) (rest : List Char) :
    Delimited (laterItems vs ++ ']' :: rest) := by
  cases vs with
  | nil => exact .bracket rest
  | cons v vs => exact .comma _

theorem length_le_laterItems (vs : List Value) : vs.length ≤ (laterItems vs).length := by
  induction vs with
  | nil => exact Nat.zero_le _
  | cons v vs ih =>
    rw [laterItems, List.flatMap_cons, List.length_append]
    rw [laterItems] at ih
    simp only [List.length_cons]
    omega

theorem elements_later {f : Format α} {depth : Nat} {vs : List Value} {as : List α}
    (h : List.Forall₂ (f.Reads depth) vs as) (rest : List Char) {taken : List α}
    (htaken : taken ≠ []) {fuel : Nat} (hfuel : vs.length < fuel) :
    elements (f.read depth) fuel taken (laterItems vs ++ ']' :: rest) =
      .ok (taken.reverse ++ as, ']' :: rest) := by
  induction h generalizing taken fuel with
  | nil =>
    obtain ⟨fuel, rfl⟩ := Nat.exists_eq_add_of_lt hfuel
    simp [elements, nextElement, laterItems, skipSpace, isSpace]
  | @cons v a vs as hread _ ih =>
    obtain ⟨fuel, rfl⟩ : ∃ k, fuel = k + 1 := ⟨fuel - 1, by omega⟩
    have hsplit : laterItems (v :: vs) ++ ']' :: rest =
        ',' :: (v.chars ++ (laterItems vs ++ ']' :: rest)) := by
      simp [laterItems]
    have hempty : taken.isEmpty = false := by simpa using htaken
    have hblank : Blank [] := .nil
    have hnext := v.opens.nextElement_later hblank hblank (laterItems vs ++ ']' :: rest)
    rw [List.nil_append, List.nil_append] at hnext
    rw [hsplit, elements, hempty, hnext]
    simp only [hread _ (delimited_laterItems vs rest)]
    rw [ih (List.cons_ne_nil _ _) (by simpa using hfuel)]
    simp

/-- **A list is read back from items that are read back.** -/
theorem Format.list_reads {f : Format α} {depth : Nat} {vs : List Value} {as : List α}
    (h : List.Forall₂ (f.Reads depth) vs as) : f.list.Reads (depth + 1) (.list vs) as := by
  intro rest _
  have hspace : skipSpace ((Value.list vs).chars ++ rest) =
      '[' :: (itemChars vs ++ ']' :: rest) := by
    simp [Value.chars, skipSpace, isSpace]
  have helements : elements (f.read depth) ((itemChars vs ++ ']' :: rest).length + 1) []
      (itemChars vs ++ ']' :: rest) = .ok (as, ']' :: rest) := by
    cases h with
    | nil => simp [elements, nextElement, itemChars, skipSpace, isSpace]
    | @cons v a vs as hread htail =>
      have hsplit : itemChars (v :: vs) ++ ']' :: rest =
          v.chars ++ (laterItems vs ++ ']' :: rest) := by
        rw [itemChars_cons, List.append_assoc]
      have hnext := v.opens.nextElement_first (b := []) .nil (laterItems vs ++ ']' :: rest)
      rw [List.nil_append] at hnext
      have hfuel : vs.length < (v.chars ++ (laterItems vs ++ ']' :: rest)).length := by
        have := length_le_laterItems vs
        simp only [List.length_append, List.length_cons]
        omega
      rw [hsplit, elements, List.isEmpty_nil, hnext]
      simp only [hread _ (delimited_laterItems vs rest)]
      rw [elements_later htail rest (List.cons_ne_nil _ _) hfuel]
      rfl
  simp only [Format.list, hspace]
  exact inBrackets_ok_iff.mpr ⟨_, helements, rfl⟩

end DetectionJobs.Json
