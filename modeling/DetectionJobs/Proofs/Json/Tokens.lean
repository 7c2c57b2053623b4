/-
  DetectionJobs/Proofs/Json/Tokens.lean
  =====================================
  **The scanners take the tokens of the grammar, and nothing else.**

  A scanner takes a token off the front of a text if, and only if, the text starts with
  one.  A number ends where no more of it may follow, so that one is taken whole only
  where something else stands after it.
-/
import DetectionJobs.Proofs.Json.Grammar
import DetectionJobs.Proofs.Json.Written

namespace DetectionJobs.Json

/-! ### White space -/

theorem Blank.nil : Blank [] := fun _ hc => nomatch hc

theorem Blank.append {b b' : List Char} (hb : Blank b) (hb' : Blank b') : Blank (b ++ b') := by
  intro c hc
  rcases List.mem_append.mp hc with h | h
  · exact hb c h
  · exact hb' c h

theorem skipSpace_split (cs : List Char) : ∃ b, Blank b ∧ cs = b ++ skipSpace cs :=
  ⟨cs.takeWhile isSpace, List.all_eq_true.mp List.all_takeWhile,
    List.takeWhile_append_dropWhile.symm⟩

theorem skipSpace_blank {b : List Char} (hb : Blank b) (cs : List Char) :
    skipSpace (b ++ cs) = skipSpace cs := List.dropWhile_append_of_pos hb

theorem skipSpace_cons {c : Char} (h : isSpace c = false) (rest : List Char) :
    skipSpace (c :: rest) = c :: rest := by
  rw [skipSpace, List.dropWhile_cons_of_neg]
  simp [h]

/-- The start of a value: a character that is neither white space nor the end of a list. -/
def Opens (t : List Char) : Prop := ∃ c u, t = c :: u ∧ isSpace c = false ∧ c ≠ ']'

/-- Where a value has ended. -/
def Ends (rest : List Char) : Prop :=
  ∀ c ∈ rest.head?, isSpace c = true ∨ c = ',' ∨ c = ']' ∨ c = '\x7d'

theorem Opens.skipSpace {t : List Char} (h : Opens t) {b : List Char} (hb : Blank b)
    (rest : List Char) : skipSpace (b ++ (t ++ rest)) = t ++ rest := by
  obtain ⟨c, u, rfl, hc, _⟩ := h
  rw [skipSpace_blank hb, List.cons_append, skipSpace_cons hc]

theorem Ends.nil : Ends [] := fun _ hc => nomatch hc

theorem Ends.cons {c : Char} (h : isSpace c = true ∨ c = ',' ∨ c = ']' ∨ c = '\x7d')
    (rest : List Char) : Ends (c :: rest) := by
  intro d hd
  cases hd
  exact h

theorem Ends.of_blank {b rest : List Char} (hb : Blank b) (h : Ends rest) : Ends (b ++ rest) := by
  cases b with
  | nil => exact h
  | cons c b => exact .cons (.inl (hb c List.mem_cons_self)) _

/-- What ends a value is no part of a number. -/
theorem Ends.not_number {rest : List Char} (h : Ends rest) :
    startsWithDigit rest = false ∧ (∀ c ∈ rest.head?, c ≠ '.' ∧ isExponentMark c = false) := by
  cases rest with
  | nil => exact ⟨rfl, fun _ hc => nomatch hc⟩
  | cons c rest =>
    have hc := h c rfl
    have key : c.isDigit = false ∧ c ≠ '.' ∧ isExponentMark c = false := by
      rcases hc with hspace | rfl | rfl | rfl
      · simp only [isSpace, Bool.or_eq_true, decide_eq_true_eq] at hspace
        rcases hspace with ((rfl | rfl) | rfl) | rfl <;> decide
      all_goals decide
    refine ⟨key.1, fun d hd => ?_⟩
    cases hd
    exact key.2

/-! ### Words -/

theorem word_iff {letters cs rest : List Char} :
    word letters cs = .ok rest ↔ cs = letters ++ rest := by
  induction letters generalizing cs with
  | nil => simp [word]
  | cons l letters ih =>
    cases cs with
    | nil => simp [word]
    | cons c cs =>
      rw [word]
      split
      · next h => subst h; simp [ih]
      · next h => simp [h]

/-! ### Strings -/

theorem hexUnit_iff {cs rest : List Char} {n : Nat} :
    hexUnit cs = .ok (n, rest) ↔ ∃ ds, HexUnit ds n ∧ cs = ds ++ rest := by
  constructor
  · intro h
    unfold hexUnit at h
    split at h
    · split at h
      · next ha hb hc hd =>
        cases h
        exact ⟨_, .mk ha hb hc hd, rfl⟩
      · cases h
    · split at h <;> cases h
  · rintro ⟨ds, hds, rfl⟩
    cases hds with
    | mk ha hb hc hd => simp only [hexUnit, List.cons_append, List.nil_append, ha, hb, hc, hd]

theorem lowUnit_iff {high : Nat} {cs rest : List Char} {c : Char} :
    lowUnit high cs = .ok (c, rest) ↔ ∃ ds low, HexUnit ds low ∧ IsLow low ∧
      cs = '\\' :: 'u' :: (ds ++ rest) ∧
      c = Char.ofNat ((high - 0xD800) * 0x400 + (low - 0xDC00) + 0x10000) := by
  constructor
  · intro h
    unfold lowUnit at h
    split at h
    · cases h
    · cases h
    · split at h
      · cases h
      · next hunit =>
        split at h
        · next hlow =>
          obtain ⟨ds, hds, rfl⟩ := hexUnit_iff.mp hunit
          simp only [Except.ok.injEq, Prod.mk.injEq] at h
          exact ⟨ds, _, hds, hlow, by rw [h.2], h.1.symm⟩
        · cases h
    · cases h
    · cases h
  · rintro ⟨ds, low, hds, hlow, rfl, hc⟩
    have hunit : hexUnit (ds ++ rest) = .ok (low, rest) := hexUnit_iff.mpr ⟨ds, hds, rfl⟩
    rw [IsLow] at hlow
    simp only [lowUnit, hunit, if_pos hlow, hc]

/-- An escape stands for a character as the grammar has it. -/
theorem escape_iff {cs rest : List Char} {c : Char} :
    escape cs = .ok (c, rest) ↔ ∃ u, Spelling ('\\' :: u) c ∧ cs = u ++ rest := by
  constructor
  · intro h
    unfold escape at h
    split at h
    · cases h
    · split at h
      · next hletter =>
        cases h
        exact ⟨[_], .letter hletter, rfl⟩
      · split at h
        · next hu =>
          subst hu
          unfold unicodeEscape at h
          split at h
          · cases h
          · next hunit =>
            obtain ⟨ds, hds, rfl⟩ := hexUnit_iff.mp hunit
            split at h
            · cases h
            · next hlow =>
              split at h
              · next hhigh =>
                obtain ⟨es, low, hes, hlow', rfl, hc⟩ := lowUnit_iff.mp h
                rw [hc]
                exact ⟨'u' :: (ds ++ '\\' :: 'u' :: es), .pair hds hhigh hes hlow', by simp⟩
              · next hhigh =>
                cases h
                exact ⟨_, .unit hds hhigh hlow, rfl⟩
        · cases h
  · rintro ⟨u, hu, rfl⟩
    have hnone : escapeLetter? 'u' = none := by decide
    cases hu with
    | plain hquote hslash => exact absurd rfl hslash
    | letter h => simp only [escape, List.cons_append, List.nil_append, h]
    | @unit ds n h hhigh hlow =>
      have hunit : hexUnit (ds ++ rest) = .ok (n, rest) := hexUnit_iff.mpr ⟨ds, h, rfl⟩
      rw [IsHigh] at hhigh
      rw [IsLow] at hlow
      simp only [escape, List.cons_append, hnone, if_true, unicodeEscape, hunit, if_neg hhigh,
        if_neg hlow]
    | @pair ds es high low h hhigh h' hlow =>
      have hunit : hexUnit (ds ++ ('\\' :: 'u' :: (es ++ rest))) =
          .ok (high, '\\' :: 'u' :: (es ++ rest)) := hexUnit_iff.mpr ⟨ds, h, rfl⟩
      have hsecond := lowUnit_iff.mpr ⟨es, low, h', hlow, Eq.refl ('\\' :: 'u' :: (es ++ rest)),
        Eq.refl (Char.ofNat ((high - 0xD800) * 0x400 + (low - 0xDC00) + 0x10000))⟩
      rw [IsHigh] at hhigh
      have hnot : ¬ (0xDC00 ≤ high ∧ high ≤ 0xDFFF) := by omega
      simp only [escape, List.cons_append, List.append_assoc, hnone, if_true, unicodeEscape,
        hunit, if_neg hnot, if_pos hhigh, hsecond]

/-- The scanner goes on behind a character, however it is written. -/
theorem Spelling.textFrom {u : List Char} {c : Char} (h : Spelling u c) (taken rest : List Char) :
    textFrom taken (u ++ rest) = textFrom (c :: taken) rest := by
  have hescape : ∀ v, Spelling ('\\' :: v) c →
      Json.textFrom taken ('\\' :: (v ++ rest)) = Json.textFrom (c :: taken) rest :=
    fun v hv => textFrom_escape (escape_iff.mpr ⟨v, hv, rfl⟩)
  cases h with
  | plain hquote hslash hcontrol =>
    rw [List.singleton_append, Json.textFrom, if_neg hquote, if_neg hslash,
      if_neg (Nat.not_lt.mpr hcontrol)]
  | letter h => exact hescape _ (.letter h)
  | unit h hhigh hlow => exact hescape _ (.unit h hhigh hlow)
  | pair h hhigh h' hlow => exact hescape _ (.pair h hhigh h' hlow)

theorem textFrom_sound {taken cs : List Char} {s : String} {rest : List Char}
    (h : textFrom taken cs = .ok (s, rest)) :
    ∃ us ds, List.Forall₂ Spelling us ds ∧ cs = us.flatten ++ '"' :: rest ∧
      s = String.ofList (taken.reverse ++ ds) := by
  fun_induction textFrom taken cs with
  | case1 => cases h
  | case2 taken rest' =>
    cases h
    exact ⟨[], [], .nil, rfl, by simp⟩
  | case3 => simp_all
  | case4 taken rest' e after hescape hquote ih =>
    obtain ⟨u, hu, rfl⟩ := escape_iff.mp hescape
    obtain ⟨us, ds, hus, rfl, hs⟩ := ih (by simp_all)
    exact ⟨_ :: us, e :: ds, .cons hu hus, by simp, by simpa using hs⟩
  | case5 => cases h
  | case6 taken c rest' hquote hslash hcontrol ih =>
    obtain ⟨us, ds, hus, rfl, hs⟩ := ih h
    exact ⟨[c] :: us, c :: ds, .cons (.plain hquote hslash (Nat.not_lt.mp hcontrol)) hus, rfl,
      by simpa using hs⟩

theorem textFrom_complete {us : List (List Char)} {ds : List Char}
    (h : List.Forall₂ Spelling us ds) (taken rest : List Char) :
    textFrom taken (us.flatten ++ '"' :: rest) =
      .ok (String.ofList (taken.reverse ++ ds), rest) := by
  induction h generalizing taken with
  | nil =>
    rw [List.flatten_nil, List.nil_append, textFrom, if_pos rfl, List.append_nil]
  | cons hu _ ih =>
    rw [List.flatten_cons, List.append_assoc, hu.textFrom, ih]
    simp

/-- **The scanner of strings takes the strings of the grammar.** -/
theorem text_iff {cs rest : List Char} {s : String} :
    text cs = .ok (s, rest) ↔ ∃ t, Quoted t s ∧ '"' :: cs = t ++ rest := by
  constructor
  · intro h
    obtain ⟨us, ds, hus, rfl, rfl⟩ := textFrom_sound h
    exact ⟨_, ⟨us, by simpa using hus, rfl⟩, by simp⟩
  · rintro ⟨t, ⟨us, hus, rfl⟩, hcs⟩
    obtain rfl : cs = us.flatten ++ '"' :: rest := by simpa using hcs
    simpa [text] using textFrom_complete hus [] rest

theorem Quoted.opens {t : List Char} {s : String} (h : Quoted t s) : Opens t := by
  obtain ⟨us, _, rfl⟩ := h
  exact ⟨_, _, rfl, by decide, by decide⟩

/-! ### Strings that nobody reads -/

theorem skipEscape_iff {cs rest : List Char} :
    skipEscape cs = .ok rest ↔ ∃ u, LooseSpelling ('\\' :: u) ∧ cs = u ++ rest := by
  constructor
  · intro h
    unfold skipEscape at h
    split at h
    · cases h
    · split at h
      · next hletter =>
        cases h
        exact ⟨[_], .letter hletter, rfl⟩
      · split at h
        · next tail _ _ hu =>
          subst hu
          cases hunit : hexUnit tail with
          | error f => rw [hunit] at h; cases h
          | ok p =>
            obtain ⟨n, after⟩ := p
            rw [hunit] at h
            cases h
            obtain ⟨ds, hds, rfl⟩ := hexUnit_iff.mp hunit
            exact ⟨_, .unit hds, rfl⟩
        · cases h
  · rintro ⟨u, hu, rfl⟩
    have hnone : escapeLetter? 'u' = none := by decide
    cases hu with
    | plain hquote hslash => exact absurd rfl hslash
    | letter h => simp only [skipEscape, List.cons_append, List.nil_append, h]
    | @unit ds n h =>
      have hunit : hexUnit (ds ++ rest) = .ok (n, rest) := hexUnit_iff.mpr ⟨ds, h, rfl⟩
      simp only [skipEscape, List.cons_append, hnone, if_true, hunit, Except.map]

theorem LooseSpelling.skipText {u : List Char} (h : LooseSpelling u) (rest : List Char) :
    skipText (u ++ rest) = skipText rest := by
  have hescape : ∀ v, LooseSpelling ('\\' :: v) →
      Json.skipText ('\\' :: (v ++ rest)) = Json.skipText rest := by
    intro v hv
    have hv' := skipEscape_iff.mpr ⟨v, hv, Eq.refl (v ++ rest)⟩
    rw [Json.skipText]
    simp only [Char.reduceEq, if_false, if_true]
    split
    · next hf => rw [hv'] at hf; cases hf
    · next ha => rw [hv'] at ha; cases ha; rfl
  cases h with
  | plain hquote hslash hcontrol =>
    rw [List.singleton_append, Json.skipText, if_neg hquote, if_neg hslash,
      if_neg (Nat.not_lt.mpr hcontrol)]
  | letter h => exact hescape _ (.letter h)
  | unit h => exact hescape _ (.unit h)

theorem skipText_sound {cs rest : List Char} (h : skipText cs = .ok rest) :
    ∃ us : List (List Char), (∀ u ∈ us, LooseSpelling u) ∧ cs = us.flatten ++ '"' :: rest := by
  fun_induction skipText cs with
  | case1 => cases h
  | case2 rest' =>
    cases h
    exact ⟨[], List.forall_mem_nil _, rfl⟩
  | case3 => simp_all
  | case4 rest' after hescape hquote ih =>
    obtain ⟨u, hu, rfl⟩ := skipEscape_iff.mp hescape
    obtain ⟨us, hus, rfl⟩ := ih (by simp_all)
    exact ⟨_ :: us, List.forall_mem_cons.mpr ⟨hu, hus⟩, by simp⟩
  | case5 => cases h
  | case6 c rest' hquote hslash hcontrol ih =>
    obtain ⟨us, hus, rfl⟩ := ih h
    exact ⟨[c] :: us,
      List.forall_mem_cons.mpr ⟨.plain hquote hslash (Nat.not_lt.mp hcontrol), hus⟩, rfl⟩

theorem skipText_complete {us : List (List Char)} (h : ∀ u ∈ us, LooseSpelling u)
    (rest : List Char) : skipText (us.flatten ++ '"' :: rest) = .ok rest := by
  induction us with
  | nil => rw [List.flatten_nil, List.nil_append, skipText, if_pos rfl]
  | cons u us ih =>
    rw [List.flatten_cons, List.append_assoc, (h u List.mem_cons_self).skipText]
    exact ih fun v hv => h v (List.mem_cons_of_mem u hv)

theorem skipText_iff {cs rest : List Char} :
    skipText cs = .ok rest ↔ ∃ t, LooselyQuoted t ∧ '"' :: cs = t ++ rest := by
  constructor
  · intro h
    obtain ⟨us, hus, rfl⟩ := skipText_sound h
    exact ⟨_, ⟨us, hus, rfl⟩, by simp⟩
  · rintro ⟨t, ⟨us, hus, rfl⟩, hcs⟩
    obtain rfl : cs = us.flatten ++ '"' :: rest := by simpa using hcs
    exact skipText_complete hus rest

theorem LooselyQuoted.opens {t : List Char} (h : LooselyQuoted t) : Opens t := by
  obtain ⟨us, _, rfl⟩ := h
  exact ⟨_, _, rfl, by decide, by decide⟩

end DetectionJobs.Json
