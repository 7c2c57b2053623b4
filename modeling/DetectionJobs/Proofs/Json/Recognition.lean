/-
  DetectionJobs/Proofs/Json/Recognition.lean
  ==========================================
  **Which texts a format reads: single values and lists.**

  A reader *takes* a kind of text if it reads no other and reads each of them, wherever it
  stands: past blanks, and with anything behind it that ends a value.  What a format for a
  list takes follows from what the one for its elements takes.
-/
import DetectionJobs.Proofs.Json.Skipping

namespace DetectionJobs.Json

/-- A reader takes the texts of one kind, and no others. -/
structure Takes (read : List Char → Reading α) (G : List Char → α → Prop) : Prop where
  opens {t : List Char} {a : α} : G t a → Opens t
  sound {cs rest : List Char} {a : α} :
    read cs = .ok (a, rest) → ∃ b t, Blank b ∧ G t a ∧ cs = b ++ (t ++ rest)
  complete {b t rest : List Char} {a : α} :
    Blank b → G t a → Ends rest → read (b ++ (t ++ rest)) = .ok (a, rest)

variable {G : List Char → α → Prop}

/-- Kinds of text that agree are taken by the same readers. -/
theorem Takes.congr {read : List Char → Reading α} {G' : List Char → α → Prop}
    (h : Takes read G) (hG : ∀ t a, G t a ↔ G' t a) : Takes read G' := by
  have heq : G = G' := funext fun t => funext fun a => propext (hG t a)
  exact heq ▸ h

/-- A text that is taken stands for one value only. -/
theorem Takes.unique {read : List Char → Reading α} (h : Takes read G) {t : List Char} {a a' : α}
    (ha : G t a) (ha' : G t a') : a = a' := by
  have hread := h.complete .nil ha .nil
  rw [h.complete .nil ha' .nil] at hread
  cases hread
  rfl

/-! ### Numbers and strings -/

theorem takes_number (expected : String) (convert : Numeral → Except DataProblem α) :
    Takes (readNumber expected convert) (NumberText convert) where
  opens := by
    rintro t a ⟨f, n, _, _, rfl⟩
    exact f.opens
  sound := by
    intro cs rest a h
    obtain ⟨b, hb, hcs⟩ := skipSpace_split cs
    unfold readNumber at h
    split at h
    · cases h
    · next heq =>
      rw [heq] at hcs
      split at h
      · split at h
        · cases h
        · next hnumeral =>
          split at h
          · next hconvert =>
            cases h
            obtain ⟨f, hvalue, hf⟩ := numeral_sound hnumeral
            exact ⟨b, f.chars, hb, ⟨f, _, hvalue, hconvert, rfl⟩, by rw [← hf]; exact hcs⟩
          · cases h
      · cases h
  complete := by
    rintro b t rest a hb ⟨f, n, hvalue, hconvert, rfl⟩ hrest
    have hnumeral := numeral_complete hvalue hrest
    have hspace := f.opens.skipSpace hb rest
    obtain ⟨c, u, hcons, hc⟩ := f.chars_front
    rw [hcons] at hnumeral hspace ⊢
    simp only [List.cons_append] at hnumeral hspace ⊢
    simp only [readNumber, hspace, if_pos hc, hnumeral, hconvert]

theorem takes_double (depth : Nat) : Takes (Format.double.read depth) RealText := by
  refine (takes_number "f64" fun n => .ok n.toDouble).congr fun t x => ?_
  constructor
  · rintro ⟨f, n, hvalue, hx, rfl⟩
    cases hx
    exact ⟨f, n, hvalue, rfl, rfl⟩
  · rintro ⟨f, n, hvalue, rfl, rfl⟩
    exact ⟨f, n, hvalue, rfl, rfl⟩

/-- A number between bounds is a whole one, and stands for what is made of it. -/
theorem takes_between (low high : Int) (expected : String) (make : Int → α) :
    Takes (readNumber expected fun n => (n.between low high expected).map make)
      fun t a => ∃ n, WholeText low high t n ∧ make n = a := by
  refine (takes_number expected _).congr fun t a => ?_
  constructor
  · rintro ⟨f, n, hvalue, hconvert, rfl⟩
    cases n with
    | real x => cases hconvert
    | whole n =>
      simp only [Numeral.between] at hconvert
      split at hconvert
      · next hn =>
        cases hconvert
        exact ⟨n, ⟨f, hvalue, hn.1, hn.2, rfl⟩, rfl⟩
      · cases hconvert
  · rintro ⟨n, ⟨f, hvalue, hlow, hhigh, rfl⟩, rfl⟩
    refine ⟨f, .whole n, hvalue, ?_, rfl⟩
    simp only [Numeral.between, if_pos (And.intro hlow hhigh)]
    rfl

theorem takes_string (expected : String) (convert : String → Except DataProblem α)
    (depth : Nat) : Takes ((Format.string expected convert).read depth)
      fun t a => ∃ s, Quoted t s ∧ convert s = .ok a where
  opens := by
    rintro t a ⟨s, hs, _⟩
    exact hs.opens
  sound := by
    intro cs rest a h
    obtain ⟨b, hb, hcs⟩ := skipSpace_split cs
    unfold Format.string at h
    simp only at h
    split at h
    · cases h
    · next heq =>
      rw [heq] at hcs
      split at h
      · cases h
      · next htext =>
        split at h
        · next hconvert =>
          cases h
          obtain ⟨t, ht, hquote⟩ := text_iff.mp htext
          exact ⟨b, t, hb, ⟨_, ht, hconvert⟩, by rw [← hquote]; exact hcs⟩
        · cases h
    · cases h
  complete := by
    rintro b t rest a hb ⟨s, ht, hconvert⟩ _
    have hspace := ht.opens.skipSpace hb rest
    obtain ⟨us, hus, rfl⟩ := ht
    have htext : text (us.flatten ++ '"' :: rest) = .ok (s, rest) :=
      text_iff.mpr ⟨_, ⟨us, hus, rfl⟩, by simp⟩
    simp only [List.cons_append, List.append_assoc, List.nil_append] at hspace ⊢
    simp only [Format.string, hspace, htext, hconvert]

theorem takes_text (depth : Nat) : Takes (Format.text.read depth) Quoted := by
  refine (takes_string "a string" .ok depth).congr fun t s => ?_
  constructor
  · rintro ⟨s', hs', heq⟩
    cases heq
    exact hs'
  · exact fun h => ⟨s, h, rfl⟩

/-! ### Values that may be null -/

theorem Takes.nullable {f : Format α} {depth : Nat} (h : Takes (f.read depth) G)
    (hn : ∀ t a, G t a → t.head? ≠ some 'n') : Takes (f.nullable.read depth) (Nullable G) where
  opens := by
    intro t a ht
    cases ht with
    | null => exact ⟨'n', _, rfl, by decide, by decide⟩
    | value ht => exact h.opens ht
  sound := by
    intro cs rest a hread
    obtain ⟨b, hb, hcs⟩ := skipSpace_split cs
    simp only [Format.nullable] at hread
    split at hread
    · next heq =>
      rw [heq] at hcs
      split at hread
      · next hword =>
        cases hread
        obtain rfl := word_iff.mp hword
        exact ⟨b, _, hb, .null, hcs⟩
      · cases hread
    · split at hread
      · next hvalue =>
        cases hread
        obtain ⟨b', t, hb', ht, heq⟩ := h.sound hvalue
        exact ⟨b ++ b', t, hb.append hb', .value ht, by rw [List.append_assoc, ← heq]; exact hcs⟩
      · cases hread
  complete := by
    intro b t rest a hb ht hrest
    cases ht with
    | null =>
      have hopens : Opens ['n', 'u', 'l', 'l'] := ⟨'n', _, rfl, by decide, by decide⟩
      simp only [Format.nullable, hopens.skipSpace hb rest]
      rfl
    | value ht =>
      have hread := h.complete .nil ht hrest
      have hspace := (h.opens ht).skipSpace hb rest
      rw [List.nil_append] at hread
      simp only [Format.nullable, hspace]
      split
      · next tail heq =>
        obtain ⟨c, u, rfl, _, _⟩ := h.opens ht
        cases heq
        exact absurd rfl (hn _ _ ht)
      · simp only [hread]

/-! ### Lists -/

theorem closeList_iff {cs rest : List Char} :
    closeList cs = .ok rest ↔ ∃ b, Blank b ∧ cs = b ++ ']' :: rest := by
  constructor
  · intro h
    obtain ⟨b, hb, hcs⟩ := skipSpace_split cs
    unfold closeList at h
    split at h
    · cases h
    · next heq =>
      cases h
      exact ⟨b, hb, by rw [← heq]; exact hcs⟩
    · split at h <;> cases h
    · cases h
  · rintro ⟨b, hb, rfl⟩
    rw [closeList, skipSpace_blank hb, skipSpace_cons (by decide)]
    rfl

/-- What stands between brackets is read up to the closing one. -/
theorem inBrackets_ok_iff {depth : Nat} {inside : Nat → List Char → Reading α}
    {cs rest : List Char} {a : α} :
    inBrackets (depth + 1) inside ('[' :: cs) = .ok (a, rest) ↔
      ∃ after, inside depth cs = .ok (a, after) ∧ closeList after = .ok rest := by
  rw [inBrackets, List.tail_cons]
  cases inside depth cs with
  | error f => simp
  | ok r =>
    obtain ⟨a', after⟩ := r
    cases hclose : closeList after <;> simp +contextual [Except.map, hclose]

/-- Where a list ends. -/
def AtListEnd (cs : List Char) : Prop := ∃ b rest, Blank b ∧ cs = b ++ ']' :: rest

theorem nextElement_none {first : Bool} {cs : List Char} :
    nextElement first cs = .ok none ↔ AtListEnd cs := by
  constructor
  · intro h
    obtain ⟨b, hb, hcs⟩ := skipSpace_split cs
    unfold nextElement at h
    split at h
    · cases h
    · next heq =>
      rw [heq] at hcs
      split at h
      · next hc => exact ⟨b, _, hb, hc ▸ hcs⟩
      split at h
      · cases h
      split at h
      · split at h <;> cases h
      · cases h
  · rintro ⟨b, rest, hb, rfl⟩
    rw [nextElement, skipSpace_blank hb, skipSpace_cons (by decide)]
    rfl

/-- The first element follows blanks. -/
theorem nextElement_first {cs start : List Char} (h : nextElement true cs = .ok (some start)) :
    ∃ b, Blank b ∧ cs = b ++ start := by
  obtain ⟨b, hb, hcs⟩ := skipSpace_split cs
  unfold nextElement at h
  split at h
  · cases h
  · next heq =>
    rw [heq] at hcs
    split at h
    · cases h
    · simp only [if_true] at h
      cases h
      exact ⟨b, hb, hcs⟩

/-- Each other one follows a comma. -/
theorem nextElement_later {cs start : List Char} (h : nextElement false cs = .ok (some start)) :
    ∃ b b', Blank b ∧ Blank b' ∧ cs = b ++ ',' :: (b' ++ start) := by
  obtain ⟨b, hb, hcs⟩ := skipSpace_split cs
  unfold nextElement at h
  split at h
  · cases h
  · next rest heq =>
    rw [heq] at hcs
    split at h
    · cases h
    simp only [Bool.false_eq_true, if_false] at h
    split at h
    · next hc =>
      subst hc
      obtain ⟨b', hb', hrest⟩ := skipSpace_split rest
      split at h
      · cases h
      · cases h
      · cases h
        exact ⟨b, b', hb, hb', by rw [← hrest]; exact hcs⟩
    · cases h

theorem Opens.nextElement_first {t : List Char} (h : Opens t) {b : List Char} (hb : Blank b)
    (rest : List Char) : nextElement true (b ++ (t ++ rest)) = .ok (some (t ++ rest)) := by
  have hspace := h.skipSpace hb rest
  obtain ⟨c, u, rfl, _, hc⟩ := h
  simp only [List.cons_append] at hspace ⊢
  simp only [nextElement, hspace, if_neg hc, if_true]

theorem Opens.nextElement_later {t : List Char} (h : Opens t) {b b' : List Char} (hb : Blank b)
    (hb' : Blank b') (rest : List Char) :
    nextElement false (b ++ ',' :: (b' ++ (t ++ rest))) = .ok (some (t ++ rest)) := by
  have hspace := h.skipSpace hb' rest
  obtain ⟨c, u, rfl, _, hc⟩ := h
  rw [nextElement, skipSpace_blank hb, skipSpace_cons (by decide)]
  simp only [Char.reduceEq, if_false, Bool.false_eq_true, if_true, hspace]
  split
  · next heq => cases heq
  · next heq => cases heq; exact absurd rfl hc
  · rfl

/-- Elements after the first one are those of a tail. -/
theorem elements_tail_sound {read : List Char → Reading α} (h : Takes read G) {fuel : Nat}
    {taken as : List α} {cs after : List Char} (htaken : taken ≠ [])
    (hread : elements read fuel taken cs = .ok (as, after)) :
    ∃ u bs b rest, Tail G u bs ∧ as = taken.reverse ++ bs ∧ Blank b ∧ after = b ++ ']' :: rest ∧
      cs = u ++ ']' :: rest := by
  induction fuel generalizing taken cs with
  | zero => cases hread
  | succ fuel ih =>
    have hfirst : taken.isEmpty = false := by simpa using htaken
    rw [elements, hfirst] at hread
    split at hread
    · cases hread
    · next hnext =>
      cases hread
      obtain ⟨b, rest, hb, rfl⟩ := nextElement_none.mp hnext
      exact ⟨b, [], b, rest, .done hb, (List.append_nil _).symm, hb, rfl, rfl⟩
    · next start hnext =>
      split at hread
      · cases hread
      · next a tail hvalue =>
        obtain ⟨b₁, b₂, hb₁, hb₂, rfl⟩ := nextElement_later hnext
        obtain ⟨b₃, t, hb₃, ht, rfl⟩ := h.sound hvalue
        obtain ⟨u, bs, b, rest, hu, rfl, hb, rfl, rfl⟩ := ih (List.cons_ne_nil _ _) hread
        exact ⟨_, a :: bs, b, rest, .more hb₁ (hb₂.append hb₃) ht hu, by simp, hb, rfl, by simp⟩

theorem elements_tail_complete {read : List Char → Reading α} (h : Takes read G) {u : List Char}
    {as : List α} (hu : Tail G u as) {fuel : Nat} (hfuel : as.length < fuel) {taken : List α}
    (htaken : taken ≠ []) (rest : List Char) :
    ∃ b, Blank b ∧ elements read fuel taken (u ++ ']' :: rest) =
      .ok (taken.reverse ++ as, b ++ ']' :: rest) := by
  induction hu generalizing fuel taken with
  | @done b hb =>
    obtain ⟨fuel, rfl⟩ := Nat.exists_eq_add_of_lt hfuel
    refine ⟨b, hb, ?_⟩
    rw [elements, nextElement_none.mpr ⟨b, rest, hb, rfl⟩, List.append_nil]
  | @more b b' t u a as hb hb' ht htail ih =>
    obtain ⟨fuel, rfl⟩ : ∃ k, fuel = k + 1 := ⟨fuel - 1, by omega⟩
    have hfirst : taken.isEmpty = false := by simpa using htaken
    have hnext := (h.opens ht).nextElement_later hb hb' (u ++ ']' :: rest)
    have hvalue := h.complete .nil ht (htail.ends (.cons (.inr (.inr (.inl rfl))) rest))
    obtain ⟨b'', hb'', hlater⟩ := ih (by simpa using hfuel) (List.cons_ne_nil a taken)
    refine ⟨b'', hb'', ?_⟩
    rw [List.nil_append] at hvalue
    rw [elements, hfirst]
    simp only [List.append_assoc, List.cons_append] at hnext hvalue hlater ⊢
    simp only [hnext, hvalue, hlater, List.reverse_cons, List.append_assoc, List.cons_append,
      List.nil_append]

theorem Tail.length_le {u : List Char} {as : List α} (h : Tail G u as) : as.length ≤ u.length := by
  induction h with
  | done => exact Nat.zero_le _
  | more _ _ _ _ ih =>
    simp only [List.length_cons, List.length_append]
    omega

/-- The elements of a list, from behind its bracket to before the other one. -/
theorem elements_sound {read : List Char → Reading α} (h : Takes read G) {fuel : Nat}
    {as : List α} {cs after : List Char} (hread : elements read fuel [] cs = .ok (as, after)) :
    ∃ t b rest, Listed G ('[' :: t) as ∧ Blank b ∧ after = b ++ ']' :: rest ∧ cs = t ++ rest := by
  cases fuel with
  | zero => cases hread
  | succ fuel =>
    rw [elements, List.isEmpty_nil] at hread
    split at hread
    · cases hread
    · next hnext =>
      cases hread
      obtain ⟨b, rest, hb, rfl⟩ := nextElement_none.mp hnext
      exact ⟨_, b, rest, .empty hb, hb, rfl, by simp⟩
    · next start hnext =>
      split at hread
      · cases hread
      · next a tail hvalue =>
        obtain ⟨b₁, hb₁, rfl⟩ := nextElement_first hnext
        obtain ⟨b₂, t, hb₂, ht, rfl⟩ := h.sound hvalue
        obtain ⟨u, as, b, rest, hu, rfl, hb, rfl, rfl⟩ :=
          elements_tail_sound h (List.cons_ne_nil _ _) hread
        exact ⟨_, b, rest, .items (hb₁.append hb₂) ht hu, hb, rfl, by simp⟩

theorem elements_complete {read : List Char → Reading α} (h : Takes read G) {t : List Char}
    {as : List α} (ht : Listed G ('[' :: t) as) {fuel : Nat} (hfuel : t.length < fuel)
    (rest : List Char) :
    ∃ b, Blank b ∧ elements read fuel [] (t ++ rest) = .ok (as, b ++ ']' :: rest) := by
  obtain ⟨fuel, rfl⟩ : ∃ k, fuel = k + 1 := ⟨fuel - 1, by omega⟩
  cases ht with
  | @empty b hb =>
    refine ⟨b, hb, ?_⟩
    rw [List.append_assoc, List.singleton_append, elements, nextElement_none.mpr ⟨b, rest, hb, rfl⟩]
    rfl
  | @items b t u a as hb ht hu =>
    have hnext := (h.opens ht).nextElement_first hb (u ++ ']' :: rest)
    have hvalue := h.complete .nil ht (hu.ends (.cons (.inr (.inr (.inl rfl))) rest))
    have hlength := hu.length_le
    simp only [List.length_append, List.length_cons] at hfuel
    obtain ⟨b', hb', hlater⟩ :=
      elements_tail_complete h hu (by omega : as.length < fuel) (List.cons_ne_nil a []) rest
    refine ⟨b', hb', ?_⟩
    rw [List.nil_append] at hvalue
    simp only [elements, List.isEmpty_nil, List.append_assoc, List.cons_append, List.nil_append,
      hnext, hvalue, hlater, List.reverse_cons, List.reverse_nil]

/-- **A format for lists takes the lists of what the one for their elements takes.** -/
theorem Takes.list {f : Format α} {depth : Nat} (h : Takes (f.read depth) G) :
    Takes (f.list.read (depth + 1)) (Listed G) where
  opens := by
    intro t as ht
    cases ht <;> exact ⟨'[', _, rfl, by decide, by decide⟩
  sound := by
    intro cs rest as hread
    obtain ⟨b, hb, hcs⟩ := skipSpace_split cs
    simp only [Format.list] at hread
    split at hread
    · cases hread
    · next inner heq =>
      rw [heq] at hcs
      obtain ⟨after, hinner, hclose⟩ := inBrackets_ok_iff.mp hread
      obtain ⟨t, b', rest', ht, hb', rfl, rfl⟩ := elements_sound h hinner
      rw [closeList_iff.mpr ⟨b', hb', rfl⟩] at hclose
      cases hclose
      exact ⟨b, _, hb, ht, hcs⟩
    · cases hread
  complete := by
    intro b t rest as hb ht hrest
    obtain ⟨t, rfl⟩ : ∃ t', t = '[' :: t' := by cases ht <;> exact ⟨_, rfl⟩
    have hopens : Opens ('[' :: t) := ⟨'[', t, rfl, by decide, by decide⟩
    have hfuel : t.length < (t ++ rest).length + 1 := by
      rw [List.length_append]
      omega
    have hspace := hopens.skipSpace hb rest
    obtain ⟨b', hb', hread⟩ := elements_complete h ht hfuel rest
    rw [List.cons_append] at hspace ⊢
    simp only [Format.list, hspace]
    exact inBrackets_ok_iff.mpr ⟨_, hread, closeList_iff.mpr ⟨b', hb', rfl⟩⟩

/-! ### Whole texts -/

/-- **A text is read to its end exactly if it is one of the kind, with blanks around it.** -/
theorem Takes.parse_iff {f : Format α} (h : Takes (f.read maxDepth) G) {s : String} {a : α} :
    f.parse s = .ok a ↔ Alone G s.toList a := by
  constructor
  · intro hparse
    unfold Format.parse at hparse
    split at hparse
    · cases hparse
    · next rest hread =>
      obtain ⟨b, t, hb, ht, hcs⟩ := h.sound hread
      obtain ⟨b', hb', hrest⟩ := skipSpace_split rest
      split at hparse
      · next heq =>
        cases hparse
        rw [heq, List.append_nil] at hrest
        exact ⟨b, t, rest, hb, hrest ▸ hb', ht, hcs⟩
      · cases hparse
  · rintro ⟨b, t, b', hb, hb', ht, hcs⟩
    have hends : Ends b' := List.append_nil b' ▸ Ends.of_blank hb' .nil
    have hspace : skipSpace b' = [] := by
      rw [← List.append_nil b', skipSpace_blank hb']
      rfl
    simp only [Format.parse, hcs, h.complete hb ht hends, hspace]

end DetectionJobs.Json
