/-
  DetectionJobs/Proofs/Json/Skipping.lean
  =======================================
  **What nobody reads is passed over exactly where it is a value.**

  The containers that are open are kept in a list, so that the statement for an induction
  is one about the machine inside any containers: from where a value is awaited it comes,
  past the value, to where a comma or the end of a container is.  The items of lists and
  of objects differ in how they start; what follows from it is the same for both.
-/
import DetectionJobs.Proofs.Json.Numbers

namespace DetectionJobs.Json

/-! ### Keys -/

theorem colon_iff {cs rest : List Char} :
    colon cs = .ok rest ↔ ∃ b, Blank b ∧ cs = b ++ ':' :: rest := by
  constructor
  · intro h
    obtain ⟨b, hb, hcs⟩ := skipSpace_split cs
    unfold colon at h
    split at h
    · cases h
    · next heq =>
      cases h
      exact ⟨b, hb, by rw [← heq]; exact hcs⟩
    · cases h
  · rintro ⟨b, hb, rfl⟩
    rw [colon, skipSpace_blank hb, skipSpace_cons (by decide)]
    rfl

theorem skipKey_iff {cs rest : List Char} :
    skipKey cs = .ok rest ↔ ∃ b t b', Blank b ∧ LooselyQuoted t ∧ Blank b' ∧
      cs = b ++ (t ++ (b' ++ ':' :: rest)) := by
  constructor
  · intro h
    obtain ⟨b, hb, hcs⟩ := skipSpace_split cs
    unfold skipKey at h
    split at h
    · cases h
    · next tail heq =>
      cases htext : skipText tail with
      | error f => rw [htext] at h; cases h
      | ok after =>
        rw [htext] at h
        obtain ⟨b', hb', rfl⟩ := colon_iff.mp h
        obtain ⟨t, ht, hquote⟩ := skipText_iff.mp htext
        exact ⟨b, t, b', hb, ht, hb', by rw [← hquote, ← heq]; exact hcs⟩
    · cases h
  · rintro ⟨b, t, b', hb, ht, hb', rfl⟩
    have hopens := ht.opens.skipSpace hb (b' ++ ':' :: rest)
    obtain ⟨us, hus, rfl⟩ := ht
    rw [skipKey, hopens]
    simp only [List.cons_append, List.append_assoc, List.nil_append]
    rw [skipText_complete hus]
    exact colon_iff.mpr ⟨b', hb', rfl⟩

/-! ### Items of a container -/

/-- The text of an item in a container with that of its value. -/
def Frame.Item : Frame → List Char → List Char → Prop
  | .list => Eq
  | .object => MemberText LooselyQuoted

theorem Frame.Item.start {frame : Frame} {t v : List Char} (h : frame.Item t v) {b : List Char}
    (hb : Blank b) (rest : List Char) :
    ∃ b', Blank b' ∧ frame.start (b ++ (t ++ rest)) = .ok (b' ++ (v ++ rest)) := by
  cases frame with
  | list =>
    obtain rfl : t = v := h
    exact ⟨b, hb, rfl⟩
  | object =>
    obtain ⟨ht, hb₁, hb₂⟩ := h
    exact ⟨_, hb₂, skipKey_iff.mpr ⟨b, _, _, hb, ht, hb₁, by simp⟩⟩

/-- Where the value of an item starts, an item has started. -/
theorem Frame.start_sound {frame : Frame} {cs b v rest : List Char} (hb : Blank b)
    (h : frame.start cs = .ok (b ++ (v ++ rest))) :
    ∃ b' t, Blank b' ∧ frame.Item t v ∧ cs = b' ++ (t ++ rest) := by
  cases frame with
  | list =>
    cases h
    exact ⟨b, v, hb, rfl, rfl⟩
  | object =>
    obtain ⟨b₀, t, b₁, hb₀, ht, hb₁, rfl⟩ := skipKey_iff.mp h
    exact ⟨b₀, _, hb₀, .mk ht hb₁ hb, by simp⟩

theorem Frame.Item.length_le {frame : Frame} {t v : List Char} (h : frame.Item t v) :
    v.length ≤ t.length := by
  cases frame with
  | list => exact Nat.le_of_eq (congrArg List.length h.symm)
  | object =>
    obtain ⟨_, _, _⟩ := h
    simp only [List.length_append, List.length_cons]
    omega

theorem Frame.Item.opens {frame : Frame} {t v : List Char} (h : frame.Item t v) (hv : Opens v) :
    Opens t ∧ ∀ c ∈ t.head?, c ≠ frame.closing := by
  cases frame with
  | list =>
    obtain rfl : t = v := h
    obtain ⟨c, u, rfl, hspace, hc⟩ := hv
    refine ⟨⟨c, u, rfl, hspace, hc⟩, fun d hd => ?_⟩
    cases hd
    exact hc
  | object =>
    obtain ⟨⟨us, _, rfl⟩, _, _⟩ := h
    refine ⟨⟨'"', _, rfl, by decide, by decide⟩, fun d hd => ?_⟩
    cases hd
    decide

/-! ### Single values -/

theorem skipScalar_sound {c : Char} {rest out : List Char} (h : skipScalar c rest = .ok out) :
    ∃ v, Skippable v ∧ c :: rest = v ++ out := by
  unfold skipScalar at h
  split at h
  · next hc => subst hc; obtain rfl := word_iff.mp h; exact ⟨_, .null, rfl⟩
  split at h
  · next hc => subst hc; obtain rfl := word_iff.mp h; exact ⟨_, .true, rfl⟩
  split at h
  · next hc => subst hc; obtain rfl := word_iff.mp h; exact ⟨_, .false, rfl⟩
  split at h
  · next hc =>
    subst hc
    obtain ⟨f, hf, rfl⟩ := skipNumber_sound h true
    exact ⟨f.chars, .number f, by simp [NumberForm.chars, hf]⟩
  split at h
  · obtain ⟨f, hf, hcs⟩ := skipNumber_sound h false
    exact ⟨f.chars, .number f, by simp [NumberForm.chars, hf, hcs]⟩
  split at h
  · next hc =>
    subst hc
    obtain ⟨t, ht, hcs⟩ := skipText_iff.mp h
    exact ⟨t, .text ht, hcs⟩
  · cases h

theorem skipScalar_number (f : NumberForm) {rest : List Char} (hrest : Ends rest) {c : Char}
    {u : List Char} (hcons : f.chars = c :: u) : skipScalar c (u ++ rest) = .ok rest := by
  have hskip := skipNumber_complete f hrest
  rw [NumberForm.chars] at hcons
  split at hcons
  · cases hcons
    exact hskip
  · obtain ⟨d, ds, hbody, hd⟩ := f.body_digit
    rw [hbody] at hcons hskip
    cases hcons
    have hn : c ≠ 'n' ∧ c ≠ 't' ∧ c ≠ 'f' ∧ c ≠ '-' := by
      refine ⟨?_, ?_, ?_, ?_⟩ <;> (rintro rfl; revert hd; decide)
    rw [skipScalar, if_neg hn.1, if_neg hn.2.1, if_neg hn.2.2.1, if_neg hn.2.2.2, if_pos hd]
    exact hskip

theorem skipScalar_text {t : List Char} (h : LooselyQuoted t) (rest : List Char) {c : Char}
    {u : List Char} (hcons : t = c :: u) : skipScalar c (u ++ rest) = .ok rest := by
  obtain ⟨us, hus, rfl⟩ := h
  cases hcons
  simpa [skipScalar] using skipText_complete hus rest

theorem Skippable.opens {v : List Char} (h : Skippable v) : Opens v := by
  cases h with
  | null => exact ⟨'n', _, rfl, by decide, by decide⟩
  | true => exact ⟨'t', _, rfl, by decide, by decide⟩
  | false => exact ⟨'f', _, rfl, by decide, by decide⟩
  | number f => exact f.opens
  | text h => exact h.opens
  | list h => cases h <;> exact ⟨'[', _, rfl, by decide, by decide⟩
  | object h => cases h <;> exact ⟨'\x7b', _, rfl, by decide, by decide⟩

/-! ### A value inside any containers -/

/-- The machine passes over a value in a number of steps that its length bounds. -/
def Passes (v : List Char) : Prop :=
  ∃ k ≤ 2 * v.length, ∀ fuel frames b rest, Blank b → Ends rest →
    skipFrom (k + fuel) .value frames (b ++ (v ++ rest)) = skipFrom fuel (.more false) frames rest

theorem Frame.ends_closing (frame : Frame) (rest : List Char) : Ends (frame.closing :: rest) := by
  cases frame
  · exact .cons (.inr (.inr (.inl rfl))) _
  · exact .cons (.inr (.inr (.inr rfl))) _

theorem Tail.ends {G : List Char → α → Prop} {u : List Char} {as : List α} (h : Tail G u as)
    {rest : List Char} (hrest : Ends rest) : Ends (u ++ rest) := by
  cases h with
  | done hb => exact .of_blank hb hrest
  | more hb _ _ _ =>
    rw [List.append_assoc]
    exact .of_blank hb (.cons (.inr (.inl rfl)) _)

theorem Frame.closing_not_space (frame : Frame) : isSpace frame.closing = false := by
  cases frame <;> decide

theorem Frame.comma_ne_closing (frame : Frame) : ',' ≠ frame.closing := by
  cases frame <;> decide

/-- A container is closed past blanks. -/
theorem skipFrom_close {b : List Char} (hb : Blank b) (fuel : Nat) (fresh : Bool) (frame : Frame)
    (frames : List Frame) (rest : List Char) :
    skipFrom (fuel + 1) (.more fresh) (frame :: frames) (b ++ frame.closing :: rest) =
      skipFrom fuel (.more false) frames rest := by
  rw [skipFrom, skipSpace_blank hb, skipSpace_cons frame.closing_not_space]
  simp only [if_true]

/-- Past a comma and the start of an item, its value is awaited. -/
theorem skipFrom_comma {frame : Frame} {b cs after : List Char} (hb : Blank b)
    (h : frame.start cs = .ok after) (fuel : Nat) (frames : List Frame) :
    skipFrom (fuel + 1) (.more false) (frame :: frames) (b ++ ',' :: cs) =
      skipFrom fuel .value (frame :: frames) after := by
  rw [skipFrom, skipSpace_blank hb, skipSpace_cons (by decide)]
  simp only [if_neg frame.comma_ne_closing, Bool.false_eq_true, if_false, if_true, h]

/-- So it is past the start of the first item. -/
theorem skipFrom_first {frame : Frame} {b c rest after} (hb : Blank b)
    (hspace : isSpace c = false) (hc : c ≠ frame.closing) (h : frame.start (c :: rest) = .ok after)
    (fuel : Nat) (frames : List Frame) :
    skipFrom (fuel + 1) (.more true) (frame :: frames) (b ++ c :: rest) =
      skipFrom fuel .value (frame :: frames) after := by
  rw [skipFrom, skipSpace_blank hb, skipSpace_cons hspace]
  simp only [if_neg hc, if_true, h]

/-- Items after the first one, and the end of their container. -/
theorem skipFrom_tail {frame : Frame} {u : List Char} {vs : List (List Char)}
    (h : Tail frame.Item u vs) (hvs : ∀ v ∈ vs, Passes v) :
    ∃ k ≤ 2 * u.length + 1, ∀ fuel frames rest,
      skipFrom (k + fuel) (.more false) (frame :: frames) (u ++ frame.closing :: rest) =
        skipFrom fuel (.more false) frames rest := by
  induction h with
  | @done b hb =>
    refine ⟨1, by omega, fun fuel frames rest => ?_⟩
    rw [Nat.add_comm]
    exact skipFrom_close hb fuel false frame frames rest
  | @more b b' t u v vs hb hb' hitem htail ih =>
    obtain ⟨hv, hvs⟩ := List.forall_mem_cons.mp hvs
    obtain ⟨k, hk, hvalue⟩ := hv
    obtain ⟨k', hk', hlater⟩ := ih hvs
    have hlength := hitem.length_le
    refine ⟨k + k' + 1, ?_, fun fuel frames rest => ?_⟩
    · simp only [List.length_append, List.length_cons]
      omega
    · obtain ⟨b'', hb'', hstart⟩ := hitem.start hb' (u ++ frame.closing :: rest)
      have hends := htail.ends (frame.ends_closing rest)
      calc skipFrom (k + k' + 1 + fuel) (.more false) (frame :: frames)
            (b ++ ',' :: (b' ++ (t ++ u)) ++ frame.closing :: rest)
          = skipFrom (k + (k' + fuel) + 1) (.more false) (frame :: frames)
            (b ++ ',' :: (b' ++ (t ++ (u ++ frame.closing :: rest)))) := by
              rw [show k + k' + 1 + fuel = k + (k' + fuel) + 1 by omega]
              simp
        _ = skipFrom (k + (k' + fuel)) .value (frame :: frames)
            (b'' ++ (v ++ (u ++ frame.closing :: rest))) := skipFrom_comma hb hstart _ _
        _ = skipFrom (k' + fuel) (.more false) (frame :: frames) (u ++ frame.closing :: rest) :=
            hvalue _ _ _ _ hb'' hends
        _ = skipFrom fuel (.more false) frames rest := hlater fuel frames rest

/-- The sign that opens a container. -/
def Frame.opening : Frame → Char
  | .list => '['
  | .object => '\x7b'

theorem skipFrom_open {b : List Char} (hb : Blank b) (fuel : Nat) (frame : Frame)
    (frames : List Frame) (rest : List Char) :
    skipFrom (fuel + 1) .value frames (b ++ frame.opening :: rest) =
      skipFrom fuel (.more true) (frame :: frames) rest := by
  have hspace : isSpace frame.opening = false := by cases frame <;> decide
  rw [skipFrom, skipSpace_blank hb, skipSpace_cons hspace]
  cases frame <;> rfl

theorem passes_container (frame : Frame) {t : List Char} {vs : List (List Char)}
    (h : Enclosed frame.opening frame.closing frame.Item t vs)
    (hvs : ∀ v ∈ vs, Opens v ∧ Passes v) : Passes t := by
  cases h with
  | @empty b₁ hb₁ =>
    refine ⟨2, ?_, fun fuel frames b rest hb _ => ?_⟩
    · simp only [List.length_append, List.length_cons]
      omega
    · rw [show 2 + fuel = fuel + 1 + 1 by omega]
      simp only [List.cons_append, List.append_assoc, List.nil_append]
      rw [skipFrom_open hb, skipFrom_close hb₁]
  | @items b₁ t u v vs hb₁ hitem htail =>
    obtain ⟨⟨hopens, k, hk, hvalue⟩, hvs⟩ := List.forall_mem_cons.mp hvs
    obtain ⟨k', hk', hlater⟩ := skipFrom_tail htail fun v hv => (hvs v hv).2
    obtain ⟨⟨c, t, rfl, hspace, _⟩, hclosing⟩ := hitem.opens hopens
    have hlength := hitem.length_le
    refine ⟨k + k' + 2, ?_, fun fuel frames b rest hb _ => ?_⟩
    · simp only [List.length_append, List.length_cons] at hlength ⊢
      omega
    · obtain ⟨b', hb', hstart⟩ := hitem.start .nil (u ++ frame.closing :: rest)
      have hends := htail.ends (frame.ends_closing rest)
      rw [show k + k' + 2 + fuel = k + (k' + fuel) + 1 + 1 by omega]
      simp only [List.cons_append, List.append_assoc, List.nil_append] at hstart ⊢
      rw [skipFrom_open hb, skipFrom_first hb₁ hspace (hclosing c rfl) hstart,
        hvalue _ _ _ _ hb' hends, hlater]

theorem passes_scalar {v : List Char} (hopens : Opens v)
    (h : ∀ c u rest, v = c :: u → Ends rest →
      c ≠ '[' ∧ c ≠ '\x7b' ∧ skipScalar c (u ++ rest) = .ok rest) : Passes v := by
  obtain ⟨c, u, rfl, hspace, _⟩ := hopens
  refine ⟨1, by simp only [List.length_cons]; omega, fun fuel frames b rest hb hrest => ?_⟩
  obtain ⟨hlist, hobject, hskip⟩ := h c u rest rfl hrest
  rw [Nat.add_comm, List.cons_append, skipFrom, skipSpace_blank hb, skipSpace_cons hspace]
  simp only [if_neg hlist, if_neg hobject, hskip]

theorem passes_word {c : Char} {u : List Char} (hopens : Opens (c :: u))
    (hc : c ≠ '[' ∧ c ≠ '\x7b') (h : ∀ rest, skipScalar c (u ++ rest) = .ok rest) :
    Passes (c :: u) := by
  refine passes_scalar hopens fun c' u' rest hcons _ => ?_
  cases hcons
  exact ⟨hc.1, hc.2, h rest⟩

/-- **Every value is passed over.** -/
theorem Skippable.passes {v : List Char} (h : Skippable v) : Passes v := by
  induction h with
  | null => exact passes_word Skippable.null.opens (by decide) fun _ => word_iff.mpr rfl
  | true => exact passes_word Skippable.true.opens (by decide) fun _ => word_iff.mpr rfl
  | false => exact passes_word Skippable.false.opens (by decide) fun _ => word_iff.mpr rfl
  | number f =>
    refine passes_scalar f.opens fun c u rest hcons hrest => ?_
    obtain ⟨c', u', hcons', hc'⟩ := f.chars_front
    obtain ⟨rfl, _⟩ := List.cons.inj (hcons.symm.trans hcons')
    refine ⟨?_, ?_, skipScalar_number f hrest hcons⟩
    all_goals
      rintro rfl
      revert hc'
      decide
  | text h =>
    refine passes_scalar h.opens fun c u rest hcons _ => ?_
    have hskip := skipScalar_text h rest hcons
    obtain ⟨us, _, rfl⟩ := h
    cases hcons
    exact ⟨by decide, by decide, hskip⟩
  | list h hvs ih =>
    exact passes_container .list h fun v hv => ⟨(hvs v hv).opens, ih v hv⟩
  | object h hvs ih =>
    exact passes_container .object h fun v hv => ⟨(hvs v hv).opens, ih v hv⟩

/-! ### What was passed over -/

/-- With less fuel the machine goes on after a value, inside the same containers. -/
def GoesOn (fuel : Nat) (frames : List Frame) (rest out : List Char) : Prop :=
  ∃ fuel' < fuel, skipFrom fuel' (.more false) frames rest = .ok out

theorem GoesOn.mono {fuel fuel' : Nat} {frames : List Frame} {rest out : List Char}
    (h : GoesOn fuel frames rest out) (hle : fuel ≤ fuel') : GoesOn fuel' frames rest out := by
  obtain ⟨k, hk, hskip⟩ := h
  exact ⟨k, by omega, hskip⟩

/-- Where a value was awaited, one stood. -/
def ValueStood (fuel : Nat) : Prop :=
  ∀ {frames cs out}, skipFrom fuel .value frames cs = .ok out →
    ∃ b v rest, Blank b ∧ Skippable v ∧ cs = b ++ (v ++ rest) ∧ GoesOn fuel frames rest out

/-- Where more items or the end of a container were awaited, they stood. -/
def TailStood (fuel : Nat) : Prop :=
  ∀ {frame : Frame} {frames cs out}, skipFrom fuel (.more false) (frame :: frames) cs = .ok out →
    ∃ u vs rest, Tail frame.Item u vs ∧ (∀ v ∈ vs, Skippable v) ∧
      cs = u ++ frame.closing :: rest ∧ GoesOn fuel frames rest out

/-- Where the first item or the end was awaited, the rest of a container stood. -/
def ContainerStood (fuel : Nat) : Prop :=
  ∀ {frame : Frame} {frames cs out}, skipFrom fuel (.more true) (frame :: frames) cs = .ok out →
    ∃ t vs rest, Enclosed frame.opening frame.closing frame.Item (frame.opening :: t) vs ∧
      (∀ v ∈ vs, Skippable v) ∧ cs = t ++ rest ∧ GoesOn fuel frames rest out

/-- An item and what follows it in its container. -/
theorem item_stood {fuel : Nat} (hvalue : ValueStood fuel) (htail : ∀ m < fuel, TailStood m)
    {frame : Frame} {frames : List Frame} {cs after out : List Char}
    (hstart : frame.start cs = .ok after)
    (h : skipFrom fuel .value (frame :: frames) after = .ok out) :
    ∃ b t v u vs rest, Blank b ∧ frame.Item t v ∧ Skippable v ∧ Tail frame.Item u vs ∧
      (∀ v ∈ vs, Skippable v) ∧ cs = b ++ (t ++ (u ++ frame.closing :: rest)) ∧
      GoesOn fuel frames rest out := by
  obtain ⟨b, v, rest, hb, hv, rfl, m, hm, hmore⟩ := hvalue h
  obtain ⟨b', t, hb', hitem, rfl⟩ := Frame.start_sound hb hstart
  obtain ⟨u, vs, rest, hu, hvs, rfl, hgoes⟩ := htail m hm hmore
  exact ⟨b', t, v, u, vs, rest, hb', hitem, hv, hu, hvs, rfl, hgoes.mono (Nat.le_of_lt hm)⟩

theorem tail_stood {fuel : Nat} (hvalue : ValueStood fuel) (htail : ∀ m < fuel, TailStood m) :
    TailStood (fuel + 1) := by
  intro frame frames cs out h
  obtain ⟨b, hb, hcs⟩ := skipSpace_split cs
  rw [skipFrom] at h
  split at h
  · cases h
  · next c rest heq =>
    rw [heq] at hcs
    split at h
    · next hc =>
      subst hc
      exact ⟨b, [], rest, .done hb, List.forall_mem_nil _, hcs, fuel, Nat.lt_succ_self _, h⟩
    · simp only [Bool.false_eq_true, if_false] at h
      split at h
      · next hc =>
        subst hc
        split at h
        · cases h
        · next after hstart =>
          obtain ⟨b', t, v, u, vs, rest, hb', hitem, hv, hu, hvs, rfl, hgoes⟩ :=
            item_stood hvalue htail hstart h
          exact ⟨_, v :: vs, rest, .more hb hb' hitem hu, List.forall_mem_cons.mpr ⟨hv, hvs⟩,
            by simpa using hcs, hgoes.mono (Nat.le_succ _)⟩
      · cases h

theorem container_stood {fuel : Nat} (hvalue : ValueStood fuel) (htail : ∀ m < fuel, TailStood m) :
    ContainerStood (fuel + 1) := by
  intro frame frames cs out h
  obtain ⟨b, hb, hcs⟩ := skipSpace_split cs
  rw [skipFrom] at h
  split at h
  · cases h
  · next c rest heq =>
    rw [heq] at hcs
    split at h
    · next hc =>
      subst hc
      exact ⟨b ++ [frame.closing], [], rest, .empty hb, List.forall_mem_nil _, by simpa using hcs,
        fuel, Nat.lt_succ_self _, h⟩
    · simp only [if_true] at h
      split at h
      · cases h
      · next after hstart =>
        obtain ⟨b', t, v, u, vs, rest', hb', hitem, hv, hu, hvs, hrest, hgoes⟩ :=
          item_stood hvalue htail hstart h
        rw [hrest] at hcs
        exact ⟨_, v :: vs, rest', .items (hb.append hb') hitem hu,
          List.forall_mem_cons.mpr ⟨hv, hvs⟩, by simpa using hcs, hgoes.mono (Nat.le_succ _)⟩

theorem value_stood {fuel : Nat} (hcontainer : ContainerStood fuel) : ValueStood (fuel + 1) := by
  intro frames cs out h
  obtain ⟨b, hb, hcs⟩ := skipSpace_split cs
  rw [skipFrom] at h
  split at h
  · cases h
  · next c rest heq =>
    rw [heq] at hcs
    split at h
    · next hc =>
      subst hc
      obtain ⟨t, vs, rest, ht, hvs, rfl, hgoes⟩ := hcontainer h
      exact ⟨b, _, rest, hb, .list ht hvs, hcs, hgoes.mono (Nat.le_succ _)⟩
    split at h
    · next hc =>
      subst hc
      obtain ⟨t, vs, rest, ht, hvs, rfl, hgoes⟩ := hcontainer h
      exact ⟨b, _, rest, hb, .object ht hvs, hcs, hgoes.mono (Nat.le_succ _)⟩
    split at h
    · cases h
    · next after hscalar =>
      obtain ⟨v, hv, hrest⟩ := skipScalar_sound hscalar
      exact ⟨b, v, after, hb, hv, by rw [← hrest]; exact hcs, fuel, Nat.lt_succ_self _, h⟩

/-- All three, by induction on the fuel. -/
theorem all_stood (fuel : Nat) : ValueStood fuel ∧ TailStood fuel ∧ ContainerStood fuel := by
  induction fuel using Nat.strongRecOn with
  | ind fuel ih =>
    cases fuel with
    | zero =>
      exact ⟨(nomatch ·), (nomatch ·), (nomatch ·)⟩
    | succ fuel =>
      obtain ⟨hvalue, _, hcontainer⟩ := ih fuel (Nat.lt_succ_self _)
      have htail : ∀ m < fuel, TailStood m := fun m hm => (ih m (Nat.lt_succ_of_lt hm)).2.1
      exact ⟨value_stood hcontainer, tail_stood hvalue htail, container_stood hvalue htail⟩

/-- **What was passed over is a value.** -/
theorem skipValue_sound {cs rest : List Char} (h : skipValue cs = .ok rest) :
    ∃ b v, Blank b ∧ Skippable v ∧ cs = b ++ (v ++ rest) := by
  obtain ⟨b, v, after, hb, hv, rfl, fuel, _, hgoes⟩ := (all_stood _).1 h
  cases fuel with
  | zero => cases hgoes
  | succ fuel =>
    cases hgoes
    exact ⟨b, v, hb, hv, rfl⟩

/-- **A value is passed over, where it ends.** -/
theorem skipValue_complete {b v rest : List Char} (hb : Blank b) (hv : Skippable v)
    (hrest : Ends rest) : skipValue (b ++ (v ++ rest)) = .ok rest := by
  obtain ⟨k, hk, hskip⟩ := hv.passes
  have hfuel : 3 * (b ++ (v ++ rest)).length + 3 =
      k + (3 * (b ++ (v ++ rest)).length + 3 - k - 1 + 1) := by
    simp only [List.length_append]
    omega
  rw [skipValue, hfuel, hskip _ _ _ _ hb hrest]
  rfl

end DetectionJobs.Json
