/-
  DetectionJobs/Proofs/Json/Records.lean
  ======================================
  **Which texts a record is read from.**

  If the state of a record holds the entries that were read, the record is read from an
  object or from a list exactly as the grammar has it: the loop over the members of an
  object and the one over the values of a list both keep a state that holds what they have
  passed, and at the end the record is what all entries together tell.
-/
import DetectionJobs.Proofs.Json.Collecting

namespace DetectionJobs.Json

/-! ### Keys -/

theorem closeObject_iff {cs rest : List Char} :
    closeObject cs = .ok rest ↔ ∃ b, Blank b ∧ cs = b ++ '\x7d' :: rest := by
  constructor
  · intro h
    obtain ⟨b, hb, hcs⟩ := skipSpace_split cs
    unfold closeObject at h
    split at h
    · cases h
    · next heq =>
      rw [heq] at hcs
      split at h
      · next hc =>
        cases h
        exact ⟨b, hb, hc ▸ hcs⟩
      · split at h <;> cases h
  · rintro ⟨b, hb, rfl⟩
    rw [closeObject, skipSpace_blank hb, skipSpace_cons (by decide)]
    rfl

/-- What stands between braces is read up to the closing one. -/
theorem inBraces_ok_iff {depth : Nat} {inside : Nat → List Char → Reading α}
    {cs rest : List Char} {a : α} :
    inBraces (depth + 1) inside ('\x7b' :: cs) = .ok (a, rest) ↔
      ∃ after, inside depth cs = .ok (a, after) ∧ closeObject after = .ok rest := by
  rw [inBraces, List.tail_cons]
  cases inside depth cs with
  | error f => simp
  | ok r =>
    obtain ⟨a', after⟩ := r
    cases hclose : closeObject after <;> simp +contextual [Except.map, hclose]

theorem nextKey_none {first : Bool} {cs : List Char} :
    nextKey first cs = .ok none ↔ ∃ b rest, Blank b ∧ cs = b ++ '\x7d' :: rest := by
  constructor
  · intro h
    obtain ⟨b, hb, hcs⟩ := skipSpace_split cs
    have hkey : ∀ cs, (text cs).map some ≠ .ok none := by
      intro cs hkey
      cases htext : text cs <;> rw [htext] at hkey <;> cases hkey
    unfold nextKey at h
    split at h
    · cases h
    · next heq =>
      rw [heq] at hcs
      split at h
      · next hc => exact ⟨b, _, hb, hc ▸ hcs⟩
      split at h
      · split at h
        · exact absurd h (hkey _)
        · cases h
      split at h
      · split at h
        · cases h
        · exact absurd h (hkey _)
        · split at h <;> cases h
      · cases h
  · rintro ⟨b, rest, hb, rfl⟩
    rw [nextKey, skipSpace_blank hb, skipSpace_cons (by decide)]
    rfl

theorem key_iff {cs rest : List Char} {k : String} :
    (text cs).map some = .ok (some (k, rest)) ↔ ∃ t, Quoted t k ∧ '"' :: cs = t ++ rest := by
  rw [← text_iff]
  cases text cs <;> simp [Except.map]

theorem nextKey_first_sound {cs rest : List Char} {k : String}
    (h : nextKey true cs = .ok (some (k, rest))) :
    ∃ b t, Blank b ∧ Quoted t k ∧ cs = b ++ (t ++ rest) := by
  obtain ⟨b, hb, hcs⟩ := skipSpace_split cs
  unfold nextKey at h
  split at h
  · cases h
  · next heq =>
    rw [heq] at hcs
    split at h
    · cases h
    simp only [if_true] at h
    split at h
    · next hc =>
      subst hc
      obtain ⟨t, ht, hquote⟩ := key_iff.mp h
      exact ⟨b, t, hb, ht, by rw [← hquote]; exact hcs⟩
    · cases h

theorem Quoted.nextKey_first {t : List Char} {k : String} (ht : Quoted t k) {b : List Char}
    (hb : Blank b) (rest : List Char) :
    nextKey true (b ++ (t ++ rest)) = .ok (some (k, rest)) := by
  have hspace := ht.opens.skipSpace hb rest
  obtain ⟨us, hus, rfl⟩ := ht
  simp only [List.cons_append] at hspace ⊢
  simp only [nextKey, hspace, Char.reduceEq, if_false, if_true]
  exact key_iff.mpr ⟨_, ⟨us, hus, rfl⟩, rfl⟩

theorem nextKey_later_sound {cs rest : List Char} {k : String}
    (h : nextKey false cs = .ok (some (k, rest))) :
    ∃ b b' t, Blank b ∧ Blank b' ∧ Quoted t k ∧ cs = b ++ ',' :: (b' ++ (t ++ rest)) := by
  obtain ⟨b, hb, hcs⟩ := skipSpace_split cs
  unfold nextKey at h
  split at h
  · cases h
  · next tail heq =>
    rw [heq] at hcs
    split at h
    · cases h
    simp only [Bool.false_eq_true, if_false] at h
    split at h
    · next hc =>
      subst hc
      obtain ⟨b', hb', htail⟩ := skipSpace_split tail
      split at h
      · cases h
      · next heq' =>
        obtain ⟨t, ht, hquote⟩ := key_iff.mp h
        exact ⟨b, b', t, hb, hb', ht, by rw [← hquote, ← heq', ← htail]; exact hcs⟩
      · split at h <;> cases h
    · cases h

theorem Quoted.nextKey_later {t : List Char} {k : String} (ht : Quoted t k) {b b' : List Char}
    (hb : Blank b) (hb' : Blank b') (rest : List Char) :
    nextKey false (b ++ ',' :: (b' ++ (t ++ rest))) = .ok (some (k, rest)) := by
  have hspace := ht.opens.skipSpace hb' rest
  obtain ⟨us, hus, rfl⟩ := ht
  rw [nextKey, skipSpace_blank hb, skipSpace_cons (by decide)]
  simp only [List.cons_append] at hspace ⊢
  simp only [Char.reduceEq, if_false, Bool.false_eq_true, if_true, hspace]
  exact key_iff.mpr ⟨_, ⟨us, hus, rfl⟩, rfl⟩

namespace Fields

variable {f : Fields σ α} {depth : Nat} {tells : List Entry → α → Prop}
  {holds : List Entry → σ → Prop}

theorem find?_some {k : String} {m : Member σ} (h : f.find? k = some m) :
    m ∈ f.members ∧ m.name = k :=
  ⟨List.mem_of_find?_eq_some h, by simpa using List.find?_some h⟩

theorem find?_none {k : String} : f.find? k = none ↔ k ∉ f.slots.names := by
  rw [names_slots, find?, List.find?_eq_none]
  simp

/-- A member that nobody knows is a value, and changes nothing. -/
def Unknown (f : Fields σ α) (e : Entry) : Prop := e.1 ∉ f.slots.names → Skippable e.2

theorem readMember_sound (h : f.Collects depth tells holds) {es : List Entry} {s t : σ}
    (hs : holds es s) {k : String} {cs rest : List Char}
    (hread : f.readMember depth s k cs = .ok (t, rest)) :
    ∃ b b' v, Blank b ∧ Blank b' ∧ f.Unknown (k, v) ∧ holds (es ++ [(k, v)]) t ∧
      cs = b ++ ':' :: (b' ++ (v ++ rest)) := by
  have hvalue : ∀ {read : List Char → Reading σ}, memberValue k read cs = .ok (t, rest) →
      ∃ b tail, Blank b ∧ cs = b ++ ':' :: tail ∧ read tail = .ok (t, rest) := by
    intro read hmember
    unfold memberValue at hmember
    cases hcolon : colon cs with
    | error e => rw [hcolon] at hmember; cases hmember
    | ok tail =>
      obtain ⟨b, hb, rfl⟩ := colon_iff.mp hcolon
      rw [hcolon] at hmember
      simp only [Except.bind] at hmember
      split at hmember
      · next hr =>
        cases hmember
        exact ⟨b, tail, hb, rfl, hr⟩
      · cases hmember
  unfold readMember at hread
  split at hread
  · next m hm =>
    obtain ⟨hmem, rfl⟩ := find?_some hm
    split at hread
    · cases hread
    · next hset =>
      have hfresh : m.name ∉ es.map Prod.fst := fun hin => hset ((h.isSet hmem hs).mpr hin)
      obtain ⟨b, tail, hb, rfl, hr⟩ := hvalue hread
      obtain ⟨b', v, hb', ht, rfl⟩ := h.sound hmem hs hfresh hr
      exact ⟨b, b', v, hb, hb', fun hk => absurd (mem_names hmem) hk, ht, rfl⟩
  · next hm =>
    obtain ⟨b, tail, hb, rfl, hr⟩ := hvalue hread
    cases hskip : skipValue tail with
    | error e => rw [hskip] at hr; cases hr
    | ok after =>
      rw [hskip] at hr
      cases hr
      obtain ⟨b', v, hb', hv, rfl⟩ := skipValue_sound hskip
      exact ⟨b, b', v, hb, hb', fun _ => hv, h.other v hs (find?_none.mp hm), rfl⟩

theorem readMember_complete (h : f.Collects depth tells holds) {es es' : List Entry} {s : σ}
    (hs : holds es s) {k : String} {v : List Char} {a : α} (htells : tells (es ++ (k, v) :: es') a)
    (hunknown : f.Unknown (k, v)) {b b' rest : List Char} (hb : Blank b) (hb' : Blank b')
    (hrest : Ends rest) :
    ∃ t, f.readMember depth s k (b ++ ':' :: (b' ++ (v ++ rest))) = .ok (t, rest) ∧
      holds (es ++ [(k, v)]) t := by
  have hcolon := colon_iff.mpr ⟨b, hb, Eq.refl (b ++ ':' :: (b' ++ (v ++ rest)))⟩
  cases hm : f.find? k with
  | some m =>
    obtain ⟨hmem, rfl⟩ := find?_some hm
    obtain ⟨hfresh, _, hread⟩ := h.complete hmem hs htells
    obtain ⟨t, ht, hholds⟩ := hread b' rest hb' hrest
    have hset : ¬ m.isSet s = true := fun hset => hfresh ((h.isSet hmem hs).mp hset)
    refine ⟨t, ?_, hholds⟩
    simp only [readMember, hm, if_neg hset, memberValue, hcolon, Except.bind, ht]
  | none =>
    have hk := find?_none.mp hm
    refine ⟨s, ?_, h.other v hs hk⟩
    simp only [readMember, hm, memberValue, hcolon, Except.bind,
      skipValue_complete hb' (hunknown hk) hrest, Except.map]

/-- Members after the first one are those of a tail. -/
theorem members_tail_sound (h : f.Collects depth tells holds) {fuel : Nat} {es : List Entry}
    {s t : σ} (hs : holds es s) {cs after : List Char}
    (hread : collectMembers (f.readMember depth) fuel false s cs = .ok (t, after)) :
    ∃ u es' b rest, Tail EntryText u es' ∧ (∀ e ∈ es', f.Unknown e) ∧ holds (es ++ es') t ∧
      Blank b ∧ after = b ++ '\x7d' :: rest ∧ cs = u ++ '\x7d' :: rest := by
  induction fuel generalizing es s cs with
  | zero => cases hread
  | succ fuel ih =>
    rw [collectMembers] at hread
    split at hread
    · cases hread
    · next hnext =>
      cases hread
      obtain ⟨b, rest, hb, rfl⟩ := nextKey_none.mp hnext
      exact ⟨b, [], b, rest, .done hb, List.forall_mem_nil _, by simpa using hs, hb, rfl, rfl⟩
    · next k tail hnext =>
      split at hread
      · cases hread
      · next hmember =>
        obtain ⟨b₁, b₂, t, hb₁, hb₂, ht, rfl⟩ := nextKey_later_sound hnext
        obtain ⟨b₃, b₄, v, hb₃, hb₄, hv, hs', rfl⟩ := readMember_sound h hs hmember
        obtain ⟨u, es', b, rest, hu, hes', hs'', hb, rfl, rfl⟩ := ih hs' hread
        exact ⟨_, (k, v) :: es', b, rest, .more hb₁ hb₂ (.mk ht hb₃ hb₄) hu,
          List.forall_mem_cons.mpr ⟨hv, hes'⟩, by simpa using hs'', hb, rfl, by simp⟩

theorem members_tail_complete (h : f.Collects depth tells holds) {u : List Char}
    {es' : List Entry} (hu : Tail EntryText u es') (hunknown : ∀ e ∈ es', f.Unknown e)
    {fuel : Nat} (hfuel : es'.length < fuel) {es : List Entry} {s : σ} (hs : holds es s) {a : α}
    (htells : tells (es ++ es') a) (rest : List Char) :
    ∃ t b, Blank b ∧ holds (es ++ es') t ∧
      collectMembers (f.readMember depth) fuel false s (u ++ '\x7d' :: rest) =
        .ok (t, b ++ '\x7d' :: rest) := by
  induction hu generalizing fuel es s with
  | @done b hb =>
    obtain ⟨fuel, rfl⟩ := Nat.exists_eq_add_of_lt hfuel
    refine ⟨s, b, hb, by simpa using hs, ?_⟩
    rw [collectMembers, nextKey_none.mpr ⟨b, rest, hb, rfl⟩]
  | @more b b' t u e es' hb hb' ht htail ih =>
    obtain ⟨fuel, rfl⟩ : ∃ k, fuel = k + 1 := ⟨fuel - 1, by omega⟩
    obtain ⟨hv, hes'⟩ := List.forall_mem_cons.mp hunknown
    obtain ⟨k, v⟩ := e
    obtain @⟨t, b₁, b₂, _, hk, hb₁, hb₂⟩ := ht
    have hends := htail.ends (.cons (.inr (.inr (.inr rfl))) rest)
    obtain ⟨s', hmember, hs'⟩ := readMember_complete h hs htells hv hb₁ hb₂ hends
    have hnext := hk.nextKey_later hb hb' (b₁ ++ ':' :: (b₂ ++ (v ++ (u ++ '\x7d' :: rest))))
    obtain ⟨s'', b'', hb'', hs'', hlater⟩ :=
      ih hes' (by simpa using hfuel) hs' (by simpa using htells)
    refine ⟨s'', b'', hb'', by simpa using hs'', ?_⟩
    simp only [List.append_assoc, List.cons_append, collectMembers, hnext, hmember, hlater]

/-- The members of an object, from behind its brace to before the other one. -/
theorem members_sound (h : f.Collects depth tells holds) {fuel : Nat} {cs after : List Char}
    {t : σ} (hread : collectMembers (f.readMember depth) fuel true f.empty cs = .ok (t, after)) :
    ∃ u es b rest, Braced ('\x7b' :: u) es ∧ (∀ e ∈ es, f.Unknown e) ∧ holds es t ∧ Blank b ∧
      after = b ++ '\x7d' :: rest ∧ cs = u ++ rest := by
  cases fuel with
  | zero => cases hread
  | succ fuel =>
    rw [collectMembers] at hread
    split at hread
    · cases hread
    · next hnext =>
      cases hread
      obtain ⟨b, rest, hb, rfl⟩ := nextKey_none.mp hnext
      exact ⟨_, [], b, rest, .empty hb, List.forall_mem_nil _, h.empty, hb, rfl, by simp⟩
    · next k tail hnext =>
      split at hread
      · cases hread
      · next hmember =>
        obtain ⟨b₁, t, hb₁, ht, rfl⟩ := nextKey_first_sound hnext
        obtain ⟨b₂, b₃, v, hb₂, hb₃, hv, hs, rfl⟩ := readMember_sound h h.empty hmember
        obtain ⟨u, es, b, rest, hu, hes, hs', hb, rfl, rfl⟩ := members_tail_sound h hs hread
        exact ⟨_, (k, v) :: es, b, rest, .items hb₁ (.mk ht hb₂ hb₃) hu,
          List.forall_mem_cons.mpr ⟨hv, hes⟩, hs', hb, rfl, by simp⟩

theorem members_complete (h : f.Collects depth tells holds) {u : List Char} {es : List Entry}
    (hu : Braced ('\x7b' :: u) es) (hunknown : ∀ e ∈ es, f.Unknown e) {fuel : Nat}
    (hfuel : u.length < fuel) {a : α} (htells : tells es a) (rest : List Char) :
    ∃ t b, Blank b ∧ holds es t ∧
      collectMembers (f.readMember depth) fuel true f.empty (u ++ rest) =
        .ok (t, b ++ '\x7d' :: rest) := by
  obtain ⟨fuel, rfl⟩ : ∃ k, fuel = k + 1 := ⟨fuel - 1, by omega⟩
  cases hu with
  | @empty b hb =>
    refine ⟨f.empty, b, hb, h.empty, ?_⟩
    rw [List.append_assoc, List.singleton_append, collectMembers,
      nextKey_none.mpr ⟨b, rest, hb, rfl⟩]
  | @items b t u e es hb ht hu =>
    obtain ⟨hv, hes⟩ := List.forall_mem_cons.mp hunknown
    obtain ⟨k, v⟩ := e
    obtain @⟨t, b₁, b₂, _, hk, hb₁, hb₂⟩ := ht
    have hends := hu.ends (.cons (.inr (.inr (.inr rfl))) rest)
    have hlength := hu.length_le
    simp only [List.length_append, List.length_cons] at hfuel
    obtain ⟨s, hmember, hs⟩ := readMember_complete h h.empty htells hv hb₁ hb₂ hends
    have hnext := hk.nextKey_first hb (b₁ ++ ':' :: (b₂ ++ (v ++ (u ++ '\x7d' :: rest))))
    obtain ⟨t', b', hb', ht', hlater⟩ :=
      members_tail_complete h hu hes (by omega : es.length < fuel) hs htells rest
    refine ⟨t', b', hb', ht', ?_⟩
    simp only [List.append_assoc, List.cons_append, List.nil_append, collectMembers, hnext,
      hmember, hlater]

/-! ### Lists -/

/-- At the end of a list only members are left that it need not hold. -/
theorem readList_end {title : String} {ms : List (Member σ)} {index : Nat} {s : σ}
    {cs : List Char} (h : AtListEnd cs) {r : σ × List Char} :
    readList title depth ms index s cs = .ok r ↔ r = (s, cs) ∧ ∀ m ∈ ms, m.trailing = true := by
  induction ms generalizing index with
  | nil =>
    rw [readList, Except.ok.injEq]
    exact ⟨fun heq => ⟨heq.symm, List.forall_mem_nil _⟩, fun ⟨heq, _⟩ => heq.symm⟩
  | cons m ms ih =>
    rw [readList, nextElement_none.mpr h]
    simp only [List.forall_mem_cons]
    split
    · next htrailing => simp [ih, htrailing]
    · next htrailing => simp [htrailing]

/-- The members of a record from some point on, whose entries were not read yet. -/
structure Ahead (f : Fields σ α) (es : List Entry) (ms : List (Member σ)) : Prop where
  known : ∀ m ∈ ms, m ∈ f.members
  fresh : ∀ m ∈ ms, m.name ∉ es.map Prod.fst
  nodup : (ms.map Member.name).Nodup

theorem Ahead.tail {es : List Entry} {m : Member σ} {ms : List (Member σ)}
    (h : f.Ahead es (m :: ms)) (v : List Char) : f.Ahead (es ++ [(m.name, v)]) ms where
  known := fun m' hm' => h.known m' (List.mem_cons_of_mem m hm')
  fresh := by
    intro m' hm' hin
    rw [List.map_append, List.mem_append] at hin
    rcases hin with hin | hin
    · exact h.fresh m' (List.mem_cons_of_mem m hm') hin
    · have hname : m'.name = m.name := List.mem_singleton.mp hin
      have hne := (List.nodup_cons.mp h.nodup).1
      exact hne (hname ▸ List.mem_map_of_mem hm')
  nodup := (List.nodup_cons.mp h.nodup).2

/-- The entries that the values of a list stand for. -/
def placed (ms : List (Member σ)) (vs : List (List Char)) : List Entry :=
  (ms.map Member.name).zip vs

/-- A list may leave out the members behind its values. -/
def MayEnd (ms : List (Member σ)) (vs : List (List Char)) : Prop :=
  vs.length ≤ ms.length ∧ ∀ m ∈ ms.drop vs.length, m.trailing = true

/-- Values after the first one are those of a tail. -/
theorem readList_tail_sound (h : f.Collects depth tells holds) {title : String}
    {ms : List (Member σ)} {index : Nat} (hindex : index ≠ 0) {es : List Entry} {s t : σ}
    (hs : holds es s) (hahead : f.Ahead es ms) {cs after rest : List Char}
    (hread : readList title depth ms index s cs = .ok (t, after))
    (hclose : closeList after = .ok rest) :
    ∃ u vs, Tail Eq u vs ∧ MayEnd ms vs ∧ holds (es ++ placed ms vs) t ∧
      cs = u ++ ']' :: rest := by
  induction ms generalizing index es s cs with
  | nil =>
    cases hread
    obtain ⟨b, hb, rfl⟩ := closeList_iff.mp hclose
    exact ⟨b, [], .done hb, ⟨Nat.zero_le _, by simp⟩, by simpa [placed] using hs, rfl⟩
  | cons m ms ih =>
    by_cases hend : AtListEnd cs
    · obtain ⟨heq, htrailing⟩ := (readList_end hend).mp hread
      cases heq
      obtain ⟨b, hb, rfl⟩ := closeList_iff.mp hclose
      exact ⟨b, [], .done hb, ⟨Nat.zero_le _, by simpa using htrailing⟩,
        by simpa [placed] using hs, rfl⟩
    · rw [readList, decide_eq_false hindex] at hread
      split at hread
      · cases hread
      · next hnext => exact absurd (nextElement_none.mp hnext) hend
      · next start hnext =>
        split at hread
        · cases hread
        · next hvalue =>
          obtain ⟨b₁, b₂, hb₁, hb₂, rfl⟩ := nextElement_later hnext
          obtain ⟨b₃, v, hb₃, hs', rfl⟩ := h.sound (hahead.known m List.mem_cons_self) hs
            (hahead.fresh m List.mem_cons_self) hvalue
          obtain ⟨u, vs, hu, hmay, hs'', rfl⟩ :=
            ih (Nat.succ_ne_zero index) hs' (hahead.tail v) hread
          exact ⟨_, v :: vs, .more hb₁ (hb₂.append hb₃) rfl hu,
            ⟨by simpa using hmay.1, by simpa using hmay.2⟩, by simpa [placed] using hs'', by simp⟩

theorem readList_tail_complete (h : f.Collects depth tells holds) (title : String) {u : List Char}
    {vs : List (List Char)} (hu : Tail Eq u vs) {ms : List (Member σ)} (hend : MayEnd ms vs)
    {index : Nat} (hindex : index ≠ 0) {es : List Entry} {s : σ} (hs : holds es s)
    (hahead : f.Ahead es ms) {a : α} (htells : tells (es ++ placed ms vs) a) (rest : List Char) :
    ∃ t b, Blank b ∧ holds (es ++ placed ms vs) t ∧
      readList title depth ms index s (u ++ ']' :: rest) = .ok (t, b ++ ']' :: rest) := by
  induction hu generalizing ms index es s with
  | @done b hb =>
    refine ⟨s, b, hb, by simpa [placed] using hs, ?_⟩
    exact (readList_end ⟨b, rest, hb, rfl⟩).mpr ⟨rfl, by simpa using hend.2⟩
  | @more b b' t u v vs hb hb' ht htail ih =>
    subst ht
    cases ms with
    | nil => exact absurd hend.1 (by simp)
    | cons m ms =>
      obtain ⟨_, hopens, hread⟩ := h.complete (hahead.known m List.mem_cons_self) hs htells
      obtain ⟨s', hvalue, hs'⟩ :=
        hread [] _ .nil (htail.ends (.cons (.inr (.inr (.inl rfl))) rest))
      have hmay : MayEnd ms vs := ⟨by simpa using hend.1, by simpa using hend.2⟩
      have hnext := hopens.nextElement_later hb hb' (u ++ ']' :: rest)
      obtain ⟨s'', b'', hb'', hs'', hlater⟩ := ih hmay (Nat.succ_ne_zero index) hs'
        (hahead.tail t) (by simpa [placed] using htells)
      refine ⟨s'', b'', hb'', by simpa [placed] using hs'', ?_⟩
      rw [List.nil_append] at hvalue
      rw [readList, decide_eq_false hindex]
      simp only [List.append_assoc, List.cons_append, hnext, hvalue, hlater]

theorem ahead_members (hnodup : f.slots.names.Nodup) : f.Ahead [] f.members where
  known := fun _ hm => hm
  fresh := fun _ _ => List.not_mem_nil
  nodup := names_slots f ▸ hnodup

/-- The values of a list, from behind its bracket to before the other one. -/
theorem readList_sound (h : f.Collects depth tells holds) (hnodup : f.slots.names.Nodup)
    {title : String} {t : σ} {cs after rest : List Char}
    (hread : readList title depth f.members 0 f.empty cs = .ok (t, after))
    (hclose : closeList after = .ok rest) :
    ∃ u vs, Bracketed ('[' :: u) vs ∧ MayEnd f.members vs ∧ holds (placed f.members vs) t ∧
      cs = u ++ rest := by
  have hahead := ahead_members hnodup
  by_cases hend : AtListEnd cs
  · obtain ⟨heq, htrailing⟩ := (readList_end hend).mp hread
    cases heq
    obtain ⟨b, hb, rfl⟩ := closeList_iff.mp hclose
    exact ⟨_, [], .empty hb, ⟨Nat.zero_le _, by simpa using htrailing⟩,
      by simpa [placed] using h.empty, by simp⟩
  · cases hm : f.members with
    | nil =>
      rw [hm] at hread
      cases hread
      obtain ⟨b, hb, rfl⟩ := closeList_iff.mp hclose
      exact absurd ⟨b, rest, hb, rfl⟩ hend
    | cons m ms =>
      rw [hm] at hahead
      rw [hm, readList, decide_eq_true rfl] at hread
      split at hread
      · cases hread
      · next hnext => exact absurd (nextElement_none.mp hnext) hend
      · next start hnext =>
        split at hread
        · cases hread
        · next hvalue =>
          obtain ⟨b₁, hb₁, rfl⟩ := nextElement_first hnext
          obtain ⟨b₂, v, hb₂, hs, rfl⟩ := h.sound (hahead.known m List.mem_cons_self) h.empty
            (hahead.fresh m List.mem_cons_self) hvalue
          obtain ⟨u, vs, hu, hmay, hs', rfl⟩ :=
            readList_tail_sound h Nat.one_ne_zero hs (hahead.tail v) hread hclose
          exact ⟨_, v :: vs, .items (hb₁.append hb₂) rfl hu,
            ⟨by simpa using hmay.1, by simpa using hmay.2⟩, by simpa [placed] using hs', by simp⟩

theorem readList_complete (h : f.Collects depth tells holds) (hnodup : f.slots.names.Nodup)
    (title : String) {u : List Char} {vs : List (List Char)} (hu : Bracketed ('[' :: u) vs)
    (hend : MayEnd f.members vs) {a : α} (htells : tells (placed f.members vs) a)
    (rest : List Char) :
    ∃ t b, Blank b ∧ holds (placed f.members vs) t ∧
      readList title depth f.members 0 f.empty (u ++ rest) = .ok (t, b ++ ']' :: rest) := by
  have hahead := ahead_members hnodup
  cases hu with
  | @empty b hb =>
    refine ⟨f.empty, b, hb, by simpa [placed] using h.empty, ?_⟩
    rw [List.append_assoc, List.singleton_append]
    exact (readList_end ⟨b, rest, hb, rfl⟩).mpr ⟨rfl, by simpa using hend.2⟩
  | @items b t u v vs hb ht htail =>
    subst ht
    cases hm : f.members with
    | nil =>
      rw [hm] at hend
      exact absurd hend.1 (by simp)
    | cons m ms =>
      rw [hm] at hahead hend htells
      obtain ⟨_, hopens, hread⟩ := h.complete (hahead.known m List.mem_cons_self) h.empty htells
      obtain ⟨s', hvalue, hs'⟩ :=
        hread [] _ .nil (htail.ends (.cons (.inr (.inr (.inl rfl))) rest))
      have hmay : MayEnd ms vs := ⟨by simpa using hend.1, by simpa using hend.2⟩
      have hnext := hopens.nextElement_first hb (u ++ ']' :: rest)
      obtain ⟨s'', b'', hb'', hs'', hlater⟩ := readList_tail_complete h title htail hmay
        Nat.one_ne_zero hs' (hahead.tail t) (by simpa [placed] using htells) rest
      refine ⟨s'', b'', hb'', by simpa [placed] using hs'', ?_⟩
      rw [List.nil_append] at hvalue
      rw [readList, decide_eq_true rfl]
      simp only [List.append_assoc, List.cons_append, List.nil_append, hnext, hvalue, hlater]

/-! ### The record -/

theorem finish_ok {x : Reading σ} {a : α} {rest : List Char} :
    x.bind f.finish = .ok (a, rest) ↔ ∃ s, x = .ok (s, rest) ∧ f.build s = .ok a := by
  cases x with
  | error e => simp [Except.bind]
  | ok r =>
    obtain ⟨s, after⟩ := r
    simp only [Except.bind, finish, Except.ok.injEq, Prod.mk.injEq]
    constructor
    · intro h
      split at h
      · next hbuild =>
        cases h
        exact ⟨s, ⟨rfl, rfl⟩, hbuild⟩
      · cases h
    · rintro ⟨s, ⟨rfl, rfl⟩, hbuild⟩
      rw [hbuild]

theorem mayEnd_iff {vs : List (List Char)} :
    MayEnd f.members vs ↔
      vs.length ≤ f.slots.length ∧ ∀ m ∈ f.slots.drop vs.length, m.2 = true := by
  simp [MayEnd, slots, ← List.map_drop]

/-- **A record is read from the texts of the grammar, and from no others.** -/
theorem Collects.takes (h : f.Collects depth tells holds) (hnodup : f.slots.names.Nodup)
    (title : String) : Takes ((f.format title).read (depth + 1)) (RecordText f.slots tells) where
  opens := by
    intro t a ht
    cases ht with
    | object h => cases h <;> exact ⟨'\x7b', _, rfl, by decide, by decide⟩
    | list h => cases h <;> exact ⟨'[', _, rfl, by decide, by decide⟩
  sound := by
    intro cs rest a hread
    obtain ⟨b, hb, hcs⟩ := skipSpace_split cs
    simp only [format] at hread
    split at hread
    · cases hread
    · next c inner heq =>
      rw [heq] at hcs
      split at hread
      · next hc =>
        subst hc
        obtain ⟨after, hinner, hclose⟩ := inBrackets_ok_iff.mp hread
        obtain ⟨s, hlist, hbuild⟩ := finish_ok.mp hinner
        obtain ⟨u, vs, hu, hmay, hs, rfl⟩ := readList_sound h hnodup hlist hclose
        have htells := (h.build hs).mp hbuild
        rw [placed, ← names_slots] at htells
        exact ⟨b, _, hb, .list hu (mayEnd_iff.mp hmay).1 (mayEnd_iff.mp hmay).2 htells, hcs⟩
      split at hread
      · next hc =>
        subst hc
        obtain ⟨after, hinner, hclose⟩ := inBraces_ok_iff.mp hread
        obtain ⟨s, hobject, hbuild⟩ := finish_ok.mp hinner
        obtain ⟨u, es, b', rest', hu, hes, hs, hb', rfl, rfl⟩ := members_sound h hobject
        rw [closeObject_iff.mpr ⟨b', hb', rfl⟩] at hclose
        cases hclose
        exact ⟨b, _, hb, .object hu hes ((h.build hs).mp hbuild), hcs⟩
      · cases hread
  complete := by
    intro b t rest a hb ht _
    cases ht with
    | object hobject hother htells =>
      obtain ⟨u, rfl⟩ : ∃ u, t = '\x7b' :: u := by cases hobject <;> exact ⟨_, rfl⟩
      have hopens : Opens ('\x7b' :: u) := ⟨'\x7b', u, rfl, by decide, by decide⟩
      have hspace := hopens.skipSpace hb rest
      have hfuel : u.length < (u ++ rest).length + 1 := by
        rw [List.length_append]
        omega
      obtain ⟨s, b', hb', hs, hread⟩ := members_complete h hobject hother hfuel htells rest
      have hinner := finish_ok.mpr ⟨s, hread, (h.build hs).mpr htells⟩
      rw [List.cons_append] at hspace ⊢
      simp only [format, hspace, Char.reduceEq, if_false, if_true]
      exact inBraces_ok_iff.mpr ⟨_, hinner, closeObject_iff.mpr ⟨b', hb', rfl⟩⟩
    | list hlist hlength hmissing htells =>
      obtain ⟨u, rfl⟩ : ∃ u, t = '[' :: u := by cases hlist <;> exact ⟨_, rfl⟩
      have hopens : Opens ('[' :: u) := ⟨'[', u, rfl, by decide, by decide⟩
      have hspace := hopens.skipSpace hb rest
      rw [names_slots] at htells
      obtain ⟨s, b', hb', hs, hread⟩ := readList_complete h hnodup (f.lengthTitle title) hlist
        (mayEnd_iff.mpr ⟨hlength, hmissing⟩) htells rest
      have hinner := finish_ok.mpr ⟨s, hread, (h.build hs).mpr htells⟩
      rw [List.cons_append] at hspace ⊢
      simp only [format, hspace, if_true]
      exact inBrackets_ok_iff.mpr ⟨_, hinner, closeList_iff.mpr ⟨b', hb', rfl⟩⟩

end Fields

end DetectionJobs.Json
