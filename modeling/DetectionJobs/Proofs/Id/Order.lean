/-
  DetectionJobs/Proofs/Id/Order.lean
  ==================================
  **In which order identifiers are handed out.**

  Written identifiers compare like their numbers.  The generator's identifiers increase,
  whatever the clock and the random source do.  It has none to give when the clock has not
  moved on and the random bits of its last one are all ones, and one identifier is enough to
  bring that about.  A spare one is handed out then, which need not come after those before it.
-/
import DetectionJobs.Id.Ulid
import Mathlib.Data.List.Chain
import Mathlib.Data.List.Lex

namespace DetectionJobs.Ulid

/-! ### Written identifiers -/

theorem length_fixedDigits (width n : Nat) : (fixedDigits width n).length = width := by
  induction width generalizing n with
  | zero => rfl
  | succ width ih => simp [fixedDigits, ih]

theorem length_text (u : Ulid) : u.text.length = 26 := by
  rw [text, String.length_ofList, length_fixedDigits]

theorem digitChar_lt {a b : Nat} (hb : b < 32) (h : a < b) : digitChar a < digitChar b := by
  have hall : ∀ b < 32, ∀ a < b, digitChar a < digitChar b := by decide
  exact hall b hb a h

/-- With one more letter at their ends, texts of one length compare by that letter if they
    are equal up to there. -/
theorem append_lt_append {xs ys : List Char} (h : xs.length = ys.length) (a b : Char) :
    xs ++ [a] < ys ++ [b] ↔ xs < ys ∨ xs = ys ∧ a < b := by
  induction xs generalizing ys with
  | nil =>
    cases ys with
    | nil => simp [List.cons_lt_cons_iff]
    | cons y ys => cases h
  | cons x xs ih =>
    cases ys with
    | nil => cases h
    | cons y ys =>
      simp only [List.cons_append, List.cons_lt_cons_iff, ih (Nat.succ.inj h), List.cons.injEq]
      tauto

theorem fixedDigits_lt {width m n : Nat} (hn : n < 32 ^ width) (h : m < n) :
    fixedDigits width m < fixedDigits width n := by
  induction width generalizing m n with
  | zero => omega
  | succ width ih =>
    have hquotient : n / 32 < 32 ^ width := by
      rw [Nat.pow_succ] at hn
      omega
    have hlength : (fixedDigits width (m / 32)).length = (fixedDigits width (n / 32)).length := by
      rw [length_fixedDigits, length_fixedDigits]
    -- the digits before the last one decide, unless they agree
    rw [fixedDigits, fixedDigits, append_lt_append hlength]
    by_cases hlt : m / 32 < n / 32
    · exact Or.inl (ih hquotient hlt)
    · have heq : m / 32 = n / 32 := by omega
      exact Or.inr ⟨congrArg _ heq, digitChar_lt (Nat.mod_lt _ (by decide)) (by omega)⟩

theorem text_lt_of_value_lt {u v : Ulid} (h : u.value < v.value) : u.text < v.text := by
  rw [text, text, String.lt_iff, String.toList_ofList, String.toList_ofList]
  exact fixedDigits_lt (Nat.lt_trans v.isSmall (by decide)) h

/-- Written identifiers compare like their numbers. -/
theorem text_lt_text {u v : Ulid} : u.text < v.text ↔ u.value < v.value := by
  refine ⟨?_, text_lt_of_value_lt⟩
  intro h
  by_contra hle
  rcases Nat.lt_or_eq_of_le (Nat.not_lt.mp hle) with hlt | heq
  · exact String.lt_asymm h (text_lt_of_value_lt hlt)
  · rw [text, text, heq] at h
    exact String.lt_irrefl _ h

/-! ### The next identifier -/

/-- The clock can be written in the 48 bits that an identifier has for it. -/
def Source.Fits (s : Source) : Prop := s.millis < 2 ^ 48

def IsLast (u : Ulid) : Prop := u.value % randomCount = randomCount - 1

section Next

variable {previous u : Ulid} {s : Source}

theorem value_ulid (h : s.Fits) :
    s.ulid.value = s.millis * randomCount + s.random % randomCount := by
  show s.millis % 2 ^ 48 * randomCount + _ = _
  rw [Nat.mod_eq_of_lt h]

theorem lt_ulid (h : s.Fits) (hmillis : previous.millis < s.millis) :
    previous.value < s.ulid.value := by
  have hnext : previous.value < s.millis * randomCount :=
    (Nat.div_lt_iff_lt_mul (by decide)).mp hmillis
  rw [value_ulid h]
  omega

theorem value_next? (h : previous.next? = some u) : u.value = previous.value + 1 := by
  unfold next? at h
  split at h
  · cases h
  · cases h
    rfl

theorem lt_of_generate? (h : s.Fits) (hgenerate : generate? previous s = some u) :
    previous.value < u.value := by
  unfold generate? at hgenerate
  split at hgenerate
  · rw [value_next? hgenerate]
    omega
  · cases hgenerate
    exact lt_ulid h (by omega)

theorem generate?_eq_none :
    generate? previous s = none ↔ s.millis ≤ previous.millis ∧ previous.IsLast := by
  unfold generate? next? IsLast
  split
  · split <;> simp_all
  · simp_all

/-- After the last identifier of its millisecond, one made of another reading of the clock
    comes if that is a later millisecond. -/
theorem IsLast.lt_ulid_iff (hlast : previous.IsLast) (h : s.Fits) :
    previous.value < s.ulid.value ↔ previous.millis < s.millis := by
  refine ⟨?_, lt_ulid h⟩
  intro hlt
  have hrandom : s.random % randomCount < randomCount := Nat.mod_lt _ (by decide)
  have hparts := Nat.div_add_mod previous.value randomCount
  rw [value_ulid h] at hlt
  rw [hlast] at hparts
  unfold millis
  by_contra hle
  have hmul := Nat.mul_le_mul_right randomCount (Nat.not_lt.mp hle)
  rw [Nat.mul_comm randomCount] at hparts
  omega

end Next

/-! ### One identifier after the other -/

/-- What is drawn for an identifier, and for the spare one if that is needed. -/
structure Draw where
  source : Source
  spare : Source

def Draw.Fits (d : Draw) : Prop := d.source.Fits ∧ d.spare.Fits

/-- An identifier that was handed out, and what the generator remembered before. -/
structure Issue where
  remembered : Ulid
  draw : Draw
  id : Ulid

def Issue.isSpare (i : Issue) : Bool := (generate? i.remembered i.draw.source).isNone

/-- The identifiers that are handed out by a generator that remembers `previous`. -/
def issues (previous : Ulid) : List Draw → List Issue
  | [] => []
  | d :: draws =>
    let (last, id) := generate previous d.source d.spare
    ⟨previous, d, id⟩ :: issues last draws

def generated (is : List Issue) : List Ulid := (is.filter fun i => !i.isSpare).map (·.id)

/-- What can be relied on when identifiers are handed out one after the other. -/
structure InOrder (is : List Issue) : Prop where
  lengths : ∀ i ∈ is, i.id.text.length = 26
  increasing : ((generated is).map text).Pairwise (· < ·)
  remembered : ∀ earlier i later, is = earlier ++ i :: later →
    i.remembered = (generated earlier).getLastD zero
  spared : ∀ i ∈ is, i.isSpare ↔
    i.draw.source.millis ≤ i.remembered.millis ∧ i.remembered.IsLast
  spare : ∀ i ∈ is, i.isSpare →
    (i.remembered.text < i.id.text ↔ i.remembered.millis < i.draw.spare.millis)

section Issues

variable {previous u : Ulid} {d : Draw} {draws : List Draw}

theorem issues_of_none (h : generate? previous d.source = none) :
    issues previous (d :: draws) = ⟨previous, d, d.spare.ulid⟩ :: issues previous draws := by
  simp only [issues, generate, h]

theorem issues_of_some (h : generate? previous d.source = some u) :
    issues previous (d :: draws) = ⟨previous, d, u⟩ :: issues u draws := by
  simp only [issues, generate, h]

theorem generated_of_none {is : List Issue} (h : generate? previous d.source = none) (id : Ulid) :
    generated (⟨previous, d, id⟩ :: is) = generated is := by
  simp [generated, Issue.isSpare, h]

theorem generated_of_some {is : List Issue} (h : generate? previous d.source = some u)
    (id : Ulid) : generated (⟨previous, d, id⟩ :: is) = id :: generated is := by
  simp [generated, Issue.isSpare, h]

/-- Each identifier that is generated comes after the one before it; the first of them after
    what was remembered. -/
theorem isChain_generated (h : ∀ d ∈ draws, d.Fits) (previous : Ulid) :
    (previous :: generated (issues previous draws)).IsChain (·.value < ·.value) := by
  induction draws generalizing previous with
  | nil => exact .singleton previous
  | cons d draws ih =>
    obtain ⟨hd, hdraws⟩ := List.forall_mem_cons.mp h
    cases hgenerate : generate? previous d.source with
    | none =>
      rw [issues_of_none hgenerate, generated_of_none hgenerate]
      exact ih hdraws previous
    | some u =>
      rw [issues_of_some hgenerate, generated_of_some hgenerate]
      exact .cons_cons (lt_of_generate? hd.1 hgenerate) (ih hdraws u)

/-- What is remembered next is the last identifier that was generated. -/
theorem issues_cons (previous : Ulid) (d : Draw) (draws : List Draw) :
    ∃ id last, issues previous (d :: draws) = ⟨previous, d, id⟩ :: issues last draws ∧
      ∀ is, (generated (⟨previous, d, id⟩ :: is)).getLastD previous =
        (generated is).getLastD last := by
  cases hgenerate : generate? previous d.source with
  | none =>
    refine ⟨d.spare.ulid, previous, issues_of_none hgenerate, ?_⟩
    intro is
    rw [generated_of_none hgenerate]
  | some u =>
    refine ⟨u, u, issues_of_some hgenerate, ?_⟩
    intro is
    rw [generated_of_some hgenerate, List.getLastD_cons]

theorem remembered_of_issues {earlier later : List Issue} {i : Issue}
    (h : issues previous draws = earlier ++ i :: later) :
    i.remembered = (generated earlier).getLastD previous := by
  induction draws generalizing previous earlier with
  | nil => simp [issues] at h
  | cons d draws ih =>
    obtain ⟨id, last, hissues, hlast⟩ := issues_cons previous d draws
    rw [hissues] at h
    cases earlier with
    | nil =>
      cases h
      rfl
    | cons first earlier =>
      obtain ⟨hfirst, hrest⟩ := List.cons.inj h
      rw [← hfirst, hlast]
      exact ih hrest

theorem draw_of_issues {i : Issue} (h : i ∈ issues previous draws) :
    i.draw ∈ draws ∧ (i.isSpare → i.id = i.draw.spare.ulid) := by
  induction draws generalizing previous with
  | nil => cases h
  | cons d draws ih =>
    cases hgenerate : generate? previous d.source with
    | none =>
      rw [issues_of_none hgenerate] at h
      rcases List.mem_cons.mp h with rfl | h
      · exact ⟨List.mem_cons_self, fun _ => rfl⟩
      · exact ⟨List.mem_cons_of_mem _ (ih h).1, (ih h).2⟩
    | some u =>
      rw [issues_of_some hgenerate] at h
      rcases List.mem_cons.mp h with rfl | h
      · refine ⟨List.mem_cons_self, ?_⟩
        intro hspare
        simp [Issue.isSpare, hgenerate] at hspare
      · exact ⟨List.mem_cons_of_mem _ (ih h).1, (ih h).2⟩

end Issues

theorem Issue.isSpare_iff (i : Issue) :
    i.isSpare ↔ i.draw.source.millis ≤ i.remembered.millis ∧ i.remembered.IsLast := by
  rw [Issue.isSpare, Option.isNone_iff_eq_none, generate?_eq_none]

/-- **The generator's identifiers increase**, however the clock runs and whatever is drawn.  A
    spare one is handed out just where the clock is not past the last one generated and its
    random bits are all ones; it comes after that one if the clock has moved on meanwhile. -/
theorem issues_inOrder {draws : List Draw} (h : ∀ d ∈ draws, d.Fits) :
    InOrder (issues zero draws) := by
  constructor
  · intro i _
    exact length_text i.id
  · have hvalues := (isChain_generated h zero).tail
    have htexts : ((generated (issues zero draws)).map text).IsChain (· < ·) := by
      rw [List.isChain_map]
      exact hvalues.imp fun _ _ => text_lt_of_value_lt
    exact List.isChain_iff_pairwise.mp htexts
  · intro earlier i later hsplit
    exact remembered_of_issues hsplit
  · intro i _
    exact i.isSpare_iff
  · intro i hi hspare
    obtain ⟨hdraw, hid⟩ := draw_of_issues hi
    rw [text_lt_text, hid hspare]
    exact (i.isSpare_iff.mp hspare).2.lt_ulid_iff (h _ hdraw).2

/-- In one millisecond the random source gives 80 ones, twice. -/
def ones : List Draw := [⟨⟨1, 2 ^ 80 - 1⟩, ⟨1, 0⟩⟩, ⟨⟨1, 5⟩, ⟨1, 2 ^ 80 - 1⟩⟩, ⟨⟨1, 5⟩, ⟨1, 7⟩⟩]

theorem ones_fit : ∀ d ∈ ones, d.Fits := by
  unfold Draw.Fits Source.Fits
  decide

theorem issues_inOrder_of_ones :
    (issues zero ones).length = 3 ∧ (generated (issues zero ones)).length = 1 ∧
      InOrder (issues zero ones) :=
  ⟨by decide, by decide, issues_inOrder ones_fit⟩

/-- The second identifier is the first one again, and the third one is less. -/
theorem issues_not_increasing :
    ¬ ∀ draws : List Draw, (∀ d ∈ draws, d.Fits) →
      ((issues zero draws).map (·.id.text)).Pairwise (· < ·) := by
  intro h
  have hones := h ones ones_fit
  revert hones
  decide +kernel

end DetectionJobs.Ulid
