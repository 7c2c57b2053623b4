/-
  DetectionJobs/Proofs/Id/Uuids.lean
  ==================================
  **The identifier of a stored prediction is read back from its text.**

  The text is five groups of hexadecimal digits.  The reader checks the groups and then
  reads the digits of all of them as one number, the hyphens passed over.
-/
import DetectionJobs.Job.Prediction
import DetectionJobs.Proofs.Json.Written

namespace DetectionJobs

namespace Uuid

open Text (hexValue?)

/-! ### Digits -/

theorem length_fixedDigits (width n : Nat) : (fixedDigits width n).length = width := by
  induction width generalizing n with
  | zero => rfl
  | succ width ih => simp [fixedDigits, ih]

theorem mem_fixedDigits {width n : Nat} {c : Char} (h : c ∈ fixedDigits width n) :
    ∃ d < 16, c = Nat.digitChar d := by
  induction width generalizing n with
  | zero => cases h
  | succ width ih =>
    rw [fixedDigits, List.mem_append, List.mem_singleton] at h
    rcases h with h | rfl
    · exact ih h
    · exact ⟨n % 16, Nat.mod_lt _ (by decide), rfl⟩

/-- A digit is none of the signs that may stand around the digits. -/
theorem digitChar_ne : ∀ d < 16, Nat.digitChar d ≠ '-' ∧ Nat.digitChar d ≠ '\x7b' ∧
    (Nat.digitChar d).toLower ≠ 'u' := by decide

theorem hyphen_not_mem (width n : Nat) : '-' ∉ fixedDigits width n := by
  intro h
  obtain ⟨d, hd, heq⟩ := mem_fixedDigits h
  exact (digitChar_ne d hd).1 heq.symm

/-- Reads one more character of an identifier. -/
def addDigit (n : Nat) (c : Char) : Nat :=
  match hexValue? c with
  | some d => 16 * n + d
  | none => n

theorem hexNumber_eq (cs : List Char) : Text.hexNumber cs = cs.foldl addDigit 0 := rfl

/-- Digits of a fixed number add as many places. -/
theorem foldl_fixedDigits (width n taken : Nat) :
    (fixedDigits width n).foldl addDigit taken = taken * 16 ^ width + n % 16 ^ width := by
  induction width generalizing n with
  | zero => simp [fixedDigits, Nat.mod_one]
  | succ width ih =>
    have hdigit : hexValue? (Nat.digitChar (n % 16)) = some (n % 16) :=
      Json.hexValue?_digitChar _ (Nat.mod_lt _ (by decide))
    have hmod : n % 16 ^ (width + 1) = 16 * (n / 16 % 16 ^ width) + n % 16 := by
      rw [Nat.pow_succ, Nat.mul_comm, Nat.mod_mul, Nat.add_comm]
    rw [fixedDigits, List.foldl_append, ih, List.foldl_cons, List.foldl_nil, addDigit, hdigit,
      hmod, Nat.pow_succ]
    simp only
    rw [Nat.mul_add, Nat.add_assoc, Nat.mul_comm 16 (taken * _), Nat.mul_assoc]

theorem foldl_hyphen (cs : List Char) (taken : Nat) :
    ('-' :: cs).foldl addDigit taken = cs.foldl addDigit taken := rfl

/-- **The digits of an identifier are those of its number.** -/
theorem hexNumber_chars (u : Uuid) : Text.hexNumber u.chars = u.value := by
  have hsmall := u.isSmall
  simp only [hexNumber_eq, chars, List.foldl_append, foldl_hyphen, foldl_fixedDigits]
  omega

/-! ### Groups -/

theorem groups_ne_nil (cs : List Char) : groups cs ≠ [] := by
  cases cs with
  | nil => exact List.cons_ne_nil _ _
  | cons c cs =>
    rw [groups]
    split
    · exact List.cons_ne_nil _ _
    · split <;> exact List.cons_ne_nil _ _

/-- A group ends at the hyphen. -/
theorem groups_append {g : List Char} (hg : '-' ∉ g) (rest : List Char) :
    groups (g ++ '-' :: rest) = g :: groups rest := by
  induction g with
  | nil =>
    rw [List.nil_append, groups]
    cases h : groups rest with
    | nil => exact absurd h (groups_ne_nil rest)
    | cons g gs => rfl
  | cons c g ih =>
    rw [List.mem_cons, not_or] at hg
    rw [List.cons_append, groups, ih hg.2]
    simp only [if_neg (Ne.symm hg.1)]

theorem groups_last {g : List Char} (hg : '-' ∉ g) : groups g = [g] := by
  induction g with
  | nil => rfl
  | cons c g ih =>
    rw [List.mem_cons, not_or] at hg
    rw [groups, ih hg.2]
    simp only [if_neg (Ne.symm hg.1)]

theorem groups_chars (u : Uuid) : groups u.chars =
    [fixedDigits 8 (u.value / 16 ^ 24), fixedDigits 4 (u.value / 16 ^ 20),
      fixedDigits 4 (u.value / 16 ^ 16), fixedDigits 4 (u.value / 16 ^ 12),
      fixedDigits 12 u.value] := by
  simp only [chars, List.append_assoc, List.cons_append]
  rw [groups_append (hyphen_not_mem _ _), groups_append (hyphen_not_mem _ _),
    groups_append (hyphen_not_mem _ _), groups_append (hyphen_not_mem _ _),
    groups_last (hyphen_not_mem _ _)]

/-! ### The whole text -/

/-- Nothing stands around the digits. -/
theorem unwrap_chars (u : Uuid) : unwrap u.chars = (u.chars, 0, true) := by
  have hlength := length_fixedDigits 8 (u.value / 16 ^ 24)
  obtain ⟨c, cs, hcs⟩ : ∃ c cs, fixedDigits 8 (u.value / 16 ^ 24) = c :: cs := by
    cases h : fixedDigits 8 (u.value / 16 ^ 24) with
    | nil => rw [h] at hlength; cases hlength
    | cons c cs => exact ⟨c, cs, rfl⟩
  obtain ⟨d, hd, rfl⟩ := mem_fixedDigits (hcs ▸ List.mem_cons_self : c ∈ fixedDigits 8 _)
  obtain ⟨_, hbrace, hurn⟩ := digitChar_ne d hd
  obtain ⟨rest, hrest⟩ : ∃ rest, u.chars = Nat.digitChar d :: rest := by
    simp only [chars, hcs, List.cons_append]
    exact ⟨_, rfl⟩
  have hfirst : ¬ (u.chars.head? = some '\x7b' ∧ u.chars.getLast? = some '\x7d') := by
    rw [hrest]
    rintro ⟨h, _⟩
    exact hbrace (Option.some.inj h)
  have hprefix : ¬ (u.chars.take 9).map Char.toLower = "urn:uuid:".toList := by
    rw [hrest, List.take_succ_cons, List.map_cons]
    intro h
    exact hurn (List.cons.inj h).1
  rw [unwrap, if_neg hfirst, if_neg hprefix]

/-- Only digits and hyphens stand in the text. -/
theorem mem_chars {u : Uuid} {c : Char} (h : c ∈ u.chars) :
    c = '-' ∨ ∃ d < 16, c = Nat.digitChar d := by
  simp only [chars, List.mem_append, List.mem_cons] at h
  rcases h with (((h | rfl | h) | rfl | h) | rfl | h) | rfl | h
  all_goals first | exact .inl rfl | exact .inr (mem_fixedDigits h)

theorem fault?_chars (u : Uuid) : fault? u.chars = none := by
  have hfind : u.chars.find? (fun c => c != '-' && (hexValue? c).isNone) = none := by
    refine List.find?_eq_none.mpr fun c hc => ?_
    rcases mem_chars hc with rfl | ⟨d, hd, rfl⟩
    · decide
    · simp [Json.hexValue?_digitChar d hd]
  simp only [fault?, unwrap_chars, hfind, groups_chars]
  simp [groupLengths, groupFault, length_fixedDigits]

/-- **An identifier is read back from its text.** -/
theorem read_text (u : Uuid) : read u.text = .ok u := by
  have hchars : u.text.toList = u.chars := String.toList_ofList
  have hvalue : Text.hexNumber u.chars % 16 ^ 32 = u.value := by
    rw [hexNumber_chars, Nat.mod_eq_of_lt u.isSmall]
  simp only [read, hchars, fault?_chars, unwrap_chars]
  obtain ⟨value, isSmall⟩ := u
  simp only at hvalue
  congr

end Uuid

open Json

theorem uuidFormat_reads (u : Uuid) (depth : Nat) : uuidFormat.Reads depth (.text u.text) u := by
  refine Format.string_reads ?_ depth
  rw [Uuid.read_text]
  rfl

end DetectionJobs
