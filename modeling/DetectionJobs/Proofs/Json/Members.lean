/-
  DetectionJobs/Proofs/Json/Members.lean
  ======================================
  **What was written is read back: records.**

  A record is read member by member into a state.  Written members *fill* a record's
  fields from one state to another if each of them is known, not yet set, and read by its
  format.  Fields are put together with `and`, and so are the members that fill them;
  what is left to a record is to list its members once.
-/
import DetectionJobs.Proofs.Json.Written

namespace DetectionJobs.Json

/-! ### Members of an object -/

def writtenMember (m : String × Value) : List Char := writtenText m.1 ++ ':' :: m.2.chars

/-- Members after the first one, each with its comma. -/
def laterMembers (ms : List (String × Value)) : List Char :=
  ms.flatMap fun m => ',' :: writtenMember m

theorem memberChars_cons (m : String × Value) (ms : List (String × Value)) :
    memberChars (m :: ms) = writtenMember m ++ laterMembers ms := by
  induction ms generalizing m with
  | nil => simp [memberChars, writtenMember, laterMembers]
  | cons m' ms ih =>
    rw [memberChars, ih m']
    simp [laterMembers, writtenMember]

theorem delimited_laterMembers (ms : List (String × Value)) {tail : List Char}
    (h : Delimited tail) : Delimited (laterMembers ms ++ tail) := by
  cases ms with
  | nil => exact h
  | cons m ms => exact .comma _

theorem skipSpace_quote (rest : List Char) : skipSpace ('"' :: rest) = '"' :: rest := rfl

theorem skipSpace_comma (rest : List Char) : skipSpace (',' :: rest) = ',' :: rest := rfl

theorem nextKey_first (name : String) (rest : List Char) :
    nextKey true (writtenText name ++ rest) = .ok (some (name, rest)) := by
  simp [nextKey, writtenText, skipSpace_quote, text_written, Except.map]

theorem nextKey_later (name : String) (rest : List Char) :
    nextKey false (',' :: (writtenText name ++ rest)) = .ok (some (name, rest)) := by
  simp [nextKey, writtenText, skipSpace_comma, skipSpace_quote, text_written, Except.map]

/-! ### Reading members one after the other -/

/-- Written members that take one state to another, one step each; `tail` follows the last. -/
inductive Steps (step : σ → String → List Char → Except Failure (σ × List Char))
    (tail : List Char) : σ → List (String × Value) → σ → Prop where
  | nil (s : σ) : Steps step tail s [] s
  | cons {s t u : σ} {name : String} {v : Value} {ms : List (String × Value)}
      (hstep : step s name (':' :: (v.chars ++ (laterMembers ms ++ tail))) =
        .ok (t, laterMembers ms ++ tail))
      (hrest : Steps step tail t ms u) : Steps step tail s ((name, v) :: ms) u

section Steps

variable {step : σ → String → List Char → Except Failure (σ × List Char)} {s t u : σ}
  {ms ns : List (String × Value)}

theorem laterMembers_append (ms ns : List (String × Value)) :
    laterMembers (ms ++ ns) = laterMembers ms ++ laterMembers ns := List.flatMap_append

theorem Steps.append {tail : List Char} (h : Steps step (laterMembers ns ++ tail) s ms t)
    (h' : Steps step tail t ns u) : Steps step tail s (ms ++ ns) u := by
  induction h with
  | nil => exact h'
  | @cons _ _ _ _ _ ms hstep _ ih =>
    have hlater : laterMembers (ms ++ ns) ++ tail =
        laterMembers ms ++ (laterMembers ns ++ tail) := by
      rw [laterMembers_append, List.append_assoc]
    exact .cons (hlater ▸ hstep) (ih h')

theorem collectMembers_later {rest : List Char} (h : Steps step ('\x7d' :: rest) s ms t)
    {fuel : Nat} (hfuel : ms.length < fuel) :
    collectMembers step fuel false s (laterMembers ms ++ '\x7d' :: rest) =
      .ok (t, '\x7d' :: rest) := by
  induction h generalizing fuel with
  | nil =>
    obtain ⟨fuel, rfl⟩ := Nat.exists_eq_add_of_lt hfuel
    rfl
  | @cons s t u name v ms hstep _ ih =>
    obtain ⟨fuel, rfl⟩ : ∃ k, fuel = k + 1 := ⟨fuel - 1, by omega⟩
    have hsplit : laterMembers ((name, v) :: ms) ++ '\x7d' :: rest =
        ',' :: (writtenText name ++ ':' :: (v.chars ++ (laterMembers ms ++ '\x7d' :: rest))) := by
      simp [laterMembers, writtenMember]
    simp only [hsplit, collectMembers, nextKey_later, hstep]
    exact ih (by simpa using hfuel)

/-- **The members of a written object are read in their order.** -/
theorem collectMembers_written {rest : List Char} (h : Steps step ('\x7d' :: rest) s ms t)
    {fuel : Nat} (hfuel : ms.length < fuel) :
    collectMembers step fuel true s (memberChars ms ++ '\x7d' :: rest) =
      .ok (t, '\x7d' :: rest) := by
  obtain ⟨fuel, rfl⟩ : ∃ k, fuel = k + 1 := ⟨fuel - 1, by omega⟩
  cases h with
  | nil => rfl
  | @cons _ t _ name v ms hstep hrest =>
    have hsplit : memberChars ((name, v) :: ms) ++ '\x7d' :: rest =
        writtenText name ++ ':' :: (v.chars ++ (laterMembers ms ++ '\x7d' :: rest)) := by
      simp [memberChars_cons, writtenMember]
    simp only [hsplit, collectMembers, nextKey_first, hstep]
    exact collectMembers_later hrest (by simpa using hfuel)

theorem length_le_memberChars (ms : List (String × Value)) :
    ms.length ≤ (memberChars ms).length := by
  cases ms with
  | nil => exact Nat.zero_le _
  | cons m ms =>
    have hlater : ms.length ≤ (laterMembers ms).length := by
      induction ms with
      | nil => exact Nat.zero_le _
      | cons m' ms ih =>
        rw [laterMembers, List.flatMap_cons, List.length_append]
        rw [laterMembers] at ih
        simp only [List.length_cons]
        omega
    rw [memberChars_cons]
    simp only [List.length_cons, List.length_append, writtenMember, writtenText]
    omega

/-- The fuel that the reader of an object starts with is enough. -/
theorem length_lt_fuel (ms : List (String × Value)) (rest : List Char) :
    ms.length < (memberChars ms ++ '\x7d' :: rest).length + 1 := by
  have := length_le_memberChars ms
  rw [List.length_append]
  omega

theorem skipSpace_object (ms : List (String × Value)) (rest : List Char) :
    skipSpace ((Value.object ms).chars ++ rest) = '\x7b' :: (memberChars ms ++ '\x7d' :: rest) := by
  simp [Value.chars, skipSpace, isSpace]

end Steps

/-! ### Filling the fields of a record -/

namespace Fields

/-- Written members that take the state of a record from one to another. -/
inductive Fills (f : Fields σ α) (depth : Nat) : σ → List (String × Value) → σ → Prop where
  | nil (s : σ) : Fills f depth s [] s
  | cons {s t u : σ} {name : String} {v : Value} {ms : List (String × Value)} {m : Member σ}
      (hknown : f.find? name = some m) (hfresh : m.isSet s = false)
      (hread : ∀ rest, Delimited rest → m.read s depth (v.chars ++ rest) = .ok (t, rest))
      (hrest : Fills f depth t ms u) : Fills f depth s ((name, v) :: ms) u

theorem Fills.append {f : Fields σ α} {depth : Nat} {s t u : σ} {ms ns : List (String × Value)}
    (h : f.Fills depth s ms t) (h' : f.Fills depth t ns u) : f.Fills depth s (ms ++ ns) u := by
  induction h with
  | nil => exact h'
  | cons hknown hfresh hread _ ih => exact .cons hknown hfresh hread (ih h')

/-- A single member fills its field. -/
theorem Fills.single (name : String) (trailing : Bool) (absent : Except DataProblem α)
    {f : Format α} {v : Value} {a : α} {depth : Nat} (h : f.Reads depth v a) :
    (Fields.single name trailing f absent).Fills depth none [(name, v)] (some a) := by
  refine .cons (m := (Fields.single name trailing f absent).members.head (List.cons_ne_nil _ _))
    ?_ rfl ?_ (.nil _)
  · simp [find?, Fields.single]
  · intro rest hrest
    simp [Fields.single, h rest hrest, Except.map]

theorem Fills.required (name : String) {f : Format α} {v : Value} {a : α} {depth : Nat}
    (h : f.Reads depth v a) : (Fields.required name f).Fills depth none [(name, v)] (some a) :=
  .single name false _ h

theorem Fills.optional (name : String) {f : Format α} {v : Value} {a : Option α} {depth : Nat}
    (h : f.nullable.Reads depth v a) :
    (Fields.optional name f).Fills depth none [(name, v)] (some a) :=
  .single name false _ h

theorem Fills.optionalWithDefault (name : String) {f : Format α} {v : Value} {a : Option α}
    {depth : Nat} (h : f.nullable.Reads depth v a) :
    (Fields.optionalWithDefault name f).Fills depth none [(name, v)] (some a) :=
  .single name true _ h

theorem find?_and_left {f : Fields σ α} {g : Fields τ β} {name : String} {m : Member σ}
    (h : f.find? name = some m) : (f.and g).find? name = some (liftFirst m) := by
  have hmap : (f.members.map (liftFirst (τ := τ))).find? (·.name = name) =
      some (liftFirst m) := by
    rw [List.find?_map]
    exact congrArg (Option.map liftFirst) h
  simp [Fields.find?, Fields.and, List.find?_append, hmap]

theorem find?_and_right {f : Fields σ α} {g : Fields τ β} {name : String} {m : Member τ}
    (hf : f.find? name = none) (h : g.find? name = some m) :
    (f.and g).find? name = some (liftSecond m) := by
  have hleft : (f.members.map (liftFirst (τ := τ))).find? (·.name = name) = none := by
    rw [List.find?_map]
    exact congrArg (Option.map liftFirst) hf
  have hright : (g.members.map (liftSecond (σ := σ))).find? (·.name = name) =
      some (liftSecond m) := by
    rw [List.find?_map]
    exact congrArg (Option.map liftSecond) h
  simp [Fields.find?, Fields.and, List.find?_append, hleft, hright]

theorem Fills.left {f : Fields σ α} {g : Fields τ β} {depth : Nat} {s t : σ} (u : τ)
    {ms : List (String × Value)} (h : f.Fills depth s ms t) :
    (f.and g).Fills depth (s, u) ms (t, u) := by
  induction h with
  | nil => exact .nil _
  | cons hknown hfresh hread _ ih =>
    refine .cons (find?_and_left hknown) hfresh ?_ ih
    intro rest hrest
    simp only [liftFirst, hread rest hrest, Except.map]

theorem Fills.right {f : Fields σ α} {g : Fields τ β} {depth : Nat} (s : σ) {t u : τ}
    {ms : List (String × Value)} (hnew : ∀ m ∈ ms, f.find? m.1 = none)
    (h : g.Fills depth t ms u) : (f.and g).Fills depth (s, t) ms (s, u) := by
  induction h with
  | nil => exact .nil _
  | cons hknown hfresh hread _ ih =>
    refine .cons (find?_and_right (hnew _ List.mem_cons_self) hknown) hfresh ?_
      (ih fun m hm => hnew m (List.mem_cons_of_mem _ hm))
    intro rest hrest
    simp only [liftSecond, hread rest hrest, Except.map]

/-- The members of two records, one after the other. -/
theorem Fills.and {f : Fields σ α} {g : Fields τ β} {depth : Nat} {s s' : σ} {t t' : τ}
    {ms ns : List (String × Value)} (h : f.Fills depth s ms s')
    (hnew : ∀ m ∈ ns, f.find? m.1 = none) (h' : g.Fills depth t ns t') :
    (f.and g).Fills depth (s, t) (ms ++ ns) (s', t') :=
  (h.left t).append (.right s' hnew h')

theorem Fills.as {f : Fields σ α} {make : α → β} {depth : Nat} {s t : σ}
    {ms : List (String × Value)} (h : f.Fills depth s ms t) : (f.as make).Fills depth s ms t := by
  induction h with
  | nil => exact .nil _
  | cons hknown hfresh hread _ ih => exact .cons hknown hfresh hread ih

/-! ### Reading a whole record -/

theorem readMember_written {f : Fields σ α} {depth : Nat} {s t : σ} {name : String} {v : Value}
    {m : Member σ} {rest : List Char} (hknown : f.find? name = some m)
    (hfresh : m.isSet s = false) (hread : m.read s depth (v.chars ++ rest) = .ok (t, rest)) :
    f.readMember depth s name (':' :: (v.chars ++ rest)) = .ok (t, rest) := by
  have hcolon : colon (':' :: (v.chars ++ rest)) = .ok (v.chars ++ rest) := rfl
  simp [readMember, hknown, hfresh, memberValue, hcolon, Except.bind, hread]

theorem Fills.steps {f : Fields σ α} {depth : Nat} {s t : σ} {ms : List (String × Value)}
    (h : f.Fills depth s ms t) (rest : List Char) :
    Steps (f.readMember depth) ('\x7d' :: rest) s ms t := by
  induction h with
  | nil => exact .nil _
  | @cons _ _ _ _ _ ms _ hknown hfresh hread _ ih =>
    have hvalue := hread _ (delimited_laterMembers ms (.brace rest))
    exact .cons (readMember_written hknown hfresh hvalue) ih

/-- **A record is read back from members that fill its fields.** -/
theorem format_reads {f : Fields σ α} {depth : Nat} {ms : List (String × Value)} {s : σ} {a : α}
    (title : String) (h : f.Fills depth f.empty ms s) (hbuild : f.build s = .ok a) :
    (f.format title).Reads (depth + 1) (.object ms) a := by
  intro rest _
  have hcollect := collectMembers_written (h.steps rest) (length_lt_fuel ms rest)
  simp only [format, skipSpace_object, inBraces, List.tail_cons, hcollect, Except.bind, finish,
    hbuild]
  rfl

/-! ### Members whose values are read later -/

/-- Where the values of written members start, under their names; `tail` follows the last. -/
def starts (tail : List Char) : List (String × Value) → List (String × List Char)
  | [] => []
  | (name, v) :: ms => (name, v.chars ++ (laterMembers ms ++ tail)) :: starts tail ms

/-- **Members that fill a record do so from where their values start.** -/
theorem Fills.readEntries {f : Fields σ α} {depth : Nat} {s t : σ} {ms : List (String × Value)}
    (h : f.Fills depth s ms t) {tail : List Char} (htail : Delimited tail) :
    f.readEntries depth (starts tail ms) s = .ok t := by
  induction h with
  | nil => rfl
  | cons hknown hfresh hread _ ih =>
    rw [starts, Fields.readEntries, hknown]
    simp only [hfresh, Bool.false_eq_true, if_false, hread _ (delimited_laterMembers _ htail)]
    exact ih

end Fields

end DetectionJobs.Json
