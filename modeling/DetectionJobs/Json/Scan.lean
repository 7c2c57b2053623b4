/-
  DetectionJobs/Json/Scan.lean
  ============================
  **The tokens of JSON: white space, words and strings.**

  Every scanner takes the characters that are left and returns those after the
  token.  Strings may escape any character; an escape of four hexadecimal digits
  is a unit of UTF-16, so that a character beyond the first plane takes two.
-/
import DetectionJobs.Json.Problem
import DetectionJobs.Text.CharSet

namespace DetectionJobs.Json

/-- What reading from the front of a text gives: a value and what is left. -/
abbrev Reading (α : Type) := Except Failure (α × List Char)

def isSpace (c : Char) : Bool := c = ' ' || c = '\n' || c = '\t' || c = '\r'

def skipSpace (cs : List Char) : List Char := cs.dropWhile isSpace

/-- Takes the letters of a word, of which the first was taken already. -/
def word : (letters : List Char) → List Char → Except Failure (List Char)
  | [], cs => .ok cs
  | _ :: _, [] => .error (.here .endInValue [])
  | l :: letters, c :: cs =>
    if c = l then word letters cs else .error (.beyond .expectedIdent (c :: cs))

/-! ### Strings -/

def byteCount (cs : List Char) : Nat := cs.foldl (fun n c => n + c.utf8Size) 0

/-- The unit that the next four characters write in hexadecimal digits. -/
def hexUnit (cs : List Char) : Reading Nat :=
  match cs with
  | a :: b :: c :: d :: rest =>
    match Text.hexValue? a, Text.hexValue? b, Text.hexValue? c, Text.hexValue? d with
    | some a, some b, some c, some d => .ok (((a * 16 + b) * 16 + c) * 16 + d, rest)
    | _, _, _, _ => .error ⟨.invalidEscape, .seen cs 4, []⟩
  | _ =>
    if byteCount cs < 4 then .error (.here .endInText [])
    else .error ⟨.invalidEscape, .seen cs 4, []⟩

/-- The second unit of a pair, with its `\u`. -/
def lowUnit (high : Nat) (cs : List Char) : Reading Char :=
  match cs with
  | [] => .error (.here .endInText [])
  | '\\' :: [] => .error (.here .endInText [])
  | '\\' :: 'u' :: rest =>
    match hexUnit rest with
    | .error f => .error f
    | .ok (low, after) =>
      if 0xDC00 ≤ low ∧ low ≤ 0xDFFF then
        .ok (Char.ofNat ((high - 0xD800) * 0x400 + (low - 0xDC00) + 0x10000), after)
      else .error (.here .loneSurrogate after)
  | '\\' :: rest => .error (.beyond .endOfHexEscape rest)
  | rest => .error (.beyond .endOfHexEscape rest)

/-- The character that an escape stands for; the `\u` was taken already. -/
def unicodeEscape (cs : List Char) : Reading Char :=
  match hexUnit cs with
  | .error f => .error f
  | .ok (unit, rest) =>
    if 0xDC00 ≤ unit ∧ unit ≤ 0xDFFF then .error (.here .loneSurrogate rest)
    else if 0xD800 ≤ unit ∧ unit ≤ 0xDBFF then lowUnit unit rest
    else .ok (Char.ofNat unit, rest)

/-- The character that a letter after the backslash stands for. -/
def escapeLetter? (c : Char) : Option Char :=
  if c = '"' then some '"'
  else if c = '\\' then some '\\'
  else if c = '/' then some '/'
  else if c = 'b' then some (Char.ofNat 8)
  else if c = 'f' then some (Char.ofNat 12)
  else if c = 'n' then some '\n'
  else if c = 'r' then some '\r'
  else if c = 't' then some '\t'
  else none

/-- The character that an escape stands for; the backslash was taken already. -/
def escape (cs : List Char) : Reading Char :=
  match cs with
  | [] => .error (.here .endInText [])
  | c :: rest =>
    match escapeLetter? c with
    | some e => .ok (e, rest)
    | none => if c = 'u' then unicodeEscape rest else .error (.beyond .invalidEscape (c :: rest))

theorem hexUnit_length {cs rest : List Char} {n : Nat} (h : hexUnit cs = .ok (n, rest)) :
    rest.length < cs.length := by
  unfold hexUnit at h
  split at h
  · split at h
    · simp only [Except.ok.injEq, Prod.mk.injEq] at h
      rw [← h.2]; simp only [List.length_cons]; omega
    · cases h
  · split at h <;> cases h

theorem lowUnit_length {high : Nat} {cs rest : List Char} {c : Char}
    (h : lowUnit high cs = .ok (c, rest)) : rest.length < cs.length := by
  unfold lowUnit at h
  split at h
  · cases h
  · cases h
  · rename_i tail
    split at h
    · cases h
    · rename_i low after heq
      split at h
      · simp only [Except.ok.injEq, Prod.mk.injEq] at h
        have := hexUnit_length heq
        rw [← h.2]; simp only [List.length_cons]; omega
      · cases h
  · cases h
  · cases h

/-- An escape takes at least one character. -/
theorem escape_length {cs rest : List Char} {c : Char} (h : escape cs = .ok (c, rest)) :
    rest.length < cs.length := by
  unfold escape at h
  split at h
  · cases h
  · rename_i c' tail
    split at h
    · simp only [Except.ok.injEq, Prod.mk.injEq] at h
      rw [← h.2]; simp
    · split at h
      · unfold unicodeEscape at h
        split at h
        · cases h
        · rename_i unit after heq
          have := hexUnit_length heq
          split at h
          · cases h
          · split at h
            · have := lowUnit_length h
              simp only [List.length_cons]; omega
            · simp only [Except.ok.injEq, Prod.mk.injEq] at h
              rw [← h.2]; simp only [List.length_cons]; omega
      · cases h

/-- The characters of a string up to its closing quote, after those in `taken`,
    which stand in reverse; the opening quote was taken already. -/
def textFrom (taken : List Char) (cs : List Char) : Reading String :=
  match cs with
  | [] => .error (.here .endInText [])
  | c :: rest =>
    if c = '"' then .ok (String.ofList taken.reverse, rest)
    else if c = '\\' then
      match _h : escape rest with
      | .error f => .error f
      | .ok (e, after) => textFrom (e :: taken) after
    else if c.toNat < 0x20 then .error (.beyond .controlCharacter (c :: rest))
    else textFrom (c :: taken) rest
termination_by cs.length
decreasing_by
  · have := escape_length _h; simp only [List.length_cons]; omega
  · simp only [List.length_cons]; omega

/-- The content of a string whose opening quote was taken already. -/
def text (cs : List Char) : Reading String := textFrom [] cs

/-! ### Strings that nobody reads -/

/-- Passes over an escape, whose backslash was taken already; any four hexadecimal
    digits will do. -/
def skipEscape (cs : List Char) : Except Failure (List Char) :=
  match cs with
  | [] => .error (.here .endInText [])
  | c :: rest =>
    match escapeLetter? c with
    | some _ => .ok rest
    | none =>
      if c = 'u' then (hexUnit rest).map (·.2) else .error (.beyond .invalidEscape (c :: rest))

theorem skipEscape_length {cs rest : List Char} (h : skipEscape cs = .ok rest) :
    rest.length < cs.length := by
  unfold skipEscape at h
  split at h
  · cases h
  · split at h
    · simp only [Except.ok.injEq] at h; rw [← h]; simp
    · split at h
      · rename_i tail _ _ _
        cases heq : hexUnit tail with
        | error f => rw [heq] at h; cases h
        | ok p =>
          obtain ⟨n, after⟩ := p
          rw [heq] at h
          simp only [Except.map, Except.ok.injEq] at h
          have := hexUnit_length heq
          rw [← h]; simp only [List.length_cons]; omega
      · cases h

/-- Passes over a string whose opening quote was taken already. -/
def skipText (cs : List Char) : Except Failure (List Char) :=
  match cs with
  | [] => .error (.here .endInText [])
  | c :: rest =>
    if c = '"' then .ok rest
    else if c = '\\' then
      match _h : skipEscape rest with
      | .error f => .error f
      | .ok after => skipText after
    else if c.toNat < 0x20 then .error (.here .controlCharacter (c :: rest))
    else skipText rest
termination_by cs.length
decreasing_by
  · have := skipEscape_length _h; simp only [List.length_cons]; omega
  · simp only [List.length_cons]; omega

end DetectionJobs.Json
