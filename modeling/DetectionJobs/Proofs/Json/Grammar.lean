/-
  DetectionJobs/Proofs/Json/Grammar.lean
  ======================================
  **The texts that a reader may be given, without the reader.**

  A kind of text is a relation between the characters of a value and the value they
  stand for: how strings and numbers are written, how lists and objects hold other texts,
  and which texts may stand where nobody reads the value.  White space belongs to the
  containers, so that a value's own text starts with its first character.

  The text of a record is given by its slots, which are the names of its members in
  their order and whether a list may end before them, and by what its entries tell of
  it.  An entry is the name of a member with the text of its value, whether it came
  from an object or, by its place, from a list.
-/
import DetectionJobs.Json.Record
import Mathlib.Data.List.Forall2

namespace DetectionJobs.Json

open Text (hexValue?)

/-- White space. -/
def Blank (cs : List Char) : Prop := ∀ c ∈ cs, isSpace c = true

/-! ### Strings -/

/-- Four hexadecimal digits. -/
inductive HexUnit : List Char → Nat → Prop where
  | mk {a b c d : Char} {i j k l : Nat} (ha : hexValue? a = some i) (hb : hexValue? b = some j)
      (hc : hexValue? c = some k) (hd : hexValue? d = some l) :
      HexUnit [a, b, c, d] (((i * 16 + j) * 16 + k) * 16 + l)

/-- The first units of pairs. -/
def IsHigh (unit : Nat) : Prop := 0xD800 ≤ unit ∧ unit ≤ 0xDBFF

/-- The second units of pairs. -/
def IsLow (unit : Nat) : Prop := 0xDC00 ≤ unit ∧ unit ≤ 0xDFFF

/-- How one character may be written in a string. -/
inductive Spelling : List Char → Char → Prop where
  | plain {c : Char} (hquote : c ≠ '"') (hslash : c ≠ '\\') (hcontrol : 0x20 ≤ c.toNat) :
      Spelling [c] c
  | letter {l c : Char} (h : escapeLetter? l = some c) : Spelling ['\\', l] c
  | unit {ds : List Char} {n : Nat} (h : HexUnit ds n) (hhigh : ¬ IsHigh n) (hlow : ¬ IsLow n) :
      Spelling ('\\' :: 'u' :: ds) (Char.ofNat n)
  | pair {ds es : List Char} {high low : Nat} (h : HexUnit ds high) (hhigh : IsHigh high)
      (h' : HexUnit es low) (hlow : IsLow low) :
      Spelling ('\\' :: 'u' :: (ds ++ '\\' :: 'u' :: es))
        (Char.ofNat ((high - 0xD800) * 0x400 + (low - 0xDC00) + 0x10000))

/-- A string that is read. -/
def Quoted (t : List Char) (s : String) : Prop :=
  ∃ us : List (List Char), List.Forall₂ Spelling us s.toList ∧ t = '"' :: (us.flatten ++ ['"'])

/-- How a character may be written in a string that nobody reads: units of pairs may
    stand alone. -/
inductive LooseSpelling : List Char → Prop where
  | plain {c : Char} (hquote : c ≠ '"') (hslash : c ≠ '\\') (hcontrol : 0x20 ≤ c.toNat) :
      LooseSpelling [c]
  | letter {l c : Char} (h : escapeLetter? l = some c) : LooseSpelling ['\\', l]
  | unit {ds : List Char} {n : Nat} (h : HexUnit ds n) : LooseSpelling ('\\' :: 'u' :: ds)

/-- A string that nobody reads. -/
def LooselyQuoted (t : List Char) : Prop :=
  ∃ us : List (List Char), (∀ u ∈ us, LooseSpelling u) ∧ t = '"' :: (us.flatten ++ ['"'])

/-! ### Numbers -/

/-- One or more digits. -/
def Digits (ds : List Char) : Prop := ds ≠ [] ∧ ∀ d ∈ ds, d.isDigit = true

/-- The parts of a written exponent. -/
structure ExponentForm where
  mark : Char
  sign : Option Char
  digits : List Char
  isMark : isExponentMark mark = true
  isSign : ∀ c ∈ sign, c = '+' ∨ c = '-'
  isDigits : Digits digits

/-- The parts of a written number.  Only zero starts with a zero. -/
structure NumberForm where
  negative : Bool
  whole : List Char
  fraction : Option (List Char)
  exponent : Option ExponentForm
  isWhole : whole = ['0'] ∨ Digits whole ∧ whole.head? ≠ some '0'
  isFraction : ∀ ds ∈ fraction, Digits ds

namespace ExponentForm

def chars (e : ExponentForm) : List Char := e.mark :: (e.sign.toList ++ e.digits)

def isDown (e : ExponentForm) : Bool := e.sign = some '-'

def size (e : ExponentForm) : Nat := Nat.ofDigitChars 10 e.digits 0

end ExponentForm

/-- A sign, a significand and an exponent of ten, as a number if it is in reach. -/
def decimal? (negative : Bool) (significand : Nat) (e : Int) : Option Numeral :=
  (scaleBy (.ofNat significand) e 3).map fun x => .real (if negative then x.neg else x)

/-- The same with a written exponent.  Beyond the largest exponent only zero is left, which
    zero and all that is scaled down come to. -/
def scaled? (negative : Bool) (significand : Nat) (point : Int) :
    Option ExponentForm → Option Numeral
  | none => decimal? negative significand point
  | some e =>
    if exponentLimit < e.size then
      if significand ≠ 0 ∧ !e.isDown then none else some (.real (.ofMagnitude negative 0))
    else decimal? negative significand (if e.isDown then point - e.size else point + e.size)

namespace NumberForm

def fractionChars (f : NumberForm) : List Char := f.fraction.elim [] ('.' :: ·)

def exponentChars (f : NumberForm) : List Char := f.exponent.elim [] ExponentForm.chars

/-- The number without its sign. -/
def body (f : NumberForm) : List Char := f.whole ++ (f.fractionChars ++ f.exponentChars)

def chars (f : NumberForm) : List Char := if f.negative then '-' :: f.body else f.body

/-- The value of a number, if it is in reach.  Digits go into the significand as long as it
    stays below `2^64`; those before the point that are left over move the point. -/
def value? (f : NumberForm) : Option Numeral :=
  let (significand, _, left) := gather 0 0 f.whole
  if f.fraction = none ∧ f.exponent.isNone ∧ left = [] then
    some (wholeNumber f.negative significand)
  else
    let (significand, taken, _) := gather significand 0 (f.fraction.getD [])
    scaled? f.negative significand (left.length - taken) f.exponent

end NumberForm

/-- A number that is read and that `convert` accepts. -/
def NumberText (convert : Numeral → Except DataProblem α) (t : List Char) (a : α) : Prop :=
  ∃ (f : NumberForm) (n : Numeral), f.value? = some n ∧ convert n = .ok a ∧ t = f.chars

/-- Any number in reach. -/
def RealText (t : List Char) (x : Double) : Prop :=
  ∃ (f : NumberForm) (n : Numeral), f.value? = some n ∧ x = n.toDouble ∧ t = f.chars

/-- A whole number from `low` to `high`. -/
def WholeText (low high : Int) (t : List Char) (n : Int) : Prop :=
  ∃ f : NumberForm, f.value? = some (.whole n) ∧ low ≤ n ∧ n ≤ high ∧ t = f.chars

/-! ### Containers -/

/-- What follows the first of several texts of one kind: commas, each with another
    text. -/
inductive Tail (G : List Char → α → Prop) : List Char → List α → Prop where
  | done {b : List Char} (hb : Blank b) : Tail G b []
  | more {b b' t u : List Char} {a : α} {as : List α} (hb : Blank b) (hb' : Blank b')
      (h : G t a) (htail : Tail G u as) : Tail G (b ++ ',' :: (b' ++ (t ++ u))) (a :: as)

/-- Texts of one kind between two signs. -/
inductive Enclosed (opening closing : Char) (G : List Char → α → Prop) :
    List Char → List α → Prop where
  | empty {b : List Char} (hb : Blank b) :
      Enclosed opening closing G (opening :: (b ++ [closing])) []
  | items {b t u : List Char} {a : α} {as : List α} (hb : Blank b) (h : G t a)
      (htail : Tail G u as) :
      Enclosed opening closing G (opening :: (b ++ (t ++ (u ++ [closing])))) (a :: as)

theorem Tail.mem {G : List Char → α → Prop} {u : List Char} {as : List α} (h : Tail G u as) :
    ∀ a ∈ as, ∃ t, G t a := by
  induction h with
  | done => exact List.forall_mem_nil _
  | more _ _ h _ ih => exact List.forall_mem_cons.mpr ⟨⟨_, h⟩, ih⟩

/-- What is enclosed is of the kind. -/
theorem Enclosed.mem {opening closing : Char} {G : List Char → α → Prop} {t : List Char}
    {as : List α} (h : Enclosed opening closing G t as) : ∀ a ∈ as, ∃ t, G t a := by
  cases h with
  | empty => exact List.forall_mem_nil _
  | items _ h htail => exact List.forall_mem_cons.mpr ⟨⟨_, h⟩, htail.mem⟩

/-- A list of values. -/
abbrev Listed (G : List Char → α → Prop) : List Char → List α → Prop := Enclosed '[' ']' G

/-- The texts of the values in a list, whatever they are. -/
abbrev Bracketed : List Char → List (List Char) → Prop := Enclosed '[' ']' Eq

/-- The text of a member of an object with that of its value; the keys are of the
    kind `K`. -/
inductive MemberText (K : List Char → Prop) : List Char → List Char → Prop where
  | mk {t b b' v : List Char} (hk : K t) (hb : Blank b) (hb' : Blank b') :
      MemberText K (t ++ (b ++ ':' :: (b' ++ v))) v

/-- The name of a member with the text of its value. -/
abbrev Entry : Type := String × List Char

/-- The text of a member whose key is read. -/
abbrev EntryText (t : List Char) (e : Entry) : Prop := MemberText (Quoted · e.1) t e.2

/-- The members of an object that is read. -/
abbrev Braced : List Char → List Entry → Prop := Enclosed '\x7b' '\x7d' EntryText

/-- `null`, or a text of the kind. -/
inductive Nullable (G : List Char → α → Prop) : List Char → Option α → Prop where
  | null : Nullable G ['n', 'u', 'l', 'l'] none
  | value {t : List Char} {a : α} (h : G t a) : Nullable G t (some a)

/-! ### Values that nobody reads -/

/-- Any value: numbers may have any size, and containers may nest to any depth. -/
inductive Skippable : List Char → Prop where
  | null : Skippable ['n', 'u', 'l', 'l']
  | true : Skippable ['t', 'r', 'u', 'e']
  | false : Skippable ['f', 'a', 'l', 's', 'e']
  | number (f : NumberForm) : Skippable f.chars
  | text {t : List Char} (h : LooselyQuoted t) : Skippable t
  | list {t : List Char} {vs : List (List Char)} (h : Bracketed t vs)
      (hvs : ∀ v ∈ vs, Skippable v) : Skippable t
  | object {t : List Char} {vs : List (List Char)}
      (h : Enclosed '\x7b' '\x7d' (MemberText LooselyQuoted) t vs)
      (hvs : ∀ v ∈ vs, Skippable v) : Skippable t

/-! ### Records -/

/-- The texts that stand for the member `name`. -/
def valuesOf (name : String) (es : List Entry) : List (List Char) :=
  (es.filter (·.1 = name)).map (·.2)

/-- The member `name` is given, once and as `a`. -/
def Given (name : String) (G : List Char → α → Prop) (es : List Entry) (a : α) : Prop :=
  ∃ v, valuesOf name es = [v] ∧ G v a

/-- The member `name` is given as `a`, or it is missing and stands for `a`. -/
def GivenOr (name : String) (G : List Char → α → Prop) (absent : α) (es : List Entry) (a : α) :
    Prop :=
  Given name G es a ∨ valuesOf name es = [] ∧ a = absent

/-- The names of a record's members in their order, and whether a list may end before
    them. -/
abbrev Slots : Type := List (String × Bool)

def Slots.names (slots : Slots) : List String := slots.map (·.1)

/-- A record with the given slots whose entries tell `tells`. -/
inductive RecordText (slots : Slots) (tells : List Entry → α → Prop) : List Char → α → Prop where
  | object {t : List Char} {es : List Entry} {a : α} (h : Braced t es)
      (hother : ∀ e ∈ es, e.1 ∉ slots.names → Skippable e.2) (htells : tells es a) :
      RecordText slots tells t a
  | list {t : List Char} {vs : List (List Char)} {a : α} (h : Bracketed t vs)
      (hlength : vs.length ≤ slots.length) (hmissing : ∀ m ∈ slots.drop vs.length, m.2 = true)
      (htells : tells (slots.names.zip vs) a) : RecordText slots tells t a

/-- A record is told by entries. -/
theorem RecordText.told {slots : Slots} {tells : List Entry → α → Prop} {t : List Char} {a : α}
    (h : RecordText slots tells t a) : ∃ es, tells es a := by
  cases h with
  | object _ _ h => exact ⟨_, h⟩
  | list _ _ _ h => exact ⟨_, h⟩

/-- A whole text: one value, with blanks around it. -/
def Alone (G : List Char → α → Prop) (cs : List Char) (a : α) : Prop :=
  ∃ b t b', Blank b ∧ Blank b' ∧ G t a ∧ cs = b ++ (t ++ b')

end DetectionJobs.Json
