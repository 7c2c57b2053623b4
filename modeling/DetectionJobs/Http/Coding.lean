/-
  DetectionJobs/Http/Coding.lean
  ==============================
  **Compressing responses.**

  A caller lists the codings that it takes, each with a weight from 0 to 1 in steps of a
  thousandth.  The heaviest one that the service knows is used, and of equal ones the
  one that compresses.
-/
import DetectionJobs.Http.Message
import DetectionJobs.Text.Blank

namespace DetectionJobs.Http

inductive Coding where
  | identity
  | gzip
deriving DecidableEq, Repr

namespace Coding

def ofName? (name : String) : Option Coding :=
  if name.toLower = "gzip" ∨ name.toLower = "x-gzip" then some .gzip
  else if name.toLower = "identity" then some .identity
  else none

/-- Thousandths from up to three digits. -/
def thousandths? (digits : List Char) : Option Nat :=
  if digits.length ≤ 3 ∧ digits.all (fun c => '0' ≤ c && c ≤ '9') then
    some ((digits ++ List.replicate (3 - digits.length) '0').foldl
      (fun n c => 10 * n + (c.toNat - 0x30)) 0)
  else none

/-- A weight: `0`, `1`, or one of them with a point and up to three digits. -/
def weight? : List Char → Option Nat
  | ['0'] => some 0
  | ['1'] => some 1000
  | '0' :: '.' :: digits => thousandths? digits
  | '1' :: '.' :: digits => if digits.length ≤ 3 ∧ digits.all (· = '0') then some 1000 else none
  | _ => none

/-- Reads a coding and its weight, which is 1 if none is written. -/
def read? (item : List Char) : Option (Coding × Nat) := do
  let (name, rest) := item.span (· ≠ ';')
  let coding ← ofName? (Text.trim (String.ofList name))
  match rest with
  | [] => some (coding, 1000)
  | _ :: value =>
    match (Text.trim (String.ofList value)).toList with
    | 'q' :: '=' :: weight => (weight? weight).map fun w => (coding, w)
    | 'Q' :: '=' :: weight => (weight? weight).map fun w => (coding, w)
    | _ => none

/-- The items of a list, between its commas. -/
def items (s : String) : List (List Char) :=
  s.toList.foldr (fun c parts => match parts with
    | [] => [[c]]
    | part :: rest => if c = ',' then [] :: part :: rest else (c :: part) :: rest) [[]]

def ofRequest (r : Request) : Coding :=
  let offers := ((r.values "accept-encoding").flatMap items).filterMap read?
  let weight (c : Coding) : Nat := (offers.filter (·.1 = c)).foldl (fun w o => max w o.2) 0
  if 0 < weight .gzip ∧ weight .identity ≤ weight .gzip then .gzip else .identity

/-- Bodies below this many bytes are not worth compressing. -/
def threshold : Nat := 32

/-- Compresses the body of a response if the caller wants that.  The coding is named, the
    body is given as it was. -/
def apply (c : Coding) (r : Response) : Response :=
  if r.body.utf8ByteSize < threshold then r
  else
    let r := r.withHeader "vary" "accept-encoding"
    match c with
    | .identity => r
    | .gzip => r.withHeader "content-encoding" "gzip"

end Coding

end DetectionJobs.Http
