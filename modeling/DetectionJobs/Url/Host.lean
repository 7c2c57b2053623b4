/-
  DetectionJobs/Url/Host.lean
  ===========================
  **Hosts: names and addresses.**
-/
import DetectionJobs.Domain.Name
import DetectionJobs.Number.Power
import DetectionJobs.Url.Percent

namespace DetectionJobs

open Text

/-- Why a text is no URL. -/
inductive UrlFault where
  | noScheme
  | emptyHost
  | domain
  | hostCharacter
  | ipv4
  | ipv6
  | port
deriving DecidableEq, Repr

def UrlFault.message : UrlFault → String
  | .noScheme => "relative URL without a base"
  | .emptyHost => "empty host"
  | .domain => "invalid international domain name"
  | .hostCharacter => "invalid domain character"
  | .ipv4 => "invalid IPv4 address"
  | .ipv6 => "invalid IPv6 address"
  | .port => "invalid port number"

/-- Where a URL points to. -/
inductive Host where
  | name (text : String)
  | ipv4 (address : Nat)
  | ipv6 (pieces : List Nat)
deriving DecidableEq, Repr

namespace Host

/-- The texts between the occurrences of a character. -/
def split (sep : Char) (cs : List Char) : List (List Char) :=
  cs.foldr (fun c parts => match parts with
    | [] => [[c]]
    | part :: rest => if c = sep then [] :: part :: rest else (c :: part) :: rest) [[]]

def isDigit (c : Char) : Bool := '0' ≤ c && c ≤ '9'

def decimal (cs : List Char) : Nat := cs.foldl (fun n c => 10 * n + (c.toNat - 0x30)) 0

/-! ### Addresses of four bytes -/

/-- The number in base 8, 10 or 16 that a part of an address writes. -/
def ipv4Number? (part : List Char) : Option Nat :=
  let radix (base : Nat) (digits : List Char) : Option Nat :=
    digits.foldlM (fun n c => (hexValue? c).bind fun d =>
      if d < base then some (base * n + d) else none) 0
  match part with
  | [] => none
  | '0' :: 'x' :: digits => radix 16 digits
  | '0' :: 'X' :: digits => radix 16 digits
  | '0' :: d :: digits => radix 8 (d :: digits)
  | digits => radix 10 digits

/-- Whether the last label of a name is a number, so that the name must be an address. -/
def endsInNumber (name : List Char) : Bool :=
  let parts := (split '.' name).reverse
  let parts := if parts.length > 1 ∧ parts.head? = some [] then parts.drop 1 else parts
  match parts with
  | [] => false
  | last :: _ => (!last.isEmpty && last.all isDigit) || (ipv4Number? last).isSome

/-- The address of one to four numbers: the last fills the bytes that the others leave. -/
def ofNumbers? : List Nat → Option Nat
  | [] => none
  | [last] => if last < 2 ^ 32 then some last else none
  | numbers =>
    let last := numbers.getLast?.getD 0
    let first := numbers.dropLast
    if 4 < numbers.length ∨ first.any (255 < ·) ∨ 256 ^ (4 - first.length) ≤ last then none
    else some (first.foldl (fun n b => 256 * n + b) 0 * 256 ^ (4 - first.length) + last)

def ipv4? (name : List Char) : Option Host := do
  let parts := split '.' name
  let parts := if parts.getLast? = some [] then parts.dropLast else parts
  let numbers ← parts.mapM ipv4Number?
  (ofNumbers? numbers).map .ipv4

/-! ### Addresses of eight pieces -/

/-- Four decimal bytes as two pieces. -/
def dotted? (cs : List Char) : Option (List Nat) := do
  let bytes ← (split '.' cs).mapM fun part =>
    if part.isEmpty ∨ ¬ part.all isDigit ∨ (1 < part.length ∧ part.head? = some '0')
        ∨ 255 < decimal part then none
    else some (decimal part)
  match bytes with
  | [a, b, c, d] => some [256 * a + b, 256 * c + d]
  | _ => none

/-- A piece of one to four hexadecimal digits. -/
def piece? (cs : List Char) : Option Nat :=
  if cs.isEmpty ∨ 4 < cs.length then none
  else if cs.all (fun c => (hexValue? c).isSome) then some (hexNumber cs) else none

/-- The pieces between colons; the last may be four decimal bytes. -/
def pieces? (mayEndDotted : Bool) : List (List Char) → Option (List Nat)
  | [] => some []
  | [part] =>
    if mayEndDotted ∧ part.contains '.' then dotted? part else (piece? part).map ([·])
  | part :: rest => do
    let p ← piece? part
    let ps ← pieces? mayEndDotted rest
    some (p :: ps)

/-- The texts around the first pair of colons. -/
def splitPair? : List Char → Option (List Char × List Char)
  | ':' :: ':' :: rest => some ([], rest)
  | c :: rest => (splitPair? rest).map fun (before, after) => (c :: before, after)
  | [] => none

def ipv6? (cs : List Char) : Option Host := do
  let list (mayEndDotted : Bool) (cs : List Char) : Option (List Nat) :=
    if cs.isEmpty then some [] else pieces? mayEndDotted (split ':' cs)
  match splitPair? cs with
  | none =>
    let ps ← pieces? true (split ':' cs)
    if ps.length = 8 then some (.ipv6 ps) else none
  | some (before, after) =>
    let left ← list false before
    let right ← list true after
    if 7 < left.length + right.length then none
    some (.ipv6 (left ++ List.replicate (8 - left.length - right.length) 0 ++ right))

/-! ### Reading -/

/-- Reads a host that stands in square brackets. -/
def readBracketed (cs : List Char) : Except UrlFault Host :=
  if cs.getLast? ≠ some ']' then .error .ipv6
  else match ipv6? (cs.drop 1).dropLast with
    | some h => .ok h
    | none => .error .ipv6

/-- Reads the host of a scheme whose hosts are domain names and addresses. -/
def readDomain (cs : List Char) : Except UrlFault Host :=
  if cs.head? = some '[' then readBracketed cs
  else match (Percent.decodeText? cs).bind Domain.toAscii? with
    | none => .error .domain
    | some ascii =>
      if ascii.isEmpty then .error .emptyHost
      else if endsInNumber ascii.toList then
        match ipv4? ascii.toList with
        | some h => .ok h
        | none => .error .ipv4
      else .ok (.name ascii)

def isControl (c : Char) : Bool := c.toNat < 0x20 || 0x7f ≤ c.toNat

/-- Reads the host of any other scheme. -/
def readOpaque (cs : List Char) : Except UrlFault Host :=
  if cs.head? = some '[' then readBracketed cs
  else if cs.any ("\x00\t\n\r #/:<>?@[\\]^|".toList.contains ·) then .error .hostCharacter
  else .ok (.name (String.ofList (Percent.encode (!isControl ·) cs)))

/-! ### Written form -/

/-- The longest run of zeros, the first of equal ones: its start and length. -/
def longestZeros (pieces : List Nat) : Nat × Nat :=
  (List.range pieces.length).foldl (fun best start =>
    let length := ((pieces.drop start).takeWhile (· = 0)).length
    if best.2 < length then (start, length) else best) (0, 0)

/-- Pieces in hexadecimal; the longest run of two zeros or more is left out. -/
def ipv6Text (pieces : List Nat) : String :=
  let piecesText (ps : List Nat) : String :=
    ":".intercalate (ps.map fun p => String.ofList (hexDigits p))
  let (start, length) := longestZeros pieces
  if length < 2 then piecesText pieces
  else piecesText (pieces.take start) ++ "::" ++ piecesText (pieces.drop (start + length))

def text : Host → String
  | .name t => t
  | .ipv4 n => ".".intercalate
      ([n / 256 ^ 3, n / 256 ^ 2 % 256, n / 256 % 256, n % 256].map toString)
  | .ipv6 pieces => "[" ++ ipv6Text pieces ++ "]"

end Host

end DetectionJobs
