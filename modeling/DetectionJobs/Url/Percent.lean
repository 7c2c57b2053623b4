/-
  DetectionJobs/Url/Percent.lean
  ==============================
  **Bytes written with a percent sign and two digits.**
-/
import DetectionJobs.Text.CharSet

namespace DetectionJobs.Percent

open Text

/-- An upper-case hexadecimal digit. -/
def digitChar (d : Nat) : Char :=
  if d < 10 then Char.ofNat (0x30 + d) else Char.ofNat (0x41 + (d - 10))

def encodeByte (b : UInt8) : List Char :=
  ['%', digitChar (b.toNat / 16), digitChar (b.toNat % 16)]

/-- Writes the characters of a text that are not kept by the bytes of their UTF-8 form. -/
def encode (keeps : Char → Bool) (cs : List Char) : List Char :=
  cs.flatMap fun c => if keeps c then [c] else (String.utf8EncodeChar c).flatMap encodeByte

/-- The bytes that a text stands for.  A percent sign without two digits stands for
    itself. -/
def decode : List Char → List UInt8
  | [] => []
  | '%' :: a :: b :: rest =>
    match hexValue? a, hexValue? b with
    | some high, some low => UInt8.ofNat (16 * high + low) :: decode rest
    | _, _ => 0x25 :: decode (a :: b :: rest)
  | c :: rest => String.utf8EncodeChar c ++ decode rest

/-- The text that a text stands for, if its bytes are UTF-8. -/
def decodeText? (cs : List Char) : Option String :=
  String.fromUTF8? ⟨(decode cs).toArray⟩

end DetectionJobs.Percent
