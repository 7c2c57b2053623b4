/-
  DetectionJobs/Text/Quoted.lean
  ==============================
  **Text between double quotes, for messages.**

  Error messages quote the text that they are about.  The quote, the backslash
  and the four commonest control characters have an escape of two characters;
  whatever cannot be shown is written by its code point, `\u{200b}`.
-/
import DetectionJobs.Text.Printable

namespace DetectionJobs.Text

/-- A character by its code point in hexadecimal: `\u{9f}`. -/
def codePointEscape (c : Char) : List Char :=
  ['\\', 'u', '\x7b'] ++ hexDigits c.toNat ++ ['\x7d']

/-- How one character is written inside a quoted text. -/
def quotedChar (c : Char) : List Char :=
  if c = '"' then ['\\', '"']
  else if c = '\\' then ['\\', '\\']
  else if c = '\n' then ['\\', 'n']
  else if c = '\r' then ['\\', 'r']
  else if c = '\t' then ['\\', 't']
  else if c.toNat = 0 then ['\\', '0']
  else if isShown c then [c]
  else codePointEscape c

/-- A text between double quotes. -/
def quoted (s : String) : String :=
  String.ofList ('"' :: (s.toList.flatMap quotedChar ++ ['"']))


end DetectionJobs.Text
