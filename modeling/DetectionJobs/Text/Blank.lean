/-
  DetectionJobs/Text/Blank.lean
  =============================
  **Blank characters, and text that is trimmed of them.**

  A text is blank when it holds nothing but white space in the sense of the
  Unicode property `White_Space`: identifiers, image references and settings
  that are blank count as absent.
-/

namespace DetectionJobs.Text

/-- White space: the six control characters from tab to carriage return and
    next line, the space separators, and the line and paragraph separators. -/
def isBlank (c : Char) : Bool :=
  let n := c.toNat
  (9 ≤ n && n ≤ 13) || n == 0x20 || n == 0x85 || n == 0xA0 || n == 0x1680 ||
    (0x2000 ≤ n && n ≤ 0x200A) || n == 0x2028 || n == 0x2029 || n == 0x202F ||
    n == 0x205F || n == 0x3000

/-- Whether a text is empty or holds white space only. -/
def isBlankText (s : String) : Bool := s.toList.all isBlank

/-- Drops the white space at the end of a list of characters. -/
def trimEnd (cs : List Char) : List Char := (cs.reverse.dropWhile isBlank).reverse

/-- Drops the white space at both ends of a text. -/
def trim (s : String) : String := String.ofList (trimEnd (s.toList.dropWhile isBlank))

end DetectionJobs.Text
