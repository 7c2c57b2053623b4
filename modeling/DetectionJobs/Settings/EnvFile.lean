/-
  DetectionJobs/Settings/EnvFile.lean
  ===================================
  **Variables defined by a settings file.**

  A settings file holds definitions `NAME=value`, one to a line, with comments after
  `#`.  Values may be quoted and then run over several lines; between single quotes
  every character stands for itself, elsewhere a backslash escapes one, and
  `$NAME` or `$` with a name in braces stands for a variable's value.  The
  environment has precedence: a variable that it defines keeps its value.  The
  first malformed line ends the file.
-/
import DetectionJobs.Text.Alphanumeric
import DetectionJobs.Text.Blank

namespace DetectionJobs.Settings

/-- Variables with their values, in order. -/
abbrev Environment := List (String × String)

def Environment.get? (env : Environment) (name : String) : Option String := env.lookup name

/-- Defines a variable: in its place if it is there, otherwise at the end. -/
def Environment.set (env : Environment) (name value : String) : Environment :=
  if env.any (·.1 = name) then env.map fun v => if v.1 = name then (name, value) else v
  else env ++ [(name, value)]

namespace EnvFile

open Text (isBlank)

def singleQuote : Char := Char.ofNat 39

/-! ### Lines -/

/-- The lines of a text, each with the character that ends it. -/
def physicalLines : List Char → List (List Char)
  | [] => []
  | c :: rest =>
    if c = '\n' then ['\n'] :: physicalLines rest
    else
      match physicalLines rest with
      | [] => [[c]]
      | line :: more => (c :: line) :: more

/-- Where in a definition the end of a line was met. -/
inductive Scan where
  | plain
  | escape
  | single
  | singleEscape
  | double
  | doubleEscape
  | space
deriving DecidableEq, Repr

/-- The state after one more character; nothing at the start of a comment. -/
def Scan.step (s : Scan) (c : Char) : Option Scan :=
  let opened : Scan :=
    if c = '\\' then .escape
    else if c = '"' then .double
    else if c = singleQuote then .single
    else .plain
  match s with
  | .space => if c = '#' then none else some opened
  | .plain => some (if isBlank c ∧ c ≠ '\n' ∧ c ≠ '\r' then .space else opened)
  | .escape => some .plain
  | .double => some (if c = '\\' then .doubleEscape else if c = '"' then .plain else .double)
  | .doubleEscape => some .double
  | .single =>
    some (if c = '\\' then .singleEscape else if c = singleQuote then .plain else .single)
  | .singleEscape => some .single

/-- Follows a line: the state at its end, or the characters before a comment. -/
def Scan.run (s : Scan) (line : List Char) : Scan ⊕ List Char :=
  match line with
  | [] => .inl s
  | c :: rest =>
    match s.step c with
    | none => .inr []
    | some s =>
      match s.run rest with
      | .inl s => .inl s
      | .inr before => .inr (c :: before)

/-- Drops the end of a line. -/
def dropLineEnd (line : List Char) : List Char :=
  match line.reverse with
  | '\n' :: '\r' :: rest => rest.reverse
  | '\n' :: rest => rest.reverse
  | _ => line

/-- The lines of definitions, where a quoted text that is still open at the end of a
    line goes on with the next one.  One that is never closed is left out. -/
def logicalLines (before : List Char) (s : Scan) : List (List Char) → List (List Char)
  | [] => []
  | line :: more =>
    let whole := before ++ line
    if (whole.dropWhile isBlank).head? = some '#' then [] :: logicalLines [] .plain more
    else
      match s.run line with
      | .inr kept => (before ++ kept) :: logicalLines [] .plain more
      | .inl .plain => dropLineEnd whole :: logicalLines [] .plain more
      | .inl s => logicalLines whole s more

/-! ### Values -/

/-- What is known while a value is read: the variables of the environment and those
    that the file defined before. -/
structure Scope where
  environment : Environment
  defined : Environment

/-- The value that stands for a name; the empty text for one that is not known. -/
def Scope.value (s : Scope) (name : List Char) : List Char :=
  let name := String.ofList name
  ((s.environment.get? name).getD ((s.defined.get? name).getD "")).toList

/-- How the next character of a value is to be understood. -/
inductive Mode where
  | plain
  | double
  | single
  /-- After a backslash, outside of quotes or between double ones. -/
  | escaped (quoted : Bool)
  /-- In a name after `$`, whose characters stand in reverse. -/
  | name (quoted : Bool) (name : List Char)
  /-- In a name in braces. -/
  | braced (quoted : Bool) (name : List Char)
  /-- After the value, before a comment. -/
  | ended
deriving DecidableEq, Repr

/-- Back outside of quotes, or between double ones. -/
def Mode.resume (quoted : Bool) : Mode := if quoted then .double else .plain

/-- The character that a backslash and a character stand for. -/
def escapedChar? (c : Char) : Option Char :=
  if c = '\\' ∨ c = singleQuote ∨ c = '"' ∨ c = '$' ∨ c = ' ' then some c
  else if c = 'n' then some '\n'
  else none

/-- Reads a value; `out` holds its characters so far in reverse. -/
def value (scope : Scope) (mode : Mode) (out : List Char) : List Char → Option (List Char)
  | [] =>
    match mode with
    | .plain | .escaped false | .ended => some out.reverse
    | .name false name => some (out.reverse ++ scope.value name.reverse)
    | _ => none
  | c :: rest =>
    match mode with
    | .ended =>
      if c = ' ' ∨ c = '\t' then value scope .ended out rest
      else if c = '#' then some out.reverse
      else none
    | .escaped quoted =>
      match escapedChar? c with
      | some e => value scope (.resume quoted) (e :: out) rest
      | none => none
    | .single =>
      if c = singleQuote then value scope .plain out rest else value scope .single (c :: out) rest
    | .name quoted name =>
      if Text.isAlphanumeric c then value scope (.name quoted (c :: name)) out rest
      else if c = '\x7b' ∧ name.isEmpty then value scope (.braced quoted []) out rest
      else
        let out := (scope.value name.reverse).reverse ++ out
        if c = '$' then value scope (.name quoted []) out rest
        else value scope (.resume quoted) (c :: out) rest
    | .braced quoted name =>
      if c = '\x7d' then
        value scope (.resume quoted) ((scope.value name.reverse).reverse ++ out) rest
      else value scope (.braced quoted (c :: name)) out rest
    | .double =>
      if c = '$' then value scope (.name true []) out rest
      else if c = '"' then value scope .plain out rest
      else if c = '\\' then value scope (.escaped true) out rest
      else value scope .double (c :: out) rest
    | .plain =>
      if c = '$' then value scope (.name false []) out rest
      else if c = singleQuote then value scope .single out rest
      else if c = '"' then value scope .double out rest
      else if c = '\\' then value scope (.escaped false) out rest
      else if c = ' ' ∨ c = '\t' then value scope .ended out rest
      else value scope .plain (c :: out) rest

/-! ### Definitions -/

def isNameStart (c : Char) : Bool := c.isAlpha || c = '_'

def isNameChar (c : Char) : Bool := c.isAlphanum || c = '_' || c = '.'

/-- Splits a line after a name and the white space that follows it. -/
def name? (cs : List Char) : Option (List Char × List Char) :=
  match cs with
  | c :: _ =>
    if isNameStart c then
      some (cs.takeWhile isNameChar, (cs.dropWhile isNameChar).dropWhile isBlank)
    else none
  | [] => none

/-- The name that a line defines and the characters after the equals sign.  The word
    `export` may stand before the name. -/
def definition? (cs : List Char) : Option (List Char × List Char) :=
  match name? cs with
  | some (name, '=' :: rest) => some (name, rest.dropWhile isBlank)
  | some (['e', 'x', 'p', 'o', 'r', 't'], rest) =>
    match name? rest with
    | some (name, '=' :: rest) => some (name, rest.dropWhile isBlank)
    | _ => none
  | _ => none

/-- What a line defines. -/
inductive Line where
  | nothing
  | definition (name value : String)
  | malformed
deriving DecidableEq, Repr

def Line.read (scope : Scope) (line : List Char) : Line :=
  let isVoid (cs : List Char) : Bool := cs.isEmpty || cs.head? = some '#'
  let cs := (Text.trimEnd line).dropWhile isBlank
  if isVoid cs then .nothing
  else
    match definition? cs with
    | none => .malformed
    | some (name, rest) =>
      if isVoid rest then .definition (String.ofList name) ""
      else
        match value scope .plain [] rest with
        | none => .malformed
        | some v => .definition (String.ofList name) (String.ofList v)

/-- Adds the definitions of some lines to an environment, up to the first malformed
    one. -/
def loadLines (scope : Scope) : List (List Char) → Environment
  | [] => scope.environment
  | line :: more =>
    match Line.read scope line with
    | .malformed => scope.environment
    | .nothing => loadLines scope more
    | .definition name value =>
      let environment :=
        if (scope.environment.get? name).isSome then scope.environment
        else scope.environment.set name value
      loadLines ⟨environment, (name, value) :: scope.defined⟩ more

/-- The environment after a settings file was read; a byte order mark at its start is
    passed over. -/
def load (env : Environment) (file : String) : Environment :=
  let cs := match file.toList with
    | '\uFEFF' :: rest => rest
    | cs => cs
  loadLines ⟨env, []⟩ (logicalLines [] .plain (physicalLines cs))

end EnvFile

end DetectionJobs.Settings
