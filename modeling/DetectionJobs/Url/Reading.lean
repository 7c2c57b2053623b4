/-
  DetectionJobs/Url/Reading.lean
  ==============================
  **Reading URLs.**

  Schemes of the web have a host, whose slashes may be written either way and in any
  number.  Other schemes have a host after exactly two slashes.  In a path `.` and `..`
  are resolved while it is read.
-/
import DetectionJobs.Url.Basic

namespace DetectionJobs.Url

/-- How the rest of a URL is read. -/
inductive SchemeKind where
  | web
  | file
  | other
deriving DecidableEq, Repr

def SchemeKind.ofScheme (scheme : String) : SchemeKind :=
  if scheme = "file" then .file
  else if (defaultPort? scheme).isSome then .web
  else .other

/-- Whether a backslash counts as a slash. -/
def SchemeKind.bends (k : SchemeKind) : Bool := k ≠ .other

def SchemeKind.isSlash (k : SchemeKind) (c : Char) : Bool := c = '/' || (k.bends && c = '\\')

/-- Whether a character ends the authority. -/
def SchemeKind.endsAuthority (k : SchemeKind) (c : Char) : Bool :=
  k.isSlash c || c = '?' || c = '#'

/-! ### What is percent-encoded -/

def keepsIn (encoded : String) (c : Char) : Bool :=
  !Host.isControl c && !encoded.toList.contains c

def inFragment : Char → Bool := keepsIn " \"<>\x60"
def inPath : Char → Bool := keepsIn " \"<>\x60#?\x7b\x7d"
def inQuery : Char → Bool := keepsIn " \"#<>"
def inUserinfo : Char → Bool := keepsIn " \"<>\x60#?\x7b\x7d/:;=@[\\]^|"

/-- The apostrophe, which is encoded in the queries of the web. -/
def apostrophe : Char := Char.ofNat 39

def encoded (keeps : Char → Bool) (cs : List Char) : String :=
  String.ofList (Percent.encode keeps cs)

/-! ### Path -/

/-- Segments that stand for the directory itself and for the one above. -/
def isDot (segment : String) : Bool := [".", "%2e"].contains segment.toLower
def isDoubleDot (segment : String) : Bool :=
  ["..", "%2e.", ".%2e", "%2e%2e"].contains segment.toLower

/-- A letter and a colon or a bar: a drive, which `..` does not leave. -/
def isDrive (segment : String) : Bool :=
  match segment.toList with
  | [letter, mark] => letter.isAlpha && (mark = ':' || mark = '|')
  | _ => false

/-- The directory above; `above` holds the segments, last first. -/
def leave : (above : List String) → List String
  | [] => []
  | segment :: rest => if isDrive segment then segment :: rest else rest

/-- A drive at the start of a file's path is written with a colon. -/
def driveText (kind : SchemeKind) (above : List String) (segment : String) : String :=
  if kind = .file ∧ above = [] ∧ isDrive segment then
    String.ofList (segment.toList.take 1 ++ [':'])
  else segment

/-- Resolves the segments of a path; `above` holds those before, last first. -/
def resolve (kind : SchemeKind) (above : List String) : List String → List String
  | [] => above.reverse
  | [last] =>
    if isDoubleDot last then (leave above).reverse ++ [""]
    else if isDot last then above.reverse ++ [""]
    else above.reverse ++ [driveText kind above last]
  | segment :: rest =>
    if isDoubleDot segment then resolve kind (leave above) rest
    else if isDot segment then resolve kind above rest
    else resolve kind (driveText kind above segment :: above) rest

/-- A path that begins with a slash, given without it. -/
def pathText (kind : SchemeKind) (cs : List Char) : String :=
  let cs := cs.map fun c => if kind.isSlash c then '/' else c
  "/" ++ "/".intercalate (resolve kind [] ((Host.split '/' cs).map (encoded inPath)))

/-- The path after an authority. -/
def pathAfter (kind : SchemeKind) : List Char → String
  | [] => if kind.bends then "/" else ""
  | c :: rest => if kind.isSlash c then pathText kind rest else pathText kind (c :: rest)

/-! ### Authority -/

/-- The texts before and after the last `@`. -/
def splitUserinfo? (cs : List Char) : Option (List Char × List Char) :=
  let host := (cs.reverse.takeWhile (· ≠ '@')).reverse
  if host.length = cs.length then none
  else some (cs.take (cs.length - host.length - 1), host)

/-- The name and the password; an empty password is none. -/
def credentials (cs : List Char) : String × Option String :=
  let (name, rest) := cs.span (· ≠ ':')
  let password := rest.drop 1
  (encoded inUserinfo name, if password.isEmpty then none else some (encoded inUserinfo password))

/-- The host and what follows it: up to a colon outside brackets. -/
def splitHost (inBrackets : Bool) : List Char → List Char × List Char
  | [] => ([], [])
  | c :: rest =>
    if c = ':' ∧ ¬ inBrackets then ([], c :: rest)
    else
      let (host, after) := splitHost (c = '[' || (inBrackets && c ≠ ']')) rest
      (c :: host, after)

/-- Reads a port, which a slash, a query or a fragment ends. -/
def readPort (cs : List Char) : Except UrlFault (Option Nat × List Char) :=
  let (digits, rest) := cs.span Host.isDigit
  if 65535 < Host.decimal digits then .error .port
  else if rest.head?.any (!"/\\?#".toList.contains ·) then .error .port
  else .ok (if digits.isEmpty then none else some (Host.decimal digits), rest)

/-- Reads what follows two slashes: the authority, and the rest of the URL. -/
def readAuthority (scheme : String) (kind : SchemeKind) (cs : List Char) :
    Except UrlFault (Authority × List Char) := do
  let (text, rest) := cs.span (!kind.endsAuthority ·)
  let (user, hostText) := match splitUserinfo? text with
    | none => (none, text)
    | some (user, hostText) => (some user, hostText)
  let (username, password) := credentials (user.getD [])
  if user = some [] ∧ hostText = [] ∧ rest ≠ [] then throw .emptyHost
  let (hostText, after) := splitHost false hostText
  if kind.bends ∧ hostText = [] then throw .emptyHost
  let host ← if kind.bends then Host.readDomain hostText else Host.readOpaque hostText
  let isEmpty := host = .name ""
  if isEmpty ∧ after ≠ [] then throw .emptyHost
  let (port, rest) ← match after with
    | [] => pure (none, rest)
    | _ :: after => readPort (after ++ rest)
  if isEmpty ∧ (username ≠ "" ∨ password.isSome) then throw .emptyHost
  let port := if port = defaultPort? scheme then none else port
  return (⟨username, password, host, port⟩, rest)

/-- Reads the host of a file, which has neither name nor port; `localhost` is none. -/
def readFileHost (cs : List Char) : Except UrlFault (Host × List Char) := do
  let (text, rest) := cs.span (!SchemeKind.file.endsAuthority ·)
  if isDrive (String.ofList text) then return (.name "", '/' :: cs)
  if text = [] then return (.name "", rest)
  match ← Host.readDomain text with
  | .name "localhost" => return (.name "", rest)
  | host => return (host, rest)

/-! ### The whole -/

/-- The scheme in lower case and the text after its colon. -/
def splitScheme? (cs : List Char) : Option (String × List Char) :=
  match cs with
  | [] => none
  | c :: _ =>
    let (scheme, rest) := cs.span fun c => c.isAlphanum || c = '+' || c = '-' || c = '.'
    if c.isAlpha ∧ rest.head? = some ':' then
      some ((String.ofList scheme).toLower, rest.drop 1)
    else none

/-- Puts a URL together from its authority, its path and the text after the path. -/
def finish (scheme : String) (kind : SchemeKind) (authority : Option Authority) (path : String)
    (cs : List Char) : Url :=
  let (query, fragment) := cs.span (· ≠ '#')
  let inQuery := fun c => inQuery c && !(kind.bends && c = apostrophe)
  { scheme, authority, path
    query := if query.isEmpty then none else some (encoded inQuery (query.drop 1))
    fragment := if fragment.isEmpty then none else some (encoded inFragment (fragment.drop 1)) }

/-- The path of a text and what follows it. -/
def splitPath (cs : List Char) : List Char × List Char := cs.span fun c => c ≠ '?' && c ≠ '#'

/-- Reads the text after the scheme. -/
def readAfterScheme (scheme : String) (cs : List Char) : Except UrlFault Url := do
  let kind := SchemeKind.ofScheme scheme
  match kind, cs with
  | .web, _ =>
    let (authority, rest) ← readAuthority scheme kind (cs.dropWhile kind.isSlash)
    let (path, rest) := splitPath rest
    return finish scheme kind (some authority) (pathAfter kind path) rest
  | .file, _ =>
    let slashes := (cs.take 2).takeWhile kind.isSlash
    let (host, rest) ← if slashes.length = 2 then readFileHost (cs.drop 2) else .ok (.name "", cs)
    let (path, rest) := splitPath rest
    return finish scheme kind (some ⟨"", none, host, none⟩) (pathAfter kind path) rest
  | .other, '/' :: '/' :: after =>
    let (authority, rest) ← readAuthority scheme kind after
    let (path, rest) := splitPath rest
    return finish scheme kind (some authority) (pathAfter kind path) rest
  | .other, '/' :: after =>
    let (path, rest) := splitPath after
    return finish scheme kind none (pathText kind path) rest
  | .other, _ =>
    let (path, rest) := splitPath cs
    return finish scheme kind none (encoded (!Host.isControl ·) path) rest

/-- Drops the control characters and blanks around a text, and tabs and line ends
    everywhere. -/
def tidy (s : String) : List Char :=
  let isEdge (c : Char) : Bool := c.toNat ≤ 0x20
  let trimmed := ((s.toList.dropWhile isEdge).reverse.dropWhile isEdge).reverse
  trimmed.filter fun c => c ≠ '\t' && c ≠ '\n' && c ≠ '\r'

def read (s : String) : Except UrlFault Url :=
  match splitScheme? (tidy s) with
  | none => .error .noScheme
  | some (scheme, rest) => readAfterScheme scheme rest

end DetectionJobs.Url
