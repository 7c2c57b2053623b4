/-
  DetectionJobs/Url/Basic.lean
  ============================
  **URLs and their written form.**

  A URL is kept in the form in which it is written: what a part may not hold is already
  percent-encoded.
-/
import DetectionJobs.Url.Host

namespace DetectionJobs

/-- What stands between the two slashes and the path. -/
structure Authority where
  username : String
  password : Option String
  host : Host
  port : Option Nat
deriving DecidableEq, Repr

structure Url where
  scheme : String
  authority : Option Authority
  path : String
  query : Option String
  fragment : Option String
deriving DecidableEq, Repr

namespace Authority

def text (a : Authority) : String :=
  let user := match a.password with
    | some password => a.username ++ ":" ++ password ++ "@"
    | none => if a.username.isEmpty then "" else a.username ++ "@"
  user ++ a.host.text ++ (a.port.map (":" ++ toString ·)).getD ""

end Authority

namespace Url

/-- The written form.  Without authority a path does not begin with two slashes. -/
def text (u : Url) : String :=
  let start := match u.authority with
    | some a => "//" ++ a.text
    | none => if u.path.startsWith "//" then "/." else ""
  u.scheme ++ ":" ++ start ++ u.path ++ (u.query.map ("?" ++ ·)).getD ""
    ++ (u.fragment.map ("#" ++ ·)).getD ""

/-- The host; an empty name is none. -/
def host? (u : Url) : Option Host :=
  match u.authority with
  | some a => if a.host = .name "" then none else some a.host
  | none => none

/-- The port that a scheme has when none is written. -/
def defaultPort? : (scheme : String) → Option Nat
  | "http" => some 80
  | "https" => some 443
  | "ws" => some 80
  | "wss" => some 443
  | "ftp" => some 21
  | _ => none

/-- The value of a name in the query, written as a form: the last one counts, and bytes
    that are not UTF-8 make a text that is no value of this program. -/
def queryValue? (u : Url) (name : String) : Option String :=
  let decode (cs : List Char) : String :=
    (Percent.decodeText? (cs.map fun c => if c = '+' then ' ' else c)).getD "\ufffd"
  let pairs := (Host.split '&' (u.query.getD "").toList).filterMap fun part =>
    if part.isEmpty then none
    else
      let (key, value) := part.span (· ≠ '=')
      if decode key = name then some (decode (value.drop 1)) else none
  pairs.getLast?

/-- Leaves out the name and password, if they can be read. -/
def withoutCredentials (u : Url) : Url :=
  match u.authority with
  | none => u
  | some a =>
    match Percent.decodeText? a.username.toList with
    | none => u
    | some name =>
      let password := a.password.bind fun p => Percent.decodeText? p.toList
      if name.isEmpty ∧ password.isNone then u
      else { u with authority := some { a with username := "", password := none } }

end Url

end DetectionJobs
