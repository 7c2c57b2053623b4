/-
  DetectionJobs/Http/Message.lean
  ===============================
  **Requests and responses.**

  Names of headers are written in small letters.
-/

namespace DetectionJobs.Http

structure Request where
  method : String
  /-- The path with the query and the fragment. -/
  target : String
  headers : List (String × String)
  body : String
deriving DecidableEq, Repr

namespace Request

def values (r : Request) (name : String) : List String :=
  (r.headers.filter fun h => h.1.toLower = name).map Prod.snd

def value? (r : Request) (name : String) : Option String := (r.values name).head?

/-- The path without the query and the fragment. -/
def path (r : Request) : String :=
  String.ofList (r.target.toList.takeWhile fun c => c ≠ '?' && c ≠ '#')

end Request

structure Response where
  status : Nat
  headers : List (String × String)
  body : String
deriving DecidableEq, Repr

namespace Response

/-- A response without body. -/
def bare (status : Nat) : Response := ⟨status, [], ""⟩

def json (status : Nat) (body : String) : Response :=
  ⟨status, [("content-type", "application/json")], body⟩

def plain (status : Nat) (body : String) : Response :=
  ⟨status, [("content-type", "text/plain; charset=utf-8")], body⟩

def withHeader (r : Response) (name value : String) : Response :=
  { r with headers := r.headers ++ [(name, value)] }

end Response

end DetectionJobs.Http
