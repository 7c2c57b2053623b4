/-
  DetectionJobs/Queue/ListStore.lean
  ==================================
  **A store of lists.**

  Every key names a list; a key without items names the empty list.  Commands are
  carried out one after the other, and a transaction as one.
-/

namespace DetectionJobs.Queue

/-- An end of a list. -/
inductive End where
  | head
  | tail
deriving DecidableEq, Repr

inductive Command where
  | ping
  /-- Adds an item at the head of a list. -/
  | pushHead (key value : String)
  /-- Removes the first item that is `value`. -/
  | removeFirst (key value : String)
  | length (key : String)
  /-- Moves an item from an end of one list to an end of another. -/
  | move (source target : String) (fromEnd toEnd : End)
  /-- The same, but waits up to a number of seconds for an item. -/
  | awaitMove (source target : String) (fromEnd toEnd : End) (seconds : String)
deriving DecidableEq, Repr

/-- What is sent as one. -/
inductive Request where
  | single (c : Command)
  | transaction (cs : List Command)
deriving DecidableEq, Repr

inductive Reply where
  | pong
  | count (n : Nat)
  | item (value : Option String)
  | all (replies : List Reply)
deriving Repr

/-- The lists that are not empty, by their keys; items are given from the head on. -/
structure ListStore where
  lists : List (String × List String)
deriving DecidableEq, Repr

namespace ListStore

def empty : ListStore := ⟨[]⟩

def get (s : ListStore) (key : String) : List String := (s.lists.lookup key).getD []

def put (s : ListStore) (key : String) (items : List String) : ListStore :=
  let others := s.lists.filter (·.1 ≠ key)
  ⟨if items.isEmpty then others else (key, items) :: others⟩

/-- Takes the item at an end. -/
def take? (items : List String) : End → Option (String × List String)
  | .head => match items with
    | [] => none
    | v :: rest => some (v, rest)
  | .tail => items.getLast?.map fun v => (v, items.dropLast)

def add (v : String) (items : List String) : End → List String
  | .head => v :: items
  | .tail => items ++ [v]

/-- Moves an item.  The two lists may be the same one. -/
def moveItem (s : ListStore) (source target : String) (fromEnd toEnd : End) :
    ListStore × Reply :=
  match take? (s.get source) fromEnd with
  | none => (s, .item none)
  | some (v, rest) =>
    let s := s.put source rest
    (s.put target (add v (s.get target) toEnd), .item (some v))

/-- Carries out a command.  A command that waits finds its item at once or not at all. -/
def run (s : ListStore) : Command → ListStore × Reply
  | .ping => (s, .pong)
  | .pushHead key value =>
    let items := value :: s.get key
    (s.put key items, .count items.length)
  | .removeFirst key value =>
    let items := s.get key
    (s.put key (items.erase value), .count (if items.contains value then 1 else 0))
  | .length key => (s, .count (s.get key).length)
  | .move source target fromEnd toEnd => s.moveItem source target fromEnd toEnd
  | .awaitMove source target fromEnd toEnd _ => s.moveItem source target fromEnd toEnd

def runAll (s : ListStore) : List Command → ListStore × List Reply
  | [] => (s, [])
  | c :: rest =>
    let (s, reply) := s.run c
    let (s, replies) := s.runAll rest
    (s, reply :: replies)

def serve (s : ListStore) : Request → ListStore × Reply
  | .single c => s.run c
  | .transaction cs =>
    let (s, replies) := s.runAll cs
    (s, .all replies)

/-- The lists in the order of their keys. -/
def sorted (s : ListStore) : List (String × List String) :=
  s.lists.mergeSort fun a b => !(b.1 < a.1)

end ListStore

end DetectionJobs.Queue
