/-
  DetectionJobs/Job/Prediction.lean
  =================================
  **Detected objects.**

  A prediction is one object found in an image: a box, a class and how confident
  the detection is.  Once stored it has an identifier and a time of its own, and
  as JSON its members stand between those two.
-/
import DetectionJobs.Id.Uuid
import DetectionJobs.Json.Record
import DetectionJobs.Time.Reading
import DetectionJobs.Validation.Report

namespace DetectionJobs

open Json

/-- One detected object: its box, the name of its class and the confidence. -/
structure Prediction where
  x : Double
  y : Double
  width : Double
  height : Double
  confidence : Double
  label : String
  classId : Int32
deriving DecidableEq, Repr

namespace Prediction

def members (p : Prediction) : List (String × Value) :=
  [("x", .real p.x), ("y", .real p.y), ("width", .real p.width), ("height", .real p.height),
    ("confidence", .real p.confidence), ("class", .text p.label),
    ("class_id", .whole p.classId.toInt)]

def toValue (p : Prediction) : Value := .object p.members

/-- What was read of a prediction. -/
abbrev Draft := ((((((Option Double × Option Double) × Option Double) × Option Double) ×
  Option Double) × Option String) × Option Int32)

def fields : Fields Draft Prediction :=
  (((((((Fields.required "x" .double).and (.required "y" .double)).and
    (.required "width" .double)).and (.required "height" .double)).and
    (.required "confidence" .double)).and (.required "class" .text)).and
    (.required "class_id" .int32)).as
    fun ((((((x, y), width), height), confidence), label), classId) =>
      ⟨x, y, width, height, confidence, label, classId⟩

def format : Format Prediction := fields.format "struct Prediction"

/-! ### Rules -/

/-- The box lies in the positive quadrant, the confidence between zero and one, and
    the name of the class has 1 to 255 bytes.  Fields are in alphabetical order. -/
def report (p : Prediction) : Validation.Report :=
  let one := Double.ofNat 1
  Validation.check "class" [Validation.byteLength 1 255 p.label] ++
    Validation.check "confidence" [Validation.range .zero one p.confidence] ++
    Validation.check "height" [Validation.range .zero .largest p.height] ++
    Validation.check "width" [Validation.range .zero .largest p.width] ++
    Validation.check "x" [Validation.range .zero .largest p.x] ++
    Validation.check "y" [Validation.range .zero .largest p.y]

def IsValid (p : Prediction) : Prop := p.report = []

instance (p : Prediction) : Decidable p.IsValid := by unfold IsValid; infer_instance

end Prediction

/-- A prediction with its identifier and the time when it was stored. -/
structure StoredPrediction where
  id : Uuid
  prediction : Prediction
  createdAt : Instant
deriving DecidableEq, Repr

/-- Identifiers are strings in one of their written forms. -/
def uuidFormat : Format Uuid := .string "a formatted UUID string" fun s =>
  (Uuid.read s).mapError fun f => .custom ("UUID parsing failed: " ++ f.message)

/-- Moments are strings that `Instant.read` takes. -/
def instantFormat : Format Instant :=
  .string "an RFC 3339 formatted date and time string" fun s =>
    (Instant.read s).mapError fun f => .custom f.message

namespace StoredPrediction

/-- The JSON form: the prediction's own members stand between the two others. -/
def toValue (p : StoredPrediction) : Value :=
  .object (("id", .text p.id.text) :: p.prediction.members ++
    [("created_at", .text p.createdAt.text)])

/-- What was read of a stored prediction.  Of the other members it holds where
    their values start, the last one first. -/
structure Draft where
  id : Option Uuid
  createdAt : Option Instant
  others : List (String × List Char)

/-- Reads one member.  The value of one that may be the prediction's own is checked
    to be JSON and read when the object ends. -/
def readMember (depth : Nat) (d : Draft) (key : String) (cs : List Char) :
    Except Failure (Draft × List Char) :=
  if key = "id" then
    if d.id.isSome then .error (.inside (.data (.duplicateField key)) cs)
    else (memberValue key (uuidFormat.read depth) cs).map fun (a, rest) =>
      ({ d with id := some a }, rest)
  else if key = "created_at" then
    if d.createdAt.isSome then .error (.inside (.data (.duplicateField key)) cs)
    else (memberValue key (instantFormat.read depth) cs).map fun (a, rest) =>
      ({ d with createdAt := some a }, rest)
  else
    let check (cs : List Char) := (readValue depth cs).map fun (_, rest) => (cs, rest)
    (memberValue key check cs).map fun (start, rest) =>
      ({ d with others := (key, start) :: d.others }, rest)

/-- The stored prediction of a draft; the members of its own are looked for before
    the prediction's. -/
def Draft.build (depth : Nat) (d : Draft) : Except Problem StoredPrediction :=
  match d.id, d.createdAt with
  | none, _ => .error (.data (.missingField "id"))
  | _, none => .error (.data (.missingField "created_at"))
  | some id, some createdAt =>
    let fields := Prediction.fields
    match fields.readEntries depth d.others.reverse fields.empty with
    | .error p => .error p
    | .ok s =>
      match fields.build s with
      | .error p => .error (.data p)
      | .ok p => .ok ⟨id, p, createdAt⟩

/-- A stored prediction is read from an object only. -/
def format : Format StoredPrediction where
  read depth cs :=
    let inside (depth : Nat) (cs : List Char) : Except Failure (StoredPrediction × List Char) :=
      match collectMembers (readMember depth) (cs.length + 1) true ⟨none, none, []⟩ cs with
      | .error f => .error f
      | .ok (d, rest) =>
        match d.build depth with
        | .ok p => .ok (p, rest)
        | .error problem => .error (.inside problem rest)
    match skipSpace cs with
    | [] => .error (.beyond .endInValue [])
    | c :: rest =>
      if c = '\x7b' then inBraces depth inside (c :: rest)
      else .error (wrongType "struct StoredPrediction" (c :: rest))

end StoredPrediction

end DetectionJobs
