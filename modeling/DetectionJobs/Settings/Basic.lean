/-
  DetectionJobs/Settings/Basic.lean
  =================================
  **The settings of a process.**

  Settings come from variables whose names are those of the settings in any case.
  Variables that are no setting are ignored.  The first variable that cannot be used
  is reported, before settings that are missing.
-/
import DetectionJobs.Number.Power
import DetectionJobs.Settings.EnvFile

namespace DetectionJobs

structure Settings where
  /-- The address of the HTTP server. -/
  bindAddr : String
  databaseUrl : String
  dbMaxConnections : Nat
  redisUrl : String
  queueName : String
  /-- The name of the worker; the list of its deliveries carries it. -/
  workerName : String
  /-- How many deliveries a worker works on at once. -/
  workerConcurrency : Nat
  /-- After how many failed deliveries a message is given up. -/
  maxDeliveryAttempts : Nat
  retryDelayMs : Nat
  detectionTimeoutSecs : Nat
  shutdownTimeoutSecs : Nat
  roboflowApiKey : String
  roboflowWorkspaceId : String
  roboflowWorkflowId : String
  roboflowBaseUrl : String
  /-- Whether a job gets its row before it is published. -/
  writePendingRows : Bool
  workerMetricsAddr : Option String
deriving DecidableEq, Repr

namespace Settings

/-! ### Values -/

/-- What kind of value a setting has. -/
inductive Kind where
  | text
  /-- A natural number up to a limit. -/
  | natural (limit : Nat)
  | flag
deriving DecidableEq, Repr

/-- Why a text is no natural number. -/
inductive NumberFault where
  | empty
  | badDigit
  | tooLarge
deriving DecidableEq, Repr

def NumberFault.message : NumberFault → String
  | .empty => "cannot parse integer from empty string"
  | .badDigit => "invalid digit found in string"
  | .tooLarge => "number too large to fit in target type"

/-- Reads digits after the number `n`. -/
def readDigits (limit : Nat) (n : Nat) : List Char → Except NumberFault Nat
  | [] => .ok n
  | c :: rest =>
    if !c.isDigit then .error .badDigit
    else
      let next := 10 * n + (c.toNat - 48)
      if limit < next then .error .tooLarge else readDigits limit next rest

/-- Reads a natural number with an optional plus sign. -/
def readNatural (limit : Nat) (s : String) : Except NumberFault Nat :=
  match s.toList with
  | [] => .error .empty
  | ['+'] => .error .badDigit
  | '+' :: digits => readDigits limit 0 digits
  | digits => readDigits limit 0 digits

def readFlag? (s : String) : Option Bool :=
  if s = "true" then some true else if s = "false" then some false else none

/-- What is wrong with a value, if something is. -/
def Kind.problem? (k : Kind) (s : String) : Option String :=
  match k with
  | .text => none
  | .natural limit =>
    match readNatural limit s with
    | .ok _ => none
    | .error f => some f.message
  | .flag => if (readFlag? s).isSome then none else some "provided string was not `true` or `false`"

/-! ### Names -/

def limit32 : Nat := 2 ^ 32 - 1
def limit64 : Nat := 2 ^ 64 - 1

/-- The names of the settings and the kinds of their values. -/
def kinds : List (String × Kind) :=
  [("bind_addr", .text), ("database_url", .text), ("db_max_connections", .natural limit32),
    ("redis_url", .text), ("queue_name", .text), ("worker_name", .text),
    ("worker_concurrency", .natural limit64), ("max_delivery_attempts", .natural limit32),
    ("retry_delay_ms", .natural limit64), ("detection_timeout_secs", .natural limit64),
    ("shutdown_timeout_secs", .natural limit64), ("roboflow_api_key", .text),
    ("roboflow_workspace_id", .text), ("roboflow_workflow_id", .text),
    ("roboflow_base_url", .text), ("write_pending_rows", .flag), ("worker_metrics_addr", .text)]

/-- The settings that have no default. -/
def requiredNames : List String := ["database_url", "redis_url"]

/-- A name in lower case, as far as that can make it the name of a setting: of the
    characters beyond ASCII only the Kelvin sign has a small letter within. -/
def lowerName (name : String) : String :=
  name.map fun c => if c = '\u212A' then 'k' else c.toLower

/-! ### Reading -/

/-- Why the settings cannot be read; `source` is the variable as it was given. -/
inductive Fault where
  | missing (name : String)
  | duplicate (name : String)
  | badValue (problem value source : String)
deriving DecidableEq, Repr

def Fault.message : Fault → String
  | .missing name => "missing value for field " ++ name
  | .duplicate name => "duplicate field `" ++ name ++ "`"
  | .badValue problem value source =>
    problem ++ " while parsing value '" ++ value ++ "' provided by " ++ source

/-- Collects the variables that are settings, by the names of the settings. -/
def collect (taken : List (String × String)) :
    Settings.Environment → Except Fault (List (String × String))
  | [] => .ok taken
  | (source, value) :: rest =>
    let name := lowerName source
    match kinds.lookup name with
    | none => collect taken rest
    | some kind =>
      if (taken.lookup name).isSome then .error (.duplicate name)
      else
        match kind.problem? value with
        | some problem => .error (.badValue problem value source)
        | none => collect ((name, value) :: taken) rest

/-- The settings with the given values; the others have their defaults. -/
def ofValues (values : List (String × String)) : Settings :=
  let text (name default : String) : String := (values.lookup name).getD default
  let natural (name : String) (default : Nat) : Nat :=
    match values.lookup name with
    | some s => ((readNatural limit64 s).toOption).getD default
    | none => default
  { bindAddr := text "bind_addr" "0.0.0.0:3000"
    databaseUrl := text "database_url" ""
    dbMaxConnections := natural "db_max_connections" 10
    redisUrl := text "redis_url" ""
    queueName := text "queue_name" "detection_jobs"
    workerName := text "worker_name" "worker-1"
    workerConcurrency := natural "worker_concurrency" 4
    maxDeliveryAttempts := natural "max_delivery_attempts" 5
    retryDelayMs := natural "retry_delay_ms" 1000
    detectionTimeoutSecs := natural "detection_timeout_secs" 30
    shutdownTimeoutSecs := natural "shutdown_timeout_secs" 30
    roboflowApiKey := text "roboflow_api_key" ""
    roboflowWorkspaceId := text "roboflow_workspace_id" ""
    roboflowWorkflowId := text "roboflow_workflow_id" ""
    roboflowBaseUrl := text "roboflow_base_url" "https://detect.roboflow.com"
    writePendingRows := ((values.lookup "write_pending_rows").bind readFlag?).getD true
    workerMetricsAddr := values.lookup "worker_metrics_addr" }

/-- The settings that the variables of an environment make. -/
def ofEnvironment (env : Settings.Environment) : Except Fault Settings := do
  let values ← collect [] env
  match requiredNames.find? fun name => (values.lookup name).isNone with
  | some name => .error (.missing name)
  | none => .ok (ofValues values)

/-- The settings of a process with an environment and perhaps a settings file. -/
def load (env : Settings.Environment) (file : Option String) : Except Fault Settings :=
  ofEnvironment (match file with
    | some text => EnvFile.load env text
    | none => env)

/-- The variables of the settings for detection that are blank. -/
def missingForDetection (s : Settings) : List String :=
  ([("ROBOFLOW_API_KEY", s.roboflowApiKey), ("ROBOFLOW_WORKSPACE_ID", s.roboflowWorkspaceId),
    ("ROBOFLOW_WORKFLOW_ID", s.roboflowWorkflowId)].filter
      fun v => Text.isBlankText v.2).map Prod.fst

end Settings

end DetectionJobs
