/-
  DetectionJobs/Proofs/Settings/Precedence.lean
  =============================================
  **Which variable a setting gets its value from.**

  What a settings file adds counts like a variable of the environment, so two variables of one
  setting are too many wherever they come from.  If settings can be read, a variable of the
  environment has precedence over the file, the first definition of the file over later ones,
  and both over the default.
-/
import DetectionJobs.Proofs.Settings.Collecting
import DetectionJobs.Proofs.Settings.Definitions
import DetectionJobs.Worker.Config

namespace DetectionJobs.Settings

variable {env defs : Environment} {name : String} {k : Kind} {s : Settings}

/-! ### Settings of a process -/

/-- The definitions of a process's settings file, if it has one. -/
def fileDefinitions (env : Environment) : Option String → Environment
  | none => []
  | some file => EnvFile.definitions env (EnvFile.lines file)

/-- The variables of a process, with those that its settings file added. -/
def wholeEnvironment (env : Environment) (file : Option String) : Environment :=
  env ++ EnvFile.added env (fileDefinitions env file)

theorem load_eq (env : Environment) (file : Option String) :
    load env file = ofEnvironment (wholeEnvironment env file) := by
  cases file with
  | none => exact congrArg ofEnvironment (List.append_nil env).symm
  | some text => exact congrArg ofEnvironment (EnvFile.load_eq env text)

/-- The environment has no variable of the setting, so that the first definition of one adds
    it. -/
theorem head?_variablesOf_added (h : variablesOf name env = []) :
    (variablesOf name (EnvFile.added env defs)).head? = (variablesOf name defs).head? := by
  induction defs generalizing env with
  | nil => rfl
  | cons d more ih =>
    rw [EnvFile.added]
    by_cases hname : lowerName d.1 = name
    · have hnew : ¬ (env.get? d.1).isSome = true := by
        intro hsome
        obtain ⟨v, hv, heq⟩ := List.lookup_isSome_iff.mp hsome
        have hmem : v ∈ variablesOf name env :=
          mem_variablesOf.mpr ⟨hv, by rw [← eq_of_beq heq]; exact hname⟩
        rw [h] at hmem
        cases hmem
      rw [if_neg hnew, variablesOf_cons_self hname, variablesOf_cons_self hname]
      rfl
    · rw [variablesOf_cons_of_ne hname]
      split
      · exact ih h
      · rw [variablesOf_cons_of_ne hname]
        refine ih ?_
        rw [variablesOf_append, h, variablesOf_cons_of_ne hname]
        rfl

/-- Where the values of the settings come from: the environment, the definitions of the file, or
    the defaults, in this order. -/
structure Precedes (env defs : Environment) (s : Settings) : Prop where
  /-- A variable of the environment is the only one of its setting. -/
  fromEnvironment : ∀ name k, (name, k) ∈ kinds → ∀ v ∈ env, lowerName v.1 = name →
    variablesOf name env = [v] ∧ ∃ x, k.Reads v.2 x ∧ s.value? name = some x
  fromFile : ∀ name k, (name, k) ∈ kinds → (∀ v ∈ env, lowerName v.1 ≠ name) →
    ∀ d, (variablesOf name defs).head? = some d → ∃ x, k.Reads d.2 x ∧ s.value? name = some x
  byDefault : ∀ name k, (name, k) ∈ kinds → (∀ v ∈ env, lowerName v.1 ≠ name) →
    variablesOf name defs = [] → name ∉ requiredNames ∧ s.value? name = defaults.lookup name

/-- A worker works on one delivery at least and makes one attempt at least, and its spans are
    exactly those of the settings. -/
structure Prepares (s : Settings) (c : Worker.Config) : Prop where
  concurrency : 1 ≤ c.concurrency ∧ (1 ≤ s.workerConcurrency → c.concurrency = s.workerConcurrency)
  maxAttempts : 1 ≤ c.maxAttempts ∧
    (1 ≤ s.maxDeliveryAttempts → c.maxAttempts = s.maxDeliveryAttempts)
  detectionTimeout : c.detectionTimeout.nanos = s.detectionTimeoutSecs * 1000000000 ∧
    c.detectionTimeout.nanos ≤ Span.longest.nanos
  retryDelay : c.retryDelay.nanos = s.retryDelayMs * 1000000 ∧
    c.retryDelay.nanos ≤ Span.longest.nanos
  shutdownTimeout : c.shutdownTimeout.nanos = s.shutdownTimeoutSecs * 1000000000 ∧
    c.shutdownTimeout.nanos ≤ Span.longest.nanos

theorem variablesOf_eq_nil_iff : variablesOf name env = [] ↔ ∀ v ∈ env, lowerName v.1 ≠ name := by
  simp [variablesOf]

theorem precedes_of_reflects (husable : Usable (env ++ EnvFile.added env defs))
    (h : Reflects (env ++ EnvFile.added env defs) s) : Precedes env defs s := by
  have happend (name : String) := variablesOf_append name env (EnvFile.added env defs)
  refine ⟨fun name k hk v hv hname => ?_, fun name k hk hnone d hd => ?_,
    fun name k hk hnone hdefs => ?_⟩
  · have hmem : v ∈ variablesOf name env := mem_variablesOf.mpr ⟨hv, hname⟩
    have hwhole : v ∈ variablesOf name (env ++ EnvFile.added env defs) := by
      rw [happend]
      exact List.mem_append_left _ hmem
    have honly := husable.eq_singleton hk hwhole
    refine ⟨?_, h.given name k hk v hwhole⟩
    rw [happend, List.append_eq_singleton_iff] at honly
    rcases honly with ⟨hnil, _⟩ | ⟨hmine, _⟩
    · rw [hnil] at hmem
      cases hmem
    · exact hmine
  · rw [← variablesOf_eq_nil_iff] at hnone
    rw [← head?_variablesOf_added hnone] at hd
    refine h.given name k hk d ?_
    rw [happend]
    exact List.mem_append_right _ (List.mem_of_head? hd)
  · rw [← variablesOf_eq_nil_iff] at hnone
    refine h.left name k hk ?_
    rw [happend, hnone, List.nil_append, ← List.head?_eq_none_iff, head?_variablesOf_added hnone,
      hdefs]
    rfl

/-- Spans of as many seconds or milliseconds as settings may ask for are never cut short. -/
theorem seconds_le_longest {n : Nat} (h : n ≤ limit64) :
    n * 1000000000 ≤ Span.longest.nanos := by
  simp only [limit64, Span.longest] at h ⊢
  omega

theorem prepares_of_reflects (h : Reflects env s) : Prepares s (.ofSettings s) := by
  have hbound {name : String} {n : Nat} (hk : (name, Kind.natural limit64) ∈ kinds)
      (hn : s.value? name = some (.natural n)) : n ≤ limit64 :=
    of_decide_eq_true (h.allows hk hn)
  have hdetection : s.detectionTimeoutSecs ≤ limit64 :=
    hbound (by decide +kernel : ("detection_timeout_secs", _) ∈ kinds) rfl
  have hretry : s.retryDelayMs ≤ limit64 :=
    hbound (by decide +kernel : ("retry_delay_ms", _) ∈ kinds) rfl
  have hshutdown : s.shutdownTimeoutSecs ≤ limit64 :=
    hbound (by decide +kernel : ("shutdown_timeout_secs", _) ∈ kinds) rfl
  refine ⟨⟨Nat.le_max_right _ _, fun hone => Nat.max_eq_left hone⟩,
    ⟨Nat.le_max_right _ _, fun hone => Nat.max_eq_left hone⟩,
    ⟨rfl, seconds_le_longest hdetection⟩, ⟨rfl, ?_⟩, ⟨rfl, seconds_le_longest hshutdown⟩⟩
  exact Nat.le_trans (Nat.mul_le_mul_left _ (by decide)) (seconds_le_longest hretry)

/-- **The environment has precedence over the settings file, and both over the defaults.**
    Loading fails just if the variables of both cannot be used, as when two of them are of one
    setting. -/
theorem settings_precedence (env : Environment) (file : Option String) :
    (∀ s, load env file = .ok s →
      Precedes env (fileDefinitions env file) s ∧ Prepares s (.ofSettings s)) ∧
    (∀ name k, (name, k) ∈ kinds → 2 ≤ (variablesOf name (wholeEnvironment env file)).length →
      ∃ f, load env file = .error f) ∧
    ((∃ s, load env file = .ok s) ↔ Usable (wholeEnvironment env file)) := by
  rw [load_eq]
  rcases ofEnvironment_cases (wholeEnvironment env file) with
    ⟨s, hok, husable, hreflects⟩ | ⟨⟨f, herror⟩, hnot⟩
  · rw [hok]
    refine ⟨fun s' hs' => ?_, fun name k hk htwo => ?_, iff_of_true ⟨s, rfl⟩ husable⟩
    · obtain rfl := Except.ok.inj hs'
      exact ⟨precedes_of_reflects husable hreflects, prepares_of_reflects hreflects⟩
    · exact absurd (husable.single name k hk) (Nat.not_le.mpr htwo)
  · rw [herror]
    exact ⟨nofun, fun _ _ _ _ => ⟨f, rfl⟩, iff_of_false nofun hnot⟩

/-- A name in mixed case, and a number that needs 64 bits. -/
def mixedEnvironment : Environment :=
  [("Queue_Name", "blue"), ("DATABASE_URL", "postgres://db/a"), ("COLOUR", "blue"),
    ("RETRY_DELAY_MS", "+18446744073709551615")]

/-- A definition of a variable that is there, one that is made again, and a malformed line. -/
def mixedFile : String :=
  "DATABASE_URL=postgres://db/b\nREDIS_URL=redis://one # first\nREDIS_URL=redis://two\n" ++
    "export WORKER_CONCURRENCY=0\nWORKER_NAME=\"$COLOUR-1\"\n=\nMAX_DELIVERY_ATTEMPTS=7\n"

def mixed : Settings where
  bindAddr := "0.0.0.0:3000"
  databaseUrl := "postgres://db/a"
  dbMaxConnections := 10
  redisUrl := "redis://one"
  queueName := "blue"
  workerName := "blue-1"
  workerConcurrency := 0
  maxDeliveryAttempts := 5
  retryDelayMs := 2 ^ 64 - 1
  detectionTimeoutSecs := 30
  shutdownTimeoutSecs := 30
  roboflowApiKey := ""
  roboflowWorkspaceId := ""
  roboflowWorkflowId := ""
  roboflowBaseUrl := "https://detect.roboflow.com"
  writePendingRows := true
  workerMetricsAddr := none

theorem settings_precedence_of_mixed :
    load mixedEnvironment (some mixedFile) = .ok mixed ∧
      Precedes mixedEnvironment (fileDefinitions mixedEnvironment (some mixedFile)) mixed ∧
      Prepares mixed (.ofSettings mixed) ∧
      2 ≤ (variablesOf "queue_name"
        (wholeEnvironment mixedEnvironment (some "QUEUE_NAME=green"))).length ∧
      ∃ f, load mixedEnvironment (some "QUEUE_NAME=green") = .error f := by
  have hload : load mixedEnvironment (some mixedFile) = .ok mixed := by
    have hsome : (load mixedEnvironment (some mixedFile)).toOption = some mixed := by
      decide +kernel
    generalize load mixedEnvironment (some mixedFile) = result at hsome ⊢
    cases result with
    | ok s => exact congrArg Except.ok (Option.some.inj hsome)
    | error f => cases hsome
  have htwo : 2 ≤ (variablesOf "queue_name"
      (wholeEnvironment mixedEnvironment (some "QUEUE_NAME=green"))).length := by decide +kernel
  obtain ⟨hprecedes, hprepares⟩ :=
    (settings_precedence mixedEnvironment (some mixedFile)).1 mixed hload
  have hfails := (settings_precedence mixedEnvironment (some "QUEUE_NAME=green")).2.1
    "queue_name" .text (by decide +kernel) htwo
  exact ⟨hload, hprecedes, hprepares, htwo, hfails⟩

end DetectionJobs.Settings
