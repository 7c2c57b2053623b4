/-
  DetectionJobs/Proofs/Settings/Values.lean
  =========================================
  **The settings by their names.**

  A setting has a name, a kind, and a default unless it is required.  Which texts stand for
  which values of a kind is said apart from how they are read.  The settings that are made from
  some texts have the values that these stand for, and their defaults elsewhere.
-/
import DetectionJobs.Proofs.Json.Written
import DetectionJobs.Settings.Basic

namespace DetectionJobs.Settings

/-! ### Values and their texts -/

/-- The value of a setting. -/
inductive Value where
  | text (s : String)
  | natural (n : Nat)
  | flag (b : Bool)
deriving DecidableEq, Repr

/-- The text stands for a value of the kind. -/
inductive Kind.Reads : Kind → String → Value → Prop where
  | text (s : String) : Reads .text s (.text s)
  /-- A natural number is written in decimal digits, perhaps after a plus sign. -/
  | natural {limit : Nat} {sign digits : List Char} (hsign : sign = [] ∨ sign = ['+'])
      (hsome : digits ≠ []) (hdigits : ∀ c ∈ digits, c.isDigit = true)
      (hlimit : Nat.ofDigitChars 10 digits 0 ≤ limit) :
      Reads (.natural limit) (String.ofList (sign ++ digits))
        (.natural (Nat.ofDigitChars 10 digits 0))
  | yes : Reads .flag "true" (.flag true)
  | no : Reads .flag "false" (.flag false)

variable {limit limit' n m : Nat} {cs : List Char} {s t name : String} {k : Kind} {x : Value}
  {values : List (String × String)}

theorem readDigits_eq_ok_iff (hn : n ≤ limit) : readDigits limit n cs = .ok m ↔
    (∀ c ∈ cs, c.isDigit = true) ∧ m = Nat.ofDigitChars 10 cs n ∧ m ≤ limit := by
  induction cs generalizing n with
  | nil =>
    rw [readDigits, Nat.ofDigitChars_nil]
    constructor
    · intro h
      cases h
      exact ⟨nofun, rfl, hn⟩
    · rintro ⟨_, rfl, _⟩
      rfl
  | cons c cs ih =>
    rw [readDigits, Nat.ofDigitChars_cons]
    by_cases hc : c.isDigit = true
    · have hle := Json.le_ofDigitChars cs (10 * n + (c.toNat - '0'.toNat))
      by_cases hlarge : limit < 10 * n + (c.toNat - 48)
      · rw [if_neg (by simp [hc]), if_pos hlarge]
        constructor
        · nofun
        · rintro ⟨_, rfl, hm⟩
          exact absurd (Nat.le_trans hle hm) (Nat.not_le.mpr hlarge)
      · rw [if_neg (by simp [hc]), if_neg hlarge, ih (Nat.not_lt.mp hlarge), List.forall_mem_cons]
        exact and_congr_left fun _ => (and_iff_right hc).symm
    · rw [if_pos (by simp [hc])]
      constructor
      · nofun
      · exact fun h => absurd (h.1 c List.mem_cons_self) hc

theorem readNatural_signed {sign digits : List Char} (hsign : sign = [] ∨ sign = ['+'])
    (hsome : digits ≠ []) (hdigits : ∀ c ∈ digits, c.isDigit = true) :
    readNatural limit (String.ofList (sign ++ digits)) = readDigits limit 0 digits := by
  obtain ⟨c, cs, rfl⟩ := List.exists_cons_of_ne_nil hsome
  have hc : c ≠ '+' := by
    rintro rfl
    exact absurd (hdigits '+' List.mem_cons_self) (by decide)
  rw [readNatural, String.toList_ofList]
  rcases hsign with rfl | rfl
  · rw [List.nil_append]
    split
    · next h => cases h
    · next h => exact absurd (List.cons.inj h).1 hc
    · next h => exact absurd (List.cons.inj h).1 hc
    · rfl
  · rfl

theorem readNatural_eq_ok_iff :
    readNatural limit s = .ok n ↔ (Kind.natural limit).Reads s (.natural n) := by
  constructor
  · intro h
    have hread {sign digits : List Char} (hsign : sign = [] ∨ sign = ['+']) (hsome : digits ≠ [])
        (hs : s.toList = sign ++ digits) (hok : readDigits limit 0 digits = .ok n) :
        (Kind.natural limit).Reads s (.natural n) := by
      obtain ⟨hdigits, rfl, hlimit⟩ := (readDigits_eq_ok_iff (Nat.zero_le _)).mp hok
      rw [← String.ofList_toList (s := s), hs]
      exact .natural hsign hsome hdigits hlimit
    rw [readNatural] at h
    split at h
    · cases h
    · cases h
    · next digits hnot hs => exact hread (Or.inr rfl) (fun hnil => hnot (by rw [hnil])) hs h
    · next hnil _ _ => exact hread (Or.inl rfl) hnil rfl h
  · intro h
    cases h with
    | natural hsign hsome hdigits hlimit =>
      rw [readNatural_signed hsign hsome hdigits, readDigits_eq_ok_iff (Nat.zero_le _)]
      exact ⟨hdigits, rfl, hlimit⟩

theorem readFlag?_eq_some_iff {b : Bool} : readFlag? s = some b ↔ Kind.flag.Reads s (.flag b) := by
  constructor
  · intro h
    unfold readFlag? at h
    split at h
    · next hs =>
      cases h
      exact hs ▸ .yes
    · split at h
      · next hs =>
        cases h
        exact hs ▸ .no
      · cases h
  · intro h
    cases h with
    | yes => rfl
    | no => rfl

/-- Nothing is wrong with a text that stands for a value. -/
theorem Kind.problem?_eq_none_iff : k.problem? s = none ↔ ∃ x, k.Reads s x := by
  cases k with
  | text => exact iff_of_true rfl ⟨_, .text s⟩
  | natural limit =>
    simp only [Kind.problem?]
    constructor
    · intro h
      cases hread : readNatural limit s with
      | ok n => exact ⟨_, readNatural_eq_ok_iff.mp hread⟩
      | error f => rw [hread] at h; cases h
    · rintro ⟨x, h⟩
      obtain ⟨n, rfl⟩ : ∃ n, x = .natural n := by cases h; exact ⟨_, rfl⟩
      rw [readNatural_eq_ok_iff.mpr h]
  | flag =>
    simp only [Kind.problem?]
    constructor
    · intro h
      cases hread : readFlag? s with
      | none => rw [hread] at h; cases h
      | some b => exact ⟨_, readFlag?_eq_some_iff.mp hread⟩
    · rintro ⟨x, h⟩
      obtain ⟨b, rfl⟩ : ∃ b, x = .flag b := by cases h <;> exact ⟨_, rfl⟩
      rw [readFlag?_eq_some_iff.mpr h]
      rfl

/-- A number that is within a limit is within a larger one. -/
theorem Kind.Reads.mono (hlimit : limit ≤ limit') (h : (Kind.natural limit).Reads s (.natural n)) :
    (Kind.natural limit').Reads s (.natural n) := by
  cases h with
  | natural hsign hsome hdigits hle =>
    exact .natural hsign hsome hdigits (Nat.le_trans hle hlimit)

/-! ### Settings by name -/

/-- The value of the setting of a name; nothing if it was left out. -/
def value? (s : Settings) : String → Option Value
  | "bind_addr" => some (.text s.bindAddr)
  | "database_url" => some (.text s.databaseUrl)
  | "db_max_connections" => some (.natural s.dbMaxConnections)
  | "redis_url" => some (.text s.redisUrl)
  | "queue_name" => some (.text s.queueName)
  | "worker_name" => some (.text s.workerName)
  | "worker_concurrency" => some (.natural s.workerConcurrency)
  | "max_delivery_attempts" => some (.natural s.maxDeliveryAttempts)
  | "retry_delay_ms" => some (.natural s.retryDelayMs)
  | "detection_timeout_secs" => some (.natural s.detectionTimeoutSecs)
  | "shutdown_timeout_secs" => some (.natural s.shutdownTimeoutSecs)
  | "roboflow_api_key" => some (.text s.roboflowApiKey)
  | "roboflow_workspace_id" => some (.text s.roboflowWorkspaceId)
  | "roboflow_workflow_id" => some (.text s.roboflowWorkflowId)
  | "roboflow_base_url" => some (.text s.roboflowBaseUrl)
  | "write_pending_rows" => some (.flag s.writePendingRows)
  | "worker_metrics_addr" => s.workerMetricsAddr.map .text
  | _ => none

/-- The defaults.  The address of the metrics is left out unless it is given. -/
def defaults : List (String × Value) :=
  [("bind_addr", .text "0.0.0.0:3000"), ("db_max_connections", .natural 10),
    ("queue_name", .text "detection_jobs"), ("worker_name", .text "worker-1"),
    ("worker_concurrency", .natural 4), ("max_delivery_attempts", .natural 5),
    ("retry_delay_ms", .natural 1000), ("detection_timeout_secs", .natural 30),
    ("shutdown_timeout_secs", .natural 30), ("roboflow_api_key", .text ""),
    ("roboflow_workspace_id", .text ""), ("roboflow_workflow_id", .text ""),
    ("roboflow_base_url", .text "https://detect.roboflow.com"),
    ("write_pending_rows", .flag true)]

/-- The value is of the kind. -/
def Kind.allows : Kind → Value → Bool
  | .text, .text _ => true
  | .natural limit, .natural n => n ≤ limit
  | .flag, .flag _ => true
  | _, _ => false

theorem Kind.Reads.allows (h : k.Reads t x) : k.allows x = true := by
  cases h with
  | text => rfl
  | natural _ _ _ hlimit => exact decide_eq_true hlimit
  | yes => rfl
  | no => rfl

/-- Every default is of the kind of its setting. -/
theorem allows_default : ∀ e ∈ kinds, (defaults.lookup e.1).all e.2.allows = true := by
  decide +kernel

/-- A setting has the value that its text stands for, or its default. -/
structure Follows (values : List (String × String)) (name : String) (k : Kind) : Prop where
  given : ∀ t x, values.lookup name = some t → k.Reads t x →
    (ofValues values).value? name = some x
  left : values.lookup name = none → name ∉ requiredNames →
    (ofValues values).value? name = defaults.lookup name

theorem follows_text {default : String}
    (hvalue : (ofValues values).value? name =
      some (.text ((values.lookup name).getD default)))
    (hdefault : name ∈ requiredNames ∨ defaults.lookup name = some (.text default)) :
    Follows values name .text := by
  refine ⟨fun t x ht hx => ?_, fun hnone hnot => ?_⟩
  · cases hx
    rw [hvalue, ht, Option.getD_some]
  · rw [hvalue, hnone, hdefault.resolve_left hnot, Option.getD_none]

theorem follows_natural {default : Nat} (hlimit : limit ≤ limit64)
    (hvalue : (ofValues values).value? name =
      some (.natural (match values.lookup name with
        | some t => ((readNatural limit64 t).toOption).getD default
        | none => default)))
    (hdefault : defaults.lookup name = some (.natural default)) :
    Follows values name (.natural limit) := by
  refine ⟨fun t x ht hx => ?_, fun hnone _ => ?_⟩
  · obtain ⟨n, rfl⟩ : ∃ n, x = .natural n := by cases hx; exact ⟨_, rfl⟩
    rw [hvalue, ht]
    simp only [readNatural_eq_ok_iff.mpr (hx.mono hlimit)]
    rfl
  · rw [hvalue, hnone, hdefault]

theorem follows_flag {default : Bool}
    (hvalue : (ofValues values).value? name =
      some (.flag (((values.lookup name).bind readFlag?).getD default)))
    (hdefault : defaults.lookup name = some (.flag default)) : Follows values name .flag := by
  refine ⟨fun t x ht hx => ?_, fun hnone _ => ?_⟩
  · obtain ⟨b, rfl⟩ : ∃ b, x = .flag b := by cases hx <;> exact ⟨_, rfl⟩
    rw [hvalue, ht, Option.bind_some, readFlag?_eq_some_iff.mpr hx, Option.getD_some]
  · rw [hvalue, hnone, hdefault, Option.bind_none, Option.getD_none]

theorem limit32_le : limit32 ≤ limit64 := by decide

theorem follows (values : List (String × String)) : ∀ e ∈ kinds, Follows values e.1 e.2 := by
  simp only [kinds, List.forall_mem_cons]
  refine ⟨follows_text rfl (Or.inr rfl), follows_text rfl (Or.inl (by simp [requiredNames])),
    follows_natural limit32_le rfl rfl, follows_text rfl (Or.inl (by simp [requiredNames])),
    follows_text rfl (Or.inr rfl), follows_text rfl (Or.inr rfl),
    follows_natural (Nat.le_refl _) rfl rfl, follows_natural limit32_le rfl rfl,
    follows_natural (Nat.le_refl _) rfl rfl, follows_natural (Nat.le_refl _) rfl rfl,
    follows_natural (Nat.le_refl _) rfl rfl, follows_text rfl (Or.inr rfl),
    follows_text rfl (Or.inr rfl), follows_text rfl (Or.inr rfl), follows_text rfl (Or.inr rfl),
    follows_flag rfl rfl, ⟨fun t x ht hx => ?_, fun hnone _ => ?_⟩, nofun⟩
  · cases hx
    exact congrArg (Option.map Value.text) ht
  · exact congrArg (Option.map Value.text) hnone

end DetectionJobs.Settings
