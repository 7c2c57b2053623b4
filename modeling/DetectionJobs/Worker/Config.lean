/-
  DetectionJobs/Worker/Config.lean
  ================================
  **How a worker is set up.**
-/
import DetectionJobs.Settings.Basic
import DetectionJobs.Time.Span

namespace DetectionJobs.Worker

/-- How a worker is set up. -/
structure Config where
  /-- How many deliveries are worked on at once. -/
  concurrency : Nat
  /-- After how many failed deliveries a message is given up. -/
  maxAttempts : Nat
  /-- How long one detection call may take. -/
  detectionTimeout : Span
  /-- The pause before a failed delivery goes back to the queue. -/
  retryDelay : Span
  /-- How long one wait for a delivery lasts, and the pause after an error. -/
  pollTimeout : Span
  /-- How long running deliveries may take after the worker was stopped. -/
  shutdownTimeout : Span
  /-- How often a settlement is tried. -/
  settleAttempts : Nat
  /-- The pause before the second try of a settlement; it doubles from then on. -/
  settleBackoff : Span
deriving DecidableEq, Repr

namespace Config

/-- The set-up of a worker for which nothing was chosen. -/
def standard : Config where
  concurrency := 4
  maxAttempts := 5
  detectionTimeout := .ofSeconds 30
  retryDelay := .ofSeconds 1
  pollTimeout := .ofSeconds 1
  shutdownTimeout := .ofSeconds 30
  settleAttempts := 3
  settleBackoff := .ofMillis 200

/-- The set-up that the settings of a process ask for.  A worker takes at least one
    delivery at a time and gives every message at least one attempt. -/
def ofSettings (s : Settings) : Config :=
  { standard with
    concurrency := max s.workerConcurrency 1
    maxAttempts := max s.maxDeliveryAttempts 1
    detectionTimeout := .ofSeconds s.detectionTimeoutSecs
    retryDelay := .ofMillis s.retryDelayMs
    shutdownTimeout := .ofSeconds s.shutdownTimeoutSecs }

end Config

end DetectionJobs.Worker
