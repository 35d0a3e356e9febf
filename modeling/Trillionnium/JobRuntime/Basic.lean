import Trillionnium.Json.Document
import Trillionnium.JobRegistry.Basic

namespace JobRuntime

open JobRegistry

inductive JobRuntimeError where
  | invalidRequest (message : String)
  | notFound
  | notLive
  | jobConflict
  | unknownAfterRestart
  | spawn (message : String)
  | spawnAfterFork (message : String)
  | io (message : String)
  | control (message : String)
  | registry (message : String)
  | journal (message : String)
  | statePoisoned
  deriving DecidableEq, Repr

def JobRuntimeError.toString : JobRuntimeError → String
  | .invalidRequest message => s!"invalid owner-open job runtime request: {message}"
  | .notFound => "owner-open job is not registered"
  | .notLive => "owner-open job is not live"
  | .jobConflict => "owner-open job request conflicts with durable state"
  | .unknownAfterRestart => "owner-open job operation is uncertain after restart"
  | .spawn message => s!"owner-open job process spawn failed: {message}"
  | .spawnAfterFork message =>
    s!"owner-open job process setup failed after child spawn: {message}"
  | .io message => s!"owner-open job process I/O failed: {message}"
  | .control message => s!"owner-open job process control failed: {message}"
  | .registry message => s!"owner-open job registry failed: {message}"
  | .journal message => s!"owner-open job journal failed: {message}"
  | .statePoisoned => "owner-open job runtime state lock is poisoned"

abbrev Result (α : Type) := Except JobRuntimeError α

def maxJobRuntimeJobs : Nat := 65536
def maxJobRuntimeOperationIdBytes : Nat := 4096
def maxJobRuntimeInputBytes : Nat := 16 * 1024 * 1024
def maxJobRuntimeOutputChunkBytes : Nat := 16 * 1024 * 1024
def maxJobRuntimeObservationsPerJob : Nat := 1048576
def maxJobRuntimeObservationBytesPerJob : Nat := 2 ^ 30

structure JobRuntimeConfig where
  maxJobs : Nat
  maxOperationIdBytes : Nat
  maxInputBytes : Nat
  maxOutputChunkBytes : Nat
  maxObservationsPerJob : Nat
  maxObservationBytesPerJob : Nat
  allowUnjournaledEffects : Bool
  deriving DecidableEq, Repr

namespace JobRuntimeConfig

def default : JobRuntimeConfig where
  maxJobs := 256
  maxOperationIdBytes := 256
  maxInputBytes := 1024 * 1024
  maxOutputChunkBytes := 64 * 1024
  maxObservationsPerJob := 4096
  maxObservationBytesPerJob := 16 * 1024 * 1024
  allowUnjournaledEffects := false

def developmentUnsafe : JobRuntimeConfig := { default with allowUnjournaledEffects := true }

def bounds (config : JobRuntimeConfig) : List (String × Nat × Nat) :=
  [("max_jobs", config.maxJobs, maxJobRuntimeJobs),
    ("max_operation_id_bytes", config.maxOperationIdBytes, maxJobRuntimeOperationIdBytes),
    ("max_input_bytes", config.maxInputBytes, maxJobRuntimeInputBytes),
    ("max_output_chunk_bytes", config.maxOutputChunkBytes, maxJobRuntimeOutputChunkBytes),
    ("max_observations_per_job", config.maxObservationsPerJob, maxJobRuntimeObservationsPerJob),
    ("max_observation_bytes_per_job", config.maxObservationBytesPerJob,
      maxJobRuntimeObservationBytesPerJob)]

def validate (config : JobRuntimeConfig) : Result Unit :=
  match config.bounds.find? (fun (_, value, maximum) => value > maximum) with
  | some (name, _, maximum) => .error (.invalidRequest s!"{name} exceeds hard bound {maximum}")
  | none =>
    if config.maxJobs = 0
        ∨ config.maxOperationIdBytes = 0
        ∨ config.maxInputBytes = 0
        ∨ config.maxOutputChunkBytes = 0
        ∨ config.maxObservationsPerJob = 0
        ∨ config.maxObservationBytesPerJob = 0
        ∨ config.maxOutputChunkBytes > config.maxObservationBytesPerJob then
      .error (.invalidRequest "job runtime bounds are inconsistent")
    else
      .ok ()

example : default.validate = .ok () := by rfl

end JobRuntimeConfig

def requireId (value label : String) (maximum : Nat) : Result Unit :=
  if Text.isId value maximum then
    .ok ()
  else
    .error (.invalidRequest s!"{label} is empty, oversized or malformed")

def requireSha256 (value label : String) : Result Unit :=
  if Text.isSha256 value then
    .ok ()
  else
    .error (.invalidRequest s!"{label} must be a lowercase SHA-256")

def requireText (value label : String) (maximum : Nat) (allowEmpty : Bool) : Result Unit :=
  if Text.isText value maximum allowEmpty then
    .ok ()
  else
    .error (.invalidRequest s!"{label} is empty, oversized or malformed")

def rewrap {α : Type} (result : Result α) : Result α :=
  result.mapError fun error => .invalidRequest error.toString

end JobRuntime
