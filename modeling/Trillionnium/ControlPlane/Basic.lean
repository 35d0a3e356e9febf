import Trillionnium.Data.BTreeMap
import Trillionnium.Data.Checked
import Trillionnium.Data.Double
import Trillionnium.Data.Except
import Trillionnium.Text.Checks

namespace ControlPlane

open Json Text

def leaseSchema : String := "trillionnium.owner-open.control-lease.v1"
def observationSchema : String := "trillionnium.owner-open.module-observation.v1"
def moduleInstanceSchema : String := "trillionnium.owner-open.module-instance.v1"
def shadowPolicySchema : String := "trillionnium.owner-open.shadow-policy.v1"

inductive ControlError where
  | invalid (message : String)
  | epochMismatch
  | fencingMismatch
  | leaseExpired
  | authorityUnavailable
  | unsupportedMode
  | capacityExceeded
  deriving DecidableEq, Repr

def ControlError.toString : ControlError → String
  | .invalid message => message
  | .epochMismatch => "control epoch is stale"
  | .fencingMismatch => "fencing token is stale"
  | .leaseExpired => "control lease is expired"
  | .authorityUnavailable => "control authority is unavailable"
  | .unsupportedMode => "active control modes are not enabled"
  | .capacityExceeded => "requested admission exceeds lease budget"

abbrev Result := Except ControlError

def u32Max : Nat := 2 ^ 32 - 1

def rejectIf (c : Prop) [Decidable c] (e : ControlError) : Result Unit :=
  if c then .error e else .ok ()

theorem rejectIf_bind_eq_ok {α : Type} {c : Prop} [Decidable c] {e : ControlError}
    {rest : Unit → Result α} {x : α} :
    (rejectIf c e >>= rest) = .ok x ↔ ¬ c ∧ rest () = .ok x := by
  unfold rejectIf
  split
  next h => simp [h]
  next h => simp [h]

inductive ControlMode where
  | observe
  | shadow
  | advisory
  | activeCanary
  | active
  deriving DecidableEq, Repr

namespace ControlMode

def isShadowSafe : ControlMode → Bool
  | .observe | .shadow => true
  | _ => false

def toText : ControlMode → String
  | .observe => "OBSERVE"
  | .shadow => "SHADOW"
  | .advisory => "ADVISORY"
  | .activeCanary => "ACTIVE_CANARY"
  | .active => "ACTIVE"

end ControlMode

def fencingTokenOf (epoch : Nat) : String := s!"epoch-{epoch}"

def requireNames (describe : String → String) (fields : List (String × String)) : Result Unit :=
  fields.forM fun (name, value) =>
    if isBlank value ∨ (utf8 value).length > 256 then
      .error (.invalid (describe name))
    else
      .ok ()

structure ResourceBudget where
  maxConcurrency : Nat
  maxQueue : Nat
  maxCpuMillis : Nat
  maxMemoryBytes : Nat
  maxIoBytes : Nat
  deriving DecidableEq, Repr

def maxResourceConcurrency : Nat := 65536
def maxResourceQueue : Nat := 1048576
def maxResourceCpuMillis : Nat := 86400000
def maxResourceMemoryBytes : Nat := 2 ^ 40
def maxResourceIoBytes : Nat := 2 ^ 40

def ResourceBudget.validate (budget : ResourceBudget) : Result Unit :=
  if budget.maxConcurrency = 0
      ∨ budget.maxQueue = 0
      ∨ budget.maxCpuMillis = 0
      ∨ budget.maxMemoryBytes = 0
      ∨ budget.maxIoBytes = 0 then
    .error (.invalid "resource budgets must be finite and non-zero")
  else if budget.maxConcurrency > maxResourceConcurrency then
    .error (.invalid s!"resource concurrency exceeds hard bound {maxResourceConcurrency}")
  else if budget.maxQueue > maxResourceQueue then
    .error (.invalid s!"resource queue exceeds hard bound {maxResourceQueue}")
  else if budget.maxCpuMillis > maxResourceCpuMillis then
    .error (.invalid s!"resource CPU budget exceeds hard bound {maxResourceCpuMillis}")
  else if budget.maxMemoryBytes > maxResourceMemoryBytes then
    .error (.invalid s!"resource memory budget exceeds hard bound {maxResourceMemoryBytes}")
  else if budget.maxIoBytes > maxResourceIoBytes then
    .error (.invalid s!"resource I/O budget exceeds hard bound {maxResourceIoBytes}")
  else
    .ok ()

structure ShadowPolicy where
  schema : String
  version : String
  healthGuardThreshold : Double
  healthRecoverThreshold : Double
  rollbackUnknownRateThreshold : Double
  maxAdjustment : Nat
  minDwellMs : Nat
  cooldownMs : Nat

namespace ShadowPolicy

def default : ShadowPolicy where
  schema := shadowPolicySchema
  version := "shadow-policy-v1"
  healthGuardThreshold := .half
  healthRecoverThreshold := ⟨0x3fe6666666666666⟩
  rollbackUnknownRateThreshold := .half
  maxAdjustment := 1
  minDwellMs := 10
  cooldownMs := 10

def requireRate (name : String) (rate : Double) : Result Unit :=
  if rate.isFinite = false ∨ ¬ (Double.zero.le rate ∧ rate.le .one) then
    .error (.invalid s!"shadow policy {name} must be finite and in [0,1]")
  else
    .ok ()

def validate (policy : ShadowPolicy) : Result Unit := do
  rejectIf (policy.schema ≠ shadowPolicySchema ∨ isBlank policy.version
      ∨ (utf8 policy.version).length > 128)
    (.invalid "shadow policy schema or version is invalid")
  requireRate "health_guard_threshold" policy.healthGuardThreshold
  requireRate "health_recover_threshold" policy.healthRecoverThreshold
  requireRate "rollback_unknown_rate_threshold" policy.rollbackUnknownRateThreshold
  rejectIf (policy.healthRecoverThreshold.lt policy.healthGuardThreshold)
    (.invalid "shadow policy recovery threshold must not be below guard threshold")
  rejectIf (policy.maxAdjustment = 0) (.invalid "shadow policy max adjustment must be non-zero")
  rejectIf (policy.maxAdjustment > maxResourceConcurrency)
    (.invalid s!"shadow policy max adjustment exceeds hard bound {maxResourceConcurrency}")

theorem validate_default : default.validate = .ok () := by
  decide +kernel

end ShadowPolicy

inductive ModuleInstanceStatus where
  | registered
  | draining
  | offline
  deriving DecidableEq, Repr

structure ModuleInstanceKey where
  moduleId : String
  moduleInstanceId : String
  partition : String
  deriving DecidableEq, Repr

namespace ModuleInstanceKey

open Std

instance : Ord ModuleInstanceKey where
  compare := compareLex (compareOn moduleId)
    (compareLex (compareOn moduleInstanceId) (compareOn partition))

instance : TransOrd ModuleInstanceKey :=
  inferInstanceAs (TransCmp (compareLex (compareOn moduleId)
    (compareLex (compareOn moduleInstanceId) (compareOn partition))))

instance : LawfulEqOrd ModuleInstanceKey where
  eq_of_compare {a b} h := by
    change compareLex (compareOn moduleId)
      (compareLex (compareOn moduleInstanceId) (compareOn partition)) a b = .eq at h
    rw [compareLex_eq_eq, compareLex_eq_eq] at h
    obtain ⟨hmodule, hinstance, hpartition⟩ := h
    have hmodule := LawfulEqOrd.eq_of_compare hmodule
    have hinstance := LawfulEqOrd.eq_of_compare hinstance
    have hpartition := LawfulEqOrd.eq_of_compare hpartition
    cases a
    cases b
    simp_all

def validate (key : ModuleInstanceKey) : Result Unit :=
  requireNames (fun name => s!"module instance {name} is invalid")
    [("module_id", key.moduleId), ("module_instance_id", key.moduleInstanceId),
      ("partition", key.partition)]

end ModuleInstanceKey

structure ModuleInstance where
  schema : String
  moduleId : String
  moduleInstanceId : String
  partition : String
  version : String
  controlEpoch : Nat
  fencingToken : String
  status : ModuleInstanceStatus
  registeredAtMs : Nat
  lastSeenAtMs : Nat
  deriving DecidableEq, Repr

namespace ModuleInstance

def key (inst : ModuleInstance) : ModuleInstanceKey :=
  ⟨inst.moduleId, inst.moduleInstanceId, inst.partition⟩

def validate (inst : ModuleInstance) : Result Unit := do
  rejectIf (inst.schema ≠ moduleInstanceSchema) (.invalid "module instance schema mismatch")
  inst.key.validate
  rejectIf (isBlank inst.version ∨ (utf8 inst.version).length > 256)
    (.invalid "module instance version is invalid")
  rejectIf (inst.controlEpoch = 0 ∨ isBlank inst.fencingToken
      ∨ (utf8 inst.fencingToken).length > 256)
    (.invalid "module instance epoch or fencing token is invalid")
  rejectIf (inst.registeredAtMs > inst.lastSeenAtMs)
    (.invalid "module instance timestamps are not monotonic")

end ModuleInstance

structure Lease where
  schema : String
  controlEpoch : Nat
  leaseId : String
  moduleId : String
  moduleInstanceId : String
  partition : String
  resourceBudget : ResourceBudget
  maximumConcurrency : Nat
  priorityClass : Nat
  fencingToken : String
  issuedAtMs : Nat
  expiresAtMs : Nat
  deriving DecidableEq, Repr

namespace Lease

def key (lease : Lease) : ModuleInstanceKey :=
  ⟨lease.moduleId, lease.moduleInstanceId, lease.partition⟩

def validate (lease : Lease) (nowMs expectedEpoch : Nat) (expectedFencingToken : String) :
    Result Unit := do
  rejectIf (lease.schema ≠ leaseSchema) (.invalid "lease schema mismatch")
  requireNames (fun name => s!"lease {name} is invalid")
    [("lease_id", lease.leaseId), ("module_id", lease.moduleId),
      ("module_instance_id", lease.moduleInstanceId), ("partition", lease.partition),
      ("fencing_token", lease.fencingToken)]
  lease.resourceBudget.validate
  rejectIf (lease.controlEpoch ≠ expectedEpoch) .epochMismatch
  rejectIf (lease.fencingToken ≠ expectedFencingToken) .fencingMismatch
  rejectIf (nowMs < lease.issuedAtMs) (.invalid "lease is not yet valid at the supplied timestamp")
  rejectIf (lease.issuedAtMs ≥ lease.expiresAtMs ∨ nowMs ≥ lease.expiresAtMs) .leaseExpired
  rejectIf (lease.maximumConcurrency = 0
      ∨ lease.maximumConcurrency > lease.resourceBudget.maxConcurrency)
    (.invalid "lease concurrency exceeds its resource budget")

end Lease

structure ModuleObservation where
  schema : String
  controlEpoch : Nat
  leaseId : String
  moduleId : String
  moduleInstanceId : String
  partition : String
  observedAtMs : Nat
  queueDepth : Nat
  activeCount : Nat
  cpuMillis : Nat
  memoryBytes : Nat
  ioBytes : Nat
  latencyP99Ms : Double
  unknownRate : Double
  healthScore : Double

namespace ModuleObservation

def key (observation : ModuleObservation) : ModuleInstanceKey :=
  ⟨observation.moduleId, observation.moduleInstanceId, observation.partition⟩

def requireRate (name : String) (rate : Double) : Result Unit :=
  if rate.isFinite = false ∨ rate.lt .zero then
    .error (.invalid s!"observation {name} must be finite and nonnegative")
  else
    .ok ()

def validate (observation : ModuleObservation) : Result Unit := do
  rejectIf (observation.schema ≠ observationSchema) (.invalid "observation schema mismatch")
  requireNames (fun name => s!"observation {name} is invalid")
    [("module_id", observation.moduleId), ("module_instance_id", observation.moduleInstanceId),
      ("partition", observation.partition), ("lease_id", observation.leaseId)]
  requireRate "latency_p99_ms" observation.latencyP99Ms
  requireRate "unknown_rate" observation.unknownRate
  requireRate "health_score" observation.healthScore
  rejectIf (Double.one.lt observation.unknownRate ∨ Double.one.lt observation.healthScore)
    (.invalid "observation rates/scores must be in [0,1]")

def beq (a b : ModuleObservation) : Bool :=
  a.schema == b.schema && a.controlEpoch == b.controlEpoch && a.leaseId == b.leaseId
    && a.moduleId == b.moduleId && a.moduleInstanceId == b.moduleInstanceId
    && a.partition == b.partition && a.observedAtMs == b.observedAtMs
    && a.queueDepth == b.queueDepth && a.activeCount == b.activeCount
    && a.cpuMillis == b.cpuMillis && a.memoryBytes == b.memoryBytes && a.ioBytes == b.ioBytes
    && a.latencyP99Ms.eq b.latencyP99Ms && a.unknownRate.eq b.unknownRate
    && a.healthScore.eq b.healthScore

def toValue (observation : ModuleObservation) : Value :=
  .object [
    ("schema", .string observation.schema),
    ("control_epoch", .number (.posInt observation.controlEpoch)),
    ("lease_id", .string observation.leaseId),
    ("module_id", .string observation.moduleId),
    ("module_instance_id", .string observation.moduleInstanceId),
    ("partition", .string observation.partition),
    ("observed_at_ms", .number (.posInt observation.observedAtMs)),
    ("queue_depth", .number (.posInt observation.queueDepth)),
    ("active_count", .number (.posInt observation.activeCount)),
    ("cpu_millis", .number (.posInt observation.cpuMillis)),
    ("memory_bytes", .number (.posInt observation.memoryBytes)),
    ("io_bytes", .number (.posInt observation.ioBytes)),
    ("latency_p99_ms", observation.latencyP99Ms.toValue),
    ("unknown_rate", observation.unknownRate.toValue),
    ("health_score", observation.healthScore.toValue)]

end ModuleObservation

def validateObservationBudget (observation : ModuleObservation) (lease : Lease) : Result Unit :=
  if observation.queueDepth > lease.resourceBudget.maxQueue
      ∨ observation.activeCount > lease.maximumConcurrency
      ∨ observation.cpuMillis > lease.resourceBudget.maxCpuMillis
      ∨ observation.memoryBytes > lease.resourceBudget.maxMemoryBytes
      ∨ observation.ioBytes > lease.resourceBudget.maxIoBytes then
    .error .capacityExceeded
  else
    .ok ()

end ControlPlane
