import Trillionnium.ControlPlane.Basic
import Trillionnium.Data.Sha256
import Trillionnium.Json.Impl.Write

namespace ControlPlane

open Json Text

def decisionSchema : String := "trillionnium.owner-open.shadow-decision.v1"
def auditEntrySchema : String := "trillionnium.owner-open.decision-audit-entry.v1"
def defaultMaxAuditEntries : Nat := 4096
def maxAuditEntries : Nat := 1048576
def maxControllerIndexEntries : Nat := 1048576
def maxShadowRecommendations : Nat := maxControllerIndexEntries
def maxShadowDecisionBytes : Nat := 64 * 1024 * 1024

structure BudgetRecommendation where
  moduleId : String
  moduleInstanceId : String
  partition : String
  recommendedConcurrency : Nat
  reasonCode : String
  deriving DecidableEq, Repr

namespace BudgetRecommendation

def key (recommendation : BudgetRecommendation) : ModuleInstanceKey :=
  ⟨recommendation.moduleId, recommendation.moduleInstanceId, recommendation.partition⟩

def toValue (recommendation : BudgetRecommendation) : Value :=
  .object [
    ("module_id", .string recommendation.moduleId),
    ("module_instance_id", .string recommendation.moduleInstanceId),
    ("partition", .string recommendation.partition),
    ("recommended_concurrency", .number (.posInt recommendation.recommendedConcurrency)),
    ("reason_code", .string recommendation.reasonCode)]

def reasonCodes : List String := ["health_guard", "unknown_guard", "queue_pressure", "steady_state"]

def validate (recommendation : BudgetRecommendation) : Result Unit := do
  requireNames (fun name => s!"shadow recommendation {name} is invalid")
    [("module_id", recommendation.moduleId),
      ("module_instance_id", recommendation.moduleInstanceId),
      ("partition", recommendation.partition), ("reason_code", recommendation.reasonCode)]
  rejectIf (recommendation.recommendedConcurrency = 0)
    (.invalid "shadow recommendation concurrency is zero")
  rejectIf (recommendation.reasonCode ∉ reasonCodes)
    (.invalid "shadow recommendation reason code is unknown")

end BudgetRecommendation

structure ShadowDecision where
  schema : String
  controlEpoch : Nat
  generatedAtMs : Nat
  mode : ControlMode
  observationsDigest : String
  recommendations : List BudgetRecommendation
  effectful : Bool
  semanticAuthority : String
  decisionDigest : String
  deriving DecidableEq, Repr

inductive DecisionAuditKind where
  | decision
  | rollback
  deriving DecidableEq, Repr

def DecisionAuditKind.toText : DecisionAuditKind → String
  | .decision => "DECISION"
  | .rollback => "ROLLBACK"

structure DecisionAuditEntry where
  schema : String
  sequence : Nat
  controlEpoch : Nat
  recordedAtMs : Nat
  kind : DecisionAuditKind
  decisionDigest : String
  previousEntryDigest : Option String
  targetDigest : Option String
  entryDigest : String
  deriving DecidableEq, Repr

structure DecisionAuditState where
  currentEpoch : Nat
  maxEntries : Nat
  nextSequence : Nat
  entries : List DecisionAuditEntry
  activeDigest : Option String
  deriving DecidableEq, Repr

def optionalString : Option String → Value
  | some s => .string s
  | none => .null

variable (codec : FloatCodec)

namespace ShadowDecision

def toValue (decision : ShadowDecision) : Value :=
  .object [
    ("schema", .string decision.schema),
    ("control_epoch", .number (.posInt decision.controlEpoch)),
    ("generated_at_ms", .number (.posInt decision.generatedAtMs)),
    ("mode", .string decision.mode.toText),
    ("observations_digest", .string decision.observationsDigest),
    ("recommendations", .array (decision.recommendations.map BudgetRecommendation.toValue)),
    ("effectful", .bool decision.effectful),
    ("semantic_authority", .string decision.semanticAuthority),
    ("decision_digest", .string decision.decisionDigest)]

def computeDigest (decision : ShadowDecision) : Result String :=
  let bytes := write codec (toValue { decision with decisionDigest := "" })
  if bytes.length > maxShadowDecisionBytes then
    .error .capacityExceeded
  else
    .ok (Sha256.hex bytes)

def validateRecommendations (identities : List ModuleInstanceKey) :
    List BudgetRecommendation → Result Unit
  | [] => .ok ()
  | recommendation :: rest => do
    recommendation.validate
    rejectIf (recommendation.key ∈ identities)
      (.invalid "shadow decision contains duplicate recommendations")
    validateRecommendations (recommendation.key :: identities) rest

def validate (decision : ShadowDecision) (expectedEpoch : Nat) : Result Unit := do
  rejectIf (decision.schema ≠ decisionSchema) (.invalid "shadow decision schema mismatch")
  rejectIf (decision.controlEpoch ≠ expectedEpoch) .epochMismatch
  rejectIf (decision.mode.isShadowSafe = false) .unsupportedMode
  rejectIf (decision.effectful ∨ decision.semanticAuthority ≠ "none")
    (.invalid "shadow decision contains semantic or effectful authority")
  rejectIf (isDigest decision.observationsDigest = false ∨ isDigest decision.decisionDigest = false)
    (.invalid "shadow decision digests must be 256-bit hexadecimal values")
  rejectIf (decision.recommendations.length > maxShadowRecommendations) .capacityExceeded
  validateRecommendations [] decision.recommendations
  rejectIf (decision.decisionDigest ≠ (← computeDigest codec decision))
    (.invalid "shadow decision digest does not match content")

end ShadowDecision

namespace DecisionAuditEntry

def toValue (entry : DecisionAuditEntry) : Value :=
  .object [
    ("schema", .string entry.schema),
    ("sequence", .number (.posInt entry.sequence)),
    ("control_epoch", .number (.posInt entry.controlEpoch)),
    ("recorded_at_ms", .number (.posInt entry.recordedAtMs)),
    ("kind", .string entry.kind.toText),
    ("decision_digest", .string entry.decisionDigest),
    ("previous_entry_digest", optionalString entry.previousEntryDigest),
    ("target_digest", optionalString entry.targetDigest),
    ("entry_digest", .string entry.entryDigest)]

def digest (entry : DecisionAuditEntry) : String :=
  Sha256.hex (write codec (toValue { entry with entryDigest := "" }))

def validateTarget (entry : DecisionAuditEntry) : Result Unit :=
  match entry.kind, entry.targetDigest with
  | .decision, some _ =>
    .error (.invalid "decision audit decision cannot carry a rollback target")
  | .decision, none => .ok ()
  | .rollback, none => .error (.invalid "decision audit rollback target is missing")
  | .rollback, some target =>
    if isDigest target = false ∨ target ≠ entry.decisionDigest then
      .error (.invalid "decision audit rollback target is inconsistent")
    else
      .ok ()

def validate (entry : DecisionAuditEntry) : Result Unit := do
  rejectIf (entry.schema ≠ auditEntrySchema) (.invalid "decision audit entry schema mismatch")
  rejectIf (entry.sequence = 0 ∨ entry.controlEpoch = 0)
    (.invalid "decision audit sequence or epoch is zero")
  rejectIf (isDigest entry.decisionDigest = false ∨ isDigest entry.entryDigest = false)
    (.invalid "decision audit digests must be 256-bit hexadecimal values")
  rejectIf (entry.previousEntryDigest.any (fun previous => !isDigest previous))
    (.invalid "decision audit previous digest is malformed")
  entry.validateTarget
  rejectIf (entry.entryDigest ≠ digest codec entry)
    (.invalid "decision audit entry digest does not match content")

end DecisionAuditEntry

namespace DecisionAuditState

def new (currentEpoch maxEntries : Nat) : Result DecisionAuditState :=
  if currentEpoch = 0 then
    .error (.invalid "decision audit epoch must be non-zero")
  else if maxEntries = 0 ∨ maxEntries > maxAuditEntries then
    .error (.invalid s!"decision audit capacity must be between 1 and {maxAuditEntries}")
  else
    .ok { currentEpoch, maxEntries, nextSequence := 0, entries := [], activeDigest := none }

def appendEntry (state : DecisionAuditState) (controlEpoch recordedAtMs : Nat)
    (kind : DecisionAuditKind) (decisionDigest : String) (targetDigest : Option String) :
    Result (DecisionAuditEntry × DecisionAuditState) :=
  if state.entries.length ≥ state.maxEntries then
    .error .capacityExceeded
  else
    match Checked.add state.nextSequence 1 with
    | none => .error (.invalid "decision audit sequence exhausted")
    | some sequence => do
      let entry : DecisionAuditEntry := {
        schema := auditEntrySchema
        sequence
        controlEpoch
        recordedAtMs
        kind
        decisionDigest
        previousEntryDigest := state.entries.getLast?.map DecisionAuditEntry.entryDigest
        targetDigest
        entryDigest := ""
      }
      let entry := { entry with entryDigest := entry.digest codec }
      entry.validate codec
      return (entry, { state with
        nextSequence := sequence
        activeDigest := some entry.decisionDigest
        entries := state.entries ++ [entry] })

def recordLocked (state : DecisionAuditState) (decision : ShadowDecision) (recordedAtMs : Nat) :
    Result (DecisionAuditEntry × DecisionAuditState) := do
  decision.validate codec decision.controlEpoch
  if decision.controlEpoch ≠ state.currentEpoch then
    .error .epochMismatch
  else
    match state.entries.find? (fun entry =>
        entry.kind == .decision && entry.decisionDigest == decision.decisionDigest) with
    | some existing =>
      if state.activeDigest = some decision.decisionDigest then
        .ok (existing, state)
      else
        .error (.invalid "decision digest is historical and cannot be re-recorded")
    | none =>
      state.appendEntry codec decision.controlEpoch recordedAtMs .decision decision.decisionDigest
        none

def rollbackLocked (state : DecisionAuditState) (targetDigest : String)
    (expectedEpoch recordedAtMs : Nat) : Result (DecisionAuditEntry × DecisionAuditState) :=
  if isDigest targetDigest = false then
    .error (.invalid "rollback target digest is malformed")
  else if expectedEpoch ≠ state.currentEpoch then
    .error .epochMismatch
  else
    match state.entries.find? (fun entry =>
        entry.kind == .decision && entry.controlEpoch == expectedEpoch
          && entry.decisionDigest == targetDigest) with
    | none => .error (.invalid "rollback target is not an audited decision")
    | some target =>
      if state.activeDigest = some targetDigest then
        .ok (target, state)
      else
        state.appendEntry codec expectedEpoch recordedAtMs .rollback targetDigest
          (some targetDigest)

structure Chain where
  expectedSequence : Nat
  previousDigest : Option String
  activeDigest : Option String
  decisions : List (Nat × String)

def verifyEntry (state : DecisionAuditState) (chain : Chain) (entry : DecisionAuditEntry) :
    Result Chain := do
  entry.validate codec
  rejectIf (entry.sequence ≠ chain.expectedSequence
      ∨ entry.previousEntryDigest ≠ chain.previousDigest)
    (.invalid "decision audit hash chain sequence is broken")
  let id := (entry.controlEpoch, entry.decisionDigest)
  rejectIf (entry.kind = .rollback ∧ id ∉ chain.decisions)
    (.invalid "decision audit rollback target is not earlier in the chain")
  match Checked.add chain.expectedSequence 1 with
  | none => .error (.invalid "decision audit sequence exhausted")
  | some expectedSequence =>
    return {
      expectedSequence
      previousDigest := some entry.entryDigest
      activeDigest :=
        if entry.controlEpoch = state.currentEpoch then
          some entry.decisionDigest
        else
          chain.activeDigest
      decisions := if entry.kind = .decision then id :: chain.decisions else chain.decisions
    }

def verify (state : DecisionAuditState) : Result Unit := do
  let chain ← state.entries.foldlM (state.verifyEntry codec) ⟨1, none, none, []⟩
  rejectIf (state.activeDigest ≠ chain.activeDigest)
    (.invalid "decision audit active projection does not match its chain")

def rotateEpoch (state : DecisionAuditState) (nextEpoch : Nat) : Result DecisionAuditState :=
  if nextEpoch ≤ state.currentEpoch then
    .error .epochMismatch
  else
    .ok { state with currentEpoch := nextEpoch, activeDigest := none }

end DecisionAuditState

end ControlPlane
