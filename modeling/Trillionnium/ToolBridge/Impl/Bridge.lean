import Trillionnium.CallRegistry.Impl.Step
import Trillionnium.Concurrent.Interleave
import Trillionnium.ProcessRuntime.Impl.Execute
import Trillionnium.ToolBridge.Basic

/-!
The dispatch of a bound call. The operations of the call registry, the flags of the enclosing scope,
the event sink and the process runtime are actions.
-/

namespace ToolBridge

open CallRegistry (BeginDisposition BeginResult CallKey CallRequest CallSnapshot EffectiveState
  MutationOutcome RegistryError SpawnClaim TerminalRecord)
open Concurrent
open ProcessRuntime (ExecutionEvent ExecutionTerminal MechanicalLimits)

inductive Act where
  | begin (key : CallKey) (request : CallRequest)
  | requestCancel (key : CallKey)
  | claimSpawn (key : CallKey) (requestSha256 : String)
  | rollbackAccept (key : CallKey) (request : CallRequest)
  | inhibitSpawn (key : CallKey)
  | recordPid (key : CallKey) (generation pid : Nat)
  | complete (key : CallKey) (generation : Nat) (terminal : TerminalRecord)
  | snapshot (key : CallKey)
  | signal (key : CallKey)
  | externalFlag
  | sink (event : ExecutionEvent)
  | os (a : ProcessRuntime.Act)

abbrev Act.Res : Act → Type
  | .begin _ _ => CallRegistry.Result BeginResult
  | .requestCancel _ => CallRegistry.Result CallSnapshot
  | .claimSpawn _ _ => CallRegistry.Result SpawnClaim
  | .rollbackAccept _ _ => CallRegistry.Result Bool
  | .inhibitSpawn _ => CallRegistry.Result CallSnapshot
  | .recordPid _ _ _ => CallRegistry.Result MutationOutcome
  | .complete _ _ _ => CallRegistry.Result MutationOutcome
  | .snapshot _ => CallRegistry.Result CallSnapshot
  | .signal _ => Bool
  | .externalFlag => Bool
  | .sink _ => Except SinkFailure Unit
  | .os a => a.Res

abbrev Run := Prog Act Act.Res

abbrev perform (a : Act) : Run a.Res := .perform a

structure Observation where
  digest : ObservationDigest
  registryObservationError : Option RegistryError
  sinkFailure : Option SinkFailure
  sequenceExhausted : Bool
  cancelled : Bool

namespace Observation

def start (call : BoundToolCall) (generation : Nat) : Observation where
  digest := .new call.key.callId call.request.toolName call.targetId generation
  registryObservationError := none
  sinkFailure := none
  sequenceExhausted := false
  cancelled := false

def exhaust (observation : Observation) : Observation :=
  { observation with sequenceExhausted := true, cancelled := true }

def failSink (observation : Observation) (failure : SinkFailure) : Observation :=
  { observation with sinkFailure := some failure, cancelled := true }

def failRegistry (observation : Observation) (error : RegistryError) : Observation :=
  { observation with
    registryObservationError := some (observation.registryObservationError.getD error) }

def error? (observation : Observation) (runtimeRejection : Option String) : Option BridgeError :=
  match observation.registryObservationError with
  | some error => some (.registryObservation error)
  | none =>
    if observation.sequenceExhausted then
      some (.invalidRequest "observation sequence exhausted")
    else
      match observation.sinkFailure with
      | some failure => some failure.error
      | none => runtimeRejection.map .runtimeRejected

end Observation

section Bridge

variable (call : BoundToolCall) (limits : BridgeLimits) (rounds : Nat)

def recordStarted (generation : Nat) (event : ExecutionEvent) (observation : Observation) :
    Run Observation :=
  match event.kind with
  | .started pid => do
    match ← perform (.recordPid call.key generation pid) with
    | .error error => return observation.failRegistry error
    | .ok _ => return observation
  | _ => return observation

def notifySink (event : ExecutionEvent) (observation : Observation) : Run Observation := do
  if observation.sinkFailure.isSome then
    return observation
  else
    match ← perform (.sink event) with
    | .ok () => return observation
    | .error failure => return observation.failSink failure

def observe (generation : Nat) (event : ExecutionEvent) (observation : Observation) :
    Run Observation :=
  match observation.digest.update event with
  | none => return observation.exhaust
  | some digest => do
    let observation ← recordStarted call generation event { observation with digest := digest }
    notifySink event observation

def isCancelled (observation : Observation) : Run Bool := do
  if observation.cancelled then
    return true
  else if ← perform (.signal call.key) then
    return true
  else
    perform .externalFlag

def handleRuntime (generation : Nat) :
    (a : ProcessRuntime.Act) → Observation → Run (a.Res × Observation)
  | .emit event, observation => do
    let observation ← observe call generation event observation
    return ((), observation)
  | .cancelled, observation => do
    let cancelled ← isCancelled call observation
    return (cancelled, observation)
  | a, observation => do
    let r ← perform (.os a)
    return (r, observation)

def executeRuntime : ProcessRuntime.Run (ProcessRuntime.Result ExecutionTerminal) :=
  match call.request, call.pty with
  | .shell request, some size =>
    ProcessRuntime.executeShellPty request size limits.effectiveRuntime rounds
  | .adb request, some size =>
    ProcessRuntime.executeAdbPty request size limits.effectiveRuntime rounds
  | .shell request, none => ProcessRuntime.executeShell request limits.effectiveRuntime rounds
  | .adb request, none => ProcessRuntime.executeAdb request limits.effectiveRuntime rounds

def emitSyntheticTerminal (generation : Nat) (terminal : ExecutionTerminal)
    (observation : Observation) : Run Observation := do
  let observation ← observe call generation {
    callId := call.key.callId
    targetId := call.targetId
    tool := call.request.toolKind
    seq := 0
    elapsedMs := 0
    kind := .accepted
  } observation
  observe call generation {
    callId := call.key.callId
    targetId := call.targetId
    tool := call.request.toolKind
    seq := 1
    elapsedMs := terminal.elapsedMs
    kind := .terminal terminal
  } observation

def settleRuntime (generation : Nat) (result : ProcessRuntime.Result ExecutionTerminal)
    (observation : Observation) : Run (ExecutionTerminal × Option String × Observation) :=
  match result with
  | .ok terminal => return (terminal, none, observation)
  | .error error => do
    let message := error.toString
    let terminal := syntheticTerminal .ioError s!"preflight_runtime_drift: {message}"
    let observation ← emitSyntheticTerminal call generation terminal observation
    return (terminal, some message, observation)

def orFail {α β : Type} (result : CallRegistry.Result α) (next : α → Run (Result β)) :
    Run (Result β) :=
  match result with
  | .error error => return .error (.registry error)
  | .ok x => next x

def publishCancel (observed : Bool) : Run (CallRegistry.Result Unit) := do
  if observed then
    let result ← perform (.requestCancel call.key)
    return result.map fun _ => ()
  else
    return .ok ()

def completeCall (generation : Nat) (terminal : ExecutionTerminal) (runtimeRejection : Option String)
    (observation : Observation) : Run (Result DispatchResult) := do
  let cancellationObserved ← isCancelled call observation
  let observationSha256 := observation.digest.finish
  let published ← publishCancel call cancellationObserved
  orFail published fun _ =>
    match terminalRecord terminal observationSha256 with
    | .error error => return .error error
    | .ok record => do
      let completed ← perform (.complete call.key generation record)
      orFail completed fun _ => do
        let snapshot ← perform (.snapshot call.key)
        orFail snapshot fun snapshot =>
          match observation.error? runtimeRejection with
          | some error => return .error error
          | none => return .ok (.executed generation terminal observationSha256 snapshot)

def executeGranted (generation : Nat) : Run (Result DispatchResult) := do
  let flagged ← perform .externalFlag
  let published ← publishCancel call flagged
  orFail published fun _ => do
    let (result, observation) ←
      (executeRuntime call limits rounds).handle (handleRuntime call generation)
        (.start call generation)
    let (terminal, runtimeRejection, observation) ←
      settleRuntime call generation result observation
    completeCall call generation terminal runtimeRejection observation

def abandonClaim (beganNew : Bool) (error : RegistryError) : Run (Result DispatchResult) := do
  if beganNew then
    match ← perform (.rollbackAccept call.key call.registryRequest) with
    | .ok _ => return .error (.registry error)
    | .error _ => do
      let _ ← perform (.inhibitSpawn call.key)
      return .error (.registry error)
  else
    let _ ← perform (.inhibitSpawn call.key)
    return .error (.registry error)

def claimCall (beganNew : Bool) : Run (Result DispatchResult) := do
  match ← perform (.claimSpawn call.key call.requestSha256) with
  | .error error => abandonClaim call beganNew error
  | .ok (.granted generation _) => executeGranted call limits rounds generation
  | .ok (.existing snapshot) => return .ok (.existing snapshot)
  | .ok (.inhibited snapshot) => return .ok (.inhibited snapshot)

def isTerminal : EffectiveState → Bool
  | .terminal _ _ => true
  | _ => false

def preflight : Result Unit := do
  limits.validate
  call.validate
  validateRuntimeRequest call.request call.pty limits.effectiveRuntime

def executeFallibleWithDeadline : Run (Result DispatchResult) :=
  match preflight call limits with
  | .error error => return .error error
  | .ok () => do
    let begun ← perform (.begin call.key call.registryRequest)
    orFail begun fun begun => do
      let flagged ← perform .externalFlag
      let published ← publishCancel call (flagged && !isTerminal begun.snapshot.state)
      orFail published fun _ =>
        claimCall call limits rounds (begun.disposition = .new)

end Bridge

section World

open CallRegistry (Answer Op Registry)

def registryCall : (a : Act) → a.Res → Option (Op × Answer)
  | .begin key request, r => some (.begin key request, .begun r)
  | .requestCancel key, r => some (.requestCancel key, .observed r)
  | .claimSpawn key requestSha256, r => some (.claimSpawn key requestSha256, .claimed r)
  | .rollbackAccept key request, r => some (.rollbackAccept key request, .removed r)
  | .inhibitSpawn key, r => some (.inhibitSpawn key, .observed r)
  | .recordPid key generation pid, r => some (.recordPid key generation pid, .mutated r)
  | .complete key generation terminal, r => some (.complete key generation terminal, .mutated r)
  | .snapshot key, r => some (.snapshot key, .observed r)
  | _, _ => none

def Reads (registry : Registry) : (a : Act) → a.Res → Prop
  | .signal key, r => ∀ entry, registry.get? key = some entry → r = entry.cancellation
  | _, _ => True

/--
A call on a registry that others use at the same time. They do whatever the registry offers, except
that a terminal entry of the call's key is not removed.
-/
def world (key : CallKey) : World Registry Act Act.Res where
  exec registry a r registry' :=
    match registryCall a r with
    | some (op, out) => registry.step op = (registry', out)
    | none => registry' = registry ∧ Reads registry a r
  rely registry registry' := ∃ op, op ≠ .removeTerminal key ∧ registry' = (registry.step op).1

end World

end ToolBridge
