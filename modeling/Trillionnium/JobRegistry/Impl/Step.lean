import Trillionnium.JobRegistry.Impl.Registry
import Trillionnium.Machine.Run

namespace JobRegistry

inductive Op where
  | begin (key : JobKey) (request : JobRequest)
  | rollbackAccept (key : JobKey) (request : JobRequest)
  | claimSpawn (key : JobKey) (requestSha256 : String)
  | recordStarted (key : JobKey) (generation pid : Nat) (pty : Bool)
  | recordOutput (key : JobKey) (generation : Nat) (stream : String) (bytes : Nat)
      (sha256 : String)
  | recordInput (key : JobKey) (bytes : Nat) (sha256 : String)
  | recordResize (key : JobKey) (rows cols : Nat)
  | closeStdin (key : JobKey)
  | requestKill (key : JobKey) (signal : Int)
  | attach (key : JobKey) (attachmentId : String)
  | detach (key : JobKey) (attachmentId : String)
  | markRestartUncertain (key : JobKey)
  | complete (key : JobKey) (generation : Nat) (terminal : JobTerminal)
  | snapshot (key : JobKey)
  | historyFrom (key : JobKey) (inclusiveSeq : Nat)
  | removeTerminal (key : JobKey)
  | len
  deriving DecidableEq, Repr

inductive Answer where
  | begun (result : Result BeginResult)
  | removed (result : Result Bool)
  | claimed (result : Result SpawnClaim)
  | mutated (result : Result MutationOutcome)
  | output (result : Result Nat)
  | observed (result : Result JobSnapshot)
  | events (result : Result (List JobEvent))
  | count (n : Nat)

def Answer.error? : Answer → Option JobRegistryError
  | .begun (.error e) | .removed (.error e) | .claimed (.error e) | .mutated (.error e)
  | .output (.error e) | .observed (.error e) | .events (.error e) => some e
  | _ => none

namespace Registry

open Machine

def step (registry : Registry) : Op → Registry × Answer
  | .begin key request => settle registry .begun (registry.begin key request)
  | .rollbackAccept key request => settle registry .removed (registry.rollbackAccept key request)
  | .claimSpawn key requestSha256 => settle registry .claimed (registry.claimSpawn key requestSha256)
  | .recordStarted key generation pid pty =>
    settle registry .mutated (registry.recordStarted key generation pid pty)
  | .recordOutput key generation stream bytes sha256 =>
    settle registry .output (registry.recordOutput key generation stream bytes sha256)
  | .recordInput key bytes sha256 => settle registry .mutated (registry.recordInput key bytes sha256)
  | .recordResize key rows cols => settle registry .mutated (registry.recordResize key rows cols)
  | .closeStdin key => settle registry .mutated (registry.closeStdin key)
  | .requestKill key signal => settle registry .mutated (registry.requestKill key signal)
  | .attach key attachmentId => settle registry .mutated (registry.attach key attachmentId)
  | .detach key attachmentId => settle registry .mutated (registry.detach key attachmentId)
  | .markRestartUncertain key => settle registry .observed (registry.markRestartUncertain key)
  | .complete key generation terminal =>
    settle registry .mutated (registry.complete key generation terminal)
  | .snapshot key => (registry, .observed (registry.snapshot key))
  | .historyFrom key inclusiveSeq => (registry, .events (registry.historyFrom key inclusiveSeq))
  | .removeTerminal key =>
    ((registry.removeTerminal key).2, .removed (.ok (registry.removeTerminal key).1))
  | .len => (registry, .count registry.entryCount)

end Registry

end JobRegistry
