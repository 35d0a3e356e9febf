import Trillionnium.CallRegistry.Impl.Registry
import Trillionnium.Machine.Run

namespace CallRegistry

inductive Op where
  | begin (key : CallKey) (request : CallRequest)
  | rollbackAccept (key : CallKey) (request : CallRequest)
  | inhibitSpawn (key : CallKey)
  | claimSpawn (key : CallKey) (requestSha256 : String)
  | recordPid (key : CallKey) (generation pid : Nat)
  | requestCancel (key : CallKey)
  | markConnectionLost (key : CallKey)
  | markConnectionAttached (key : CallKey)
  | complete (key : CallKey) (generation : Nat) (terminal : TerminalRecord)
  | snapshot (key : CallKey)
  | historyFrom (key : CallKey) (inclusiveSeq : Nat)
  | removeTerminal (key : CallKey)
  | cancelSignal (key : CallKey)
  | len
  deriving DecidableEq, Repr

inductive Answer where
  | begun (result : Result BeginResult)
  | removed (result : Result Bool)
  | observed (result : Result CallSnapshot)
  | claimed (result : Result SpawnClaim)
  | mutated (result : Result MutationOutcome)
  | events (result : Result (List CallEvent))
  | cancelled (first : Bool)
  | count (n : Nat)

def Op.key? : Op → Option CallKey
  | .begin key _ | .rollbackAccept key _ | .inhibitSpawn key | .claimSpawn key _
  | .recordPid key _ _ | .requestCancel key | .markConnectionLost key
  | .markConnectionAttached key | .complete key _ _ | .snapshot key | .historyFrom key _
  | .removeTerminal key | .cancelSignal key => some key
  | .len => none

def Answer.snapshot? : Answer → Option CallSnapshot
  | .begun (.ok result) => some result.snapshot
  | .observed (.ok snapshot) => some snapshot
  | .claimed (.ok (.granted _ snapshot)) => some snapshot
  | .claimed (.ok (.existing snapshot)) => some snapshot
  | .claimed (.ok (.inhibited snapshot)) => some snapshot
  | _ => none

namespace Registry

open Machine

def step (registry : Registry) : Op → Registry × Answer
  | .begin key request => settle registry .begun (registry.begin key request)
  | .rollbackAccept key request => settle registry .removed (registry.rollbackAccept key request)
  | .inhibitSpawn key => settle registry .observed (registry.inhibitSpawn key)
  | .claimSpawn key requestSha256 => settle registry .claimed (registry.claimSpawn key requestSha256)
  | .recordPid key generation pid => settle registry .mutated (registry.recordPid key generation pid)
  | .requestCancel key => settle registry .observed (registry.requestCancel key)
  | .markConnectionLost key => settle registry .observed (registry.markConnectionLost key)
  | .markConnectionAttached key => settle registry .observed (registry.markConnectionAttached key)
  | .complete key generation terminal =>
    settle registry .mutated (registry.complete key generation terminal)
  | .snapshot key => (registry, .observed (registry.snapshot key))
  | .historyFrom key inclusiveSeq => (registry, .events (registry.historyFrom key inclusiveSeq))
  | .removeTerminal key =>
    ((registry.removeTerminal key).2, .removed (.ok (registry.removeTerminal key).1))
  | .cancelSignal key => ((registry.cancelSignal key).2, .cancelled (registry.cancelSignal key).1)
  | .len => (registry, .count registry.entryCount)

end Registry

end CallRegistry
