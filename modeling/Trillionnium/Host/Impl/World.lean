import Trillionnium.Host.Impl.Core

/-!
The core of the host on its turn journal. Messages may come in any way, the records of the journal
survive a crash up to the last sync.
-/

namespace Host

open Concurrent
open EventStore (EventInput EventLog StoreAnswer)
open Protocol
open TurnLoop (TurnRequest)

/--
The journal on the disk, of which the first `synced` records survive every crash. Beside it stand the
frame that is served and the workers that were started so far, each with the frame that asked for it.
-/
structure Disk where
  log : EventLog
  synced : Nat
  inbound : Option RunTurnFrame
  launched : List (Option RunTurnFrame × TurnRequest)

namespace Disk

def empty : Disk := ⟨[], 0, none, []⟩

def records (disk : Disk) (scope : EventStore.TurnScope) : List EventInput :=
  disk.log.filter fun event => event.scope = scope

def durable (disk : Disk) : EventLog := disk.log.take disk.synced

def append (disk : Disk) (input : EventInput) (durable : Bool) (answer : StoreAnswer) :
    Except String Unit × Disk :=
  let (appended, log) := EventLog.append disk.log input answer
  let synced :=
    match appended, durable with
    | .ok (), true => log.length
    | _, _ => disk.synced
  (appended, { disk with log := log, synced := synced })

def receive (disk : Disk) : Received → Disk
  | .message (.inbound (.ok frame)) => { disk with inbound := some frame }
  | _ => { disk with inbound := none }

def launch (disk : Disk) (request : TurnRequest) : Except String Nat → Disk
  | .ok _ => { disk with launched := disk.launched ++ [(disk.inbound, request)] }
  | .error _ => disk

def crash (disk : Disk) (kept : Nat) : Disk :=
  { disk with log := disk.log.take (max kept disk.synced), inbound := none }

end Disk

section World

variable (ext : Externals)

def exec (disk : Disk) (a : Act) (r : a.Res) (disk' : Disk) : Prop :=
  match a with
  | .append input durable => ∃ answer, disk.append input durable answer = (r, disk')
  | .replay scope => (r = .ok (disk.records scope) ∨ ∃ error, r = .error error) ∧ disk' = disk
  | .receive => disk' = disk.receive r
  | .spawnWorker request => disk' = disk.launch request r
  | .encode frame => r = .ok (frame.encode ext.float) ∧ disk' = disk
  | _ => disk' = disk

def world : World Disk Act Act.Res where
  exec := exec ext
  rely _ _ := False

def Works (disk : Disk) (a : Act) (r : a.Res) (disk' : Disk) : Prop :=
  match a with
  | .append input durable => disk.append input durable .stored = (r, disk')
  | .replay scope => r = .ok (disk.records scope)
  | _ => True

def workingWorld : World Disk Act Act.Res where
  exec disk a r disk' := exec ext disk a r disk' ∧ Works disk a r disk'
  rely _ _ := False

def IsStarted (state : CoreState) : Prop :=
  ∃ persistence connectionId, state = .new persistence connectionId
    ∧ ((∃ allow, persistence = .opened allow) ∨ ∃ error allow, persistence = .openFailed error allow)

/--
The states of the journal and of the core at the top of its loop. The core may be cut off at any point
and started again.
-/
inductive Reaches (disk : Disk) (state : CoreState) : Disk → CoreState → Prop
  | refl : Reaches disk state disk state
  | round {disk' disk'' : Disk} {state' state'' : CoreState} {trace : Prog.Trace Act Act.Res}
      (h : Reaches disk state disk' state')
      (hrun : (world ext).Interleaves disk' (round ext state') trace disk'' (.pure (.inl state''))) :
    Reaches disk state disk'' state''
  | restart {disk' disk'' : Disk} {state' state'' : CoreState} {trace : Prog.Trace Act Act.Res}
      {rest : Run Flow} (h : Reaches disk state disk' state')
      (hrun : (world ext).Interleaves disk' (round ext state') trace disk'' rest) (kept : Nat)
      (hstate : IsStarted state'') :
    Reaches disk state (disk''.crash kept) state''

end World

end Host
