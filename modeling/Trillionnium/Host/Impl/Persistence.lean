import Trillionnium.Host.Basic
import Trillionnium.TurnLoop.Impl.Turn

namespace Host

open CallRegistry (CallEvent CallKey CallSnapshot)
open Concurrent
open EventStore (EventInput)
open Json
open Protocol
open TurnLoop (ProviderTerminal TurnEvent TurnRequest)

inductive Offered where
  | queued (receipt : Nat)
  | full
  | disconnected

/--
The first part are the actions of the core, then come those of the worker of a turn and of the thread
that reads the input. A frame that is to be delivered is encoded by an action of its own, so that a
run shows the attempts to deliver.
-/
inductive Act where
  | receive
  | replay (scope : EventStore.TurnScope)
  | append (input : EventInput) (durable : Bool)
  | controlSeq
  | encode (frame : RunTurnFrame)
  | write (frame : RunTurnFrame)
  | spawnWorker (request : TurnRequest)
  | workerFinished (worker : Nat)
  | joinWorker (worker : Nat)
  | cancelTurn (worker : Nat)
  | sendReceipt (receipt : Nat) (result : Except String Unit)
  | requestCancel (key : CallKey)
  | snapshot (key : CallKey)
  | historyFrom (key : CallKey) (inclusiveSeq : Nat)
  | turn (worker : Nat) (a : TurnLoop.Act)
  | deadlinePassed
  | offer (worker : Nat) (event : TurnEvent)
  | awaitReceipt (receipt : Nat)
  | unwinds
  | complete (worker : Nat) (result : Except String ProviderTerminal)
  | exit (worker : Nat) (panicked : Bool)
  | readInput
  | enqueue (message : HostMessage)

abbrev Act.Res : Act → Type
  | .receive => Received
  | .replay _ => Except String (List EventInput)
  | .append _ _ => Except String Unit
  | .controlSeq => U64
  | .encode _ => Except String Bytes
  | .write _ => Except String Unit
  | .spawnWorker _ => Except String Nat
  | .workerFinished _ => Bool
  | .joinWorker _ => Except Unit Unit
  | .cancelTurn _ => Bool
  | .sendReceipt _ _ => Unit
  | .requestCancel _ => CallRegistry.Result CallSnapshot
  | .snapshot _ => CallRegistry.Result CallSnapshot
  | .historyFrom _ _ => CallRegistry.Result (List CallEvent)
  | .turn _ a => a.Res
  | .deadlinePassed => Bool
  | .offer _ _ => Offered
  | .awaitReceipt _ => Option (Except String Unit)
  | .unwinds => Bool
  | .complete _ _ => Bool
  | .exit _ _ => Unit
  | .readInput => HostMessage
  | .enqueue _ => Bool

abbrev Run := Prog Act Act.Res

abbrev perform (a : Act) : Run a.Res := .perform a

namespace Persistence

def load (scope : EventStore.TurnScope) (requestSha256 : String) (persistence : Persistence) :
    Run StoredTurn :=
  match persistence.error with
  | some error => return .unavailable error
  | none =>
    if persistence.hasStore then do
      match ← perform (.replay scope) with
      | .error error => return .conflict error
      | .ok records => return .classify scope requestSha256 records
    else if persistence.configured then
      return .unavailable "configured event store is unavailable"
    else
      return .empty

def appendFrame (scope : EventStore.TurnScope) (requestSha256 : String) (frame : RunTurnFrame)
    (persistence : Persistence) : Run (Bool × Persistence) :=
  if persistence.isDurable then
    match frame.eventId with
    | none => return (false, persistence.disable "Host frame has no event_id")
    | some eventId =>
      if InScope frame scope then do
        match ← perform (.append (frameInput scope requestSha256 eventId frame)
            (isAuthorityFrame frame.kind)) with
        | .ok () => return (true, persistence)
        | .error error => return (false, persistence.disable error)
      else
        return (false, persistence.disable "Host frame does not match the durable turn scope")
  else
    return (false, persistence)

structure TurnInspection where
  frames : List RunTurnFrame
  inclusiveCursor : Nat
  nextCursor : Nat
  totalEvents : Nat
  complete : Bool
  hasMore : Bool

inductive StoredInspection where
  | unavailable (status : String) (error : Option String)
  | found (inspection : TurnInspection)
  | conflict (error : String)

def selectFrames (frames : List RunTurnFrame) (complete : Bool) (inclusiveCursor limit : Nat) :
    StoredInspection :=
  if inclusiveCursor > frames.length then
    .conflict s!"inclusive cursor {inclusiveCursor} is after next cursor {frames.length}"
  else
    let finish := min (inclusiveCursor + limit) frames.length
    .found {
      frames := (frames.take finish).drop inclusiveCursor
      inclusiveCursor := inclusiveCursor
      nextCursor := finish
      totalEvents := frames.length
      complete := complete
      hasMore := finish < frames.length
    }

def inspect (scope : EventStore.TurnScope) (requestSha256 : String) (inclusiveCursor limit : Nat)
    (persistence : Persistence) : Run StoredInspection :=
  if !persistence.isDurable then
    return .unavailable persistence.status persistence.error
  else if limit = 0 ∨ limit > maxInspectFrames then
    return .conflict s!"inspect limit must be between 1 and {maxInspectFrames}"
  else do
    match ← persistence.load scope requestSha256 with
    | .empty => return selectFrames [] false inclusiveCursor limit
    | .complete frames => return selectFrames frames true inclusiveCursor limit
    | .incomplete frames => return selectFrames frames false inclusiveCursor limit
    | .conflict error => return .conflict error
    | .unavailable error => return .unavailable persistence.status (some error)

end Persistence

end Host
