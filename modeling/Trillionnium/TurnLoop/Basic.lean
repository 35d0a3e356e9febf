import Trillionnium.ToolBridge.Basic

/-!
The data types of the owner-open turn loop: turn requests, what a provider says and returns, and the
events of a turn.
-/

namespace TurnLoop

open CallRegistry (CallSnapshot TurnScope)
open Json (utf8)
open ProcessRuntime (ExecutionEvent ExecutionTerminal)

inductive TurnLoopError where
  | invalidRequest (message : String)
  | toolScopeMismatch
  | toolBridge (message : String)
  | eventSink (message : String)
  | turnCancelled
  deriving DecidableEq, Repr

def TurnLoopError.toString : TurnLoopError → String
  | .invalidRequest message => s!"invalid owner-open turn request: {message}"
  | .toolScopeMismatch => "provider tool call is outside the active turn scope"
  | .toolBridge message => s!"owner-open direct tool bridge failed: {message}"
  | .eventSink message => s!"owner-open turn event sink failed: {message}"
  | .turnCancelled => "owner-open turn was cancelled before the tool call could start"

abbrev Result (α : Type) := Except TurnLoopError α

def invalid (message : String) : TurnLoopError := .invalidRequest message

def reject (c : Prop) [Decidable c] (message : String) : Result Unit :=
  if c then .error (invalid message) else .ok ()

def isOversized (value : String) : Bool :=
  (utf8 value).length > 1024 * 1024 || (utf8 value).contains 0

def validateId (label value : String) : Result Unit :=
  reject (!Text.isId value 256) s!"{label} is empty, oversized, or malformed"

structure TurnRequest where
  sessionId : String
  profileId : String
  taskId : String
  turnId : String
  turnStreamId : String
  userInput : String
  deriving DecidableEq, Repr

namespace TurnRequest

def validate (request : TurnRequest) : Result Unit := do
  validateId "session_id" request.sessionId
  validateId "profile_id" request.profileId
  validateId "task_id" request.taskId
  validateId "turn_id" request.turnId
  validateId "turn_stream_id" request.turnStreamId
  reject (isOversized request.userInput) "user_input exceeds one MiB or contains a NUL byte"

def scope (request : TurnRequest) : TurnScope where
  sessionId := request.sessionId
  profileId := request.profileId
  taskId := request.taskId
  turnId := request.turnId
  turnStreamId := request.turnStreamId

end TurnRequest

inductive ProviderEvent where
  | status (status : String) (detail : Option String)
  | modelDelta (text : String)
  | modelMessage (text : String)
  | opaqueEvent (kind payload : String)
  deriving DecidableEq, Repr

def ProviderEvent.texts : ProviderEvent → List String
  | .status text detail => text :: detail.toList
  | .modelDelta text => [text]
  | .modelMessage text => [text]
  | .opaqueEvent kind payload => [kind, payload]

def validateProviderEvent (event : ProviderEvent) : Result Unit :=
  reject (event.texts.any isOversized) "provider event contains a NUL or exceeds one MiB"

inductive ProviderTerminalStatus where
  | completed
  | cancelled
  | failed
  | panicked
  deriving DecidableEq, Repr

def ProviderTerminalStatus.asStr : ProviderTerminalStatus → String
  | .completed => "completed"
  | .cancelled => "cancelled"
  | .failed => "provider_failed"
  | .panicked => "provider_panicked"

structure ProviderTerminal where
  status : ProviderTerminalStatus
  summary : Option String
  error : Option String
  deriving DecidableEq, Repr

def ProviderTerminal.cancelled (summary : String) : ProviderTerminal where
  status := .cancelled
  summary := some summary
  error := none

def ProviderTerminal.texts (terminal : ProviderTerminal) : List String :=
  terminal.summary.toList ++ terminal.error.toList

def validateTerminal (terminal : ProviderTerminal) : Result Unit :=
  reject (terminal.texts.any isOversized) "provider terminal text contains a NUL or exceeds one MiB"

inductive ToolOutcome where
  | executed (generation : Nat) (events : List ExecutionEvent) (terminal : ExecutionTerminal)
    (observationSha256 : String) (snapshot : CallSnapshot)
  | existing (snapshot : CallSnapshot)
  | inhibited (snapshot : CallSnapshot)

inductive TurnEventKind where
  | turnAccepted
  | provider (event : ProviderEvent)
  | toolRuntime (event : ExecutionEvent)
  | toolExisting (snapshot : CallSnapshot)
  | toolInhibited (snapshot : CallSnapshot)
  | turnTerminal (terminal : ProviderTerminal)
  deriving DecidableEq, Repr

structure TurnEvent where
  seq : Nat
  kind : TurnEventKind
  deriving DecidableEq, Repr

structure TurnRun where
  request : TurnRequest
  events : List TurnEvent
  terminal : ProviderTerminal
  deriving DecidableEq, Repr

end TurnLoop
