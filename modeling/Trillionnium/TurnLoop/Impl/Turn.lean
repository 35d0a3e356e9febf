import Trillionnium.ToolBridge.Impl.Bridge
import Trillionnium.TurnLoop.Basic

/-!
The loop of a turn. The provider is resumed with the answer to its last request and makes the next one,
until it returns or panics. It may do so in any way.
-/

namespace TurnLoop

open CallRegistry (CallSnapshot TurnScope)
open Concurrent
open ProcessRuntime (ExecutionEvent)
open ToolBridge (BoundToolCall BridgeLimits DispatchResult SinkFailure)

section Retain

def maxRetainedTurnEvents : Nat := 4096
def maxRetainedTurnEventBytes : Nat := 64 * 1024 * 1024
def maxRetainedToolEvents : Nat := 4096
def maxRetainedToolEventBytes : Nat := 64 * 1024 * 1024

structure Retained (α : Type) where
  events : List α
  bytes : Nat

/--
How a tail of events is bounded. The weight of an event depends on the capacities of its texts, so it
is not determined by what they contain. A protected event is not evicted as long as it is the first.
-/
structure Retention (α : Type) where
  weight : α → Option Nat
  isProtected : α → Bool
  maxEvents : Nat
  maxBytes : Nat

namespace Retention

variable {α : Type} (retention : Retention α)

def fits (bytes incoming : Nat) : Bool :=
  (Checked.add bytes incoming).any (· ≤ retention.maxBytes)

def evict (removed : α) (bytes : Nat) : Option Nat :=
  match retention.weight removed with
  | none => none
  | some weight => if weight ≤ bytes then some (bytes - weight) else none

def makeRoom (incoming : Nat) : (events : List α) → Nat → List α × Nat
  | [], bytes => ([], bytes)
  | first :: rest, bytes =>
    if (first :: rest).length < retention.maxEvents ∧ retention.fits bytes incoming then
      (first :: rest, bytes)
    else if retention.isProtected first then
      match rest with
      | [] => ([first], bytes)
      | second :: rest =>
        match retention.evict second bytes with
        | none => ([], 0)
        | some bytes => makeRoom incoming (first :: rest) bytes
    else
      match retention.evict first bytes with
      | none => ([], 0)
      | some bytes => makeRoom incoming rest bytes
  termination_by events => events.length

def retain (retained : Retained α) (event : α) : Retained α :=
  match retention.weight event with
  | none => retained
  | some incoming =>
    if incoming > retention.maxBytes then
      retained
    else
      let (events, bytes) := retention.makeRoom incoming retained.events retained.bytes
      if events.length < retention.maxEvents ∧ retention.fits bytes incoming then
        ⟨events ++ [event], bytes + incoming⟩
      else
        ⟨events, bytes⟩

end Retention

structure Weights where
  turn : TurnEvent → Option Nat
  tool : ExecutionEvent → Option Nat

def Weights.turnEvents (weights : Weights) : Retention TurnEvent where
  weight := weights.turn
  isProtected event := event.kind = .turnAccepted
  maxEvents := maxRetainedTurnEvents
  maxBytes := maxRetainedTurnEventBytes

def Weights.toolEvents (weights : Weights) : Retention ExecutionEvent where
  weight := weights.tool
  isProtected _ := false
  maxEvents := maxRetainedToolEvents
  maxBytes := maxRetainedToolEventBytes

end Retain

inductive Reply where
  | start (request : TurnRequest)
  | emitted (result : Result Unit)
  | invoked (result : Result ToolOutcome)
  | cancelled (flag : Bool)

inductive Move where
  | emit (event : ProviderEvent)
  | invokeTool (call : BoundToolCall)
  | isCancelled
  | finish (result : Except String ProviderTerminal)
  | panicked

inductive Act where
  | resume (reply : Reply)
  | cancelled
  | sink (event : TurnEvent)
  | tool (a : ToolBridge.Act)

abbrev Act.Res : Act → Type
  | .resume _ => Move
  | .cancelled => Bool
  | .sink _ => Except SinkFailure Unit
  | .tool a => a.Res

abbrev Run := Prog Act Act.Res

abbrev perform (a : Act) : Run a.Res := .perform a

structure TurnState where
  retained : Retained TurnEvent
  nextSeq : Nat

def TurnState.start : TurnState := ⟨⟨[], 0⟩, 0⟩

def sinkMessage : SinkFailure → String
  | .failed message => message
  | .panicked => "turn event sink panicked"

section Turn

variable (limits : BridgeLimits) (weights : Weights) (rounds : Nat)

def pushEvent (kind : TurnEventKind) (state : TurnState) : Run (Result Unit × TurnState) :=
  match Checked.add state.nextSeq 1 with
  | none => return (.error (invalid "turn event sequence exhausted"), state)
  | some nextSeq => do
    let event := { seq := state.nextSeq, kind := kind }
    let state := { retained := weights.turnEvents.retain state.retained event, nextSeq := nextSeq }
    match ← perform (.sink event) with
    | .ok () => return (.ok (), state)
    | .error failure => return (.error (.eventSink (sinkMessage failure)), state)

def emit (event : ProviderEvent) (state : TurnState) : Run (Result Unit × TurnState) :=
  match validateProviderEvent event with
  | .error error => return (.error error, state)
  | .ok () => pushEvent weights (.provider event) state

structure ToolState where
  turn : TurnState
  runtime : Retained ExecutionEvent

def handleTool : (a : ToolBridge.Act) → ToolState → Run (a.Res × ToolState)
  | .sink event, state => do
    let runtime := weights.toolEvents.retain state.runtime event
    let (result, turn) ← pushEvent weights (.toolRuntime event) state.turn
    return (result.mapError fun error => .failed error.toString, ⟨turn, runtime⟩)
  | .externalFlag, state => do
    let flag ← perform .cancelled
    return (flag, state)
  | a, state => do
    let r ← perform (.tool a)
    return (r, state)

def reportCall (kind : TurnEventKind) (outcome : ToolOutcome) (state : TurnState) :
    Run (Result ToolOutcome × TurnState) := do
  let (result, state) ← pushEvent weights kind state
  return (result.map fun _ => outcome, state)

def finishTool (result : ToolBridge.Result DispatchResult) (state : ToolState) :
    Run (Result ToolOutcome × TurnState) :=
  match result with
  | .error error => return (.error (.toolBridge error.toString), state.turn)
  | .ok (.executed generation terminal observationSha256 snapshot) =>
    return (.ok (.executed generation state.runtime.events terminal observationSha256 snapshot),
      state.turn)
  | .ok (.existing snapshot) =>
    reportCall weights (.toolExisting snapshot) (.existing snapshot) state.turn
  | .ok (.inhibited snapshot) =>
    reportCall weights (.toolInhibited snapshot) (.inhibited snapshot) state.turn

def invokeTool (scope : TurnScope) (call : BoundToolCall) (state : TurnState) :
    Run (Result ToolOutcome × TurnState) := do
  if call.key.scope ≠ scope then
    return (.error .toolScopeMismatch, state)
  else if ← perform .cancelled then
    return (.error .turnCancelled, state)
  else
    let (result, state) ←
      (ToolBridge.executeFallibleWithDeadline call limits rounds).handle (handleTool weights)
        ⟨state, ⟨[], 0⟩⟩
    finishTool weights result state

end Turn

def terminalOf : Except String ProviderTerminal → ProviderTerminal
  | .ok terminal => terminal
  | .error error => ⟨.failed, none, some error⟩

def panickedTerminal : ProviderTerminal :=
  ⟨.panicked, none, some "provider panicked inside the same-turn callback"⟩

def cancelledTerminal : ProviderTerminal :=
  .cancelled "turn was cancelled before provider start"

section Turn

variable (limits : BridgeLimits) (weights : Weights) (rounds : Nat) (request : TurnRequest)

def serve (reply : Reply) (state : TurnState) :
    Run ((Reply × TurnState) ⊕ (ProviderTerminal × TurnState)) := do
  match ← perform (.resume reply) with
  | .emit event =>
    let (result, state) ← emit weights event state
    return .inl (.emitted result, state)
  | .invokeTool call =>
    let (result, state) ← invokeTool limits weights rounds request.scope call state
    return .inl (.invoked result, state)
  | .isCancelled =>
    let flag ← perform .cancelled
    return .inl (.cancelled flag, state)
  | .finish result => return .inr (terminalOf result, state)
  | .panicked => return .inr (panickedTerminal, state)

def runTurn (state : TurnState) : Run (ProviderTerminal × TurnState) :=
  .iterate (fun (reply, state) => serve limits weights rounds request reply state) rounds
    (.start request, state)

def runProvider (state : TurnState) : Run (ProviderTerminal × TurnState) := do
  if ← perform .cancelled then
    return (cancelledTerminal, state)
  else
    runTurn limits weights rounds request state

def finishTurn (terminal : ProviderTerminal) (state : TurnState) : Run (Result TurnRun) :=
  match validateTerminal terminal with
  | .error error => return .error error
  | .ok () => do
    let (result, state) ← pushEvent weights (.turnTerminal terminal) state
    return result.map fun _ => ⟨request, state.retained.events, terminal⟩

def preflight : Result Unit := do
  request.validate
  limits.validate.mapError fun error => invalid error.toString

def runWithSinkAndCancellation : Run (Result TurnRun) :=
  match preflight limits request with
  | .error error => return .error error
  | .ok () => do
    let (accepted, state) ← pushEvent weights .turnAccepted .start
    match accepted with
    | .error error => return .error error
    | .ok () =>
      let (terminal, state) ← runProvider limits weights rounds request state
      finishTurn weights request terminal state

end Turn

end TurnLoop
