import Trillionnium.EventStore.Reference
import Trillionnium.Host.Lemmas.Answer
import Trillionnium.Host.Lemmas.Progress

namespace Host

open Concurrent
open EventStore (EventInput)
open Json
open Protocol

section Once

variable {ext : Externals}

end Once

section Sample

def Externals.reference : Externals where
  toExternals := EventStore.Externals.reference
  debugStr s := "\"" ++ s ++ "\""

def sampleOutput : OutputState := .new "connection"

def sampleStart : RunTurnFrame where
  kind := frameTurnStart
  seq := sampleOutput.nextHostSeq
  payload := .object [
    ("protocol", .ofString protocol),
    ("protocol_version", .ofU64 protocolVersion),
    ("session_id", .ofString "session"),
    ("task_id", .ofString "task"),
    ("turn_id", .ofString "turn"),
    ("user_input", .ofString "hello")]
  direction := none
  clientSeq := none
  hostSeq := none
  frameSha256 := none
  eventId := none
  connectionId := none
  streamId := none
  turnStreamId := none
  sessionId := none
  profileId := none
  taskId := none
  turnId := none
  callId := none
  jobId := none
  tool := none
  target := none
  targetId := none
  extensions := []

def sampleRequest : RunTurnRequest where
  protocol := protocol
  protocolVersion := .ofU64 protocolVersion
  sessionId := "session"
  taskId := "task"
  turnId := "turn"
  userInput := "hello"
  profileId := none
  contextRef := none
  configGeneration := none
  clientRequestId := none
  serverRequestId := none
  turnRequestSha256 := none
  resumeCursor := none
  resumeToken := none
  priorConnectionId := none
  parentTurnId := none
  continuationOf := none

theorem turnRequest_sampleStart : sampleStart.turnRequest limits = .ok sampleRequest := rfl

def sampleState : CoreState := .new (.opened false) "connection"

theorem isStarted_sampleState : IsStarted sampleState := ⟨_, _, rfl, .inl ⟨false, rfl⟩⟩

variable (ext : Externals)

def acceptedFrame (context : TurnContext) (state : CoreState) : RunTurnFrame :=
  decoratedFrame (state.output.turnFrame frameTurnAccepted
    (acceptedPayload context.requestSha256 state.persistence) context .default).1 state.persistence

def acceptedRecord (context : TurnContext) (state : CoreState) : EventInput :=
  frameInput context.durableScope context.requestSha256
    (OutputState.eventId context.turnStreamId state.output.nextTurnEventOrdinal.val)
    (acceptedFrame context state)

def sampleContext : TurnContext := turnContext ext sampleRequest

def sampleDisk : Disk where
  log := [acceptedRecord (sampleContext ext) sampleState]
  synced := 1
  inbound := some sampleStart
  launched := [(some sampleStart, loopRequest (sampleContext ext) "hello")]

def sampleServing : OutputState where
  connectionId := "connection"
  nextHostSeq := saturatingSucc sampleOutput.nextHostSeq
  nextTurnEventOrdinal := saturatingSucc sampleOutput.nextTurnEventOrdinal

def sampleTurn : ActiveTurn where
  context := sampleContext ext
  requestDigest := (sampleContext ext).requestSha256
  durableScope := (sampleContext ext).durableScope
  worker := 1

def sampleActive : CoreState :=
  { sampleState with output := sampleServing, active := some (sampleTurn ext) }

def AcceptFits : Prop := IsDeliverable ((acceptedFrame (sampleContext ext) sampleState).encode ext.float)

variable {ext}

theorem advance_sampleStart (hfits : AcceptFits ext) : ∃ served,
    advance ext (.message (.inbound (.ok sampleStart))) .empty sampleState
      = some ⟨sampleActive ext, served, sampleDisk ext⟩ := by
  have hserve : handleReceived ext (.message (.inbound (.ok sampleStart))) sampleState
      = startTurn (sampleContext ext) "hello" sampleState := by
    change handleIdleFrame ext sampleStart sampleState = _
    unfold handleIdleFrame
    rw [if_neg (by decide), if_pos (by decide)]
    rfl
  have hframe : IsTurnFrame (acceptedFrame (sampleContext ext) sampleState)
      (sampleContext ext).durableScope :=
    (isTurnFrame_turnFrame _ _ _ _ _).decoratedFrame _
  apply Exists.intro
  apply advance_of_drive rfl
  rw [hserve]
  change Option.map _ (World.drive (serve ext) (((Persistence.appendFrame _ _
    (acceptedFrame (sampleContext ext) sampleState) (.opened false) >>= _) >>= _) >>= _) _) = _
  rw [appendFrame_eq rfl hframe rfl]
  change Option.map _ (Option.map _ (World.drive (serve ext)
    (deliverFrame (acceptedFrame (sampleContext ext) sampleState)
      { sampleState with output := sampleServing } >>= launchTurn (sampleContext ext) "hello")
    { sampleDisk ext with launched := [] })) = _
  rw [World.drive_bind (drive_deliverFrame rfl hfits)]
  rfl

theorem run_of_working (h : (workingWorld ext).Interleaves disk p trace disk' q) :
    (world ext).Interleaves disk p trace disk' q := by
  apply World.Interleaves.mono _ _ h
  . intro disk a r disk' hexec
    exact hexec.1
  . intro disk disk' hrely
    exact hrely

theorem acceptFits_reference : AcceptFits .reference := by
  unfold AcceptFits
  decide +kernel

theorem reaches_sampleActive :
    Reaches .reference .empty sampleState (sampleDisk .reference) (sampleActive .reference) := by
  obtain ⟨served, h⟩ := advance_sampleStart acceptFits_reference
  exact .round .refl (run_of_working (run_round h))

end Sample

end Host
