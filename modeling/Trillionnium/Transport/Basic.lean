import Trillionnium.Host.Basic
import Trillionnium.StreamWindow.Impl.Window
import Trillionnium.Text.Number

/-!
The data types of the flow control of the transport host: frames that wait for credit, the gap that
stands for suppressed frames, and the delivery state of a turn.
-/

namespace Transport

open Json Protocol StreamWindow

theorem u64_pos : 0 < 2 ^ 64 := Nat.two_pow_pos 64

def frameStreamWindowUpdate : String := "stream.window_update"
def frameStreamPause : String := "stream.pause"
def frameStreamResume : String := "stream.resume"
def frameStreamWindowAck : String := "stream.window_update.ack"
def frameStreamPauseAck : String := "stream.pause.ack"
def frameStreamResumeAck : String := "stream.resume.ack"
def frameStreamResyncRequired : String := "stream.resync_required"
def frameStreamFlowDisabled : String := "stream.flow_disabled"

def flowControlledFrameKinds : List String := [
  frameModelDelta, frameModelMessage, frameToolPty, frameToolStdout, frameToolStderr,
  "provider.opaque", "job.output"]

def isFlowControlledKind (kind : String) : Bool := flowControlledFrameKinds.contains kind

inductive CursorDomain where
  | transportEvent
  | jobRuntimeEvent
  | jobJournalRecord
  deriving DecidableEq, Repr

namespace CursorDomain

def label : CursorDomain → String
  | .transportEvent => "transport_event"
  | .jobRuntimeEvent => "job_runtime_event"
  | .jobJournalRecord => "job_journal_record"

def ofLabel (label : String) : Except String CursorDomain :=
  if label = CursorDomain.jobRuntimeEvent.label then
    .ok .jobRuntimeEvent
  else if label = CursorDomain.jobJournalRecord.label then
    .ok .jobJournalRecord
  else if label = CursorDomain.transportEvent.label then
    .ok .transportEvent
  else
    .error s!"unsupported cursor domain {label}"

end CursorDomain

structure BufferedFrame where
  frame : RunTurnFrame
  encodedBytes : Nat
  cursor : Option Nat
  cursorDomain : Option CursorDomain
  eventId : Option String

structure ResyncGap where
  cursorDomain : Option CursorDomain
  firstCursor : Option Nat
  lastCursor : Option Nat
  cursorRangeComplete : Bool
  firstEventId : Option String
  lastEventId : Option String
  suppressedFrames : Nat
  mixedCursorDomains : Bool
  deriving DecidableEq, Repr

structure Options where
  eventStore : Option String
  bufferBytes : Nat
  maxCreditBytes : Nat
  maxChunkBytes : Nat
  controlHistory : Nat
  deriving DecidableEq, Repr

structure StreamDelivery where
  window : Option Window
  queue : List BufferedFrame
  queuedBytes : Nat
  maxBufferBytes : Nat
  maxCreditBytes : Nat
  maxChunkBytes : Nat
  controlHistory : Nat
  gap : Option ResyncGap
  controlFingerprints : List (Nat × String)

inductive SubmitResult where
  | deliver (frame : RunTurnFrame)
  | queued
  | gapStarted (gap : ResyncGap)
  | suppressed

structure ParsedFlowControl where
  controlSeq : Nat
  command : StreamControl
  resumedThroughCursor : Option Nat
  requestFingerprint : String
  deriving DecidableEq, Repr

end Transport
