import Trillionnium.Transport.Basic
import Trillionnium.Transport.Impl.Router

/-!
The flow control of the transport: a frame is handed to the client as long as the window of the turn
has credit for it, waits in a bounded queue otherwise, and becomes part of a gap once the queue is
full.
-/

namespace Transport

open Json Protocol StreamWindow

def cursorFromEventId (eventId : String) : Option Nat :=
  (Text.rsplitOnce "-event-".toList eventId.toList).bind fun parts => Text.parseU64 parts.2

def saturatingAdd (a b : Nat) : Nat := min (a + b) Checked.u64Max

namespace BufferedFrame

def explicitDomain (frame : RunTurnFrame) : Except String (Option CursorDomain) :=
  match extension? frame "cursor_domain" with
  | some value =>
    match value.value with
    | .string label => (CursorDomain.ofLabel label).map some
    | _ => .error "cursor_domain extension must be a string"
  | none => .ok none

def cursorIn (domain : Option CursorDomain) (frame : RunTurnFrame) : Except String (Option Nat) :=
  match extension? frame "durable_cursor" with
  | some value =>
    if domain.isNone then
      .error "durable_cursor requires an explicit cursor_domain"
    else
      match value.value with
      | .number (.posInt n) => .ok (some n)
      | _ => .error "durable_cursor extension must be a nonnegative integer"
  | none =>
    if domain.any (· ≠ .transportEvent) then
      .ok none
    else
      .ok (frame.eventId.bind cursorFromEventId)

def new (codec : FloatCodec) (frame : RunTurnFrame) : Except String BufferedFrame := do
  let domain ← explicitDomain frame
  let cursor ← cursorIn domain frame
  return {
    frame
    encodedBytes := (frame.encode codec).length + 1
    cursor
    cursorDomain := if cursor.isSome then some (domain.getD .transportEvent) else domain
    eventId := frame.eventId
  }

end BufferedFrame

namespace ResyncGap

def fromBuffer (buffer : List BufferedFrame) (current : BufferedFrame) : ResyncGap :=
  let first := buffer.head?.getD current
  let sameDomain := first.cursorDomain = current.cursorDomain
  let allCursored := (buffer.all fun frame => frame.cursor.isSome) && current.cursor.isSome
  let cursorRangeComplete := sameDomain && allCursored
  {
    cursorDomain := if sameDomain then first.cursorDomain else none
    firstCursor := if cursorRangeComplete then first.cursor else none
    lastCursor := if cursorRangeComplete then current.cursor else none
    cursorRangeComplete
    firstEventId := first.eventId
    lastEventId := current.eventId
    suppressedFrames := saturatingAdd buffer.length 1
    mixedCursorDomains := !sameDomain
  }

def meetDomain (gap : ResyncGap) (frame : BufferedFrame) : ResyncGap :=
  if gap.cursorDomain ≠ frame.cursorDomain then
    { gap with
      cursorDomain := none
      firstCursor := none
      lastCursor := none
      cursorRangeComplete := false
      mixedCursorDomains := true }
  else
    gap

def meetCursor (gap : ResyncGap) (frame : BufferedFrame) : ResyncGap :=
  if !gap.mixedCursorDomains && frame.cursor.isNone then
    { gap with
      cursorRangeComplete := false
      firstCursor := none
      lastCursor := none }
  else
    gap

def count (gap : ResyncGap) (frame : BufferedFrame) : ResyncGap :=
  { gap with
    firstEventId := gap.firstEventId.or frame.eventId
    lastCursor :=
      if frame.cursor.isSome && !gap.mixedCursorDomains && gap.cursorRangeComplete then
        frame.cursor
      else
        gap.lastCursor
    lastEventId := frame.eventId.or gap.lastEventId
    suppressedFrames := saturatingAdd gap.suppressedFrames 1 }

def extend (gap : ResyncGap) (frame : BufferedFrame) : ResyncGap :=
  ((gap.meetDomain frame).meetCursor frame).count frame

def requiredResumeCursor (gap : ResyncGap) : Option Nat :=
  gap.lastCursor.bind fun cursor => Checked.add cursor 1

def payload (gap : ResyncGap) : Document := .object [
  ("status", .ofString "resync_required"),
  ("cursor_domain", .ofOption (fun domain => .ofString domain.label) gap.cursorDomain),
  ("first_missing_cursor", .ofOption .ofU64 gap.firstCursor),
  ("last_missing_cursor", .ofOption .ofU64 gap.lastCursor),
  ("required_resume_cursor", .ofOption .ofU64 gap.requiredResumeCursor),
  ("cursor_range_complete", .ofBool gap.cursorRangeComplete),
  ("first_missing_event_id", .ofOption .ofString gap.firstEventId),
  ("last_missing_event_id", .ofOption .ofString gap.lastEventId),
  ("suppressed_frames", .ofU64 gap.suppressedFrames),
  ("mixed_cursor_domains", .ofBool gap.mixedCursorDomains),
  ("recovery", .ofString "use turn.inspect, then stream.resume with resumed_through_cursor"),
  ("automatic_redispatch", .ofBool false)]

def atEnd (first : BufferedFrame) (rest : List BufferedFrame) : ResyncGap :=
  let last := rest.getLast?.getD first
  let mixedCursorDomains := rest.any fun frame => frame.cursorDomain ≠ first.cursorDomain
  let cursorRangeComplete :=
    !mixedCursorDomains && (first :: rest).all fun frame => frame.cursor.isSome
  {
    cursorDomain := if mixedCursorDomains then none else first.cursorDomain
    firstCursor := if cursorRangeComplete then first.cursor else none
    lastCursor := if cursorRangeComplete then last.cursor else none
    cursorRangeComplete
    firstEventId := first.eventId
    lastEventId := last.eventId
    suppressedFrames := min (first :: rest).length Checked.u64Max
    mixedCursorDomains
  }

end ResyncGap

namespace StreamDelivery

def new (options : Options) : StreamDelivery where
  window := none
  queue := []
  queuedBytes := 0
  maxBufferBytes := options.bufferBytes
  maxCreditBytes := options.maxCreditBytes
  maxChunkBytes := options.maxChunkBytes
  controlHistory := options.controlHistory
  gap := none
  controlFingerprints := []

def beginTurn (delivery : StreamDelivery) : StreamDelivery :=
  { delivery with
    window := none
    queue := []
    queuedBytes := 0
    gap := none
    controlFingerprints := [] }

def finishTurn (delivery : StreamDelivery) : StreamDelivery := delivery.beginTurn

def isActive (delivery : StreamDelivery) : Bool := delivery.window.isSome

def reserve (delivery : StreamDelivery) (window : Window) (bytes : Nat) :
    Except String (ReserveDisposition × StreamDelivery) :=
  match window.tryReserve bytes with
  | .ok (disposition, window) => .ok (disposition, { delivery with window := some window })
  | .error error => .error error.toString

def startGap (delivery : StreamDelivery) (buffered : BufferedFrame) :
    SubmitResult × StreamDelivery :=
  let gap := ResyncGap.fromBuffer delivery.queue buffered
  (.gapStarted gap, { delivery with queue := [], queuedBytes := 0, gap := some gap })

def enqueue (delivery : StreamDelivery) (buffered : BufferedFrame) :
    SubmitResult × StreamDelivery :=
  if buffered.encodedBytes > delivery.maxBufferBytes
      ∨ delivery.queuedBytes + buffered.encodedBytes > delivery.maxBufferBytes then
    delivery.startGap buffered
  else
    (.queued, { delivery with
      queuedBytes := delivery.queuedBytes + buffered.encodedBytes
      queue := delivery.queue ++ [buffered] })

def submitBuffered (delivery : StreamDelivery) (window : Window) (buffered : BufferedFrame) :
    Except String (SubmitResult × StreamDelivery) :=
  match delivery.gap with
  | some gap => .ok (.suppressed, { delivery with gap := some (gap.extend buffered) })
  | none =>
    if buffered.encodedBytes > delivery.maxChunkBytes then
      .ok (delivery.startGap buffered)
    else
      match delivery.reserve window buffered.encodedBytes with
      | .error error => .error error
      | .ok (.granted _ _, delivery) => .ok (.deliver buffered.frame, delivery)
      | .ok (.blocked _, delivery) => .ok (delivery.enqueue buffered)

def submit (codec : FloatCodec) (delivery : StreamDelivery) (frame : RunTurnFrame) :
    Except String (SubmitResult × StreamDelivery) :=
  match delivery.window with
  | none => .ok (.deliver frame, delivery)
  | some window =>
    if isFlowControlledKind frame.kind then do
      let buffered ← BufferedFrame.new codec frame
      delivery.submitBuffered window buffered
    else
      .ok (.deliver frame, delivery)

def drainQueue (delivery : StreamDelivery) (window : Window) :
    List BufferedFrame → Except String (List RunTurnFrame) × StreamDelivery
  | [] => (.ok [], { delivery with window := some window, queue := [] })
  | front :: queue =>
    match window.tryReserve front.encodedBytes with
    | .error error =>
      (.error error.toString, { delivery with window := some window, queue := front :: queue })
    | .ok (.blocked _, window) =>
      (.ok [], { delivery with window := some window, queue := front :: queue })
    | .ok (.granted _ _, window) =>
      let delivery := { delivery with queuedBytes := delivery.queuedBytes - front.encodedBytes }
      let (output, delivery) := delivery.drainQueue window queue
      (output.map (front.frame :: ·), delivery)

def drain (delivery : StreamDelivery) : Except String (List RunTurnFrame) × StreamDelivery :=
  match delivery.gap, delivery.window with
  | none, some window => delivery.drainQueue window delivery.queue
  | _, _ => (.ok [], delivery)

def disableAndRelease (delivery : StreamDelivery) : List RunTurnFrame × StreamDelivery :=
  (delivery.queue.map BufferedFrame.frame,
    { delivery with window := none, controlFingerprints := [], queuedBytes := 0, queue := [] })

def terminalGap (delivery : StreamDelivery) : Option ResyncGap × StreamDelivery :=
  match delivery.gap, delivery.queue with
  | none, first :: rest =>
    let gap := ResyncGap.atEnd first rest
    (some gap, { delivery with queue := [], queuedBytes := 0, gap := some gap })
  | gap, _ => (gap, delivery)

def snapshot (delivery : StreamDelivery) : Option StreamWindowSnapshot :=
  delivery.window.map Window.snapshot

def openWindow (delivery : StreamDelivery) : Except String Window :=
  match delivery.window with
  | some window => .ok window
  | none =>
    (Window.new {
      initialCreditBytes := 0
      maxCreditBytes := delivery.maxCreditBytes
      maxChunkBytes := delivery.maxChunkBytes
      maxControlHistory := delivery.controlHistory }).mapError StreamWindowError.toString

def clearsGap (delivery : StreamDelivery) (parsed : ParsedFlowControl) : Except String Bool :=
  if parsed.command = .resume then
    match delivery.gap with
    | some gap =>
      match gap.requiredResumeCursor with
      | none => .error "delivery gap has no stable cursor; restart inspection from cursor 0"
      | some required =>
        match parsed.resumedThroughCursor with
        | none => .error (s!"stream.resume requires resumed_through_cursor >= {required} "
            ++ "after a delivery gap")
        | some received =>
          if received < required then
            .error s!"resumed_through_cursor {received} is before required cursor {required}"
          else
            .ok true
    | none =>
      if parsed.resumedThroughCursor.isSome then
        .error "resumed_through_cursor is valid only after stream.resync_required"
      else
        .ok false
  else if parsed.resumedThroughCursor.isSome then
    .error "resumed_through_cursor is accepted only by stream.resume"
  else
    .ok false

def remember (delivery : StreamDelivery) (parsed : ParsedFlowControl) : StreamDelivery :=
  let fingerprints :=
    if delivery.controlFingerprints.length = delivery.controlHistory then
      delivery.controlFingerprints.tail
    else
      delivery.controlFingerprints
  { delivery with
    controlFingerprints := fingerprints ++ [(parsed.controlSeq, parsed.requestFingerprint)] }

def conflicts (delivery : StreamDelivery) (parsed : ParsedFlowControl) : Bool :=
  match delivery.controlFingerprints.find? (·.1 == parsed.controlSeq) with
  | some (_, fingerprint) => fingerprint ≠ parsed.requestFingerprint
  | none => false

/--
A refused control comes with the delivery that it leaves behind: the window that it made stays.
-/
def applyControl (delivery : StreamDelivery) (parsed : ParsedFlowControl) :
    Except String (ApplyDisposition × StreamWindowSnapshot) × StreamDelivery :=
  match delivery.openWindow with
  | .error error => (.error error, delivery)
  | .ok window =>
    let delivery := { delivery with window := some window }
    if parsed.controlSeq < window.snapshot.nextControlSeq then
      if delivery.conflicts parsed then
        (.error "stream control sequence is already bound to different payload bytes", delivery)
      else
        match window.applyControl parsed.controlSeq parsed.command with
        | .error error => (.error error.toString, delivery)
        | .ok (result, window) =>
          (.ok (result.disposition, result.snapshot), { delivery with window := some window })
    else
      match delivery.clearsGap parsed with
      | .error error => (.error error, delivery)
      | .ok clears =>
        match window.applyControl parsed.controlSeq parsed.command with
        | .error error => (.error error.toString, delivery)
        | .ok (result, window) =>
          let delivery := { delivery with window := some window }
          if result.disposition = .applied then
            let delivery := delivery.remember parsed
            (.ok (result.disposition, result.snapshot),
              { delivery with gap := if clears then none else delivery.gap })
          else
            (.ok (result.disposition, result.snapshot), delivery)

end StreamDelivery

inductive FlowOp where
  | submit (frame : RunTurnFrame)
  | control (parsed : ParsedFlowControl)
  | drain
  | disable

namespace StreamDelivery

def handedOut : SubmitResult → List RunTurnFrame
  | .deliver frame => [frame]
  | _ => []

def step (codec : FloatCodec) (delivery : StreamDelivery) :
    FlowOp → StreamDelivery × List RunTurnFrame
  | .submit frame =>
    match delivery.submit codec frame with
    | .ok (result, delivery) => (delivery, handedOut result)
    | .error _ => (delivery, [])
  | .control parsed => ((delivery.applyControl parsed).2, [])
  | .drain => (delivery.drain.2, delivery.drain.1.toOption.getD [])
  | .disable => (delivery.disableAndRelease.2, delivery.disableAndRelease.1)

end StreamDelivery

end Transport
