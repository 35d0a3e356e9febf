import Trillionnium.Host.Basic

/-!
The broker envelope. A broker marks the frames that it forwards, and the transport puts the mark of a
request on the frames that answer it. Since the core does not know about the marks, the router finds
the request that a frame of the core belongs to.
-/

namespace Transport

open Host (Externals TurnContext U64 frameHostError saturatingSucc)
open Json Protocol

def text? (d : Document) (name : String) : Option String :=
  (d.get? name).bind fun x => x.asString.toOption

def extension? (frame : RunTurnFrame) (name : String) : Option Document :=
  (frame.extensions.find? (·.1 == name)).map Prod.snd

def insertExtension (name : String) (x : Document) :
    List (String × Document) → List (String × Document)
  | [] => [(name, x)]
  | (k, y) :: extensions =>
    if name < k then
      (name, x) :: (k, y) :: extensions
    else if name = k then
      (name, x) :: extensions
    else
      (k, y) :: insertExtension name x extensions

def setExtension (frame : RunTurnFrame) (name : String) (x : Document) : RunTurnFrame :=
  { frame with extensions := insertExtension name x frame.extensions }

section Correlation

def agree (first second : Option String) (message : String) : Except String (Option String) :=
  match first, second with
  | some first, some second => if first ≠ second then .error message else .ok (some first)
  | some value, none => .ok (some value)
  | none, value => .ok value

def optionalStringValue (value : Option Document) (name : String) :
    Except String (Option String) :=
  match value.map Document.value with
  | none => .ok none
  | some .null => .ok none
  | some (.string s) => .ok (some s)
  | some _ => .error s!"{name} must be a string"

def correlatedStreamId (frame : RunTurnFrame) : Except String (Option String) := do
  let envelope ← agree frame.turnStreamId frame.streamId "turn_stream_id envelope aliases conflict"
  let payloadFirst ← optionalStringValue (frame.payload.get? "turn_stream_id") "turn_stream_id"
  let payloadSecond ← optionalStringValue (frame.payload.get? "stream_id") "stream_id"
  let payload ← agree payloadFirst payloadSecond "turn_stream_id payload aliases conflict"
  agree envelope payload "turn_stream_id envelope and payload values conflict"

def correlatedValue (frame : RunTurnFrame) (name : String) (envelope : Option String) :
    Except String (Option String) := do
  let payload ← optionalStringValue (frame.payload.get? name) name
  agree envelope payload s!"{name} envelope and payload values conflict"

end Correlation

structure BrokerRequestBinding where
  requestId : String
  requestSha256 : String
  upstreamSeq : Nat
  deriving DecidableEq, Repr

structure BrokerLineage where
  sessionId : Option String
  profileId : Option String
  taskId : Option String
  turnId : Option String
  turnStreamId : Option String
  callId : Option String
  jobId : Option String
  deriving DecidableEq, Repr

namespace BrokerLineage

def empty : BrokerLineage := ⟨none, none, none, none, none, none, none⟩

def fromFrame (frame : RunTurnFrame) : Except String BrokerLineage := do
  return {
    sessionId := ← correlatedValue frame "session_id" frame.sessionId
    profileId := ← correlatedValue frame "profile_id" frame.profileId
    taskId := ← correlatedValue frame "task_id" frame.taskId
    turnId := ← correlatedValue frame "turn_id" frame.turnId
    turnStreamId := ← correlatedStreamId frame
    callId := ← correlatedValue frame "call_id" frame.callId
    jobId := ← correlatedValue frame "job_id" frame.jobId
  }

def isEmpty (lineage : BrokerLineage) : Bool := lineage = empty

def members (lineage : BrokerLineage) : List (Option String) := [
  lineage.sessionId, lineage.profileId, lineage.taskId, lineage.turnId, lineage.turnStreamId,
  lineage.callId, lineage.jobId]

def matchesLineage (lineage actual : BrokerLineage) : Bool :=
  !lineage.isEmpty && (lineage.members.zip actual.members).all fun pair =>
    pair.1.isNone || pair.1 = pair.2

def matchesContext (lineage : BrokerLineage) (context : TurnContext) : Bool :=
  let pairs := [
    (context.sessionId, lineage.sessionId), (context.profileId, lineage.profileId),
    (context.taskId, lineage.taskId), (context.turnId, lineage.turnId),
    (context.turnStreamId, lineage.turnStreamId)]
  (pairs.all fun pair => pair.2.all (· = pair.1)) && pairs.any fun pair => pair.2.isSome

def stronglyMatches (lineage : BrokerLineage) (context : TurnContext) : Bool :=
  lineage.turnId = some context.turnId && lineage.turnStreamId = some context.turnStreamId
    && lineage.matchesContext context

end BrokerLineage

def contextScopeEqual (first second : TurnContext) : Bool :=
  first.sessionId = second.sessionId && first.profileId = second.profileId
    && first.taskId = second.taskId && first.turnId = second.turnId
    && first.turnStreamId = second.turnStreamId

namespace BrokerRequestBinding

def fields (binding : BrokerRequestBinding) : List (String × Document) := [
  ("broker_request_id", .ofString binding.requestId),
  ("broker_request_sha256", .ofString binding.requestSha256),
  ("broker_request_upstream_seq", .ofU64 binding.upstreamSeq)]

def fieldNames : List String := [
  "broker_request_id", "broker_request_sha256", "broker_request_upstream_seq"]

def checkMirror (binding : BrokerRequestBinding) (payload : Document) : Except String Unit :=
  binding.fields.forM fun field =>
    if (payload.get? field.1).any (· != field.2) then
      .error s!"broker request payload mirror field {field.1} conflicts with the top-level envelope"
    else
      .ok ()

def requestIdOf (value : Document) : Except String String := do
  let requestId ← match value.value with
    | .string s =>
      if s ≠ "" then .ok s else .error "broker_request_id must be a non-empty string"
    | _ => .error "broker_request_id must be a non-empty string"
  if Text.isId requestId 256 then
    return requestId
  else
    .error "broker_request_id is malformed"

def requestSha256Of (value : Document) : Except String String :=
  match value.value with
  | .string s =>
    if Text.isSha256 s then
      .ok s
    else
      .error "broker_request_sha256 is not a lowercase SHA-256 digest"
  | _ => .error "broker_request_sha256 must be a string"

def upstreamSeqOf (value : Document) : Except String Nat :=
  match value.value with
  | .number (.posInt n) => .ok n
  | _ => .error "broker_request_upstream_seq must be a nonnegative integer"

def fromFrame (frame : RunTurnFrame) : Except String (Option BrokerRequestBinding) :=
  match extension? frame "broker_request_id", extension? frame "broker_request_sha256",
      extension? frame "broker_request_upstream_seq" with
  | some requestId, some requestSha256, some upstreamSeq => do
    let binding := {
      requestId := ← requestIdOf requestId
      requestSha256 := ← requestSha256Of requestSha256
      upstreamSeq := ← upstreamSeqOf upstreamSeq }
    binding.checkMirror frame.payload
    return some binding
  | none, none, none =>
    if fieldNames.any fun name => (frame.payload.get? name).isSome then
      .error "broker request identity must be present in the top-level frame envelope"
    else
      .ok none
  | _, _, _ => .error "broker request identity must be present in the top-level frame envelope"

def applyField (frame : RunTurnFrame) (field : String × Document) : Except String RunTurnFrame :=
  if (extension? frame field.1).any (· != field.2) then
    .error (s!"core response broker envelope field {field.1} "
      ++ "conflicts with the forwarded request")
  else if (frame.payload.get? field.1).any (· != field.2) then
    .error (s!"core response broker payload mirror field {field.1} "
      ++ "conflicts with the forwarded request")
  else
    .ok (setExtension frame field.1 field.2)

def apply (binding : BrokerRequestBinding) (frame : RunTurnFrame) : Except String RunTurnFrame :=
  if frame.payload.isObject then
    binding.fields.foldlM applyField frame
  else
    .error "core response payload must be an object for broker binding"

end BrokerRequestBinding

section Digest

def requestDigest (ext : Externals) (frame : RunTurnFrame) : Option String :=
  if frame.kind = frameTurnStart then
    (frame.turnRequest .default).toOption.map (Host.requestSha256 ext)
  else
    (text? frame.payload "request_sha256").or (text? frame.payload "turn_request_sha256")

def responseDigest (frame : RunTurnFrame) : Option String :=
  (text? frame.payload "request_sha256").or <|
    (text? frame.payload "turn_request_sha256").or <|
      (frame.payload.get? "snapshot").bind fun snapshot => text? snapshot "request_sha256"

end Digest

def turnFrameMatchesContext (frame : RunTurnFrame) (context : TurnContext) : Bool :=
  match BrokerLineage.fromFrame frame with
  | .error _ => false
  | .ok lineage =>
    lineage.stronglyMatches context && (responseDigest frame).all (· = context.requestSha256)

structure BrokerBindingIntent where
  binding : BrokerRequestBinding
  requestKind : String
  lineage : BrokerLineage
  requestDigest : Option String
  operationId : Option String
  coreFloor : Option U64
  forwarded : Bool
  established : Bool

namespace BrokerBindingIntent

variable (intent : BrokerBindingIntent) (frame : RunTurnFrame)

def lineageMatches : Bool :=
  match BrokerLineage.fromFrame frame with
  | .error _ => false
  | .ok actual =>
    if intent.requestKind = frameHello then
      ({ actual with turnStreamId := none } : BrokerLineage).isEmpty
    else
      intent.lineage.matchesLineage actual

def digestMatches : Bool :=
  match intent.requestDigest, responseDigest frame with
  | some expected, some actual => expected = actual
  | some _, none => false
  | none, _ => true

def coreSeqAfter : Bool :=
  match intent.coreFloor, (extension? frame "transport_core_ordinal").bind (·.asNat.toOption) with
  | some floor, some seq => seq > floor.val
  | some _, none => false
  | none, _ => true

def operationMatches : Bool :=
  intent.operationId.all fun expected => text? frame.payload "operation_id" = some expected

def directResponses : List (List String × List String) := [
  ([frameHello], [frameHelloAck]),
  ([frameTurnCancel], ["turn.cancel.accepted", frameHostError]),
  ([frameToolCancel], ["tool.cancel.accepted", frameHostError]),
  ([frameTurnInspect], [frameTurnInspectResult, frameHostError]),
  ([frameCallInspect], [frameCallInspectResult, frameHostError]),
  (["job.start"], ["job.start.result", "job.error"]),
  (["job.inspect", "job.wait"], ["job.inspect.result", "job.error"]),
  (["job.attach"], ["job.attach.result", "job.error"]),
  (["job.detach"], ["job.detach.result", "job.error"]),
  (["job.write", "job.resize", "job.close_stdin", "job.kill"],
    ["job.control.result", "job.error"])]

def directResponseMatches : Bool :=
  directResponses.any fun row => row.1.contains intent.requestKind && row.2.contains frame.kind

def isJobKind (kind : String) : Bool := "job.".toList.isPrefixOf kind.toList

def activeFrameMatches : Bool :=
  if ["turn.cancel.accepted", "tool.cancel.accepted", frameTurnInspectResult,
      frameCallInspectResult].contains frame.kind then
    false
  else if intent.requestKind = frameTurnStart then
    !([frameHelloAck, "job.start.result", "job.error"].contains frame.kind)
  else
    intent.requestKind = "job.start" && isJobKind frame.kind

def activationProven : Bool :=
  if intent.requestKind = frameTurnStart ∧ frame.kind = frameHostError
      ∨ intent.requestKind = "job.start" ∧ frame.kind = "job.error" then
    true
  else if intent.requestKind = frameTurnStart ∧ frame.kind = frameTurnAccepted
      ∨ intent.requestKind = "job.start" ∧ frame.kind = "job.start.result" then
    intent.requestDigest.all fun expected => responseDigest frame = some expected
  else
    false

def activeTerminal : Bool :=
  (intent.requestKind = frameTurnStart && [frameTurnEnd, frameHostError].contains frame.kind)
    || (intent.requestKind = "job.start" && ["job.result", "job.error"].contains frame.kind)

def matchesPending : Bool :=
  intent.forwarded && intent.lineageMatches frame && intent.coreSeqAfter frame
    && intent.directResponseMatches frame && intent.operationMatches frame
    && intent.digestMatches frame

def matchesActive : Bool :=
  intent.forwarded && intent.lineageMatches frame && intent.coreSeqAfter frame
    && intent.activeFrameMatches frame && intent.digestMatches frame
    && (intent.established || intent.activationProven frame)

end BrokerBindingIntent

def valuesOf (frame : RunTurnFrame) (name : String) : List Document :=
  (extension? frame name).toList ++ (frame.payload.get? name).toList

def hostErrorExplicitlyTargets (frame : RunTurnFrame) (binding : BrokerRequestBinding)
    (requestKind : String) : Bool :=
  if frame.kind ≠ frameHostError then
    false
  else if (BrokerRequestBinding.fieldNames.flatMap (valuesOf frame)).isEmpty then
    ["request_kind", "broker_request_kind", "for_request_kind"].any fun name =>
      (valuesOf frame name).any fun value => value.asString.toOption = some requestKind
  else
    binding.fields.all fun field => (valuesOf frame field.1).all (· == field.2)

def maxBrokerActiveBindings : Nat := 1024
def maxBrokerPendingBindings : Nat := 1024

inductive BrokerResponseRoute where
  | pending (index : Nat)
  | active (index : Nat)
  deriving DecidableEq, Repr

structure BrokerBindingRouter where
  active : List BrokerBindingIntent
  pending : List BrokerBindingIntent
  lastCoreOrdinal : Option U64
  nextCoreOrdinal : U64

namespace BrokerBindingRouter

def default : BrokerBindingRouter := ⟨[], [], none, ⟨0, Nat.two_pow_pos 64⟩⟩

def isStart (kind : String) : Bool := kind = frameTurnStart || kind = "job.start"

def checkRegistrationCapacity (router : BrokerBindingRouter) (frame : RunTurnFrame)
    (binding : Option BrokerRequestBinding) : Except String Unit :=
  if binding.isNone then
    .ok ()
  else if isStart frame.kind then
    if router.active.length ≥ maxBrokerActiveBindings then
      .error "broker active response binding queue is exhausted"
    else
      .ok ()
  else if router.pending.length ≥ maxBrokerPendingBindings then
    .error "broker response binding queue is exhausted"
  else
    .ok ()

def register (ext : Externals) (router : BrokerBindingRouter) (frame : RunTurnFrame)
    (binding : Option BrokerRequestBinding) : Except String BrokerBindingRouter :=
  match binding with
  | none => .ok router
  | some binding => do
    let lineage ← BrokerLineage.fromFrame frame
    router.checkRegistrationCapacity frame (some binding)
    let intent := {
      binding
      requestKind := frame.kind
      lineage
      requestDigest := requestDigest ext frame
      operationId := text? frame.payload "operation_id"
      coreFloor := router.lastCoreOrdinal
      forwarded := false
      established := false }
    if isStart frame.kind then
      return { router with active := router.active ++ [intent] }
    else
      return { router with pending := router.pending ++ [intent] }

def observeCore (router : BrokerBindingRouter) (frame : RunTurnFrame) :
    RunTurnFrame × BrokerBindingRouter :=
  let ordinal := router.nextCoreOrdinal
  (setExtension frame "transport_core_ordinal" (.ofFin ordinal),
    { router with nextCoreOrdinal := saturatingSucc ordinal, lastCoreOrdinal := some ordinal })

def modifyFirst (f : BrokerBindingIntent → BrokerBindingIntent) (binding : BrokerRequestBinding) :
    List BrokerBindingIntent → List BrokerBindingIntent
  | [] => []
  | intent :: intents =>
    if intent.binding = binding then
      f intent :: intents
    else
      intent :: modifyFirst f binding intents

def markForwarded (router : BrokerBindingRouter) (binding : Option BrokerRequestBinding) :
    BrokerBindingRouter :=
  match binding with
  | none => router
  | some binding =>
    let forward (intent : BrokerBindingIntent) := { intent with forwarded := true }
    { router with
      pending := modifyFirst forward binding router.pending
      active := modifyFirst forward binding router.active }

def matchingPendingIndex (router : BrokerBindingRouter) (frame : RunTurnFrame) : Option Nat :=
  router.pending.findIdx? (·.matchesPending frame)

def matchingActiveIndex (router : BrokerBindingRouter) (frame : RunTurnFrame) : Option Nat :=
  router.active.findIdx? (·.matchesActive frame)

def errorRoute (router : BrokerBindingRouter) (frame : RunTurnFrame) (pending active : Nat) :
    Option BrokerResponseRoute :=
  match router.pending[pending]?, router.active[active]? with
  | some pendingIntent, some activeIntent =>
    if hostErrorExplicitlyTargets frame pendingIntent.binding pendingIntent.requestKind then
      some (.pending pending)
    else if hostErrorExplicitlyTargets frame activeIntent.binding activeIntent.requestKind then
      some (.active active)
    else if [frameTurnCancel, frameToolCancel].contains pendingIntent.requestKind then
      if pendingIntent.forwarded then some (.pending pending) else some (.active active)
    else
      none
  | _, _ => none

def responseRoute (router : BrokerBindingRouter) (frame : RunTurnFrame) :
    Option BrokerResponseRoute :=
  match router.matchingPendingIndex frame, router.matchingActiveIndex frame with
  | some pending, some active =>
    ((if frame.kind = frameHostError then router.errorRoute frame pending active else none).or
      (some (.pending pending)))
  | some pending, none => some (.pending pending)
  | none, some active => some (.active active)
  | none, none => none

def peek (router : BrokerBindingRouter) (frame : RunTurnFrame) : Option BrokerRequestBinding :=
  match router.responseRoute frame with
  | some (.pending index) => router.pending[index]?.map BrokerBindingIntent.binding
  | some (.active index) =>
    (router.active[index]?.filter fun intent =>
      intent.established || intent.activationProven frame).map BrokerBindingIntent.binding
  | none => none

def establish (intent : BrokerBindingIntent) : BrokerBindingIntent :=
  { intent with established := true }

def selectActive (router : BrokerBindingRouter) (frame : RunTurnFrame) (index : Nat)
    (intent : BrokerBindingIntent) : Option BrokerRequestBinding × BrokerBindingRouter :=
  if intent.established || intent.activationProven frame then
    (some intent.binding, { router with
      active :=
        if intent.activeTerminal frame then
          router.active.eraseIdx index
        else
          router.active.set index (establish intent) })
  else
    (none, router)

def select (router : BrokerBindingRouter) (frame : RunTurnFrame) :
    Option BrokerRequestBinding × BrokerBindingRouter :=
  match router.responseRoute frame with
  | some (.pending index) =>
    (router.pending[index]?.map BrokerBindingIntent.binding,
      { router with pending := router.pending.eraseIdx index })
  | some (.active index) =>
    match router.active[index]? with
    | some intent => router.selectActive frame index intent
    | none => (none, router)
  | none => (none, router)

def consumeActive (frame : RunTurnFrame) (binding : BrokerRequestBinding) :
    List BrokerBindingIntent → List BrokerBindingIntent
  | [] => []
  | intent :: intents =>
    if intent.binding = binding then
      if intent.activationProven frame then
        if intent.activeTerminal frame then intents else establish intent :: intents
      else
        intent :: intents
    else
      intent :: consumeActive frame binding intents

def consumeExplicit (router : BrokerBindingRouter) (binding : BrokerRequestBinding)
    (frame : RunTurnFrame) : BrokerBindingRouter :=
  { router with
    pending := router.pending.eraseP (·.binding = binding)
    active := consumeActive frame binding router.active }

def discardBinding (router : BrokerBindingRouter) (binding : BrokerRequestBinding) :
    BrokerBindingRouter :=
  { router with
    pending := router.pending.filter (·.binding ≠ binding)
    active := router.active.filter (·.binding ≠ binding) }

def takeAllBindings (router : BrokerBindingRouter) :
    List BrokerRequestBinding × BrokerBindingRouter :=
  let bindings := (router.pending ++ router.active).map BrokerBindingIntent.binding
  (bindings.foldl (fun unique binding =>
      if unique.contains binding then unique else unique ++ [binding]) [],
    { router with pending := [], active := [] })

end BrokerBindingRouter

end Transport
