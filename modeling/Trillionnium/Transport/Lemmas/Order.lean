import Trillionnium.EventStore.Reference
import Trillionnium.Transport.Lemmas.Flow

/-!
The order in which flow controlled frames reach the client. A submission that the window has credit
for is handed out at once, the queue is not looked at.
-/

namespace Transport

open Json Machine Protocol StreamWindow List

variable {frame : RunTurnFrame}

variable {codec : FloatCodec}

def isFlowControlled (frame : RunTurnFrame) : Bool := isFlowControlledKind frame.kind

def FlowOp.submitted : FlowOp → List RunTurnFrame
  | .submit frame => [frame].filter isFlowControlled
  | .control _ => []
  | .drain => []
  | .disable => []

namespace StreamDelivery

variable {delivery : StreamDelivery}

def waiting (delivery : StreamDelivery) : List RunTurnFrame :=
  delivery.queue.map BufferedFrame.frame

def handed (codec : FloatCodec) (delivery : StreamDelivery) (ops : List FlowOp) :
    List RunTurnFrame :=
  ((trace (step codec) delivery ops).flatMap Prod.snd).filter isFlowControlled

def InOrder (codec : FloatCodec) (delivery : StreamDelivery) (ops : List FlowOp) : Prop :=
  (handed codec delivery ops ++ (run (step codec) delivery ops).waiting).Sublist
      (ops.flatMap FlowOp.submitted)
    ∧ ∀ i frame, ops[i]? = some (.submit frame) → isFlowControlled frame = true
      → (step codec (before (step codec) delivery ops i) (.submit frame)).2 ≠ []
      → (before (step codec) delivery ops i).queue = []

def Overtakes (codec : FloatCodec) (delivery : StreamDelivery) (frame : RunTurnFrame) : Prop :=
  delivery.queue ≠ [] ∧ isFlowControlled frame = true ∧ delivery.gap = none
    ∧ ∃ window buffered, delivery.window = some window
      ∧ BufferedFrame.new codec frame = .ok buffered
      ∧ buffered.encodedBytes ≤ delivery.maxChunkBytes
      ∧ ∃ bytes remaining window',
        window.tryReserve buffered.encodedBytes = .ok (.granted bytes remaining, window')

theorem submit_of_overtakes (h : Overtakes codec delivery frame) :
    ∃ delivery', delivery.submit codec frame = .ok (.deliver frame, delivery') := by
  obtain ⟨_, hkind, hgap, window, buffered, hwindow, hnew, hchunk, bytes, remaining, window',
    hreserve⟩ := h
  have hkind : isFlowControlledKind frame.kind = true := hkind
  have hframe := (BufferedFrame.frame_new hnew).1
  refine ⟨{ delivery with window := some window' }, ?_⟩
  unfold submit
  rw [hwindow]
  dsimp only
  rw [if_pos hkind, hnew, Except.ok_bind, submitBuffered, hgap]
  dsimp only
  rw [if_neg (Nat.not_lt.mpr hchunk), reserve, hreserve]
  dsimp only
  rw [hframe, hgap]

theorem Submits.queue_eq_nil {result : SubmitResult}
    (h : Submits codec delivery frame result delivery') (hconsistent : Consistent codec delivery)
    (hkind : isFlowControlled frame = true) (hfree : ¬ Overtakes codec delivery frame)
    (hout : handedOut result ≠ []) : delivery.queue = [] := by
  cases h with
  | passes hpass =>
    cases hpass with
    | inl hwindow => exact hconsistent.inactive hwindow
    | inr hother =>
      unfold isFlowControlled at hkind
      rw [hother] at hkind
      cases hkind
  | granted _ hwindow hnew hgap hchunk hreserve =>
    by_contra hqueue
    exact hfree ⟨hqueue, hkind, hgap, _, _, hwindow, hnew, hchunk, _, _, _, hreserve⟩
  | suppresses | opens | queues => exact absurd rfl hout

theorem Submits.sublist {result : SubmitResult} (h : Submits codec delivery frame result delivery')
    (hconsistent : Consistent codec delivery) (hfree : ¬ Overtakes codec delivery frame) :
    ((handedOut result).filter isFlowControlled ++ delivery'.waiting).Sublist
      (delivery.waiting ++ [frame].filter isFlowControlled) := by
  have hnil := h.queue_eq_nil hconsistent
  cases h with
  | passes =>
    by_cases hkind : isFlowControlled frame = true
    . have hqueue := hnil hkind hfree (cons_ne_nil _ _)
      unfold waiting handedOut
      rw [hqueue, map_nil, append_nil, nil_append]
    . unfold handedOut
      rw [filter_cons_of_neg hkind, filter_nil, append_nil, nil_append]
  | granted hkind =>
    have hqueue := hnil hkind hfree (cons_ne_nil _ _)
    unfold waiting handedOut
    dsimp only
    rw [hqueue, map_nil, append_nil, nil_append]
  | suppresses => exact sublist_append_left _ _
  | opens => exact nil_sublist _
  | queues hkind _ hnew =>
    have hkind : isFlowControlled frame = true := hkind
    unfold waiting handedOut
    rw [map_append, map_cons, map_nil, (BufferedFrame.frame_new hnew).1,
      filter_cons_of_pos hkind, filter_nil, nil_append]

theorem sublist_step (hconsistent : Consistent codec delivery)
    (hfree : ∀ frame, op = .submit frame → ¬ Overtakes codec delivery frame) :
    ((delivery.step codec op).2.filter isFlowControlled ++ (delivery.step codec op).1.waiting).Sublist
      (delivery.waiting ++ op.submitted) := by
  cases op with
  | submit frame =>
    rw [step, FlowOp.submitted]
    cases h : delivery.submit codec frame with
    | error error => exact sublist_append_left _ _
    | ok submitted => exact (submits_of_submit h).sublist hconsistent (hfree frame rfl)
  | control parsed =>
    rw [step, FlowOp.submitted, append_nil, filter_nil, nil_append, waiting,
      controls_applyControl.queue_eq]
    exact List.Sublist.refl _
  | drain =>
    obtain ⟨⟨taken, hqueue, houtput, _⟩, _, _⟩ := drains_drain
    have hwaiting : delivery.waiting = taken.map BufferedFrame.frame ++ delivery.drain.2.waiting := by
      unfold waiting
      rw [hqueue, map_append]
    rw [step, FlowOp.submitted, append_nil, hwaiting]
    apply List.Sublist.append_right
    cases houtcome : delivery.drain.1 with
    | error error => exact nil_sublist _
    | ok frames =>
      rw [houtput frames houtcome]
      exact filter_sublist
  | disable =>
    rw [step, FlowOp.submitted, append_nil]
    change (filter isFlowControlled delivery.waiting ++ []).Sublist delivery.waiting
    rw [append_nil]
    exact filter_sublist

theorem sublist_run (hconsistent : Consistent codec delivery)
    (hfree : ∀ i frame, ops[i]? = some (.submit frame)
      → ¬ Overtakes codec (before (step codec) delivery ops i) frame) :
    (handed codec delivery ops ++ (run (step codec) delivery ops).waiting).Sublist
      (delivery.waiting ++ ops.flatMap FlowOp.submitted) := by
  induction ops generalizing delivery with
  | nil => exact sublist_append_left _ _
  | cons op ops ih =>
    have hstep := sublist_step hconsistent (fun frame hop => hfree 0 frame (congrArg some hop))
    have hrest := ih (consistent_step hconsistent op) (fun i => hfree (i + 1))
    have hhanded : handed codec delivery (op :: ops)
        = (delivery.step codec op).2.filter isFlowControlled
          ++ handed codec (delivery.step codec op).1 ops := by
      unfold handed
      rw [trace, flatMap_cons, filter_append]
    rw [hhanded, flatMap_cons, ← append_assoc, append_assoc]
    exact (List.Sublist.append_left hrest _).trans
      (by rw [← append_assoc]; exact List.Sublist.append_right hstep _)

theorem inOrder_iff (codec : FloatCodec) (delivery : StreamDelivery) (ops : List FlowOp) :
    InOrder codec delivery.beginTurn ops
      ↔ ∀ i frame, ops[i]? = some (.submit frame)
        → ¬ Overtakes codec (before (step codec) delivery.beginTurn ops i) frame := by
  constructor
  . intro horder i frame hop hover
    obtain ⟨delivery', hsubmit⟩ := submit_of_overtakes hover
    apply hover.1
    apply horder.2 i frame hop hover.2.1
    rw [step, hsubmit]
    exact cons_ne_nil _ _
  . intro hfree
    refine ⟨sublist_run consistent_beginTurn hfree, ?_⟩
    intro i frame hop hkind hout
    have hconsistent : Consistent codec (before (step codec) delivery.beginTurn ops i) :=
      before_invariant consistent_beginTurn (fun _ op h => consistent_step h op) i
    rw [step] at hout
    cases hsubmit : submit codec (before (step codec) delivery.beginTurn ops i) frame with
    | error error =>
      rw [hsubmit] at hout
      exact absurd rfl hout
    | ok submitted =>
      rw [hsubmit] at hout
      exact (submits_of_submit hsubmit).queue_eq_nil hconsistent hkind (hfree i frame hop) hout

end StreamDelivery

section Sample

def sampleOptions : Options := ⟨some "events", 4096, 4096, 1024, 16⟩

def sampleDelta (text : String) (extensions : List (String × Document)) : RunTurnFrame where
  kind := frameModelDelta
  seq := ⟨0, u64_pos⟩
  payload := .object [("text", .ofString text)]
  direction := none
  clientSeq := none
  hostSeq := none
  frameSha256 := none
  eventId := none
  connectionId := none
  streamId := none
  turnStreamId := none
  sessionId := none
  profileId := none
  taskId := none
  turnId := none
  callId := none
  jobId := none
  tool := none
  target := none
  targetId := none
  extensions := extensions

def sampleOps : List FlowOp := [
  .control ⟨0, .windowUpdate 60, none, "fingerprint"⟩,
  .submit (sampleDelta "first frame" []),
  .submit (sampleDelta "b" [])]

theorem not_inOrder_sample :
    ¬ StreamDelivery.InOrder EventStore.bitsCodec (StreamDelivery.new sampleOptions).beginTurn
      sampleOps := by
  intro horder
  have hqueue := horder.2 2 (sampleDelta "b" []) rfl rfl (cons_ne_nil _ [])
  cases hqueue

theorem StreamDelivery.applyControl_unchanged_iff {delivery : StreamDelivery}
    {parsed : ParsedFlowControl} (h : (delivery.applyControl parsed).1 = .error error) :
    (delivery.applyControl parsed).2 = delivery
      ↔ delivery.isActive = true ∨ ∃ error, delivery.openWindow = .error error := by
  cases hopen : delivery.openWindow with
  | error cause =>
    have hkept : (delivery.applyControl parsed).2 = delivery := by
      unfold applyControl
      rw [hopen]
    exact ⟨fun _ => .inr ⟨cause, rfl⟩, fun _ => hkept⟩
  | ok window =>
    rw [applyControl_of_error hopen h]
    unfold isActive
    unfold openWindow at hopen
    cases hwindow : delivery.window with
    | none =>
      rw [StreamDelivery.mk.injEq]
      simp [hwindow]
    | some current =>
      rw [hwindow] at hopen
      cases hopen
      exact ⟨fun _ => .inl rfl, fun _ => by rw [← hwindow]⟩

theorem applyControl_unchanged_active :
    let active := ((StreamDelivery.new sampleOptions).applyControl
      ⟨0, .windowUpdate 60, none, "fingerprint"⟩).2
    (active.applyControl ⟨5, .windowUpdate 60, none, "later"⟩).2 = active := by
  apply (StreamDelivery.applyControl_unchanged_iff rfl).mpr
  exact .inl rfl

theorem applyControl_changes_sample :
    let delivery := (StreamDelivery.new sampleOptions).beginTurn
    let refused := delivery.applyControl ⟨1, .windowUpdate 60, none, "fingerprint"⟩
    refused.1.toOption = none
      ∧ (delivery.submit EventStore.bitsCodec (sampleDelta "b" [])).map Prod.fst
        = .ok (.deliver (sampleDelta "b" []))
      ∧ (refused.2.submit EventStore.bitsCodec (sampleDelta "b" [])).map Prod.fst = .ok .queued := by
  exact ⟨rfl, rfl, rfl⟩

end Sample

end Transport
