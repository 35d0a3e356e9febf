import Trillionnium.Data.List
import Trillionnium.Transport.Impl.Flow

namespace Transport

open Json Protocol StreamWindow

variable {window : Window}

variable {codec : FloatCodec}

theorem BufferedFrame.frame_new {frame : RunTurnFrame}
    (h : BufferedFrame.new codec frame = .ok buffered) :
    buffered.frame = frame ∧ buffered.encodedBytes = (frame.encode codec).length + 1 := by
  unfold BufferedFrame.new at h
  obtain ⟨domain, _, h⟩ := Except.bind_eq_ok.mp h
  obtain ⟨cursor, _, h⟩ := Except.bind_eq_ok.mp h
  cases h
  exact ⟨rfl, rfl⟩

theorem tryReserve_blocked (h : window.tryReserve bytes = .ok (.blocked reason, window')) :
    window' = window := by
  unfold Window.tryReserve at h
  dsimp only at h
  split at h
  . cases h
  split at h
  . cases h
    rfl
  split at h
  . cases h
    rfl
  split at h
  . cases h
    rfl
  split at h
  . cases h
  . cases h

namespace StreamDelivery

variable {delivery delivery' : StreamDelivery} {frame : RunTurnFrame} {result : SubmitResult}

inductive Submits (codec : FloatCodec) (delivery : StreamDelivery) (frame : RunTurnFrame) :
    SubmitResult → StreamDelivery → Prop where
  | passes (h : delivery.window = none ∨ isFlowControlledKind frame.kind = false) :
    Submits codec delivery frame (.deliver frame) delivery
  | suppresses {gap : ResyncGap} {buffered : BufferedFrame}
      (hkind : isFlowControlledKind frame.kind = true)
      (hnew : BufferedFrame.new codec frame = .ok buffered) (hgap : delivery.gap = some gap) :
    Submits codec delivery frame .suppressed { delivery with gap := some (gap.extend buffered) }
  | opens {buffered : BufferedFrame} (hkind : isFlowControlledKind frame.kind = true)
      (hnew : BufferedFrame.new codec frame = .ok buffered) (hgap : delivery.gap = none) :
    Submits codec delivery frame (.gapStarted (.fromBuffer delivery.queue buffered))
      { delivery with
        queue := []
        queuedBytes := 0
        gap := some (.fromBuffer delivery.queue buffered) }
  | granted {window window' : Window} {buffered : BufferedFrame} {bytes remaining : Nat}
      (hkind : isFlowControlledKind frame.kind = true) (hwindow : delivery.window = some window)
      (hnew : BufferedFrame.new codec frame = .ok buffered) (hgap : delivery.gap = none)
      (hchunk : buffered.encodedBytes ≤ delivery.maxChunkBytes)
      (hreserve : window.tryReserve buffered.encodedBytes = .ok (.granted bytes remaining, window')) :
    Submits codec delivery frame (.deliver frame) { delivery with window := some window' }
  | queues {window : Window} {buffered : BufferedFrame}
      (hkind : isFlowControlledKind frame.kind = true) (hwindow : delivery.window = some window)
      (hnew : BufferedFrame.new codec frame = .ok buffered) (hgap : delivery.gap = none)
      (hroom : delivery.queuedBytes + buffered.encodedBytes ≤ delivery.maxBufferBytes) :
    Submits codec delivery frame .queued
      { delivery with
        queuedBytes := delivery.queuedBytes + buffered.encodedBytes
        queue := delivery.queue ++ [buffered] }

theorem with_window (h : delivery.window = some window) :
    { delivery with window := some window } = delivery := by
  cases delivery
  cases h
  rfl

theorem submits_enqueue {buffered : BufferedFrame} (hkind : isFlowControlledKind frame.kind = true)
    (hwindow : delivery.window = some window) (hnew : BufferedFrame.new codec frame = .ok buffered)
    (hgap : delivery.gap = none) :
    Submits codec delivery frame (delivery.enqueue buffered).1 (delivery.enqueue buffered).2 := by
  unfold enqueue
  split
  . exact .opens hkind hnew hgap
  next hfull =>
    refine .queues hkind hwindow hnew hgap ?_
    omega

theorem submits_of_submit (h : delivery.submit codec frame = .ok (result, delivery')) :
    Submits codec delivery frame result delivery' := by
  unfold submit at h
  split at h
  next hwindow =>
    cases h
    exact .passes (.inl hwindow)
  next window hwindow =>
    split at h
    next hkind =>
      obtain ⟨buffered, hnew, h⟩ := Except.bind_eq_ok.mp h
      unfold submitBuffered at h
      split at h
      next gap hgap =>
        cases h
        exact .suppresses hkind hnew hgap
      next hgap =>
        split at h
        . cases h
          exact .opens hkind hnew hgap
        next hchunk =>
          unfold reserve at h
          cases hreserve : window.tryReserve buffered.encodedBytes with
          | error error =>
            rw [hreserve] at h
            cases h
          | ok reserved =>
            obtain ⟨disposition, window'⟩ := reserved
            rw [hreserve] at h
            cases disposition with
            | granted bytes remaining =>
              cases h
              rw [(BufferedFrame.frame_new hnew).1]
              exact .granted hkind hwindow hnew hgap (Nat.le_of_not_lt hchunk) hreserve
            | blocked reason =>
              rw [tryReserve_blocked hreserve] at h
              dsimp only at h
              rw [with_window hwindow] at h
              have heq := Except.ok.inj h
              have hsubmits := submits_enqueue hkind hwindow hnew hgap
              rw [heq] at hsubmits
              exact hsubmits
    next hkind =>
      cases h
      exact .passes (.inr (Bool.eq_false_iff.mpr hkind))

inductive Controls (delivery : StreamDelivery) (parsed : ParsedFlowControl) :
    StreamDelivery → Prop where
  | same : Controls delivery parsed delivery
  | opened (window : Window) (fingerprints : List (Nat × String)) :
    Controls delivery parsed
      { delivery with window := some window, controlFingerprints := fingerprints }
  | resumed (window : Window) (fingerprints : List (Nat × String)) {gap : ResyncGap}
      {required received : Nat} (hcommand : parsed.command = .resume)
      (hgap : delivery.gap = some gap) (hrequired : gap.requiredResumeCursor = some required)
      (hreceived : parsed.resumedThroughCursor = some received) (hle : required ≤ received) :
    Controls delivery parsed
      { delivery with window := some window, controlFingerprints := fingerprints, gap := none }

variable {parsed : ParsedFlowControl}

theorem of_clearsGap (h : delivery.clearsGap parsed = .ok true) :
    parsed.command = .resume ∧ ∃ gap required received, delivery.gap = some gap
      ∧ gap.requiredResumeCursor = some required ∧ parsed.resumedThroughCursor = some received
      ∧ required ≤ received := by
  unfold clearsGap at h
  split at h
  next hcommand =>
    split at h
    next gap hgap =>
      split at h
      . cases h
      next required hrequired =>
        split at h
        . cases h
        next received hreceived =>
          split at h
          . cases h
          next hle =>
            exact ⟨hcommand, gap, required, received, hgap, hrequired, hreceived,
              Nat.le_of_not_lt hle⟩
    next =>
      split at h
      . cases h
      . cases h
  next =>
    split at h
    . cases h
    . cases h

theorem controls_applyControl : Controls delivery parsed (delivery.applyControl parsed).2 := by
  unfold applyControl
  cases delivery.openWindow with
  | error error => exact .same
  | ok window =>
    dsimp only
    split
    next =>
      split
      . exact .opened window _
      next =>
        cases window.applyControl parsed.controlSeq parsed.command with
        | error error => exact .opened window _
        | ok applied => exact .opened applied.2 _
    next =>
      cases hclears : clearsGap { delivery with window := some window } parsed with
      | error error => exact .opened window _
      | ok clears =>
        cases window.applyControl parsed.controlSeq parsed.command with
        | error error => exact .opened window _
        | ok applied =>
          dsimp only
          split
          next =>
            cases clears with
            | false => exact .opened applied.2 _
            | true =>
              obtain ⟨hcommand, gap, required, received, hgap, hrequired, hreceived, hle⟩ :=
                of_clearsGap hclears
              exact .resumed applied.2 _ hcommand hgap hrequired hreceived hle
          next => exact .opened applied.2 _

theorem applyControl_of_error (hopen : delivery.openWindow = .ok window)
    (h : (delivery.applyControl parsed).1 = .error error) :
    (delivery.applyControl parsed).2 = { delivery with window := some window } := by
  revert h
  unfold applyControl
  rw [hopen]
  dsimp only
  split
  next =>
    split
    . exact fun _ => rfl
    next =>
      cases window.applyControl parsed.controlSeq parsed.command with
      | error cause => exact fun _ => rfl
      | ok applied =>
        intro h
        cases h
  next =>
    cases clearsGap { delivery with window := some window } parsed with
    | error cause => exact fun _ => rfl
    | ok clears =>
      cases window.applyControl parsed.controlSeq parsed.command with
      | error cause => exact fun _ => rfl
      | ok applied =>
        dsimp only
        split
        . intro h
          cases h
        . intro h
          cases h

structure Drains (delivery : StreamDelivery) (output : Except String (List RunTurnFrame))
    (delivery' : StreamDelivery) : Prop where
  taken : ∃ taken, delivery.queue = taken ++ delivery'.queue
    ∧ (∀ frames, output = .ok frames → frames = taken.map BufferedFrame.frame)
    ∧ delivery'.queuedBytes = delivery.queuedBytes - (taken.map BufferedFrame.encodedBytes).sum
  rest : ∃ window, delivery' =
    { delivery with window, queue := delivery'.queue, queuedBytes := delivery'.queuedBytes }
  active : delivery'.window.isSome = delivery.window.isSome

theorem drains_drainQueue (delivery : StreamDelivery) (window : Window)
    (queue : List BufferedFrame) (hactive : delivery.window.isSome = true) :
    Drains { delivery with queue } (delivery.drainQueue window queue).1
      (delivery.drainQueue window queue).2 := by
  induction queue generalizing delivery window with
  | nil => exact ⟨⟨[], rfl, by rintro _ ⟨⟩; rfl, rfl⟩, ⟨_, rfl⟩, hactive.symm⟩
  | cons front queue ih =>
    rw [drainQueue]
    cases window.tryReserve front.encodedBytes with
    | error error => exact ⟨⟨[], rfl, by rintro _ ⟨⟩, rfl⟩, ⟨_, rfl⟩, hactive.symm⟩
    | ok reserved =>
      obtain ⟨disposition, window'⟩ := reserved
      cases disposition with
      | blocked reason =>
        exact ⟨⟨[], rfl, by rintro _ ⟨⟩; rfl, rfl⟩, ⟨_, rfl⟩, hactive.symm⟩
      | granted bytes remaining =>
        obtain ⟨⟨taken, hqueue, houtput, hbytes⟩, ⟨window'', hrest⟩, hsome⟩ :=
          ih { delivery with queuedBytes := delivery.queuedBytes - front.encodedBytes } window'
            hactive
        refine ⟨⟨front :: taken, congrArg (front :: ·) hqueue, ?_, ?_⟩, ⟨window'', hrest⟩, hsome⟩
        . intro frames hframes
          obtain ⟨rest, hrest, heq⟩ := Except.map_eq_ok.mp hframes
          rw [← heq, houtput rest hrest, List.map_cons]
        . dsimp only at hbytes ⊢
          rw [hbytes, List.map_cons, List.sum_cons]
          omega

theorem drains_drain {delivery : StreamDelivery} :
    Drains delivery delivery.drain.1 delivery.drain.2 := by
  unfold drain
  split
  next window hgap hwindow =>
    have h := drains_drainQueue delivery window delivery.queue (by rw [hwindow]; rfl)
    exact h
  next => exact ⟨⟨[], rfl, by rintro _ ⟨⟩; rfl, rfl⟩, ⟨_, rfl⟩, rfl⟩

structure Consistent (codec : FloatCodec) (delivery : StreamDelivery) : Prop where
  bytes : delivery.queuedBytes = (delivery.queue.map BufferedFrame.encodedBytes).sum
  bounded : delivery.queuedBytes ≤ delivery.maxBufferBytes
  inactive : delivery.window = none → delivery.queue = []
  gapped : delivery.gap.isSome = true → delivery.queue = []
  made : ∀ buffered ∈ delivery.queue, isFlowControlledKind buffered.frame.kind = true
    ∧ BufferedFrame.new codec buffered.frame = .ok buffered

theorem consistent_of_empty (hqueue : delivery.queue = []) (hbytes : delivery.queuedBytes = 0) :
    Consistent codec delivery where
  bytes := by rw [hqueue, hbytes]; rfl
  bounded := by omega
  inactive _ := hqueue
  gapped _ := hqueue
  made := by
    intro buffered hmem
    rw [hqueue] at hmem
    cases hmem

theorem Submits.consistent (h : Submits codec delivery frame result delivery')
    (hconsistent : Consistent codec delivery) : Consistent codec delivery' := by
  cases h with
  | passes => exact hconsistent
  | suppresses hkind hnew hgap =>
    have hqueue := hconsistent.gapped (by rw [hgap]; rfl)
    exact { hconsistent with gapped := fun _ => hqueue }
  | opens => exact consistent_of_empty rfl rfl
  | granted hkind hwindow hnew hgap hchunk hreserve =>
    exact { hconsistent with inactive := fun h => by cases h }
  | queues hkind hwindow hnew hgap hroom =>
    refine ⟨?_, hroom, ?_, ?_, ?_⟩
    . simp only [List.map_append, List.map_cons, List.map_nil, List.sum_append, List.sum_cons,
        List.sum_nil, hconsistent.bytes]
      omega
    . intro hnone
      rw [hwindow] at hnone
      cases hnone
    . intro hsome
      rw [hgap] at hsome
      cases hsome
    . apply List.forall_mem_concat hconsistent.made
      rw [(BufferedFrame.frame_new hnew).1]
      exact ⟨hkind, hnew⟩

theorem Controls.queue_eq (h : Controls delivery parsed delivery') :
    delivery'.queue = delivery.queue := by
  cases h with
  | same | opened _ _ | resumed _ _ => rfl

theorem Controls.gap_eq (h : Controls delivery parsed delivery') :
    delivery'.gap = delivery.gap ∨ delivery'.gap = none := by
  cases h with
  | same | opened _ _ => exact .inl rfl
  | resumed window fingerprints => exact .inr rfl

theorem Controls.consistent (h : Controls delivery parsed delivery')
    (hconsistent : Consistent codec delivery) : Consistent codec delivery' := by
  cases h with
  | same => exact hconsistent
  | opened window fingerprints => exact { hconsistent with inactive := fun h => by cases h }
  | resumed window fingerprints =>
    exact { hconsistent with
      inactive := fun h => by cases h
      gapped := fun h => by cases h }

theorem Drains.consistent {output : Except String (List RunTurnFrame)}
    (h : Drains delivery output delivery') (hconsistent : Consistent codec delivery) :
    Consistent codec delivery' := by
  obtain ⟨⟨taken, hqueue, _, hbytes⟩, ⟨window, hrest⟩, hactive⟩ := h
  have hempty : delivery.queue = [] → delivery'.queue = [] := by
    intro hnil
    rw [hnil] at hqueue
    exact (List.append_eq_nil_iff.mp hqueue.symm).2
  have hsum := hconsistent.bytes
  rw [hqueue, List.map_append, List.sum_append] at hsum
  have hgap : delivery'.gap = delivery.gap := by rw [hrest]
  have hmax : delivery'.maxBufferBytes = delivery.maxBufferBytes := by rw [hrest]
  have hbounded := hconsistent.bounded
  refine ⟨by omega, by omega, ?_, ?_, ?_⟩
  . intro hnone
    apply hempty
    apply hconsistent.inactive
    rw [hnone] at hactive
    exact Option.isNone_iff_eq_none.mp (by rw [← Option.not_isSome, ← hactive]; rfl)
  . intro hsome
    rw [hgap] at hsome
    exact hempty (hconsistent.gapped hsome)
  . intro buffered hmem
    apply hconsistent.made
    rw [hqueue]
    exact List.mem_append_right taken hmem

theorem consistent_disableAndRelease : Consistent codec delivery.disableAndRelease.2 :=
  consistent_of_empty rfl rfl

theorem consistent_beginTurn : Consistent codec delivery.beginTurn := consistent_of_empty rfl rfl

theorem consistent_step (hconsistent : Consistent codec delivery) (op : FlowOp) :
    Consistent codec (delivery.step codec op).1 := by
  cases op with
  | submit frame =>
    rw [step]
    cases h : delivery.submit codec frame with
    | error error => exact hconsistent
    | ok submitted => exact (submits_of_submit h).consistent hconsistent
  | control parsed => exact controls_applyControl.consistent hconsistent
  | drain => exact drains_drain.consistent hconsistent
  | disable => exact consistent_disableAndRelease

end StreamDelivery

end Transport
