import Trillionnium.Transport.Lemmas.Order

/-!
What a gap tells the client about the frames that it stands for. A gap is determined by the frames
that were queued when it started, the frame that started it, and those that came later.
-/

namespace Transport

open Json Machine Protocol StreamWindow List

variable {codec : FloatCodec}

structure Suppression where
  queued : List BufferedFrame
  current : BufferedFrame
  later : List BufferedFrame

namespace Suppression

variable {n : Suppression}

def frames (n : Suppression) : List BufferedFrame := n.queued ++ n.current :: n.later

def first (n : Suppression) : BufferedFrame := n.queued.head?.getD n.current

def last (n : Suppression) : BufferedFrame := n.later.getLast?.getD n.current

def gap (n : Suppression) : ResyncGap :=
  n.later.foldl ResyncGap.extend (.fromBuffer n.queued n.current)

def push (n : Suppression) (buffered : BufferedFrame) : Suppression :=
  { n with later := n.later ++ [buffered] }

def Complete (n : Suppression) : Prop :=
  (∀ frame ∈ n.frames, frame.cursor.isSome = true)
    ∧ n.first.cursorDomain = n.current.cursorDomain
    ∧ ∀ frame ∈ n.later, frame.cursorDomain = n.current.cursorDomain

theorem gap_push (n : Suppression) (buffered : BufferedFrame) :
    (n.push buffered).gap = n.gap.extend buffered := by
  unfold gap push
  rw [foldl_append]
  rfl

variable {buffered : BufferedFrame} {gap : ResyncGap}

theorem frames_push : (n.push buffered).frames = n.frames ++ [buffered] := by
  unfold frames push
  rw [append_assoc]
  rfl

theorem complete_push :
    (n.push buffered).Complete ↔ n.Complete ∧ buffered.cursor.isSome = true
      ∧ buffered.cursorDomain = n.current.cursorDomain := by
  unfold Complete
  rw [frames_push]
  change _ ∧ n.first.cursorDomain = n.current.cursorDomain
      ∧ (∀ frame ∈ n.later ++ [buffered], frame.cursorDomain = n.current.cursorDomain) ↔ _
  simp only [forall_mem_append, forall_mem_singleton]
  tauto

structure Publishes (gap : ResyncGap) (n : Suppression) : Prop where
  complete : gap.cursorRangeComplete = true
  mixed : gap.mixedCursorDomains = false
  domain : gap.cursorDomain = n.current.cursorDomain
  first : gap.firstCursor = n.first.cursor
  last : gap.lastCursor = n.last.cursor

structure Withholds (gap : ResyncGap) : Prop where
  complete : gap.cursorRangeComplete = false
  first : gap.firstCursor = none
  last : gap.lastCursor = none

theorem publishes_extend (h : Publishes gap n) (hcursor : buffered.cursor.isSome = true)
    (hdomain : buffered.cursorDomain = n.current.cursorDomain) :
    Publishes (gap.extend buffered) (n.push buffered) := by
  have hmeet : gap.meetDomain buffered = gap := by
    rw [ResyncGap.meetDomain, if_neg]
    rw [h.domain, hdomain]
    exact fun hne => hne rfl
  have hcursored : gap.meetCursor buffered = gap := by
    rw [ResyncGap.meetCursor, if_neg]
    rw [← Option.not_isSome, hcursor, Bool.not_true, Bool.and_false]
    exact Bool.false_ne_true
  rw [ResyncGap.extend, hmeet, hcursored]
  refine ⟨h.complete, h.mixed, h.domain, h.first, ?_⟩
  have hlast : (n.push buffered).last = buffered := by
    unfold last push
    rw [getLast?_concat]
    rfl
  rw [ResyncGap.count, hlast]
  dsimp only
  rw [hcursor, h.mixed, h.complete]
  rfl

theorem withholds_meetDomain (h : Withholds gap) : Withholds (gap.meetDomain buffered) := by
  unfold ResyncGap.meetDomain
  split
  . exact ⟨rfl, rfl, rfl⟩
  . exact h

theorem withholds_meetCursor (h : Withholds gap) : Withholds (gap.meetCursor buffered) := by
  unfold ResyncGap.meetCursor
  split
  . exact ⟨rfl, rfl, rfl⟩
  . exact h

theorem withholds_count (h : Withholds gap) : Withholds (gap.count buffered) := by
  refine ⟨h.complete, h.first, ?_⟩
  unfold ResyncGap.count
  dsimp only
  rw [h.complete, Bool.and_false, if_neg Bool.false_ne_true]
  exact h.last

theorem withholds_extend (h : Publishes gap n)
    (hframe : ¬ (buffered.cursor.isSome = true ∧ buffered.cursorDomain = n.current.cursorDomain)) :
    Withholds (gap.extend buffered) := by
  unfold ResyncGap.extend
  apply withholds_count
  by_cases hdomain : gap.cursorDomain ≠ buffered.cursorDomain
  . apply withholds_meetCursor
    rw [ResyncGap.meetDomain, if_pos hdomain]
    exact ⟨rfl, rfl, rfl⟩
  . have hsame : buffered.cursorDomain = n.current.cursorDomain := by
      rw [← h.domain]
      exact (not_not.mp hdomain).symm
    have hnone : buffered.cursor.isNone = true := by
      rw [← Option.not_isSome, Bool.not_eq_true']
      exact Bool.eq_false_iff.mpr (fun hsome => hframe ⟨hsome, hsame⟩)
    rw [ResyncGap.meetDomain, if_neg hdomain, ResyncGap.meetCursor, if_pos]
    . exact ⟨rfl, rfl, rfl⟩
    . rw [h.mixed, hnone]
      rfl

theorem getLast?_frames (n : Suppression) : n.frames.getLast? = some n.last := by
  unfold frames last
  rw [getLast?_append, getLast?_cons]
  rfl

theorem all_cursors_iff (n : Suppression) :
    (n.queued.all fun frame => frame.cursor.isSome) = true ∧ n.current.cursor.isSome = true
      ↔ ∀ frame ∈ n.queued ++ [n.current], frame.cursor.isSome = true := by
  rw [all_eq_true, forall_mem_append, forall_mem_singleton]

theorem fromBuffer_spec (queued : List BufferedFrame) (current : BufferedFrame) :
    ((⟨queued, current, []⟩ : Suppression).Complete
        → Publishes (.fromBuffer queued current) ⟨queued, current, []⟩)
      ∧ (¬ (⟨queued, current, []⟩ : Suppression).Complete
        → Withholds (.fromBuffer queued current)) := by
  have hiff : (⟨queued, current, []⟩ : Suppression).Complete
      ↔ (ResyncGap.fromBuffer queued current).cursorRangeComplete = true := by
    unfold Complete ResyncGap.fromBuffer
    rw [frames, ← all_cursors_iff ⟨queued, current, []⟩]
    simp only [first, Bool.and_eq_true, decide_eq_true_eq, not_mem_nil, false_implies,
      implies_true, and_true]
    tauto
  constructor
  . intro hcomplete
    have hrange := hiff.mp hcomplete
    have hsame := hcomplete.2.1
    refine ⟨hrange, ?_, ?_, ?_, ?_⟩
    . change (!decide _) = false
      rw [Bool.not_eq_false', decide_eq_true_eq]
      exact hsame
    . exact (if_pos hsame).trans hsame
    . exact if_pos hrange
    . exact if_pos hrange
  . intro hcomplete
    have hrange := Bool.eq_false_iff.mpr (fun h => hcomplete (hiff.mpr h))
    refine ⟨hrange, ?_, ?_⟩
    . exact if_neg (fun h => Bool.false_ne_true (hrange.symm.trans h))
    . exact if_neg (fun h => Bool.false_ne_true (hrange.symm.trans h))

theorem gap_spec (n : Suppression) :
    (n.Complete → Publishes n.gap n) ∧ (¬ n.Complete → Withholds n.gap) := by
  obtain ⟨queued, current, later⟩ := n
  induction later using reverseRecOn with
  | nil => exact fromBuffer_spec queued current
  | append_singleton later buffered ih =>
    have hpush : (⟨queued, current, later ++ [buffered]⟩ : Suppression)
      = push ⟨queued, current, later⟩ buffered := rfl
    rw [hpush, gap_push, complete_push]
    constructor
    . rintro ⟨hcomplete, hcursor, hdomain⟩
      exact publishes_extend (ih.1 hcomplete) hcursor hdomain
    . intro hnot
      by_cases hcomplete : (⟨queued, current, later⟩ : Suppression).Complete
      . exact withholds_extend (ih.1 hcomplete) (fun h => hnot ⟨hcomplete, h⟩)
      . unfold ResyncGap.extend
        apply withholds_count
        apply withholds_meetCursor
        apply withholds_meetDomain
        exact ih.2 hcomplete

end Suppression

namespace ResyncGap

def Advertises (gap : ResyncGap) : Prop :=
  gap.firstCursor.isSome = true ∨ gap.lastCursor.isSome = true

def Honest (gap : ResyncGap) (frames : List BufferedFrame) : Prop :=
  gap.Advertises → ∃ domain, gap.cursorDomain = some domain
    ∧ ∀ frame ∈ frames, frame.cursorDomain = some domain ∧ ∃ cursor, frame.cursor = some cursor
      ∧ ∀ required, gap.requiredResumeCursor = some required → cursor < required

def EndsWith (frames : List BufferedFrame) (last : BufferedFrame) : Prop :=
  ∀ frame ∈ frames, frame.cursorDomain = last.cursorDomain
    ∧ ∀ cursor end_, frame.cursor = some cursor → last.cursor = some end_
      → end_ < Checked.u64Max → cursor ≤ end_

theorem honest_iff {gap : ResyncGap} {frames : List BufferedFrame} {last : BufferedFrame} {C : Prop}
    (hmem : last ∈ frames)
    (hdomains : ∀ frame ∈ frames, frame.cursor.isSome = true → frame.cursorDomain.isSome = true)
    (hcomplete : C → (∀ frame ∈ frames, frame.cursor.isSome = true)
      ∧ gap.cursorDomain = last.cursorDomain ∧ gap.lastCursor = last.cursor)
    (hwithholds : ¬C → Suppression.Withholds gap) :
    gap.Honest frames ↔ (C → EndsWith frames last) := by
  by_cases hc : C
  . obtain ⟨hcursors, hdomain, hlast⟩ := hcomplete hc
    obtain ⟨domain, hsome⟩ := Option.isSome_iff_exists.mp (hdomains last hmem (hcursors last hmem))
    obtain ⟨end_, hend⟩ := Option.isSome_iff_exists.mp (hcursors last hmem)
    have hrequired : gap.requiredResumeCursor = Checked.add end_ 1 := by
      unfold requiredResumeCursor
      rw [hlast, hend]
      rfl
    have hadvertises : gap.Advertises := by
      right
      rw [hlast, hend]
      rfl
    rw [imp_iff_right hc]
    unfold Honest EndsWith
    rw [hdomain, hrequired, hsome, hend]
    constructor
    . intro honest frame hframe
      obtain ⟨domain', heq, hall⟩ := honest hadvertises
      obtain ⟨hframeDomain, cursor, hcursor, hbound⟩ := hall frame hframe
      refine ⟨hframeDomain.trans heq.symm, ?_⟩
      intro cursor' end' hcursor' hend' hmax
      rw [hcursor] at hcursor'
      cases hcursor'
      cases hend'
      have hlt := hbound (end_ + 1) (Checked.add_eq_some.mpr ⟨rfl, by omega⟩)
      omega
    . intro hends _
      refine ⟨domain, rfl, ?_⟩
      intro frame hframe
      obtain ⟨hframeDomain, hbound⟩ := hends frame hframe
      obtain ⟨cursor, hcursor⟩ := Option.isSome_iff_exists.mp (hcursors frame hframe)
      refine ⟨hframeDomain, cursor, hcursor, ?_⟩
      intro required hadd
      obtain ⟨rfl, hmax⟩ := Checked.add_eq_some.mp hadd
      have hle := hbound cursor end_ hcursor rfl (by omega)
      omega
  . refine ⟨fun _ h => absurd h hc, ?_⟩
    intro _ hadvertises
    unfold Advertises at hadvertises
    rw [(hwithholds hc).first, (hwithholds hc).last] at hadvertises
    cases hadvertises with
    | inl hfirst => cases hfirst
    | inr hlast => cases hlast

end ResyncGap

structure Tracked where
  delivery : StreamDelivery
  suppression : Option Suppression

namespace Tracked

def note (s : Tracked) (buffered : BufferedFrame) : SubmitResult → Option Suppression
  | .gapStarted _ => some ⟨s.delivery.queue, buffered, []⟩
  | .suppressed => s.suppression.map (·.push buffered)
  | .deliver _ => s.suppression
  | .queued => s.suppression

def observeSubmit (codec : FloatCodec) (s : Tracked) (frame : RunTurnFrame) : Option Suppression :=
  match s.delivery.submit codec frame, BufferedFrame.new codec frame with
  | .ok (result, _), .ok buffered => s.note buffered result
  | _, _ => s.suppression

def observe (codec : FloatCodec) (s : Tracked) : FlowOp → Option Suppression
  | .submit frame => s.observeSubmit codec frame
  | op => if (s.delivery.step codec op).1.gap.isNone then none else s.suppression

def step (codec : FloatCodec) (s : Tracked) (op : FlowOp) : Tracked × List RunTurnFrame :=
  (⟨(s.delivery.step codec op).1, s.observe codec op⟩, (s.delivery.step codec op).2)

def start (delivery : StreamDelivery) : Tracked := ⟨delivery.beginTurn, none⟩

def suppressed (s : Tracked) : List BufferedFrame :=
  match s.suppression with
  | some n => n.frames
  | none => s.delivery.queue

structure Sound (codec : FloatCodec) (s : Tracked) : Prop where
  consistent : s.delivery.Consistent codec
  gap : s.delivery.gap = s.suppression.map Suppression.gap
  made : ∀ n, s.suppression = some n
    → ∀ frame ∈ n.frames, BufferedFrame.new codec frame.frame = .ok frame

theorem sound_start (delivery : StreamDelivery) : Sound codec (start delivery) where
  consistent := StreamDelivery.consistent_beginTurn
  gap := rfl
  made := by
    intro n hn
    cases hn

theorem Sound.submit (h : Sound codec s) {frame : RunTurnFrame} {result : SubmitResult}
    {delivery : StreamDelivery} (hsubmit : s.delivery.submit codec frame = .ok (result, delivery)) :
    Sound codec ⟨delivery, s.observeSubmit codec frame⟩ := by
  have hsubmits := StreamDelivery.submits_of_submit hsubmit
  have hconsistent := hsubmits.consistent h.consistent
  unfold observeSubmit
  rw [hsubmit]
  cases hsubmits with
  | passes =>
    cases BufferedFrame.new codec frame with
    | error _ | ok _ => exact ⟨hconsistent, h.gap, h.made⟩
  | granted _ _ hnew | queues _ _ hnew =>
    rw [hnew]
    exact ⟨hconsistent, h.gap, h.made⟩
  | opens hkind hnew hgap =>
    rw [hnew]
    refine ⟨hconsistent, rfl, ?_⟩
    rintro n ⟨⟩
    apply forall_mem_concat
    . intro buffered hmem
      exact (h.consistent.made buffered hmem).2
    . rw [(BufferedFrame.frame_new hnew).1]
      exact hnew
  | suppresses hkind hnew hgap =>
    rw [hnew]
    have hmap := h.gap
    rw [hgap] at hmap
    cases hsuppression : s.suppression with
    | none =>
      rw [hsuppression] at hmap
      cases hmap
    | some n =>
      rw [hsuppression] at hmap
      cases hmap
      dsimp only [note]
      rw [hsuppression]
      refine ⟨hconsistent, congrArg some (n.gap_push _).symm, ?_⟩
      rintro _ ⟨rfl⟩ buffered hmem
      have hframe := (BufferedFrame.frame_new hnew).1
      rw [Suppression.frames_push, mem_append, mem_singleton] at hmem
      cases hmem with
      | inl hmem => exact h.made n hsuppression buffered hmem
      | inr heq =>
        rw [heq, hframe]
        exact hnew

theorem Sound.keep (h : Sound codec s) {delivery : StreamDelivery}
    (hconsistent : delivery.Consistent codec)
    (hgap : delivery.gap = s.delivery.gap ∨ delivery.gap = none) :
    Sound codec ⟨delivery, if delivery.gap.isNone then none else s.suppression⟩ := by
  cases hnone : delivery.gap with
  | none =>
    refine ⟨hconsistent, hnone, ?_⟩
    intro n hn
    cases hn
  | some gap =>
    rw [hnone] at hgap
    refine ⟨hconsistent, ?_, h.made⟩
    cases hgap with
    | inl heq => exact hnone.trans (heq.trans h.gap)
    | inr heq => cases heq

theorem sound_step (h : Sound codec s) (op : FlowOp) : Sound codec (s.step codec op).1 := by
  have hconsistent := StreamDelivery.consistent_step h.consistent op
  cases op with
  | submit frame =>
    cases hsubmit : s.delivery.submit codec frame with
    | error error =>
      have hstep : (s.step codec (.submit frame)).1 = s := by
        rw [step, StreamDelivery.step, observe, observeSubmit, hsubmit]
      rw [hstep]
      exact h
    | ok submitted =>
      have hstep : (s.step codec (.submit frame)).1
          = ⟨submitted.2, s.observeSubmit codec frame⟩ := by
        rw [step, StreamDelivery.step, observe, hsubmit]
      rw [hstep]
      exact h.submit hsubmit
  | control parsed =>
    apply h.keep hconsistent
    exact StreamDelivery.controls_applyControl.gap_eq
  | drain =>
    apply h.keep hconsistent
    obtain ⟨_, ⟨window, hrest⟩, _⟩ := StreamDelivery.drains_drain
    left
    change s.delivery.drain.2.gap = _
    rw [hrest]
  | disable => exact h.keep hconsistent (.inl rfl)

theorem sound_run (delivery : StreamDelivery) (ops : List FlowOp) :
    Sound codec (run (step codec) (start delivery) ops) := by
  apply run_invariant (sound_start delivery)
  intro s op h
  exact sound_step h op

def Continuous (s : Tracked) : Prop :=
  match s.suppression with
  | some n => n.Complete → ResyncGap.EndsWith n.frames n.last
  | none => ∀ last ∈ s.delivery.queue.getLast?,
    (∀ frame ∈ s.delivery.queue,
      frame.cursor.isSome = true ∧ frame.cursorDomain = last.cursorDomain)
    → ResyncGap.EndsWith s.delivery.queue last

theorem continuous_of_endsWith {s : Tracked} {last : BufferedFrame}
    (hlast : s.suppressed.getLast? = some last) (h : ResyncGap.EndsWith s.suppressed last) :
    s.Continuous := by
  unfold suppressed at hlast h
  unfold Continuous
  cases hsuppression : s.suppression with
  | some n =>
    rw [hsuppression] at hlast h
    dsimp only at hlast h ⊢
    rw [n.getLast?_frames] at hlast
    cases hlast
    exact fun _ => h
  | none =>
    rw [hsuppression] at hlast h
    dsimp only at hlast h ⊢
    rw [hlast]
    rintro _ ⟨rfl⟩ _
    exact h

theorem isSome_cursorDomain {frame : RunTurnFrame}
    (h : BufferedFrame.new codec frame = .ok buffered) (hcursor : buffered.cursor.isSome = true) :
    buffered.cursorDomain.isSome = true := by
  unfold BufferedFrame.new at h
  obtain ⟨domain, _, h⟩ := Except.bind_eq_ok.mp h
  obtain ⟨cursor, _, h⟩ := Except.bind_eq_ok.mp h
  cases h
  dsimp only at hcursor ⊢
  rw [if_pos hcursor]
  rfl

theorem honest_gap_iff {n : Suppression}
    (hmade : ∀ frame ∈ n.frames, BufferedFrame.new codec frame.frame = .ok frame) :
    n.gap.Honest n.frames ↔ (n.Complete → ResyncGap.EndsWith n.frames n.last) := by
  have hlast : n.last ∈ n.frames := mem_of_getLast? n.getLast?_frames
  apply ResyncGap.honest_iff hlast (fun frame hmem => isSome_cursorDomain (hmade frame hmem)) _
    n.gap_spec.2
  intro hcomplete
  have hpublishes := n.gap_spec.1 hcomplete
  refine ⟨hcomplete.1, ?_, hpublishes.last⟩
  rw [hpublishes.domain]
  unfold Suppression.last
  cases hend : n.later.getLast? with
  | none => rfl
  | some frame => exact (hcomplete.2.2 frame (mem_of_getLast? hend)).symm

theorem atEnd_complete_iff {first last : BufferedFrame}
    (hlast : (first :: rest).getLast? = some last) :
    (ResyncGap.atEnd first rest).cursorRangeComplete = true
      ↔ ∀ frame ∈ first :: rest,
        frame.cursor.isSome = true ∧ frame.cursorDomain = last.cursorDomain := by
  have hmem := mem_of_getLast? hlast
  have hiff : (ResyncGap.atEnd first rest).cursorRangeComplete = true
      ↔ (∀ frame ∈ rest, frame.cursorDomain = first.cursorDomain)
        ∧ ∀ frame ∈ first :: rest, frame.cursor.isSome = true := by
    unfold ResyncGap.atEnd
    simp only [Bool.and_eq_true, Bool.not_eq_true', any_eq_false, decide_eq_true_eq,
      all_eq_true, not_not]
  rw [hiff]
  constructor
  . rintro ⟨hrest, hcursors⟩ frame hframe
    have hall : ∀ frame ∈ first :: rest, frame.cursorDomain = first.cursorDomain :=
      forall_mem_cons.mpr ⟨rfl, hrest⟩
    exact ⟨hcursors frame hframe, (hall frame hframe).trans (hall last hmem).symm⟩
  . intro hall
    refine ⟨?_, fun frame hframe => (hall frame hframe).1⟩
    intro frame hframe
    have hfirst := (hall first mem_cons_self).2
    exact (hall frame (mem_cons_of_mem first hframe)).2.trans hfirst.symm

theorem honest_atEnd_iff {first last : BufferedFrame} (hlast : (first :: rest).getLast? = some last)
    (hmade : ∀ frame ∈ first :: rest, BufferedFrame.new codec frame.frame = .ok frame) :
    (ResyncGap.atEnd first rest).Honest (first :: rest)
      ↔ ((∀ frame ∈ first :: rest,
          frame.cursor.isSome = true ∧ frame.cursorDomain = last.cursorDomain)
        → ResyncGap.EndsWith (first :: rest) last) := by
  rw [← atEnd_complete_iff hlast]
  apply ResyncGap.honest_iff (mem_of_getLast? hlast)
    (fun frame hframe => isSome_cursorDomain (hmade frame hframe))
  . intro hcomplete
    have hall := (atEnd_complete_iff hlast).mp hcomplete
    refine ⟨fun frame hframe => (hall frame hframe).1, ?_, ?_⟩
    . have hmixed : ¬ (ResyncGap.atEnd first rest).mixedCursorDomains = true := by
        have hand : (!(ResyncGap.atEnd first rest).mixedCursorDomains && _) = true := hcomplete
        rw [Bool.and_eq_true, Bool.not_eq_true'] at hand
        rw [hand.1]
        exact Bool.false_ne_true
      exact (if_neg hmixed).trans (hall first mem_cons_self).2
    . have heq : rest.getLast?.getD first = last := by
        rw [getLast?_cons] at hlast
        exact Option.some.inj hlast
      exact (if_pos hcomplete).trans (congrArg BufferedFrame.cursor heq)
  . intro hcomplete
    exact ⟨Bool.eq_false_iff.mpr hcomplete, if_neg hcomplete, if_neg hcomplete⟩

theorem honest_iff_continuous (codec : FloatCodec) (delivery : StreamDelivery) (ops : List FlowOp)
    (gap : ResyncGap)
    (h : (run (step codec) (start delivery) ops).delivery.gap = some gap
      ∨ (run (step codec) (start delivery) ops).delivery.terminalGap.1 = some gap) :
    gap.Honest (run (step codec) (start delivery) ops).suppressed
      ↔ (run (step codec) (start delivery) ops).Continuous := by
  have hsound : Sound codec _ := sound_run delivery ops
  generalize run (step codec) (start delivery) ops = s at h hsound
  unfold suppressed Continuous
  have hgap := hsound.gap
  cases hsuppression : s.suppression with
  | some n =>
    rw [hsuppression] at hgap
    have heq : gap = n.gap := by
      unfold StreamDelivery.terminalGap at h
      rw [hgap] at h
      cases h with
      | inl h | inr h => exact (Option.some.inj h).symm
    rw [heq]
    exact honest_gap_iff (hsound.made n hsuppression)
  | none =>
    rw [hsuppression] at hgap
    unfold StreamDelivery.terminalGap at h
    rw [hgap] at h
    cases hqueue : s.delivery.queue with
    | nil =>
      rw [hqueue] at h
      cases h with
      | inl h | inr h => cases h
    | cons first rest =>
      rw [hqueue] at h
      cases h with
      | inl h => cases h
      | inr h =>
        cases h
        obtain ⟨last, hlast⟩ := Option.isSome_iff_exists.mp
          (show (first :: rest).getLast?.isSome = true by rw [getLast?_cons]; rfl)
        have hmade : ∀ frame ∈ first :: rest, BufferedFrame.new codec frame.frame = .ok frame := by
          intro frame hframe
          rw [← hqueue] at hframe
          exact (hsound.consistent.made frame hframe).2
        dsimp only
        rw [hlast]
        rw [honest_atEnd_iff hlast hmade]
        simp only [Option.mem_def, Option.some.injEq, forall_eq']

end Tracked

section Sample

def sampleCursor (domain : CursorDomain) (cursor : Nat) : List (String × Document) := [
  ("cursor_domain", .ofString domain.label), ("durable_cursor", .ofU64 cursor)]

def tightOptions : Options := ⟨some "events", 300, 4096, 1024, 16⟩

def sampleSuppression (domain : CursorDomain) : List FlowOp := [
  .control ⟨0, .pause, none, "fingerprint"⟩,
  .submit (sampleDelta "a" (sampleCursor .jobRuntimeEvent 1)),
  .submit (sampleDelta "b" (sampleCursor domain 2)),
  .submit (sampleDelta "c" (sampleCursor .jobRuntimeEvent 3))]

def sampleTracked (domain : CursorDomain) : Tracked :=
  run (Tracked.step EventStore.bitsCodec) (.start (.new tightOptions)) (sampleSuppression domain)

def sampleGap : ResyncGap where
  cursorDomain := some .jobRuntimeEvent
  firstCursor := some 1
  lastCursor := some 3
  cursorRangeComplete := true
  firstEventId := none
  lastEventId := none
  suppressedFrames := 3
  mixedCursorDomains := false

theorem gap_sampleTracked (domain : CursorDomain) :
    (sampleTracked domain).delivery.gap = some sampleGap := by
  cases domain <;> decide +kernel

theorem cursors_sampleTracked (domain : CursorDomain) :
    (sampleTracked domain).suppressed.map (fun frame => (frame.cursorDomain, frame.cursor))
      =
    [(some .jobRuntimeEvent, some 1), (some domain, some 2), (some .jobRuntimeEvent, some 3)] := by
  cases domain <;> decide +kernel

theorem cursor_of_mem_suppressed {frame : BufferedFrame}
    (h : frame ∈ (sampleTracked domain).suppressed) :
    (frame.cursorDomain, frame.cursor) ∈
      [(some .jobRuntimeEvent, some 1), (some domain, some 2), (some .jobRuntimeEvent, some 3)] := by
  rw [← cursors_sampleTracked]
  exact mem_map.mpr ⟨frame, h, rfl⟩

theorem continuous_sample : (sampleTracked .jobRuntimeEvent).Continuous := by
  have hmap := cursors_sampleTracked .jobRuntimeEvent
  obtain ⟨last, hlast, hcursor⟩ : ∃ last, (sampleTracked .jobRuntimeEvent).suppressed.getLast?
      = some last ∧ (last.cursorDomain, last.cursor) = (some .jobRuntimeEvent, some 3) := by
    have hend := congrArg getLast? hmap
    rw [getLast?_map] at hend
    exact Option.map_eq_some_iff.mp hend
  apply Tracked.continuous_of_endsWith hlast
  intro frame hmem
  rw [(Prod.mk.inj hcursor).1, (Prod.mk.inj hcursor).2]
  have hframe := cursor_of_mem_suppressed hmem
  simp only [mem_cons, Prod.mk.injEq, not_mem_nil, or_false] at hframe
  obtain ⟨hdomain, hcursor⟩ | ⟨hdomain, hcursor⟩ | ⟨hdomain, hcursor⟩ := hframe
  all_goals
    refine ⟨hdomain, ?_⟩
    intro cursor end_ heq hend _
    rw [hcursor] at heq
    cases heq
    cases hend
    decide

theorem honest_sample :
    (sampleTracked .jobRuntimeEvent).delivery.gap = some sampleGap
      ∧ sampleGap.Honest (sampleTracked .jobRuntimeEvent).suppressed := by
  have hgap := gap_sampleTracked .jobRuntimeEvent
  exact ⟨hgap, (Tracked.honest_iff_continuous EventStore.bitsCodec (.new tightOptions)
    (sampleSuppression .jobRuntimeEvent) sampleGap (.inl hgap)).mpr continuous_sample⟩

theorem not_honest_sample :
    (sampleTracked .jobJournalRecord).delivery.gap = some sampleGap
      ∧ ¬ sampleGap.Honest (sampleTracked .jobJournalRecord).suppressed := by
  refine ⟨gap_sampleTracked .jobJournalRecord, ?_⟩
  intro honest
  obtain ⟨domain, hdomain, hall⟩ := honest (.inl rfl)
  cases hdomain
  have hmiddle : (some .jobJournalRecord, some 2) ∈
      (sampleTracked .jobJournalRecord).suppressed.map
        (fun frame => (frame.cursorDomain, frame.cursor)) := by
    rw [cursors_sampleTracked]
    decide
  obtain ⟨frame, hmem, heq⟩ := mem_map.mp hmiddle
  have hsame := (hall frame hmem).1
  rw [(Prod.mk.inj heq).1] at hsame
  cases hsame

end Sample

end Transport
