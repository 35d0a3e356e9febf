import Trillionnium.Data.List
import Trillionnium.Host.Impl.Deliver

namespace Host

open EventStore (EventInput)
open Json
open Protocol StoredTurn List

theorem refuse_eq_ok [Decidable c] : refuse c message = .ok () ↔ ¬ c := by
  unfold refuse
  split
  next h => simp [h]
  next h => simp [h]

theorem eventId_injective {n : Nat}
    (h : OutputState.eventId stream n = OutputState.eventId stream m) : n = m := by
  change stream ++ "-event-" ++ toString n = stream ++ "-event-" ++ toString m at h
  exact Nat.repr_injective ((String.append_right_inj (stream ++ "-event-")).mp h)

structure IsTurnFrame (frame : RunTurnFrame) (scope : EventStore.TurnScope) : Prop where
  inScope : InScope frame scope
  eventId : frame.eventId.isSome
  extensions : frame.extensions = []

theorem isTurnFrame_turnFrame (output : OutputState) (kind : String) (payload : Document)
    (context : TurnContext) (correlation : EventCorrelation) :
    IsTurnFrame (output.turnFrame kind payload context correlation).1 context.durableScope where
  inScope := ⟨rfl, rfl, rfl, rfl, rfl⟩
  eventId := rfl
  extensions := rfl

theorem IsTurnFrame.decoratedFrame {frame : RunTurnFrame} {scope : EventStore.TurnScope}
    (h : IsTurnFrame frame scope) (persistence : Persistence) :
    IsTurnFrame (decoratedFrame frame persistence) scope := ⟨h.inScope, h.eventId, h.extensions⟩

structure IsRecord (scope : EventStore.TurnScope) (digest : String) (event : EventInput)
    (frame : RunTurnFrame) : Prop where
  eventId : frame.eventId = some event.eventId
  event : event = frameInput scope digest event.eventId frame
  inScope : InScope frame scope
  extensions : frame.extensions = []

def Stored (scope : EventStore.TurnScope) (digest : String) (event : EventInput) : Prop :=
  ∃ frame, IsRecord scope digest event frame

section Record

variable {scope : EventStore.TurnScope} {digest : String} {event : EventInput} {frame : RunTurnFrame}

theorem isRecord_frameInput {eventId : String} (h : IsTurnFrame frame scope)
    (heventId : frame.eventId = some eventId) :
    IsRecord scope digest (frameInput scope digest eventId frame) frame :=
  ⟨heventId, rfl, h.inScope, h.extensions⟩

theorem IsRecord.scope_eq (h : IsRecord scope digest event frame) : event.scope = scope := by
  rw [h.event]
  rfl

theorem IsRecord.kind_eq (h : IsRecord scope digest event frame) : event.kind = frame.kind := by
  rw [h.event]
  rfl

theorem get?_frameInput_frame (eventId : String) :
    (frameInput scope digest eventId frame).payload.get? "frame" = some frame.toDocument := by
  unfold frameInput
  rw [Document.get?_object]
  rfl

theorem storedRequest_frameInput (eventId : String) :
    storedRequest (frameInput scope digest eventId frame) = some digest := by
  unfold storedRequest frameInput
  rw [Document.get?_object]
  rfl

theorem IsRecord.storedRequest_eq (h : IsRecord scope digest event frame) :
    storedRequest event = some digest := by
  rw [h.event]
  apply storedRequest_frameInput

theorem Stored.scope_eq (h : Stored scope digest event) : event.scope = scope := h.choose_spec.scope_eq

theorem Stored.storedRequest_eq (h : Stored scope digest event) :
    storedRequest event = some digest := h.choose_spec.storedRequest_eq

theorem IsRecord.loadRecord_eq (h : IsRecord scope digest event frame) :
    loadRecord scope digest event = .ok frame := by
  have hframe : event.payload.get? "frame" = some frame.toDocument := by
    rw [h.event]
    apply get?_frameInput_frame
  unfold loadRecord
  rw [h.storedRequest_eq, hframe]
  simp only [refuse, ne_eq, not_true_eq_false, if_false, Except.ok_bind,
    RunTurnFrame.ofDocument_toDocument h.extensions, h.kind_eq, h.eventId, h.inScope, or_self,
    Except.mapError]
  rfl

theorem loadRecord_of_ne (h : Stored scope digest event) (hne : digest' ≠ digest) :
    loadRecord scope digest' event
      = .error "stored event request digest conflicts with the incoming turn" := by
  unfold loadRecord
  rw [h.storedRequest_eq, refuse, if_pos]
  . rfl
  . intro heq
    exact hne (Option.some.inj heq).symm

end Record

section Classify

variable {scope : EventStore.TurnScope} {digest : String} {records : List EventInput}
  {frames : List RunTurnFrame}

section

variable (h : List.Forall₂ (IsRecord scope digest) records frames) (hopen : ∀ frame ∈ frames, frame.kind ≠ frameTurnEnd)
include h hopen

theorem loadRecords_eq (rest : List EventInput)
    (before : List RunTurnFrame) (terminal : Option Nat) :
    loadRecords scope digest (records ++ rest) before terminal
      = loadRecords scope digest rest (before ++ frames) terminal := by
  induction h generalizing before with
  | nil => rw [append_nil, nil_append]
  | cons hrecord _ ih =>
    rename_i event frame records frames
    rw [forall_mem_cons] at hopen
    rw [cons_append, loadRecords, hrecord.loadRecord_eq, Except.ok_bind,
      noteTerminal, if_neg hopen.1, Except.ok_bind, ih hopen.2, append_assoc,
      singleton_append]

theorem classify_incomplete (hne : records ≠ []) :
    classify scope digest records = .incomplete frames := by
  have hload := loadRecords_eq h hopen [] [] none
  rw [append_nil, nil_append] at hload
  unfold classify
  rw [if_neg (by simpa using hne), hload]
  rfl

theorem classify_complete {last : RunTurnFrame}
    (hlast : IsRecord scope digest event last) (hkind : last.kind = frameTurnEnd) :
    classify scope digest (records ++ [event]) = .complete (frames ++ [last]) := by
  have hload := loadRecords_eq h hopen [event] [] none
  rw [nil_append, loadRecords, hlast.loadRecord_eq, Except.ok_bind,
    noteTerminal, if_pos hkind] at hload
  unfold classify
  rw [if_neg (by simp), hload]
  simp [loadRecords]

end

theorem classify_conflict (h : Stored scope digest event) (hne : digest' ≠ digest) :
    classify scope digest' (event :: rest)
      = .conflict "stored event request digest conflicts with the incoming turn" := by
  unfold classify
  rw [if_neg (by simp), loadRecords, loadRecord_of_ne h hne]
  rfl

theorem storedRequest_of_loadRecord {frame : RunTurnFrame}
    (h : loadRecord scope digest event = .ok frame) :
    storedRequest event = some digest ∧ frame.kind = event.kind := by
  unfold loadRecord at h
  obtain ⟨_, hdigest, h⟩ := Except.bind_eq_ok.mp h
  have hrequest := not_not.mp (refuse_eq_ok.mp hdigest)
  split at h
  . cases h
  . obtain ⟨found, _, h⟩ := Except.bind_eq_ok.mp h
    obtain ⟨_, hidentity, h⟩ := Except.bind_eq_ok.mp h
    obtain ⟨_, _, h⟩ := Except.bind_eq_ok.mp h
    cases h
    exact ⟨hrequest, not_not.mp (not_or.mp (refuse_eq_ok.mp hidentity)).1⟩

theorem open_of_loadRecords {before : List RunTurnFrame} {terminal : Option Nat}
    (h : loadRecords scope digest records before terminal = .ok (frames, none)) :
    terminal = none ∧ ∀ event ∈ records,
      storedRequest event = some digest ∧ event.kind ≠ frameTurnEnd := by
  induction records generalizing before terminal with
  | nil =>
    cases h
    exact ⟨rfl, fun _ hmem => absurd hmem not_mem_nil⟩
  | cons event records ih =>
    rw [loadRecords] at h
    obtain ⟨frame, hframe, h⟩ := Except.bind_eq_ok.mp h
    obtain ⟨noted, hnoted, h⟩ := Except.bind_eq_ok.mp h
    obtain ⟨hnone, hopen⟩ := ih h
    obtain ⟨hrequest, hkind⟩ := storedRequest_of_loadRecord hframe
    unfold noteTerminal at hnoted
    rw [hnone] at hnoted
    split at hnoted
    . split at hnoted
      . cases hnoted
      . cases hnoted
    next hne =>
      cases hnoted
      rw [hkind] at hne
      exact ⟨rfl, forall_mem_cons.mpr ⟨⟨hrequest, hne⟩, hopen⟩⟩

theorem open_of_classify (h : classify scope digest records = .incomplete frames) :
    records ≠ [] ∧ ∀ event ∈ records,
      storedRequest event = some digest ∧ event.kind ≠ frameTurnEnd := by
  unfold classify at h
  split at h
  . cases h
  next hne =>
    split at h
    . cases h
    next hload =>
      cases h
      exact ⟨by simpa using hne, (open_of_loadRecords hload).2⟩
    . split at h
      . cases h
      . cases h

theorem eq_nil_of_classify (h : classify scope digest records = .empty) : records = [] := by
  unfold classify at h
  split at h
  next hnil => simpa using hnil
  . split at h
    . cases h
    . cases h
    . split at h
      . cases h
      . cases h

theorem exists_frames (h : ∀ event ∈ records, Stored scope digest event) :
    ∃ frames, List.Forall₂ (IsRecord scope digest) records frames := by
  induction records with
  | nil => exact ⟨[], .nil⟩
  | cons event records ih =>
    rw [forall_mem_cons] at h
    obtain ⟨frame, hframe⟩ := h.1
    obtain ⟨frames, hframes⟩ := ih h.2
    exact ⟨frame :: frames, .cons hframe hframes⟩

theorem kind_of_forall₂ (h : List.Forall₂ (IsRecord scope digest) records frames)
    (hopen : ∀ event ∈ records, event.kind ≠ frameTurnEnd) :
    ∀ frame ∈ frames, frame.kind ≠ frameTurnEnd := by
  induction h with
  | nil => exact fun _ hmem => absurd hmem not_mem_nil
  | cons hrecord _ ih =>
    rw [forall_mem_cons] at hopen ⊢
    exact ⟨hrecord.kind_eq ▸ hopen.1, ih hopen.2⟩

theorem classify_stored (h : ∀ event ∈ records, Stored scope digest event) (hne : records ≠ [])
    (hlast : records.Pairwise fun event _ => event.kind ≠ frameTurnEnd) :
    ∃ stored, List.Forall₂ (IsRecord scope digest) records stored
      ∧ (classify scope digest records = .complete stored
        ∨ (∀ event ∈ records, event.kind ≠ frameTurnEnd)
          ∧ classify scope digest records = .incomplete stored) := by
  by_cases hopen : ∀ event ∈ records, event.kind ≠ frameTurnEnd
  . obtain ⟨frames, hframes⟩ := exists_frames h
    exact ⟨frames, hframes, .inr ⟨hopen, classify_incomplete hframes (kind_of_forall₂ hframes hopen) hne⟩⟩
  . obtain ⟨before, last, hrecords⟩ := (eq_nil_or_concat records).resolve_left hne
    rw [concat_eq_append] at hrecords
    cases hrecords
    have hbefore : ∀ event ∈ before, event.kind ≠ frameTurnEnd := fun event hmem =>
      (pairwise_append.mp hlast).2.2 event hmem last (mem_singleton_self last)
    have hkind : last.kind = frameTurnEnd := by
      by_contra hkind
      exact hopen (forall_mem_concat hbefore hkind)
    obtain ⟨frames, hframes⟩ := exists_frames fun event hmem => h event (mem_append_left _ hmem)
    obtain ⟨frame, hframe⟩ := h last (mem_append_right _ (mem_singleton_self last))
    refine ⟨frames ++ [frame], rel_append hframes (.cons hframe .nil), .inl ?_⟩
    exact classify_complete hframes (kind_of_forall₂ hframes hbefore) hframe
      (hframe.kind_eq.symm.trans hkind)

end Classify

end Host
