import Trillionnium.EventStore.Lemmas.Sidecar

/-!
Opening the directory of a store yields the state of the store. It fails only if a payload is nested
too deep for the decoder, or if it has to report a partial line.
-/

namespace EventStore

open Json Except

variable {ext : Externals} {config : SegmentedEventStoreConfig} {l : Layout} {indexes : Indexes}
  {sidecars : Sidecars} {snapshotted : List EventRecord} {directory : Directory}

structure Sidecars.Hold (ext : Externals) (config : SegmentedEventStoreConfig) (sidecars : Sidecars)
    (l : Layout) (snapshotted : List EventRecord) : Prop where
  index : ∀ file, sidecars.index = some file →
    ∃ before, WrittenBefore ext config l before ∧ file = indexFile ext before
  snapshot : ∀ file, sidecars.snapshot = some file →
    ∃ before, WrittenBefore ext config l before ∧ snapshotted = before.segments.flatten
      ∧ file = snapshotFile ext snapshotted
  no_snapshot : sidecars.snapshot = none → snapshotted = []

namespace Sidecars.Hold

section

variable (h : sidecars.Hold ext config l snapshotted)
include h

theorem grows (hgrows : l.Grows l') :
    sidecars.Hold ext config l' snapshotted where
  index := by
    intro file hfile
    obtain ⟨before, hbefore, heq⟩ := h.index file hfile
    exact ⟨before, hbefore.grows hgrows, heq⟩
  snapshot := by
    intro file hfile
    obtain ⟨before, hbefore, heq⟩ := h.snapshot file hfile
    exact ⟨before, hbefore.grows hgrows, heq⟩
  no_snapshot := h.no_snapshot

theorem snapshotted_subset : ∀ record ∈ snapshotted, record ∈ l.segments.flatten := by
  intro record hrecord
  cases hfile : sidecars.snapshot with
  | none =>
    rw [h.no_snapshot hfile] at hrecord
    cases hrecord
  | some file =>
    obtain ⟨before, hbefore, heq, _⟩ := h.snapshot file hfile
    rw [heq] at hrecord
    exact (hbefore.2.records_isPrefix ext).subset hrecord

theorem forall_snapshotted {p : EventRecord → Prop}
    (hp : ∀ records, sidecars.snapshot = some (snapshotFile ext records) → ∀ record ∈ records, p record) :
    ∀ record ∈ snapshotted, p record := by
  cases hfile : sidecars.snapshot with
  | none =>
    rw [h.no_snapshot hfile]
    exact fun _ hrecord => absurd hrecord List.not_mem_nil
  | some file =>
    obtain ⟨_, _, _, heq⟩ := h.snapshot file hfile
    rw [heq] at hfile
    exact hp snapshotted hfile

end

section

variable (hlimits : config.limits.validate = .ok ()) (h : sidecars.Hold ext config l snapshotted) (hwritten : Written ext config indexes l)
include hlimits h hwritten

theorem validateIndexSidecar_eq :
    validateIndexSidecar ext config sidecars.index (l.recovered ext indexes) = .ok () := by
  cases hfile : sidecars.index with
  | none => rfl
  | some file =>
    obtain ⟨before, hbefore, rfl⟩ := h.index file hfile
    exact validateIndexSidecar_eq_ok hlimits hwritten hbefore

theorem validateSnapshotSidecar_eq
    (hfloats : ∀ record ∈ snapshotted, FloatsReadBack ext.float record.payload.value)
    (hdepth : ∀ record ∈ snapshotted, record.payload.value.depth ≤ maxSnapshotDepth) :
    validateSnapshotSidecar ext config sidecars.snapshot (l.recovered ext indexes) = .ok () := by
  cases hfile : sidecars.snapshot with
  | none => rfl
  | some file =>
    obtain ⟨before, hbefore, rfl, rfl⟩ := h.snapshot file hfile
    exact validateSnapshotSidecar_eq_ok hlimits hwritten hbefore hfloats hdepth

end

end Sidecars.Hold

namespace SegmentedEventStore

def opened (ext : Externals) (l : Layout) (indexes : Indexes) (sidecars : Sidecars) : SegmentedState :=
  { indexes with
    completed := (summariesOf ext 1 l.completed).map metaOf
    active := metaOf (summaryOf ext l.activeId l.active)
    pendingRecords := 0
    pendingBytes := 0
    poisoned := false
    sidecars := sidecars }

theorem stateOf_recovered :
    stateOf (l.recovered ext indexes) sidecars = .ok (opened ext l indexes sidecars) := by
  unfold stateOf Layout.recovered
  simp only [Layout.summaries_eq, List.getLast?_concat, List.dropLast_concat]
  rfl

theorem openSegments_open : openSegments (l.open ext tail) = l.open ext tail := by
  unfold openSegments
  split
  . next heq => simp [Layout.open] at heq
  . rfl

theorem holds_metaOf (id : Nat) (records : List EventRecord) :
    (metaOf (summaryOf ext id records)).Holds ext id records where
  id_eq := rfl
  path_eq := rfl
  file_eq := rfl
  byteCount_eq := rfl
  recordCount_eq := rfl
  pendingRecords_le := Nat.zero_le _
  pendingBytes_le := Nat.zero_le _
  pendingBytes_eq_zero := fun _ => rfl

theorem segmentsHold_metaOf (id : Nat) (layout : List (List EventRecord)) :
    SegmentsHold ext id ((summariesOf ext id layout).map metaOf) layout := by
  induction layout generalizing id with
  | nil => exact .nil
  | cons records layout ih => exact .cons (holds_metaOf id records) (ih (id + 1))

theorem represents_opened (h : Written ext config indexes l) :
    (opened ext l indexes sidecars).Represents ext config l where
  live := rfl
  written := h
  completed := segmentsHold_metaOf 1 l.completed
  active := holds_metaOf l.activeId l.active
  pendingRecords_eq := by
    simp [opened, SegmentedState.segments, metaOf, Function.comp_def]
  pendingBytes_eq := by
    simp [opened, SegmentedState.segments, metaOf, Function.comp_def]

theorem validateRecoverySidecars_eq (hlimits : config.limits.validate = .ok ())
    (hwritten : Written ext config indexes l) (hsidecars : sidecars.Hold ext config l snapshotted)
    (hfloats : ∀ record ∈ snapshotted, FloatsReadBack ext.float record.payload.value)
    (hdepth : ∀ record ∈ snapshotted, record.payload.value.depth ≤ maxSnapshotDepth) :
    validateRecoverySidecars ext config sidecars.index sidecars.snapshot (l.recovered ext indexes)
      = .ok () := by
  unfold validateRecoverySidecars
  rw [hsidecars.validateIndexSidecar_eq hlimits hwritten, ok_bind]
  exact hsidecars.validateSnapshotSidecar_eq hlimits hwritten hfloats hdepth

theorem openDirectory_eq (hconfig : config.validate = .ok ())
    (hwritten : Written ext config indexes l) (hsidecars : sidecars.Hold ext config l snapshotted)
    (hpayloads : ∀ record ∈ indexes.records, Payload.Survives ext record.payload)
    (hdepth : ∀ record ∈ snapshotted, record.payload.value.depth ≤ maxSnapshotDepth)
    (htail : tail = [] ∨ IsTorn config.limits tail)
    (hperm : directory.Perm (directoryWith (l.open ext tail) sidecars)) :
    openDirectory ext config directory
      =
    if tail = [] ∨ config.recovery = .repairTrailingPartial then
      .ok (opened ext l indexes sidecars)
    else
      .error .truncatedRecord := by
  have hlimits := (validate_eq_ok hconfig).1
  have hnumbered : Numbered (l.open ext tail) := l.numbered_open hwritten.length_segments_le tail
  have hread : ∀ record ∈ indexes.records, Readable ext record := fun record hrecord =>
    hwritten.logged.readable hlimits hrecord (hpayloads record hrecord)
  have hvalidate := validateRecoverySidecars_eq hlimits hwritten hsidecars (fun record hrecord => by
    have hmem := hsidecars.snapshotted_subset record hrecord
    rw [← hwritten.records_eq] at hmem
    exact (hpayloads record hmem).1) hdepth
  unfold openDirectory
  rw [hconfig, ok_bind, hnumbered.discoverSegments_eq hperm, ok_bind, openSegments_open,
    hnumbered.sidecarsOf_eq hperm]
  cases htail with
  | inl hnil =>
    rw [if_pos (.inl hnil), hnil, hwritten.recover hlimits hread, ok_bind]
    simp only
    rw [hvalidate, ok_bind]
    exact stateOf_recovered
  | inr htorn =>
    rw [hwritten.recover_torn hlimits hread htorn]
    by_cases hpolicy : config.recovery = .repairTrailingPartial
    . rw [if_pos hpolicy, if_pos (.inr hpolicy), ok_bind]
      simp only
      rw [hvalidate, ok_bind]
      exact stateOf_recovered
    . rw [if_neg hpolicy, if_neg (by simp [htorn.ne_nil, hpolicy])]
      rfl

def Shallow (ext : Externals) (sidecars : Sidecars) : Prop :=
  ∀ records, sidecars.snapshot = some (snapshotFile ext records) →
    ∀ record ∈ records, record.payload.value.depth ≤ maxSnapshotDepth

theorem depth_of_openDirectory (hconfig : config.validate = .ok ())
    (hwritten : Written ext config indexes l)
    (hperm : directory.Perm (directoryWith (l.open ext tail) sidecars)) {state : SegmentedState}
    (hopen : openDirectory ext config directory = .ok state) :
    (∀ record ∈ indexes.records, record.payload.value.depth ≤ maxPayloadDepth)
    ∧ Shallow ext sidecars := by
  have hlimits := (validate_eq_ok hconfig).1
  have hnumbered : Numbered (l.open ext tail) := l.numbered_open hwritten.length_segments_le tail
  unfold openDirectory at hopen
  rw [hconfig, ok_bind, hnumbered.discoverSegments_eq hperm, ok_bind, openSegments_open,
    hnumbered.sidecarsOf_eq hperm, bind_eq_ok] at hopen
  obtain ⟨recovered, hrecover, hopen⟩ := hopen
  dsimp only at hopen
  rw [bind_eq_ok] at hopen
  obtain ⟨_, hvalidate, _⟩ := hopen
  unfold validateRecoverySidecars at hvalidate
  rw [bind_eq_ok] at hvalidate
  obtain ⟨_, _, hsnapshot⟩ := hvalidate
  constructor
  . intro record hrecord
    by_contra hdepth
    obtain ⟨_, hdecode⟩ := decodeRecord_of_too_deep ext record (not_le.mp hdepth)
    obtain ⟨_, herror⟩ := hwritten.recover_error hlimits hrecord hdecode tail
    rw [herror] at hrecover
    cases hrecover
  . intro records hfile record hrecord
    by_contra hdepth
    obtain ⟨_, herror⟩ := @validateSnapshotSidecar_error ext config _ _ hrecord (not_le.mp hdepth)
      recovered
    rw [hfile, herror] at hsnapshot
    cases hsnapshot

end SegmentedEventStore

end EventStore
