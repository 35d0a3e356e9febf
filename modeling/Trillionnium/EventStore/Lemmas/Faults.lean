import Trillionnium.EventStore.Lemmas.Open

/-!
The files of a store whose file system may fail at any point. The first failure that leaves the files
in doubt poisons the store, and what is on disk then is the log with at most a partial line behind it.
-/

namespace EventStore

open Json List

variable {segments : List SegmentMeta}

variable {ext : Externals} {config : SegmentedEventStoreConfig} {state state' : SegmentedState}
  {l : Layout} {indexes : Indexes} {tail : Bytes} {snapshotted : List EventRecord}

namespace SegmentedState

def files (state : SegmentedState) : List (String × Bytes) :=
  state.segments.map (fun segment => (segment.path, segment.file))

structure SameDisk (state state' : SegmentedState) : Prop where
  files_eq : state'.files = state.files
  sidecars_eq : state'.sidecars = state.sidecars

structure Stored (ext : Externals) (config : SegmentedEventStoreConfig) (state : SegmentedState)
    (indexes : Indexes) (l : Layout) (tail : Bytes) (snapshotted : List EventRecord) : Prop where
  files_eq : state.files = (l.open ext tail).map (fun segment => (segment.path, segment.file))
  written : Written ext config indexes l
  torn : tail = [] ∨ IsTorn config.limits tail
  sidecars : state.sidecars.Hold ext config l snapshotted
  live : state.poisoned = false →
    tail = [] ∧ state.toIndexes = indexes ∧ state.Represents ext config l

theorem Stored.directory_eq (h : state.Stored ext config indexes l tail snapshotted) :
    state.directory = directoryWith (l.open ext tail) state.sidecars := by
  unfold SegmentedState.directory directoryWith
  rw [← h.files_eq]
  rfl

theorem Stored.poisoned (h : state.Stored ext config indexes l tail snapshotted)
    (hdisk : state.SameDisk state') (hpoisoned : state'.poisoned = true) :
    state'.Stored ext config indexes l tail snapshotted where
  files_eq := by rw [hdisk.files_eq, h.files_eq]
  written := h.written
  torn := h.torn
  sidecars := by
    rw [hdisk.sidecars_eq]
    exact h.sidecars
  live := by
    intro hlive
    rw [hpoisoned] at hlive
    cases hlive

end SegmentedState

theorem SegmentsHold.map_path_file {id : Nat} (h : SegmentsHold ext id segments layout) :
    segments.map (fun segment => (segment.path, segment.file))
      =
    (openLayout ext id layout).map (fun segment => (segment.path, segment.file)) := by
  induction h with
  | nil => rfl
  | cons hsegment _ ih =>
    rw [map_cons, ih, openLayout, map_cons, hsegment.path_eq, hsegment.file_eq]
    rfl

theorem SegmentedState.Represents.files_eq (h : state.Represents ext config l) (bytes : Bytes) :
    (SegmentedEventStore.writeActive bytes state).files
      =
    (l.open ext bytes).map (fun segment => (segment.path, segment.file)) := by
  unfold SegmentedState.files SegmentedState.segments SegmentedEventStore.writeActive Layout.open
  rw [map_append, map_append, h.completed.map_path_file]
  simp only [map_cons, map_nil, h.active.path_eq, h.active.file_eq]
  rfl

theorem SegmentedState.Represents.stored (h : state.Represents ext config l)
    (hsidecars : state.sidecars.Hold ext config l snapshotted) :
    state.Stored ext config state.toIndexes l [] snapshotted where
  files_eq := by
    rw [← h.files_eq []]
    simp [SegmentedState.files, SegmentedState.segments, SegmentedEventStore.writeActive]
  written := h.written
  torn := .inl rfl
  sidecars := hsidecars
  live := fun _ => ⟨rfl, rfl, h⟩

namespace SegmentedEventStore

section Write

theorem isTorn_take (hr : state.Admits ext config.limits r) {n : Nat} (hn : n < r.encoded.length) :
    r.encoded.take n = [] ∨ IsTorn config.limits (r.encoded.take n) := by
  have hlength := hr.length_le
  rw [hr.encoded_eq, Log.length_frame] at hn
  have htake : r.encoded.take n = (encodeRecord ext r.record).take n := by
    rw [hr.encoded_eq, Log.frame, take_append_of_le_length (by omega)]
  rw [htake]
  by_cases hnil : (encodeRecord ext r.record).take n = []
  . exact .inl hnil
  . refine .inr ⟨hnil, ?_, ?_⟩
    . intro hmem
      exact lineFeed_not_mem_encodeRecord ext r.record (mem_of_mem_take hmem)
    . rw [length_take]
      omega

section

variable (h : state.Represents ext config l) (hsidecars : state.sidecars.Hold ext config l snapshotted) (hr : state.Admits ext config.limits r)
include h hsidecars hr

theorem stored_partial {n : Nat} (hn : n < r.encoded.length) :
    (writeActive (r.encoded.take n) state).poison.Stored ext config state.toIndexes l
      (r.encoded.take n) snapshotted where
  files_eq := h.files_eq _
  written := h.written
  torn := isTorn_take hr hn
  sidecars := hsidecars
  live := fun hlive => by cases hlive

theorem stored_whole (hroom : l.active.length < config.maxSegmentRecords)
    (hdisk : (writeActive r.encoded state).SameDisk state') (hpoisoned : state'.poisoned = true) :
    state'.Stored ext config
      (state.toIndexes.publishAt r l.activeId (segmentFile ext l.active).length)
      (l.push r.record) [] snapshotted where
  files_eq := by
    rw [hdisk.files_eq, h.files_eq]
    unfold Layout.open Layout.push
    simp only [map_append, append_nil, segmentFile_append, hr.encoded_eq]
    rfl
  written := h.written.publish hr hroom
  torn := .inl rfl
  sidecars := by
    rw [hdisk.sidecars_eq]
    exact hsidecars.grows (.push .refl r.record)
  live := by
    intro hlive
    rw [hpoisoned] at hlive
    cases hlive

end

end Write

section Sync

theorem syncSegment_eq_ok {segment segment' : SegmentMeta}
    (h : syncSegment config target segment = .ok segment') :
    segment' = fileSynced config segment := by
  unfold syncSegment at h
  unfold fileSynced syncedSegment
  by_cases hpending : segment.pendingRecords = 0
  . rw [if_pos hpending] at h
    cases h
    rw [if_pos (.inl hpending)]
  . rw [if_neg hpending] at h
    split at h
    . cases h
    . split_ifs at h with hlength hpolicy
      . cases h
        simp [hpolicy]
      . cases h
        simp [hpending, hpolicy]

theorem mapM_syncSegment_eq_ok (h : segments.mapM (syncSegment config target) = .ok segments') :
    segments' = segments.map (fileSynced config) := by
  induction segments generalizing segments' with
  | nil =>
    cases h
    rfl
  | cons segment segments ih =>
    rw [mapM_cons, Except.bind_eq_ok] at h
    obtain ⟨first, hfirst, h⟩ := h
    rw [Except.bind_eq_ok] at h
    obtain ⟨rest, hrest, h⟩ := h
    cases h
    rw [syncSegment_eq_ok hfirst, ih hrest, map_cons]

theorem settleSegment_file {segment : SegmentMeta}
    (h : settleSegment pending segment = some (pending', segment')) :
    (segment'.path, segment'.file) = (segment.path, segment.file) := by
  unfold settleSegment at h
  split_ifs at h
  . cases h
    rfl
  . cases h
    rfl

theorem settleSegments_files (h : settleSegments pending segments = some (pending', segments')) :
    segments'.map (fun segment => (segment.path, segment.file))
      = segments.map (fun segment => (segment.path, segment.file)) := by
  induction segments generalizing pending segments' with
  | nil =>
    cases h
    rfl
  | cons segment segments ih =>
    obtain ⟨⟨_, first⟩, hfirst, h⟩ := Option.bind_eq_some_iff.mp h
    obtain ⟨⟨_, rest⟩, hrest, h⟩ := Option.bind_eq_some_iff.mp h
    cases h
    rw [map_cons, map_cons, ih hrest, settleSegment_file hfirst]

theorem settle_eq_some
    (h : settle (state.completed.map (fileSynced config)) (fileSynced config state.active) state
      = some state') : state.SameDisk state' ∧ state'.toIndexes = state.toIndexes := by
  obtain ⟨⟨_, rest⟩, hrest, h⟩ := Option.bind_eq_some_iff.mp h
  obtain ⟨⟨_, last⟩, hlast, h⟩ := Option.bind_eq_some_iff.mp h
  cases h
  refine ⟨⟨?_, rfl⟩, rfl⟩
  unfold SegmentedState.files SegmentedState.segments
  rw [map_append, map_append, settleSegments_files hrest, map_map,
    map_singleton, map_singleton, settleSegment_file hlast]
  rfl

theorem syncPendingUnderGate_outcome {state : SegmentedState} :
    (∃ state', syncPendingUnderGate config validateAll io state = (.ok (), state')
      ∧ state.poisoned = false
      ∧ settle (state.completed.map (fileSynced config)) (fileSynced config state.active) state
        = some state')
    ∨ ∃ e state', syncPendingUnderGate config validateAll io state = (.error e, state')
      ∧ state'.poisoned = true ∧ state.SameDisk state' := by
  unfold syncPendingUnderGate
  cases syncChecks validateAll io.before state with
  | error e => exact .inr ⟨e, state.poison, rfl, rfl, rfl, rfl⟩
  | ok _ =>
    dsimp only
    split
    next hpoisoned => exact .inr ⟨_, state, rfl, hpoisoned, rfl, rfl⟩
    next hlive =>
      cases htargets : syncTargets config io state with
      | error e => exact .inr ⟨e, state.poison, rfl, rfl, rfl, rfl⟩
      | ok targets =>
        -- The segments that a sync returns do not depend on what the file system answers.
        obtain ⟨completed, hcompleted, htargets⟩ := Except.bind_eq_ok.mp htargets
        obtain ⟨active, hactive, htargets⟩ := Except.bind_eq_ok.mp htargets
        cases htargets
        rw [mapM_syncSegment_eq_ok hcompleted, syncSegment_eq_ok hactive]
        dsimp only
        cases hsettle : settle _ _ state with
        | none => exact .inr ⟨_, state.poison, rfl, rfl, rfl, rfl⟩
        | some settled =>
          dsimp only
          have hdisk := (settle_eq_some hsettle).1
          cases syncChecks validateAll io.after settled with
          | error e => exact .inr ⟨e, settled.poison, rfl, rfl, hdisk.files_eq, hdisk.sidecars_eq⟩
          | ok _ => exact .inl ⟨settled, rfl, by simpa using hlive, rfl⟩

theorem syncPendingUnderGate_cases (h : state.Represents ext config l) :
    syncPendingUnderGate config validateAll io state = (.ok (), synced config state)
    ∨ ∃ e state', syncPendingUnderGate config validateAll io state = (.error e, state')
      ∧ state'.poisoned = true ∧ state.SameDisk state' := by
  apply syncPendingUnderGate_outcome.imp_left
  rintro ⟨state', heq, _, hsettle⟩
  rw [settle_fileSynced h] at hsettle
  cases hsettle
  exact heq

theorem syncPendingUnderGate_poisoned (h : state.poisoned = true) (validateAll : Bool) (io : SyncIo) :
    ∃ e state', syncPendingUnderGate config validateAll io state = (.error e, state')
      ∧ state'.poisoned = true ∧ state.SameDisk state' := by
  apply syncPendingUnderGate_outcome.resolve_left
  rintro ⟨_, _, hlive, _⟩
  rw [h] at hlive
  cases hlive

end Sync

section Append

inductive Ensures (config : SegmentedEventStoreConfig) (state : SegmentedState) (l : Layout) :
    Except EventStoreError Unit × SegmentedState → Prop where
  | room (hroom : l.active.length < config.maxSegmentRecords) : Ensures config state l (.ok (), state)
  | rotated (hcap : l.segments.length < maxEventSegments) :
    Ensures config state l (.ok (), rotated config state)
  | refused (e : EventStoreError) : Ensures config state l (.error e, synced config state)
  | failed {e : EventStoreError} {state' : SegmentedState} (hpoisoned : state'.poisoned = true)
      (hdisk : state.SameDisk state') : Ensures config state l (.error e, state')

theorem ensureActiveSegment_cases (hconfig : config.validate = .ok ())
    (h : state.Represents ext config l) (io : SegmentedAppendIo) (encodedLen : Nat) :
    Ensures config state l (ensureActiveSegment config io encodedLen state) := by
  have hmax := (validate_eq_ok hconfig).2.1
  have hlength : (synced config state).segments.length = l.segments.length := by
    rw [(represents_synced h).segments.length_eq]
  unfold ensureActiveSegment
  split
  . exact .failed rfl ⟨rfl, rfl⟩
  . cases hrotate : needsRotation config encodedLen state with
    | false =>
      apply Ensures.room
      rw [← h.active.recordCount_eq]
      simp only [needsRotation, Bool.and_eq_false_iff, Bool.or_eq_false_iff,
        decide_eq_false_iff_not] at hrotate
      omega
    | true =>
      simp only [if_true]
      rcases syncPendingUnderGate_cases h with heq | ⟨e, state', heq, hpoisoned, hdisk⟩
      . rw [heq]
        simp only
        split_ifs with hcap
        . exact .refused _
        . split
          . exact .refused _
          . next nextId hnext =>
            split
            . exact .refused _
            . rw [checkedAdd_eq_some] at hnext
              rw [hnext.1]
              exact .rotated (by omega)
      . rw [heq]
        exact .failed hpoisoned hdisk

theorem stored_commit (h : state.Represents ext config l)
    (hsidecars : state.sidecars.Hold ext config l snapshotted)
    (hr : state.Admits ext config.limits r) (hroom : l.active.length < config.maxSegmentRecords) :
    (∃ tail, (commit config io r state).2.Stored ext config state.toIndexes l tail snapshotted)
    ∨ (commit config io r state).2.Stored ext config
        (state.toIndexes.publishAt r l.activeId (segmentFile ext l.active).length)
        (l.push r.record) [] snapshotted := by
  have hpublished := represents_publish h hr hroom
  have hwhole : ∀ {state'}, (writeActive r.encoded state).SameDisk state' → state'.poisoned = true →
      state'.Stored ext config _ _ _ _ := stored_whole h hsidecars hr hroom
  unfold commit
  split
  . exact .inl ⟨[], (h.stored hsidecars).poisoned ⟨rfl, rfl⟩ rfl⟩
  . rw [if_neg (by simp [h.active.byteCount_eq])]
    split
    . next n _ _ =>
      by_cases hn : n < r.encoded.length
      . exact .inl ⟨_, stored_partial h hsidecars hr hn⟩
      . rw [take_of_length_le (by omega)]
        exact .inr (hwhole ⟨rfl, rfl⟩ rfl)
    . split
      . exact .inr (hwhole ⟨rfl, rfl⟩ rfl)
      . split_ifs
        . exact .inr (hwhole ⟨rfl, rfl⟩ rfl)
        . right
          have hsidecars' := hsidecars.grows (.push .refl r.record)
          rw [← toIndexes_publish h]
          unfold groupCommit
          split_ifs
          . rcases syncPendingUnderGate_cases hpublished with
              heq | ⟨e, state', heq, hpoisoned, hdisk⟩
            . rw [heq]
              exact (represents_synced hpublished).stored hsidecars'
            . rw [heq]
              exact (hpublished.stored hsidecars').poisoned hdisk hpoisoned
          . exact hpublished.stored hsidecars'

theorem mem_publishAt {record : EventRecord}
    (h : record ∈ (indexes.publishAt r segmentId offset).records) :
    record ∈ indexes.records ∨ record = r.record := by
  cases mem_append.mp h with
  | inl h => exact .inl h
  | inr h => exact .inr (mem_singleton.mp h)

theorem stored_append (hconfig : config.validate = .ok ())
    (h : state.Stored ext config indexes l tail snapshotted) {input : EventInput} :
    ∃ indexes' l' tail', (append ext config io input state).2.Stored ext config indexes' l' tail' snapshotted
      ∧ ∀ record ∈ indexes'.records, record ∈ indexes.records ∨ record.payload = input.payload := by
  have hunchanged : ∀ {state'}, state.SameDisk state' → state'.poisoned = true →
      ∃ indexes' l' tail', state'.Stored ext config indexes' l' tail' snapshotted
        ∧ ∀ record ∈ indexes'.records, record ∈ indexes.records ∨ record.payload = input.payload :=
    fun hdisk hpoisoned => ⟨_, _, _, h.poisoned hdisk hpoisoned, fun _ hrecord => .inl hrecord⟩
  have hsame : ∃ indexes' l' tail', state.Stored ext config indexes' l' tail' snapshotted
        ∧ ∀ record ∈ indexes'.records, record ∈ indexes.records ∨ record.payload = input.payload :=
    ⟨_, _, _, h, fun _ hrecord => .inl hrecord⟩
  unfold append
  split
  . exact hsame
  . split
    . exact hunchanged ⟨rfl, rfl⟩ rfl
    . split_ifs with hpoisoned
      . exact hsame
      . obtain ⟨rfl, rfl, hstate⟩ := h.live (by simpa using hpoisoned)
        split
        . exact hsame
        . exact hsame
        . next r hreserve =>
          obtain ⟨hrecord, hr⟩ := Recovered.reserve_eq_reserved hreserve
          have hpayload : r.record.payload = input.payload := by
            rw [hrecord]
            rfl
          have hcommit : ∀ {state' l'}, state'.Represents ext config l' →
              state'.sidecars.Hold ext config l' snapshotted → state'.toIndexes = state.toIndexes →
              l'.active.length < config.maxSegmentRecords →
              ∃ indexes' l' tail', (commit config io r state').2.Stored ext config indexes' l' tail' snapshotted
                ∧ ∀ record ∈ indexes'.records, record ∈ state.records ∨ record.payload = input.payload := by
            intro state' l' hstate' hsidecars' hindexes hroom
            have hr' : state'.Admits ext config.limits r := by
              rw [hindexes]
              exact hr
            rcases stored_commit hstate' hsidecars' hr' hroom with ⟨tail, hstored⟩ | hstored
            . refine ⟨_, _, _, hstored, ?_⟩
              rw [hindexes]
              exact fun _ hmem => .inl hmem
            . refine ⟨_, _, _, hstored, ?_⟩
              rw [hindexes]
              intro record hmem
              cases mem_publishAt hmem with
              | inl hmem => exact .inl hmem
              | inr heq =>
                rw [heq]
                exact .inr hpayload
          have hensure := ensureActiveSegment_cases hconfig hstate io r.encoded.length
          generalize ensureActiveSegment config io r.encoded.length state = outcome at hensure
          cases hensure with
          | room hroom => exact hcommit hstate h.sidecars rfl hroom
          | rotated hcap =>
            exact hcommit (represents_rotated hstate hcap) (h.sidecars.grows (.rotate .refl)) rfl
              (validate_eq_ok hconfig).2.1
          | refused e =>
            exact ⟨_, _, _, (represents_synced hstate).stored h.sidecars, fun _ hmem => .inl hmem⟩
          | failed hpoisoned hdisk => exact hunchanged hdisk hpoisoned

end Append

section Publish

theorem represents_sidecars (h : state.Represents ext config l) :
    { state with sidecars := sidecars }.Represents ext config l where
  live := h.live
  written := h.written
  completed := h.completed
  active := h.active
  pendingRecords_eq := h.pendingRecords_eq
  pendingBytes_eq := h.pendingBytes_eq

theorem atomicSidecarWrite_final (io : SidecarIo) (label : String) (final temp : Option Bytes)
    (bytes : Bytes) :
    (atomicSidecarWrite io label final temp bytes).2.1 = final
    ∨ (atomicSidecarWrite io label final temp bytes).2.1 = some (bytes ++ [10]) := by
  unfold atomicSidecarWrite
  split
  . exact .inl rfl
  . split_ifs
    . exact .inl rfl
    . split
      . exact .inl rfl
      . split
        . exact .inr rfl
        . exact .inr rfl

theorem writtenBefore_self (h : Written ext config indexes l) : WrittenBefore ext config l l :=
  ⟨⟨indexes, h⟩, .refl⟩

theorem stored_writeIndexManifest (h : state.Represents ext config l)
    (hsidecars : state.sidecars.Hold ext config l snapshotted) :
    (writeIndexManifest ext io state).2.Stored ext config state.toIndexes l [] snapshotted := by
  unfold writeIndexManifest
  split
  . exact (h.stored hsidecars).poisoned ⟨rfl, rfl⟩ rfl
  . apply (represents_sidecars h).stored
    have hfinal := atomicSidecarWrite_final io "event index" state.sidecars.index
      state.sidecars.indexTemp (write ext.float (indexManifest state).toValue)
    refine ⟨?_, hsidecars.snapshot, hsidecars.no_snapshot⟩
    intro file hfile
    simp only at hfile
    cases hfinal with
    | inl heq =>
      rw [heq] at hfile
      exact hsidecars.index file hfile
    | inr heq =>
      rw [heq, Option.some.injEq] at hfile
      refine ⟨l, writtenBefore_self h.written, ?_⟩
      rw [← hfile, h.indexManifest_eq]
      rfl

theorem stored_writeSnapshot (h : state.Represents ext config l)
    (hsidecars : state.sidecars.Hold ext config l snapshotted) :
    ∃ snapshotted', (writeSnapshot ext io state).2.Stored ext config state.toIndexes l [] snapshotted'
      ∧ (snapshotted' = snapshotted ∨ snapshotted' = state.records) := by
  unfold writeSnapshot
  split
  . exact ⟨_, (h.stored hsidecars).poisoned ⟨rfl, rfl⟩ rfl, .inl rfl⟩
  . have hfinal := atomicSidecarWrite_final io "event snapshot" state.sidecars.snapshot
      state.sidecars.snapshotTemp (write ext.float (snapshotManifest state).toValue)
    simp only
    cases hfinal with
    | inl heq =>
      refine ⟨snapshotted, (represents_sidecars h).stored ⟨hsidecars.index, ?_, ?_⟩, .inl rfl⟩
      . intro file hfile
        rw [heq] at hfile
        exact hsidecars.snapshot file hfile
      . intro hnone
        rw [heq] at hnone
        exact hsidecars.no_snapshot hnone
    | inr heq =>
      refine ⟨state.records, (represents_sidecars h).stored ⟨hsidecars.index, ?_, ?_⟩, .inr rfl⟩
      . intro file hfile
        rw [heq, Option.some.injEq] at hfile
        refine ⟨l, writtenBefore_self h.written, h.written.records_eq, ?_⟩
        rw [← hfile, h.snapshotManifest_eq, ← h.written.records_eq]
        rfl
      . intro hnone
        rw [heq] at hnone
        cases hnone

section

variable (h : state.Stored ext config indexes l tail snapshotted)
include h

theorem stored_syncPendingUnderGate (validateAll : Bool) (io : SyncIo) :
    (syncPendingUnderGate config validateAll io state).2.Stored ext config indexes l tail snapshotted := by
  cases hpoisoned : state.poisoned with
  | true =>
    obtain ⟨e, state', heq, hpoisoned, hdisk⟩ :=
      @syncPendingUnderGate_poisoned config state hpoisoned validateAll io
    rw [heq]
    exact h.poisoned hdisk hpoisoned
  | false =>
    obtain ⟨rfl, rfl, hstate⟩ := h.live hpoisoned
    rcases syncPendingUnderGate_cases hstate with
      heq | ⟨e, state', heq, hpoisoned, hdisk⟩
    . rw [heq]
      exact (represents_synced hstate).stored h.sidecars
    . rw [heq]
      exact h.poisoned hdisk hpoisoned

theorem live_of_sync (heq : syncPendingUnderGate config validateAll io state = (.ok (), state')) :
    state'.poisoned = false := by
  cases hpoisoned : state.poisoned with
  | true =>
    obtain ⟨e, _, herror, _⟩ := @syncPendingUnderGate_poisoned config state hpoisoned validateAll io
    rw [heq] at herror
    cases herror
  | false =>
    obtain ⟨rfl, rfl, hstate⟩ := h.live hpoisoned
    rcases syncPendingUnderGate_cases hstate with hok | ⟨e, _, herror, _⟩
    . rw [heq] at hok
      cases hok
      exact hstate.live
    . rw [heq] at herror
      cases herror

theorem stored_flush :
    (flush ext config sync io state).2.Stored ext config indexes l tail snapshotted := by
  have hsync := stored_syncPendingUnderGate h true sync
  unfold flush
  split
  . next heq =>
    rw [heq] at hsync
    exact hsync
  . next heq =>
    have hlive := live_of_sync h heq
    rw [heq] at hsync
    obtain ⟨rfl, rfl, hstate⟩ := hsync.live hlive
    exact stored_writeIndexManifest hstate hsync.sidecars

theorem stored_checkpoint :
    ∃ snapshotted', (checkpoint ext config sync snapshotIo indexIo state).2.Stored ext config indexes l tail
      snapshotted' ∧ (snapshotted' = snapshotted ∨ snapshotted' = indexes.records) := by
  have hsync := stored_syncPendingUnderGate h true sync
  unfold checkpoint
  split
  . next heq =>
    rw [heq] at hsync
    exact ⟨_, hsync, .inl rfl⟩
  . next synced heq =>
    have hlive := live_of_sync h heq
    rw [heq] at hsync
    obtain ⟨rfl, rfl, hstate⟩ := hsync.live hlive
    obtain ⟨snapshotted', hsnapshot, hcases⟩ := stored_writeSnapshot hstate hsync.sidecars
    split
    . next hwrite =>
      rw [hwrite] at hsnapshot
      exact ⟨_, hsnapshot, hcases⟩
    . next published hwrite =>
      rw [hwrite] at hsnapshot
      have hindex : (writeIndexManifest ext indexIo published).2.Stored ext config synced.toIndexes l []
          snapshotted' := by
        cases hpublished : published.poisoned with
        | false =>
          obtain ⟨_, hindexes, hrepresents⟩ := hsnapshot.live hpublished
          rw [← hindexes]
          exact stored_writeIndexManifest hrepresents hsnapshot.sidecars
        | true =>
          have hchecks : validateAllSegmentsCurrent indexIo.root published = .error .poisoned := by
            unfold validateAllSegmentsCurrent
            rw [if_pos hpublished]
          unfold writeIndexManifest
          rw [hchecks]
          exact hsnapshot.poisoned ⟨rfl, rfl⟩ rfl
      split
      . next heq =>
        rw [heq] at hindex
        exact ⟨_, hindex, hcases⟩
      . next heq =>
        rw [heq] at hindex
        exact ⟨_, hindex, hcases⟩

end

end Publish

end SegmentedEventStore

end EventStore
