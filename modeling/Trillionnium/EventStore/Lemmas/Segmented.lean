import Trillionnium.EventStore.Lemmas.Written

namespace EventStore

open Json

structure SegmentMeta.Holds (ext : Externals) (segment : SegmentMeta) (id : Nat)
    (records : List EventRecord) : Prop where
  id_eq : segment.id = id
  path_eq : segment.path = segmentFileName id
  file_eq : segment.file = segmentFile ext records
  byteCount_eq : segment.byteCount = segment.file.length
  recordCount_eq : segment.recordCount = records.length
  pendingRecords_le : segment.pendingRecords ≤ segment.recordCount
  pendingBytes_le : segment.pendingBytes ≤ segment.byteCount
  pendingBytes_eq_zero : segment.pendingRecords = 0 → segment.pendingBytes = 0

inductive SegmentsHold (ext : Externals) : Nat → List SegmentMeta → List (List EventRecord) → Prop where
  | nil {id : Nat} : SegmentsHold ext id [] []
  | cons {id : Nat} {segment : SegmentMeta} {segments : List SegmentMeta}
      {records : List EventRecord} {layout : List (List EventRecord)}
      (hsegment : segment.Holds ext id records) (h : SegmentsHold ext (id + 1) segments layout) :
    SegmentsHold ext id (segment :: segments) (records :: layout)

namespace SegmentsHold

variable {ext : Externals} {id : Nat} {segments : List SegmentMeta} {layout : List (List EventRecord)}

section

variable (h : SegmentsHold ext id segments layout)
include h

theorem length_eq : segments.length = layout.length := by
  induction h with
  | nil => rfl
  | cons _ _ ih =>
    rw [List.length_cons, List.length_cons, ih]

theorem concat {segment : SegmentMeta}
    {records : List EventRecord} (hsegment : segment.Holds ext (id + segments.length) records) :
    SegmentsHold ext id (segments ++ [segment]) (layout ++ [records]) := by
  induction h with
  | nil => exact .cons hsegment .nil
  | @cons id _ segments _ _ hfirst _ ih =>
    apply cons hfirst
    apply ih
    have heq : id + (segments.length + 1) = id + 1 + segments.length := by omega
    rw [← heq]
    exact hsegment

theorem map (f : SegmentMeta → SegmentMeta)
    (hf : ∀ segment id records, segment.Holds ext id records → (f segment).Holds ext id records) :
    SegmentsHold ext id (segments.map f) layout := by
  induction h with
  | nil => exact .nil
  | cons hsegment _ ih => exact .cons (hf _ _ _ hsegment) ih

theorem exists_holds {segment : SegmentMeta}
    (hmem : segment ∈ segments) : ∃ id, ∃ records ∈ layout, segment.Holds ext id records := by
  induction h with
  | nil => cases hmem
  | cons hsegment _ ih =>
    cases List.mem_cons.mp hmem with
    | inl heq =>
      rw [heq]
      exact ⟨_, _, by simp, hsegment⟩
    | inr hmem =>
      obtain ⟨id, records, hrecords, hholds⟩ := ih hmem
      exact ⟨id, records, by simp [hrecords], hholds⟩

theorem getElem? {i : Nat} {records : List EventRecord} (hget : layout[i]? = some records) :
    ∃ segment ∈ segments, segment.Holds ext (id + i) records := by
  induction h generalizing i with
  | nil => simp at hget
  | @cons id segment segments first layout hsegment _ ih =>
    cases i with
    | zero =>
      simp only [List.getElem?_cons_zero, Option.some.injEq] at hget
      rw [← hget]
      exact ⟨segment, by simp, hsegment⟩
    | succ i =>
      rw [List.getElem?_cons_succ] at hget
      obtain ⟨found, hmem, hholds⟩ := ih hget
      have heq : id + (i + 1) = id + 1 + i := by omega
      rw [heq]
      exact ⟨found, by simp [hmem], hholds⟩

theorem flatMap_file : segments.flatMap (·.file) = segmentFile ext layout.flatten := by
  induction h with
  | nil => rfl
  | cons hsegment _ ih =>
    rw [List.flatMap_cons, ih, hsegment.file_eq]
    simp [segmentFile]

theorem all_current :
    segments.all (fun segment => segment.file.length == segment.byteCount) = true := by
  rw [List.all_eq_true]
  intro segment hmem
  obtain ⟨_, _, _, hholds⟩ := h.exists_holds hmem
  simp [hholds.byteCount_eq]

end

end SegmentsHold

structure SegmentedState.Represents (ext : Externals) (config : SegmentedEventStoreConfig)
    (state : SegmentedState) (l : Layout) : Prop where
  live : state.poisoned = false
  written : Written ext config state.toIndexes l
  completed : SegmentsHold ext 1 state.completed l.completed
  active : state.active.Holds ext l.activeId l.active
  pendingRecords_eq : state.pendingRecords = (state.segments.map (·.pendingRecords)).sum
  pendingBytes_eq : state.pendingBytes = (state.segments.map (·.pendingBytes)).sum

namespace SegmentedState.Represents

variable {ext : Externals} {config : SegmentedEventStoreConfig} {state : SegmentedState} {l : Layout}

theorem segments (h : state.Represents ext config l) :
    SegmentsHold ext 1 state.segments l.segments := by
  apply h.completed.concat
  have hactive := h.active
  unfold Layout.activeId at hactive
  rw [h.completed.length_eq, Nat.add_comm]
  exact hactive

end SegmentedState.Represents

structure SegmentedState.Implements (ext : Externals) (config : SegmentedEventStoreConfig)
    (state : SegmentedState) (log : SegmentedLog) : Prop where
  indexes_eq : state.toIndexes = log.indexes
  represents : state.Represents ext config log.layout

theorem SegmentedState.Represents.implements {config : SegmentedEventStoreConfig}
    {state : SegmentedState} (h : state.Represents ext config l) :
    state.Implements ext config { indexes := state.toIndexes, layout := l } :=
  ⟨rfl, h⟩

namespace SegmentedEventStore

variable {ext : Externals} {config : SegmentedEventStoreConfig} {state : SegmentedState} {l : Layout}

section Sync

def syncedSegment (config : SegmentedEventStoreConfig) (segment : SegmentMeta) : SegmentMeta :=
  { segment with
    synced :=
      if segment.pendingRecords = 0 ∨ config.syncPolicy = .none then
        segment.synced
      else
        segment.file.length
    pendingRecords := 0
    pendingBytes := 0 }

def synced (config : SegmentedEventStoreConfig) (state : SegmentedState) : SegmentedState :=
  { state with
    completed := state.completed.map (syncedSegment config)
    active := syncedSegment config state.active
    pendingRecords := 0
    pendingBytes := 0 }

theorem holds_syncedSegment {segment : SegmentMeta} {id : Nat} {records : List EventRecord}
    (h : segment.Holds ext id records) : (syncedSegment config segment).Holds ext id records where
  id_eq := h.id_eq
  path_eq := h.path_eq
  file_eq := h.file_eq
  byteCount_eq := h.byteCount_eq
  recordCount_eq := h.recordCount_eq
  pendingRecords_le := Nat.zero_le _
  pendingBytes_le := Nat.zero_le _
  pendingBytes_eq_zero := fun _ => rfl

theorem sum_map_eq_zero (f : SegmentMeta → Nat) (segments : List SegmentMeta)
    (hf : ∀ segment, f (syncedSegment config segment) = 0) :
    ((segments.map (syncedSegment config)).map f).sum = 0 := by
  induction segments with
  | nil => rfl
  | cons segment segments ih =>
    rw [List.map_cons, List.map_cons, List.sum_cons, ih, hf]

theorem sum_segments (f : SegmentMeta → Nat) (state : SegmentedState) :
    (state.segments.map f).sum = (state.completed.map f).sum + f state.active := by
  simp [SegmentedState.segments]

theorem segments_synced (state : SegmentedState) :
    (synced config state).segments = state.segments.map (syncedSegment config) := by
  simp [SegmentedState.segments, synced]

theorem represents_synced (h : state.Represents ext config l) :
    (synced config state).Represents ext config l where
  live := h.live
  written := h.written
  completed := h.completed.map _ (fun _ _ _ => holds_syncedSegment)
  active := holds_syncedSegment h.active
  pendingRecords_eq := by
    rw [segments_synced, sum_map_eq_zero _ _ (fun _ => rfl)]
    rfl
  pendingBytes_eq := by
    rw [segments_synced, sum_map_eq_zero _ _ (fun _ => rfl)]
    rfl

def fileSynced (config : SegmentedEventStoreConfig) (segment : SegmentMeta) : SegmentMeta :=
  { segment with synced := (syncedSegment config segment).synced }

theorem syncSegment_success {segment : SegmentMeta} (h : segment.file.length = segment.byteCount) :
    syncSegment config (fun _ => none) segment = .ok (fileSynced config segment) := by
  unfold syncSegment fileSynced syncedSegment
  by_cases hpending : segment.pendingRecords = 0
  . rw [if_pos hpending, if_pos (.inl hpending)]
  . by_cases hpolicy : config.syncPolicy = .none
    . simp [hpending, hpolicy, h]
    . simp [hpending, hpolicy, h]

theorem mapM_syncSegment_success {segments : List SegmentMeta}
    (h : segments.all (fun segment => segment.file.length == segment.byteCount) = true) :
    segments.mapM (syncSegment config (fun _ => none)) = .ok (segments.map (fileSynced config)) := by
  induction segments with
  | nil => rfl
  | cons segment segments ih =>
    simp only [List.all_cons, Bool.and_eq_true, beq_iff_eq] at h
    rw [List.mapM_cons, syncSegment_success h.1, ih h.2]
    rfl

theorem settleSegment_fileSynced {segment : SegmentMeta} {pending : Nat × Nat}
    (hzero : segment.pendingRecords = 0 → segment.pendingBytes = 0)
    (hrecords : segment.pendingRecords ≤ pending.1) (hbytes : segment.pendingBytes ≤ pending.2) :
    settleSegment pending (fileSynced config segment)
      =
    some ((pending.1 - segment.pendingRecords, pending.2 - segment.pendingBytes),
      syncedSegment config segment) := by
  unfold settleSegment fileSynced
  by_cases hpending : segment.pendingRecords = 0
  . have hbytes := hzero hpending
    simp [hpending, hbytes, syncedSegment]
  . simp [hpending, hrecords, hbytes, syncedSegment]

theorem settleSegments_fileSynced {segments : List SegmentMeta} {pending : Nat × Nat}
    (hzero : ∀ segment ∈ segments, segment.pendingRecords = 0 → segment.pendingBytes = 0)
    (hrecords : (segments.map (·.pendingRecords)).sum ≤ pending.1)
    (hbytes : (segments.map (·.pendingBytes)).sum ≤ pending.2) :
    settleSegments pending (segments.map (fileSynced config))
      =
    some ((pending.1 - (segments.map (·.pendingRecords)).sum,
      pending.2 - (segments.map (·.pendingBytes)).sum), segments.map (syncedSegment config)) := by
  induction segments generalizing pending with
  | nil => rfl
  | cons segment segments ih =>
    simp only [List.map_cons, List.sum_cons] at hrecords hbytes ⊢
    rw [settleSegments]
    rw [settleSegment_fileSynced (hzero segment (by simp)) (by omega) (by omega)]
    simp only [Option.bind_eq_bind, Option.bind_some]
    rw [ih (fun s hs => hzero s (by simp [hs])) (by simp only; omega) (by simp only; omega)]
    simp only [Option.bind_some, Option.pure_def, Nat.sub_sub]

theorem syncChecks_success (h : state.Represents ext config l) :
    syncChecks validateAll none state = .ok () := by
  unfold syncChecks validateAllSegmentsCurrent validateStateCurrent
  simp [h.live, h.segments.all_current]

theorem settle_fileSynced (h : state.Represents ext config l) :
    settle (state.completed.map (fileSynced config)) (fileSynced config state.active) state
      = some (synced config state) := by
  have hzero : ∀ segment ∈ state.completed, segment.pendingRecords = 0 → segment.pendingBytes = 0 := by
    intro segment hmem
    obtain ⟨_, _, _, hholds⟩ := h.completed.exists_holds hmem
    exact hholds.pendingBytes_eq_zero
  have hrecords := h.pendingRecords_eq
  have hbytes := h.pendingBytes_eq
  rw [sum_segments] at hrecords hbytes
  unfold settle
  rw [settleSegments_fileSynced hzero (by simp only; omega) (by simp only; omega)]
  simp only [Option.bind_eq_bind, Option.bind_some]
  rw [settleSegment_fileSynced h.active.pendingBytes_eq_zero (by simp only; omega) (by simp only; omega)]
  simp only [Option.bind_some, Option.pure_def, synced, Option.some.injEq]
  congr 1
  . omega
  . omega

theorem syncPendingUnderGate_success (h : state.Represents ext config l) :
    syncPendingUnderGate config validateAll .success state = (.ok (), synced config state) := by
  have htargets : syncTargets config .success state
      = .ok (state.completed.map (fileSynced config), fileSynced config state.active) := by
    unfold syncTargets SyncIo.success
    rw [mapM_syncSegment_success h.completed.all_current]
    rw [syncSegment_success h.active.byteCount_eq.symm]
    rfl
  unfold syncPendingUnderGate
  have hbefore : syncChecks validateAll SyncIo.success.before state = .ok () := syncChecks_success h
  have hafter : syncChecks validateAll SyncIo.success.after (synced config state) = .ok () :=
    syncChecks_success (represents_synced h)
  simp only [hbefore, h.live, htargets, settle_fileSynced h, hafter, Bool.false_eq_true, ↓reduceIte]

end Sync

section Append

theorem validate_eq_ok (h : config.validate = .ok ()) :
    config.limits.validate = .ok ()
    ∧ 0 < config.maxSegmentRecords ∧ config.maxSegmentRecords ≤ EventStore.maxSegmentRecords := by
  unfold SegmentedEventStoreConfig.validate at h
  rw [Except.bind_eq_ok] at h
  obtain ⟨_, hlimits, h⟩ := h
  split_ifs at h
  refine ⟨hlimits, ?_⟩
  omega

def rotated (config : SegmentedEventStoreConfig) (state : SegmentedState) : SegmentedState :=
  { synced config state with
    completed := (synced config state).completed ++ [(synced config state).active]
    active := createSegment (state.active.id + 1) }

theorem holds_createSegment (id : Nat) : (createSegment id).Holds ext id [] where
  id_eq := rfl
  path_eq := rfl
  file_eq := rfl
  byteCount_eq := rfl
  recordCount_eq := rfl
  pendingRecords_le := Nat.le_refl _
  pendingBytes_le := Nat.le_refl _
  pendingBytes_eq_zero := fun _ => rfl

theorem represents_rotated (h : state.Represents ext config l)
    (hcap : l.segments.length < maxEventSegments) :
    (rotated config state).Represents ext config l.rotate where
  live := h.live
  written := h.written.rotate hcap
  completed := (represents_synced h).segments
  active := by
    have hid : state.active.id + 1 = l.rotate.activeId := by
      rw [h.active.id_eq]
      simp [Layout.rotate, Layout.activeId]
    change (createSegment (state.active.id + 1)).Holds ext l.rotate.activeId []
    rw [hid]
    exact holds_createSegment _
  pendingRecords_eq := by
    rw [sum_segments]
    exact (represents_synced h).pendingRecords_eq
  pendingBytes_eq := by
    rw [sum_segments]
    exact (represents_synced h).pendingBytes_eq

theorem ensureActiveSegment_of_room (elapsed : Nat)
    (h : needsRotation config encodedLen state = false) :
    ensureActiveSegment config (.success elapsed) encodedLen state = (.ok (), state) := by
  unfold ensureActiveSegment SegmentedAppendIo.success
  simp [h]

theorem ensureActiveSegment_of_cap (hstate : state.Represents ext config l) (elapsed : Nat)
    (h : needsRotation config encodedLen state = true) (hcap : maxEventSegments ≤ l.segments.length) :
    ensureActiveSegment config (.success elapsed) encodedLen state
      =
    (.error .capacityExhausted, synced config state) := by
  have hlength : (synced config state).segments.length = l.segments.length := by
    rw [(represents_synced hstate).segments.length_eq]
  unfold ensureActiveSegment SegmentedAppendIo.success
  simp only
  rw [if_pos h, syncPendingUnderGate_success hstate]
  simp only
  rw [if_pos (by omega)]

theorem ensureActiveSegment_of_full (hstate : state.Represents ext config l) (elapsed : Nat)
    (h : needsRotation config encodedLen state = true) (hcap : l.segments.length < maxEventSegments) :
    ensureActiveSegment config (.success elapsed) encodedLen state = (.ok (), rotated config state) := by
  have hlength : (synced config state).segments.length = l.segments.length := by
    rw [(represents_synced hstate).segments.length_eq]
  have hid : checkedAdd (synced config state).active.id 1 = some (state.active.id + 1) := by
    rw [checkedAdd_eq_some]
    change state.active.id + 1 = state.active.id + 1 ∧ state.active.id + 1 < _
    rw [hstate.active.id_eq]
    have hbound : maxEventSegments = 1024 := rfl
    simp only [Layout.segments, List.length_append, List.length_singleton] at hcap
    unfold Layout.activeId
    omega
  unfold ensureActiveSegment SegmentedAppendIo.success
  simp only
  rw [if_pos h, syncPendingUnderGate_success hstate]
  simp only
  rw [if_neg (by omega), hid]
  rfl

theorem sum_recordCount {id : Nat} {segments : List SegmentMeta}
    (h : SegmentsHold ext id segments layout) :
    (segments.map (·.recordCount)).sum = layout.flatten.length
    ∧ (segments.map (·.byteCount)).sum = (segmentFile ext layout.flatten).length
    ∧ (segments.map (·.pendingRecords)).sum ≤ (segments.map (·.recordCount)).sum
    ∧ (segments.map (·.pendingBytes)).sum ≤ (segments.map (·.byteCount)).sum := by
  induction h with
  | nil => simp [segmentFile]
  | @cons _ segment segments records layout hsegment _ ih =>
    have hfile : (segmentFile ext (records ++ layout.flatten)).length
        = (segmentFile ext records).length + (segmentFile ext layout.flatten).length := by
      simp [segmentFile]
    have hrecords := hsegment.recordCount_eq
    have hbytes := hsegment.byteCount_eq
    rw [hsegment.file_eq] at hbytes
    have hpendingRecords := hsegment.pendingRecords_le
    have hpendingBytes := hsegment.pendingBytes_le
    simp only [List.map_cons, List.sum_cons, List.flatten_cons, List.length_append]
    omega

theorem countersFit_of_admits (hconfig : config.validate = .ok ())
    (h : state.Represents ext config l) (hr : state.Admits ext config.limits r) :
    countersFit config r state = true := by
  obtain ⟨hlimits, _, hmaxSegment⟩ := validate_eq_ok hconfig
  obtain ⟨_, ⟨hmaxStore, _, hmaxRecords, _⟩, _⟩ := EventStoreLimits.validate_eq_ok hlimits
  obtain ⟨hrecords, hbytes, hpendingRecords, hpendingBytes⟩ := sum_recordCount h.segments
  have htotal := h.written.logged.byteCount_eq
  have htotalRecords := h.written.records_eq
  have hsegments : state.segments = state.completed ++ [state.active] := rfl
  have hfile : segmentFile ext l.segments.flatten
      = Log.frames (state.records.map (encodeRecord ext)) := by
    rw [htotalRecords]
    rfl
  rw [← h.pendingRecords_eq] at hpendingRecords
  rw [← h.pendingBytes_eq] at hpendingBytes
  rw [hfile, ← htotal] at hbytes
  rw [← htotalRecords] at hrecords
  rw [hrecords] at hpendingRecords
  rw [hbytes] at hpendingBytes
  have hactiveRecords : state.active.recordCount ≤ state.records.length := by
    rw [← hrecords, hsegments]
    simp
  have hactiveBytes : state.active.byteCount ≤ state.byteCount := by
    rw [← hbytes, hsegments]
    simp
  have h1 := hr.records_lt
  have h2 := hr.total_lt
  have h3 := hr.total_le
  have h4 := h.active.pendingRecords_le
  have h5 := h.active.pendingBytes_le
  have hbound : maxEventRecords = 1048576 := rfl
  unfold countersFit checkedAdd
  rw [if_pos hr.total_lt, if_pos (by omega), if_pos (by omega), if_pos (by omega),
    if_pos (by omega), if_pos (by omega), if_pos (by omega)]
  simpa using h3

theorem toIndexes_publish (h : state.Represents ext config l) (r : Reserved) :
    (publish r (writeActive r.encoded state)).toIndexes
      =
    state.toIndexes.publishAt r l.activeId (segmentFile ext l.active).length := by
  rw [← h.active.file_eq, ← h.active.byteCount_eq, ← h.active.id_eq]
  rfl

theorem represents_publish (h : state.Represents ext config l)
    (hr : state.Admits ext config.limits r) (hroom : l.active.length < config.maxSegmentRecords) :
    (publish r (writeActive r.encoded state)).Represents ext config (l.push r.record) where
  live := h.live
  written := by
    rw [toIndexes_publish h]
    exact h.written.publish hr hroom
  completed := h.completed
  active := {
    id_eq := h.active.id_eq
    path_eq := h.active.path_eq
    file_eq := by
      change state.active.file ++ r.encoded = segmentFile ext (l.active ++ [r.record])
      rw [segmentFile_append, h.active.file_eq, hr.encoded_eq]
    byteCount_eq := by
      change state.active.byteCount + _ = (state.active.file ++ r.encoded).length
      rw [h.active.byteCount_eq, List.length_append]
    recordCount_eq := by
      change state.active.recordCount + 1 = (l.active ++ [r.record]).length
      rw [h.active.recordCount_eq]
      simp
    pendingRecords_le := Nat.add_le_add_right h.active.pendingRecords_le 1
    pendingBytes_le := Nat.add_le_add_right h.active.pendingBytes_le _
    pendingBytes_eq_zero := by
      intro hzero
      change state.active.pendingRecords + 1 = 0 at hzero
      omega
  }
  pendingRecords_eq := by
    have hpending := h.pendingRecords_eq
    rw [sum_segments] at hpending ⊢
    simp only [publish, writeActive]
    omega
  pendingBytes_eq := by
    have hpending := h.pendingBytes_eq
    rw [sum_segments] at hpending ⊢
    simp only [publish, writeActive]
    omega

theorem commit_success (hconfig : config.validate = .ok ()) (h : state.Represents ext config l)
    (hr : state.Admits ext config.limits r) (hroom : l.active.length < config.maxSegmentRecords)
    (elapsed : Nat) :
    ∃ state', commit config (.success elapsed) r state
        = (.ok { disposition := .appended, record := r.record }, state')
      ∧ state'.Represents ext config (l.push r.record)
      ∧ state'.toIndexes = state.toIndexes.publishAt r l.activeId (segmentFile ext l.active).length
      ∧ state'.sidecars = state.sidecars := by
  have hpublished := represents_publish h hr hroom
  have hindexes := toIndexes_publish h r
  unfold commit groupCommit SegmentedAppendIo.success
  simp only
  rw [if_neg (by simp [h.active.byteCount_eq]), if_neg (by simp [countersFit_of_admits hconfig h hr])]
  by_cases hsync : shouldSync config elapsed (publish r (writeActive r.encoded state)) = true
  . rw [if_pos hsync, syncPendingUnderGate_success hpublished]
    exact ⟨_, rfl, represents_synced hpublished, hindexes, rfl⟩
  . rw [if_neg hsync]
    exact ⟨_, rfl, hpublished, hindexes, rfl⟩

theorem needsRotation_eq (h : state.Represents ext config l) :
    needsRotation config encodedLen state = l.isFull ext config encodedLen := by
  unfold needsRotation Layout.isFull
  rw [h.active.byteCount_eq, h.active.file_eq, h.active.recordCount_eq]

theorem append_success (hconfig : config.validate = .ok ()) {log : SegmentedLog}
    (h : state.Implements ext config log) (elapsed : Nat) (input : EventInput) :
    ∃ state', append ext config (.success elapsed) input state
        = ((log.accept ext config input).1, state')
      ∧ state'.Implements ext config (log.accept ext config input).2
      ∧ state'.sidecars = state.sidecars := by
  have hlog := h.represents
  have hroot : (SegmentedAppendIo.success elapsed).root = none := rfl
  unfold append SegmentedLog.accept
  rw [← h.indexes_eq]
  cases hinput : validateEventInput input config.limits with
  | error e => exact ⟨state, rfl, h, rfl⟩
  | ok _ =>
    simp only [hroot, hlog.live, Bool.false_eq_true, ↓reduceIte]
    cases hreserve : state.reserve ext config.limits input with
    | error e => exact ⟨state, rfl, h, rfl⟩
    | ok reservation =>
      cases reservation with
      | existing record => exact ⟨state, rfl, h, rfl⟩
      | reserved r =>
        have hr := (Recovered.reserve_eq_reserved hreserve).2
        simp only
        cases hfull : log.layout.isFull ext config r.encoded.length with
        | false =>
          have hroom := Layout.length_lt_of_isFull (validate_eq_ok hconfig).2.1 hfull
          obtain ⟨state', hcommit, hstate, hindexes, hsidecars⟩ :=
            commit_success hconfig hlog hr hroom elapsed
          rw [ensureActiveSegment_of_room elapsed (by rw [needsRotation_eq hlog, hfull])]
          rw [SegmentedLog.place_of_room hfull]
          simp only [hcommit]
          refine ⟨state', rfl, ⟨?_, hstate⟩, hsidecars⟩
          rw [hindexes, h.indexes_eq]
          rfl
        | true =>
          have hrotate : needsRotation config r.encoded.length state = true := by
            rw [needsRotation_eq hlog, hfull]
          by_cases hcap : log.layout.segments.length < maxEventSegments
          . have hmax := (validate_eq_ok hconfig).2.1
            obtain ⟨state', hcommit, hstate, hindexes, hsidecars⟩ :=
              commit_success hconfig (represents_rotated hlog hcap) hr hmax elapsed
            rw [ensureActiveSegment_of_full hlog elapsed hrotate hcap]
            rw [SegmentedLog.place_of_full hfull hcap]
            simp only [hcommit]
            refine ⟨state', rfl, ⟨?_, hstate⟩, hsidecars⟩
            rw [hindexes]
            change state.toIndexes.publishAt _ _ _ = _
            rw [h.indexes_eq]
            rfl
          . rw [ensureActiveSegment_of_cap hlog elapsed hrotate (not_lt.mp hcap)]
            rw [SegmentedLog.place_of_cap hfull (not_lt.mp hcap)]
            exact ⟨_, rfl, ⟨h.indexes_eq, represents_synced hlog⟩, rfl⟩

end Append

section Simulation

variable (ext config)

def fresh : SegmentedState :=
  { Indexes.empty with
    completed := []
    active := createSegment 1
    pendingRecords := 0
    pendingBytes := 0
    poisoned := false
    sidecars := { index := none, indexTemp := none, snapshot := none, snapshotTemp := none } }

def run (inputs : List (EventInput × Nat)) : SegmentedState :=
  inputs.foldl (fun state input => (append ext config (.success input.2) input.1 state).2) fresh

def results : SegmentedState → List (EventInput × Nat) → List (Except EventStoreError AppendResult)
  | _, [] => []
  | state, input :: inputs =>
    (append ext config (.success input.2) input.1 state).1
      :: results (append ext config (.success input.2) input.1 state).2 inputs

variable {ext config}

theorem represents_fresh : fresh.Represents ext config Layout.empty where
  live := rfl
  written := .empty
  completed := .nil
  active := holds_createSegment 1
  pendingRecords_eq := rfl
  pendingBytes_eq := rfl

section

variable (hconfig : config.validate = .ok ()) (h : state.Represents ext config l)
include hconfig h

theorem append_state {input : EventInput} :
    ∃ l', (append ext config (.success elapsed) input state).2.Represents ext config l'
      ∧ l.segments.length ≤ l'.segments.length
      ∧ l'.segments.length ≤ l.segments.length + 1
      ∧ (l'.segments.length < maxEventSegments →
        (append ext config (.success elapsed) input state).1 = (state.accept ext config.limits input).1
        ∧ (append ext config (.success elapsed) input state).2.toRecovered
          = (state.accept ext config.limits input).2) := by
  obtain ⟨state', happend, hstate, _⟩ := append_success hconfig h.implements elapsed input
  obtain ⟨hlower, hupper⟩ := SegmentedLog.length_accept
    { indexes := state.toIndexes, layout := l } input
  rw [happend]
  refine ⟨_, hstate.represents, hlower, hupper, ?_⟩
  intro hlt
  rw [hstate.indexes_eq]
  exact SegmentedLog.accept_eq _ _ hlt

theorem run_state {inputs : List (EventInput × Nat)} :
    ∃ l', (inputs.foldl (fun state input => (append ext config (.success input.2) input.1 state).2)
        state).Represents ext config l'
      ∧ l.segments.length ≤ l'.segments.length
      ∧ l'.segments.length ≤ l.segments.length + inputs.length := by
  induction inputs generalizing state l with
  | nil => exact ⟨l, h, Nat.le_refl _, Nat.le_refl _⟩
  | cons input inputs ih =>
    obtain ⟨l', hstate, hlower, hupper, _⟩ := append_state hconfig h
    obtain ⟨l'', hfinal, hlower', hupper'⟩ := ih hstate
    refine ⟨l'', hfinal, by omega, ?_⟩
    rw [List.length_cons]
    omega

theorem simulation (inputs : List (EventInput × Nat))
    (hcap : (inputs.foldl (fun state input => (append ext config (.success input.2) input.1 state).2)
      state).segments.length < maxEventSegments) :
    results ext config state inputs
      = DurableEventStore.results ext config.limits (.ofRecovered ext state.toRecovered) (inputs.map (·.1))
    ∧ (inputs.foldl (fun state input => (append ext config (.success input.2) input.1 state).2)
        state).toRecovered = state.acceptAll ext config.limits (inputs.map (·.1)) := by
  induction inputs generalizing state l with
  | nil => exact ⟨rfl, rfl⟩
  | cons input inputs ih =>
    obtain ⟨l', hstate, _, _, haccept⟩ := append_state hconfig h
    obtain ⟨l'', hfinal, hle, _⟩ := run_state hconfig hstate
    have hcap' : l'.segments.length < maxEventSegments := by
      rw [List.foldl_cons, hfinal.segments.length_eq] at hcap
      omega
    obtain ⟨hresult, hrecovered⟩ := haccept hcap'
    obtain ⟨hresults, hrun⟩ := ih hstate hcap
    rw [results, List.map_cons, DurableEventStore.results]
    rw [DurableEventStore.append_ofRecovered h.written.logged]
    rw [hresult, hresults, hrecovered]
    refine ⟨rfl, ?_⟩
    rw [List.foldl_cons, hrun, hrecovered]
    rfl

end

theorem run_eq_durable (ext : Externals) (config : SegmentedEventStoreConfig)
    (hconfig : config.validate = .ok ()) (inputs : List (EventInput × Nat))
    (hcap : (run ext config inputs).segments.length < maxEventSegments) :
    results ext config fresh inputs
      = DurableEventStore.results ext config.limits .fresh (inputs.map (·.1))
    ∧ (run ext config inputs).toRecovered
      = (DurableEventStore.run ext config.limits (inputs.map (·.1))).toRecovered
    ∧ (run ext config inputs).segments.flatMap (·.file)
      = (DurableEventStore.run ext config.limits (inputs.map (·.1))).file
    ∧ (∀ segment ∈ (run ext config inputs).segments, ∃ records,
        segment.file = segmentFile ext records
        ∧ segment.recordCount = records.length
        ∧ records.length ≤ config.maxSegmentRecords)
    ∧ (∀ key location, (run ext config inputs).locations.lookup key = some location →
        ∃ record ∈ (run ext config inputs).records, record.key = key
          ∧ ∃ segment ∈ (run ext config inputs).segments, segment.id = location.segmentId
            ∧ Addresses ext segment.file record location) := by
  obtain ⟨hresults, hrecovered⟩ := simulation hconfig represents_fresh inputs hcap
  obtain ⟨l, hstate, _⟩ := run_state hconfig (@represents_fresh ext config)
  change (run ext config inputs).toRecovered = _ at hrecovered
  change (run ext config inputs).Represents ext config l at hstate
  have hdurable := @DurableEventStore.run_eq ext config.limits (inputs.map (·.1))
  have hrecords := hstate.written.records_eq
  refine ⟨hresults, ?_, ?_, ?_, ?_⟩
  . rw [hdurable]
    exact hrecovered
  . rw [hdurable, hstate.segments.flatMap_file, ← hrecords, hrecovered]
    rfl
  . intro segment hsegment
    obtain ⟨_, records, hmem, hholds⟩ := hstate.segments.exists_holds hsegment
    exact ⟨records, hholds.file_eq, hholds.recordCount_eq, hstate.written.length_le records hmem⟩
  . intro key location hlookup
    obtain ⟨record, hmem, hkey⟩ := hstate.written.lookup_locations.mp hlookup
    obtain ⟨i, records, hget, hid, hrecord, haddresses⟩ := addresses_of_mem_locateSegments hmem
    obtain ⟨segment, hsegment, hholds⟩ := hstate.segments.getElem? hget
    refine ⟨record, ?_, hkey, segment, hsegment, ?_, ?_⟩
    . rw [hrecords]
      exact List.mem_flatten_of_mem (List.mem_of_getElem? hget) hrecord
    . rw [hholds.id_eq, hid]
    . rw [hholds.file_eq]
      exact haddresses

theorem length_segments_run_le (hconfig : config.validate = .ok ()) :
    (run ext config inputs).segments.length ≤ inputs.length + 1 := by
  obtain ⟨l, hstate, _, hupper⟩ := run_state hconfig (@represents_fresh ext config)
  change (run ext config inputs).Represents ext config l at hstate
  rw [hstate.segments.length_eq]
  simpa [Layout.empty, Layout.segments, Nat.add_comm] using hupper

theorem run_eq_durable_sample :
    results .reference .default fresh [(sampleInput, 0), (sampleInput, 7)]
      = DurableEventStore.results .reference .default .fresh [sampleInput, sampleInput]
    ∧ (run .reference .default [(sampleInput, 0), (sampleInput, 7)]).segments.flatMap (·.file)
      = (DurableEventStore.run .reference .default [sampleInput, sampleInput]).file := by
  have hcap : (run .reference .default [(sampleInput, 0), (sampleInput, 7)]).segments.length
      < maxEventSegments := lt_of_le_of_lt (length_segments_run_le rfl) (by decide)
  have h := run_eq_durable .reference .default rfl [(sampleInput, 0), (sampleInput, 7)] hcap
  exact ⟨h.1, h.2.2.1⟩

end Simulation

end SegmentedEventStore

end EventStore
