import Trillionnium.EventStore.Lemmas.Reachable

/-!
The writers take payloads of any depth, the decoder does not. Whether a store can be opened again is
decided by how deep the payloads in its log and in its snapshot are nested.
-/

namespace EventStore

open Json Recovered EventStoreLimits

variable {state : Recovered}

variable {ext : Externals}

namespace DurableEventStore

variable {limits : EventStoreLimits}

theorem recoverRecords_error (hlimits : limits.validate = .ok ()) (h : Logged ext limits state)
    {record : EventRecord} (hmem : record ∈ state.records)
    (hdepth : maxPayloadDepth < record.payload.value.depth) :
    ∃ e, recoverRecords ext limits (state.file ext) = .error e := by
  obtain ⟨_, hdecode⟩ := decodeRecord_of_too_deep ext record hdepth
  unfold file
  rw [recoverRecords_frames hlimits h.isLine]
  apply Except.foldlM_error (List.mem_map_of_mem hmem)
  intro recovered
  obtain ⟨e, herror⟩ := @Recovered.replayLine_eq_error ext limits recovered record
    "store sequence is not contiguous" false ((encodeRecord ext record).length + 1) _ hdecode
  refine ⟨e, ?_⟩
  unfold recoverLine
  rw [herror]
  rfl

theorem openFile_eq (hlimits : limits.validate = .ok ()) (h : Logged ext limits state)
    (hpayloads : ∀ record ∈ state.records, Payload.Survives ext record.payload) :
    openFile ext limits (state.file ext) = .ok (.ofRecovered ext state) := by
  have hlength : (state.file ext).length = state.byteCount := h.byteCount_eq.symm
  have hbytes := h.replayed.byteCount_le
  have hrecover := h.recoverRecords_file hlimits (fun record hrecord =>
    h.readable hlimits hrecord (hpayloads record hrecord))
  unfold openFile
  rw [hlimits, Except.ok_bind, if_neg (by omega), hrecover, Except.ok_bind, if_neg (by omega)]
  rfl

theorem openFile_iff (hlimits : limits.validate = .ok ()) (h : Logged ext limits state)
    (hfloats : FloatsSurvive ext state.records) :
    (∃ opened, openFile ext limits (state.file ext) = .ok opened)
      ↔ ∀ record ∈ state.records, record.payload.value.depth ≤ maxPayloadDepth := by
  constructor
  . rintro ⟨opened, hopen⟩ record hrecord
    by_contra hdepth
    obtain ⟨_, herror⟩ := recoverRecords_error hlimits h hrecord (not_le.mp hdepth)
    unfold openFile at hopen
    rw [hlimits, Except.ok_bind, herror] at hopen
    split_ifs at hopen
    cases hopen
  . intro hdepth
    exact ⟨_, openFile_eq hlimits h (fun record hrecord => ⟨hfloats record hrecord, hdepth record hrecord⟩)⟩

end DurableEventStore

namespace SegmentedEventStore

variable {config : SegmentedEventStoreConfig} {state : SegmentedState}

theorem openDirectory_iff (hconfig : config.validate = .ok ()) (h : Reachable ext config state)
    (hlive : state.poisoned = false) {directory : Directory}
    (hperm : directory.Perm state.directory) :
    (∃ opened, openDirectory ext (config.withRecovery recovery) directory = .ok opened)
      ↔ (∀ record ∈ state.records, record.payload.value.depth ≤ maxPayloadDepth)
        ∧ Shallow ext state.sidecars := by
  obtain ⟨indexes, l, tail, snapshotted, hstored, hfloats⟩ := h.stored hconfig
  obtain ⟨rfl, rfl, _⟩ := hstored.live hlive
  constructor
  . rintro ⟨opened, hopen⟩
    exact depth_of_stored hconfig hstored hperm hopen
  . rintro ⟨hdepth, hsnapshot⟩
    have hopen := openDirectory_stored hconfig hstored
      (fun record hrecord => ⟨hfloats record hrecord, hdepth record hrecord⟩) hsnapshot recovery hperm
    rw [if_pos (.inl rfl)] at hopen
    exact ⟨_, hopen⟩

section Sample

theorem depth_nested (n : Nat) : (nested n).depth = n + 1 := by
  induction n with
  | zero => rfl
  | succ n ih => simp [nested, Value.depth, Value.depthFields, ih]

theorem length_write_nested {n : Nat} : (write codec (nested n)).length = 6 * n + 2 := by
  induction n with
  | zero =>
    rw [nested, write]
    rfl
  | succ n ih =>
    have hkey : (writeString "a").length = 3 := by decide
    rw [nested, length_write_object]
    simp only [List.map_cons, List.map_nil, List.sum_cons, List.sum_nil, memberLength, hkey, ih]
    omega

theorem floatsReadBack_nested {n : Nat} : FloatsReadBack codec (nested n) := by
  induction n with
  | zero => simp [nested, FloatsReadBack, FloatsReadBackFields]
  | succ n ih => simp [nested, FloatsReadBack, FloatsReadBackFields, ih]

theorem validateEventInput_nestedInput (n : Nat) :
    validateEventInput (nestedInput n) .default = .ok () := by
  have hscope : validateScope sampleScope .default = .ok () := by decide
  have hid : validateId "event_id" "event-1" default.maxIdBytes = .ok () := by decide
  have hkind : validateText "kind" "job.started" default.maxKindBytes = .ok () := by
    decide
  have hobject : requireObject (nestedInput n).payload = .ok () := by
    cases n with
    | zero | succ _ => rfl
  change (validateScope sampleScope .default >>= fun _ =>
    validateId "event_id" "event-1" default.maxIdBytes >>= fun _ =>
      validateText "kind" "job.started" default.maxKindBytes >>= fun _ =>
        requireObject (nestedInput n).payload) = .ok ()
  rw [hscope, hid, hkind, hobject]
  rfl

theorem reserve_nestedInput (ext : Externals) {n : Nat} (hn : n ≤ 1000) :
    ∃ r, empty.reserve ext .default (nestedInput n) = .ok (.reserved r) := by
  have hvalid := (validateRecord_eq_ok ext).mp (@Recovered.validateRecord_nextRecord ext _ empty _
    (validateEventInput_nestedInput n) isSha256_zeroSha256)
  have hstoreSeq : (empty.nextRecord ext (nestedInput n)).storeSeq = 0 := rfl
  have hturnSeq : (empty.nextRecord ext (nestedInput n)).turnSeq = 0 := rfl
  have hlength := hvalid.length_encodeRecord_le (by omega) (by omega)
  have hpayload : (write ext.float (empty.nextRecord ext (nestedInput n)).payload.value).length
      = 6 * n + 2 := length_write_nested
  have hid : default.maxIdBytes = 256 := rfl
  have hkind : default.maxKindBytes = 256 := rfl
  have hrecord : default.maxRecordBytes = 32 * 1024 * 1024 := rfl
  have hstore : default.maxStoreBytes = 512 * 1024 * 1024 := rfl
  have hbytes : empty.byteCount = 0 := rfl
  have hnext : HashMap.getD empty.nextTurnSeq (nestedInput n).scope 0 = 0 := rfl
  rw [hpayload, hid, hkind] at hlength
  exact reserve_eq_ok (validateEventInput_nestedInput n) isSha256_zeroSha256 rfl
    (by decide) (by omega) (by omega) (by omega) (by omega)

theorem accept_nestedInput (ext : Externals) {n : Nat} (hn : n ≤ 1000) :
    ∃ r, r.record.payload = (nestedInput n).payload
      ∧ empty.accept ext .default (nestedInput n)
        = (.ok { disposition := .appended, record := r.record }, empty.publishReserved r) := by
  obtain ⟨r, hreserve⟩ := reserve_nestedInput ext hn
  refine ⟨r, ?_, ?_⟩
  . rw [(reserve_eq_reserved hreserve).1]
    rfl
  . unfold accept
    rw [validateEventInput_nestedInput, hreserve]

theorem append_nestedInput (ext : Externals) {n : Nat} (hn : n ≤ 1000) :
    ∃ record l, record.payload = (nestedInput n).payload
      ∧ (append ext .default (.success 0) (nestedInput n) fresh).1
        = .ok { disposition := .appended, record := record }
      ∧ (append ext .default (.success 0) (nestedInput n) fresh).2.Represents ext .default l
      ∧ (append ext .default (.success 0) (nestedInput n) fresh).2.records = [record]
      ∧ (append ext .default (.success 0) (nestedInput n) fresh).2.sidecars = fresh.sidecars := by
  obtain ⟨r, hreserve⟩ := reserve_nestedInput ext hn
  have haccept : SegmentedLog.accept ext .default { indexes := fresh.toIndexes, layout := .empty }
      (nestedInput n) = _ :=
    SegmentedLog.accept_of_reserved (validateEventInput_nestedInput n) hreserve
  rw [SegmentedLog.place_of_room (by simp [Layout.isFull, Layout.empty])] at haccept
  obtain ⟨state', happend, hstate, hsidecars⟩ :=
    append_success rfl (@represents_fresh ext .default).implements 0 (nestedInput n)
  rw [haccept] at happend hstate
  rw [happend]
  refine ⟨r.record, _, ?_, rfl, hstate.represents, ?_, hsidecars⟩
  . rw [(reserve_eq_reserved hreserve).1]
    rfl
  . rw [hstate.indexes_eq]
    rfl

theorem checkpoint_success {l : Layout} (h : state.Represents ext config l)
    (hsnapshot : state.sidecars.snapshotTemp = none) (hindex : state.sidecars.indexTemp = none) :
    ∃ state', checkpoint ext config .success .success .success state
        = (.ok (snapshotFromState state'), state')
      ∧ state'.poisoned = false ∧ state'.records = state.records
      ∧ state'.sidecars.snapshot = some (snapshotFile ext state.records) := by
  have hchecks : ∀ {state' : SegmentedState}, state'.Represents ext config l →
      validateAllSegmentsCurrent none state' = .ok () := by
    intro state' h'
    unfold validateAllSegmentsCurrent validateStateCurrent
    simp [h'.live, h'.segments.all_current]
  have hsynced := represents_synced h
  have hmanifest : snapshotManifest (synced config state) = snapshotOf ext state.records := by
    rw [hsynced.snapshotManifest_eq, ← h.written.records_eq]
  unfold checkpoint
  rw [syncPendingUnderGate_success h]
  simp only
  unfold writeSnapshot writeIndexManifest atomicSidecarWrite SidecarIo.success
  rw [hchecks hsynced]
  simp only
  rw [if_neg (by simp [synced, hsnapshot])]
  simp only
  rw [hchecks (represents_sidecars hsynced)]
  simp only
  rw [if_neg (by simp [synced, hindex])]
  refine ⟨_, rfl, h.live, rfl, ?_⟩
  simp only [hmanifest]
  rfl

end Sample

theorem strict_open_iff (ext : Externals) (config : SegmentedEventStoreConfig)
    (hconfig : config.validate = .ok ()) :
    (∀ inputs, FloatsSurvive ext (DurableEventStore.run ext config.limits inputs).records →
      ((∃ opened, DurableEventStore.openFile ext config.limits
          (DurableEventStore.run ext config.limits inputs).file = .ok opened)
        ↔ ∀ record ∈ (DurableEventStore.run ext config.limits inputs).records,
          record.payload.value.depth ≤ maxPayloadDepth))
    ∧ (∀ state directory, Reachable ext config state → state.poisoned = false →
      directory.Perm state.directory →
      ((∃ opened, openDirectory ext (config.withRecovery .strict) directory = .ok opened)
        ↔ (∀ record ∈ state.records, record.payload.value.depth ≤ maxPayloadDepth)
          ∧ (∀ records, state.sidecars.snapshot = some (snapshotFile ext records) →
            ∀ record ∈ records, record.payload.value.depth ≤ maxSnapshotDepth))) := by
  constructor
  . intro inputs hfloats
    rw [DurableEventStore.run_eq] at hfloats ⊢
    exact DurableEventStore.openFile_iff (validate_eq_ok hconfig).1 (Logged.acceptAll .empty inputs) hfloats
  . intro state directory hreachable hlive hperm
    exact openDirectory_iff hconfig hreachable hlive hperm

theorem strict_open_iff_nested :
    (∃ opened, DurableEventStore.openFile .reference .default
      (DurableEventStore.run .reference .default [nestedInput 125]).file = .ok opened)
    ∧ (∃ opened, openDirectory .reference (SegmentedEventStoreConfig.default.withRecovery .strict)
      (append .reference .default (.success 0) (nestedInput 125) fresh).2.directory = .ok opened) := by
  have hpayload : ∀ record ∈ (DurableEventStore.run .reference
      SegmentedEventStoreConfig.default.limits [nestedInput 125]).records,
      record.payload = (nestedInput 125).payload := by
    intro record hrecord
    obtain ⟨_, hinput, hpayload⟩ := DurableEventStore.payload_of_mem_run hrecord
    rw [hpayload, List.mem_singleton.mp hinput]
  have hdepth : (nestedInput 125).payload.value.depth ≤ maxPayloadDepth := by
    change (nested 125).depth ≤ _
    rw [depth_nested]
    decide
  obtain ⟨record, l, hrecord, _, hstate, hrecords, hsidecars⟩ :=
    @append_nestedInput .reference 125 (by decide)
  constructor
  . apply ((strict_open_iff .reference .default rfl).1 [nestedInput 125] _).mpr
    . intro record hrecord
      rw [hpayload record hrecord]
      exact hdepth
    . intro record hrecord
      rw [hpayload record hrecord]
      exact floatsReadBack_nested
  . apply ((strict_open_iff .reference .default rfl).2 _ _
      (.append .fresh _ floatsReadBack_nested) hstate.live (List.Perm.refl _)).mpr
    constructor
    . intro other hother
      rw [hrecords, List.mem_singleton] at hother
      rw [hother, hrecord]
      exact hdepth
    . intro records hsnapshot
      rw [hsidecars] at hsnapshot
      cases hsnapshot

theorem strict_open_deep_payload :
    (∃ record, (DurableEventStore.append .reference .default .success (nestedInput 126) .fresh).1
        = .ok { disposition := .appended, record := record })
    ∧ (¬∃ opened, DurableEventStore.openFile .reference .default
        (DurableEventStore.append .reference .default .success (nestedInput 126) .fresh).2.file = .ok opened)
    ∧ (∃ record, (append .reference .default (.success 0) (nestedInput 126) fresh).1
        = .ok { disposition := .appended, record := record })
    ∧ (¬∃ opened, openDirectory .reference (SegmentedEventStoreConfig.default.withRecovery .strict)
        (append .reference .default (.success 0) (nestedInput 126) fresh).2.directory = .ok opened)
    ∧ (∃ opened, openDirectory .reference (SegmentedEventStoreConfig.default.withRecovery .strict)
        (append .reference .default (.success 0) (nestedInput 124) fresh).2.directory = .ok opened)
    ∧ (∃ snapshot, (checkpoint .reference .default .success .success .success
        (append .reference .default (.success 0) (nestedInput 124) fresh).2).1 = .ok snapshot)
    ∧ (¬∃ opened, openDirectory .reference (SegmentedEventStoreConfig.default.withRecovery .strict)
        (checkpoint .reference .default .success .success .success
          (append .reference .default (.success 0) (nestedInput 124) fresh).2).2.directory = .ok opened) := by
  obtain ⟨r, hr, haccept⟩ := @accept_nestedInput .reference 126 (by decide)
  have happend := @DurableEventStore.append_ofRecovered .reference .default empty .empty
    (nestedInput 126)
  change DurableEventStore.append .reference .default .success (nestedInput 126) .fresh = _ at happend
  rw [haccept] at happend
  have hlogged : Logged .reference .default (empty.publishReserved r) := by
    have := Logged.accept (.empty : Logged .reference .default _) (nestedInput 126)
    rw [haccept] at this
    exact this
  obtain ⟨record, l, hrecord, hresult, hstate, hrecords, _⟩ :=
    @append_nestedInput .reference 126 (by decide)
  obtain ⟨record', l', hrecord', _, hstate', hrecords', hsidecars'⟩ :=
    @append_nestedInput .reference 124 (by decide)
  have htemp : (append .reference .default (.success 0) (nestedInput 124) fresh).2.sidecars.snapshotTemp
      = none := by rw [hsidecars']; rfl
  have htemp' : (append .reference .default (.success 0) (nestedInput 124) fresh).2.sidecars.indexTemp
      = none := by rw [hsidecars']; rfl
  obtain ⟨final, hcheckpoint, hlive, _, hsnapshot⟩ := checkpoint_success hstate' htemp htemp'
  have hreachable : ∀ n, Reachable .reference .default
      (append .reference .default (.success 0) (nestedInput n) fresh).2 := fun n =>
    .append .fresh _ floatsReadBack_nested
  have hdeep : ∀ n, (nestedInput n).payload.value.depth = n + 1 := depth_nested
  have hmax : maxPayloadDepth = 126 := rfl
  have hmax' : maxSnapshotDepth = 124 := rfl
  refine ⟨⟨r.record, by rw [happend]⟩, ?_, ⟨record, hresult⟩, ?_, ?_, ⟨_, congrArg Prod.fst hcheckpoint⟩, ?_⟩
  . rw [happend]
    rintro ⟨opened, hopen⟩
    have hle := (DurableEventStore.openFile_iff rfl hlogged (by
      intro other hother
      rw [List.mem_singleton.mp hother, hr]
      exact floatsReadBack_nested)).mp ⟨opened, hopen⟩ r.record (List.mem_singleton.mpr rfl)
    rw [hr, hdeep] at hle
    omega
  . rintro ⟨opened, hopen⟩
    have hle := ((openDirectory_iff rfl (hreachable 126) hstate.live (List.Perm.refl _)).mp
      ⟨opened, hopen⟩).1 record (by rw [hrecords]; simp)
    rw [hrecord, hdeep] at hle
    omega
  . apply (openDirectory_iff rfl (hreachable 124) hstate'.live (List.Perm.refl _)).mpr
    constructor
    . intro other hother
      rw [hrecords', List.mem_singleton] at hother
      rw [hother, hrecord', hdeep]
      omega
    . intro records hfile
      rw [hsidecars'] at hfile
      cases hfile
  . rw [hcheckpoint]
    rintro ⟨opened, hopen⟩
    have hfinal : Reachable .reference .default final := by
      have := (hreachable 124).checkpoint .success .success .success
      rw [hcheckpoint] at this
      exact this
    have hle := ((openDirectory_iff rfl hfinal hlive (List.Perm.refl _)).mp
      ⟨opened, hopen⟩).2 _ hsnapshot record' (by rw [hrecords']; simp)
    rw [hrecord', hdeep] at hle
    omega

end SegmentedEventStore

end EventStore
