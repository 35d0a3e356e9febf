import Trillionnium.EventStore.Lemmas.Nesting

/-!
A sidecar that a store wrote is accepted with the log it finds later, and an accepted index says of a
prefix of the log nothing but what the log says.
-/

namespace EventStore

open Json Except

variable {ext : Externals} {config : SegmentedEventStoreConfig} {l : Layout} {indexes : Indexes}

section Index

variable {recovered : SegmentedRecovered} {perSegment perSegment' : HashMap Nat (Nat × Nat)}

def IsListed (recovered : SegmentedRecovered) (position : Nat) (entry : IndexManifestEntry) : Prop :=
  recovered.locations.lookup ⟨entry.scope, entry.eventId⟩ = some entry.location
    ∧ ∃ record, recovered.records[position]? = some record
      ∧ record.scope = entry.scope ∧ record.eventId = entry.eventId

theorem isListed_of_validateIndexEntry {entry : IndexManifestEntry}
    (h : validateIndexEntry config recovered segments perSegment position entry = .ok perSegment') :
    IsListed recovered position entry ∧ perSegment' = count perSegment entry.location := by
  unfold validateIndexEntry at h
  obtain ⟨_, _, h⟩ := bind_eq_ok.mp h
  obtain ⟨_, _, h⟩ := bind_eq_ok.mp h
  obtain ⟨_, h⟩ := error_ite_eq_ok.mp h
  split at h
  next => cases h
  next location hlookup =>
    obtain ⟨hlocation, h⟩ := error_ite_eq_ok.mp h
    rw [not_not.mp hlocation] at hlookup
    split at h
    next => cases h
    next record hrecord =>
      obtain ⟨hidentity, h⟩ := error_ite_eq_ok.mp h
      obtain ⟨_, h⟩ := error_ite_eq_ok.mp h
      rw [not_or, not_not, not_not] at hidentity
      split at h
      next => cases h
      next =>
        obtain ⟨_, h⟩ := error_ite_eq_ok.mp h
        dsimp only at h
        split at h
        next => cases h
        next records hrecords =>
          split at h
          next => cases h
          next bytes hbytes =>
            obtain ⟨rfl, _⟩ := checkedAdd_eq_some.mp hrecords
            obtain ⟨rfl, _⟩ := checkedAdd_eq_some.mp hbytes
            exact ⟨⟨hlookup, record, hrecord, hidentity⟩, (ok.inj h).symm⟩

theorem isListed_of_validateIndexEntries {done : List IndexManifestEntry}
    (htally : ∀ id, HashMap.getD perSegment id (0, 0) = tally (done.map (·.location)) id)
    (h : validateIndexEntries config recovered segments perSegment done.length entries
      = .ok perSegment') :
    (∀ i entry, entries[i]? = some entry → IsListed recovered (done.length + i) entry)
      ∧ ∀ id, HashMap.getD perSegment' id (0, 0)
        = tally ((done ++ entries).map (·.location)) id := by
  induction entries generalizing done perSegment with
  | nil =>
    cases h
    rw [List.append_nil]
    exact ⟨fun _ _ hentry => absurd hentry (by simp), htally⟩
  | cons entry entries ih =>
    rw [validateIndexEntries] at h
    obtain ⟨next, hentry, h⟩ := bind_eq_ok.mp h
    obtain ⟨hlisted, rfl⟩ := isListed_of_validateIndexEntry hentry
    have hlength : done.length + 1 = (done ++ [entry]).length := by simp
    rw [hlength] at h
    obtain ⟨hrest, hfinal⟩ := ih (by simpa using tally_count htally entry.location) h
    rw [List.append_assoc] at hfinal
    refine ⟨?_, hfinal⟩
    intro i other hother
    cases i with
    | zero =>
      cases hother
      exact hlisted
    | succ i =>
      have := hrest i other hother
      rw [← hlength, Nat.add_assoc, Nat.add_comm 1] at this
      exact this

theorem id_of_validateIndexSegments {segments : List IndexManifestSegment}
    {segment : IndexManifestSegment}
    (h : validateIndexSegments recovered position segments = .ok ())
    (hsegment : segments[i]? = some segment) : segment.id = position + i + 1 := by
  induction segments generalizing position i with
  | nil => exact absurd hsegment (by simp)
  | cons first segments ih =>
    rw [validateIndexSegments] at h
    obtain ⟨_, hfirst, h⟩ := bind_eq_ok.mp h
    cases i with
    | zero =>
      cases hsegment
      unfold validateIndexSegment at hfirst
      exact not_not.mp (error_ite_eq_ok.mp hfirst).1
    | succ i =>
      rw [ih h hsegment]
      omega

end Index

section Prefix

def lastSegment (located : List (EventRecord × SegmentLocation)) : Nat :=
  (located.getLast?.map (·.2.segmentId)).getD 1

def prefixManifest (ext : Externals) (located : List (EventRecord × SegmentLocation))
    (segments : Nat) : IndexManifest where
  schema := segmentIndexSchema
  recordCount := located.length
  byteCount := (segmentFile ext (located.map (·.1))).length
  lastRecordSha256 := Replayed.lastDigest (located.map (·.1))
  segments := (List.range segments).map fun i =>
    ⟨i + 1, (tally (located.map (·.2)) (i + 1)).2, (tally (located.map (·.2)) (i + 1)).1⟩
  entries := located.map entryOf

theorem Written.eq_entryOf (h : Written ext config indexes l) {entry : IndexManifestEntry}
    (hentry : IsListed (l.recovered ext indexes) i entry) :
    ∃ p, (l.located ext)[i]? = some p ∧ entry = entryOf p := by
  obtain ⟨hlookup, record, hrecord, hscope, heventId⟩ := hentry
  change indexes.records[i]? = some record at hrecord
  rw [h.records_eq, ← @Layout.map_fst_located ext l, List.getElem?_map] at hrecord
  obtain ⟨⟨_, location⟩, hget, rfl⟩ := Option.map_eq_some_iff.mp hrecord
  refine ⟨_, hget, ?_⟩
  have hlocation := h.lookup_locations.mpr ⟨_, List.mem_of_getElem? hget, rfl⟩
  have hkey : (⟨entry.scope, entry.eventId⟩ : EventKey) = EventRecord.key _ :=
    congrArg₂ EventKey.mk hscope.symm heventId.symm
  rw [hkey] at hlookup
  cases hlocation.symm.trans hlookup
  unfold entryOf
  rw [hscope, heventId]

theorem Written.manifest_of_validate (hlimits : config.limits.validate = .ok ())
    (h : Written ext config indexes l) {manifest : IndexManifest}
    (hvalid : validateIndexManifest config manifest (l.recovered ext indexes) = .ok ()) :
    manifest = prefixManifest ext ((l.located ext).take manifest.recordCount)
      manifest.segments.length := by
  unfold validateIndexManifest at hvalid
  obtain ⟨hschema, hvalid⟩ := error_ite_eq_ok.mp hvalid
  obtain ⟨hcount, hvalid⟩ := error_ite_eq_ok.mp hvalid
  obtain ⟨hentries, hvalid⟩ := error_ite_eq_ok.mp hvalid
  obtain ⟨_, _, hvalid⟩ := bind_eq_ok.mp hvalid
  obtain ⟨⟨bytes, digest⟩, hmetadata, hvalid⟩ := bind_eq_ok.mp hvalid
  dsimp only at hvalid
  obtain ⟨hwater, hvalid⟩ := error_ite_eq_ok.mp hvalid
  obtain ⟨_, hvalid⟩ := error_ite_eq_ok.mp hvalid
  obtain ⟨_, hvalid⟩ := error_ite_eq_ok.mp hvalid
  obtain ⟨_, hsegments, hvalid⟩ := bind_eq_ok.mp hvalid
  obtain ⟨perSegment, hperSegment, hvalid⟩ := bind_eq_ok.mp hvalid
  have hany := (error_ite_eq_ok.mp hvalid).1
  have hstart : ∀ id, HashMap.getD (∅ : HashMap Nat (Nat × Nat)) id (0, 0)
      = tally (([] : List IndexManifestEntry).map (·.location)) id := fun _ => rfl
  obtain ⟨hlisted, htally⟩ := isListed_of_validateIndexEntries hstart hperSegment
  rw [not_not] at hschema hentries
  rw [not_or, not_not, not_not] at hwater
  have hlength : (l.located ext).length = indexes.records.length := by
    rw [h.records_eq, ← @Layout.map_fst_located ext l, List.length_map]
  change ¬ manifest.recordCount > indexes.records.length at hcount
  have hmapped : manifest.entries = ((l.located ext).take manifest.recordCount).map entryOf := by
    apply List.ext_getElem?
    intro i
    rw [List.getElem?_map]
    cases hentry : manifest.entries[i]? with
    | none =>
      rw [List.getElem?_eq_none_iff] at hentry
      rw [List.getElem?_eq_none (by rw [List.length_take]; omega)]
      rfl
    | some entry =>
      have hi := (List.getElem?_eq_some_iff.mp hentry).1
      have hposition := hlisted i entry hentry
      rw [List.length_nil, Nat.zero_add] at hposition
      obtain ⟨p, hp, rfl⟩ := h.eq_entryOf hposition
      rw [List.getElem?_take_of_lt (by omega), hp]
      rfl
  have hfst : ((l.located ext).take manifest.recordCount).map (·.1)
      = indexes.records.take manifest.recordCount := by
    rw [List.map_take, Layout.map_fst_located, h.records_eq]
  have hprefix := h.recoveredPrefixMetadata_eq hlimits
    (List.take_prefix manifest.recordCount indexes.records)
  rw [List.length_take, Nat.min_eq_left (by omega), hmetadata] at hprefix
  obtain ⟨rfl, rfl⟩ := Prod.mk.inj (ok.inj hprefix)
  have hlisting : manifest.segments = (prefixManifest ext ((l.located ext).take manifest.recordCount)
      manifest.segments.length).segments := by
    apply List.ext_getElem?
    intro i
    unfold prefixManifest
    rw [List.getElem?_map]
    cases hsegment : manifest.segments[i]? with
    | none =>
      rw [List.getElem?_eq_none_iff] at hsegment
      rw [List.getElem?_eq_none (by rw [List.length_range]; exact hsegment)]
      rfl
    | some segment =>
      have hi := (List.getElem?_eq_some_iff.mp hsegment).1
      have hid := id_of_validateIndexSegments hsegments hsegment
      have hsame := List.any_eq_false.mp (Bool.eq_false_iff.mpr hany) segment
        (List.mem_of_getElem? hsegment)
      rw [bne_iff_ne, not_not, htally, List.nil_append, hmapped, List.map_map] at hsame
      change tally (((l.located ext).take manifest.recordCount).map (·.2)) segment.id = _ at hsame
      rw [List.getElem?_range hi, Option.map_some]
      rw [hid, Nat.zero_add] at hsame
      rw [hsame]
      cases segment
      rw [Nat.zero_add] at hid
      cases hid
      rfl
  obtain ⟨schema, recordCount, byteCount, lastRecordSha256, segments, entries⟩ := manifest
  dsimp only at *
  rw [hschema, hwater.1, hwater.2, hmapped, ← hfst]
  nth_rewrite 1 [hlisting]
  unfold prefixManifest
  rw [List.length_take, hlength, Nat.min_eq_left (by omega)]

end Prefix

namespace SegmentedEventStore

def recoverDirectory (ext : Externals) (config : SegmentedEventStoreConfig) (directory : Directory) :
    Except EventStoreError SegmentedRecovered := do
  let found ← discoverSegments directory
  recoverSegmentedSegments ext config (openSegments found)

variable {state : SegmentedState} {tail : Bytes} {snapshotted : List EventRecord}
  {directory : Directory}

theorem recoverDirectory_eq (h : state.Stored ext config indexes l tail snapshotted)
    (hperm : directory.Perm state.directory) :
    recoverDirectory ext (config.withRecovery recovery) directory
      = recoverSegmentedSegments ext (config.withRecovery recovery) (l.open ext tail) := by
  have hnumbered : Numbered (l.open ext tail) := l.numbered_open h.written.length_segments_le tail
  rw [h.directory_eq] at hperm
  unfold recoverDirectory
  rw [hnumbered.discoverSegments_eq hperm, ok_bind, openSegments_open]

theorem recovered_of_stored (hconfig : config.validate = .ok ())
    (h : state.Stored ext config indexes l tail snapshotted)
    (hfloats : FloatsSurvive ext indexes.records) (hperm : directory.Perm state.directory)
    (hrecover : recoverDirectory ext (config.withRecovery recovery) directory = .ok recovered) :
    recovered = l.recovered ext indexes := by
  have hlimits : (config.withRecovery recovery).limits.validate = .ok () :=
    (validate_eq_ok hconfig).1
  have hwritten := h.written.withRecovery recovery
  rw [recoverDirectory_eq h hperm] at hrecover
  have hread : ∀ record ∈ indexes.records, Readable ext record := by
    intro record hrecord
    apply hwritten.logged.readable hlimits hrecord ⟨hfloats record hrecord, ?_⟩
    by_contra hdepth
    obtain ⟨_, hdecode⟩ := decodeRecord_of_too_deep ext record (not_le.mp hdepth)
    obtain ⟨_, herror⟩ := hwritten.recover_error hlimits hrecord hdecode tail
    rw [herror] at hrecover
    cases hrecover
  cases h.torn with
  | inl hnil =>
    rw [hnil, hwritten.recover hlimits hread] at hrecover
    exact (ok.inj hrecover).symm
  | inr htorn =>
    rw [hwritten.recover_torn hlimits hread htorn] at hrecover
    split at hrecover
    next => exact (ok.inj hrecover).symm
    next => cases hrecover

theorem exists_checkpoint_nested (hn : n ≤ 125) : ∃ state record recovered,
    Reachable .reference .default state
      ∧ recoverDirectory .reference (SegmentedEventStoreConfig.default.withRecovery .strict)
        state.directory = .ok recovered
      ∧ state.sidecars.snapshot = some (snapshotFile .reference [record])
      ∧ record.payload = (nestedInput n).payload := by
  obtain ⟨record, l, hrecord, _, hstate, hrecords, hsidecars⟩ :=
    @append_nestedInput .reference n (by omega)
  obtain ⟨final, hcheckpoint, hlive, hfinal, hsnapshot⟩ := checkpoint_success hstate
    (by rw [hsidecars]; rfl) (by rw [hsidecars]; rfl)
  have happended : Reachable .reference .default
      (append .reference .default (.success 0) (nestedInput n) fresh).2 :=
    .append .fresh _ floatsReadBack_nested
  have hreachable := happended.checkpoint .success .success .success
  rw [hcheckpoint] at hreachable
  obtain ⟨indexes, l', tail, snapshotted, hstored, hfloats⟩ := hreachable.stored rfl
  obtain ⟨rfl, rfl, _⟩ := hstored.live hlive
  rw [hrecords] at hfinal hsnapshot
  refine ⟨final, record, l'.recovered .reference final.toIndexes, hreachable, ?_, hsnapshot,
    hrecord⟩
  rw [recoverDirectory_eq hstored (.refl _)]
  apply (hstored.written.withRecovery .strict).recover rfl
  intro other hother
  apply hstored.written.logged.readable rfl hother ⟨hfloats other hother, ?_⟩
  change other ∈ final.records at hother
  rw [hfinal, List.mem_singleton] at hother
  rw [hother, hrecord]
  exact (depth_nested n).trans_le (Nat.succ_le_succ hn)

theorem sidecars_agree_iff (hconfig : config.validate = .ok ()) (h : Reachable ext config state)
    (hperm : directory.Perm state.directory)
    (hrecover : recoverDirectory ext (config.withRecovery recovery) directory = .ok recovered) :
    validateIndexSidecar ext config state.sidecars.index recovered = .ok ()
    ∧ (validateSnapshotSidecar ext config state.sidecars.snapshot recovered = .ok ()
      ↔ ∀ records, state.sidecars.snapshot = some (snapshotFile ext records) →
        ∀ record ∈ records, record.payload.value.depth ≤ maxSnapshotDepth)
    ∧ ∃ layout, recovered.segmentSummaries = summariesOf ext 1 layout
      ∧ recovered.records = layout.flatten
      ∧ ∀ manifest, validateIndexManifest config manifest recovered = .ok () →
        let located := (locateSegments ext 1 layout).take manifest.recordCount
        (manifest = prefixManifest ext located (lastSegment located)
          ↔ manifest.segments.length = lastSegment located) := by
  have hlimits := (validate_eq_ok hconfig).1
  obtain ⟨indexes, l, tail, snapshotted, hstored, hfloats⟩ := h.stored hconfig
  cases recovered_of_stored hconfig hstored hfloats hperm hrecover
  refine ⟨hstored.sidecars.validateIndexSidecar_eq hlimits hstored.written, ⟨?_, ?_⟩,
    l.segments, rfl, hstored.written.records_eq, ?_⟩
  . intro hvalid records hfile record hrecord
    by_contra hdepth
    obtain ⟨_, herror⟩ := validateSnapshotSidecar_error hrecord (not_le.mp hdepth) _
    rw [hfile, herror] at hvalid
    cases hvalid
  . intro hshallow
    apply hstored.sidecars.validateSnapshotSidecar_eq hlimits hstored.written _
      (hstored.sidecars.forall_snapshotted hshallow)
    intro record hrecord
    have hmem := hstored.sidecars.snapshotted_subset record hrecord
    rw [← hstored.written.records_eq] at hmem
    exact hfloats record hmem
  . intro manifest hvalid located
    have hmanifest := hstored.written.manifest_of_validate hlimits hvalid
    constructor
    . intro heq
      have hlength := congrArg (·.segments.length) heq
      simpa [prefixManifest] using hlength
    . intro hlength
      rw [← hlength]
      exact hmanifest

theorem sidecars_agree_iff_nested : ∃ (state : SegmentedState) (recovered : _),
    state.sidecars.snapshot ≠ none
      ∧ validateIndexSidecar .reference .default state.sidecars.index recovered = .ok () := by
  obtain ⟨state, record, recovered, hreachable, hrecover, hsnapshot, _⟩ :=
    exists_checkpoint_nested (Nat.zero_le 125)
  refine ⟨state, recovered, ?_, (sidecars_agree_iff rfl hreachable (.refl _) hrecover).1⟩
  rw [hsnapshot]
  exact Option.some_ne_none _

theorem snapshot_deep_payload_refused : ∃ state recovered,
    Reachable .reference .default state
      ∧ recoverDirectory .reference (SegmentedEventStoreConfig.default.withRecovery .strict)
        state.directory = .ok recovered
      ∧ validateSnapshotSidecar .reference .default state.sidecars.snapshot recovered ≠ .ok () := by
  obtain ⟨state, record, recovered, hreachable, hrecover, hsnapshot, hpayload⟩ :=
    exists_checkpoint_nested (Nat.le_succ 124)
  have hdeep : maxSnapshotDepth < record.payload.value.depth := by
    rw [hpayload]
    exact (depth_nested 124).symm ▸ Nat.lt_succ_self 124
  obtain ⟨_, herror⟩ := validateSnapshotSidecar_error (List.mem_singleton_self record) hdeep recovered
  refine ⟨state, recovered, hreachable, hrecover, ?_⟩
  rw [hsnapshot, herror]
  intro heq
  cases heq

end SegmentedEventStore

end EventStore
