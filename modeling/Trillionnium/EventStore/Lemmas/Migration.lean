import Trillionnium.EventStore.Impl.Migration
import Trillionnium.EventStore.Lemmas.Nesting

/-!
A migration appends records of the source that the destination does not have yet. The writer of the
destination computes the same sequence numbers and digests for them as the one of the source did.
-/

namespace EventStore

open Json List

variable {ext : Externals} {limits : EventStoreLimits}

section Log

variable {state : Recovered} {record : EventRecord}

theorem Recovered.Extends.nextRecord_eq (h : state.Extends ext limits record consumed) :
    state.nextRecord ext record.input = record := by
  have hvalid := (validateRecord_eq_ok ext).mp h.valid
  have hdigest : recordDigest ext (state.nextRecord ext record.input) = recordDigest ext record := by
    unfold recordDigest EventRecord.preimageFields
    rw [h.storeSeq_eq, h.turnSeq_eq, h.previous_eq, ← hvalid.payloadDigest]
    rfl
  apply EventRecord.ext
  . exact hvalid.schema.symm
  . exact h.storeSeq_eq.symm
  . exact h.turnSeq_eq.symm
  . rfl
  . rfl
  . rfl
  . rfl
  . exact hvalid.payloadDigest
  . exact h.previous_eq.symm
  . rw [← hvalid.recordDigest, ← hdigest]
    rfl

theorem validateEventInput_input (h : ValidRecord ext record limits) :
    validateEventInput record.input limits = .ok () := by
  unfold validateEventInput EventRecord.input
  rw [h.scope, h.eventId, h.kind]
  exact h.payload

theorem Recovered.Admits.reserve_eq (h : state.Admits ext limits r)
    (hlast : IsSha256 state.lastRecordSha256) :
    state.reserve ext limits r.record.input = .ok (.reserved r) := by
  have hnext := h.nextRecord_eq
  have hvalid := (validateRecord_eq_ok ext).mp h.valid
  have htotal_lt := h.total_lt
  have htotal_le := h.total_le
  have hturn := h.turnSeq_lt
  rw [h.encoded_eq, Log.length_frame] at htotal_lt htotal_le
  rw [h.turnSeq_eq] at hturn
  obtain ⟨r', hreserve⟩ := Recovered.reserve_eq_ok (validateEventInput_input hvalid) hlast
    h.key_fresh h.records_lt hturn (by rw [hnext]; exact h.length_le) (by rw [hnext]; exact htotal_lt)
    (by rw [hnext]; exact htotal_le)
  obtain ⟨hrecord, hr'⟩ := Recovered.reserve_eq_reserved hreserve
  rw [hnext] at hrecord
  have heq : r' = r := by
    have hencoded : r'.encoded = r.encoded := by
      rw [hr'.encoded_eq, h.encoded_eq, hrecord]
    have hturnSeq : r'.nextTurnSeq = r.nextTurnSeq := by
      rw [hr'.nextTurnSeq_eq, h.nextTurnSeq_eq, hrecord]
    cases r'
    cases r
    simp_all
  rw [hreserve, heq]

theorem Logged.eq_of_records_eq (h : Logged ext limits state) (h' : Logged ext limits state')
    (heq : state.records = state'.records) : state = state' := by
  induction h generalizing state' with
  | empty =>
    cases h' with
    | empty => rfl
    | publish _ _ => simp [Recovered.empty, Recovered.publishReserved, Recovered.publish] at heq
  | @publish state r hstate hr ih =>
    cases h' with
    | empty => simp [Recovered.empty, Recovered.publishReserved, Recovered.publish] at heq
    | @publish state' r' hstate' hr' =>
      obtain ⟨hrecords, hrecord⟩ := append_inj' heq rfl
      rw [cons.injEq] at hrecord
      rw [ih hstate' hrecords]
      unfold Recovered.publishReserved
      rw [hr.nextTurnSeq_eq, hr'.nextTurnSeq_eq, hr.encoded_eq, hr'.encoded_eq, hrecord.1]

theorem Logged.isSha256_last (h : Logged ext limits state) : IsSha256 state.lastRecordSha256 := by
  cases h with
  | empty => exact isSha256_zeroSha256
  | publish _ hr =>
    have hvalid := (validateRecord_eq_ok ext).mp hr.valid
    change IsSha256 (EventRecord.recordSha256 _)
    rw [← hvalid.recordDigest]
    apply isSha256_sha256Hex

end Log

variable {config : SegmentedEventStoreConfig}

section Copy

variable (ext config)

def Layout.fill (l : Layout) (records : List EventRecord) : Layout :=
  records.foldl (fun l record =>
    if l.isFull ext config ((encodeRecord ext record).length + 1) then
      l.rotate.push record
    else
      l.push record) l

namespace SegmentedLog

def copy : List EventRecord → SegmentedLog → Except EventStoreError Unit × SegmentedLog
  | [], log => (.ok (), log)
  | record :: records, log =>
    match log.accept ext config record.input with
    | (.error e, log) => (.error e, log)
    | (.ok result, log) =>
      if result.record == record then
        copy records log
      else
        (.error (.invalidRecord "legacy migration changed an event record"), log)

variable {ext config}

variable {log : SegmentedLog} {legacy : Recovered} {record : EventRecord} {records : List EventRecord}

section

variable (hlegacy : Logged ext config.limits legacy) (hlog : Logged ext config.limits log.indexes.toRecovered) (heq : legacy.records = log.indexes.records ++ record :: records)
include hlegacy hlog heq

theorem accept_input :
    ∃ r, r.record = record ∧ r.encoded.length = (encodeRecord ext record).length + 1
      ∧ log.indexes.Admits ext config.limits r
      ∧ log.accept ext config record.input = log.place ext config r := by
  obtain ⟨earlier, r, hearlier, hrecords, hr, rfl⟩ := hlegacy.exists_admits heq
  rw [hearlier.eq_of_records_eq hlog hrecords] at hr
  refine ⟨r, rfl, ?_, hr, ?_⟩
  . rw [hr.encoded_eq, Log.length_frame]
  . apply accept_of_reserved
    . exact validateEventInput_input ((validateRecord_eq_ok ext).mp hr.valid)
    . exact hr.reserve_eq hlog.isSha256_last

theorem copy_cons :
    (maxEventSegments < (log.layout.fill ext config [record]).segments.length
      ∧ ∀ rest, log.copy ext config (record :: rest) = (.error .capacityExhausted, log))
    ∨ (∃ log' : SegmentedLog, log'.layout = log.layout.fill ext config [record]
      ∧ Logged ext config.limits log'.indexes.toRecovered
      ∧ log'.indexes.records = log.indexes.records ++ [record]
      ∧ (log.layout.segments.length ≤ maxEventSegments →
        log'.layout.segments.length ≤ maxEventSegments)
      ∧ ∀ rest, log.copy ext config (record :: rest) = log'.copy ext config rest) := by
  obtain ⟨r, hrecord, hlength, hr, haccept⟩ := accept_input hlegacy hlog heq
  have hok : ∀ log', log.place ext config r
      = (.ok { disposition := .appended, record := r.record }, log') →
      ∀ rest, log.copy ext config (record :: rest) = log'.copy ext config rest := by
    intro log' hplace rest
    rw [copy, haccept, hplace]
    simp only [hrecord, EventRecord.beq_self, ↓reduceIte]
  cases hfull : log.layout.isFull ext config r.encoded.length with
  | false =>
    refine .inr ⟨log.enter ext r, ?_, hlog.publish hr, ?_, ?_, hok _ (place_of_room hfull)⟩
    . rw [hlength] at hfull
      simp [Layout.fill, hfull, enter, hrecord]
    . rw [← hrecord]
      rfl
    . intro hcap
      simpa [enter, Layout.push, Layout.segments] using hcap
  | true =>
    have hfill : log.layout.fill ext config [record] = log.layout.rotate.push record := by
      rw [hlength] at hfull
      simp [Layout.fill, hfull]
    have hsegments : (log.layout.rotate.push record).segments.length = log.layout.segments.length + 1 := by
      simp [Layout.rotate, Layout.push, Layout.segments]
    by_cases hcap : log.layout.segments.length < maxEventSegments
    . refine .inr ⟨log.rotate.enter ext r, ?_, hlog.publish hr, ?_, ?_, hok _ (place_of_full hfull hcap)⟩
      . rw [hfill, ← hrecord]
        rfl
      . rw [← hrecord]
        rfl
      . intro _
        change (log.layout.rotate.push r.record).segments.length ≤ _
        rw [hrecord, hsegments]
        omega
    . refine .inl ⟨?_, ?_⟩
      . rw [hfill, hsegments]
        omega
      . intro rest
        rw [copy, haccept, place_of_cap hfull (not_lt.mp hcap)]

end

theorem grows_fill (l : Layout) (records : List EventRecord) : l.Grows (l.fill ext config records) := by
  induction records generalizing l with
  | nil => exact .refl
  | cons record records ih =>
    have hstep : l.Grows (l.fill ext config [record]) := by
      simp only [Layout.fill, foldl_cons, foldl_nil]
      split_ifs
      . exact .push (.rotate .refl) record
      . exact .push .refl record
    exact hstep.trans (ih (l.fill ext config [record]))

theorem length_fill_le (l : Layout) (records : List EventRecord) :
    (l.fill ext config records).segments.length ≤ l.segments.length + records.length := by
  induction records generalizing l with
  | nil => exact Nat.le_refl _
  | cons record records ih =>
    have hstep : (l.fill ext config [record]).segments.length ≤ l.segments.length + 1 := by
      simp only [Layout.fill, foldl_cons, foldl_nil]
      split_ifs
      . simp [Layout.rotate, Layout.push, Layout.segments]
      . simp [Layout.push, Layout.segments]
    have htail := ih (l.fill ext config [record])
    rw [length_cons]
    change ((l.fill ext config [record]).fill ext config records).segments.length ≤ _
    omega

theorem copy_eq (hlegacy : Logged ext config.limits legacy)
    (hlog : Logged ext config.limits log.indexes.toRecovered)
    (hcap : log.layout.segments.length ≤ maxEventSegments)
    (heq : legacy.records = log.indexes.records ++ records) :
    if (log.layout.fill ext config records).segments.length ≤ maxEventSegments then
      (log.copy ext config records).1 = .ok ()
      ∧ (log.copy ext config records).2.indexes.records = legacy.records
    else
      (log.copy ext config records).1 = .error .capacityExhausted := by
  induction records generalizing log with
  | nil =>
    have hfill : log.layout.fill ext config [] = log.layout := rfl
    rw [hfill, if_pos hcap, heq, append_nil]
    exact ⟨rfl, rfl⟩
  | cons record records ih =>
    have hfill : log.layout.fill ext config (record :: records)
        = (log.layout.fill ext config [record]).fill ext config records := rfl
    rcases copy_cons hlegacy hlog heq with ⟨hfull, hcopy⟩ | ⟨log', hlayout, hlog', hrecords, hcap', hcopy⟩
    . have hlength := (@grows_fill ext config (log.layout.fill ext config [record]) records).length_le
      rw [hfill, hcopy, if_neg (by omega)]
    . rw [hfill, ← hlayout, hcopy]
      apply ih hlog' (hcap' hcap)
      rw [heq, hrecords, append_assoc]
      rfl

theorem copy_resume (hlegacy : Logged ext config.limits legacy)
    (hlog : Logged ext config.limits log.indexes.toRecovered)
    (heq : legacy.records = log.indexes.records ++ records) (k : Nat) :
    (log.copy ext config (records.take k)).2.copy ext config
        (legacy.records.drop (log.copy ext config (records.take k)).2.indexes.records.length)
      = log.copy ext config records
    ∧ (log.copy ext config (records.take k)).2.indexes.records <+: legacy.records
    ∧ log.layout.Grows (log.copy ext config (records.take k)).2.layout := by
  induction records generalizing log k with
  | nil =>
    rw [take_nil, copy, heq, drop_left]
    exact ⟨rfl, prefix_append _ _, .refl⟩
  | cons record records ih =>
    cases k with
    | zero =>
      rw [take_zero, copy.eq_1, heq, drop_left]
      exact ⟨rfl, prefix_append _ _, .refl⟩
    | succ k =>
      rw [take_succ_cons]
      rcases copy_cons hlegacy hlog heq with ⟨_, hcopy⟩ | ⟨log', hlayout, hlog', hrecords, _, hcopy⟩
      . rw [hcopy, hcopy, heq, drop_left, hcopy]
        exact ⟨rfl, prefix_append _ _, .refl⟩
      . rw [hcopy, hcopy]
        obtain ⟨hresume, hpre, hgrows⟩ := ih hlog' (by rw [heq, hrecords, append_assoc]; rfl) k
        rw [hlayout] at hgrows
        exact ⟨hresume, hpre, (grows_fill log.layout [record]).trans hgrows⟩

end SegmentedLog

end Copy

theorem SegmentedState.Implements.records_eq {state : SegmentedState}
    (h : state.Implements ext config log) : state.records = log.indexes.records := by
  rw [← h.indexes_eq]

namespace SegmentedEventStore

variable {state : SegmentedState} {log : SegmentedLog}

theorem copyLegacy_success (hconfig : config.validate = .ok ()) (h : state.Implements ext config log)
    (elapsed : Nat → Nat) (i : Nat) (records : List EventRecord) :
    ∃ state', copyLegacy ext config (fun i => .success (elapsed i)) i records state
        = ((log.copy ext config records).1, state')
      ∧ state'.Implements ext config (log.copy ext config records).2
      ∧ state'.sidecars = state.sidecars := by
  induction records generalizing state log i with
  | nil => exact ⟨state, rfl, h, rfl⟩
  | cons record records ih =>
    obtain ⟨state', happend, hstate', hsidecars⟩ := append_success hconfig h (elapsed i) record.input
    rw [copyLegacy, happend, SegmentedLog.copy]
    generalize log.accept ext config record.input = outcome at hstate'
    obtain ⟨result, log'⟩ := outcome
    cases result with
    | error e => exact ⟨state', rfl, hstate', hsidecars⟩
    | ok result =>
      simp only
      split_ifs
      . obtain ⟨final, hcopy, hfinal, hsidecars'⟩ := ih hstate' (i + 1)
        exact ⟨final, hcopy, hfinal, hsidecars'.trans hsidecars⟩
      . exact ⟨state', rfl, hstate', hsidecars⟩

def Sidecars.publishIndex (ext : Externals) (sidecars : Sidecars) (l : Layout) :
    Except EventStoreError Unit × Sidecars :=
  if sidecars.indexTemp.isSome then
    (.error (.unsafePath "event index temporary file already exists; refusing to truncate it"), sidecars)
  else
    (.ok (), { sidecars with index := some (indexFile ext l), indexTemp := none })

theorem flush_success (h : state.Implements ext config log) :
    ∃ state', flush ext config .success .success state
        = ((Sidecars.publishIndex ext state.sidecars log.layout).1, state')
      ∧ state'.Implements ext config log
      ∧ state'.pendingRecords = 0
      ∧ state'.pendingBytes = 0
      ∧ state'.sidecars = (Sidecars.publishIndex ext state.sidecars log.layout).2 := by
  have hsynced := represents_synced h.represents
  have hchecks : validateAllSegmentsCurrent none (synced config state) = .ok () := by
    unfold validateAllSegmentsCurrent validateStateCurrent
    simp [hsynced.live, hsynced.segments.all_current]
  unfold flush writeIndexManifest
  rw [syncPendingUnderGate_success h.represents]
  simp only [SidecarIo.success]
  rw [hchecks, hsynced.indexManifest_eq]
  simp only
  refine ⟨{ synced config state with
    sidecars := (Sidecars.publishIndex ext state.sidecars log.layout).2 }, ?_,
    ⟨h.indexes_eq, represents_sidecars hsynced⟩, rfl, rfl, rfl⟩
  unfold Sidecars.publishIndex atomicSidecarWrite
  simp only
  have hsidecars : (synced config state).sidecars = state.sidecars := rfl
  rw [hsidecars]
  split_ifs
  . rfl
  . rfl

section Reconcile

theorem allRecords_success (h : state.Represents ext config l) :
    allRecords none state = (.ok state.records, state) := by
  unfold allRecords withLiveState validateStateCurrent
  simp [h.live, h.segments.all_current]

def NoCollision (records records' : List EventRecord) : Prop :=
  ∀ a ∈ records, ∀ b ∈ records', a.payloadSha256 = b.payloadSha256 → a.payload = b.payload

theorem eq_of_beq {b : EventRecord} (h : (a == b) = true)
    (hpayload : a.payloadSha256 = b.payloadSha256 → a.payload = b.payload) : a = b := by
  change EventRecord.beq a b = true at h
  simp only [EventRecord.beq, Bool.and_eq_true, beq_iff_eq] at h
  obtain ⟨⟨⟨⟨⟨⟨⟨⟨⟨h1, h2⟩, h3⟩, h4⟩, h5⟩, h6⟩, _⟩, h8⟩, h9⟩, h10⟩ := h
  apply EventRecord.ext
  . exact h1
  . exact h2
  . exact h3
  . exact h4
  . exact h5
  . exact h6
  . exact hpayload h8
  . exact h8
  . exact h9
  . exact h10

theorem zip_all_beq_of_isPrefix {records records' : List EventRecord}
    (h : records <+: records' ∨ records' <+: records) :
    (records.zip records').all (fun pair => pair.1 == pair.2) = true := by
  induction records generalizing records' with
  | nil => rfl
  | cons record records ih =>
    cases records' with
    | nil => rfl
    | cons record' records' =>
      simp only [cons_prefix_cons, eq_comm, ← and_or_left] at h
      rw [zip_cons_cons, all_cons, ih h.2, h.1]
      simp

theorem isPrefix_of_zip_all_beq {records records' : List EventRecord} (hcollision : NoCollision records records')
    (h : (records.zip records').all (fun pair => pair.1 == pair.2) = true) :
    records <+: records' ∨ records' <+: records := by
  induction records generalizing records' with
  | nil => exact .inl nil_prefix
  | cons record records ih =>
    cases records' with
    | nil => exact .inr nil_prefix
    | cons record' records' =>
      rw [zip_cons_cons, all_cons, Bool.and_eq_true] at h
      have htail : NoCollision records records' := by
        intro a ha b hb
        exact hcollision a (mem_cons_of_mem _ ha) b (mem_cons_of_mem _ hb)
      obtain rfl : record = record' :=
        eq_of_beq h.1 (hcollision record (by simp) record' (by simp))
      simp only [cons_prefix_cons, true_and]
      exact ih htail h.2

variable (ext config)

def reconciled (legacyRecords : List EventRecord) (log : SegmentedLog) (sidecars : Sidecars) :
    Except EventStoreError Unit × SegmentedLog × Sidecars :=
  match log.copy ext config (legacyRecords.drop log.indexes.records.length) with
  | (.error e, log) => (.error e, log, sidecars)
  | (.ok (), log) =>
    ((Sidecars.publishIndex ext sidecars log.layout).1, log,
      (Sidecars.publishIndex ext sidecars log.layout).2)

variable {ext config} {legacyRecords : List EventRecord} {legacy : Recovered}

theorem reconcile_of_isPrefix (hconfig : config.validate = .ok ()) (h : state.Implements ext config log)
    (hpre : state.records <+: legacyRecords)
    (elapsed : Nat → Nat) (allowDestinationTail : Bool) :
    ∃ state', reconcileLegacyPrefix ext config (.success elapsed) allowDestinationTail legacyRecords state
        = ((reconciled ext config legacyRecords log state.sidecars).1, state')
      ∧ state'.Implements ext config (reconciled ext config legacyRecords log state.sidecars).2.1
      ∧ state'.sidecars = (reconciled ext config legacyRecords log state.sidecars).2.2
      ∧ ((reconciled ext config legacyRecords log state.sidecars).1 = .ok () →
        state'.pendingRecords = 0 ∧ state'.pendingBytes = 0) := by
  have hlength := hpre.length_le
  have hmatches := zip_all_beq_of_isPrefix (.inl hpre)
  have hrecords := h.records_eq
  obtain ⟨copied, hcopy, hcopied, hsidecars⟩ := copyLegacy_success hconfig h elapsed 0
    (legacyRecords.drop log.indexes.records.length)
  unfold reconcileLegacyPrefix reconciled MigrationIo.success
  simp only [allRecords_success h.represents]
  rw [if_neg (by omega), if_neg (by simp [hmatches]), hrecords, hcopy]
  generalize log.copy ext config (legacyRecords.drop log.indexes.records.length) = outcome at hcopied
  obtain ⟨result, log'⟩ := outcome
  cases result with
  | error e =>
    refine ⟨copied, rfl, hcopied, hsidecars, ?_⟩
    intro hok
    cases hok
  | ok _ =>
    obtain ⟨final, hflush, hfinal, hpendingRecords, hpendingBytes, hsidecars'⟩ := flush_success hcopied
    rw [hsidecars] at hflush hsidecars'
    exact ⟨final, hflush, hfinal, hsidecars', fun _ => ⟨hpendingRecords, hpendingBytes⟩⟩

theorem reconcile_of_ahead (h : state.Implements ext config log) (hpre : legacyRecords <+: state.records)
    (hlength : legacyRecords.length < state.records.length) (io : MigrationIo) (hio : io.existing = none)
    (allowDestinationTail : Bool) :
    reconcileLegacyPrefix ext config io allowDestinationTail legacyRecords state
      =
    (if allowDestinationTail then .ok () else .error .eventConflict, state) := by
  unfold reconcileLegacyPrefix
  simp only [hio, allRecords_success h.represents]
  rw [if_pos hlength, zip_all_beq_of_isPrefix (.inr hpre)]
  cases allowDestinationTail with
  | false | true => rfl

theorem reconcile_of_divergent (h : state.Implements ext config log)
    (hcollision : NoCollision state.records legacyRecords) (hpre : ¬state.records <+: legacyRecords)
    (hahead : ¬legacyRecords <+: state.records) (io : MigrationIo) (hio : io.existing = none)
    (allowDestinationTail : Bool) :
    reconcileLegacyPrefix ext config io allowDestinationTail legacyRecords state
      =
    (.error .eventConflict, state) := by
  have hmatches : (state.records.zip legacyRecords).all (fun pair => pair.1 == pair.2) = false := by
    rw [← Bool.not_eq_true]
    intro hall
    exact (isPrefix_of_zip_all_beq hcollision hall).elim hpre hahead
  unfold reconcileLegacyPrefix
  simp only [hio, allRecords_success h.represents]
  rw [hmatches, Bool.and_false, if_neg Bool.false_ne_true, if_pos rfl, ite_self]

theorem openAndReconcile_eq (hconfig : config.validate = .ok ())
    (hlegacy : Logged ext config.limits legacy)
    (hpayloads : ∀ record ∈ legacy.records, Payload.Survives ext record.payload) (io : MigrationIo)
    (allowDestinationTail : Bool) (directory : Directory) :
    openAndReconcile ext config io allowDestinationTail (legacy.file ext) directory
      =
    (openDirectory ext config directory).map
      (reconcileLegacyPrefix ext config io allowDestinationTail legacy.records) := by
  have hlimits := (validate_eq_ok hconfig).1
  have hbytes : legacy.byteCount = (legacy.file ext).length := hlegacy.byteCount_eq
  have hlive : (DurableEventStore.State.ofRecovered ext legacy).poisoned = false := rfl
  have hfile : (DurableEventStore.State.ofRecovered ext legacy).file = legacy.file ext := rfl
  have hall : DurableEventStore.allRecords .success (.ofRecovered ext legacy)
      = (.ok legacy.records, .ofRecovered ext legacy) := by
    unfold DurableEventStore.allRecords DurableEventStore.lockLive DurableEventStore.State.ofRecovered
      AppendIo.success
    simp [hbytes]
  have hreread : DurableEventStore.rereadLiveRecords ext config.limits (.ofRecovered ext legacy)
      = (.ok legacy.records, .ofRecovered ext legacy) := by
    have hrecover := hlegacy.recoverRecords_file hlimits (fun record hrecord =>
      hlegacy.readable hlimits hrecord (hpayloads record hrecord))
    unfold DurableEventStore.rereadLiveRecords
    rw [if_neg (by simp [hlive]), hfile, hrecover]
    simp only
    rw [if_neg (by simp [hbytes, DurableEventStore.toRecovered_ofRecovered])]
  have hverify : DurableEventStore.verifyLegacySnapshot ext config.limits (.ofRecovered ext legacy)
      legacy.records = (.ok legacy.records, .ofRecovered ext legacy) := by
    unfold DurableEventStore.verifyLegacySnapshot
    rw [hreread]
    simp
  unfold openAndReconcile
  rw [DurableEventStore.openFile_eq hlimits hlegacy hpayloads, Except.ok_bind, hall, Except.ok_bind,
    hverify]
  cases openDirectory ext config directory with
  | error _ | ok _ => rfl

theorem reconcile_rolling (h : state.Implements ext config log) (hpre : state.records <+: legacyRecords)
    (io : MigrationIo) (hio : io.existing = none) :
    reconcileLegacyPrefix ext config io true legacyRecords state
      =
    reconcileLegacyPrefix ext config io false legacyRecords state := by
  have hlength := hpre.length_le
  unfold reconcileLegacyPrefix
  simp only [hio, allRecords_success h.represents]
  have hnot : ¬state.records.length > legacyRecords.length := by omega
  simp only [if_neg hnot]

theorem isPrefix_of_reconcile (h : state.Implements ext config log)
    (hcollision : NoCollision state.records legacyRecords) {io : MigrationIo} (hio : io.existing = none)
    (hok : (reconcileLegacyPrefix ext config io false legacyRecords state).1 = .ok ()) :
    state.records <+: legacyRecords := by
  by_contra hpre
  by_cases hahead : legacyRecords <+: state.records
  . have hlength : legacyRecords.length < state.records.length := by
      apply lt_of_le_of_ne hahead.length_le
      intro hlength
      rw [hahead.eq_of_length hlength] at hpre
      exact hpre (prefix_refl _)
    rw [reconcile_of_ahead h hahead hlength io hio] at hok
    cases hok
  . rw [reconcile_of_divergent h hcollision hpre hahead io hio] at hok
    cases hok

theorem reconciled_of_error {e : EventStoreError}
    (h : (log.copy ext config (legacyRecords.drop log.indexes.records.length)).1 = .error e) :
    (reconciled ext config legacyRecords log sidecars).1 = .error e := by
  unfold reconciled
  generalize log.copy ext config (legacyRecords.drop log.indexes.records.length) = outcome at h
  obtain ⟨result, log'⟩ := outcome
  dsimp only at h
  rw [h]

section

variable (hlegacy : Logged ext config.limits legacy) (hlog : Written ext config log.indexes log.layout) (hpre : log.indexes.records <+: legacy.records)
include hlegacy hlog hpre

theorem reconciled_eq_ok (sidecars : Sidecars) :
    ((reconciled ext config legacy.records log sidecars).1 = .ok ()
      ↔ (log.layout.fill ext config (legacy.records.drop log.indexes.records.length)).segments.length
          ≤ maxEventSegments
        ∧ sidecars.indexTemp = none)
    ∧ ((reconciled ext config legacy.records log sidecars).1 = .ok () →
      (reconciled ext config legacy.records log sidecars).2.1.indexes.records = legacy.records) := by
  have hcopy := SegmentedLog.copy_eq hlegacy hlog.logged hlog.length_segments_le
    (prefix_append_drop hpre)
  split_ifs at hcopy with hroom
  . unfold reconciled
    generalize log.copy ext config (legacy.records.drop log.indexes.records.length) = outcome at hcopy
    obtain ⟨result, log'⟩ := outcome
    obtain ⟨rfl, hrecords⟩ := hcopy
    refine ⟨?_, fun _ => hrecords⟩
    simp only [hroom, true_and, Sidecars.publishIndex]
    cases sidecars.indexTemp with
    | none | some _ => simp
  . rw [reconciled_of_error hcopy]
    simp [hroom]

end

theorem directory_eq {state' : SegmentedState} (h : state.Implements ext config log)
    (h' : state'.Implements ext config log) (hsidecars : state'.sidecars = state.sidecars) :
    state'.directory = state.directory := by
  have hfiles := h.represents.files_eq []
  have hfiles' := h'.represents.files_eq []
  simp only [SegmentedState.files, SegmentedState.segments, writeActive, append_nil] at hfiles hfiles'
  unfold SegmentedState.directory SegmentedState.segments
  rw [hfiles, hfiles', hsidecars]

theorem migrate_resumed (hconfig : config.validate = .ok ())
    (hlegacy : Logged ext config.limits legacy)
    (hpayloads : ∀ record ∈ legacy.records, Payload.Survives ext record.payload)
    (h : state.Implements ext config log)
    (hhold : state.sidecars.Hold ext config log.layout snapshotted)
    (hsnapshot : Shallow ext state.sidecars) (hpre : state.records <+: legacy.records)
    (elapsed elapsed' : Nat → Nat) (k : Nat) {directory : Directory}
    (hperm : directory.Perm (copyLegacy ext config (fun i => .success (elapsed i))
      0 ((legacy.records.drop state.records.length).take k) state).2.directory) :
    ∃ reopened final final' result, openDirectory ext config directory = .ok reopened
      ∧ reconcileLegacyPrefix ext config (.success elapsed') false legacy.records state = (result, final)
      ∧ reconcileLegacyPrefix ext config (.success elapsed') false legacy.records reopened
        = (result, final')
      ∧ final'.toIndexes = final.toIndexes
      ∧ final'.directory = final.directory
      ∧ (result = .ok () → final'.pendingRecords = final.pendingRecords
        ∧ final'.pendingBytes = final.pendingBytes) := by
  have hrecords := h.records_eq
  have hlogged : Logged ext config.limits log.indexes.toRecovered := by
    rw [← h.indexes_eq]
    exact h.represents.written.logged
  rw [hrecords] at hperm hpre
  obtain ⟨hresume, hpre', hgrows⟩ := SegmentedLog.copy_resume hlegacy hlogged
    (prefix_append_drop hpre) k
  obtain ⟨copied, hcopy, hcopied, hsidecars⟩ := copyLegacy_success hconfig h elapsed 0
    ((legacy.records.drop log.indexes.records.length).take k)
  rw [hcopy] at hperm
  generalize (log.copy ext config ((legacy.records.drop log.indexes.records.length).take k)).2 = log' at *
  -- what is on disk after the interruption is opened again
  have hstored := hcopied.represents.stored (by rw [hsidecars]; exact hhold.grows hgrows)
  have hcopiedRecords := hcopied.records_eq
  have hsurvive : ∀ record ∈ copied.records, Payload.Survives ext record.payload := by
    intro record hrecord
    rw [hcopiedRecords] at hrecord
    exact hpayloads record (hpre'.subset hrecord)
  have hopen := openDirectory_stored hconfig hstored hsurvive (by rw [hsidecars]; exact hsnapshot)
    config.recovery hperm
  rw [if_pos (.inl rfl)] at hopen
  have hreopened : (opened ext log'.layout copied.toIndexes copied.sidecars).Implements ext config log' :=
    ⟨hcopied.indexes_eq, represents_opened hcopied.represents.written⟩
  -- both runs do to the log what copying without a stop does
  rw [← hrecords] at hpre
  rw [← hcopiedRecords] at hpre'
  obtain ⟨final, hfinal, himplements, hfinalSidecars, hpending⟩ :=
    reconcile_of_isPrefix hconfig h hpre elapsed' false
  obtain ⟨final', hfinal', himplements', hfinalSidecars', hpending'⟩ :=
    reconcile_of_isPrefix hconfig hreopened hpre' elapsed' false
  have hsame : reconciled ext config legacy.records log'
      (opened ext log'.layout copied.toIndexes copied.sidecars).sidecars
        = reconciled ext config legacy.records log state.sidecars := by
    change reconciled ext config legacy.records log' copied.sidecars = _
    unfold reconciled
    rw [hresume, hsidecars]
  rw [hsame] at hfinal' himplements' hfinalSidecars' hpending'
  refine ⟨_, final, final', _, hopen, hfinal, hfinal', ?_, ?_, ?_⟩
  . rw [himplements'.indexes_eq, himplements.indexes_eq]
  . apply directory_eq himplements himplements'
    rw [hfinalSidecars', hfinalSidecars]
  . intro hok
    rw [(hpending hok).1, (hpending hok).2, (hpending' hok).1, (hpending' hok).2]
    exact ⟨rfl, rfl⟩

end Reconcile

section Sample

def singleRecordConfig : SegmentedEventStoreConfig :=
  { SegmentedEventStoreConfig.default with
    limits := { EventStoreLimits.default with maxIdBytes := 4096 }
    maxSegmentRecords := 1 }

def numberedId (n : Nat) : String := String.ofList (replicate (n + 1) 'a')

def numberedInput (n : Nat) : EventInput := { nestedInput 0 with eventId := numberedId n }

theorem utf8_numberedId (n : Nat) : utf8 (numberedId n) = replicate (n + 1) 97 := by
  unfold numberedId
  rw [utf8_ofList]
  induction n with
  | zero => rfl
  | succ n ih =>
    rw [replicate_succ, flatMap_cons, ih, replicate_succ]
    rfl

theorem validateEventInput_numberedInput {n : Nat} (hn : n < 4096) :
    validateEventInput (numberedInput n) singleRecordConfig.limits = .ok () := by
  have hscope : validateScope sampleScope singleRecordConfig.limits = .ok () := by decide
  have hid : validateId "event_id" (numberedId n) singleRecordConfig.limits.maxIdBytes = .ok () := by
    have hmax : singleRecordConfig.limits.maxIdBytes = 4096 := rfl
    have hbyte : isIdByte 97 = true := by decide
    unfold validateId
    rw [utf8_numberedId, if_neg]
    simp [hmax, hbyte]
    omega
  have hkind : validateText "kind" "job.started" singleRecordConfig.limits.maxKindBytes = .ok () := by
    decide
  change (validateScope sampleScope singleRecordConfig.limits >>= fun _ =>
    validateId "event_id" (numberedId n) singleRecordConfig.limits.maxIdBytes >>= fun _ =>
      validateText "kind" "job.started" singleRecordConfig.limits.maxKindBytes >>= fun _ =>
        requireObject (nestedInput 0).payload) = .ok ()
  rw [hscope, hid, hkind]
  rfl

theorem exists_logged {n : Nat} (hn : n ≤ 2000) :
    ∃ state, Logged ext singleRecordConfig.limits state ∧ state.records.length = n
      ∧ state.byteCount ≤ n * 160000
      ∧ ∀ record ∈ state.records, (utf8 record.eventId).length ≤ n := by
  induction n with
  | zero =>
    refine ⟨Recovered.empty, .empty, rfl, Nat.le_refl _, ?_⟩
    intro record hrecord
    cases hrecord
  | succ n ih =>
    obtain ⟨state, hlogged, hlength, hbytes, hids⟩ := ih (by omega)
    have hinput := validateEventInput_numberedInput (show n < 4096 by omega)
    have hlast := hlogged.isSha256_last
    have hturn : HashMap.getD state.nextTurnSeq (numberedInput n).scope 0 ≤ n := by
      rw [hlogged.replayed.getD_nextTurnSeq, ← hlength]
      exact length_filter_le _ _
    have hfresh : state.byKey.lookup ⟨(numberedInput n).scope, (numberedInput n).eventId⟩ = none := by
      rw [hlogged.replayed.key_mem_iff]
      intro record hrecord hkey
      have hid := hids record hrecord
      rw [(EventKey.mk.inj hkey).2] at hid
      change (utf8 (numberedId n)).length ≤ n at hid
      rw [utf8_numberedId, length_replicate] at hid
      omega
    have hvalid := (validateRecord_eq_ok ext).mp (Recovered.validateRecord_nextRecord hinput hlast)
    have hstoreSeq : (state.nextRecord ext (numberedInput n)).storeSeq = n := hlength
    have hturnSeq : (state.nextRecord ext (numberedInput n)).turnSeq ≤ n := hturn
    have hencoded := hvalid.length_encodeRecord_le (by omega) (by omega)
    have hpayload : (write ext.float (state.nextRecord ext (numberedInput n)).payload.value).length
        = 2 := length_write_nested
    have h1 : singleRecordConfig.limits.maxIdBytes = 4096 := rfl
    have h2 : singleRecordConfig.limits.maxKindBytes = 256 := rfl
    have h3 : singleRecordConfig.limits.maxRecordBytes = 32 * 1024 * 1024 := rfl
    have h4 : singleRecordConfig.limits.maxStoreBytes = 512 * 1024 * 1024 := rfl
    have h5 : singleRecordConfig.limits.maxRecords = 1000000 := rfl
    rw [hpayload, h1, h2] at hencoded
    obtain ⟨r, hreserve⟩ := @Recovered.reserve_eq_ok ext _ _ _ hinput hlast hfresh (by omega) (by omega)
      (by omega) (by omega) (by omega)
    obtain ⟨hrecord, hr⟩ := Recovered.reserve_eq_reserved hreserve
    refine ⟨state.publishReserved r, hlogged.publish hr, ?_, ?_, ?_⟩
    . change (state.records ++ [r.record]).length = n + 1
      rw [length_append, hlength]
      rfl
    . change state.byteCount + r.encoded.length ≤ _
      rw [hr.encoded_eq, Log.length_frame, hrecord]
      omega
    . apply forall_mem_concat
      . intro record hmem
        exact Nat.le_succ_of_le (hids record hmem)
      . rw [hrecord]
        change (utf8 (numberedId n)).length ≤ n + 1
        rw [utf8_numberedId, length_replicate]

theorem length_fill_singleRecord (ext : Externals) (l : Layout) (hactive : 0 < l.active.length)
    (records : List EventRecord) :
    (l.fill ext singleRecordConfig records).segments.length = l.segments.length + records.length := by
  induction records generalizing l with
  | nil => rfl
  | cons record records ih =>
    have hmax : singleRecordConfig.maxSegmentRecords = 1 := rfl
    have hfull : l.isFull ext singleRecordConfig ((encodeRecord ext record).length + 1) = true := by
      simp [Layout.isFull, hmax, hactive]
      omega
    have hstep : l.fill ext singleRecordConfig (record :: records)
        = (l.rotate.push record).fill ext singleRecordConfig records := by
      simp [Layout.fill, hfull]
    rw [hstep, ih _ (by simp [Layout.push])]
    simp [Layout.rotate, Layout.push, Layout.segments]
    omega

end Sample

theorem legacy_reconciliation (ext : Externals) (config : SegmentedEventStoreConfig)
    (hconfig : config.validate = .ok ()) (legacy : Recovered) (hlegacy : Logged ext config.limits legacy)
    (state : SegmentedState) (hreachable : Reachable ext config state) (l : Layout)
    (hstate : state.Represents ext config l) (hcollision : NoCollision state.records legacy.records)
    (elapsed : Nat → Nat) :
    ((reconcileLegacyPrefix ext config (.success elapsed) false legacy.records state).1 = .ok ()
      ↔ state.records <+: legacy.records
        ∧ (l.fill ext config (legacy.records.drop state.records.length)).segments.length
          ≤ maxEventSegments
        ∧ state.sidecars.indexTemp = none)
    ∧ ((reconcileLegacyPrefix ext config (.success elapsed) false legacy.records state).1 = .ok () →
      (reconcileLegacyPrefix ext config (.success elapsed) false legacy.records state).2.records
        = legacy.records)
    ∧ (state.records <+: legacy.records →
      reconcileLegacyPrefix ext config (.success elapsed) true legacy.records state
        = reconcileLegacyPrefix ext config (.success elapsed) false legacy.records state)
    ∧ (legacy.records <+: state.records → legacy.records.length < state.records.length →
      reconcileLegacyPrefix ext config (.success elapsed) true legacy.records state = (.ok (), state)
      ∧ reconcileLegacyPrefix ext config (.success elapsed) false legacy.records state
        = (.error .eventConflict, state))
    ∧ (¬state.records <+: legacy.records → ¬legacy.records <+: state.records →
      ∀ allowDestinationTail,
        reconcileLegacyPrefix ext config (.success elapsed) allowDestinationTail legacy.records state
          = (.error .eventConflict, state))
    ∧ (∀ (store : SegmentedState) (elapsed' : Nat → Nat) (k : Nat) (path : String) (directory : Directory),
      (∀ record ∈ legacy.records, Payload.Survives ext record.payload) →
      state.records <+: legacy.records →
      openDirectory ext config state.directory = .ok store →
      directory.Perm (copyLegacy ext config (fun i => .success (elapsed' i)) 0
        ((legacy.records.drop store.records.length).take k) store).2.directory →
      ∃ result final final',
        migrateLegacy ext config (.success elapsed) path (some (legacy.file ext)) state.directory
          = .ok (result, final)
        ∧ migrateLegacy ext config (.success elapsed) path (some (legacy.file ext)) directory
          = .ok (result, final')
        ∧ final'.toIndexes = final.toIndexes
        ∧ final'.directory = final.directory
        ∧ (result = .ok () → final'.pendingRecords = final.pendingRecords
          ∧ final'.pendingBytes = final.pendingBytes)) := by
  have himplements := hstate.implements
  have hreconcile : ∀ hpre : state.records <+: legacy.records, _ :=
    fun hpre => reconcile_of_isPrefix hconfig himplements hpre elapsed false
  have hreconciled := fun hpre =>
    @reconciled_eq_ok ext config ⟨state.toIndexes, l⟩ legacy hlegacy hstate.written hpre state.sidecars
  refine ⟨?_, ?_, ?_, ?_, ?_, ?_⟩
  . constructor
    . intro hok
      have hpre := isPrefix_of_reconcile himplements hcollision rfl hok
      obtain ⟨_, heq, _⟩ := hreconcile hpre
      rw [heq, (hreconciled hpre).1] at hok
      exact ⟨hpre, hok⟩
    . rintro ⟨hpre, hroom⟩
      obtain ⟨_, heq, _⟩ := hreconcile hpre
      rw [heq, (hreconciled hpre).1]
      exact hroom
  . intro hok
    have hpre := isPrefix_of_reconcile himplements hcollision rfl hok
    obtain ⟨final, heq, hfinal, _⟩ := hreconcile hpre
    rw [heq] at hok ⊢
    rw [hfinal.indexes_eq]
    exact (hreconciled hpre).2 hok
  . intro hpre
    exact reconcile_rolling himplements hpre _ rfl
  . intro hpre hlength
    exact ⟨reconcile_of_ahead himplements hpre hlength _ rfl true,
      reconcile_of_ahead himplements hpre hlength _ rfl false⟩
  . intro hpre hahead allowDestinationTail
    exact reconcile_of_divergent himplements hcollision hpre hahead _ rfl allowDestinationTail
  . intro store elapsed' k path directory hpayloads hpre hopen hperm
    -- the destination could be opened, so its own payloads are not nested too deep either
    obtain ⟨_, l', _, snapshotted, hstored, hfloats⟩ := hreachable.stored hconfig
    obtain ⟨rfl, rfl, hstate'⟩ := hstored.live hstate.live
    obtain ⟨hdepth, hsnapshot⟩ := depth_of_stored hconfig hstored (List.Perm.refl _) hopen
    have hstore := openDirectory_stored hconfig hstored
      (fun record hrecord => ⟨hfloats record hrecord, hdepth record hrecord⟩) hsnapshot config.recovery
      (List.Perm.refl _)
    rw [if_pos (.inl rfl)] at hstore
    have heq : store = opened ext l' state.toIndexes state.sidecars :=
      Except.ok.inj (hopen.symm.trans hstore)
    rw [heq] at hopen hperm
    have hopened := (@represents_opened ext config l' state.toIndexes state.sidecars
      hstate'.written).implements
    obtain ⟨reopened, final, final', result, hreopen, hfinal, hfinal', hsame⟩ := migrate_resumed hconfig
      hlegacy hpayloads hopened hstored.sidecars hsnapshot hpre elapsed' elapsed k hperm
    have hmigrate : ∀ directory, migrateLegacy ext config (.success elapsed) path
        (some (legacy.file ext)) directory = _ :=
      openAndReconcile_eq hconfig hlegacy hpayloads (.success elapsed) false
    refine ⟨result, final, final', ?_, ?_, hsame⟩
    . rw [hmigrate, hopen, Except.map, hfinal]
    . rw [hmigrate, hreopen, Except.map, hfinal']

theorem legacy_reconciliation_pair :
    ∃ legacy, Logged .reference singleRecordConfig.limits legacy ∧ legacy.records.length = 2
      ∧ (reconcileLegacyPrefix .reference singleRecordConfig (.success (fun _ => 0)) false legacy.records
          fresh).1 = .ok ()
      ∧ (reconcileLegacyPrefix .reference singleRecordConfig (.success (fun _ => 0)) false legacy.records
          fresh).2.records = legacy.records := by
  obtain ⟨legacy, hlegacy, hlength, _⟩ := exists_logged (show 2 ≤ 2000 by decide)
  have hfill : (Layout.empty.fill .reference singleRecordConfig
      (legacy.records.drop fresh.records.length)).segments.length ≤ maxEventSegments := by
    have hempty : (legacy.records.drop fresh.records.length).length ≤ 2 := by
      rw [length_drop]
      omega
    exact Nat.le_trans (SegmentedLog.length_fill_le _ _) (Nat.le_trans (Nat.add_le_add_left hempty _) (by decide))
  have h := legacy_reconciliation .reference singleRecordConfig (by decide) legacy hlegacy fresh .fresh
    .empty represents_fresh (fun _ ha => by cases ha) (fun _ => 0)
  have hok := h.1.mpr ⟨ nil_prefix, hfill, rfl⟩
  exact ⟨legacy, hlegacy, hlength, hok, h.2.1 hok⟩

theorem legacy_reconciliation_segment_cap :
    singleRecordConfig.validate = .ok ()
    ∧ Reachable .reference singleRecordConfig fresh
    ∧ fresh.poisoned = false
    ∧ ∃ legacy, Logged .reference singleRecordConfig.limits legacy
      ∧ fresh.records <+: legacy.records
      ∧ (reconcileLegacyPrefix .reference singleRecordConfig (.success (fun _ => 0)) false legacy.records
          fresh).1 = .error .capacityExhausted := by
  have hconfig : singleRecordConfig.validate = .ok () := by decide
  have hfresh : fresh.Implements .reference singleRecordConfig
      { indexes := fresh.toIndexes, layout := .empty } := represents_fresh.implements
  obtain ⟨legacy, hlegacy, hlength, _⟩ := exists_logged (show 1025 ≤ 2000 by decide)
  refine ⟨hconfig, .fresh, rfl, legacy, hlegacy, nil_prefix, ?_⟩
  obtain ⟨_, heq, _⟩ := reconcile_of_isPrefix hconfig hfresh nil_prefix (fun _ => 0) false
  have hcopy := @SegmentedLog.copy_eq .reference singleRecordConfig
    { indexes := fresh.toIndexes, layout := .empty } legacy legacy.records hlegacy .empty (by decide) rfl
  have hfill : maxEventSegments
      < ((Layout.empty).fill .reference singleRecordConfig legacy.records).segments.length := by
    cases hrecords : legacy.records with
    | nil =>
      rw [hrecords] at hlength
      cases hlength
    | cons record records =>
      have hempty : Layout.empty.isFull .reference singleRecordConfig
          ((encodeRecord .reference record).length + 1) = false := rfl
      have hstep : Layout.empty.fill .reference singleRecordConfig (record :: records)
          = (Layout.empty.push record).fill .reference singleRecordConfig records := by
        simp [Layout.fill, hempty]
      rw [hrecords, length_cons] at hlength
      rw [hstep, length_fill_singleRecord .reference _ (by simp [Layout.push])]
      have hmax : maxEventSegments = 1024 := rfl
      simp only [Layout.push, Layout.empty, Layout.segments, nil_append, length_singleton]
      omega
  rw [if_neg (not_le.mpr hfill)] at hcopy
  rw [heq]
  exact reconciled_of_error hcopy

end SegmentedEventStore

end EventStore
