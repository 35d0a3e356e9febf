import Trillionnium.EventStore.Lemmas.Logged
import Trillionnium.EventStore.Reference

namespace EventStore

open Json

variable {state : Recovered}

variable {ext : Externals} {limits : EventStoreLimits}

theorem EventStoreLimits.validate_eq_ok (h : limits.validate = .ok ()) :
    (0 < limits.maxStoreBytes ∧ 0 < limits.maxRecordBytes ∧ 0 < limits.maxRecords
      ∧ 0 < limits.maxIdBytes ∧ 0 < limits.maxKindBytes)
    ∧ (limits.maxStoreBytes ≤ maxEventStoreBytes ∧ limits.maxRecordBytes ≤ maxEventRecordBytes
      ∧ limits.maxRecords ≤ maxEventRecords ∧ limits.maxIdBytes ≤ maxEventIdBytes
      ∧ limits.maxKindBytes ≤ maxEventKindBytes)
    ∧ limits.maxRecordBytes ≤ limits.maxStoreBytes := by
  unfold EventStoreLimits.validate at h
  split_ifs at h
  omega

section ReadLine

theorem readAheadLimit_eq (h : limits.validate = .ok ()) :
    readAheadLimit limits.maxRecordBytes = .ok (limits.maxRecordBytes + 2) := by
  obtain ⟨⟨_, hpos, _⟩, ⟨_, hle, _⟩, _⟩ := EventStoreLimits.validate_eq_ok h
  have hbound : maxEventRecordBytes = 64 * 1024 * 1024 := rfl
  unfold readAheadLimit
  rw [if_neg (by omega), checkedAdd_eq_some.mpr ⟨rfl, by omega⟩]

structure IsLine (limits : EventStoreLimits) (line : Bytes) : Prop where
  ne_nil : line ≠ []
  lineFeed_not_mem : 10 ∉ line
  length_le : line.length ≤ limits.maxRecordBytes

theorem Logged.isLine (h : Logged ext limits state) :
    ∀ line ∈ state.records.map (encodeRecord ext), IsLine limits line := by
  intro line hline
  rw [List.mem_map] at hline
  obtain ⟨record, hrecord, rfl⟩ := hline
  exact ⟨encodeRecord_ne_nil ext record, lineFeed_not_mem_encodeRecord ext record,
    h.length_encodeRecord_le hrecord⟩

theorem readRecordLine_line (h : limits.validate = .ok ()) (hline : IsLine limits line) :
    Log.ReadsLine (readRecordLine limits.maxRecordBytes) (fun line => (line, line.length + 1)) line := by
  intro rest
  have hlength := hline.length_le
  unfold readRecordLine
  rw [readAheadLimit_eq h, Except.ok_bind]
  rw [Log.readUntil_frame hline.lineFeed_not_mem (by omega)]
  simp only [Log.dropLast_frame, Log.length_frame]
  rw [if_neg Log.frame_ne_nil, if_neg (by simp)]
  rw [if_neg (by simp [hline.ne_nil, hlength])]
  rfl

theorem readRecordLine_nil (h : limits.validate = .ok ()) :
    readRecordLine limits.maxRecordBytes [] = .ok (none, []) := by
  unfold readRecordLine
  rw [readAheadLimit_eq h, Except.ok_bind]
  simp [Log.readUntil]

end ReadLine

section Recover

theorem recoverRecords_frames (h : limits.validate = .ok ()) {lines : List Bytes}
    (hlines : ∀ line ∈ lines, IsLine limits line) :
    recoverRecords ext limits (Log.frames lines)
      =
    lines.foldlM (fun state line => recoverLine ext limits state line (line.length + 1))
      Recovered.empty := by
  have hfuel : (Log.frames lines).length + 1
      = lines.length + ((Log.frames lines).length - lines.length + 1) := by
    have := Log.length_le_frames lines
    omega
  unfold recoverRecords
  rw [hfuel]
  have hloop := Log.whileLet_frames
    (fun state item => (recoverLine ext limits state item.1 item.2).map .yield)
    (fun state line => recoverLine ext limits state line (line.length + 1))
    (fun line hline => readRecordLine_line h (hlines line hline))
    (fun _ _ _ => rfl) [] ((Log.frames lines).length - lines.length + 1) Recovered.empty
  rw [List.append_nil] at hloop
  rw [hloop]
  cases lines.foldlM (fun state line => recoverLine ext limits state line (line.length + 1))
    Recovered.empty with
  | error e => rfl
  | ok state =>
    rw [Except.ok_bind]
    exact Log.whileLet_none (readRecordLine_nil h)

theorem Logged.foldlM_recoverLine (h : Logged ext limits state)
    (hread : ∀ record ∈ state.records, Readable ext record) :
    (state.records.map (encodeRecord ext)).foldlM
      (fun state line => recoverLine ext limits state line (line.length + 1)) Recovered.empty
      =
    .ok state := by
  induction h with
  | empty => rfl
  | @publish state r _ hr ih =>
    change ((state.records ++ [r.record]).map (encodeRecord ext)).foldlM _ _ = _
    rw [List.map_append, List.foldlM_append, ih (fun record hrecord => hread record (by
      simp [Recovered.publishReserved, Recovered.publish, hrecord]))]
    have hline := hr.replayLine (hread r.record (by simp [Recovered.publishReserved, Recovered.publish]))
      "store sequence is not contiguous"
    have hlength : r.encoded.length = (encodeRecord ext r.record).length + 1 := by
      rw [hr.encoded_eq, Log.length_frame]
    rw [hlength] at hline
    simp only [Except.ok_bind, List.map_cons, List.map_nil, List.foldlM_cons, List.foldlM_nil]
    unfold recoverLine
    rw [hline]
    rfl

def Recovered.file (ext : Externals) (state : Recovered) : Bytes :=
  Log.frames (state.records.map (encodeRecord ext))

theorem Logged.recoverRecords_file (hlimits : limits.validate = .ok ())
    (h : Logged ext limits state) (hread : ∀ record ∈ state.records, Readable ext record) :
    recoverRecords ext limits (state.file ext) = .ok state := by
  unfold Recovered.file
  rw [recoverRecords_frames hlimits h.isLine]
  exact h.foldlM_recoverLine hread

def Payload.Survives (ext : Externals) (payload : Document) : Prop :=
  FloatsReadBack ext.float payload.value ∧ payload.value.depth ≤ maxPayloadDepth

def FloatsSurvive (ext : Externals) (records : List EventRecord) : Prop :=
  ∀ record ∈ records, FloatsReadBack ext.float record.payload.value

theorem survives_sampleInput : Payload.Survives .reference sampleInput.payload := by
  constructor
  . simp [sampleInput, FloatsReadBack, FloatsReadBackFields]
  . decide

theorem Logged.readable (hlimits : limits.validate = .ok ()) (h : Logged ext limits state)
    {record : EventRecord} (hmem : record ∈ state.records)
    (hpayload : Payload.Survives ext record.payload) : Readable ext record := by
  obtain ⟨_, ⟨_, _, hrecords, _⟩, _⟩ := EventStoreLimits.validate_eq_ok hlimits
  obtain ⟨_, hstore, hturn⟩ := h.replayed.valid_of_mem hmem
  have hbound : maxEventRecords = 1048576 := rfl
  exact decodeRecord_encodeRecord ext record (by omega) hturn hpayload.1 hpayload.2

end Recover

namespace DurableEventStore

def State.ofRecovered (ext : Externals) (state : Recovered) : State :=
  { state with file := state.file ext, poisoned := false }

@[simp]
theorem toRecovered_ofRecovered (state : Recovered) :
    (State.ofRecovered ext state).toRecovered = state := rfl

theorem file_publishReserved (hr : state.Admits ext limits r) :
    (state.publishReserved r).file ext = state.file ext ++ r.encoded := by
  change Log.frames ((state.records ++ [r.record]).map (encodeRecord ext)) = _
  rw [List.map_append, Log.frames_append, hr.encoded_eq]
  simp [Log.frame, Recovered.file]

theorem append_ofRecovered {state : Recovered} (h : Logged ext limits state) (input : EventInput) :
    append ext limits .success input (.ofRecovered ext state)
      =
    ((state.accept ext limits input).1, .ofRecovered ext (state.accept ext limits input).2) := by
  have hlive : lockLive .success (.ofRecovered ext state) = (.ok (), .ofRecovered ext state) := by
    unfold lockLive State.ofRecovered AppendIo.success
    simp only [Bool.false_eq_true, ↓reduceIte]
    rw [if_neg]
    rw [not_not]
    exact h.byteCount_eq.symm
  unfold append Recovered.accept
  rw [hlive]
  cases validateEventInput input limits with
  | error e => rfl
  | ok _ =>
    simp only [toRecovered_ofRecovered]
    cases hreserve : state.reserve ext limits input with
    | error e => rfl
    | ok reservation =>
      cases reservation with
      | existing record => rfl
      | reserved r =>
        have hr := (Recovered.reserve_eq_reserved hreserve).2
        have hlength : (state.file ext).length = state.byteCount := h.byteCount_eq.symm
        unfold commit State.ofRecovered AppendIo.success
        simp only [List.length_append, hlength, ne_eq, not_true_eq_false, ↓reduceIte]
        rw [file_publishReserved hr]
        rfl

variable (ext limits)

def run (inputs : List EventInput) : State :=
  inputs.foldl (fun state input => (append ext limits .success input state).2) .fresh

def results : State → List EventInput → List (Except EventStoreError AppendResult)
  | _, [] => []
  | state, input :: inputs =>
    (append ext limits .success input state).1
      :: results (append ext limits .success input state).2 inputs

variable {ext limits}

theorem foldl_append_ofRecovered (h : Logged ext limits state) (inputs : List EventInput) :
    inputs.foldl (fun state input => (append ext limits .success input state).2) (.ofRecovered ext state)
      =
    .ofRecovered ext (state.acceptAll ext limits inputs) := by
  induction inputs generalizing state with
  | nil => rfl
  | cons input inputs ih =>
    rw [List.foldl_cons, append_ofRecovered h]
    exact ih (h.accept input)

theorem run_eq (inputs : List EventInput) :
    run ext limits inputs = .ofRecovered ext (Recovered.empty.acceptAll ext limits inputs) :=
  foldl_append_ofRecovered .empty inputs

theorem payload_of_mem_run {record : EventRecord} (h : record ∈ (run ext limits inputs).records) :
    ∃ input ∈ inputs, record.payload = input.payload := by
  rw [run_eq] at h
  cases Recovered.payload_of_mem_acceptAll h with
  | inl hmem => simp [Recovered.empty] at hmem
  | inr hmem => exact hmem

theorem recoverRecords_run (ext : Externals) (limits : EventStoreLimits)
    (hlimits : limits.validate = .ok ()) (inputs : List EventInput)
    (hcodec : ∀ record ∈ (run ext limits inputs).records, Payload.Survives ext record.payload) :
    recoverRecords ext limits (run ext limits inputs).file = .ok (run ext limits inputs).toRecovered
    ∧ (∀ before record after, (run ext limits inputs).records = before ++ record :: after →
        Replayed.Continues before record)
    ∧ ((run ext limits inputs).records.map (·.key)).Nodup := by
  rw [run_eq] at hcodec ⊢
  have hlogged : Logged ext limits (Recovered.empty.acceptAll ext limits inputs) :=
    Logged.acceptAll .empty inputs
  refine ⟨?_, ?_, hlogged.replayed.nodup_keys⟩
  . apply hlogged.recoverRecords_file hlimits
    intro record hrecord
    exact hlogged.readable hlimits hrecord (hcodec record hrecord)
  . intro before record after heq
    exact hlogged.replayed.continues heq

theorem recoverRecords_run_sample :
    recoverRecords .reference .default (run .reference .default [sampleInput, sampleInput]).file
      = .ok (run .reference .default [sampleInput, sampleInput]).toRecovered
    ∧ (∀ before record after,
        (run .reference .default [sampleInput, sampleInput]).records = before ++ record :: after →
        Replayed.Continues before record)
    ∧ ((run .reference .default [sampleInput, sampleInput]).records.map (·.key)).Nodup :=
  recoverRecords_run .reference .default rfl [sampleInput, sampleInput] (fun _ hrecord => by
    obtain ⟨_, hinput, hpayload⟩ := payload_of_mem_run hrecord
    rw [hpayload]
    simp only [List.mem_cons, List.not_mem_nil, or_false, or_self] at hinput
    rw [hinput]
    exact survives_sampleInput)

theorem replay_run (ext : Externals) (inputs : List EventInput) {scope : TurnScope}
    (hscope : validateScope scope limits = .ok ()) (cursor : Nat) :
    replay limits .success scope cursor (run ext limits inputs)
      =
    (.ok (((run ext limits inputs).records.filter fun record => record.scope = scope).drop cursor),
      run ext limits inputs) := by
  rw [run_eq]
  have hlogged : Logged ext limits (Recovered.empty.acceptAll ext limits inputs) :=
    Logged.acceptAll .empty inputs
  unfold replay lockLive
  rw [hscope]
  simpa [State.ofRecovered, AppendIo.success, Recovered.file, hlogged.byteCount_eq]
    using hlogged.replayed.filter_turnSeq scope cursor

theorem replay_run_sample :
    let state := run .reference .default [sampleInput]
    ∃ records, (replay .default .success sampleInput.scope 0 state).1 = .ok records
      ∧ (replay .default .success sampleInput.scope 1 state).1 = .ok (records.drop 1) := by
  dsimp only
  rw [replay_run .reference _ rfl 0, replay_run .reference _ rfl 1]
  exact ⟨_, rfl, by rw [List.drop_zero]⟩

end DurableEventStore

end EventStore
