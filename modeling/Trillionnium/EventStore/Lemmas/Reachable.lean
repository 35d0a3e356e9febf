import Trillionnium.EventStore.Lemmas.Faults

/-!
The states that a segmented store can reach by its operations, restarts included, and what a restart
makes of them.
-/

namespace EventStore

open Json

variable {directory : Directory}

variable {ext : Externals} {config : SegmentedEventStoreConfig} {state state' : SegmentedState}
  {l : Layout} {indexes : Indexes} {tail : Bytes} {snapshotted : List EventRecord}

section Recovery

def SegmentedEventStoreConfig.withRecovery (config : SegmentedEventStoreConfig)
    (recovery : RecoveryPolicy) : SegmentedEventStoreConfig :=
  { config with recovery := recovery }

theorem Written.withRecovery (h : Written ext config indexes l) (recovery : RecoveryPolicy) :
    Written ext (config.withRecovery recovery) indexes l := by
  induction h with
  | empty => exact .empty
  | rotate _ hcap ih => exact ih.rotate hcap
  | publish _ hr hroom ih => exact ih.publish hr hroom

theorem WrittenBefore.withRecovery (h : WrittenBefore ext config l' l) (recovery : RecoveryPolicy) :
    WrittenBefore ext (config.withRecovery recovery) l' l := by
  obtain ⟨⟨indexes, hwritten⟩, hgrows⟩ := h
  exact ⟨⟨indexes, hwritten.withRecovery recovery⟩, hgrows⟩

theorem Sidecars.Hold.withRecovery {sidecars : Sidecars} (h : sidecars.Hold ext config l snapshotted)
    (recovery : RecoveryPolicy) : sidecars.Hold ext (config.withRecovery recovery) l snapshotted where
  index := by
    intro file hfile
    obtain ⟨before, hbefore, heq⟩ := h.index file hfile
    exact ⟨before, hbefore.withRecovery recovery, heq⟩
  snapshot := by
    intro file hfile
    obtain ⟨before, hbefore, heq⟩ := h.snapshot file hfile
    exact ⟨before, hbefore.withRecovery recovery, heq⟩
  no_snapshot := h.no_snapshot

theorem SegmentedEventStoreConfig.validate_withRecovery (config : SegmentedEventStoreConfig)
    (recovery : RecoveryPolicy) (h : config.validate = .ok ()) :
    (config.withRecovery recovery).validate = .ok () := h

end Recovery

namespace SegmentedEventStore

/--
The states of a store, from an empty directory on. The file system may fail at any point, and the
directory is listed in any order when the store is opened again.
-/
inductive Reachable (ext : Externals) (config : SegmentedEventStoreConfig) : SegmentedState → Prop where
  | fresh : Reachable ext config fresh
  | append {state : SegmentedState} (h : Reachable ext config state) (io : SegmentedAppendIo)
      {input : EventInput} (hfloats : FloatsReadBack ext.float input.payload.value) :
    Reachable ext config (append ext config io input state).2
  | sync {state : SegmentedState} (h : Reachable ext config state) (io : SyncIo) :
    Reachable ext config (syncPending config io state).2
  | flush {state : SegmentedState} (h : Reachable ext config state) (sync : SyncIo) (io : SidecarIo) :
    Reachable ext config (flush ext config sync io state).2
  | checkpoint {state : SegmentedState} (h : Reachable ext config state) (sync : SyncIo)
      (snapshotIo indexIo : SidecarIo) :
    Reachable ext config (checkpoint ext config sync snapshotIo indexIo state).2
  | restart {state state' : SegmentedState} (h : Reachable ext config state) (recovery : RecoveryPolicy)
      {directory : Directory} (hperm : directory.Perm state.directory)
      (hopen : openDirectory ext (config.withRecovery recovery) directory = .ok state') :
    Reachable ext config state'

section

variable (hconfig : config.validate = .ok ()) (h : state.Stored ext config indexes l tail snapshotted)
include hconfig h

theorem openDirectory_stored
    (hpayloads : ∀ record ∈ indexes.records, Payload.Survives ext record.payload)
    (hsnapshot : Shallow ext state.sidecars) (recovery : RecoveryPolicy)
    (hperm : directory.Perm state.directory) :
    openDirectory ext (config.withRecovery recovery) directory
      =
    if tail = [] ∨ recovery = .repairTrailingPartial then
      .ok (opened ext l indexes state.sidecars)
    else
      .error .truncatedRecord := by
  rw [h.directory_eq] at hperm
  exact openDirectory_eq (config.validate_withRecovery recovery hconfig)
    (h.written.withRecovery recovery) (h.sidecars.withRecovery recovery) hpayloads
    (h.sidecars.forall_snapshotted hsnapshot) h.torn hperm

theorem depth_of_stored (hperm : directory.Perm state.directory)
    (hopen : openDirectory ext (config.withRecovery recovery) directory = .ok state') :
    (∀ record ∈ indexes.records, record.payload.value.depth ≤ maxPayloadDepth)
    ∧ Shallow ext state.sidecars := by
  rw [h.directory_eq] at hperm
  exact depth_of_openDirectory (config.validate_withRecovery recovery hconfig)
    (h.written.withRecovery recovery) hperm hopen

theorem stored_restart (hfloats : FloatsSurvive ext indexes.records)
    (hperm : directory.Perm state.directory)
    (hopen : openDirectory ext (config.withRecovery recovery) directory = .ok state') :
    state'.Stored ext config indexes l [] snapshotted := by
  obtain ⟨hpayloads, hsnapshot⟩ := depth_of_stored hconfig h hperm hopen
  have heq := openDirectory_stored hconfig h
    (fun record hrecord => ⟨hfloats record hrecord, hpayloads record hrecord⟩) hsnapshot recovery hperm
  rw [hopen] at heq
  split_ifs at heq
  cases heq
  exact (represents_opened h.written).stored h.sidecars

end

theorem hold_fresh : fresh.sidecars.Hold ext config Layout.empty [] where
  index := by
    intro file hfile
    cases hfile
  snapshot := by
    intro file hfile
    cases hfile
  no_snapshot := fun _ => rfl

theorem Reachable.stored (hconfig : config.validate = .ok ()) (h : Reachable ext config state) :
    ∃ indexes l tail snapshotted, state.Stored ext config indexes l tail snapshotted
      ∧ FloatsSurvive ext indexes.records := by
  induction h with
  | fresh =>
    refine ⟨_, _, _, _, represents_fresh.stored hold_fresh, ?_⟩
    intro record hrecord
    cases hrecord
  | append _ io hpayload ih =>
    obtain ⟨indexes, l, tail, snapshotted, hstored, hfloats⟩ := ih
    obtain ⟨indexes', l', tail', hstored', hrecords⟩ := stored_append hconfig hstored
    refine ⟨_, _, _, _, hstored', ?_⟩
    intro record hrecord
    cases hrecords record hrecord with
    | inl hmem => exact hfloats record hmem
    | inr heq =>
      rw [heq]
      exact hpayload
  | sync _ io ih =>
    obtain ⟨indexes, l, tail, snapshotted, hstored, hfloats⟩ := ih
    exact ⟨_, _, _, _, stored_syncPendingUnderGate hstored true io, hfloats⟩
  | flush _ sync io ih =>
    obtain ⟨indexes, l, tail, snapshotted, hstored, hfloats⟩ := ih
    exact ⟨_, _, _, _, stored_flush hstored, hfloats⟩
  | checkpoint _ sync snapshotIo indexIo ih =>
    obtain ⟨indexes, l, tail, snapshotted, hstored, hfloats⟩ := ih
    obtain ⟨_, hstored', _⟩ := stored_checkpoint hstored
    exact ⟨_, _, _, _, hstored', hfloats⟩
  | restart _ recovery hperm hopen ih =>
    obtain ⟨indexes, l, tail, snapshotted, hstored, hfloats⟩ := ih
    exact ⟨_, _, _, _, stored_restart hconfig hstored hfloats hperm hopen, hfloats⟩

end SegmentedEventStore

end EventStore
