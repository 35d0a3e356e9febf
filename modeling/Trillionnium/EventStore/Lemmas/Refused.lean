import Trillionnium.EventStore.Lemmas.Faults

/-!
What a failed append leaves behind: the store as it was before, or a poisoned store. A poisoned store
refuses every call and stays as it is.
-/

namespace EventStore

open Json

variable {input : EventInput}

variable {ext : Externals} {e : EventStoreError}

namespace DurableEventStore

inductive Call (ext : Externals) (limits : EventStoreLimits) (state : State) : State → Prop where
  | append (io : AppendIo) (input : EventInput) :
    Call ext limits state (append ext limits io input state).2
  | read (io : AppendIo) : Call ext limits state (lockLive io state).2
  | reread : Call ext limits state (rereadLiveRecords ext limits state).2

variable {limits : EventStoreLimits} {state state' : State}

end DurableEventStore

namespace SegmentedEventStore

inductive Call (ext : Externals) (config : SegmentedEventStoreConfig) (state : SegmentedState) :
    SegmentedState → Prop where
  | append (io : SegmentedAppendIo) (input : EventInput) :
    Call ext config state (append ext config io input state).2
  | appendDurable (io : SegmentedAppendIo) (sync : SyncIo) (input : EventInput) :
    Call ext config state (appendDurable ext config io sync input state).2
  | syncPending (io : SyncIo) : Call ext config state (syncPending config io state).2
  | flush (sync : SyncIo) (io : SidecarIo) :
    Call ext config state (flush ext config sync io state).2
  | checkpoint (sync : SyncIo) (snapshotIo indexIo : SidecarIo) :
    Call ext config state (checkpoint ext config sync snapshotIo indexIo state).2
  | read (checks : Option EventStoreError) :
    Call ext config state (withLiveState checks (fun state => state.records) state).2

variable {config : SegmentedEventStoreConfig} {state state' : SegmentedState}

end SegmentedEventStore

end EventStore
