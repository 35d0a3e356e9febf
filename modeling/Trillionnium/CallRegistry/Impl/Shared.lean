import Trillionnium.CallRegistry.Impl.Step

/-!
The call registry as its callers share it. A new entry is inserted after its slot was reserved, and the
slot of an entry is released after the entry was removed. The call holds the lock of its shard in
between: calls on other shards go on, those on the same shard wait.
-/

namespace CallRegistry

inductive Holder where
  | reserved (key : CallKey) (request : CallRequest)
  | removed
  deriving DecidableEq, Repr

structure Shared where
  registry : Registry
  holders : Fin registryShardCount → Option Holder

namespace Shared

def start (registry : Registry) : Shared := ⟨registry, fun _ => none⟩

def hold (s : Shared) (key : CallKey) (holder : Option Holder) :
    Fin registryShardCount → Option Holder :=
  Function.update s.holders (shardIndex key) holder

inductive Step (s : Shared) : Shared → Prop where
  | reserve {key : CallKey} {request : CallRequest} {snapshot : CallSnapshot} {registry : Registry}
      (hfree : s.holders (shardIndex key) = none)
      (h : s.registry.begin key request = .ok (⟨.new, snapshot⟩, registry)) :
    Step s ⟨{ s.registry with entryCount := s.registry.entryCount + 1 },
      s.hold key (some (.reserved key request))⟩
  | insert {key : CallKey} {request : CallRequest}
      (h : s.holders (shardIndex key) = some (.reserved key request)) :
    Step s ⟨s.registry.insert key (s.registry.freshEntry key request), s.hold key none⟩
  | remove {key : CallKey} {request : CallRequest} {registry : Registry}
      (hfree : s.holders (shardIndex key) = none)
      (h : s.registry.rollbackAccept key request = .ok (true, registry)
        ∨ s.registry.removeTerminal key = (true, registry)) :
    Step s ⟨{ s.registry with shards := Sharded.erase shardIndex s.registry.shards key },
      s.hold key (some .removed)⟩
  | release {key : CallKey} (h : s.holders (shardIndex key) = some .removed) :
    Step s ⟨s.registry.releaseEntry, s.hold key none⟩
  | other {op : Op} (hfree : ∀ key, op.key? = some key → s.holders (shardIndex key) = none)
      (hbegin : ∀ key request, op ≠ .begin key request)
      (hremove : (s.registry.step op).2 ≠ .removed (.ok true)) :
    Step s ⟨(s.registry.step op).1, s.holders⟩

def inFlight (s : Shared) : Nat := ∑ shard, (s.holders shard).elim 0 fun _ => 1

end Shared

end CallRegistry
