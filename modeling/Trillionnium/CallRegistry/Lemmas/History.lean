import Trillionnium.CallRegistry.Lemmas.Spawn

/-!
What the operations of the call registry leave behind when they fail, and which entries can be rolled
back.
-/

namespace CallRegistry

namespace Registry

open Machine

variable {registry : Registry} {limits : RegistryLimits} {key : CallKey} {entry entry' : Entry}

end Registry

end CallRegistry
