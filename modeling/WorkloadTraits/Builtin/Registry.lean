import WorkloadTraits.Builtin.Access
import WorkloadTraits.Builtin.Containers
import WorkloadTraits.Builtin.Environment
import WorkloadTraits.Builtin.Ingress
import WorkloadTraits.Builtin.Probes
import WorkloadTraits.Builtin.Resources
import WorkloadTraits.Builtin.Secret
import WorkloadTraits.Builtin.Storage
import WorkloadTraits.Dispatch.Level

/-!
# The built-in processors

One processor for each kind of trait, in the order in which they run: first what defines
resources, then what adds containers and with them further levels, last what stands alone.
-/

namespace WorkloadTraits

/-- The built-in processor of a kind. -/
def builtinProcessor : TraitKind → Processor
  | .storage => Storage.processor
  | .secret => Secret.processor
  | .envFrom => Environment.sourceProcessor
  | .envs => Environment.variableProcessor
  | .resources => Resources.processor
  | .probes => Probes.processor
  | .rbac => Access.processor
  | .init => Containers.initProcessor
  | .sidecar => Containers.sidecarProcessor
  | .ingress => Ingresses.processor

/-- A built-in processor goes by the name of its kind. -/
theorem builtinProcessor_name (k : TraitKind) : (builtinProcessor k).name = k.name := by
  cases k <;> rfl

/-- A built-in processor is for its kind. -/
theorem builtinProcessor_kind (k : TraitKind) : (builtinProcessor k).kind = k := by
  cases k <;> rfl

/-- All built-in processors, in order. -/
def builtinProcessors : List Processor :=
  TraitKind.all.map builtinProcessor

/-- The registry of the built-in processors. -/
def Registry.builtin : Registry where
  processors := builtinProcessors
  nodup := by decide

end WorkloadTraits
