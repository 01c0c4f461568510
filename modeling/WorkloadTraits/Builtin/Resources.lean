import WorkloadTraits.Builtin.Field

/-!
# The resources trait

Limits on processor time, memory and graphics processors for the decorated container.  A limit
that is blank is not set.
-/

namespace WorkloadTraits.Resources

/-- Adds a limit that is given. -/
def addLimit (limits : StringMap) (field key raw : String) : Except Failure StringMap :=
  if Text.isBlankText raw then .ok limits
  else (readQuantity field raw).map (limits.insert key)

/-- The limits that an entry gives. -/
def limits (site : Site) (e : ResourceEntry) : Except Failure StringMap := do
  let limits ← addLimit .empty "cpu" "cpu" e.cpu
  let limits ← addLimit limits "memory" "memory" e.memory
  addLimit limits "gpu" site.settings.gpuResource e.gpu

/-- The contribution of limits, if there are any. -/
def contribution (site : Site) (e : ResourceEntry) : Except Failure (Option Contribution) := do
  let limits ← limits site e
  return limits.given?.map fun limits => { resources := some { limits := some limits } }

/-- The processor of the resources trait. -/
def processor : Processor where
  name := "resources"
  kind := .resources
  process := fun c =>
    match c.data with
    | .resources entry => .ofExcept (contribution c.toSite entry)
    | data => .fail (.typeMismatch "resources" TraitKind.resources.name data.kind.name)

end WorkloadTraits.Resources
