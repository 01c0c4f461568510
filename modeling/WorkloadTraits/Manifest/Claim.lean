import WorkloadTraits.Manifest.Metadata

/-!
# Claims on persistent volumes

A claim asks for storage of a size and a class.  A stateful set keeps claims as templates, from
which each of its pods gets a claim of its own.
-/

namespace WorkloadTraits

/-- The amounts of storage that a claim asks for. -/
structure ClaimResources where
  limits : Option StringMap := none
  requests : Option StringMap := none
deriving DecidableEq

/-- What a claim asks for. -/
structure ClaimSpec where
  accessModes : Option (List String) := none
  resources : Option ClaimResources := none
  storageClassName : Option String := none
deriving DecidableEq

/-- A claim on a persistent volume. -/
structure Claim where
  metadata : Metadata := {}
  spec : Option ClaimSpec := none
deriving DecidableEq

/-! ## As JSON and from JSON -/

/-- What a claim asks for as JSON. -/
def ClaimSpec.toJson (s : ClaimSpec) : Json :=
  .ofGiven [
    ("accessModes", s.accessModes.map .ofTexts),
    ("resources", s.resources.map fun r =>
      .ofGiven [
        ("limits", r.limits.map SortedMap.toJson),
        ("requests", r.requests.map SortedMap.toJson)]),
    ("storageClassName", s.storageClassName.map .string)]

/-- A claim as JSON. -/
def Claim.toJson (c : Claim) : Json :=
  .ofGiven [
    ("apiVersion", some (.string "v1")), ("kind", some (.string "PersistentVolumeClaim")),
    ("metadata", some c.metadata.toJson), ("spec", c.spec.map ClaimSpec.toJson)]

open Json (string? list? map?)

/-- Amounts of storage from JSON. -/
def ClaimResources.ofJson? (j : Json) : Option ClaimResources := do
  guard j.isObject
  return { limits := ← j.field? "limits" map?, requests := ← j.field? "requests" map? }

/-- What a claim asks for from JSON. -/
def ClaimSpec.ofJson? (j : Json) : Option ClaimSpec := do
  guard j.isObject
  return {
    accessModes := ← j.field? "accessModes" (list? string?)
    resources := ← j.field? "resources" ClaimResources.ofJson?
    storageClassName := ← j.field? "storageClassName" string? }

/-- A claim from JSON. -/
def Claim.ofJson? (j : Json) : Option Claim := do
  guard (j.isOfKind "v1" "PersistentVolumeClaim")
  return { metadata := ← Metadata.ofManifest? j, spec := ← j.field? "spec" ClaimSpec.ofJson? }

end WorkloadTraits
