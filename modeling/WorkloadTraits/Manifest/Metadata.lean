import WorkloadTraits.Json.Object

/-!
# Metadata of objects

Every manifest carries metadata: a name, or a stem from which the cluster makes one, a namespace,
labels and annotations.
-/

namespace WorkloadTraits

/-- The metadata of an object. -/
structure Metadata where
  name : Option String := none
  generateName : Option String := none
  /-- The namespace. -/
  ns : Option String := none
  labels : Option StringMap := none
  annotations : Option StringMap := none
deriving DecidableEq

namespace Metadata

/-- The name that the object is known by so far; empty when there is none. -/
def anyName (m : Metadata) : String :=
  (m.name.or m.generateName).getD ""

/-- An annotation. -/
def annotationValue? (m : Metadata) (key : String) : Option String :=
  m.annotations.bind (·.get? key)

/-- Metadata as JSON. -/
def toJson (m : Metadata) : Json :=
  .ofGiven [
    ("name", m.name.map .string), ("generateName", m.generateName.map .string),
    ("namespace", m.ns.map .string), ("labels", m.labels.map SortedMap.toJson),
    ("annotations", m.annotations.map SortedMap.toJson)]

/-- Metadata from JSON. -/
def ofJson? (j : Json) : Option Metadata := do
  guard j.isObject
  return {
    name := ← j.field? "name" Json.string?
    generateName := ← j.field? "generateName" Json.string?
    ns := ← j.field? "namespace" Json.string?
    labels := ← j.field? "labels" Json.map?
    annotations := ← j.field? "annotations" Json.map? }

/-- The metadata of a manifest; empty when it has none. -/
def ofManifest? (j : Json) : Option Metadata :=
  j.fieldD "metadata" ofJson? {}

end Metadata

end WorkloadTraits
