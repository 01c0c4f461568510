import WorkloadTraits.Contribution.Basic

/-!
# Contributions as JSON

A contribution is written with its lists, where an empty list is left out, and with its values for
containers as pairs of a name and a list, so that the order of the names is kept.
-/

namespace WorkloadTraits

/-- A routing as a list of pairs. -/
def Routing.toJson {α : Type} (write : α → Json) (r : Routing α) : Json :=
  .ofList (fun (name, values) => .array [.string name, .ofList write values]) r.entries

/-- A pair of a name and a list from JSON. -/
def routed? {α : Type} (read : Json → Option α) : Json → Option (String × List α)
  | .array [.string name, values] => return (name, ← values.list? read)
  | _ => none

/-- A routing from JSON. -/
def Routing.ofJson? {α : Type} (read : Json → Option α) (j : Json) : Option (Routing α) :=
  (j.list? (routed? read)).map .ofList

namespace Contribution

/-- A list as a field, left out when empty. -/
def listField {α : Type} (write : α → Json) (as : List α) : Option Json :=
  if as.isEmpty then none else some (.ofList write as)

/-- A routing as a field, left out when empty. -/
def routingField {α : Type} (write : α → Json) (r : Routing α) : Option Json :=
  if r.isEmpty then none else some (r.toJson write)

/-- A contribution as JSON. -/
def toJson (c : Contribution) : Json :=
  .ofGiven [
    ("initContainers", listField Container.toJson c.initContainers),
    ("containers", listField Container.toJson c.containers),
    ("volumes", listField Volume.toJson c.volumes),
    ("volumeMounts", routingField VolumeMount.toJson c.volumeMounts),
    ("envVars", routingField EnvVar.toJson c.envVars),
    ("envFrom", routingField EnvSource.toJson c.envFrom),
    ("additionalObjects", listField Companion.toJson c.objects),
    ("serviceAccountName", c.serviceAccountName.map .string),
    ("automountServiceAccountToken", c.automountToken.map .bool),
    ("livenessProbe", c.livenessProbe.map Probe.toJson),
    ("readinessProbe", c.readinessProbe.map Probe.toJson),
    ("startupProbe", c.startupProbe.map Probe.toJson),
    ("resources", c.resources.map ResourceRequirements.toJson)]

/-- The front of a contribution: its containers and volumes, and its values for containers. -/
def frontOfJson? (j : Json) : Option Contribution := do
  return {
    initContainers := ← j.fieldD "initContainers" (·.list? Container.ofJson?) []
    containers := ← j.fieldD "containers" (·.list? Container.ofJson?) []
    volumes := ← j.fieldD "volumes" (·.list? Volume.ofJson?) []
    volumeMounts := ← j.fieldD "volumeMounts" (Routing.ofJson? VolumeMount.ofJson?) .empty
    envVars := ← j.fieldD "envVars" (Routing.ofJson? EnvVar.ofJson?) .empty
    envFrom := ← j.fieldD "envFrom" (Routing.ofJson? EnvSource.ofJson?) .empty }

/-- The contribution of which the front and the objects have been read. -/
def completeOfJson? (front : Contribution) (objects : List Companion) (j : Json) :
    Option Contribution := do
  return { front with
    objects
    serviceAccountName := ← j.field? "serviceAccountName" Json.string?
    automountToken := ← j.field? "automountServiceAccountToken" Json.bool?
    livenessProbe := ← j.field? "livenessProbe" Probe.ofJson?
    readinessProbe := ← j.field? "readinessProbe" Probe.ofJson?
    startupProbe := ← j.field? "startupProbe" Probe.ofJson?
    resources := ← j.field? "resources" ResourceRequirements.ofJson? }

end Contribution

end WorkloadTraits
