import WorkloadTraits.Manifest.Container
import WorkloadTraits.Manifest.Metadata

/-!
# Pods

The part of a workload that traits change: the containers, the containers that run first, the
volumes, and the account under which the pod runs.
-/

namespace WorkloadTraits

/-- A config map as a volume. -/
structure ConfigMapVolume where
  name : Option String := none
  defaultMode : Option Int32 := none
deriving DecidableEq

/-- A secret as a volume. -/
structure SecretVolume where
  secretName : Option String := none
  defaultMode : Option Int32 := none
deriving DecidableEq

/-- A volume of a pod. -/
structure Volume where
  name : String := ""
  /-- Whether the volume is an empty directory. -/
  emptyDir : Bool := false
  /-- The path on the host. -/
  hostPath : Option String := none
  configMap : Option ConfigMapVolume := none
  secret : Option SecretVolume := none
  /-- The name of a persistent volume's claim. -/
  claimName : Option String := none
deriving DecidableEq

/-- A pod. -/
structure Pod where
  containers : List Container := []
  initContainers : Option (List Container) := none
  volumes : Option (List Volume) := none
  serviceAccountName : Option String := none
  automountToken : Option Bool := none
deriving DecidableEq

/-- A pod with its metadata, from which a workload makes its pods. -/
structure PodTemplate where
  metadata : Option Metadata := none
  pod : Option Pod := none
deriving DecidableEq

namespace Pod

/-- The init containers, if any. -/
def inits (p : Pod) : List Container := p.initContainers.getD []

/-- The volumes, if any. -/
def volumeList (p : Pod) : List Volume := p.volumes.getD []

end Pod

/-! ## As JSON -/

/-- A volume as JSON. -/
def Volume.toJson (v : Volume) : Json :=
  .ofGiven [
    ("name", some (.string v.name)),
    ("emptyDir", if v.emptyDir then some (.ofFields []) else none),
    ("hostPath", v.hostPath.map fun path => .ofFields [("path", .string path)]),
    ("configMap", v.configMap.map fun c =>
      .ofGiven [("name", c.name.map .string), ("defaultMode", c.defaultMode.map .int32)]),
    ("secret", v.secret.map fun s =>
      .ofGiven [
        ("secretName", s.secretName.map .string), ("defaultMode", s.defaultMode.map .int32)]),
    ("persistentVolumeClaim", v.claimName.map fun name =>
      .ofFields [("claimName", .string name)])]

/-- A pod as JSON. -/
def Pod.toJson (p : Pod) : Json :=
  .ofGiven [
    ("containers", some (.ofList Container.toJson p.containers)),
    ("initContainers", p.initContainers.map (.ofList Container.toJson)),
    ("volumes", p.volumes.map (.ofList Volume.toJson)),
    ("serviceAccountName", p.serviceAccountName.map .string),
    ("automountServiceAccountToken", p.automountToken.map .bool)]

/-- A pod with its metadata as JSON. -/
def PodTemplate.toJson (t : PodTemplate) : Json :=
  .ofGiven [("metadata", t.metadata.map Metadata.toJson), ("spec", t.pod.map Pod.toJson)]

/-! ## From JSON -/

open Json (string? bool? int32? list?)

/-- The path of a directory on the host from JSON. -/
def hostPath? (j : Json) : Option String := do
  guard j.isObject
  j.fieldD "path" string? ""

/-- A config map's volume from JSON. -/
def ConfigMapVolume.ofJson? (j : Json) : Option ConfigMapVolume := do
  guard j.isObject
  return { name := ← j.field? "name" string?, defaultMode := ← j.field? "defaultMode" int32? }

/-- A secret's volume from JSON. -/
def SecretVolume.ofJson? (j : Json) : Option SecretVolume := do
  guard j.isObject
  return {
    secretName := ← j.field? "secretName" string?
    defaultMode := ← j.field? "defaultMode" int32? }

/-- The claim of a volume from JSON. -/
def volumeClaim? (j : Json) : Option String := do
  guard j.isObject
  j.fieldD "claimName" string? ""

/-- A volume from JSON. -/
def Volume.ofJson? (j : Json) : Option Volume := do
  guard j.isObject
  return {
    name := ← j.fieldD "name" string? ""
    emptyDir := ← j.fieldD "emptyDir" (fun e => if e.isObject then some true else none) false
    hostPath := ← j.field? "hostPath" hostPath?
    configMap := ← j.field? "configMap" ConfigMapVolume.ofJson?
    secret := ← j.field? "secret" SecretVolume.ofJson?
    claimName := ← j.field? "persistentVolumeClaim" volumeClaim? }

/-- A pod from JSON. -/
def Pod.ofJson? (j : Json) : Option Pod := do
  guard j.isObject
  return {
    containers := ← j.fieldD "containers" (list? Container.ofJson?) []
    initContainers := ← j.field? "initContainers" (list? Container.ofJson?)
    volumes := ← j.field? "volumes" (list? Volume.ofJson?)
    serviceAccountName := ← j.field? "serviceAccountName" string?
    automountToken := ← j.field? "automountServiceAccountToken" bool? }

/-- A pod with its metadata from JSON. -/
def PodTemplate.ofJson? (j : Json) : Option PodTemplate := do
  guard j.isObject
  return {
    metadata := ← j.field? "metadata" Metadata.ofJson?
    pod := ← j.field? "spec" Pod.ofJson? }

end WorkloadTraits
