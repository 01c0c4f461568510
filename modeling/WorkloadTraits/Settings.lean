import WorkloadTraits.Failure
import WorkloadTraits.Json.Scalar
import WorkloadTraits.Quantity
import WorkloadTraits.Schema.Record
import WorkloadTraits.Yaml.Flow

/-!
# Settings

What can be set about the processing of traits.  Every setting has a default, so nothing need be
given.  Settings come from a JSON value (`Settings.ofJson`), or from a file (`Settings.ofFile`),
where a text need not stand between quotes and the settings are checked besides.
-/

namespace WorkloadTraits

/-- The settings. -/
structure Settings where
  /-- How deep traits may be nested. -/
  maxDepth : Nat := 8
  /-- The namespace of components that name none. -/
  defaultNamespace : String := "default"
  /-- The size of created claims that name none. -/
  defaultClaimSize : String := "1Gi"
  /-- The name under which the limit on graphics processors is set. -/
  gpuResource : String := "nvidia.com/gpu"
  /-- The file mode of config map and secret volumes. -/
  volumeMode : Int32 := 420
  /-- The annotation that marks a claim as a template. -/
  templateKey : String := "storage.kubemin.cli/pvc-role"
deriving DecidableEq

namespace Settings

/-- The value of the annotation on a claim that is a template. -/
def templateMark : String := "template"

open Schema in
/-- The schema of settings. -/
def schema : Record Settings where
  name := "EngineConfig"
  blank := {}
  fields := [
    optionalField "maxDepth" natural fun v r => { r with maxDepth := v },
    optionalField "defaultNamespace" text fun v r => { r with defaultNamespace := v },
    optionalField "defaultPvcSize" text fun v r => { r with defaultClaimSize := v },
    optionalField "gpuResourceName" text fun v r => { r with gpuResource := v },
    optionalField "volumeDefaultMode" int32 fun v r => { r with volumeMode := v },
    optionalField "pvcRoleAnnotation" text fun v r => { r with templateKey := v }]

/-- Settings from a JSON value. -/
def ofJson (j : Json) : Except Failure Settings :=
  (Schema.ofJson schema.decoder j).mapError fun _ => .unreadableManifest

/-- Settings as JSON. -/
def toJson (s : Settings) : Json :=
  .ofFields [
    ("maxDepth", .int s.maxDepth), ("defaultNamespace", .string s.defaultNamespace),
    ("defaultPvcSize", .string s.defaultClaimSize), ("gpuResourceName", .string s.gpuResource),
    ("volumeDefaultMode", .int32 s.volumeMode), ("pvcRoleAnnotation", .string s.templateKey)]

/-- Refuses settings with which traits cannot be processed. -/
def check (s : Settings) : Except Failure Unit :=
  if s.maxDepth = 0 then .error (.configuration "maxDepth must be at least 1")
  else if Text.isBlankText s.gpuResource then
    .error (.configuration "gpuResourceName must not be empty")
  else if Text.isBlankText s.templateKey then
    .error (.configuration "pvcRoleAnnotation must not be empty")
  else
    match Quantity.read s.defaultClaimSize with
    | .ok _ => .ok ()
    | .error fault =>
      .error (.configuration
        (Failure.invalidQuantity "defaultPvcSize" s.defaultClaimSize fault.reason).display)

/-- The settings that the value of a file gives. -/
def given? (j : Json) : Option Settings := do
  guard j.isObject
  let blank : Settings := {}
  let text (name : String) (default : String) : Option String := do
    return (← j.scalarField? name Json.scalarText?).getD default
  return {
    maxDepth := (← j.scalarField? "maxDepth" Json.nat?).getD blank.maxDepth
    defaultNamespace := ← text "defaultNamespace" blank.defaultNamespace
    defaultClaimSize := ← text "defaultPvcSize" blank.defaultClaimSize
    gpuResource := ← text "gpuResourceName" blank.gpuResource
    volumeMode := (← j.scalarField? "volumeDefaultMode" Json.int32?).getD blank.volumeMode
    templateKey := ← text "pvcRoleAnnotation" blank.templateKey }

/-- Settings from the text of a file, checked. -/
def ofFile (text : String) : Except Failure Settings := do
  match (Yaml.parse? text).bind given? with
  | none => throw .unreadableFile
  | some s =>
    s.check
    return s

/-- The settings in full, on one line. -/
def text (s : Settings) : String :=
  Failure.labelled "EngineConfig" [
    ("max_depth", toString s.maxDepth), ("default_namespace", Text.quoted s.defaultNamespace),
    ("default_pvc_size", Text.quoted s.defaultClaimSize),
    ("gpu_resource_name", Text.quoted s.gpuResource),
    ("volume_default_mode", toString s.volumeMode.toInt),
    ("pvc_role_annotation", Text.quoted s.templateKey)]

end Settings

end WorkloadTraits
