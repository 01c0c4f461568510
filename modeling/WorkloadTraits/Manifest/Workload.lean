import WorkloadTraits.Failure
import WorkloadTraits.Manifest.Claim
import WorkloadTraits.Manifest.Pod

/-!
# Workloads

Traits are placed on the pods of a deployment, a stateful set or a daemon set.  The three differ
in that a stateful set also has a service and templates of claims; for the other two these fields
are empty and never written.
-/

namespace WorkloadTraits

/-- A kind of workload. -/
inductive WorkloadKind
  | deployment
  | statefulSet
  | daemonSet
deriving DecidableEq

/-- What a workload consists of. -/
structure WorkloadSpec where
  /-- The labels by which the workload finds its pods. -/
  matchLabels : Option StringMap := none
  template : PodTemplate := {}
  serviceName : String := ""
  claimTemplates : Option (List Claim) := none
deriving DecidableEq

/-- A workload. -/
structure Workload where
  kind : WorkloadKind
  metadata : Metadata := {}
  spec : Option WorkloadSpec := none
deriving DecidableEq

/-- The name of a kind of workload. -/
def WorkloadKind.name : WorkloadKind → String
  | deployment => "Deployment"
  | statefulSet => "StatefulSet"
  | daemonSet => "DaemonSet"

/-- The kind of workload with a name. -/
def WorkloadKind.ofName? : String → Option WorkloadKind
  | "Deployment" => some deployment
  | "StatefulSet" => some statefulSet
  | "DaemonSet" => some daemonSet
  | _ => none

namespace Workload

/-- The name of a workload; empty when it has none. -/
def name (w : Workload) : String := w.metadata.anyName

/-- The template of the workload's pods. -/
def template? (w : Workload) : Option PodTemplate := w.spec.map (·.template)

/-- The pod of the workload. -/
def pod? (w : Workload) : Option Pod := w.template?.bind (·.pod)

/-- The workload with its pod changed; without a pod nothing changes. -/
def mapPod (f : Pod → Pod) (w : Workload) : Workload :=
  { w with spec := w.spec.map fun s =>
      { s with template := { s.template with pod := s.template.pod.map f } } }

/-- The application container of a name. -/
def container? (w : Workload) (name : String) : Option Container :=
  w.pod?.bind fun p => p.containers.find? (·.name == name)

/-- Whether the workload keeps templates of claims. -/
def isStateful (w : Workload) : Bool := w.kind == .statefulSet

/-- The templates of claims, if any. -/
def claimTemplateList (w : Workload) : List Claim := (w.spec.bind (·.claimTemplates)).getD []

end Workload

/-! ## As JSON and from JSON -/

/-- The labels of a selector as JSON. -/
def selectorJson (labels : Option StringMap) : Json :=
  .ofGiven [("matchLabels", labels.map SortedMap.toJson)]

/-- What a workload of a kind consists of as JSON. -/
def WorkloadSpec.toJson (kind : WorkloadKind) (s : WorkloadSpec) : Json :=
  .ofGiven <| [
    ("selector", some (selectorJson s.matchLabels)), ("template", some s.template.toJson)] ++
    if kind = .statefulSet then [
      ("serviceName", some (.string s.serviceName)),
      ("volumeClaimTemplates", s.claimTemplates.map (.ofList Claim.toJson))]
    else []

/-- A workload as JSON. -/
def Workload.toJson (w : Workload) : Json :=
  .ofGiven [
    ("apiVersion", some (.string "apps/v1")), ("kind", some (.string w.kind.name)),
    ("metadata", some w.metadata.toJson), ("spec", w.spec.map (·.toJson w.kind))]

open Json (string? list? map?)

/-- The labels of a selector from JSON. -/
def selector? (j : Json) : Option (Option StringMap) := do
  guard j.isObject
  j.field? "matchLabels" map?

/-- What a workload of a kind consists of from JSON. -/
def WorkloadSpec.ofJson? (kind : WorkloadKind) (j : Json) : Option WorkloadSpec := do
  guard j.isObject
  let stateful := kind = .statefulSet
  return {
    matchLabels := ← j.fieldD "selector" selector? none
    template := ← j.fieldD "template" PodTemplate.ofJson? {}
    serviceName := ← if stateful then j.fieldD "serviceName" string? "" else some ""
    claimTemplates := ←
      if stateful then j.field? "volumeClaimTemplates" (list? Claim.ofJson?) else some none }

/-- A workload of a kind from JSON. -/
def Workload.ofKind? (kind : WorkloadKind) (j : Json) : Option Workload := do
  guard (j.isOfKind "apps/v1" kind.name)
  return {
    kind
    metadata := ← Metadata.ofManifest? j
    spec := ← j.field? "spec" (WorkloadSpec.ofJson? kind) }

/-- A workload from JSON; a kind other than the three is refused first. -/
def Workload.ofJson (j : Json) : Except Failure Workload :=
  match (j.get? "kind").bind string? with
  | none | some "" => .error (.unsupportedWorkload "<missing kind>")
  | some kind =>
    match WorkloadKind.ofName? kind with
    | none => .error (.unsupportedWorkload kind)
    | some k =>
      match Workload.ofKind? k j with
      | some w => .ok w
      | none => .error .unreadableManifest

end WorkloadTraits
