import WorkloadTraits.Json.Object
import WorkloadTraits.Trait.Entry

/-!
# Payloads as JSON

The JSON value of a payload.  Of the fields that may be left out, those that say nothing are: an
empty text, list or map, and a value that is not given.  Truth values and numbers are always
written.  Decoding the value by the schema gives the payload back.
-/

namespace WorkloadTraits

namespace Written

/-- A text, left out when empty. -/
def text (s : String) : Option Json := (Text.given? s).map .string

/-- A list, left out when empty. -/
def items (js : List Json) : Option Json := if js.isEmpty then none else some (.array js)

/-- A map, left out when empty. -/
def entries (m : StringMap) : Option Json := m.given?.map SortedMap.toJson

end Written

open Written

/-- A storage entry as JSON. -/
def StorageEntry.toJson (e : StorageEntry) : Json :=
  .ofGiven [
    ("name", some (.string e.name)), ("type", some (.string e.type)),
    ("mountPath", some (.string e.mountPath)), ("subPath", text e.subPath),
    ("readOnly", some (.bool e.readOnly)), ("sourceName", text e.sourceName),
    ("create", some (.bool e.create)), ("size", text e.size), ("claimName", text e.claimName),
    ("storageClass", text e.storageClass)]

/-- A secret entry as JSON. -/
def SecretEntry.toJson (e : SecretEntry) : Json :=
  .ofGiven [("data", some e.data.toJson)]

/-- A source of variables as JSON. -/
def EnvSourceEntry.toJson (e : EnvSourceEntry) : Json :=
  .ofGiven [("type", some (.string e.type)), ("sourceName", some (.string e.sourceName))]

/-- A key in a named source as JSON. -/
def KeySelector.toJson (e : KeySelector) : Json :=
  .ofGiven [("name", some (.string e.name)), ("key", some (.string e.key))]

/-- A variable's source as JSON. -/
def ValueSource.toJson (e : ValueSource) : Json :=
  .ofGiven [
    ("static", e.static.map .string), ("secret", e.secret.map KeySelector.toJson),
    ("config", e.config.map KeySelector.toJson), ("field", e.field.map .string)]

/-- A variable as JSON. -/
def EnvEntry.toJson (e : EnvEntry) : Json :=
  .ofGiven [("name", some (.string e.name)), ("valueFrom", some e.valueFrom.toJson)]

/-- A command to run as JSON. -/
def ExecCheck.toJson (e : ExecCheck) : Json :=
  .ofGiven [("command", some (.ofTexts e.command))]

/-- A request to make as JSON. -/
def HttpCheck.toJson (e : HttpCheck) : Json :=
  .ofGiven [
    ("path", some (.string e.path)), ("port", some (.int32 e.port)), ("host", text e.host),
    ("scheme", text e.scheme)]

/-- A connection to open as JSON. -/
def TcpCheck.toJson (e : TcpCheck) : Json :=
  .ofGiven [("port", some (.int32 e.port)), ("host", text e.host)]

/-- A probe as JSON. -/
def ProbeEntry.toJson (e : ProbeEntry) : Json :=
  .ofGiven [
    ("type", some (.string e.type)),
    ("initialDelaySeconds", some (.int32 e.initialDelaySeconds)),
    ("periodSeconds", some (.int32 e.periodSeconds)),
    ("timeoutSeconds", some (.int32 e.timeoutSeconds)),
    ("failureThreshold", some (.int32 e.failureThreshold)),
    ("successThreshold", some (.int32 e.successThreshold)),
    ("exec", e.exec.map ExecCheck.toJson), ("httpGet", e.httpGet.map HttpCheck.toJson),
    ("tcpSocket", e.tcpSocket.map TcpCheck.toJson)]

/-- Limits as JSON. -/
def ResourceEntry.toJson (e : ResourceEntry) : Json :=
  .ofGiven [("cpu", text e.cpu), ("memory", text e.memory), ("gpu", text e.gpu)]

/-- A rule as JSON. -/
def AccessRule.toJson (e : AccessRule) : Json :=
  .ofGiven [
    ("apiGroups", items (e.apiGroups.map .string)),
    ("resources", items (e.resources.map .string)),
    ("resourceNames", items (e.resourceNames.map .string)),
    ("nonResourceURLs", items (e.nonResourceUrls.map .string)),
    ("verbs", some (.ofTexts e.verbs))]

/-- An access policy as JSON. -/
def AccessPolicy.toJson (e : AccessPolicy) : Json :=
  .ofGiven [
    ("serviceAccount", text e.serviceAccount), ("namespace", text e.ns),
    ("clusterScope", some (.bool e.clusterScope)), ("roleName", text e.roleName),
    ("bindingName", text e.bindingName),
    ("serviceAccountLabels", entries e.serviceAccountLabels),
    ("serviceAccountAnnotations", entries e.serviceAccountAnnotations),
    ("roleLabels", entries e.roleLabels), ("bindingLabels", entries e.bindingLabels),
    ("rules", some (.array (e.rules.map AccessRule.toJson))),
    ("automountServiceAccountToken", e.automountToken.map .bool)]

/-- The service behind a route as JSON. -/
def RouteBackend.toJson (e : RouteBackend) : Json :=
  .ofGiven [
    ("serviceName", some (.string e.serviceName)), ("servicePort", some (.int32 e.servicePort))]

/-- A change of path as JSON. -/
def PathChange.toJson (e : PathChange) : Json :=
  .ofGiven [
    ("type", some (.string e.type)), ("match", text e.pattern),
    ("replacement", text e.replacement)]

/-- A route as JSON. -/
def Route.toJson (e : Route) : Json :=
  .ofGiven [
    ("path", text e.path), ("pathType", text e.pathType), ("host", text e.host),
    ("backend", some e.backend.toJson), ("rewrite", e.change.map PathChange.toJson)]

/-- A certificate as JSON. -/
def Certificate.toJson (e : Certificate) : Json :=
  .ofGiven [
    ("secretName", some (.string e.secretName)), ("hosts", items (e.hosts.map .string))]

/-- An ingress entry as JSON. -/
def IngressEntry.toJson (e : IngressEntry) : Json :=
  .ofGiven [
    ("name", text e.name), ("namespace", text e.ns), ("hosts", items (e.hosts.map .string)),
    ("label", entries e.label), ("annotations", entries e.annotations),
    ("ingressClassName", text e.className), ("defaultPathType", text e.defaultPathType),
    ("tls", items (e.tls.map Certificate.toJson)),
    ("routes", some (.array (e.routes.map Route.toJson)))]

/-- An init entry's container as JSON. -/
def InitProperties.toJson (e : InitProperties) : Json :=
  .ofGiven [
    ("image", some (.string e.image)), ("command", items (e.command.map .string)),
    ("env", entries e.env)]

namespace Traits

mutual

/-- A payload as JSON. -/
def toJson : Traits → Json
  | ⟨init, storage, secret, sidecar, envFrom, envs, probes, rbac, ingress, resources⟩ =>
    .ofGiven [
      ("init", items (initItems init)),
      ("storage", items (storage.map StorageEntry.toJson)),
      ("secret", items (secret.map SecretEntry.toJson)),
      ("sidecar", items (sidecarItems sidecar)),
      ("envFrom", items (envFrom.map EnvSourceEntry.toJson)),
      ("envs", items (envs.map EnvEntry.toJson)),
      ("probes", items (probes.map ProbeEntry.toJson)),
      ("rbac", items (rbac.map AccessPolicy.toJson)),
      ("ingress", items (ingress.map fun
        | none => .null
        | some e => e.toJson)),
      ("resources", resources.map ResourceEntry.toJson)]

/-- Init entries as JSON. -/
def initItems : List (InitEntry Traits) → List Json
  | [] => []
  | ⟨name, properties, traits⟩ :: rest =>
    .ofGiven [
      ("name", some (.string name)), ("properties", some properties.toJson),
      ("traits", some traits.toJson)] :: initItems rest

/-- Sidecar entries as JSON. -/
def sidecarItems : List (SidecarEntry Traits) → List Json
  | [] => []
  | ⟨name, image, command, args, env, traits⟩ :: rest =>
    .ofGiven [
      ("name", some (.string name)), ("image", some (.string image)),
      ("command", items (command.map .string)), ("args", items (args.map .string)),
      ("env", entries env), ("traits", some traits.toJson)] :: sidecarItems rest

end

end Traits

end WorkloadTraits
