import WorkloadTraits.Schema.Record
import WorkloadTraits.Trait.Entry

/-!
# The schema of a payload

For each type of `WorkloadTraits.Trait.Entry` one record: its fields in the order in which a list
of positions gives them, their names, and which have to be given.  The names of the records are
those that messages use.

Init and sidecar entries hold a payload again.  From one payload to the next the reader enters
three arrays or objects (the payload, the list, the entry), so the limit of nesting sinks by three
and the recursion of `Traits.decoder` follows it.
-/

namespace WorkloadTraits

open Schema

/-- The schema of a storage entry. -/
def StorageEntry.schema : Record StorageEntry where
  name := "StorageSpec"
  blank := {}
  fields := [
    optionalField "name" text fun v r => { r with name := v },
    optionalField "type" text fun v r => { r with type := v },
    optionalField "mountPath" text fun v r => { r with mountPath := v },
    optionalField "subPath" text fun v r => { r with subPath := v },
    optionalField "readOnly" boolean fun v r => { r with readOnly := v },
    optionalField "sourceName" text fun v r => { r with sourceName := v },
    optionalField "create" boolean fun v r => { r with create := v },
    optionalField "size" text fun v r => { r with size := v },
    optionalField "claimName" text fun v r => { r with claimName := v },
    optionalField "storageClass" text fun v r => { r with storageClass := v }]

/-- The schema of a secret entry. -/
def SecretEntry.schema : Record SecretEntry where
  name := "SecretSpec"
  blank := {}
  fields := [optionalField "data" map fun v r => { r with data := v }]

/-- The schema of a source of variables. -/
def EnvSourceEntry.schema : Record EnvSourceEntry where
  name := "EnvFromSpec"
  blank := {}
  fields := [
    optionalField "type" text fun v r => { r with type := v },
    optionalField "sourceName" text fun v r => { r with sourceName := v }]

/-- The schema of a key in a named source. -/
def KeySelector.schema : Record KeySelector where
  name := "KeySelector"
  blank := {}
  fields := [
    requiredField "name" text fun v r => { r with name := v },
    requiredField "key" text fun v r => { r with key := v }]

/-- The schema of a variable's source. -/
def ValueSource.schema : Record ValueSource where
  name := "ValueSource"
  blank := {}
  fields := [
    optionalField "static" (optional text) fun v r => { r with static := v },
    optionalField "secret" (optional KeySelector.schema.decoder) fun v r => { r with secret := v },
    optionalField "config" (optional KeySelector.schema.decoder) fun v r => { r with config := v },
    optionalField "field" (optional text) fun v r => { r with field := v }]

/-- The schema of a variable. -/
def EnvEntry.schema : Record EnvEntry where
  name := "EnvSpec"
  blank := {}
  fields := [
    requiredField "name" text fun v r => { r with name := v },
    optionalField "valueFrom" ValueSource.schema.decoder fun v r => { r with valueFrom := v }]

/-- The schema of a command to run. -/
def ExecCheck.schema : Record ExecCheck where
  name := "ExecProbe"
  blank := {}
  fields := [optionalField "command" (list text) fun v r => { r with command := v }]

/-- The schema of a request to make. -/
def HttpCheck.schema : Record HttpCheck where
  name := "HttpGetProbe"
  blank := {}
  fields := [
    optionalField "path" text fun v r => { r with path := v },
    requiredField "port" int32 fun v r => { r with port := v },
    optionalField "host" text fun v r => { r with host := v },
    optionalField "scheme" text fun v r => { r with scheme := v }]

/-- The schema of a connection to open. -/
def TcpCheck.schema : Record TcpCheck where
  name := "TcpSocketProbe"
  blank := {}
  fields := [
    requiredField "port" int32 fun v r => { r with port := v },
    optionalField "host" text fun v r => { r with host := v }]

/-- The schema of a probe. -/
def ProbeEntry.schema : Record ProbeEntry where
  name := "ProbeSpec"
  blank := {}
  fields := [
    optionalField "type" text fun v r => { r with type := v },
    optionalField "initialDelaySeconds" int32 fun v r => { r with initialDelaySeconds := v },
    optionalField "periodSeconds" int32 fun v r => { r with periodSeconds := v },
    optionalField "timeoutSeconds" int32 fun v r => { r with timeoutSeconds := v },
    optionalField "failureThreshold" int32 fun v r => { r with failureThreshold := v },
    optionalField "successThreshold" int32 fun v r => { r with successThreshold := v },
    optionalField "exec" (optional ExecCheck.schema.decoder) fun v r => { r with exec := v },
    optionalField "httpGet" (optional HttpCheck.schema.decoder) fun v r => { r with httpGet := v },
    optionalField "tcpSocket" (optional TcpCheck.schema.decoder) fun v r =>
      { r with tcpSocket := v }]

/-- The schema of limits. -/
def ResourceEntry.schema : Record ResourceEntry where
  name := "ResourcesSpec"
  blank := {}
  fields := [
    optionalField "cpu" text fun v r => { r with cpu := v },
    optionalField "memory" text fun v r => { r with memory := v },
    optionalField "gpu" text fun v r => { r with gpu := v }]

/-- The schema of a rule. -/
def AccessRule.schema : Record AccessRule where
  name := "RbacRuleSpec"
  blank := {}
  fields := [
    optionalField "apiGroups" (list text) fun v r => { r with apiGroups := v },
    optionalField "resources" (list text) fun v r => { r with resources := v },
    optionalField "resourceNames" (list text) fun v r => { r with resourceNames := v },
    optionalField "nonResourceURLs" (list text) fun v r => { r with nonResourceUrls := v },
    optionalField "verbs" (list text) fun v r => { r with verbs := v }]

/-- The schema of an access policy. -/
def AccessPolicy.schema : Record AccessPolicy where
  name := "RbacPolicySpec"
  blank := {}
  fields := [
    optionalField "serviceAccount" text fun v r => { r with serviceAccount := v },
    optionalField "namespace" text fun v r => { r with ns := v },
    optionalField "clusterScope" boolean fun v r => { r with clusterScope := v },
    optionalField "roleName" text fun v r => { r with roleName := v },
    optionalField "bindingName" text fun v r => { r with bindingName := v },
    optionalField "serviceAccountLabels" map fun v r => { r with serviceAccountLabels := v },
    optionalField "serviceAccountAnnotations" map fun v r =>
      { r with serviceAccountAnnotations := v },
    optionalField "roleLabels" map fun v r => { r with roleLabels := v },
    optionalField "bindingLabels" map fun v r => { r with bindingLabels := v },
    optionalField "rules" (list AccessRule.schema.decoder) fun v r => { r with rules := v },
    optionalField "automountServiceAccountToken" (optional boolean)
      fun v r => { r with automountToken := v }]

/-- The schema of the service behind a route. -/
def RouteBackend.schema : Record RouteBackend where
  name := "IngressBackendSpec"
  blank := {}
  fields := [
    requiredField "serviceName" text fun v r => { r with serviceName := v },
    optionalField "servicePort" int32 fun v r => { r with servicePort := v }]

/-- The schema of a change of path. -/
def PathChange.schema : Record PathChange where
  name := "RewritePolicy"
  blank := {}
  fields := [
    requiredField "type" text fun v r => { r with type := v },
    optionalField "match" text fun v r => { r with pattern := v },
    optionalField "replacement" text fun v r => { r with replacement := v }]

/-- The schema of a route. -/
def Route.schema : Record Route where
  name := "IngressRouteSpec"
  blank := {}
  fields := [
    optionalField "path" text fun v r => { r with path := v },
    optionalField "pathType" text fun v r => { r with pathType := v },
    optionalField "host" text fun v r => { r with host := v },
    requiredField "backend" RouteBackend.schema.decoder fun v r => { r with backend := v },
    optionalField "rewrite" (optional PathChange.schema.decoder) fun v r => { r with change := v }]

/-- The schema of a certificate. -/
def Certificate.schema : Record Certificate where
  name := "IngressTlsSpec"
  blank := {}
  fields := [
    requiredField "secretName" text fun v r => { r with secretName := v },
    optionalField "hosts" (list text) fun v r => { r with hosts := v }]

/-- The schema of an ingress entry. -/
def IngressEntry.schema : Record IngressEntry where
  name := "IngressSpec"
  blank := {}
  fields := [
    optionalField "name" text fun v r => { r with name := v },
    optionalField "namespace" text fun v r => { r with ns := v },
    optionalField "hosts" (list text) fun v r => { r with hosts := v },
    optionalField "label" map fun v r => { r with label := v },
    optionalField "annotations" map fun v r => { r with annotations := v },
    optionalField "ingressClassName" text fun v r => { r with className := v },
    optionalField "defaultPathType" text fun v r => { r with defaultPathType := v },
    optionalField "tls" (list Certificate.schema.decoder) fun v r => { r with tls := v },
    optionalField "routes" (list Route.schema.decoder) fun v r => { r with routes := v }]

/-- The schema of an init entry's container. -/
def InitProperties.schema : Record InitProperties where
  name := "InitProperties"
  blank := {}
  fields := [
    optionalField "image" text fun v r => { r with image := v },
    optionalField "command" (list text) fun v r => { r with command := v },
    optionalField "env" map fun v r => { r with env := v }]

/-- The schema of an init entry, given the decoder of its traits. -/
def InitEntry.schema {τ : Type} (blank : τ) (traits : Decoder τ) : Record (InitEntry τ) where
  name := "InitSpec"
  blank := { traits := blank }
  fields := [
    optionalField "name" text fun v r => { r with name := v },
    optionalField "properties" InitProperties.schema.decoder fun v r => { r with properties := v },
    optionalField "traits" traits fun v r => { r with traits := v }]

/-- The schema of a sidecar entry, given the decoder of its traits. -/
def SidecarEntry.schema {τ : Type} (blank : τ) (traits : Decoder τ) :
    Record (SidecarEntry τ) where
  name := "SidecarSpec"
  blank := { traits := blank }
  fields := [
    optionalField "name" text fun v r => { r with name := v },
    optionalField "image" text fun v r => { r with image := v },
    optionalField "command" (list text) fun v r => { r with command := v },
    optionalField "args" (list text) fun v r => { r with args := v },
    optionalField "env" map fun v r => { r with env := v },
    optionalField "traits" traits fun v r => { r with traits := v }]

namespace Traits

/-- The schema of a payload, given the decoder of the payloads inside it. -/
def schema (nested : Decoder Traits) : Record Traits where
  name := "Traits"
  blank := {}
  fields := [
    optionalField "init" (list (InitEntry.schema {} nested).decoder) fun v r =>
      { r with init := v },
    optionalField "storage" (list StorageEntry.schema.decoder) fun v r => { r with storage := v },
    optionalField "secret" (list SecretEntry.schema.decoder) fun v r => { r with secret := v },
    optionalField "sidecar" (list (SidecarEntry.schema {} nested).decoder)
      fun v r => { r with sidecar := v },
    optionalField "envFrom" (list EnvSourceEntry.schema.decoder) fun v r => { r with envFrom := v },
    optionalField "envs" (list EnvEntry.schema.decoder) fun v r => { r with envs := v },
    optionalField "probes" (list ProbeEntry.schema.decoder) fun v r => { r with probes := v },
    optionalField "rbac" (list AccessPolicy.schema.decoder) fun v r => { r with rbac := v },
    optionalField "ingress" (list (optional IngressEntry.schema.decoder))
      fun v r => { r with ingress := v },
    optionalField "resources" (optional ResourceEntry.schema.decoder) fun v r =>
      { r with resources := v }]

/-- The decoder of payloads.  Where the limit leaves no room for three arrays or objects, no
payload inside this one is ever reached. -/
def decoder : Decoder Traits
  | limit + 3, r => (schema fun _ => decoder limit).decoder (limit + 3) r
  | limit, r => (schema fun _ r => .error (tooDeep r)).decoder limit r

end Traits

end WorkloadTraits
