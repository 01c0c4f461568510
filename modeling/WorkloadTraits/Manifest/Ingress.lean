import WorkloadTraits.Manifest.Metadata

/-!
# Ingresses

An ingress leads requests from outside the cluster to services: for each host a list of paths,
and for some hosts a certificate.
-/

namespace WorkloadTraits

/-- The service that a path leads to. -/
structure ServiceTarget where
  name : String := ""
  portNumber : Option Int32 := none
  portName : Option String := none
deriving DecidableEq

/-- A path of a host. -/
structure IngressPath where
  path : Option String := none
  pathType : String := ""
  service : Option ServiceTarget := none
deriving DecidableEq

/-- The paths of a host, or of every host. -/
structure IngressRule where
  host : Option String := none
  paths : Option (List IngressPath) := none
deriving DecidableEq

/-- The certificate of some hosts. -/
structure IngressTls where
  hosts : Option (List String) := none
  secretName : Option String := none
deriving DecidableEq

/-- What an ingress asks for. -/
structure IngressSpec where
  className : Option String := none
  rules : Option (List IngressRule) := none
  tls : Option (List IngressTls) := none
deriving DecidableEq

/-- An ingress. -/
structure Ingress where
  metadata : Metadata := {}
  spec : Option IngressSpec := none
deriving DecidableEq

/-! ## As JSON -/

/-- A service as JSON; its port is written when it has a number or a name. -/
def ServiceTarget.toJson (t : ServiceTarget) : Json :=
  .ofGiven [
    ("name", some (.string t.name)),
    ("port",
      if t.portNumber.isNone && t.portName.isNone then none
      else some (.ofGiven [
        ("number", t.portNumber.map .int32), ("name", t.portName.map .string)]))]

/-- A path as JSON. -/
def IngressPath.toJson (p : IngressPath) : Json :=
  .ofGiven [
    ("path", p.path.map .string), ("pathType", some (.string p.pathType)),
    ("backend", some (.ofGiven [("service", p.service.map ServiceTarget.toJson)]))]

/-- The paths of a host as JSON. -/
def IngressRule.toJson (r : IngressRule) : Json :=
  .ofGiven [
    ("host", r.host.map .string),
    ("http", r.paths.map fun paths => .ofFields [("paths", .ofList IngressPath.toJson paths)])]

/-- A certificate as JSON. -/
def IngressTls.toJson (t : IngressTls) : Json :=
  .ofGiven [("hosts", t.hosts.map .ofTexts), ("secretName", t.secretName.map .string)]

/-- What an ingress asks for as JSON. -/
def IngressSpec.toJson (s : IngressSpec) : Json :=
  .ofGiven [
    ("ingressClassName", s.className.map .string),
    ("rules", s.rules.map (.ofList IngressRule.toJson)),
    ("tls", s.tls.map (.ofList IngressTls.toJson))]

/-- An ingress as JSON. -/
def Ingress.toJson (i : Ingress) : Json :=
  .ofGiven [
    ("apiVersion", some (.string "networking.k8s.io/v1")), ("kind", some (.string "Ingress")),
    ("metadata", some i.metadata.toJson), ("spec", i.spec.map IngressSpec.toJson)]

/-! ## From JSON -/

open Json (string? int32? list?)

/-- A port's number and name from JSON. -/
def servicePort? (j : Json) : Option (Option Int32 × Option String) := do
  guard j.isObject
  return (← j.field? "number" int32?, ← j.field? "name" string?)

/-- A service from JSON. -/
def ServiceTarget.ofJson? (j : Json) : Option ServiceTarget := do
  guard j.isObject
  let (number, name) ← j.fieldD "port" servicePort? (none, none)
  return { name := ← j.fieldD "name" string? "", portNumber := number, portName := name }

/-- The service behind a path from JSON. -/
def pathBackend? (j : Json) : Option (Option ServiceTarget) := do
  guard j.isObject
  j.field? "service" ServiceTarget.ofJson?

/-- A path from JSON. -/
def IngressPath.ofJson? (j : Json) : Option IngressPath := do
  guard j.isObject
  return {
    path := ← j.field? "path" string?
    pathType := ← j.fieldD "pathType" string? ""
    service := ← j.fieldD "backend" pathBackend? none }

/-- The list of paths of a host from JSON. -/
def hostPaths? (j : Json) : Option (List IngressPath) := do
  guard j.isObject
  j.fieldD "paths" (list? IngressPath.ofJson?) []

/-- The paths of a host from JSON. -/
def IngressRule.ofJson? (j : Json) : Option IngressRule := do
  guard j.isObject
  return { host := ← j.field? "host" string?, paths := ← j.field? "http" hostPaths? }

/-- A certificate from JSON. -/
def IngressTls.ofJson? (j : Json) : Option IngressTls := do
  guard j.isObject
  return {
    hosts := ← j.field? "hosts" (list? string?)
    secretName := ← j.field? "secretName" string? }

/-- What an ingress asks for from JSON. -/
def IngressSpec.ofJson? (j : Json) : Option IngressSpec := do
  guard j.isObject
  return {
    className := ← j.field? "ingressClassName" string?
    rules := ← j.field? "rules" (list? IngressRule.ofJson?)
    tls := ← j.field? "tls" (list? IngressTls.ofJson?) }

/-- An ingress from JSON. -/
def Ingress.ofJson? (j : Json) : Option Ingress := do
  guard (j.isOfKind "networking.k8s.io/v1" "Ingress")
  return { metadata := ← Metadata.ofManifest? j, spec := ← j.field? "spec" IngressSpec.ofJson? }

end WorkloadTraits
