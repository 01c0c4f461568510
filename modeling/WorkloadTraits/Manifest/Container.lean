import WorkloadTraits.Json.Object

/-!
# Containers

A container of a pod, with its variables, mounts, resources and probes.  A list that is given and
empty differs from one that is not given, and both are written as they are.
-/

namespace WorkloadTraits

/-- A key of a secret or config map that a variable's value is taken from. -/
structure KeyRef where
  name : Option String := none
  key : String := ""
deriving DecidableEq

/-- Where a variable's value is taken from. -/
structure EnvValueSource where
  secretKeyRef : Option KeyRef := none
  configMapKeyRef : Option KeyRef := none
  /-- The path of a field of the pod. -/
  fieldRef : Option String := none
deriving DecidableEq

/-- An environment variable of a container. -/
structure EnvVar where
  name : String := ""
  value : Option String := none
  valueFrom : Option EnvValueSource := none
deriving DecidableEq

/-- A secret or config map, all keys of which become variables. -/
structure EnvSourceRef where
  name : Option String := none
  isOptional : Option Bool := none
deriving DecidableEq

/-- A source of variables; each variable's name may get something in front. -/
structure EnvSource where
  lead : Option String := none
  configMapRef : Option EnvSourceRef := none
  secretRef : Option EnvSourceRef := none
deriving DecidableEq

/-- A place in a container at which a volume of the pod is seen. -/
structure VolumeMount where
  name : String := ""
  mountPath : String := ""
  subPath : Option String := none
  readOnly : Option Bool := none
deriving DecidableEq

/-- The resources that a container may use, asks for, and has a claim on by name. -/
structure ResourceRequirements where
  limits : Option StringMap := none
  requests : Option StringMap := none
  claims : Option (List String) := none
deriving DecidableEq

/-- A port by number or by name. -/
inductive Port
  | number (value : Int32)
  | name (value : String)
deriving DecidableEq

/-- A request that a probe makes. -/
structure HttpAction where
  path : Option String := none
  port : Port := .number 0
  host : Option String := none
  scheme : Option String := none
deriving DecidableEq

/-- A connection that a probe opens. -/
structure TcpAction where
  port : Port := .number 0
  host : Option String := none
deriving DecidableEq

/-- A command that a probe runs. -/
structure ExecAction where
  command : Option (List String) := none
deriving DecidableEq

/-- A probe of a container. -/
structure Probe where
  initialDelaySeconds : Option Int32 := none
  periodSeconds : Option Int32 := none
  timeoutSeconds : Option Int32 := none
  failureThreshold : Option Int32 := none
  successThreshold : Option Int32 := none
  exec : Option ExecAction := none
  httpGet : Option HttpAction := none
  tcpSocket : Option TcpAction := none
deriving DecidableEq

/-- A container of a pod. -/
structure Container where
  name : String := ""
  image : Option String := none
  command : Option (List String) := none
  args : Option (List String) := none
  env : Option (List EnvVar) := none
  envFrom : Option (List EnvSource) := none
  volumeMounts : Option (List VolumeMount) := none
  resources : Option ResourceRequirements := none
  livenessProbe : Option Probe := none
  readinessProbe : Option Probe := none
  startupProbe : Option Probe := none
deriving DecidableEq

/-! ## As JSON -/

/-- A key as JSON. -/
def KeyRef.toJson (r : KeyRef) : Json :=
  .ofGiven [("name", r.name.map .string), ("key", some (.string r.key))]

/-- A value's source as JSON. -/
def EnvValueSource.toJson (s : EnvValueSource) : Json :=
  .ofGiven [
    ("secretKeyRef", s.secretKeyRef.map KeyRef.toJson),
    ("configMapKeyRef", s.configMapKeyRef.map KeyRef.toJson),
    ("fieldRef", s.fieldRef.map fun path => .ofFields [("fieldPath", .string path)])]

/-- A variable as JSON. -/
def EnvVar.toJson (e : EnvVar) : Json :=
  .ofGiven [
    ("name", some (.string e.name)), ("value", e.value.map .string),
    ("valueFrom", e.valueFrom.map EnvValueSource.toJson)]

/-- The source behind a list of variables as JSON. -/
def EnvSourceRef.toJson (r : EnvSourceRef) : Json :=
  .ofGiven [("name", r.name.map .string), ("optional", r.isOptional.map .bool)]

/-- A source of variables as JSON. -/
def EnvSource.toJson (s : EnvSource) : Json :=
  .ofGiven [
    ("prefix", s.lead.map .string), ("configMapRef", s.configMapRef.map EnvSourceRef.toJson),
    ("secretRef", s.secretRef.map EnvSourceRef.toJson)]

/-- A mount as JSON. -/
def VolumeMount.toJson (m : VolumeMount) : Json :=
  .ofGiven [
    ("name", some (.string m.name)), ("mountPath", some (.string m.mountPath)),
    ("subPath", m.subPath.map .string), ("readOnly", m.readOnly.map .bool)]

/-- Resources as JSON. -/
def ResourceRequirements.toJson (r : ResourceRequirements) : Json :=
  .ofGiven [
    ("limits", r.limits.map SortedMap.toJson), ("requests", r.requests.map SortedMap.toJson),
    ("claims", r.claims.map (.ofList fun name => .ofFields [("name", .string name)]))]

/-- A port as JSON. -/
def Port.toJson : Port → Json
  | number n => .int32 n
  | name s => .string s

/-- A request as JSON. -/
def HttpAction.toJson (a : HttpAction) : Json :=
  .ofGiven [
    ("path", a.path.map .string), ("port", some a.port.toJson), ("host", a.host.map .string),
    ("scheme", a.scheme.map .string)]

/-- A connection as JSON. -/
def TcpAction.toJson (a : TcpAction) : Json :=
  .ofGiven [("port", some a.port.toJson), ("host", a.host.map .string)]

/-- A command as JSON. -/
def ExecAction.toJson (a : ExecAction) : Json :=
  .ofGiven [("command", a.command.map .ofTexts)]

/-- A probe as JSON. -/
def Probe.toJson (p : Probe) : Json :=
  .ofGiven [
    ("initialDelaySeconds", p.initialDelaySeconds.map .int32),
    ("periodSeconds", p.periodSeconds.map .int32), ("timeoutSeconds", p.timeoutSeconds.map .int32),
    ("failureThreshold", p.failureThreshold.map .int32),
    ("successThreshold", p.successThreshold.map .int32), ("exec", p.exec.map ExecAction.toJson),
    ("httpGet", p.httpGet.map HttpAction.toJson), ("tcpSocket", p.tcpSocket.map TcpAction.toJson)]

/-- A container as JSON. -/
def Container.toJson (c : Container) : Json :=
  .ofGiven [
    ("name", some (.string c.name)), ("image", c.image.map .string),
    ("command", c.command.map .ofTexts), ("args", c.args.map .ofTexts),
    ("env", c.env.map (.ofList EnvVar.toJson)),
    ("envFrom", c.envFrom.map (.ofList EnvSource.toJson)),
    ("volumeMounts", c.volumeMounts.map (.ofList VolumeMount.toJson)),
    ("resources", c.resources.map ResourceRequirements.toJson),
    ("livenessProbe", c.livenessProbe.map Probe.toJson),
    ("readinessProbe", c.readinessProbe.map Probe.toJson),
    ("startupProbe", c.startupProbe.map Probe.toJson)]

/-! ## From JSON -/

open Json (string? bool? int32? list? map?)

/-- A key from JSON. -/
def KeyRef.ofJson? (j : Json) : Option KeyRef := do
  guard j.isObject
  return { name := ← j.field? "name" string?, key := ← j.fieldD "key" string? "" }

/-- The path of a pod's field from JSON. -/
def fieldPath? (j : Json) : Option String := do
  guard j.isObject
  j.fieldD "fieldPath" string? ""

/-- A value's source from JSON. -/
def EnvValueSource.ofJson? (j : Json) : Option EnvValueSource := do
  guard j.isObject
  return {
    secretKeyRef := ← j.field? "secretKeyRef" KeyRef.ofJson?
    configMapKeyRef := ← j.field? "configMapKeyRef" KeyRef.ofJson?
    fieldRef := ← j.field? "fieldRef" fieldPath? }

/-- A variable from JSON. -/
def EnvVar.ofJson? (j : Json) : Option EnvVar := do
  guard j.isObject
  return {
    name := ← j.fieldD "name" string? ""
    value := ← j.field? "value" string?
    valueFrom := ← j.field? "valueFrom" EnvValueSource.ofJson? }

/-- The source behind a list of variables from JSON. -/
def EnvSourceRef.ofJson? (j : Json) : Option EnvSourceRef := do
  guard j.isObject
  return { name := ← j.field? "name" string?, isOptional := ← j.field? "optional" bool? }

/-- A source of variables from JSON. -/
def EnvSource.ofJson? (j : Json) : Option EnvSource := do
  guard j.isObject
  return {
    lead := ← j.field? "prefix" string?
    configMapRef := ← j.field? "configMapRef" EnvSourceRef.ofJson?
    secretRef := ← j.field? "secretRef" EnvSourceRef.ofJson? }

/-- A mount from JSON. -/
def VolumeMount.ofJson? (j : Json) : Option VolumeMount := do
  guard j.isObject
  return {
    name := ← j.fieldD "name" string? ""
    mountPath := ← j.fieldD "mountPath" string? ""
    subPath := ← j.field? "subPath" string?
    readOnly := ← j.field? "readOnly" bool? }

/-- The name of a claim on a resource from JSON. -/
def claimName? (j : Json) : Option String := do
  guard j.isObject
  j.fieldD "name" string? ""

/-- Resources from JSON. -/
def ResourceRequirements.ofJson? (j : Json) : Option ResourceRequirements := do
  guard j.isObject
  return {
    limits := ← j.field? "limits" map?
    requests := ← j.field? "requests" map?
    claims := ← j.field? "claims" (list? claimName?) }

/-- A port from JSON. -/
def Port.ofJson? (j : Json) : Option Port :=
  match j with
  | .string s => some (.name s)
  | j => j.int32?.map .number

/-- A request from JSON. -/
def HttpAction.ofJson? (j : Json) : Option HttpAction := do
  guard j.isObject
  return {
    path := ← j.field? "path" string?
    port := ← j.fieldD "port" Port.ofJson? (.number 0)
    host := ← j.field? "host" string?
    scheme := ← j.field? "scheme" string? }

/-- A connection from JSON. -/
def TcpAction.ofJson? (j : Json) : Option TcpAction := do
  guard j.isObject
  return {
    port := ← j.fieldD "port" Port.ofJson? (.number 0)
    host := ← j.field? "host" string? }

/-- A command from JSON. -/
def ExecAction.ofJson? (j : Json) : Option ExecAction := do
  guard j.isObject
  return { command := ← j.field? "command" (list? string?) }

/-- A probe from JSON. -/
def Probe.ofJson? (j : Json) : Option Probe := do
  guard j.isObject
  return {
    initialDelaySeconds := ← j.field? "initialDelaySeconds" int32?
    periodSeconds := ← j.field? "periodSeconds" int32?
    timeoutSeconds := ← j.field? "timeoutSeconds" int32?
    failureThreshold := ← j.field? "failureThreshold" int32?
    successThreshold := ← j.field? "successThreshold" int32?
    exec := ← j.field? "exec" ExecAction.ofJson?
    httpGet := ← j.field? "httpGet" HttpAction.ofJson?
    tcpSocket := ← j.field? "tcpSocket" TcpAction.ofJson? }

/-- A container from JSON. -/
def Container.ofJson? (j : Json) : Option Container := do
  guard j.isObject
  return {
    name := ← j.fieldD "name" string? ""
    image := ← j.field? "image" string?
    command := ← j.field? "command" (list? string?)
    args := ← j.field? "args" (list? string?)
    env := ← j.field? "env" (list? EnvVar.ofJson?)
    envFrom := ← j.field? "envFrom" (list? EnvSource.ofJson?)
    volumeMounts := ← j.field? "volumeMounts" (list? VolumeMount.ofJson?)
    resources := ← j.field? "resources" ResourceRequirements.ofJson?
    livenessProbe := ← j.field? "livenessProbe" Probe.ofJson?
    readinessProbe := ← j.field? "readinessProbe" Probe.ofJson?
    startupProbe := ← j.field? "startupProbe" Probe.ofJson? }

end WorkloadTraits
