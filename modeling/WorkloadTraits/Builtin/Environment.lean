import WorkloadTraits.Builtin.Field

/-!
# The traits about environment variables

`envFrom` makes every key of a config map or secret a variable, `envs` sets single variables from
a literal, from one key of a secret or config map, or from a field of the pod.
-/

namespace WorkloadTraits

/-- The source that an entry names. -/
def EnvSourceEntry.source (e : EnvSourceEntry) : Except Failure EnvSource :=
  let name := Text.trim e.sourceName
  if name.isEmpty then
    .error (.invalidEnvSource ("envFrom of type '" ++ e.type ++ "' requires sourceName"))
  else
    let type := TraitKind.keyword e.type
    if type = "configmap" ∨ type = "config" then
      .ok { configMapRef := some { name := some name } }
    else if type = "secret" then .ok { secretRef := some { name := some name } }
    else .error (.invalidEnvSource ("unsupported env type: " ++ type))

/-- A key in a named source. -/
def KeySelector.ref (s : KeySelector) : KeyRef := ⟨some s.name, s.key⟩

/-- The variable of a name with a source; nothing when the sources are not exactly one. -/
def ValueSource.toVariable? (name : String) : ValueSource → Option EnvVar
  | ⟨some value, none, none, none⟩ => some { name, value := some value }
  | ⟨none, some secret, none, none⟩ =>
    some { name, valueFrom := some { secretKeyRef := some secret.ref } }
  | ⟨none, none, some config, none⟩ =>
    some { name, valueFrom := some { configMapKeyRef := some config.ref } }
  | ⟨none, none, none, some field⟩ =>
    some { name, valueFrom := some { fieldRef := some field } }
  | _ => none

/-- The variable that an entry sets. -/
def EnvEntry.toVariable (e : EnvEntry) : Except Failure EnvVar :=
  let name := Text.trim e.name
  if name.isEmpty then .error (.invalidEnvSource "env var name must not be empty")
  else
    match e.valueFrom.toVariable? name with
    | some v => .ok v
    | none =>
      .error (.invalidEnvSource
        ("env var '" ++ name ++ "' must set exactly one of static, secret, config or field"))

namespace Environment

/-- The contribution of sources of variables. -/
def sourceContribution (site : Site) (entries : List EnvSourceEntry) :
    Except Failure Contribution := do
  return { envFrom := .single site.target (← entries.mapM EnvSourceEntry.source) }

/-- The contribution of variables. -/
def variableContribution (site : Site) (entries : List EnvEntry) : Except Failure Contribution := do
  return { envVars := .single site.target (← entries.mapM EnvEntry.toVariable) }

/-- The processor of the `envFrom` trait. -/
def sourceProcessor : Processor where
  name := "envFrom"
  kind := .envFrom
  process := fun c =>
    match c.data with
    | .envFrom entries => .ofExcept ((sourceContribution c.toSite entries).map some)
    | data => .fail (.typeMismatch "envFrom" TraitKind.envFrom.name data.kind.name)

/-- The processor of the `envs` trait. -/
def variableProcessor : Processor where
  name := "envs"
  kind := .envs
  process := fun c =>
    match c.data with
    | .envs entries => .ofExcept ((variableContribution c.toSite entries).map some)
    | data => .fail (.typeMismatch "envs" TraitKind.envs.name data.kind.name)

end Environment

end WorkloadTraits
