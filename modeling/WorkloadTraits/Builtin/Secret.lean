import WorkloadTraits.Builtin.Field

/-!
# The secret trait

Each secret entry becomes a secret, a volume made of it, and a mount for reading.  The name is
made of the container's name and the place of the entry.  The data of the entry go into the secret
and nowhere else.
-/

namespace WorkloadTraits.Secret

/-- The name of the secret at an index. -/
def name (site : Site) (index : Nat) : String :=
  Label.normalize site.target ++ "-secret-" ++ toString index

/-- The secret with some data. -/
def object (site : Site) (name : String) (e : SecretEntry) : SecretObject where
  metadata := {
    name := some name
    ns := some site.ns
    labels := site.component.labels.given? }
  type := some "Opaque"
  stringData := some e.data

/-- The volume made of a secret. -/
def volume (site : Site) (name : String) : Volume where
  name := name
  secret := some { secretName := some name, defaultMode := some site.settings.volumeMode }

/-- The mount of a secret. -/
def mount (name : String) : VolumeMount where
  name := name
  mountPath := "/secrets/" ++ name
  readOnly := some true

/-- The contribution of secret entries. -/
def contribution (site : Site) (entries : List SecretEntry) : Contribution :=
  let names := (List.range entries.length).map (name site)
  { volumes := names.map (volume site)
    volumeMounts := .single site.target (names.map mount)
    objects := (names.zip entries).map fun (name, e) => .secret (object site name e) }

/-- The processor of the secret trait. -/
def processor : Processor where
  name := "secret"
  kind := .secret
  process := fun c =>
    match c.data with
    | .secret entries => .done (some (contribution c.toSite entries))
    | data => .fail (.typeMismatch "secret" TraitKind.secret.name data.kind.name)

end WorkloadTraits.Secret
