import WorkloadTraits.Builtin.Field

/-!
# The storage trait

Each storage entry becomes a volume of the pod and a mount in the decorated container.  Volume,
mount and, for a persistent volume that is to be created, the claim have one name; a stateful set
finds the claims of its pods by it.  Of several entries with one name the first counts.

A claim that is created is marked as a template, so that a stateful set takes it over.
-/

namespace WorkloadTraits

/-- What a volume is made of. -/
inductive StorageKind
  | persistent
  | ephemeral
  | hostMounted
  | config
  | secret
deriving DecidableEq

namespace StorageKind

/-- All kinds of volumes. -/
def all : List StorageKind := [persistent, ephemeral, hostMounted, config, secret]

/-- The name of a kind. -/
def name : StorageKind → String
  | persistent => "persistent"
  | ephemeral => "ephemeral"
  | hostMounted => "host-mounted"
  | config => "config"
  | secret => "secret"

/-- Every spelling of a kind, in lower case. -/
def spellings : StorageKind → List String
  | persistent => ["persistent", "pvc"]
  | ephemeral => ["ephemeral", "emptydir"]
  | hostMounted => ["host-mounted", "hostpath"]
  | config => ["config", "configmap"]
  | secret => ["secret"]

/-- The kind that a type stands for. -/
def read (raw : String) : Except Failure StorageKind :=
  match all.find? fun k => k.spellings.contains (TraitKind.keyword raw) with
  | some k => .ok k
  | none => .error (.unknownStorageType raw)

end StorageKind

namespace StorageEntry

/-- The name of the entry at an index. -/
def volumeName (site : Site) (index : Nat) (e : StorageEntry) : String :=
  nameOr e.name site.target ("-storage-" ++ toString index)

/-- The name of the entry at an index, refused when it is no label. -/
def checkedName (site : Site) (index : Nat) (e : StorageEntry) : Except Failure String :=
  match Label.fault? (e.volumeName site index) with
  | none => .ok (e.volumeName site index)
  | some fault => .error (.invalidVolumeName e.name fault.message)

/-- Where the volume is mounted. -/
def path (e : StorageEntry) (name : String) : String :=
  if Text.isBlankText e.mountPath then "/mnt/" ++ name else Text.trim e.mountPath

/-- What the volume is taken from, which by default has the volume's name. -/
def source (e : StorageEntry) (name : String) : String :=
  Text.firstNonEmpty [Text.trim e.sourceName, name]

/-- The claim that the entry creates. -/
def claim (site : Site) (e : StorageEntry) (name : String) : Except Failure Claim := do
  let size ← readQuantity "size"
    (Text.firstNonEmpty [Text.trim e.size, site.settings.defaultClaimSize])
  return {
    metadata := {
      name := some name
      ns := some site.ns
      annotations :=
        some (.ofList [(site.settings.templateKey, Settings.templateMark)]) }
    spec := some {
      accessModes := some ["ReadWriteOnce"]
      resources := some { requests := some (.ofList [("storage", size)]) }
      storageClassName := trimmed? e.storageClass } }

/-- The volume of the entry. -/
def volume (site : Site) (kind : StorageKind) (e : StorageEntry) (name : String) : Volume :=
  match kind with
  | .persistent =>
    { name
      claimName :=
        some (if e.create then name else Text.firstNonEmpty [Text.trim e.claimName, name]) }
  | .ephemeral => { name, emptyDir := true }
  | .hostMounted =>
    { name
      hostPath := some (Text.firstNonEmpty [Text.trim e.sourceName, e.path name]) }
  | .config =>
    { name
      configMap :=
        some { name := some (e.source name), defaultMode := some site.settings.volumeMode } }
  | .secret =>
    { name
      secret :=
        some { secretName := some (e.source name), defaultMode := some site.settings.volumeMode } }

/-- The mount of the entry. -/
def mount (e : StorageEntry) (name : String) : VolumeMount where
  name := name
  mountPath := e.path name
  subPath := trimmed? e.subPath
  readOnly := if e.readOnly then some true else none

end StorageEntry

/-- What becomes of one storage entry. -/
structure StoragePart where
  volume : Volume
  mount : VolumeMount
  claim : Option Claim

namespace Storage

/-- What becomes of an entry with a name and a kind. -/
def part (site : Site) (kind : StorageKind) (e : StorageEntry) (name : String) :
    Except Failure StoragePart := do
  let claim ←
    if kind = .persistent ∧ e.create = true then (e.claim site name).map some else .ok none
  return ⟨e.volume site kind name, e.mount name, claim⟩

/-- What becomes of the entries from an index on, given the names that came before.  An entry
whose name came before is checked and then left out. -/
def parts (site : Site) (index : Nat) (seen : List String) :
    List StorageEntry → Except Failure (List StoragePart)
  | [] => .ok []
  | e :: rest => do
    let kind ← StorageKind.read e.type
    let name ← e.checkedName site index
    if name ∈ seen then parts site (index + 1) seen rest
    else
      let first ← part site kind e name
      return first :: (← parts site (index + 1) (name :: seen) rest)

/-- The contribution of storage entries. -/
def contribution (site : Site) (entries : List StorageEntry) : Except Failure Contribution := do
  let parts ← parts site 0 [] entries
  return {
    volumes := parts.map (·.volume)
    volumeMounts := .single site.target (parts.map (·.mount))
    objects := (parts.filterMap (·.claim)).map .claim }

/-- The processor of the storage trait. -/
def processor : Processor where
  name := "storage"
  kind := .storage
  process := fun c =>
    match c.data with
    | .storage entries => .ofExcept ((contribution c.toSite entries).map some)
    | data => .fail (.typeMismatch "storage" TraitKind.storage.name data.kind.name)

end Storage

end WorkloadTraits
