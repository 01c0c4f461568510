import WorkloadTraits.Trait.Kind
import WorkloadTraits.SortedMap

/-!
# The traits of a payload

A payload lists, for each kind of trait, what the component asks for.  Texts are kept as they
were given; an empty text means that nothing was given, and what that stands for is decided where
the trait is processed.

Init and sidecar entries add a container, and carry traits of their own for it, to any depth.
They are therefore stated for any type of nested traits, and `Traits` ties the knot.
-/

namespace WorkloadTraits

/-- A volume for the decorated container. -/
structure StorageEntry where
  name : String := ""
  type : String := ""
  mountPath : String := ""
  subPath : String := ""
  readOnly : Bool := false
  sourceName : String := ""
  /-- Whether a persistent volume's claim is to be created. -/
  create : Bool := false
  size : String := ""
  claimName : String := ""
  storageClass : String := ""
deriving DecidableEq

/-- A secret to create and to mount. -/
structure SecretEntry where
  data : StringMap := .empty
deriving DecidableEq

/-- A source of environment variables: every key of a config map or of a secret. -/
structure EnvSourceEntry where
  type : String := ""
  sourceName : String := ""
deriving DecidableEq

/-- One key of a named secret or config map. -/
structure KeySelector where
  name : String := ""
  key : String := ""
deriving DecidableEq

/-- Where a variable gets its value; exactly one source has to be given. -/
structure ValueSource where
  static : Option String := none
  secret : Option KeySelector := none
  config : Option KeySelector := none
  field : Option String := none
deriving DecidableEq

/-- An environment variable. -/
structure EnvEntry where
  name : String := ""
  valueFrom : ValueSource := {}
deriving DecidableEq

/-- A probe that runs a command. -/
structure ExecCheck where
  command : List String := []
deriving DecidableEq

/-- A probe that makes a request. -/
structure HttpCheck where
  path : String := ""
  port : Int32 := 0
  host : String := ""
  scheme : String := ""
deriving DecidableEq

/-- A probe that opens a connection. -/
structure TcpCheck where
  port : Int32 := 0
  host : String := ""
deriving DecidableEq

/-- A probe of the decorated container; exactly one check has to be given, and a number that is
not positive counts as not given. -/
structure ProbeEntry where
  type : String := ""
  initialDelaySeconds : Int32 := 0
  periodSeconds : Int32 := 0
  timeoutSeconds : Int32 := 0
  failureThreshold : Int32 := 0
  successThreshold : Int32 := 0
  exec : Option ExecCheck := none
  httpGet : Option HttpCheck := none
  tcpSocket : Option TcpCheck := none
deriving DecidableEq

/-- Limits on resources. -/
structure ResourceEntry where
  cpu : String := ""
  memory : String := ""
  gpu : String := ""
deriving DecidableEq

/-- A rule of an access policy. -/
structure AccessRule where
  apiGroups : List String := []
  resources : List String := []
  resourceNames : List String := []
  nonResourceUrls : List String := []
  verbs : List String := []
deriving DecidableEq

/-- An access policy: a service account with a role that is bound to it. -/
structure AccessPolicy where
  serviceAccount : String := ""
  /-- The namespace. -/
  ns : String := ""
  clusterScope : Bool := false
  roleName : String := ""
  bindingName : String := ""
  serviceAccountLabels : StringMap := .empty
  serviceAccountAnnotations : StringMap := .empty
  roleLabels : StringMap := .empty
  bindingLabels : StringMap := .empty
  rules : List AccessRule := []
  automountToken : Option Bool := none
deriving DecidableEq

/-- The service behind a route. -/
structure RouteBackend where
  serviceName : String := ""
  servicePort : Int32 := 0
deriving DecidableEq

/-- How the path of a request is changed before it reaches the service. -/
structure PathChange where
  type : String := ""
  pattern : String := ""
  replacement : String := ""
deriving DecidableEq

/-- A route from a path of a host to a service. -/
structure Route where
  path : String := ""
  pathType : String := ""
  host : String := ""
  backend : RouteBackend := {}
  change : Option PathChange := none
deriving DecidableEq

/-- A certificate for some hosts. -/
structure Certificate where
  secretName : String := ""
  hosts : List String := []
deriving DecidableEq

/-- Routes into the component from outside the cluster. -/
structure IngressEntry where
  name : String := ""
  /-- The namespace. -/
  ns : String := ""
  hosts : List String := []
  label : StringMap := .empty
  annotations : StringMap := .empty
  className : String := ""
  defaultPathType : String := ""
  tls : List Certificate := []
  routes : List Route := []
deriving DecidableEq

/-- The container of an init entry. -/
structure InitProperties where
  image : String := ""
  command : List String := []
  env : StringMap := .empty
deriving DecidableEq

/-- A container that runs before the others, with traits of type `τ` for it. -/
structure InitEntry (τ : Type) where
  name : String := ""
  properties : InitProperties := {}
  traits : τ

/-- A container that runs beside the main one, with traits of type `τ` for it. -/
structure SidecarEntry (τ : Type) where
  name : String := ""
  image : String := ""
  command : List String := []
  args : List String := []
  env : StringMap := .empty
  traits : τ

/-- The traits for one container. -/
structure Traits where
  init : List (InitEntry Traits) := []
  storage : List StorageEntry := []
  secret : List SecretEntry := []
  sidecar : List (SidecarEntry Traits) := []
  envFrom : List EnvSourceEntry := []
  envs : List EnvEntry := []
  probes : List ProbeEntry := []
  rbac : List AccessPolicy := []
  /-- A null in place of an entry is kept, and refused when it is processed. -/
  ingress : List (Option IngressEntry) := []
  resources : Option ResourceEntry := none

instance : Inhabited Traits := ⟨{}⟩

/-- Limits that say nothing. -/
def ResourceEntry.isBlank (r : ResourceEntry) : Bool :=
  Text.isBlankText r.cpu && Text.isBlankText r.memory && Text.isBlankText r.gpu

/-- The part of a payload that one kind of trait is about. -/
inductive TraitData
  | storage (entries : List StorageEntry)
  | secret (entries : List SecretEntry)
  | envFrom (entries : List EnvSourceEntry)
  | envs (entries : List EnvEntry)
  | resources (entry : ResourceEntry)
  | probes (entries : List ProbeEntry)
  | rbac (policies : List AccessPolicy)
  | init (entries : List (InitEntry Traits))
  | sidecar (entries : List (SidecarEntry Traits))
  | ingress (entries : List (Option IngressEntry))

/-- The kind of trait that the data belong to. -/
def TraitData.kind : TraitData → TraitKind
  | storage _ => .storage
  | secret _ => .secret
  | envFrom _ => .envFrom
  | envs _ => .envs
  | resources _ => .resources
  | probes _ => .probes
  | rbac _ => .rbac
  | init _ => .init
  | sidecar _ => .sidecar
  | ingress _ => .ingress

namespace Traits

/-- A list, or nothing when it is empty. -/
def entries? {α : Type} : List α → Option (List α)
  | [] => none
  | es => some es

/-- What the payload says about a kind, if it says anything. -/
def data? (t : Traits) : TraitKind → Option TraitData
  | .storage => (entries? t.storage).map .storage
  | .secret => (entries? t.secret).map .secret
  | .envFrom => (entries? t.envFrom).map .envFrom
  | .envs => (entries? t.envs).map .envs
  | .resources => (t.resources.filter (!·.isBlank)).map .resources
  | .probes => (entries? t.probes).map .probes
  | .rbac => (entries? t.rbac).map .rbac
  | .init => (entries? t.init).map .init
  | .sidecar => (entries? t.sidecar).map .sidecar
  | .ingress => (entries? t.ingress).map .ingress

/-- The kinds that the payload says something about. -/
def kinds (t : Traits) : List TraitKind :=
  TraitKind.all.filter fun k => (t.data? k).isSome

/-- Whether the payload says nothing about any kind. -/
def isEmpty (t : Traits) : Bool :=
  t.kinds.isEmpty

end Traits

end WorkloadTraits
