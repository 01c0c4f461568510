import WorkloadTraits.Manifest.Access
import WorkloadTraits.Manifest.Claim
import WorkloadTraits.Manifest.Ingress

/-!
# Companion objects

Objects that traits call for beside the workload.  Two companions with one key, that is with the
same kind, namespace and name, are the same object to the cluster.
-/

namespace WorkloadTraits

/-- A secret. -/
structure SecretObject where
  metadata : Metadata := {}
  type : Option String := none
  stringData : Option StringMap := none
deriving DecidableEq

/-- A secret as JSON. -/
def SecretObject.toJson (s : SecretObject) : Json :=
  .ofGiven [
    ("apiVersion", some (.string "v1")), ("kind", some (.string "Secret")),
    ("metadata", some s.metadata.toJson), ("type", s.type.map .string),
    ("stringData", s.stringData.map SortedMap.toJson)]

/-- A secret from JSON. -/
def SecretObject.ofJson? (j : Json) : Option SecretObject := do
  guard (j.isOfKind "v1" "Secret")
  return {
    metadata := ← Metadata.ofManifest? j
    type := ← j.field? "type" Json.string?
    stringData := ← j.field? "stringData" Json.map? }

/-- An object beside the workload. -/
inductive Companion
  | serviceAccount (object : ServiceAccount)
  | role (object : Role)
  | clusterRole (object : Role)
  | roleBinding (object : Binding)
  | clusterRoleBinding (object : Binding)
  | claim (object : Claim)
  | secret (object : SecretObject)
  | ingress (object : Ingress)
deriving DecidableEq

namespace Companion

/-- What an object is to the cluster. -/
structure Key where
  kind : String
  /-- The namespace; empty for an object of the cluster. -/
  ns : String
  name : String
deriving DecidableEq

/-- The kind of an object. -/
def kind : Companion → String
  | serviceAccount _ => "ServiceAccount"
  | role _ => "Role"
  | clusterRole _ => "ClusterRole"
  | roleBinding _ => "RoleBinding"
  | clusterRoleBinding _ => "ClusterRoleBinding"
  | claim _ => "PersistentVolumeClaim"
  | secret _ => "Secret"
  | ingress _ => "Ingress"

/-- The metadata of an object. -/
def metadata : Companion → Metadata
  | serviceAccount o => o.metadata
  | role o => o.metadata
  | clusterRole o => o.metadata
  | roleBinding o => o.metadata
  | clusterRoleBinding o => o.metadata
  | claim o => o.metadata
  | secret o => o.metadata
  | ingress o => o.metadata

/-- The object with its metadata changed. -/
def mapMetadata (f : Metadata → Metadata) : Companion → Companion
  | serviceAccount o => serviceAccount { o with metadata := f o.metadata }
  | role o => role { o with metadata := f o.metadata }
  | clusterRole o => clusterRole { o with metadata := f o.metadata }
  | roleBinding o => roleBinding { o with metadata := f o.metadata }
  | clusterRoleBinding o => clusterRoleBinding { o with metadata := f o.metadata }
  | claim o => claim { o with metadata := f o.metadata }
  | secret o => secret { o with metadata := f o.metadata }
  | ingress o => ingress { o with metadata := f o.metadata }

/-- The name of an object; empty when it has none. -/
def name (o : Companion) : String := o.metadata.anyName

/-- The namespace of an object; empty when it has none. -/
def ns (o : Companion) : String := o.metadata.ns.getD ""

/-- The key of an object. -/
def key (o : Companion) : Key := ⟨o.kind, o.ns, o.name⟩

/-- A key as text: its parts between slashes, an empty namespace left out. -/
def Key.text (k : Key) : String :=
  if k.ns.isEmpty then k.kind ++ "/" ++ k.name else k.kind ++ "/" ++ k.ns ++ "/" ++ k.name

/-- An object as JSON. -/
def toJson : Companion → Json
  | serviceAccount o => o.toJson
  | role o => o.toJson "Role"
  | clusterRole o => o.toJson "ClusterRole"
  | roleBinding o => o.toJson "RoleBinding"
  | clusterRoleBinding o => o.toJson "ClusterRoleBinding"
  | claim o => o.toJson
  | secret o => o.toJson
  | ingress o => o.toJson

/-- The reader for objects of a kind, if it is one of the eight. -/
def reader? : String → Option (Json → Option Companion)
  | "ServiceAccount" => some fun j => (ServiceAccount.ofJson? j).map serviceAccount
  | "Role" => some fun j => (Role.ofJson? "Role" j).map role
  | "ClusterRole" => some fun j => (Role.ofJson? "ClusterRole" j).map clusterRole
  | "RoleBinding" => some fun j => (Binding.ofJson? "RoleBinding" j).map roleBinding
  | "ClusterRoleBinding" =>
    some fun j => (Binding.ofJson? "ClusterRoleBinding" j).map clusterRoleBinding
  | "PersistentVolumeClaim" => some fun j => (Claim.ofJson? j).map claim
  | "Secret" => some fun j => (SecretObject.ofJson? j).map secret
  | "Ingress" => some fun j => (Ingress.ofJson? j).map ingress
  | _ => none

end Companion

end WorkloadTraits
