import WorkloadTraits.Manifest.Metadata

/-!
# Accounts, roles and bindings

Who a pod is towards the cluster, and what it may do there.  Roles and bindings exist inside a
namespace or for the whole cluster; the two differ in kind only.
-/

namespace WorkloadTraits

/-- The group of the interface that roles and bindings belong to. -/
def accessGroup : String := "rbac.authorization.k8s.io"

/-- The account of a pod. -/
structure ServiceAccount where
  metadata : Metadata := {}
  automountToken : Option Bool := none
deriving DecidableEq

/-- What a role permits: verbs on resources or on paths. -/
structure PolicyRule where
  apiGroups : Option (List String) := none
  resources : Option (List String) := none
  resourceNames : Option (List String) := none
  nonResourceUrls : Option (List String) := none
  verbs : List String := []
deriving DecidableEq

/-- A role, in a namespace or in the cluster. -/
structure Role where
  metadata : Metadata := {}
  rules : Option (List PolicyRule) := none
deriving DecidableEq

/-- A reference to a role. -/
structure RoleRef where
  apiGroup : String := ""
  kind : String := ""
  name : String := ""
deriving DecidableEq

/-- Who a role is given to. -/
structure Subject where
  apiGroup : Option String := none
  kind : String := ""
  name : String := ""
  /-- The namespace. -/
  ns : Option String := none
deriving DecidableEq

/-- A binding of a role to subjects, in a namespace or in the cluster. -/
structure Binding where
  metadata : Metadata := {}
  roleRef : RoleRef := {}
  subjects : Option (List Subject) := none
deriving DecidableEq

/-! ## As JSON -/

/-- An account as JSON. -/
def ServiceAccount.toJson (a : ServiceAccount) : Json :=
  .ofGiven [
    ("apiVersion", some (.string "v1")), ("kind", some (.string "ServiceAccount")),
    ("metadata", some a.metadata.toJson),
    ("automountServiceAccountToken", a.automountToken.map .bool)]

/-- A rule as JSON. -/
def PolicyRule.toJson (r : PolicyRule) : Json :=
  .ofGiven [
    ("apiGroups", r.apiGroups.map .ofTexts), ("resources", r.resources.map .ofTexts),
    ("resourceNames", r.resourceNames.map .ofTexts),
    ("nonResourceURLs", r.nonResourceUrls.map .ofTexts), ("verbs", some (.ofTexts r.verbs))]

/-- A role of a kind as JSON. -/
def Role.toJson (kind : String) (r : Role) : Json :=
  .ofGiven [
    ("apiVersion", some (.string (accessGroup ++ "/v1"))), ("kind", some (.string kind)),
    ("metadata", some r.metadata.toJson), ("rules", r.rules.map (.ofList PolicyRule.toJson))]

/-- A reference to a role as JSON. -/
def RoleRef.toJson (r : RoleRef) : Json :=
  .ofFields [
    ("apiGroup", .string r.apiGroup), ("kind", .string r.kind), ("name", .string r.name)]

/-- A subject as JSON. -/
def Subject.toJson (s : Subject) : Json :=
  .ofGiven [
    ("apiGroup", s.apiGroup.map .string), ("kind", some (.string s.kind)),
    ("name", some (.string s.name)), ("namespace", s.ns.map .string)]

/-- A binding of a kind as JSON. -/
def Binding.toJson (kind : String) (b : Binding) : Json :=
  .ofGiven [
    ("apiVersion", some (.string (accessGroup ++ "/v1"))), ("kind", some (.string kind)),
    ("metadata", some b.metadata.toJson), ("roleRef", some b.roleRef.toJson),
    ("subjects", b.subjects.map (.ofList Subject.toJson))]

/-! ## From JSON -/

open Json (string? bool? list?)

/-- An account from JSON. -/
def ServiceAccount.ofJson? (j : Json) : Option ServiceAccount := do
  guard (j.isOfKind "v1" "ServiceAccount")
  return {
    metadata := ← Metadata.ofManifest? j
    automountToken := ← j.field? "automountServiceAccountToken" bool? }

/-- A rule from JSON. -/
def PolicyRule.ofJson? (j : Json) : Option PolicyRule := do
  guard j.isObject
  return {
    apiGroups := ← j.field? "apiGroups" (list? string?)
    resources := ← j.field? "resources" (list? string?)
    resourceNames := ← j.field? "resourceNames" (list? string?)
    nonResourceUrls := ← j.field? "nonResourceURLs" (list? string?)
    verbs := ← j.fieldD "verbs" (list? string?) [] }

/-- A role of a kind from JSON. -/
def Role.ofJson? (kind : String) (j : Json) : Option Role := do
  guard (j.isOfKind (accessGroup ++ "/v1") kind)
  return {
    metadata := ← Metadata.ofManifest? j
    rules := ← j.field? "rules" (list? PolicyRule.ofJson?) }

/-- A reference to a role from JSON. -/
def RoleRef.ofJson? (j : Json) : Option RoleRef := do
  guard j.isObject
  return {
    apiGroup := ← j.fieldD "apiGroup" string? ""
    kind := ← j.fieldD "kind" string? ""
    name := ← j.fieldD "name" string? "" }

/-- A subject from JSON. -/
def Subject.ofJson? (j : Json) : Option Subject := do
  guard j.isObject
  return {
    apiGroup := ← j.field? "apiGroup" string?
    kind := ← j.fieldD "kind" string? ""
    name := ← j.fieldD "name" string? ""
    ns := ← j.field? "namespace" string? }

/-- A binding of a kind from JSON. -/
def Binding.ofJson? (kind : String) (j : Json) : Option Binding := do
  guard (j.isOfKind (accessGroup ++ "/v1") kind)
  return {
    metadata := ← Metadata.ofManifest? j
    roleRef := ← j.fieldD "roleRef" RoleRef.ofJson? {}
    subjects := ← j.field? "subjects" (list? Subject.ofJson?) }

end WorkloadTraits
