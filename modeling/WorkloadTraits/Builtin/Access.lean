import WorkloadTraits.Builtin.Field

/-!
# The access trait

Each policy becomes an account, a role with the policy's rules, and a binding of the role to the
account, in a namespace or, the account apart, in the whole cluster.  The first policy's account
becomes that of the pod.
-/

namespace WorkloadTraits

namespace AccessPolicy

/-- The name of the account of the policy at an index. -/
def accountName (target : String) (index : Nat) (p : AccessPolicy) : String :=
  if Text.isBlankText p.serviceAccount then
    let base := Text.firstNonEmpty [Label.normalize target, "service"]
    if index = 0 then base ++ "-sa" else base ++ "-" ++ toString (index + 1) ++ "-sa"
  else Label.normalize p.serviceAccount

/-- The name of something that belongs to an account. -/
def ownedName (name account ending : String) : String :=
  if Text.isBlankText name then account ++ ending else Label.normalize name

/-- The name of the policy's role. -/
def role (p : AccessPolicy) (account : String) : String :=
  ownedName p.roleName account "-role"

/-- The name of the policy's binding. -/
def binding (p : AccessPolicy) (account : String) : String :=
  ownedName p.bindingName account "-binding"

/-- The rule that a rule of the policy stands for. -/
def policyRule (r : AccessRule) : PolicyRule where
  apiGroups := given? r.apiGroups
  resources := given? r.resources
  resourceNames := given? r.resourceNames
  nonResourceUrls := given? r.nonResourceUrls
  verbs := r.verbs

/-- The rules from an index on; a rule without verbs is refused. -/
def policyRules (account : String) (index : Nat) :
    List AccessRule → Except Failure (List PolicyRule)
  | [] => .ok []
  | r :: rest =>
    if r.verbs.isEmpty then .error (.missingVerbs account index)
    else do return policyRule r :: (← policyRules account (index + 1) rest)

/-- The account of the policy. -/
def account (p : AccessPolicy) (name ns : String) : ServiceAccount where
  metadata := {
    name := some name
    ns := some ns
    labels := p.serviceAccountLabels.given?
    annotations := p.serviceAccountAnnotations.given? }
  automountToken := p.automountToken

/-- The subject that stands for an account. -/
def subject (name ns : String) : Subject where
  kind := "ServiceAccount"
  name := name
  ns := some ns

/-- The objects of the policy, with the names of its account and namespace and with its rules. -/
def objects (p : AccessPolicy) (name ns : String) (rules : List PolicyRule) : List Companion :=
  let role := p.role name
  let scope := if p.clusterScope then none else some ns
  let kind := if p.clusterScope then "ClusterRole" else "Role"
  let roleObject : Role := {
    metadata := { name := some role, ns := scope, labels := p.roleLabels.given? }
    rules := some rules }
  let bindingObject : Binding := {
    metadata := { name := some (p.binding name), ns := scope, labels := p.bindingLabels.given? }
    roleRef := ⟨accessGroup, kind, role⟩
    subjects := some [subject name ns] }
  .serviceAccount (p.account name ns) ::
    if p.clusterScope then [.clusterRole roleObject, .clusterRoleBinding bindingObject]
    else [.role roleObject, .roleBinding bindingObject]

end AccessPolicy

namespace Access

/-- The objects of the policies from an index on. -/
def objects (site : Site) (index : Nat) : List AccessPolicy → Except Failure (List Companion)
  | [] => .ok []
  | p :: rest => do
    let name := p.accountName site.target index
    let rules ← AccessPolicy.policyRules name 0 p.rules
    return p.objects name (namespaceOr p.ns site) rules ++ (← objects site (index + 1) rest)

/-- The contribution of policies: the objects of all, the account of the first, and the first
answer to whether the account's token is mounted. -/
def contribution (site : Site) (policies : List AccessPolicy) : Except Failure Contribution := do
  return {
    objects := ← objects site 0 policies
    serviceAccountName := policies.head?.map fun p => p.accountName site.target 0
    automountToken := policies.findSome? (·.automountToken) }

/-- The processor of the access trait. -/
def processor : Processor where
  name := "rbac"
  kind := .rbac
  process := fun c =>
    match c.data with
    | .rbac policies => .ofExcept ((contribution c.toSite policies).map some)
    | data => .fail (.typeMismatch "rbac" TraitKind.rbac.name data.kind.name)

end Access

end WorkloadTraits
