import WorkloadTraits.Proofs.Flattening
import WorkloadTraits.Proofs.Placement.Workload

/-!
# What policies are granted

An access policy stands somewhere: among the traits for some container, at some index.  This place
decides the names that the policy does not give, so a policy together with its place is called a
grant here.  Each grant asks for three objects, an account, a role and a binding.

The grants of all levels come in the order of the flat list, and so do their objects.  Of the
objects only the first of each key is kept, which says exactly which object is there in the end
under an address: that of the grant which comes first among those with the address
(`Engine.areFirst_objects`).  Account, role and binding are decided separately.
-/

namespace WorkloadTraits

/-- A policy where it stands: the container that its traits are for, and its index. -/
structure Grant where
  site : Site
  policy : AccessPolicy
  index : Nat

/-- The three objects that a policy asks for. -/
inductive AccessPart
  | account
  | role
  | binding
deriving DecidableEq

namespace Grant

variable (g : Grant)

/-- The name of the account. -/
def account : String := g.policy.accountName g.site.target g.index

/-- The namespace of the account. -/
def ns : String := namespaceOr g.policy.ns g.site

/-- The namespace of role and binding; none when they are for the whole cluster. -/
def scope : Option String := if g.policy.clusterScope then none else some g.ns

/-- The name of the role. -/
def role : String := g.policy.role g.account

/-- The name of the binding. -/
def binding : String := g.policy.binding g.account

/-- What the role permits. -/
def rules : List PolicyRule := g.policy.rules.map AccessPolicy.policyRule

/-- The kind of the role. -/
def roleKind : String := if g.policy.clusterScope then "ClusterRole" else "Role"

/-- A role as an object of the kind that the policy asks for. -/
def ofRole (r : Role) : Companion := if g.policy.clusterScope then .clusterRole r else .role r

/-- A binding as an object of the kind that the policy asks for. -/
def ofBinding (b : Binding) : Companion :=
  if g.policy.clusterScope then .clusterRoleBinding b else .roleBinding b

/-- The role that the policy asks for. -/
def wantedRole : Role where
  metadata := { name := some g.role, ns := g.scope, labels := g.policy.roleLabels.given? }
  rules := some g.rules

/-- The binding that the policy asks for. -/
def wantedBinding : Binding where
  metadata := { name := some g.binding, ns := g.scope, labels := g.policy.bindingLabels.given? }
  roleRef := ⟨accessGroup, g.roleKind, g.role⟩
  subjects := some [AccessPolicy.subject g.account g.ns]

end Grant

namespace AccessPart

/-- What a grant asks for. -/
def object (g : Grant) : AccessPart → Companion
  | account => .serviceAccount (g.policy.account g.account g.ns)
  | role => g.ofRole g.wantedRole
  | binding => g.ofBinding g.wantedBinding

/-- The namespace, if it has one, and the name of what a grant asks for. -/
def address (g : Grant) : AccessPart → Option String × String
  | account => (some g.ns, g.account)
  | role => (g.scope, g.role)
  | binding => (g.scope, g.binding)

end AccessPart

/-- Which part of a grant an object can be. -/
def Companion.part? : Companion → Option AccessPart
  | serviceAccount _ => some .account
  | role _ | clusterRole _ => some .role
  | roleBinding _ | clusterRoleBinding _ => some .binding
  | claim _ | secret _ | ingress _ => none

/-- Objects of one key are of one kind, and so can be the same part. -/
lemma Companion.part?_eq_of_key_eq {o o' : Companion} (h : o.key = o'.key) :
    o.part? = o'.part? := by
  have hkind : o.kind = o'.kind := congrArg Key.kind h
  cases o <;> cases o' <;> first | rfl | exact absurd hkind (by simp only [kind]; decide)

namespace Grant

@[simp] lemma part?_ofRole (g : Grant) (r : Role) : (g.ofRole r).part? = some .role := by
  rw [ofRole]
  split <;> rfl

@[simp] lemma part?_ofBinding (g : Grant) (b : Binding) :
    (g.ofBinding b).part? = some .binding := by
  rw [ofBinding]
  split <;> rfl

end Grant

namespace AccessPart

@[simp] lemma part?_object (p : AccessPart) (g : Grant) : (p.object g).part? = some p := by
  cases p with
  | account => rfl
  | role => exact g.part?_ofRole _
  | binding => exact g.part?_ofBinding _

/-- What grants ask for has the same key if it has the same address. -/
lemma key_eq_iff (p : AccessPart) (g g' : Grant) :
    (p.object g).key = (p.object g').key ↔ p.address g = p.address g' := by
  cases p
  case account =>
    simp [object, address, Companion.key, Companion.kind, Companion.ns, Companion.name,
      Companion.metadata, Metadata.anyName, AccessPolicy.account]
  all_goals
    cases hg : g.policy.clusterScope <;> cases hg' : g'.policy.clusterScope <;>
      simp [object, address, Grant.ofRole, Grant.ofBinding, Grant.wantedRole, Grant.wantedBinding,
        Grant.scope, hg, hg', Companion.key, Companion.kind, Companion.ns, Companion.name,
        Companion.metadata, Metadata.anyName]

/-- The parts of a policy's objects. -/
lemma filter_policyObjects (p : AccessPart) (s : Site) (e : AccessPolicy × Nat) :
    (Access.policyObjects s e).filter (·.part? = some p) = [p.object ⟨s, e.1, e.2⟩] := by
  have hobjects : Access.policyObjects s e =
      [account.object ⟨s, e.1, e.2⟩, role.object ⟨s, e.1, e.2⟩, binding.object ⟨s, e.1, e.2⟩] := by
    cases hscope : e.1.clusterScope <;>
      simp [Access.policyObjects, AccessPolicy.objects, object, Grant.ofRole, Grant.ofBinding,
        Grant.wantedRole, Grant.wantedBinding, Grant.scope, Grant.roleKind, Grant.role,
        Grant.binding, Grant.rules, Grant.account, Grant.ns, hscope]
  rw [hobjects]
  cases p <;> simp

end AccessPart

/-! ## The grants of all levels -/

/-- The policies of a level, each where it stands. -/
def Grant.demand (kinds : List TraitKind) : Demand Grant where
  kinds := kinds
  ofKind s t
    | .rbac => t.rbac.zipIdx.map fun e => ⟨s, e.1, e.2⟩
    | _ => []

/-- The grants of a level and of all levels in it, in order. -/
def grants (kinds : List TraitKind) (s : Site) (t : Traits) : List Grant :=
  (Grant.demand kinds).flatten s t

/-- Of some grants, it is the first with its address. -/
def AccessPart.Leads (p : AccessPart) (gs : List Grant) (g : Grant) : Prop :=
  gs.find? (p.address · = p.address g) = some g

/-- Of what could be part of a grant, some objects are just those of the grants that come first. -/
def AreFirst (gs : List Grant) (objects : List Companion) : Prop :=
  ∀ (p : AccessPart) (o : Companion), o.part? = some p →
    (o ∈ objects ↔ ∃ g ∈ gs, p.Leads gs g ∧ p.object g = o)

namespace AccessPart

/-- Only policies ask for what is a part of a grant. -/
lemma filter_ofKind (p : AccessPart) (kinds : List TraitKind) (s : Site) (t : Traits)
    (k : TraitKind) :
    (Besides.ofKind s t k).objects.filter (·.part? = some p) =
      ((Grant.demand kinds).ofKind s t k).map p.object := by
  have hnothing : ∀ os : List Companion, (∀ o ∈ os, o.part? = none) →
      os.filter (·.part? = some p) = [] := by
    intro os hos
    refine List.filter_eq_nil_iff.2 fun o ho => ?_
    simp [hos o ho]
  cases k
  case rbac =>
    simp only [Besides.ofKind, Grant.demand, List.filter_flatMap, filter_policyObjects,
      List.map_map]
    exact List.map_eq_flatMap.symm
  case storage =>
    refine hnothing _ fun o ho => ?_
    obtain ⟨claim, -, rfl⟩ := List.mem_map.1 ho
    rfl
  case secret =>
    refine hnothing _ fun o ho => ?_
    obtain ⟨e, -, rfl⟩ := List.mem_map.1 ho
    rfl
  case ingress =>
    refine hnothing _ fun o ho => ?_
    obtain ⟨i, rfl⟩ := Ingresses.exists_ingress_of_mem_made ho
    rfl
  all_goals rfl

/-- Among all objects that are asked for, those that are a part of grants are in order. -/
lemma filter_flatten (p : AccessPart) (kinds : List TraitKind) (s : Site) (t : Traits) :
    ((Besides.demand kinds (·.objects)).flatten s t).filter (·.part? = some p) =
      (grants kinds s t).map p.object := by
  rw [grants, ← List.filterMap_eq_filter, ← List.filterMap_eq_map]
  refine Demand.filterMap_flatten ?_ (fun s t k => ?_) s t
  · rfl
  · rw [List.filterMap_eq_filter, List.filterMap_eq_map]
    exact p.filter_ofKind kinds s t k

/-- Some grant comes first with the address of a grant. -/
lemma exists_leads (p : AccessPart) {gs : List Grant} {g : Grant} (hg : g ∈ gs) :
    ∃ g' ∈ gs, p.Leads gs g' ∧ p.address g' = p.address g := by
  have hsome : (gs.find? (p.address · = p.address g)).isSome = true := by
    rw [List.find?_isSome]
    exact ⟨g, hg, decide_eq_true rfl⟩
  obtain ⟨g', hfirst⟩ := Option.isSome_iff_exists.1 hsome
  have haddress : p.address g' = p.address g :=
    of_decide_eq_true (List.find?_some (p := fun g' => decide (p.address g' = p.address g)) hfirst)
  refine ⟨g', List.mem_of_find?_eq_some hfirst, ?_, haddress⟩
  rwa [Leads, haddress]

end AccessPart

/-- What counts of the flat list of objects is what the grants that come first ask for. -/
theorem areFirst_firsts_flatten (kinds : List TraitKind) (s : Site) (t : Traits) :
    AreFirst (grants kinds s t)
      (firsts (·.key) [] ((Besides.demand kinds (·.objects)).flatten s t)) := by
  intro p o ho
  have hsame : ∀ o' : Companion,
      decide (o'.part? = some p ∧ o'.key = o.key) = decide (o'.key = o.key) := by
    intro o'
    refine decide_eq_decide.2 ⟨And.right, fun h => ⟨?_, h⟩⟩
    rw [Companion.part?_eq_of_key_eq h, ho]
  have hfind : ((Besides.demand kinds (·.objects)).flatten s t).find? (·.key = o.key) =
      ((grants kinds s t).find? fun g => (p.object g).key = o.key).map p.object := by
    have hfiltered := congrArg (List.find? (·.key = o.key)) (p.filter_flatten kinds s t)
    rw [List.find?_filter, List.find?_map] at hfiltered
    simpa only [decide_eq_true_eq, hsame, Function.comp_def] using hfiltered
  rw [mem_firsts, hfind, Option.map_eq_some_iff]
  simp only [List.not_mem_nil, not_false_eq_true, true_and]
  constructor
  · rintro ⟨g, hg, rfl⟩
    simp only [AccessPart.key_eq_iff] at hg
    exact ⟨g, List.mem_of_find?_eq_some hg, hg, rfl⟩
  · rintro ⟨g, -, hg, rfl⟩
    refine ⟨g, ?_, rfl⟩
    simpa only [AccessPart.key_eq_iff, AccessPart.Leads] using hg

namespace AreFirst

variable {gs : List Grant} {objects : List Companion}

/-- Whatever a grant asks for is there, be it that of another grant. -/
lemma exists_object (h : AreFirst gs objects) (p : AccessPart) {g : Grant} (hg : g ∈ gs) :
    ∃ g' ∈ gs, p.object g' ∈ objects ∧ p.address g' = p.address g := by
  obtain ⟨g', hg', hleads, haddress⟩ := p.exists_leads hg
  exact ⟨g', hg', (h p _ (p.part?_object g')).2 ⟨g', hg', hleads, rfl⟩, haddress⟩

/-- An object that could be part of a grant is part of one. -/
lemma exists_grant (h : AreFirst gs objects) {p : AccessPart} {o : Companion} (ho : o ∈ objects)
    (hpart : o.part? = some p) : ∃ g ∈ gs, p.Leads gs g ∧ p.object g = o :=
  (h p o hpart).1 ho

end AreFirst

/-! ## After an application -/

namespace Engine

/-- The grants of a component. -/
def grants (e : Engine) (c : Component) (t? : Option Traits) : List Grant :=
  WorkloadTraits.grants e.registry.kinds (e.site c) (t?.getD {})

/-- **Who comes first is heard.**  After an application that succeeds, there is under each address
the object of the first grant with that address, and nothing else that could be part of a grant. -/
theorem areFirst_objects {e : Engine} (hbuiltin : e.registry.IsBuiltin) {c : Component}
    {w : Workload} {objects : List Companion} (hok : (e.apply c w).outcome = .ok objects) :
    ∃ t?, traits c = .ok t? ∧ AreFirst (e.grants c t?) objects := by
  rcases apply_eq_ok hok with ⟨htraits, -, rfl⟩ | ⟨t, contribution, htraits, hcontribution, -, rfl⟩
  · have hnone : e.grants c none = [] :=
      Demand.flatten_of_nothing (fun _ k => by cases k <;> rfl) (e.site c)
    refine ⟨none, htraits, fun p o _ => ?_⟩
    simp [hnone]
  · have hcontributes := Dispatcher.contributes_of_dispatch hcontribution
    refine ⟨some t, htraits, fun p o ho => ?_⟩
    have hfree : o.template? e.settings = none := by
      cases o <;> first | rfl | cases ho
    rw [freeObjects, List.mem_filter, hfree, hcontributes.objects_eq hbuiltin rfl]
    exact (and_iff_left rfl).trans (areFirst_firsts_flatten _ _ _ p o ho)

end Engine

end WorkloadTraits
