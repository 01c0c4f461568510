import WorkloadTraits.Proofs.Access.Effect
import WorkloadTraits.Proofs.Access.PodAccount

/-!
# References to roles and accounts resolve

A binding names a role and an account, and the pod names an account.  What they name may be dropped
for an earlier object of the same key, so it may say something else than its policy does
(`Grant.TakesEffect` is about that), but it is never missing: every policy asks for whatever its
binding refers to, and of what is asked for under an address something is there.
-/

namespace WorkloadTraits

/-- Among some objects there are the role and the accounts that a binding refers to, where `asRole`
makes the role an object of the kind that the binding is for. -/
structure Binding.Resolves (asRole : Role → Companion) (objects : List Companion) (b : Binding) :
    Prop where
  role : ∃ r : Role, asRole r ∈ objects ∧ r.metadata.ns = b.metadata.ns ∧
    r.metadata.name = some b.roleRef.name
  subjects : ∀ s ∈ b.subjects.getD [], ∃ a : ServiceAccount, .serviceAccount a ∈ objects ∧
    a.metadata.ns = s.ns ∧ a.metadata.name = some s.name

namespace AreFirst

variable {gs : List Grant} {objects : List Companion}

/-- What the binding of a policy refers to is there. -/
lemma resolves_wantedBinding (h : AreFirst gs objects) {g : Grant} (hg : g ∈ gs) :
    g.wantedBinding.Resolves g.ofRole objects where
  role := by
    obtain ⟨g', -, hobject, haddress⟩ := h.exists_object .role hg
    obtain ⟨hscope, hname⟩ := Prod.mk.inj haddress
    refine ⟨g'.wantedRole, ?_, hscope, congrArg some hname⟩
    rwa [← Grant.ofRole_congr hscope]
  subjects s hs := by
    obtain rfl := List.mem_singleton.1 hs
    obtain ⟨a, ha, hname, hns⟩ := h.hasAccount hg
    exact ⟨a, ha, hns, hname⟩

lemma resolves_roleBinding (h : AreFirst gs objects) {b : Binding}
    (hb : .roleBinding b ∈ objects) : b.Resolves .role objects := by
  obtain ⟨g, hg, -, hobject⟩ := h.exists_grant hb rfl
  have hresolves := h.resolves_wantedBinding hg
  simp only [AccessPart.object, Grant.ofBinding] at hobject
  split at hobject
  · cases hobject
  · rename_i hscope
    obtain rfl := Companion.roleBinding.inj hobject
    have hrole : g.ofRole = .role := funext fun _ => if_neg hscope
    rwa [← hrole]

lemma resolves_clusterRoleBinding (h : AreFirst gs objects) {b : Binding}
    (hb : .clusterRoleBinding b ∈ objects) : b.Resolves .clusterRole objects := by
  obtain ⟨g, hg, -, hobject⟩ := h.exists_grant hb rfl
  have hresolves := h.resolves_wantedBinding hg
  simp only [AccessPart.object, Grant.ofBinding] at hobject
  split at hobject
  · rename_i hscope
    obtain rfl := Companion.clusterRoleBinding.inj hobject
    have hrole : g.ofRole = .clusterRole := funext fun _ => if_pos hscope
    rwa [← hrole]
  · cases hobject

end AreFirst

namespace PolicyList

/-- The policies of a list, each where it stands. -/
def grants (l : PolicyList) : List Grant :=
  (l.first :: l.rest).zipIdx.map fun e => ⟨l.site, e.1, e.2⟩

/-- The grants of all levels are those of their lists of policies. -/
lemma flatMap_grants (kinds : List TraitKind) (s : Site) (t : Traits) :
    (policyLists kinds s t).flatMap grants = WorkloadTraits.grants kinds s t := by
  refine Demand.flatMap_flatten ?_ (fun s t k => ?_) s t
  · rfl
  · cases k
    case rbac => cases hpolicies : t.rbac <;> simp [demand, Grant.demand, grants, hpolicies]
    all_goals rfl

/-- The account that a list names for the pod is that of one of its policies. -/
lemma exists_grant {kinds : List TraitKind} {s : Site} {t : Traits} {l : PolicyList}
    (hl : l ∈ policyLists kinds s t) :
    ∃ g ∈ WorkloadTraits.grants kinds s t, g.account = l.account := by
  rw [← flatMap_grants]
  exact ⟨⟨l.site, l.first, 0⟩, List.mem_flatMap.2 ⟨l, hl, List.mem_cons_self⟩, rfl⟩

end PolicyList

namespace Engine

/-- **References resolve.**  After an application that succeeds, every binding finds its role, in
its own namespace or in the cluster, and its accounts.  The pod has the account that it had, or one
that is there. -/
theorem references_resolve {e : Engine} (hbuiltin : e.registry.IsBuiltin) {c : Component}
    {w : Workload} {objects : List Companion} (hok : (e.apply c w).outcome = .ok objects) :
    (∀ b, .roleBinding b ∈ objects → b.Resolves .role objects) ∧
    (∀ b, .clusterRoleBinding b ∈ objects → b.Resolves .clusterRole objects) ∧
    ∀ pod, w.pod? = some pod → ∃ pod', (e.apply c w).workload.pod? = some pod' ∧
      (pod'.serviceAccountName = pod.serviceAccountName ∨
        ∃ a : ServiceAccount, .serviceAccount a ∈ objects ∧
          a.metadata.name.isSome ∧ pod'.serviceAccountName = a.metadata.name) := by
  obtain ⟨t?, htraits, hobjects⟩ := areFirst_objects hbuiltin hok
  refine ⟨fun b hb => hobjects.resolves_roleBinding hb,
    fun b hb => hobjects.resolves_clusterRoleBinding hb, fun pod hpod => ?_⟩
  obtain ⟨t?', pod', htraits', hpod', hname, -⟩ := identity_apply hbuiltin hok hpod
  obtain rfl := Except.ok.inj (htraits.symm.trans htraits')
  refine ⟨pod', hpod', ?_⟩
  rw [hname]
  cases hkept : pod.serviceAccountName.filter (!·.isEmpty) with
  | some name =>
      left
      rw [(Option.filter_eq_some_iff.1 hkept).1]
      rfl
  | none =>
      cases hlast : (e.policyLists c t?).getLast? with
      | none => exact .inl rfl
      | some l =>
          right
          obtain ⟨g, hg, haccount⟩ := PolicyList.exists_grant (List.mem_of_getLast? hlast)
          obtain ⟨a, ha, hname', -⟩ := hobjects.hasAccount hg
          refine ⟨a, ha, ?_, ?_⟩
          · rw [hname']
            rfl
          · rw [hname', haccount]
            rfl

/-- A component with three policies that share a role name, one of them for the whole cluster. -/
def sharedRoleComponent : Component :=
  Component.withTraits { name := "web" } {
    rbac := [
      { roleName := "reader" }, { roleName := "reader", clusterScope := true },
      { roleName := "reader" }] }

theorem references_resolve_shared_role :
    ∃ objects, (builtin.apply sharedRoleComponent plainWorkload).outcome = .ok objects ∧
      (∀ b, .roleBinding b ∈ objects → b.Resolves .role objects) ∧
      (∀ b, .clusterRoleBinding b ∈ objects → b.Resolves .clusterRole objects) ∧
      ∀ pod, plainWorkload.pod? = some pod →
        ∃ pod', (builtin.apply sharedRoleComponent plainWorkload).workload.pod? = some pod' ∧
          (pod'.serviceAccountName = pod.serviceAccountName ∨
            ∃ a : ServiceAccount, .serviceAccount a ∈ objects ∧
              a.metadata.name.isSome ∧ pod'.serviceAccountName = a.metadata.name) := by
  have hok : ∃ objects, (builtin.apply sharedRoleComponent plainWorkload).outcome = .ok objects :=
    ⟨_, rfl⟩
  obtain ⟨objects, hok⟩ := hok
  exact ⟨objects, hok, references_resolve Registry.isBuiltin_builtin hok⟩

end Engine

end WorkloadTraits
