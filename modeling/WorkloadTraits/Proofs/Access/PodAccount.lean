import WorkloadTraits.Proofs.Flattening
import WorkloadTraits.Proofs.Names
import WorkloadTraits.Proofs.Placement.Workload

/-!
# The account of the pod

Every list of policies names an account for the pod, that of its first policy, and may say whether
the account's token is mounted.  A pod has one account only, and of contributions that are merged
the last one with a say decides.  So the pod gets the account of the last list among all levels
(`identity_apply`), unless it had one: the policies of the component itself are heard only if no
init entry and no sidecar has policies of its own.

That an account has a name matters here, since an account without a name would have no say.
-/

namespace WorkloadTraits

/-! ## Lists of policies -/

/-- A list of policies with the container whose traits it is among.  An empty list is none. -/
structure PolicyList where
  site : Site
  first : AccessPolicy
  rest : List AccessPolicy

namespace PolicyList

/-- The account that the list names for the pod. -/
def account (l : PolicyList) : String := l.first.accountName l.site.target 0

/-- Whether the account's token is mounted, as far as the list says. -/
def token (l : PolicyList) : Option Bool := (l.first :: l.rest).findSome? (·.automountToken)

/-- The list of policies of a level, if it has any. -/
def demand (kinds : List TraitKind) : Demand PolicyList where
  kinds := kinds
  ofKind s t
    | .rbac =>
      match t.rbac with
      | [] => []
      | first :: rest => [⟨s, first, rest⟩]
    | _ => []

end PolicyList

/-- The lists of policies of a level and of all levels in it, in order. -/
def policyLists (kinds : List TraitKind) (s : Site) (t : Traits) : List PolicyList :=
  (PolicyList.demand kinds).flatten s t

/-! ## What contributions say -/

lemma getLast?_toList {β : Type} (say : Option β) : say.toList.getLast? = say := by
  cases say <;> rfl

namespace Besides

/-- The account that is asked for; an empty name asks for none. -/
def account? (b : Besides) : Option String := b.account.filter (!·.isEmpty)

/-- Of accounts and of switches, the last one counts. -/
lemma collects_last {β : Type} (say : Besides → Option β)
    (haggregate : ∀ cs : List Contribution, say (Contribution.aggregate cs).besides =
      cs.reverse.findSome? fun c => say c.besides) :
    Collects (fun as bs => as.getLast? = bs.getLast?) (fun b => (say b).toList) where
  refl _ := rfl
  trans _ _ _ h h' := h.trans h'
  append _ _ _ _ h h' := by rw [List.getLast?_append, List.getLast?_append, h, h']
  aggregate cs := by
    rw [List.getLast?_flatMap, getLast?_toList, haggregate]
    simp only [getLast?_toList]

lemma account?_aggregate (cs : List Contribution) :
    (Contribution.aggregate cs).besides.account? = cs.reverse.findSome? fun c =>
      c.besides.account? := by
  show (Contribution.aggregate cs).serviceAccountName.filter (!·.isEmpty) = _
  rw [Contribution.aggregate_serviceAccountName]
  show _ = cs.reverse.findSome? (·.account?)
  cases hfound : cs.reverse.findSome? (·.account?) with
  | none => rfl
  | some name =>
      obtain ⟨c, -, hc⟩ := List.exists_of_findSome?_eq_some hfound
      rw [Option.filter_some, if_pos (Option.filter_eq_some_iff.1 hc).2]

/-- A list of policies asks for its account. -/
lemma account?_ofKind (kinds : List TraitKind) (s : Site) (t : Traits) (k : TraitKind) :
    ((PolicyList.demand kinds).ofKind s t k).flatMap (fun l => [l.account]) =
      (ofKind s t k).account?.toList := by
  cases k
  case rbac =>
    cases hpolicies : t.rbac with
    | nil => simp [ofKind, account?, PolicyList.demand, hpolicies]
    | cons p rest =>
        have hname : (p.accountName s.target 0).isEmpty = false := by
          simpa using p.accountName_ne_empty s.target 0
        simp [ofKind, account?, PolicyList.demand, PolicyList.account, hpolicies, hname,
          Option.filter_some]
  all_goals rfl

/-- A list of policies says whether the token is mounted. -/
lemma token_ofKind (kinds : List TraitKind) (s : Site) (t : Traits) (k : TraitKind) :
    ((PolicyList.demand kinds).ofKind s t k).flatMap (·.token.toList) =
      (ofKind s t k).token.toList := by
  cases k
  case rbac =>
    cases hpolicies : t.rbac with
    | nil => simp [ofKind, PolicyList.demand, hpolicies]
    | cons p rest => simp [ofKind, PolicyList.demand, PolicyList.token, hpolicies]
  all_goals rfl

end Besides

namespace Dispatcher

variable {d : Dispatcher} {l : Level} {c : Contribution}

/-- What a level has for the pod comes of the last list of policies. -/
theorem Contributes.identity_eq (hbuiltin : d.registry.IsBuiltin) (hbarred : l.barred = .empty)
    (h : d.Contributes l c) :
    c.serviceAccountName =
        (policyLists d.registry.kinds (d.site l) l.traits).getLast?.map (·.account) ∧
      c.automountToken =
        ((policyLists d.registry.kinds (d.site l) l.traits).filterMap (·.token)).getLast? := by
  have haccount :=
    h.collects (Besides.collects_last _ Besides.account?_aggregate) hbuiltin hbarred
  have htoken :=
    h.collects (Besides.collects_last (·.token) Contribution.aggregate_automountToken) hbuiltin
      hbarred
  have haccounts : (policyLists d.registry.kinds (d.site l) l.traits).flatMap
      (fun l => [l.account]) =
        (d.demand fun b => b.account?.toList).flatten (d.site l) l.traits := by
    refine Demand.flatMap_flatten ?_ (Besides.account?_ofKind d.registry.kinds) _ _
    rfl
  have htokens : (policyLists d.registry.kinds (d.site l) l.traits).flatMap (·.token.toList) =
      (d.demand fun b => b.token.toList).flatten (d.site l) l.traits := by
    refine Demand.flatMap_flatten ?_ (Besides.token_ofKind d.registry.kinds) _ _
    rfl
  rw [← haccounts, ← List.map_eq_flatMap, List.getLast?_map] at haccount
  rw [← htokens, ← List.filterMap_eq_flatMap_toList] at htoken
  have hsay : c.serviceAccountName = c.besides.account? := by
    obtain ⟨cs, rfl⟩ := h.exists_aggregate
    rw [Besides.account?_aggregate, Contribution.aggregate_serviceAccountName]
    rfl
  rw [getLast?_toList] at haccount htoken
  exact ⟨hsay.trans haccount, htoken⟩

end Dispatcher

/-! ## The pod -/

namespace Pod

/-- Who the pod is to the cluster: its account, and whether the account's token is mounted. -/
def identity (p : Pod) : Option String × Option Bool := (p.serviceAccountName, p.automountToken)

/-- Containers have no say in who the pod is. -/
@[simp] lemma identity_equip (p : Pod) (main : String) (c : Contribution) :
    (p.equip main c).identity = p.identity :=
  Prod.ext (p.sameShell_equip main c).account (p.sameShell_equip main c).token

@[simp] lemma identity_uncoverAll (p : Pod) (templates : List Claim) :
    (p.uncoverAll templates).identity = p.identity := by
  rw [uncoverAll_eq]
  rfl

end Pod

/-- The pod of a furnished workload keeps its account and its switch; what it does not have, it
takes from the contribution. -/
lemma Workload.identity_furnish {w : Workload} {pod : Pod} (hpod : w.pod? = some pod)
    (settings : Settings) (main : String) (c : Contribution) :
    ∃ pod', (w.furnish settings main c).pod? = some pod' ∧
      pod'.identity = (pod.bindAccount c).identity := by
  rw [pod?_furnish, hpod]
  refine ⟨_, rfl, ?_⟩
  split
  · rw [Pod.identity_uncoverAll, Pod.identity_equip]
    rfl
  · rw [Pod.identity_equip]
    rfl

namespace Engine

/-- The lists of policies of a component. -/
def policyLists (e : Engine) (c : Component) (t? : Option Traits) : List PolicyList :=
  WorkloadTraits.policyLists e.registry.kinds (e.site c) (t?.getD {})

variable {e : Engine} {c : Component} {w : Workload} {objects : List Companion} {pod : Pod}

/-- After an application that succeeds, the pod has the account that it had, or else that of the
last list of policies, and likewise for the switch. -/
theorem identity_apply (hbuiltin : e.registry.IsBuiltin)
    (hok : (e.apply c w).outcome = .ok objects) (hpod : w.pod? = some pod) :
    ∃ t? pod', traits c = .ok t? ∧ (e.apply c w).workload.pod? = some pod' ∧
      pod'.serviceAccountName = (pod.serviceAccountName.filter (!·.isEmpty)).or
        (((e.policyLists c t?).getLast?.map (·.account)).or pod.serviceAccountName) ∧
      pod'.automountToken =
        pod.automountToken.or ((e.policyLists c t?).filterMap (·.token)).getLast? := by
  rcases apply_eq_ok hok with ⟨htraits, hkept, -⟩ |
    ⟨t, contribution, htraits, hcontribution, hplaced, -⟩
  · have hnone : e.policyLists c none = [] :=
      Demand.flatten_of_nothing (fun _ k => by cases k <;> rfl) (e.site c)
    refine ⟨none, pod, htraits, (congrArg Workload.pod? hkept).trans hpod, ?_, ?_⟩
    · rw [hnone]
      cases pod.serviceAccountName with
      | none => rfl
      | some name => cases hname : name.isEmpty <;> simp [Option.filter_some, hname]
    · rw [hnone]
      exact (Option.or_none).symm
  · obtain ⟨haccount, htoken⟩ :=
      (Dispatcher.contributes_of_dispatch hcontribution).identity_eq hbuiltin rfl
    obtain ⟨pod', hpod', hidentity⟩ :=
      Workload.identity_furnish hpod e.settings c.name contribution
    obtain ⟨hname, hswitch⟩ := Prod.mk.inj hidentity
    refine ⟨some t, pod', htraits, hplaced ▸ hpod', ?_, ?_⟩
    · rw [hname]
      show Option.or _ (contribution.serviceAccountName.or _) = _
      rw [haccount]
      rfl
    · rw [hswitch]
      show Option.or _ contribution.automountToken = _
      rw [htoken]
      rfl

/-- **Which account is bound.**  A pod that says nothing about its account gets that of the first
policy of the last list.  If no list leaves it to a later policy to say whether the token is
mounted, the last first policy that says it decides. -/
theorem last_list_bound (hbuiltin : e.registry.IsBuiltin)
    (hok : (e.apply c w).outcome = .ok objects) (hpod : w.pod? = some pod)
    (hname : pod.serviceAccountName = none) (hswitch : pod.automountToken = none) :
    ∃ t? pod', traits c = .ok t? ∧ (e.apply c w).workload.pod? = some pod' ∧
      pod'.serviceAccountName = (e.policyLists c t?).getLast?.map (·.account) ∧
        ((∀ l ∈ e.policyLists c t?, l.token = l.first.automountToken) →
          pod'.automountToken =
            ((e.policyLists c t?).filterMap (·.first.automountToken)).getLast?) := by
  obtain ⟨t?, pod', htraits, hpod', hname', hswitch'⟩ := identity_apply hbuiltin hok hpod
  refine ⟨t?, pod', htraits, hpod', ?_, fun hfirst => ?_⟩
  · rw [hname', hname]
    exact Option.or_none
  · rw [hswitch', hswitch, Option.none_or, List.filterMap_congr hfirst]

/-- A component with a policy of its own, and with a sidecar that has one, too. -/
def policiesComponent : Component :=
  Component.withTraits { name := "web" } {
    rbac := [{ automountToken := some false }]
    sidecar := [{
      name := "agent"
      image := "agent"
      traits := { rbac := [{ automountToken := some true }] } }] }

theorem last_list_bound_sidecar :
    (∃ objects, (builtin.apply policiesComponent plainWorkload).outcome = .ok objects) ∧
      plainWorkload.pod? = some plainPod ∧ plainPod.serviceAccountName = none ∧
      plainPod.automountToken = none ∧
      ∃ t? pod', traits policiesComponent = .ok t? ∧
        (builtin.apply policiesComponent plainWorkload).workload.pod? = some pod' ∧
        pod'.serviceAccountName =
          (builtin.policyLists policiesComponent t?).getLast?.map (·.account) ∧
        (∀ l ∈ builtin.policyLists policiesComponent t?, l.token = l.first.automountToken) ∧
          pod'.automountToken = ((builtin.policyLists policiesComponent t?).filterMap
            (·.first.automountToken)).getLast? := by
  have hok : ∃ objects, (builtin.apply policiesComponent plainWorkload).outcome = .ok objects :=
    ⟨_, rfl⟩
  have hpod : plainWorkload.pod? = some plainPod := rfl
  obtain ⟨objects, hobjects⟩ := hok
  obtain ⟨t?, pod', htraits, hpod', haccount, hswitch⟩ :=
    last_list_bound Registry.isBuiltin_builtin hobjects hpod rfl rfl
  have hfirst : ∀ l ∈ builtin.policyLists policiesComponent t?,
      l.token = l.first.automountToken := by
    obtain rfl := Except.ok.inj (htraits.symm.trans rfl)
    decide
  exact ⟨⟨objects, hobjects⟩, hpod, rfl, rfl, t?, pod', htraits, hpod', haccount, hfirst,
    hswitch hfirst⟩

/-- The account and the switch of the first policy of a component are not those of the pod when a
sidecar has policies. -/
theorem first_policy_not_bound :
    (∃ objects, (builtin.apply policiesComponent plainWorkload).outcome = .ok objects) ∧
      plainWorkload.pod? = some plainPod ∧ plainPod.serviceAccountName = none ∧
      plainPod.automountToken = none ∧
      ∃ t p pod', traits policiesComponent = .ok (some t) ∧ t.rbac.head? = some p ∧
        (builtin.apply policiesComponent plainWorkload).workload.pod? = some pod' ∧
        pod'.serviceAccountName ≠ some (p.accountName policiesComponent.name 0) ∧
          pod'.automountToken ≠ p.automountToken := by
  refine ⟨⟨_, rfl⟩, rfl, rfl, rfl, _, _, _, rfl, rfl, rfl, ?_, ?_⟩
  · decide
  · decide

end Engine

end WorkloadTraits
