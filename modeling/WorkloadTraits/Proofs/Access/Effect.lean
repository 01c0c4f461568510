import WorkloadTraits.Proofs.Access.Grants

/-!
# Which policies take effect

A policy takes effect when its account is there, with a role that permits just what the policy says
and a binding that gives this role to the account.  The account is always there.  Role and binding
need not be: if an earlier policy asks for a role under the same address, its rules stay, and the
later rules are dropped without a word.  Both can come from other policies and still do what the
policy wants.

`policies_take_effect_iff` says exactly when.  It suffices that the policy comes first under the
addresses of its role and of its binding.
-/

namespace WorkloadTraits

namespace Grant

/-- The account of the policy is among some objects. -/
def HasAccount (g : Grant) (objects : List Companion) : Prop :=
  ∃ a : ServiceAccount, .serviceAccount a ∈ objects ∧
    a.metadata.name = some g.account ∧ a.metadata.ns = some g.ns

/-- Among some objects there is a role that permits just what the policy says, where the policy
says it, and a binding that gives this role to the account of the policy. -/
def IsPermitted (g : Grant) (objects : List Companion) : Prop :=
  ∃ (r : Role) (b : Binding) (name : String),
    g.ofRole r ∈ objects ∧ r.metadata.name = some name ∧ r.metadata.ns = g.scope ∧
      r.rules = some g.rules ∧
    g.ofBinding b ∈ objects ∧ b.metadata.ns = g.scope ∧
      b.roleRef = ⟨accessGroup, g.roleKind, name⟩ ∧
        b.subjects = some [AccessPolicy.subject g.account g.ns]

/-- The policy does what it says. -/
def TakesEffect (g : Grant) (objects : List Companion) : Prop :=
  g.HasAccount objects ∧ g.IsPermitted objects

/-- Among some grants, one that comes first with its role permits what the policy says, where the
policy says it, and one that comes first with its binding gives that role to the account. -/
def IsHonored (g : Grant) (gs : List Grant) : Prop :=
  ∃ r ∈ gs, ∃ b ∈ gs,
    AccessPart.role.Leads gs r ∧ r.scope = g.scope ∧ r.rules = g.rules ∧
    AccessPart.binding.Leads gs b ∧ b.scope = g.scope ∧ b.role = r.role ∧
      b.account = g.account ∧ b.ns = g.ns

/-- A policy that comes first with its role and with its binding is honored. -/
lemma isHonored_of_leads {g : Grant} {gs : List Grant} (hg : g ∈ gs)
    (hrole : AccessPart.role.Leads gs g) (hbinding : AccessPart.binding.Leads gs g) :
    g.IsHonored gs :=
  ⟨g, hg, g, hg, hrole, rfl, rfl, hbinding, rfl, rfl, rfl, rfl⟩

lemma clusterScope_eq_of_scope_eq {g g' : Grant} (h : g.scope = g'.scope) :
    g.policy.clusterScope = g'.policy.clusterScope := by
  rw [scope, scope] at h
  cases hg : g.policy.clusterScope <;> cases hg' : g'.policy.clusterScope <;> simp [hg, hg'] at h ⊢

lemma ofRole_congr {g g' : Grant} (h : g.scope = g'.scope) (r : Role) :
    g.ofRole r = g'.ofRole r := by
  rw [ofRole, ofRole, clusterScope_eq_of_scope_eq h]

lemma ofBinding_congr {g g' : Grant} (h : g.scope = g'.scope) (b : Binding) :
    g.ofBinding b = g'.ofBinding b := by
  rw [ofBinding, ofBinding, clusterScope_eq_of_scope_eq h]

lemma eq_of_ofRole_eq {g g' : Grant} {r r' : Role} (h : g.ofRole r = g'.ofRole r') : r = r' := by
  rw [ofRole, ofRole] at h
  split at h <;> split at h <;> cases h <;> rfl

lemma eq_of_ofBinding_eq {g g' : Grant} {b b' : Binding} (h : g.ofBinding b = g'.ofBinding b') :
    b = b' := by
  rw [ofBinding, ofBinding] at h
  split at h <;> split at h <;> cases h <;> rfl

end Grant

namespace AreFirst

variable {gs : List Grant} {objects : List Companion} {g : Grant}

/-- The account of every policy is there. -/
lemma hasAccount (h : AreFirst gs objects) (hg : g ∈ gs) : g.HasAccount objects := by
  obtain ⟨g', -, hobject, haddress⟩ := h.exists_object .account hg
  obtain ⟨hns, hname⟩ := Prod.mk.inj haddress
  exact ⟨_, hobject, congrArg some hname, hns⟩

/-- Role and binding are there if and only if those that come first are the right ones. -/
theorem isPermitted_iff (h : AreFirst gs objects) : g.IsPermitted objects ↔ g.IsHonored gs := by
  constructor
  · rintro ⟨r, b, name, hr, hname, hscope, hrules, hb, hscope', href, hsubjects⟩
    obtain ⟨gr, hgr, hleads, hrole⟩ := h.exists_grant hr (g.part?_ofRole r)
    obtain ⟨gb, hgb, hleads', hbinding⟩ := h.exists_grant hb (g.part?_ofBinding b)
    obtain rfl := Grant.eq_of_ofRole_eq hrole
    obtain rfl := Grant.eq_of_ofBinding_eq hbinding
    have hsame : gb.role = gr.role :=
      (congrArg RoleRef.name href).trans (Option.some.inj hname).symm
    have hsubject : AccessPolicy.subject gb.account gb.ns = AccessPolicy.subject g.account g.ns :=
      List.head_eq_of_cons_eq (Option.some.inj hsubjects)
    exact ⟨gr, hgr, gb, hgb, hleads, hscope, Option.some.inj hrules, hleads', hscope', hsame,
      congrArg Subject.name hsubject, Option.some.inj (congrArg Subject.ns hsubject)⟩
  · rintro ⟨r, hr, b, hb, hleads, hscope, hrules, hleads', hscope', hsame, haccount, hns⟩
    have hkind : b.roleKind = g.roleKind := by
      rw [Grant.roleKind, Grant.roleKind, Grant.clusterScope_eq_of_scope_eq hscope']
    refine ⟨r.wantedRole, b.wantedBinding, r.role, ?_, rfl, hscope, congrArg some hrules, ?_,
      hscope', ?_, ?_⟩
    · rw [← Grant.ofRole_congr hscope]
      exact (h .role _ (AccessPart.role.part?_object r)).2 ⟨r, hr, hleads, rfl⟩
    · rw [← Grant.ofBinding_congr hscope']
      exact (h .binding _ (AccessPart.binding.part?_object b)).2 ⟨b, hb, hleads', rfl⟩
    · rw [Grant.wantedBinding, hkind, hsame]
    · rw [Grant.wantedBinding, haccount, hns]

end AreFirst

namespace Engine

/-- **Which policies take effect.**  After an application that succeeds, the account of every
policy is there, and the policy takes effect if and only if it is honored by those that come
first. -/
theorem policies_take_effect_iff {e : Engine} (hbuiltin : e.registry.IsBuiltin) {c : Component}
    {w : Workload} {objects : List Companion} (hok : (e.apply c w).outcome = .ok objects) :
    ∃ t?, traits c = .ok t? ∧ ∀ g ∈ e.grants c t?,
      g.HasAccount objects ∧ (g.TakesEffect objects ↔ g.IsHonored (e.grants c t?)) := by
  obtain ⟨t?, htraits, hobjects⟩ := areFirst_objects hbuiltin hok
  refine ⟨t?, htraits, fun g hg => ?_⟩
  have haccount := hobjects.hasAccount hg
  exact ⟨haccount, (and_iff_right haccount).trans hobjects.isPermitted_iff⟩

/-- A component with two policies for one account, each with rules of its own. -/
def twoRulesComponent : Component :=
  Component.withTraits { name := "web" } {
    rbac := [
      { serviceAccount := "reader", rules := [{ resources := ["pods"], verbs := ["get"] }] },
      { serviceAccount := "reader", rules := [{ resources := ["secrets"], verbs := ["list"] }] }] }

theorem policies_take_effect_iff_two_rules :
    ∃ objects, (builtin.apply twoRulesComponent plainWorkload).outcome = .ok objects ∧
      ∃ t?, traits twoRulesComponent = .ok t? ∧ ∀ g ∈ builtin.grants twoRulesComponent t?,
        g.HasAccount objects ∧
          (g.TakesEffect objects ↔ g.IsHonored (builtin.grants twoRulesComponent t?)) := by
  have hok : ∃ objects, (builtin.apply twoRulesComponent plainWorkload).outcome = .ok objects :=
    ⟨_, rfl⟩
  obtain ⟨objects, hok⟩ := hok
  exact ⟨objects, hok, policies_take_effect_iff Registry.isBuiltin_builtin hok⟩

/-- What stands beside the workload for these policies: the account, with the role and the binding
of the first one. -/
def firstRulesObjects : List Companion :=
  let metadata (name : String) : Metadata := { name := some name, ns := some "default" }
  [ .serviceAccount { metadata := metadata "reader" },
    .role {
      metadata := metadata "reader-role"
      rules := some [{ resources := some ["pods"], verbs := ["get"] }] },
    .roleBinding {
      metadata := metadata "reader-binding"
      roleRef := ⟨accessGroup, "Role", "reader-role"⟩
      subjects := some [AccessPolicy.subject "reader" "default"] }]

/-- The second of two policies for one account has no effect: the role that is there permits what
the first one says. -/
theorem second_rules_lost :
    ∃ t?, traits twoRulesComponent = .ok t? ∧
      (builtin.apply twoRulesComponent plainWorkload).outcome = .ok firstRulesObjects ∧
        ∃ g ∈ builtin.grants twoRulesComponent t?, ¬ g.TakesEffect firstRulesObjects := by
  refine ⟨_, rfl, rfl, _, List.mem_cons_of_mem _ List.mem_cons_self, ?_⟩
  rintro ⟨-, r, b, name, hr, -, -, hrules, -⟩
  change Companion.role r ∈ firstRulesObjects at hr
  simp only [firstRulesObjects, List.mem_cons, reduceCtorEq, Companion.role.injEq, false_or,
    List.not_mem_nil, or_false] at hr
  subst hr
  exact absurd hrules (by decide)

end Engine

end WorkloadTraits
