import WorkloadTraits.Proofs.Claims.Templates

/-!
# Volumes that shadow templates

A stateful workload makes a claim for each of its pods from a template, under the template's name,
and a volume of the pod that has this name takes the place of the claim.  Volumes that refer to a
claim are taken away when a template of their name is bound, other volumes are not.

So it is decided by the volume that counts under the name of a created claim, and this need not be
the volume of the entry that creates the claim: volumes and claims of one name are collected apart,
each by its own first entry.  A volume shadows a new template exactly if the first volume that is
asked for under its name refers to no claim (`unshadowed_iff`).
-/

namespace WorkloadTraits

namespace Workload

/-- No volume of the pod has the name of a template. -/
def Unshadowed (w : Workload) : Prop :=
  ∀ v ∈ w.volumes, some v.name ∉ w.templateNames

instance (w : Workload) : Decidable w.Unshadowed :=
  inferInstanceAs (Decidable (∀ v ∈ w.volumes, some v.name ∉ w.templateNames))

end Workload

/-- Under the name of each creation there is a volume. -/
lemma Creation.follows_volumes (kinds : List TraitKind) :
    (Creation.demand kinds).Follows fun c xs => ∀ x ∈ xs, x.name ∈ c.volumes.map (·.name) where
  aggregate cs ass h := by
    intro x hx
    obtain ⟨xs, hxs, hx⟩ := List.mem_flatten.1 hx
    obtain ⟨c, hc, hvolume⟩ := exists_of_mem_forall₂ h hxs
    rw [Contribution.aggregate_volumes, mem_map_appendNew]
    obtain ⟨v, hv, hname⟩ := List.mem_map.1 (hvolume x hx)
    exact .inr (List.mem_map.2 ⟨v, List.mem_flatMap.2 ⟨c, hc, hv⟩, hname⟩)
  aroundInit _ _ _ h := h
  aroundSidecar _ _ _ h := h
  ofKind {s answer t k c} _ _ h := by
    cases k
    case storage =>
      obtain ⟨ps, hps, h⟩ := bind_eq_ok.1 h
      obtain rfl := Except.ok.inj h
      intro x hx
      obtain ⟨e, he, rfl⟩ := List.mem_map.1 hx
      have hcounted := (List.mem_filter.1 he).1
      obtain ⟨p, hp, hbecomes⟩ := exists_of_mem_forall₂ (Storage.parts_eq_ok.1 hps).2.flip hcounted
      have hname : p.volume.name = e.1 := (Storage.Becomes.names hbecomes).1
      exact List.mem_map.2 ⟨p.volume, List.mem_map_of_mem hp, hname⟩
    all_goals exact fun x hx => (List.not_mem_nil hx).elim

namespace Engine

variable {e : Engine} {c : Component}

/-- The volumes that a component asks for, in order. -/
def askedVolumes (e : Engine) (c : Component) (t? : Option Traits) : List Volume :=
  (Besides.demand e.registry.kinds (·.volumes)).flatten (e.site c) (t?.getD {})

section Placed

variable {w : Workload} {contribution : Contribution} {pod : Pod}
variable {xs : List Creation} {claims : List Claim}

/-- The templates of a furnished workload have the old names and those of created claims. -/
lemma mem_templateNames_furnish (hpod : w.pod? = some pod) (hstateful : w.isStateful = true)
    (hmade : List.Forall₂ (fun x k => x.claim = .ok k) xs claims)
    (htemplates : claimTemplates e.settings contribution.objects =
      firsts (·.metadata.name) [] claims) {name : String} :
    some name ∈ (w.furnish e.settings c.name contribution).templateNames ↔
      some name ∈ w.templateNames ∨ name ∈ xs.map (·.name) := by
  have hnamed : ∀ k ∈ claimTemplates e.settings contribution.objects,
      ∃ name, k.metadata.name = some name := by
    intro k hk
    rw [htemplates] at hk
    exact exists_name_of_made hmade k ((firsts_sublist _ _ _).subset hk)
  have hstateful' : (w.furnish e.settings c.name contribution).isStateful = true := by
    rw [Workload.isStateful_furnish]
    exact hstateful
  have hnames : some name ∈
      ((firsts (·.metadata.name) [] claims).map Claim.asTemplate).map (·.metadata.name) ↔
        name ∈ xs.map (·.name) := by
    rw [List.map_map]
    show some name ∈ (firsts (·.metadata.name) [] claims).map (·.metadata.name) ↔ _
    rw [mem_map_firsts, map_name_of_made hmade]
    simp
  rw [Workload.templateNames, if_pos hstateful', Workload.templateNames, if_pos hstateful,
    Workload.claimTemplateList_furnish hpod hstateful hnamed, htemplates, List.map_append,
    List.mem_append, mem_map_firsts, hnames]
  by_cases hold : some name ∈ w.claimTemplateList.map (·.metadata.name)
  · simp [hold]
  · simp [hold]

/-- A workload that is furnished with fresh volumes has the old ones, and those that count of the
new ones, apart from those that refer to a claim and have the name of a created one. -/
lemma mem_volumes_furnish (hpod : w.pod? = some pod) (hstateful : w.isStateful = true)
    (hmade : List.Forall₂ (fun x k => x.claim = .ok k) xs claims)
    (htemplates : claimTemplates e.settings contribution.objects =
      firsts (·.metadata.name) [] claims) {asked : List Volume}
    (hvolumes : contribution.volumes = firsts (·.name) [] asked)
    (hfresh : ∀ v ∈ asked, v.name ∉ w.volumes.map (·.name)) {v : Volume} :
    v ∈ (w.furnish e.settings c.name contribution).volumes ↔
      (v ∈ w.volumes ∨ asked.find? (·.name = v.name) = some v) ∧
        ¬ (v.claimName.isSome = true ∧ v.name ∈ xs.map (·.name)) := by
  have hnew : v ∈ firsts (·.name) (w.volumes.map (·.name)) contribution.volumes ↔
      asked.find? (·.name = v.name) = some v := by
    rw [hvolumes, firsts_firsts_of_subset _ (List.nil_subset _), mem_firsts]
    exact and_iff_right_of_imp fun hfirst => hfresh v (List.mem_of_find?_eq_some hfirst)
  rw [Workload.volumes_furnish hpod, hstateful, htemplates, List.mem_filter, List.mem_append,
    hnew, ← hidesAny_firsts hmade v]
  simp

/-- A furnished workload is unshadowed if it was before, and each volume that counts under the name
of a created claim refers to a claim. -/
lemma unshadowed_furnish_iff (hpod : w.pod? = some pod) (hstateful : w.isStateful = true)
    (hmade : List.Forall₂ (fun x k => x.claim = .ok k) xs claims)
    (htemplates : claimTemplates e.settings contribution.objects =
      firsts (·.metadata.name) [] claims) {asked : List Volume}
    (hvolumes : contribution.volumes = firsts (·.name) [] asked)
    (hasked : ∀ x ∈ xs, x.name ∈ asked.map (·.name))
    (hfresh : ∀ v ∈ asked, v.name ∉ w.volumes.map (·.name) ∧ some v.name ∉ w.templateNames) :
    (w.furnish e.settings c.name contribution).Unshadowed ↔
      w.Unshadowed ∧ ∀ x ∈ xs, ∃ v, asked.find? (·.name = x.name) = some v ∧
        v.claimName.isSome = true := by
  have hvolume : ∀ v, v ∈ (w.furnish e.settings c.name contribution).volumes ↔
      (v ∈ w.volumes ∨ asked.find? (·.name = v.name) = some v) ∧
        ¬ (v.claimName.isSome = true ∧ v.name ∈ xs.map (·.name)) :=
    fun _ => mem_volumes_furnish hpod hstateful hmade htemplates hvolumes fun v hv =>
      (hfresh v hv).1
  have htemplate : ∀ name, some name ∈ (w.furnish e.settings c.name contribution).templateNames ↔
      some name ∈ w.templateNames ∨ name ∈ xs.map (·.name) :=
    fun _ => mem_templateNames_furnish hpod hstateful hmade htemplates
  have hold : ∀ v ∈ w.volumes, v.name ∉ xs.map (·.name) := by
    intro v hv hcreated
    obtain ⟨x, hx, hname⟩ := List.mem_map.1 hcreated
    obtain ⟨v', hv', hname'⟩ := List.mem_map.1 (hasked x hx)
    exact (hfresh v' hv').1 (List.mem_map.2 ⟨v, hv, (hname'.trans hname).symm⟩)
  constructor
  · intro h
    refine ⟨fun v hv hshadowed => ?_, fun x hx => ?_⟩
    · have hkept := (hvolume v).2 ⟨.inl hv, fun hhidden => hold v hv hhidden.2⟩
      exact h v hkept ((htemplate _).2 (.inl hshadowed))
    · obtain ⟨v, hfirst, hname⟩ := exists_find?_of_mem_map (hasked x hx)
      refine ⟨v, hfirst, ?_⟩
      -- If the volume refers to no claim, nothing takes it away.
      by_contra hnone
      have hkept := (hvolume v).2 ⟨.inr (by rwa [hname]), fun hhidden => hnone hhidden.1⟩
      exact h v hkept ((htemplate _).2 (.inr (List.mem_map.2 ⟨x, hx, hname.symm⟩)))
  · rintro ⟨hw, hfirsts⟩ v hv hshadowed
    obtain ⟨hv | hfirst, hshown⟩ := (hvolume v).1 hv
    · exact ((htemplate _).1 hshadowed).elim (hw v hv) (hold v hv)
    · have hasked : v ∈ asked := List.mem_of_find?_eq_some hfirst
      rcases (htemplate _).1 hshadowed with hbefore | hcreated
      · exact (hfresh v hasked).2 hbefore
      · obtain ⟨x, hx, hname⟩ := List.mem_map.1 hcreated
        obtain ⟨v', hfirst', hclaim⟩ := hfirsts x hx
        rw [hname, hfirst] at hfirst'
        obtain rfl := Option.some.inj hfirst'
        exact hshown ⟨hclaim, hcreated⟩

end Placed

/-- **When templates are shadowed.**  If no volume or template of a stateful workload has the name
of a volume that the component asks for, then no template is shadowed after an application that
succeeds if and only if none was before, and the first volume that is asked for under the name of
each created claim refers to a claim. -/
theorem unshadowed_iff (hbuiltin : e.registry.IsBuiltin) {w : Workload} {objects : List Companion}
    (hok : (e.apply c w).outcome = .ok objects) (hstateful : w.isStateful = true)
    {t? : Option Traits} (htraits : traits c = .ok t?)
    (hfresh : ∀ v ∈ e.askedVolumes c t?,
      v.name ∉ w.volumes.map (·.name) ∧ some v.name ∉ w.templateNames) :
    (e.apply c w).workload.Unshadowed ↔
      w.Unshadowed ∧ ∀ x ∈ e.creations c t?, ∃ v,
        (e.askedVolumes c t?).find? (·.name = x.name) = some v ∧ v.claimName.isSome = true := by
  rcases e.apply_outcome c w with
    ⟨t, contribution, pod, htraits', hcontribution, hpod, -, hworkload, -⟩ |
      ⟨hkept, ⟨htraits', -⟩ | ⟨failure, hfailed⟩⟩
  · obtain rfl := Except.ok.inj (htraits.symm.trans htraits')
    obtain ⟨claims, hmade, -, htemplates⟩ := claimTemplates_contribute hbuiltin hcontribution
    have hcontributes := Dispatcher.contributes_of_dispatch hcontribution
    have hvolumes := hcontributes.volumes_eq hbuiltin rfl
    change contribution.volumes = firsts (·.name) [] (e.askedVolumes c (some t)) at hvolumes
    have hcreated := hcontributes.follows (Creation.follows_volumes e.registry.kinds) rfl hbuiltin
      rfl
    rw [hworkload]
    refine unshadowed_furnish_iff hpod hstateful hmade htemplates hvolumes (fun x hx => ?_) hfresh
    have hname := hcreated x hx
    rw [hvolumes, mem_map_firsts] at hname
    exact hname.1
  · obtain rfl := Except.ok.inj (htraits.symm.trans htraits')
    have hnothing : e.creations c none = [] :=
      Demand.flatten_of_nothing (fun _ k => by cases k <;> rfl) (e.site c)
    rw [hkept, hnothing]
    exact (and_iff_left fun x hx => (List.not_mem_nil hx).elim).symm
  · cases hfailed.symm.trans hok

/-- A component that asks for a volume `data` of its own, and for one of that name with a claim in a
sidecar. -/
def mixedComponent : Component :=
  Component.withTraits { name := "web" } {
    storage := [{ name := "data", type := "ephemeral" }]
    sidecar := [{
      name := "agent"
      image := "agent"
      traits := { storage := [{ name := "data", type := "persistent", create := true }] } }] }

theorem unshadowed_iff_mixed :
    (builtin.apply mixedComponent statefulWorkload).outcome = .ok [] ∧
      ∃ t?, traits mixedComponent = .ok t? ∧
        (∀ v ∈ builtin.askedVolumes mixedComponent t?,
          v.name ∉ statefulWorkload.volumes.map (·.name) ∧
            some v.name ∉ statefulWorkload.templateNames) ∧
        ((builtin.apply mixedComponent statefulWorkload).workload.Unshadowed ↔
          statefulWorkload.Unshadowed ∧ ∀ x ∈ builtin.creations mixedComponent t?, ∃ v,
            (builtin.askedVolumes mixedComponent t?).find? (·.name = x.name) = some v ∧
              v.claimName.isSome = true) := by
  have hok : (builtin.apply mixedComponent statefulWorkload).outcome = .ok [] := rfl
  refine ⟨hok, _, rfl, ?_, ?_⟩
  · exact fun v _ => ⟨List.not_mem_nil, List.not_mem_nil⟩
  · exact unshadowed_iff Registry.isBuiltin_builtin hok rfl rfl
      fun v _ => ⟨List.not_mem_nil, List.not_mem_nil⟩

/-- Templates can be shadowed although the workload had nothing of the component's names. -/
theorem template_shadowed :
    ¬ ∀ (c : Component) (w : Workload) (objects : List Companion) (t? : Option Traits),
      w.isStateful = true → traits c = .ok t? →
        (∀ v ∈ builtin.askedVolumes c t?,
          v.name ∉ w.volumes.map (·.name) ∧ some v.name ∉ w.templateNames) →
        (builtin.apply c w).outcome = .ok objects → (builtin.apply c w).workload.Unshadowed := by
  intro h
  have hunshadowed := h mixedComponent statefulWorkload [] _ rfl rfl
    (fun v _ => ⟨List.not_mem_nil, List.not_mem_nil⟩) rfl
  have hvolumes : (builtin.apply mixedComponent statefulWorkload).workload.volumes =
      [{ name := "data", emptyDir := true }] := rfl
  have htemplates : (builtin.apply mixedComponent statefulWorkload).workload.templateNames =
      [some "data"] := rfl
  rw [Workload.Unshadowed, hvolumes, htemplates] at hunshadowed
  exact hunshadowed _ (List.mem_singleton.2 rfl) (List.mem_singleton.2 rfl)

end Engine

end WorkloadTraits
