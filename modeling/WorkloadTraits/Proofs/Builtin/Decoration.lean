import WorkloadTraits.Proofs.Builtin.Kinds
import WorkloadTraits.Proofs.Builtin.Level
import WorkloadTraits.Proofs.Builtin.Storage

/-!
# What a level wants for its own container

Six of the ten kinds decorate the container that a level is for: storage and secrets with mounts,
`envs` and `envFrom` with variables, and then there are resources and probes.  `Traits.decoration`
is what they want together, as one value that is made of the traits alone.

`Contributes.own` says that a contribution wants exactly this for the container of its level, and
`Contributes.routesOnlyTo` that it wants nothing for any other container.  Whatever nested levels
want for their containers is on those containers by then and does not show.
-/

namespace WorkloadTraits

/-- What is wanted for one container, with the things that there can only be one of. -/
structure Decoration extends ContainerFields where
  resources : Option ResourceRequirements := none
  livenessProbe : Option Probe := none
  readinessProbe : Option Probe := none
  startupProbe : Option Probe := none

/-- What a contribution wants for a container, if that is the container of its level. -/
def Contribution.own (c : Contribution) (container : String) : Decoration where
  toContainerFields := c.fieldsFor container
  resources := c.resources
  livenessProbe := c.livenessProbe
  readinessProbe := c.readinessProbe
  startupProbe := c.startupProbe

/-- The mounts of secret entries. -/
def Secret.mounts (site : Site) (entries : List SecretEntry) : List VolumeMount :=
  (List.range entries.length).map fun index => mount (name site index)

/-- The resources that an entry asks for, if it gives any limit. -/
def Resources.wanted (site : Site) (e? : Option ResourceEntry) : Option ResourceRequirements :=
  (e?.bind fun e => (limitMap site e).given?).map fun limits => { limits := some limits }

namespace Decoration

/-- Several decorations of one container as one: the first mount of a path stays, and the last
decides what there can only be one of. -/
def combine (ds : List Decoration) : Decoration where
  volumeMounts := appendNew (·.mountPath) [] (ds.flatMap (·.volumeMounts))
  env := ds.flatMap (·.env)
  envFrom := ds.flatMap (·.envFrom)
  resources := ds.reverse.findSome? (·.resources)
  livenessProbe := ds.reverse.findSome? (·.livenessProbe)
  readinessProbe := ds.reverse.findSome? (·.readinessProbe)
  startupProbe := ds.reverse.findSome? (·.startupProbe)

/-- What a kind of traits wants for the container of its level. -/
def ofKind (site : Site) (t : Traits) : TraitKind → Decoration
  | .storage => { volumeMounts := Storage.mounts site t.storage }
  | .secret => { volumeMounts := Secret.mounts site t.secret }
  | .envFrom => { envFrom := Environment.sources t.envFrom }
  | .envs => { env := Environment.assigned t.envs }
  | .resources => { resources := Resources.wanted site t.resources }
  | .probes => {
      livenessProbe := Probes.asked t.probes .liveness
      readinessProbe := Probes.asked t.probes .readiness
      startupProbe := Probes.asked t.probes .startup }
  | .rbac | .init | .sidecar | .ingress => {}

end Decoration

/-- What traits want for the container of their level. -/
def Traits.decoration (site : Site) (t : Traits) : Decoration where
  volumeMounts :=
    firsts (·.mountPath) [] (Storage.mounts site t.storage ++ Secret.mounts site t.secret)
  env := Environment.assigned t.envs
  envFrom := Environment.sources t.envFrom
  resources := Resources.wanted site t.resources
  livenessProbe := Probes.asked t.probes .liveness
  readinessProbe := Probes.asked t.probes .readiness
  startupProbe := Probes.asked t.probes .startup

/-- Together, the kinds want what the traits want. -/
lemma Decoration.combine_ofKind (site : Site) (t : Traits) :
    combine (TraitKind.all.map (ofKind site t)) = t.decoration site := by
  simp only [TraitKind.all, combine, ofKind, Traits.decoration, appendNew_eq, List.map_cons,
    List.map_nil, List.flatMap_cons, List.flatMap_nil, List.reverse_cons, List.reverse_nil,
    List.nil_append, List.append_nil, List.cons_append, List.findSome?_cons, List.findSome?_nil]
  -- Each thing that there can only be one of is wanted by a single kind.
  cases Resources.wanted site t.resources <;> cases Probes.asked t.probes .liveness <;>
    cases Probes.asked t.probes .readiness <;> cases Probes.asked t.probes .startup <;> rfl

namespace Contribution

theorem own_aggregate (cs : List Contribution) (container : String) :
    (aggregate cs).own container = .combine (cs.map (·.own container)) := by
  simp only [own, fieldsFor, Decoration.combine, get_volumeMounts_aggregate,
    get_envVars_aggregate, get_envFrom_aggregate, aggregate_resources, aggregate_livenessProbe,
    aggregate_readinessProbe, aggregate_startupProbe, List.flatMap_map, ← List.map_reverse,
    List.findSome?_map]
  rfl

/-- A contribution that wants something for one container and adds none. -/
structure Decorates (c : Contribution) (target : String) (d : Decoration) : Prop where
  own : c.own target = d
  routes : c.RoutesOnlyTo target
  initContainers : c.initContainers = []
  containers : c.containers = []

lemma decorates_empty (target : String) : empty.Decorates target {} :=
  ⟨rfl, routesOnlyTo_empty target, rfl, rfl⟩

lemma decorates_mounts (volumes : List Volume) (target : String) (mounts : List VolumeMount)
    (objects : List Companion) :
    Decorates { volumes, volumeMounts := .single target mounts, objects } target
      { volumeMounts := mounts } where
  own := by simp [own, fieldsFor, Routing.get_single]
  routes := ⟨fun _ => Routing.eq_of_mem_names_single, by simp, by simp⟩
  initContainers := rfl
  containers := rfl

lemma decorates_env (target : String) (env : List EnvVar) :
    Decorates { envVars := .single target env } target { env } where
  own := by simp [own, fieldsFor, Routing.get_single]
  routes := ⟨by simp, fun _ => Routing.eq_of_mem_names_single, by simp⟩
  initContainers := rfl
  containers := rfl

lemma decorates_envFrom (target : String) (sources : List EnvSource) :
    Decorates { envFrom := .single target sources } target { envFrom := sources } where
  own := by simp [own, fieldsFor, Routing.get_single]
  routes := ⟨by simp, by simp, fun _ => Routing.eq_of_mem_names_single⟩
  initContainers := rfl
  containers := rfl

/-- A contribution that routes nothing wants what there can only be one of. -/
lemma decorates_singles (c : Contribution) (target : String) (hmounts : c.volumeMounts = .empty)
    (henv : c.envVars = .empty) (hfrom : c.envFrom = .empty) (hinits : c.initContainers = [])
    (hcontainers : c.containers = []) :
    c.Decorates target {
      resources := c.resources
      livenessProbe := c.livenessProbe
      readinessProbe := c.readinessProbe
      startupProbe := c.startupProbe } where
  own := by simp [own, fieldsFor, hmounts, henv, hfrom]
  routes := ⟨by simp [hmounts], by simp [henv], by simp [hfrom]⟩
  initContainers := hinits
  containers := hcontainers

/-- What a kind contributes decorates the container of its level, and does nothing else to
containers. -/
theorem decorates_kindContribution {site : Site} {answer : Nested → Except Failure Contribution}
    {t : Traits} {k : TraitKind} {c : Contribution} (hinit : k ≠ .init) (hsidecar : k ≠ .sidecar)
    (h : kindContribution site answer t k = .ok c) :
    c.Decorates site.target (.ofKind site t k) := by
  cases k with
  | storage =>
      obtain ⟨ps, hps, h⟩ := bind_eq_ok.1 h
      obtain rfl := Except.ok.inj h
      rw [Decoration.ofKind, ← Storage.mounts_eq hps]
      exact decorates_mounts _ _ _ _
  | secret =>
      obtain rfl := Except.ok.inj h
      have hmounts : Secret.mounts site t.secret =
          ((List.range t.secret.length).map (Secret.name site)).map Secret.mount := by
        rw [Secret.mounts, List.map_map]
        rfl
      rw [Decoration.ofKind, hmounts]
      exact decorates_mounts _ _ _ _
  | envFrom =>
      obtain ⟨-, rfl⟩ := Environment.sourceContribution_eq_ok.1 h
      exact decorates_envFrom _ _
  | envs =>
      obtain ⟨-, rfl⟩ := Environment.variableContribution_eq_ok.1 h
      exact decorates_env _ _
  | resources =>
      rw [kindContribution] at h
      rw [Decoration.ofKind, Resources.wanted]
      cases hresources : t.resources with
      | none =>
          rw [hresources] at h
          obtain rfl := Except.ok.inj h
          exact decorates_empty _
      | some e =>
          rw [hresources] at h
          obtain ⟨c?, hc?, rfl⟩ := map_eq_ok.1 h
          obtain ⟨limits, hlimits, hc?⟩ := bind_eq_ok.1 hc?
          obtain rfl := Except.ok.inj hc?
          obtain ⟨-, rfl⟩ := Resources.limits_eq_ok.1 hlimits
          rw [Option.bind_some]
          cases (Resources.limitMap site e).given? with
          | none => exact decorates_empty _
          | some _ => exact decorates_singles _ _ rfl rfl rfl rfl rfl
  | probes =>
      obtain ⟨-, -, rfl⟩ := Probes.contribution_eq_ok.1 h
      have hor : ∀ p : Option Probe, p.or none = p := fun _ => Option.or_none
      have hdecorates := decorates_singles (Probes.withProbes .empty (Probes.asked t.probes))
        site.target rfl rfl rfl rfl rfl
      simp only [Probes.withProbes, empty, hor] at hdecorates ⊢
      exact hdecorates
  | rbac =>
      obtain ⟨os, -, h⟩ := bind_eq_ok.1 h
      obtain rfl := Except.ok.inj h
      exact decorates_singles _ _ rfl rfl rfl rfl rfl
  | ingress =>
      obtain ⟨os, -, rfl⟩ := map_eq_ok.1 h
      exact decorates_singles _ _ rfl rfl rfl rfl rfl
  | init => exact absurd rfl hinit
  | sidecar => exact absurd rfl hsidecar

/-! ## On the way up -/

/-- What a nested level wants besides is nothing for containers. -/
lemma RoutesOnlyTo.withoutOwn {c : Contribution} {name : String} (hc : c.RoutesOnlyTo name)
    (target : String) : (c.withoutOwn name).RoutesOnlyTo target where
  volumeMounts n hn :=
    have hn := Routing.mem_names_erase.1 hn
    absurd (hc.volumeMounts n hn.1) hn.2
  envVars n hn :=
    have hn := Routing.mem_names_erase.1 hn
    absurd (hc.envVars n hn.1) hn.2
  envFrom n hn :=
    have hn := Routing.mem_names_erase.1 hn
    absurd (hc.envFrom n hn.1) hn.2

lemma RoutesOnlyTo.own_withoutOwn {c : Contribution} {name : String} (hc : c.RoutesOnlyTo name)
    (container : String) : (c.withoutOwn name).own container = {} := by
  have hfields : (c.withoutOwn name).fieldsFor container = {} := by
    simp only [fieldsFor, Contribution.withoutOwn, withoutFieldsFor, Routing.get_erase]
    by_cases hname : container = name
    · simp only [if_pos hname]
    · simp only [if_neg hname]
      rw [Routing.get_eq_nil_of_not_mem fun h => hname (hc.volumeMounts _ h),
        Routing.get_eq_nil_of_not_mem fun h => hname (hc.envVars _ h),
        Routing.get_eq_nil_of_not_mem fun h => hname (hc.envFrom _ h)]
  rw [own, hfields]
  rfl

/-- Nothing that a nested level wants for its container shows in what goes up. -/
structure Silent (c : Contribution) : Prop where
  own : ∀ container, c.own container = {}
  routes : ∀ target, c.RoutesOnlyTo target

lemma silent_empty : empty.Silent := ⟨fun _ => rfl, routesOnlyTo_empty⟩

lemma Silent.merge {a b : Contribution} (ha : a.Silent) (hb : b.Silent) : (a.merge b).Silent where
  own container := by
    have hown := ha.own container
    have hown' := hb.own container
    simp only [Contribution.own, fieldsFor, Decoration.mk.injEq, ContainerFields.mk.injEq]
      at hown hown' ⊢
    obtain ⟨⟨hmounts, henv, hfrom⟩, hresources, hliveness, hreadiness, hstartup⟩ := hown
    obtain ⟨⟨hmounts', henv', hfrom'⟩, hresources', hliveness', hreadiness', hstartup'⟩ := hown'
    rw [get_volumeMounts_merge, get_envVars_merge, get_envFrom_merge]
    simp [Contribution.merge, *]
  routes target := (ha.routes target).merge (hb.routes target)

lemma RoutesOnlyTo.silent_aroundInit {c : Contribution} {k : Container}
    (hc : c.RoutesOnlyTo k.name) : (c.aroundInit k).Silent where
  own := hc.own_withoutOwn
  routes target :=
    have h := hc.withoutOwn target
    ⟨h.volumeMounts, h.envVars, h.envFrom⟩

lemma RoutesOnlyTo.silent_aroundSidecar {c : Contribution} {k : Container}
    (hc : c.RoutesOnlyTo k.name) : (c.aroundSidecar k).Silent where
  own := hc.own_withoutOwn
  routes target :=
    have h := hc.withoutOwn target
    ⟨h.volumeMounts, h.envVars, h.envFrom⟩

end Contribution

namespace Dispatcher

variable {d : Dispatcher} {l : Level} {c : Contribution}

/-- A level has values for no container but its own. -/
theorem Contributes.routesOnlyTo (hbuiltin : d.registry.IsBuiltin) (h : d.Contributes l c) :
    c.RoutesOnlyTo l.target :=
  h.invariant hbuiltin (P := fun target c => c.RoutesOnlyTo target)
    Contribution.routesOnlyTo_empty
    (fun _ _ _ ha hb => ha.merge hb)
    (fun _ _ _ _ _ hinit hsidecar h =>
      (Contribution.decorates_kindContribution hinit hsidecar h).routes)
    (fun target _ _ _ _ hn => hn.silent_aroundInit.routes target)
    (fun target _ _ _ hn => hn.silent_aroundSidecar.routes target)

/-- A level that adds containers at most, and bars no other kind. -/
def BarsContainersOnly (l : Level) : Prop :=
  ∀ k, l.barred.contains k = true → k = .init ∨ k = .sidecar

/-- The pieces of nested levels keep silent. -/
lemma silent_part {answer : Nested → Except Failure Contribution} {t : Traits}
    {site : Site} {k : TraitKind}
    (hnested : ∀ request n, nestedOutcome answer request = .ok n → n.RoutesOnlyTo request.target)
    (hk : k = .init ∨ k = .sidecar) (h : kindContribution site answer t k = .ok c) :
    c.Silent := by
  have hmerge : ∀ a b : Contribution, a.Silent → b.Silent → (a.merge b).Silent :=
    fun _ _ ha hb => ha.merge hb
  rcases hk with rfl | rfl
  · exact Containers.initContribution_induction Contribution.silent_empty hmerge
      (fun _ _ n hn => Contribution.RoutesOnlyTo.silent_aroundInit (hnested _ n hn)) h
  · exact Containers.sidecarContribution_induction Contribution.silent_empty hmerge
      (fun _ n hn => Contribution.RoutesOnlyTo.silent_aroundSidecar (hnested _ n hn)) h

/-- What a level contributes wants for the level's container what the traits of the level say, and
nothing else. -/
theorem Contributes.own (hbuiltin : d.registry = .builtin) (hbars : BarsContainersOnly l)
    (h : d.Contributes l c) : c.own l.target = l.traits.decoration (d.site l) := by
  have hregistry : d.registry.IsBuiltin := hbuiltin ▸ Registry.isBuiltin_builtin
  obtain ⟨answer, part, hnested, hparts, rfl⟩ := h.parts hregistry
  have hroutes : ∀ request n, nestedOutcome answer request = .ok n →
      n.RoutesOnlyTo request.target :=
    fun request n hn => (hnested request n hn).routesOnlyTo hregistry
  have hkinds : d.registry.kinds = TraitKind.all := by
    rw [hbuiltin, Registry.kinds_builtin]
  have hown : ∀ k, (part k).own l.target = Decoration.ofKind (d.site l) l.traits k := by
    intro k
    have hk : k ∈ d.registry.kinds := hkinds ▸ k.mem_all
    cases hbarred : l.barred.contains k with
    | true =>
        rw [hparts.barred k hk hbarred]
        rcases hbars k hbarred with rfl | rfl <;> rfl
    | false =>
        have hmade := hparts.made k hk hbarred
        by_cases hcontainers : k = .init ∨ k = .sidecar
        · rw [(silent_part hroutes hcontainers hmade).own]
          rcases hcontainers with rfl | rfl <;> rfl
        · rw [not_or] at hcontainers
          exact (Contribution.decorates_kindContribution hcontainers.1 hcontainers.2 hmade).own
  rw [Contribution.own_aggregate, hkinds, List.map_map]
  have hmap : TraitKind.all.map ((·.own l.target) ∘ part) =
      TraitKind.all.map (Decoration.ofKind (d.site l) l.traits) :=
    List.map_congr_left fun k _ => hown k
  rw [hmap, Decoration.combine_ofKind]

end Dispatcher

end WorkloadTraits
