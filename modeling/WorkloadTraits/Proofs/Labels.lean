import WorkloadTraits.Proofs.Acceptance.Entries
import WorkloadTraits.Proofs.Flattening
import WorkloadTraits.Proofs.Volumes

/-!
# Which names on a pod are labels

The orchestrator takes a pod only if the names of its volumes and containers are labels.  The names
of storage entries are checked.  Those of secrets are made of a container's name and a number, those
of containers are the ones that a payload gives, in lower case and without white space, and neither
is checked: an application can succeed and put a name on the pod that is no label
(`invalid_name_added`).  The main result says when that happens (`added_names_valid_iff`).

Volumes of one name are merged, and of those which a level asks for the first counts.  But a name
that is no label can only be that of a secret's volume, which also never hides the claim of a
template.  So it cannot be merged away, and `SecretsNamed` is kept on the way up through the levels.
-/

namespace WorkloadTraits

/-! ## Volumes -/

/-- The names of the secrets that are asked for. -/
def secretNames : Demand String where
  kinds := TraitKind.all
  ofKind site t
    | .secret => (List.range t.secret.length).map (Secret.name site)
    | _ => []

/-- Every volume that is asked for has a label for its name or is that of one of some secrets, and
each of these secrets has a volume. -/
structure Contribution.SecretsNamed (c : Contribution) (names : List String) : Prop where
  named : ∀ v ∈ c.volumes, Label.IsLabel v.name ∨ v.name ∈ names ∧ v.claimName = none
  present : ∀ name ∈ names, name ∈ c.volumes.map (·.name)

namespace Contribution

lemma secretsNamed_of_noVolumes {c : Contribution} (h : c.volumes = []) : c.SecretsNamed [] where
  named _ hv := absurd (h ▸ hv) List.not_mem_nil
  present _ hname := absurd hname List.not_mem_nil

/-- The names of storage entries are checked before anything becomes of them. -/
lemma secretsNamed_storage {site : Site} {entries : List StorageEntry} {c : Contribution}
    (h : Storage.contribution site entries = .ok c) : c.SecretsNamed [] where
  named v hv := by
    obtain ⟨ps, hps, hc⟩ := bind_eq_ok.1 h
    obtain rfl := Except.ok.inj hc
    obtain ⟨hchecked, hbecomes⟩ := Storage.parts_eq_ok.1 hps
    obtain ⟨p, hp, rfl⟩ := List.mem_map.1 hv
    obtain ⟨e, he, hmade⟩ := exists_of_mem_forall₂ hbecomes hp
    have hlabel := (hchecked e ((firsts_sublist _ _ _).subset he)).2
    rw [hmade.names.1]
    exact .inl (Label.fault?_eq_none.1 hlabel)
  present _ hname := absurd hname List.not_mem_nil

lemma secretsNamed_secret (site : Site) (t : Traits) :
    (Secret.contribution site t.secret).SecretsNamed
      ((List.range t.secret.length).map (Secret.name site)) where
  named v hv := by
    obtain ⟨name, hname, rfl⟩ := List.mem_map.1 hv
    exact .inr ⟨hname, rfl⟩
  present name hname := List.mem_map.2 ⟨_, List.mem_map.2 ⟨name, hname, rfl⟩, rfl⟩

/-- Each level asks for volumes under the names of its secrets and under names that are labels. -/
lemma secretsNamed_kindContribution {site : Site} {answer : Nested → Except Failure Contribution}
    {t : Traits} {k : TraitKind} {c : Contribution} (hinit : k ≠ .init) (hsidecar : k ≠ .sidecar)
    (h : kindContribution site answer t k = .ok c) :
    c.SecretsNamed (secretNames.ofKind site t k) := by
  have hbesides := congrArg Besides.volumes (besides_kindContribution hinit hsidecar h)
  cases k with
  | storage => exact secretsNamed_storage h
  | secret =>
      obtain rfl := Except.ok.inj h
      exact secretsNamed_secret site t
  | init => exact absurd rfl hinit
  | sidecar => exact absurd rfl hsidecar
  | envFrom | envs | resources | probes | rbac | ingress => exact secretsNamed_of_noVolumes hbesides

lemma follows_secretNames : secretNames.Follows SecretsNamed where
  aggregate cs ass h := by
    have hvolumes : (aggregate cs).volumes = firsts (·.name) [] (cs.flatMap (·.volumes)) := by
      rw [aggregate_volumes, appendNew_eq]
      rfl
    have hall : ∀ v ∈ cs.flatMap (·.volumes),
        Label.IsLabel v.name ∨ v.name ∈ ass.flatten ∧ v.claimName = none := by
      intro v hv
      obtain ⟨c, hc, hv⟩ := List.mem_flatMap.1 hv
      obtain ⟨names, hnames, hnamed⟩ := exists_of_mem_forall₂ h.flip hc
      exact (hnamed.named v hv).imp_right fun ⟨hname, hclaim⟩ =>
        ⟨List.mem_flatten.2 ⟨names, hnames, hname⟩, hclaim⟩
    refine ⟨fun v hv => ?_, fun name hname => ?_⟩
    · rw [hvolumes] at hv
      exact hall v ((firsts_sublist _ _ _).subset hv)
    · obtain ⟨names, hnames, hname⟩ := List.mem_flatten.1 hname
      obtain ⟨c, hc, hnamed⟩ := exists_of_mem_forall₂ h hnames
      rw [hvolumes, mem_map_firsts, List.map_flatMap]
      exact ⟨List.mem_flatMap.2 ⟨c, hc, hnamed.present name hname⟩, List.not_mem_nil⟩
  aroundInit _ _ _ h := ⟨h.named, h.present⟩
  aroundSidecar _ _ _ h := ⟨h.named, h.present⟩
  ofKind := secretsNamed_kindContribution

end Contribution

/-- A volume that refers to no claim hides none. -/
lemma Volume.hidesAny_of_claimName_eq_none {v : Volume} (h : v.claimName = none)
    (templates : List Claim) : v.hidesAny templates = false := by
  simp [hidesAny, hides, h]

/-- The names of the volumes that a furnished workload has beyond those it had before. -/
lemma Workload.new_volumes_valid_iff {w : Workload} {pod : Pod} (hpod : w.pod? = some pod)
    {c : Contribution} {names : List String} (hc : c.SecretsNamed names) (settings : Settings)
    (main : String) :
    (∀ v ∈ (w.furnish settings main c).volumes, v.name ∉ w.volumes.map (·.name) →
        Label.IsLabel v.name) ↔
      ∀ name ∈ names, name ∈ w.volumes.map (·.name) ∨ Label.IsLabel name := by
  rw [volumes_furnish hpod]
  constructor
  · intro hnew name hname
    by_contra hinvalid
    obtain ⟨hfresh, hnolabel⟩ := not_or.1 hinvalid
    obtain ⟨v, hv, rfl⟩ := List.mem_map.1 (mem_map_firsts.2 ⟨hc.present name hname, hfresh⟩)
    have hclaim : v.claimName = none :=
      ((hc.named v ((firsts_sublist _ _ _).subset hv)).resolve_left hnolabel).2
    have hshown : v ∈ (w.volumes ++ firsts (·.name) (w.volumes.map (·.name)) c.volumes).filter
        fun v => !(w.isStateful && v.hidesAny (claimTemplates settings c.objects)) := by
      refine List.mem_filter.2 ⟨List.mem_append_right _ hv, ?_⟩
      rw [Volume.hidesAny_of_claimName_eq_none hclaim, Bool.and_false]
      rfl
    exact hnolabel (hnew v hshown hfresh)
  · intro hnames v hv hfresh
    rcases List.mem_append.1 (List.mem_filter.1 hv).1 with hold | hadded
    · exact absurd (List.mem_map_of_mem hold) hfresh
    · rcases hc.named v ((firsts_sublist _ _ _).subset hadded) with hlabel | ⟨hname, -⟩
      · exact hlabel
      · exact (hnames v.name hname).resolve_left hfresh

/-! ## Containers -/

/-- The names of the containers that the traits of a container add. -/
def Containers.names (site : Site) (t : Traits) : List String :=
  t.init.zipIdx.map (fun e => initName site e.2 e.1) ++
    (t.init.zipIdx.flatMap (fun e => e.1.traits.sidecar.zipIdx.map fun s =>
        sidecarName (site.forTarget (initName site e.2 e.1)) s.2 s.1) ++
      t.sidecar.zipIdx.map fun e => sidecarName site e.2 e.1)

/-- The containers that the traits of a container add have just these names. -/
lemma Dispatcher.Contributes.container_names {d : Dispatcher} {l : Level} {c : Contribution}
    (hbuiltin : d.registry = .builtin) (hbarred : l.barred = .empty) (h : d.Contributes l c) :
    c.initContainers.map (·.name) ++ c.containers.map (·.name) =
      Containers.names (d.site l) l.traits := by
  obtain ⟨hinits, hcontainers⟩ := h.containers hbuiltin hbarred
  rw [hinits, hcontainers, List.map_append, List.map_flatMap, List.map_map, List.map_map]
  simp only [Containers.names, Containers.innerSidecars, List.map_map]
  rfl

/-! ## Applying -/

/-- The names of the volumes, containers and init containers that a pod has beyond those that it
had before. -/
def Pod.namesBeyond (after before : Pod) : List String :=
  (after.volumeList.map (·.name)).filter (· ∉ before.volumeList.map (·.name)) ++
    ((after.inits.drop before.inits.length).map (·.name) ++
      (after.containers.drop before.containers.length).map (·.name))

namespace Engine

/-- The names that an application adds to the pod. -/
def addedNames (e : Engine) (c : Component) (w : Workload) : List String :=
  ((e.apply c w).workload.pod?.getD {}).namesBeyond (w.pod?.getD {})

variable {e : Engine} {c : Component} {w : Workload} {objects : List Companion}

/-- **Names that are added are labels** if and only if those of the containers are, which the
payload gives, and those of the secrets, at every level, apart from the ones that a volume already
has. -/
theorem added_names_valid_iff (hbuiltin : e.registry = .builtin)
    (hok : (e.apply c w).outcome = .ok objects) :
    ∃ t?, traits c = .ok t? ∧
      ((∀ name ∈ e.addedNames c w, Label.IsLabel name) ↔
        (∀ name ∈ Containers.names (e.site c) (t?.getD {}), Label.IsLabel name) ∧
          ∀ name ∈ secretNames.flatten (e.site c) (t?.getD {}),
            name ∈ w.volumes.map (·.name) ∨ Label.IsLabel name) := by
  rcases e.apply_cases c w with ⟨hkept, hnone⟩ |
    ⟨t, contribution, pod, htraits, hcontribution, hpod, hmain, hplaced⟩
  · have hadded : e.addedNames c w = [] := by
      simp [addedNames, Pod.namesBeyond, hkept]
    have hsecrets : secretNames.flatten (e.site c) {} = [] :=
      Demand.flatten_of_nothing (fun s k => by cases k <;> rfl) _
    refine ⟨none, hnone objects hok, ?_⟩
    rw [hadded, Option.getD_none, hsecrets]
    simp [Containers.names]
  · refine ⟨some t, htraits, ?_⟩
    have hregistry : e.registry.IsBuiltin := hbuiltin ▸ Registry.isBuiltin_builtin
    have hkinds : secretNames.kinds = e.registry.kinds := by
      rw [hbuiltin, Registry.kinds_builtin]
      rfl
    have hcontributes := Dispatcher.contributes_of_dispatch hcontribution
    have hfollows := hcontributes.follows Contribution.follows_secretNames hkinds hregistry rfl
    have hnamed : contribution.SecretsNamed (secretNames.flatten (e.site c) t) := hfollows
    have hcontainers := hcontributes.container_names hbuiltin rfl
    have hroutes : contribution.RoutesOnlyTo c.name := hcontributes.routesOnlyTo hregistry
    obtain ⟨pod', hpod', hinits', hcontainers'⟩ :=
      @Workload.containers_furnish w pod hpod e.settings c.name contribution hroutes hmain
    have hvolumes : w.volumes = pod.volumeList := by
      rw [Workload.volumes, hpod]
      rfl
    have hvolumes' : (w.furnish e.settings c.name contribution).volumes = pod'.volumeList := by
      rw [Workload.volumes, hpod']
      rfl
    have hadded : e.addedNames c w =
        (pod'.volumeList.map (·.name)).filter (· ∉ pod.volumeList.map (·.name)) ++
          Containers.names (e.site c) t := by
      rw [addedNames, hplaced, hpod', hpod, Option.getD_some, Option.getD_some, Pod.namesBeyond,
        hinits', hcontainers', List.drop_left, List.drop_left' (length_updateFirst ..), hcontainers]
      rfl
    have hnew := Workload.new_volumes_valid_iff hpod hnamed e.settings c.name
    rw [hvolumes', hvolumes] at hnew
    have hfiltered : (∀ name ∈ (pod'.volumeList.map (·.name)).filter
          (· ∉ pod.volumeList.map (·.name)), Label.IsLabel name) ↔
        ∀ v ∈ pod'.volumeList, v.name ∉ pod.volumeList.map (·.name) → Label.IsLabel v.name := by
      simp only [List.mem_filter, List.forall_mem_map, decide_eq_true_eq, and_imp]
    rw [hadded, List.forall_mem_append, hfiltered, hnew, Option.getD_some, hvolumes, and_comm]

/-- A component with a sidecar whose name is no label, and which asks for a secret. -/
def namingComponent : Component :=
  Component.withTraits { name := "web" } {
    sidecar := [{ name := "my_agent", image := "agent", traits := { secret := [{}] } }] }

theorem added_names_valid_iff_naming :
    ∃ objects, (builtin.apply namingComponent plainWorkload).outcome = .ok objects ∧
      ∃ t?, traits namingComponent = .ok t? ∧
        ((∀ name ∈ builtin.addedNames namingComponent plainWorkload, Label.IsLabel name) ↔
          (∀ name ∈ Containers.names (builtin.site namingComponent) (t?.getD {}),
            Label.IsLabel name) ∧
            ∀ name ∈ secretNames.flatten (builtin.site namingComponent) (t?.getD {}),
              name ∈ plainWorkload.volumes.map (·.name) ∨ Label.IsLabel name) :=
  ⟨_, rfl, added_names_valid_iff rfl rfl⟩

/-- Names are not checked everywhere: an application succeeds and adds a volume and a container
whose names are no labels. -/
theorem invalid_name_added :
    ¬ ∀ (c : Component) (w : Workload) (objects : List Companion),
      (builtin.apply c w).outcome = .ok objects →
        ∀ name ∈ builtin.addedNames c w, Label.IsLabel name := by
  intro h
  have hadded : builtin.addedNames namingComponent plainWorkload =
      ["my_agent-secret-0", "my_agent"] := by
    decide +kernel
  have hlabel := h namingComponent plainWorkload _ rfl "my_agent-secret-0" (by simp [hadded])
  have hfault : Label.fault? "my_agent-secret-0" = some .badCharacter := by decide +kernel
  rw [Label.fault?_eq_none.2 hlabel] at hfault
  cases hfault

end Engine

end WorkloadTraits
