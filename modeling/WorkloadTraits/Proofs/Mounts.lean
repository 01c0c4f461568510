import WorkloadTraits.Proofs.Builtin.Ingress
import WorkloadTraits.Proofs.Builtin.Kinds
import WorkloadTraits.Proofs.Builtin.Level
import WorkloadTraits.Proofs.Builtin.Storage
import WorkloadTraits.Proofs.Placement.Workload

/-!
# Mounts find their volumes

A pod cannot start when a mount names a volume that is not there.  Volumes and mounts of a trait
part at once: volumes are collected for the pod, mounts for a container, and some volumes are taken
away again when a claim becomes a template.  Nevertheless no application leaves a mount without its
volume, if none was before (`mounted_history`).

Two invariants carry this.  A contribution is closed when each of its mounts, wherever it stands,
names one of its own volumes; closed contributions are closed under merging and under moving mounts
onto the containers of nested levels.  A workload is mounted when each mount names a volume of the
pod or a template of a claim; the step that takes a volume away puts a template in its place.
-/

namespace WorkloadTraits

/-! ## Closed contributions -/

/-- The mounts of a container, if any. -/
def Container.mounts (k : Container) : List VolumeMount := k.volumeMounts.getD []

/-- Every mount of the container names one of some volumes. -/
def Container.MountsIn (names : String → Prop) (k : Container) : Prop :=
  ∀ m ∈ k.mounts, names m.name

instance (names : String → Prop) [DecidablePred names] (k : Container) :
    Decidable (k.MountsIn names) :=
  inferInstanceAs (Decidable (∀ m ∈ k.mounts, names m.name))

lemma Container.MountsIn.mono {names names' : String → Prop} {k : Container}
    (h : k.MountsIn names) (hnames : ∀ n, names n → names' n) : k.MountsIn names' :=
  fun m hm => hnames _ (h m hm)

lemma Container.mountsIn_of_none {names : String → Prop} {k : Container}
    (h : k.volumeMounts = none) : k.MountsIn names := by
  intro m hm
  rw [mounts, h] at hm
  cases hm

lemma ContainerFields.mountsIn_applyTo {names : String → Prop} {f : ContainerFields}
    {k : Container} (hk : k.MountsIn names) (hf : ∀ m ∈ f.volumeMounts, names m.name) :
    (f.applyTo k).MountsIn names := by
  intro m hm
  rw [Container.mounts, ContainerFields.applyTo, getD_extendGiven (appendNew_nil _)] at hm
  exact (mem_of_mem_appendNew hm).elim (hk m) (hf m)

namespace Contribution

/-- Whether there is a volume of a name. -/
def HasVolume (c : Contribution) (name : String) : Prop := name ∈ c.volumes.map (·.name)

/-- A contribution whose mounts all name volumes of its own, and whose claims have names. -/
structure Closed (c : Contribution) : Prop where
  routed : ∀ container, ∀ m ∈ c.volumeMounts.get container, c.HasVolume m.name
  inits : ∀ k ∈ c.initContainers, k.MountsIn c.HasVolume
  containers : ∀ k ∈ c.containers, k.MountsIn c.HasVolume
  claims : ∀ claim, .claim claim ∈ c.objects → ∃ name, claim.metadata.name = some name

lemma closed_empty : empty.Closed where
  routed _ _ hm := nomatch hm
  inits _ hk := nomatch hk
  containers _ hk := nomatch hk
  claims _ hclaim := nomatch hclaim

lemma hasVolume_merge {a b : Contribution} {name : String} :
    (a.merge b).HasVolume name ↔ a.HasVolume name ∨ b.HasVolume name :=
  mem_map_appendNew

theorem Closed.merge {a b : Contribution} (ha : a.Closed) (hb : b.Closed) :
    (a.merge b).Closed where
  routed container m hm := by
    rw [get_volumeMounts_merge] at hm
    rw [hasVolume_merge]
    exact (mem_of_mem_appendNew hm).imp (ha.routed container m) (hb.routed container m)
  inits k hk := by
    rcases List.mem_append.1 hk with hk | hk
    · exact (ha.inits k hk).mono fun _ hn => hasVolume_merge.2 (.inl hn)
    · exact (hb.inits k hk).mono fun _ hn => hasVolume_merge.2 (.inr hn)
  containers k hk := by
    rcases List.mem_append.1 hk with hk | hk
    · exact (ha.containers k hk).mono fun _ hn => hasVolume_merge.2 (.inl hn)
    · exact (hb.containers k hk).mono fun _ hn => hasVolume_merge.2 (.inr hn)
  claims claim hclaim := (mem_of_mem_appendNew hclaim).elim (ha.claims claim) (hb.claims claim)

/-- A container gets mounts of closed contributions only. -/
lemma Closed.mountsIn_attach {c : Contribution} (hc : c.Closed) {isInit : Bool} {k : Container}
    (hk : k.MountsIn c.HasVolume) : (c.attach isInit k).MountsIn c.HasVolume := by
  have happlied : ((c.fieldsFor k.name).applyTo k).MountsIn c.HasVolume :=
    ContainerFields.mountsIn_applyTo hk (hc.routed k.name)
  cases isInit <;> exact happlied

lemma Closed.routed_withoutOwn {c : Contribution} (hc : c.Closed) {name container : String}
    {m : VolumeMount} (hm : m ∈ (c.withoutOwn name).volumeMounts.get container) :
    c.HasVolume m.name := by
  change m ∈ (c.volumeMounts.erase name).get container at hm
  rw [Routing.get_erase] at hm
  split at hm
  · cases hm
  · exact hc.routed container m hm

/-- A container without mounts is added, and what is wanted for it moves onto it. -/
lemma Closed.aroundInit {c : Contribution} (hc : c.Closed) {k : Container}
    (hk : k.volumeMounts = none) : (c.aroundInit k).Closed where
  routed _ _ hm := hc.routed_withoutOwn hm
  inits k' hk' := by
    rcases List.mem_append.1 hk' with hk' | hk'
    · exact hc.inits k' hk'
    · rw [List.mem_singleton.1 hk']
      exact hc.mountsIn_attach (Container.mountsIn_of_none hk)
  containers := hc.containers
  claims := hc.claims

lemma Closed.aroundSidecar {c : Contribution} (hc : c.Closed) {k : Container}
    (hk : k.volumeMounts = none) : (c.aroundSidecar k).Closed where
  routed _ _ hm := hc.routed_withoutOwn hm
  inits := hc.inits
  containers k' hk' := by
    rcases List.mem_append.1 hk' with hk' | hk'
    · exact hc.containers k' hk'
    · rw [List.mem_singleton.1 hk']
      exact hc.mountsIn_attach (Container.mountsIn_of_none hk)
  claims := hc.claims

/-- A contribution of one container's mounts, with a volume for each. -/
lemma closed_of_mounts {target : String} {volumes : List Volume} {mounts : List VolumeMount}
    {objects : List Companion} (hvolumes : ∀ m ∈ mounts, m.name ∈ volumes.map (·.name))
    (hclaims : ∀ claim, .claim claim ∈ objects → ∃ name, claim.metadata.name = some name) :
    Closed { volumes, volumeMounts := .single target mounts, objects } where
  routed container m hm := by
    rw [Routing.get_single] at hm
    split at hm
    · exact hvolumes m hm
    · cases hm
  inits _ hk := nomatch hk
  containers _ hk := nomatch hk
  claims := hclaims

/-- A contribution that has nothing to do with mounts. -/
lemma closed_of_noMounts {c : Contribution} (hmounts : c.volumeMounts = .empty)
    (hinits : c.initContainers = []) (hcontainers : c.containers = [])
    (hclaims : ∀ claim, .claim claim ∉ c.objects) : c.Closed where
  routed _ _ hm := by
    rw [hmounts] at hm
    cases hm
  inits _ hk := by
    rw [hinits] at hk
    cases hk
  containers _ hk := by
    rw [hcontainers] at hk
    cases hk
  claims claim hclaim := absurd hclaim (hclaims claim)

lemma closed_storage {site : Site} {entries : List StorageEntry} {c : Contribution}
    (h : Storage.contribution site entries = .ok c) : c.Closed := by
  obtain ⟨ps, hps, h⟩ := bind_eq_ok.1 h
  obtain rfl := Except.ok.inj h
  have hnames : ∀ p ∈ ps, p.mount.name = p.volume.name ∧
      ∀ c, p.claim = some c → ∃ name, c.metadata.name = some name := by
    intro p hp
    obtain ⟨e, -, he⟩ := exists_of_mem_forall₂ (Storage.parts_eq_ok.1 hps).2 hp
    obtain ⟨hvolume, hmount, hclaim⟩ := he.names
    refine ⟨?_, fun c hc => ⟨e.1, hclaim c hc⟩⟩
    rw [hvolume, hmount]
    rfl
  refine closed_of_mounts (fun m hm => ?_) fun claim hclaim => ?_
  · obtain ⟨p, hp, rfl⟩ := List.mem_map.1 hm
    rw [(hnames p hp).1]
    exact List.mem_map_of_mem (List.mem_map_of_mem hp)
  · obtain ⟨claim', hmem, heq⟩ := List.mem_map.1 hclaim
    obtain ⟨p, hp, hp'⟩ := List.mem_filterMap.1 hmem
    obtain rfl := Companion.claim.inj heq
    exact (hnames p hp).2 claim' hp'

lemma closed_secret (site : Site) (entries : List SecretEntry) :
    (Secret.contribution site entries).Closed := by
  refine closed_of_mounts (fun m hm => ?_) fun claim hclaim => ?_
  · obtain ⟨name, hname, rfl⟩ := List.mem_map.1 hm
    exact List.mem_map.2 ⟨Secret.volume site name, List.mem_map_of_mem hname, rfl⟩
  · obtain ⟨e, -, he⟩ := List.mem_map.1 hclaim
    cases he

/-- What a kind contributes for the container of its level is closed. -/
lemma closed_kindContribution {site : Site} {answer : Nested → Except Failure Contribution}
    {t : Traits} {k : TraitKind} {c : Contribution} (hinit : k ≠ .init) (hsidecar : k ≠ .sidecar)
    (h : kindContribution site answer t k = .ok c) : c.Closed := by
  cases k with
  | storage => exact closed_storage h
  | secret =>
      obtain rfl := Except.ok.inj h
      exact closed_secret site t.secret
  | envFrom =>
      obtain ⟨-, rfl⟩ := Environment.sourceContribution_eq_ok.1 h
      exact closed_of_noMounts rfl rfl rfl fun _ => List.not_mem_nil
  | envs =>
      obtain ⟨-, rfl⟩ := Environment.variableContribution_eq_ok.1 h
      exact closed_of_noMounts rfl rfl rfl fun _ => List.not_mem_nil
  | resources =>
      rw [kindContribution] at h
      split at h
      · obtain rfl := Except.ok.inj h
        exact closed_empty
      · obtain ⟨c?, hc?, rfl⟩ := map_eq_ok.1 h
        obtain ⟨limits, -, hlimits⟩ := bind_eq_ok.1 hc?
        obtain rfl := Except.ok.inj hlimits
        cases limits.given? with
        | none => exact closed_empty
        | some _ => exact closed_of_noMounts rfl rfl rfl fun _ => List.not_mem_nil
  | probes =>
      obtain ⟨-, -, rfl⟩ := Probes.contribution_eq_ok.1 h
      exact closed_of_noMounts rfl rfl rfl fun _ => List.not_mem_nil
  | rbac =>
      obtain ⟨os, hos, h⟩ := bind_eq_ok.1 h
      obtain rfl := Except.ok.inj h
      obtain ⟨-, rfl⟩ := Access.objects_eq_ok.1 hos
      refine closed_of_noMounts rfl rfl rfl fun claim hclaim => ?_
      obtain ⟨p, -, hp⟩ := List.mem_flatMap.1 hclaim
      exact Access.ne_claim_of_mem_policyObjects hp claim rfl
  | ingress =>
      obtain ⟨os, hos, rfl⟩ := map_eq_ok.1 h
      refine closed_of_noMounts rfl rfl rfl fun claim hclaim => ?_
      obtain ⟨e, -, entry, _, i, -, -, -, -, hi⟩ :=
        exists_of_mem_forall₂ (Ingresses.objects_eval_eq_ok.1 hos) hclaim
      cases hi
  | init => exact absurd rfl hinit
  | sidecar => exact absurd rfl hsidecar

end Contribution

/-- Whatever a level contributes under the built-in processors is closed. -/
theorem Dispatcher.Contributes.closed {d : Dispatcher} (hbuiltin : d.registry.IsBuiltin)
    {l : Level} {c : Contribution} (h : d.Contributes l c) : c.Closed :=
  h.invariant hbuiltin (P := fun _ c => c.Closed)
    (fun _ => Contribution.closed_empty)
    (fun _ _ _ ha hb => ha.merge hb)
    (fun _ _ _ _ _ hinit hsidecar h => Contribution.closed_kindContribution hinit hsidecar h)
    (fun _ _ _ _ _ hn => hn.aroundInit rfl)
    (fun _ _ _ _ hn => hn.aroundSidecar rfl)

/-! ## Mounted workloads -/

namespace Pod

/-- Whether the pod has a volume of a name. -/
def HasVolume (p : Pod) (name : String) : Prop := name ∈ p.volumeList.map (·.name)

/-- Every mount of every container of the pod names one of some volumes. -/
def MountsIn (names : String → Prop) (p : Pod) : Prop :=
  ∀ k ∈ p.allContainers, k.MountsIn names

instance (p : Pod) : DecidablePred p.HasVolume := fun name =>
  inferInstanceAs (Decidable (name ∈ p.volumeList.map (·.name)))

instance (names : String → Prop) [DecidablePred names] (p : Pod) : Decidable (p.MountsIn names) :=
  inferInstanceAs (Decidable (∀ k ∈ p.allContainers, k.MountsIn names))

variable {names : String → Prop} {p : Pod}

lemma MountsIn.receive {c : Contribution} (hp : p.MountsIn names)
    (hc : ∀ k ∈ c.initContainers ++ c.containers, k.MountsIn names) :
    (p.receive c).MountsIn names :=
  forall_receive hp hc

lemma MountsIn.equip {main : String} {c : Contribution} (hp : p.MountsIn names)
    (hc : ∀ container, ∀ m ∈ c.volumeMounts.get container, names m.name) :
    (p.equip main c).MountsIn names :=
  forall_equip hp (fun _ hk => hk) fun name _ hk => ContainerFields.mountsIn_applyTo hk (hc name)

lemma MountsIn.uncoverAll (hp : p.MountsIn names) (templates : List Claim) :
    (p.uncoverAll templates).MountsIn names := by
  rw [MountsIn, allContainers_uncoverAll]
  exact hp

/-- The volumes of an equipped pod are its own and those of the contribution. -/
lemma hasVolume_furnished {main : String} {c : Contribution} {name : String} :
    ((p.receive c).equip main c).HasVolume name ↔ p.HasVolume name ∨ c.HasVolume name := by
  rw [HasVolume, volumeList, volumes_equip, ← volumeList, volumeList_receive]
  exact mem_map_appendNew

end Pod

lemma mem_of_mem_claimTemplates {settings : Settings} {objects : List Companion} {t : Claim}
    (h : t ∈ claimTemplates settings objects) : .claim t ∈ objects := by
  obtain ⟨o, ho, htemplate⟩ := List.mem_filterMap.1 h
  rw [Companion.template?.eq_def] at htemplate
  split at htemplate
  · split at htemplate
    · obtain rfl := Option.some.inj htemplate
      exact ho
    · cases htemplate
  · cases htemplate

namespace Workload

/-- A workload whose mounts all find a volume of the pod, or a template that the workload makes
claims from. -/
def Mounted (w : Workload) : Prop :=
  ∀ p, w.pod? = some p → p.MountsIn fun name => p.HasVolume name ∨ some name ∈ w.templateNames

instance (w : Workload) : Decidable w.Mounted :=
  inferInstanceAs (Decidable (∀ p, w.pod? = some p →
    p.MountsIn fun name => p.HasVolume name ∨ some name ∈ w.templateNames))

/-- A volume that is taken away leaves a template of its name behind. -/
lemma provided_bindClaims {w : Workload} {p : Pod} (hpod : w.pod? = some p)
    (hstateful : w.isStateful = true) {templates : List Claim}
    (hnamed : ∀ t ∈ templates, ∃ name, t.metadata.name = some name) {name : String}
    (h : p.HasVolume name ∨ some name ∈ w.templateNames) :
    (p.uncoverAll templates).HasVolume name ∨
      some name ∈ (w.bindClaims templates).templateNames := by
  rcases h with h | h
  · obtain ⟨v, hv, rfl⟩ := List.mem_map.1 h
    cases hhidden : v.hidesAny templates with
    | false =>
        refine .inl (List.mem_map_of_mem ?_)
        rw [Pod.volumeList_uncoverAll, List.mem_filter, hhidden]
        exact ⟨hv, rfl⟩
    | true =>
        obtain ⟨t, ht, hhides⟩ := List.any_eq_true.1 hhidden
        obtain ⟨name, hname⟩ := hnamed t ht
        rw [Volume.hides, Bool.and_eq_true, beq_iff_eq, Claim.templateName, hname] at hhides
        rw [hhides.1]
        exact .inr (name_mem_templateNames_bindClaims hstateful hpod ht hname)
  · exact .inr (mem_templateNames_bindClaims h)

/-- Placing a closed contribution keeps a workload mounted. -/
theorem Mounted.furnish {w : Workload} (hw : w.Mounted) {c : Contribution} (hc : c.Closed)
    (settings : Settings) (main : String) : (w.furnish settings main c).Mounted := by
  intro p hp
  rw [pod?_furnish] at hp
  obtain ⟨pod, hpod, rfl⟩ := Option.map_eq_some_iff.1 hp
  -- Before claims are bound, the volumes are those of the pod and those of the contribution.
  have hequipped : ((pod.receive c).equip main c).MountsIn fun name =>
      ((pod.receive c).equip main c).HasVolume name ∨ some name ∈ w.templateNames := by
    simp only [Pod.hasVolume_furnished]
    have hown : pod.MountsIn fun name =>
        (pod.HasVolume name ∨ c.HasVolume name) ∨ some name ∈ w.templateNames :=
      fun k hk => (hw pod hpod k hk).mono fun _ hn => hn.imp_left .inl
    refine Pod.MountsIn.equip (hown.receive fun k hk => ?_) fun container m hm => ?_
    · exact ((List.mem_append.1 hk).elim (hc.inits k) (hc.containers k)).mono
        fun _ hn => .inl (.inr hn)
    · exact .inl (.inr (hc.routed container m hm))
  by_cases hstateful : w.isStateful = true
  · rw [if_pos hstateful]
    have hnamed : ∀ t ∈ claimTemplates settings c.objects, ∃ name, t.metadata.name = some name :=
      fun t ht => hc.claims t (mem_of_mem_claimTemplates ht)
    have hplaced := pod?_equip_receive hpod main c
    refine Pod.MountsIn.uncoverAll (fun k hk => (hequipped k hk).mono fun name hn => ?_) _
    refine provided_bindClaims hplaced hstateful hnamed ?_
    rwa [templateNames_mapPod, templateNames_mapPod]
  · rw [if_neg hstateful]
    have hfurnish : w.furnish settings main c = (w.mapPod (·.receive c)).mapPod (·.equip main c) :=
      if_neg hstateful
    rw [hfurnish, templateNames_mapPod, templateNames_mapPod]
    exact hequipped

/-- One application of built-in processors, whether it succeeds or fails, keeps a workload
mounted. -/
theorem Mounted.apply {w : Workload} (hw : w.Mounted) {e : Engine}
    (hbuiltin : e.registry.IsBuiltin) (c : Component) : (e.apply c w).workload.Mounted := by
  rcases e.apply_cases c w with ⟨hkept, -⟩ | ⟨t, contribution, pod, -, hcontribution, -, -, hplaced⟩
  · rw [hkept]
    exact hw
  · rw [hplaced]
    have hcontributes := Dispatcher.contributes_of_dispatch hcontribution
    exact hw.furnish (hcontributes.closed hbuiltin) e.settings c.name

end Workload

/-! ## Runs -/

/-- What a workload is after each of some applications, each with an engine and a component of its
own. -/
def Engine.history : List (Engine × Component) → Workload → List Workload
  | [], _ => []
  | (e, c) :: rest, w => (e.apply c w).workload :: history rest (e.apply c w).workload

/-- What every single application keeps is kept by all of them in a row. -/
theorem Engine.history_invariant {P : Workload → Prop} {steps : List (Engine × Component)}
    (hstep : ∀ step ∈ steps, ∀ w, P w → P (step.1.apply step.2 w).workload) {w : Workload}
    (hw : P w) : ∀ w' ∈ history steps w, P w' := by
  induction steps generalizing w with
  | nil => exact fun w' hw' => (List.not_mem_nil hw').elim
  | cons step rest ih =>
      rw [List.forall_mem_cons] at hstep
      obtain ⟨e, c⟩ := step
      rw [history, List.forall_mem_cons]
      exact ⟨hstep.1 w hw, ih hstep.2 (hstep.1 w hw)⟩

/-- Components that are all applied with the built-in engine. -/
lemma Engine.isBuiltin_of_mem_map (cs : List Component) :
    ∀ step ∈ cs.map fun c => (builtin, c), step.1.registry.IsBuiltin := by
  intro step hstep
  obtain ⟨c, -, rfl⟩ := List.mem_map.1 hstep
  exact Registry.isBuiltin_builtin

/-- **Mounts never dangle.** -/
theorem Engine.mounted_history {steps : List (Engine × Component)}
    (hbuiltin : ∀ step ∈ steps, step.1.registry.IsBuiltin) {w : Workload} (hw : w.Mounted) :
    ∀ w' ∈ history steps w, w'.Mounted :=
  history_invariant (fun step hstep _ hw => hw.apply (hbuiltin step hstep) step.2) hw

/-- A component that wants a volume `logs` with a claim of its own. -/
def loggingComponent : Component :=
  Component.withTraits { name := "web" }
    { storage := [{ name := "logs", type := "persistent", create := true }] }

/-- A stateful workload with a mount of a volume of its pod. -/
def mountingWorkload : Workload where
  kind := .statefulSet
  spec := some {
    template := {
      pod := some {
        containers := [{
          name := "web", volumeMounts := some [{ name := "data", mountPath := "/data" }] }]
        volumes := some [{ name := "data", emptyDir := true }] } } }

theorem Engine.mounted_history_twice :
    mountingWorkload.Mounted ∧
      ∀ w' ∈ history [(builtin, loggingComponent), (builtin, loggingComponent)] mountingWorkload,
        w'.Mounted := by
  have hw : mountingWorkload.Mounted := by decide
  exact ⟨hw, mounted_history (isBuiltin_of_mem_map [loggingComponent, loggingComponent]) hw⟩

end WorkloadTraits
