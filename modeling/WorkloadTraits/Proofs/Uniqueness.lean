import WorkloadTraits.Proofs.Builtin.Decoration
import WorkloadTraits.Proofs.Claims.Shadowing
import WorkloadTraits.Proofs.Mounts

/-!
# Nothing comes up twice

A pod is refused when two of its volumes have one name, or two mounts of a container one path, and
a stateful workload when two of its templates have one name.  None of this comes of applications,
however many there are, if it was not there before (`Engine.unrepeated_history`).

Volumes, mounts and templates are all added by the rule that the first of a key counts
(`appendNew`), each by its own key and against what the workload has by then, and what is taken
away in between leaves no two alike.  The containers that an application adds are made without
mounts, so theirs all go through the rule.
-/

namespace WorkloadTraits

/-! ## Containers -/

/-- A container that has no two mounts at one path. -/
def Container.Unrepeated (k : Container) : Prop := (k.mounts.map (·.mountPath)).Nodup

instance (k : Container) : Decidable k.Unrepeated :=
  inferInstanceAs (Decidable (k.mounts.map (·.mountPath)).Nodup)

lemma Container.unrepeated_of_none {k : Container} (h : k.volumeMounts = none) :
    k.Unrepeated := by
  rw [Unrepeated, mounts, h]
  exact List.nodup_nil

lemma ContainerFields.unrepeated_applyTo (f : ContainerFields) {k : Container}
    (hk : k.Unrepeated) : (f.applyTo k).Unrepeated := by
  rw [Container.Unrepeated, Container.mounts, ContainerFields.applyTo,
    getD_extendGiven (appendNew_nil _)]
  exact nodup_map_appendNew hk f.volumeMounts

namespace Contribution

lemma unrepeated_attach (c : Contribution) {isInit : Bool} {k : Container}
    (hk : k.volumeMounts = none) : (c.attach isInit k).Unrepeated := by
  have happlied : ((c.fieldsFor k.name).applyTo k).Unrepeated :=
    ContainerFields.unrepeated_applyTo _ (Container.unrepeated_of_none hk)
  cases isInit <;> exact happlied

end Contribution

/-- Whatever a level contributes under the built-in processors, no container that it adds has two
mounts at one path. -/
lemma Dispatcher.Contributes.unrepeated {d : Dispatcher} (hbuiltin : d.registry.IsBuiltin)
    {l : Level} {c : Contribution} (h : d.Contributes l c) :
    ∀ k ∈ c.initContainers ++ c.containers, k.Unrepeated := by
  refine h.invariant hbuiltin
    (P := fun _ c => ∀ k ∈ c.initContainers ++ c.containers, k.Unrepeated) ?_ ?_ ?_ ?_ ?_
  · exact fun _ k hk => (List.not_mem_nil hk).elim
  · intro _ a b ha hb k hk
    simp only [Contribution.merge, List.mem_append] at ha hb hk
    rcases hk with (hk | hk) | hk | hk
    · exact ha k (.inl hk)
    · exact hb k (.inl hk)
    · exact ha k (.inr hk)
    · exact hb k (.inr hk)
  · intro _ _ _ _ c hinit hsidecar hc k hk
    have hdecorates := Contribution.decorates_kindContribution hinit hsidecar hc
    rw [hdecorates.initContainers, hdecorates.containers] at hk
    exact (List.not_mem_nil hk).elim
  · intro _ name image e n hn k hk
    simp only [Contribution.aroundInit, Contribution.withoutOwn, Contribution.withoutFieldsFor,
      List.mem_append, List.mem_singleton] at hn hk
    rcases hk with (hk | rfl) | hk
    · exact hn k (.inl hk)
    · exact n.unrepeated_attach rfl
    · exact hn k (.inr hk)
  · intro _ name e n hn k hk
    simp only [Contribution.aroundSidecar, Contribution.withoutOwn, Contribution.withoutFieldsFor,
      List.mem_append, List.mem_singleton] at hn hk
    rcases hk with hk | hk | rfl
    · exact hn k (.inl hk)
    · exact hn k (.inr hk)
    · exact n.unrepeated_attach rfl

/-! ## Workloads -/

namespace Workload

/-- A workload in which no two volumes of the pod have one name, no two mounts of a container one
path, and no two templates of claims, where there are any, one name. -/
structure Unrepeated (w : Workload) : Prop where
  volumes : (w.volumes.map (·.name)).Nodup
  mounts : ∀ pod, w.pod? = some pod → ∀ k ∈ pod.allContainers, k.Unrepeated
  templates : w.templateNames.Nodup

instance (w : Workload) : Decidable w.Unrepeated :=
  decidable_of_iff
    ((w.volumes.map (·.name)).Nodup ∧
      (∀ pod, w.pod? = some pod → ∀ k ∈ pod.allContainers, k.Unrepeated) ∧ w.templateNames.Nodup)
    ⟨fun h => ⟨h.1, h.2.1, h.2.2⟩, fun h => ⟨h.volumes, h.mounts, h.templates⟩⟩

variable {w : Workload} {settings : Settings} {main : String} {c : Contribution} {pod : Pod}

lemma nodup_volumes_furnish (hpod : w.pod? = some pod) (hw : (w.volumes.map (·.name)).Nodup) :
    ((w.furnish settings main c).volumes.map (·.name)).Nodup := by
  have happended : ((w.volumes ++ firsts (·.name) (w.volumes.map (·.name)) c.volumes).map
      (·.name)).Nodup := by
    rw [← appendNew_eq]
    exact nodup_map_appendNew hw c.volumes
  rw [volumes_furnish hpod]
  exact happended.sublist (List.filter_sublist.map _)

lemma unrepeated_containers_furnish (hpod : w.pod? = some pod)
    (hpods : ∀ k ∈ pod.allContainers, k.Unrepeated)
    (hadded : ∀ k ∈ c.initContainers ++ c.containers, k.Unrepeated) :
    ∀ pod', (w.furnish settings main c).pod? = some pod' →
      ∀ k ∈ pod'.allContainers, k.Unrepeated := by
  intro pod' hpod'
  rw [pod?_furnish, hpod, Option.map_some] at hpod'
  obtain rfl := Option.some.inj hpod'
  have hequipped : ∀ k ∈ ((pod.receive c).equip main c).allContainers, k.Unrepeated :=
    Pod.forall_equip (Pod.forall_receive hpods hadded) (fun _ hk => hk)
      fun name _ hk => (c.fieldsFor name).unrepeated_applyTo hk
  split
  · rw [Pod.allContainers_uncoverAll]
    exact hequipped
  · exact hequipped

lemma nodup_templateNames_furnish (hpod : w.pod? = some pod) (hw : w.templateNames.Nodup)
    (hnamed : ∀ k ∈ claimTemplates settings c.objects, ∃ name, k.metadata.name = some name) :
    (w.furnish settings main c).templateNames.Nodup := by
  rw [templateNames] at hw ⊢
  rw [isStateful_furnish]
  by_cases hstateful : w.isStateful = true
  · rw [if_pos hstateful] at hw ⊢
    rw [claimTemplateList_furnish hpod hstateful hnamed, ← appendNew_eq]
    exact nodup_map_appendNew hw _
  · rw [if_neg hstateful]
    exact List.nodup_nil

/-- One application of built-in processors, whether it succeeds or fails, repeats nothing. -/
theorem Unrepeated.apply (hw : w.Unrepeated) {e : Engine} (hbuiltin : e.registry.IsBuiltin)
    (c : Component) : (e.apply c w).workload.Unrepeated := by
  rcases e.apply_cases c w with ⟨hkept, -⟩ | ⟨t, contribution, pod, -, hcontribution, hpod, -,
    hplaced⟩
  · rw [hkept]
    exact hw
  · have hcontributes := Dispatcher.contributes_of_dispatch hcontribution
    have hclosed := hcontributes.closed hbuiltin
    rw [hplaced]
    exact ⟨nodup_volumes_furnish hpod hw.volumes,
      unrepeated_containers_furnish hpod (hw.mounts pod hpod) (hcontributes.unrepeated hbuiltin),
      nodup_templateNames_furnish hpod hw.templates
        fun k hk => hclosed.claims k (mem_of_mem_claimTemplates hk)⟩

end Workload

/-! ## Runs -/

namespace Engine

/-- **Nothing comes up twice**, however often and whatever traits are applied. -/
theorem unrepeated_history {steps : List (Engine × Component)}
    (hbuiltin : ∀ step ∈ steps, step.1.registry.IsBuiltin) {w : Workload} (hw : w.Unrepeated) :
    ∀ w' ∈ history steps w, w'.Unrepeated :=
  history_invariant (fun step hstep _ hw => hw.apply (hbuiltin step hstep) step.2) hw

theorem unrepeated_history_twice :
    legacyWorkload.Unrepeated ∧
      ∀ w' ∈ history [(builtin, mixedComponent), (builtin, mixedComponent)] legacyWorkload,
        w'.Unrepeated := by
  have hw : legacyWorkload.Unrepeated := by decide
  exact ⟨hw, unrepeated_history (isBuiltin_of_mem_map [mixedComponent, mixedComponent]) hw⟩

end Engine

end WorkloadTraits
