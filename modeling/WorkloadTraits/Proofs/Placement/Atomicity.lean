import WorkloadTraits.Proofs.Placement.Workload

/-!
# A failure leaves the workload as it was

Placing a contribution looks for the main container twice: before anything is changed, and again
when the pod has received what is for the pod itself.  The second look is another one than the
first, it also accepts a container that runs before the others, and by then a failure would come
too late.  It never fails: a pod does not lose a container to a contribution
(`Pod.hasContainer_receive`), so whatever the first look finds is found again.

This depends on nothing that a processor does, so it holds for every registry
(`Engine.failure_keeps_workload`).
-/

namespace WorkloadTraits

namespace Workload

/-- Whether the workload has a pod in which a container of a name runs beside the others.  The
containers that run before them do not count. -/
def HasApplicationContainer (w : Workload) (name : String) : Prop :=
  ∃ pod, w.pod? = some pod ∧ ∃ k ∈ pod.containers, k.name = name

variable {w : Workload} {settings : Settings} {main : String}

/-- The first look finds a container exactly if there is one beside the others. -/
lemma container?_eq_none_iff : w.container? main = none ↔ ¬ w.HasApplicationContainer main := by
  unfold container? HasApplicationContainer
  cases hpod : w.pod? with
  | none => simp
  | some pod => simp

/-- What the first look finds is still there at the second look. -/
lemma HasApplicationContainer.hasContainer_receive (h : w.HasApplicationContainer main)
    (c : Contribution) :
    ∃ pod, w.pod? = some pod ∧ (pod.receive c).hasContainer main = true := by
  obtain ⟨pod, hpod, k, hk, hname⟩ := h
  have hany : pod.containers.any (·.name == main) = true :=
    List.any_eq_true.2 ⟨k, hk, beq_iff_eq.2 hname⟩
  exact ⟨pod, hpod, Pod.hasContainer_receive c hany⟩

/-- Placing fails for want of the main container, and for no other reason. -/
theorem place_eq_error_iff {c : Contribution} {failure : Failure} :
    (w.place settings main c).outcome = .error failure ↔
      failure = .mainContainerNotFound main ∧ ¬ w.HasApplicationContainer main := by
  constructor
  · intro hfailed
    have hmissing : ¬ w.HasApplicationContainer main := by
      rintro ⟨pod, hpod, k, hk, hname⟩
      have hmain : pod.containers.any (·.name == main) = true :=
        List.any_eq_true.2 ⟨k, hk, beq_iff_eq.2 hname⟩
      rw [place_eq hpod hmain] at hfailed
      cases hfailed
    refine ⟨?_, hmissing⟩
    simp only [place, container?_eq_none_iff.2 hmissing] at hfailed
    exact (Except.error.inj hfailed).symm
  · rintro ⟨rfl, hmissing⟩
    simp only [place, container?_eq_none_iff.2 hmissing]

end Workload

namespace Engine

/-- **A failure leaves the workload as it was**, whatever the processors are.  Once the traits have
been processed, an application fails exactly if the workload has no container of the component's
name beside the others, and then before anything is changed: if there is one, it is still there
when it is looked for again. -/
theorem failure_keeps_workload (e : Engine) (c : Component) (w : Workload) :
    (∀ failure, (e.apply c w).outcome = .error failure → (e.apply c w).workload = w) ∧
    ∀ t contribution, traits c = .ok (some t) →
      (e.contribute c w t).outcome = .ok contribution →
        (∀ failure, (e.apply c w).outcome = .error failure ↔
          failure = .mainContainerNotFound c.name ∧ ¬ w.HasApplicationContainer c.name) ∧
        (w.HasApplicationContainer c.name → ∃ pod, w.pod? = some pod ∧
          (pod.receive contribution).hasContainer c.name = true) := by
  constructor
  · intro failure hfailed
    rcases e.apply_cases c w with ⟨hkept, -⟩ | ⟨t, contribution, pod, htraits, hcontribution, hpod,
      hmain, -⟩
    · exact hkept
    · obtain ⟨k, hk, hname⟩ := List.any_eq_true.1 hmain
      have hmissing : ¬ w.HasApplicationContainer c.name := by
        simp only [apply, htraits, hcontribution] at hfailed
        exact (Workload.place_eq_error_iff.1 hfailed).2
      exact absurd ⟨pod, hpod, k, hk, beq_iff_eq.1 hname⟩ hmissing
  · intro t contribution htraits hcontribution
    constructor
    · intro failure
      simp only [apply, htraits, hcontribution]
      exact Workload.place_eq_error_iff
    · intro hmain
      exact hmain.hasContainer_receive contribution

/-- A processor that adds a container named like the component, to run before the others. -/
def impostorProcessor : Processor where
  name := "impostor"
  kind := .envs
  process := fun c => .done (some { initContainers := [{ name := c.component.name }] })

/-- An engine with this processor only. -/
def impostorEngine : Engine where
  registry := ⟨[impostorProcessor], by decide⟩

/-- A component with a trait for the processor. -/
def impostorComponent : Component :=
  Component.withTraits { name := "web" } { envs := [{}] }

/-- A workload in which the component's container runs before the others. -/
def initOnlyWorkload : Workload where
  kind := .daemonSet
  spec := some {
    template := {
      pod := some {
        containers := [{ name := "app" }]
        initContainers := some [{ name := "web" }] } } }

theorem failure_keeps_workload_impostor :
    ∃ t contribution, traits impostorComponent = .ok (some t) ∧
      (impostorEngine.contribute impostorComponent initOnlyWorkload t).outcome = .ok contribution ∧
      (impostorEngine.apply impostorComponent initOnlyWorkload).outcome =
        .error (.mainContainerNotFound "web") ∧
      (impostorEngine.apply impostorComponent initOnlyWorkload).workload = initOnlyWorkload ∧
      ¬ initOnlyWorkload.HasApplicationContainer "web" := by
  obtain ⟨hkept, hfails⟩ := failure_keeps_workload impostorEngine impostorComponent initOnlyWorkload
  have hfailed : (impostorEngine.apply impostorComponent initOnlyWorkload).outcome =
      .error (.mainContainerNotFound "web") := rfl
  refine ⟨_, _, rfl, rfl, hfailed, hkept _ hfailed, ?_⟩
  exact ((hfails _ _ rfl rfl).1 _).1 hfailed |>.2

end Engine

end WorkloadTraits
