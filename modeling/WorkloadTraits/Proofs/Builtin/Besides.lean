import WorkloadTraits.Proofs.Builtin.Ingress
import WorkloadTraits.Proofs.Builtin.Kinds
import WorkloadTraits.Proofs.Builtin.Level
import WorkloadTraits.Proofs.Builtin.Storage

/-!
# What a level wants besides containers

Four of the ten kinds want something that is for no container: storage and secrets come with
volumes of the pod, and these two, access policies and ingresses with objects that stand beside the
workload; policies also name an account for the pod.  `Besides.ofKind` is what a kind wants in this
way, made of the traits alone.

What a level wants for its container is taken off on the way up (`Contribution.withoutOwn`).  None
of this is: what a nested level wants besides reaches the top as it is.
-/

namespace WorkloadTraits

/-- What is wanted for the pod as a whole, and beside the workload. -/
structure Besides where
  volumes : List Volume := []
  objects : List Companion := []
  account : Option String := none
  token : Option Bool := none

/-- What a contribution wants for the pod as a whole, and beside the workload. -/
def Contribution.besides (c : Contribution) : Besides where
  volumes := c.volumes
  objects := c.objects
  account := c.serviceAccountName
  token := c.automountToken

/-- What a kind of traits wants for the pod as a whole, and beside the workload. -/
def Besides.ofKind (site : Site) (t : Traits) : TraitKind → Besides
  | .storage => {
      volumes := (Storage.made site t.storage).map (·.volume)
      objects := ((Storage.made site t.storage).filterMap (·.claim)).map .claim }
  | .secret => {
      volumes := (Secret.contribution site t.secret).volumes
      objects := (Secret.contribution site t.secret).objects }
  | .rbac => {
      objects := t.rbac.zipIdx.flatMap (Access.policyObjects site)
      account := t.rbac.head?.map fun p => p.accountName site.target 0
      token := t.rbac.findSome? (·.automountToken) }
  | .ingress => { objects := Ingresses.made site t.ingress }
  | .envFrom | .envs | .resources | .probes | .init | .sidecar => {}

namespace Contribution

/-- Nothing is taken off on the way up past an init entry. -/
@[simp] lemma besides_aroundInit (c : Contribution) (k : Container) :
    (c.aroundInit k).besides = c.besides := rfl

/-- Nothing is taken off on the way up past a sidecar. -/
@[simp] lemma besides_aroundSidecar (c : Contribution) (k : Container) :
    (c.aroundSidecar k).besides = c.besides := rfl

/-- What a kind contributes besides is made of the traits alone. -/
theorem besides_kindContribution {site : Site} {answer : Nested → Except Failure Contribution}
    {t : Traits} {k : TraitKind} {c : Contribution} (hinit : k ≠ .init) (hsidecar : k ≠ .sidecar)
    (h : kindContribution site answer t k = .ok c) : c.besides = .ofKind site t k := by
  cases k with
  | storage =>
      obtain ⟨ps, hps, h⟩ := bind_eq_ok.1 h
      obtain rfl := Except.ok.inj h
      rw [Besides.ofKind, Storage.parts_eq_made hps]
      rfl
  | secret =>
      obtain rfl := Except.ok.inj h
      rfl
  | envFrom =>
      obtain ⟨-, rfl⟩ := Environment.sourceContribution_eq_ok.1 h
      rfl
  | envs =>
      obtain ⟨-, rfl⟩ := Environment.variableContribution_eq_ok.1 h
      rfl
  | resources =>
      rw [kindContribution] at h
      split at h
      · obtain rfl := Except.ok.inj h
        rfl
      · obtain ⟨c?, hc?, rfl⟩ := map_eq_ok.1 h
        obtain ⟨limits, -, hlimits⟩ := bind_eq_ok.1 hc?
        obtain rfl := Except.ok.inj hlimits
        cases limits.given? <;> rfl
  | probes =>
      obtain ⟨-, -, rfl⟩ := Probes.contribution_eq_ok.1 h
      rfl
  | rbac =>
      obtain ⟨os, hos, h⟩ := bind_eq_ok.1 h
      obtain rfl := Except.ok.inj h
      obtain ⟨-, rfl⟩ := Access.objects_eq_ok.1 hos
      rfl
  | ingress =>
      obtain ⟨os, hos, rfl⟩ := map_eq_ok.1 h
      rw [Besides.ofKind, Ingresses.objects_eq_made hos]
      rfl
  | init => exact absurd rfl hinit
  | sidecar => exact absurd rfl hsidecar

end Contribution

end WorkloadTraits
