import WorkloadTraits.Proofs.Dispatch.Journal
import WorkloadTraits.Proofs.Placement.Workload

/-!
# What a placement can say

Placing warns about what a pod does not take, and about claims that a workload has no place for.  It
says nothing about traits.  The warnings of an application are those of processing the traits,
followed by those of placing what comes of them.
-/

namespace WorkloadTraits

/-- Whether a warning is about something that a pod does not take. -/
def Warning.isOfPod : Warning → Bool
  | volumeKept _ | serviceAccountKept .. | automountKept .. | containerMissing _ => true
  | _ => false

/-- Whether a warning is about a claim that the workload has no place for. -/
def Warning.isOfDroppedClaim : Warning → Bool
  | claimDropped .. => true
  | _ => false

namespace Pod

variable (p : Pod) (main : String) (c : Contribution)

lemma isOfPod_receiveWarnings : ∀ x ∈ p.receiveWarnings main c, x.isOfPod = true := by
  intro x hx
  simp only [receiveWarnings, accountWarnings, automountWarnings, List.mem_append] at hx
  rcases hx with (hvolume | haccount) | htoken
  · obtain ⟨v, -, rfl⟩ := List.mem_map.1 hvolume
    rfl
  · split at haccount
    · split at haccount
      · cases haccount
      · rw [List.mem_singleton.1 haccount]
        rfl
    · cases haccount
  · split at htoken
    · split at htoken
      · cases htoken
      · rw [List.mem_singleton.1 htoken]
        rfl
    · cases htoken

lemma isOfPod_equipWarnings : ∀ x ∈ p.equipWarnings c, x.isOfPod = true := by
  intro x hx
  obtain ⟨name, -, rfl⟩ := List.mem_map.1 hx
  rfl

end Pod

namespace Workload

variable {w : Workload} {settings : Settings} {main : String} {c : Contribution}

lemma isOfDroppedClaim_claimWarnings (w : Workload) (main : String) (templates : List Claim) :
    ∀ x ∈ w.claimWarnings main templates, x.isOfDroppedClaim = true := by
  intro x hx
  rw [claimWarnings] at hx
  split at hx
  · cases hx
  · obtain ⟨k, -, rfl⟩ := List.mem_map.1 hx
    rfl

/-- A placement that succeeds warns about what the pod does not take, then about the claims that the
workload has no place for; one that fails has warned about nothing else. -/
theorem warnings_place (w : Workload) (settings : Settings) (main : String) (c : Contribution) :
    ∃ ofPod, (∀ x ∈ ofPod, x.isOfPod = true) ∧ (w.place settings main c).warnings = ofPod ++
      match (w.place settings main c).outcome with
      | .ok _ => w.claimWarnings main (claimTemplates settings c.objects)
      | .error _ => [] := by
  rw [place]
  split
  · rename_i pod _ _
    split
    · refine ⟨pod.receiveWarnings main c ++ (pod.receive c).equipWarnings c, fun x hx => ?_, rfl⟩
      exact (List.mem_append.1 hx).elim (pod.isOfPod_receiveWarnings main c x)
        ((pod.receive c).isOfPod_equipWarnings c x)
    · exact ⟨_, pod.isOfPod_receiveWarnings main c, (List.append_nil _).symm⟩
  · exact ⟨[], fun x hx => (List.not_mem_nil hx).elim, rfl⟩

/-- Of these, the ones about claims. -/
lemma droppedClaims_place {objects : List Companion}
    (hok : (w.place settings main c).outcome = .ok objects) :
    (w.place settings main c).warnings.filter (·.isOfDroppedClaim) =
      w.claimWarnings main (claimTemplates settings c.objects) := by
  obtain ⟨ofPod, hofPod, hwarnings⟩ := w.warnings_place settings main c
  have hnone : ofPod.filter (·.isOfDroppedClaim) = [] := by
    refine List.filter_eq_nil_iff.2 fun x hx hdropped => ?_
    have hsort := hofPod x hx
    cases x <;> simp [Warning.isOfPod, Warning.isOfDroppedClaim] at hsort hdropped
  rw [hwarnings, hok, List.filter_append, hnone, List.nil_append]
  exact List.filter_eq_self.2 (w.isOfDroppedClaim_claimWarnings main _)

end Workload

namespace Engine

/-- The warnings of an application are those of the traits, and then those of the placement if it
comes so far. -/
lemma warnings_apply {e : Engine} {c : Component} (w : Workload) {t : Traits}
    (htraits : traits c = .ok (some t)) :
    (e.apply c w).warnings = (e.contribute c w t).warnings ++
      match (e.contribute c w t).outcome with
      | .ok contribution => (w.place e.settings c.name contribution).warnings
      | .error _ => [] := by
  simp only [Application.warnings, apply, htraits]
  cases (e.contribute c w t).outcome with
  | error failure => exact (List.append_nil _).symm
  | ok contribution =>
      simp only [journalWarnings_append, journalWarnings_map_warned]
      rfl

end Engine

end WorkloadTraits
