import WorkloadTraits.Proofs.Placement.Workload

/-!
# What becomes of the volumes that a pod had

Two steps of an application touch the volumes of the pod.  Volumes of the contribution are
appended, unless the pod has one of their name; and a volume that would hide the claims of a
template is taken away.  The second step goes by the name of the volume, and takes it whatever
claim it refers to.

So the volumes that were there are still there afterwards, unchanged and in their order, apart from
those that refer to the claim of a template which this very application makes, exactly if none of
the volumes that are taken away refers to another claim (`volumes_survive_iff`).
-/

namespace WorkloadTraits

/-- Whether the volume refers to the claim of one of some templates. -/
def Volume.refersToAny (v : Volume) (templates : List Claim) : Bool :=
  templates.any fun t => t.metadata.name.isSome && v.claimName == t.metadata.name

/-- The volumes of the pod, if any. -/
def Workload.volumes (w : Workload) : List Volume := (w.pod?.map (·.volumeList)).getD []

/-- The templates of claims that an application makes; none if it does not come so far. -/
def Engine.emittedTemplates (e : Engine) (c : Component) (w : Workload) : List Claim :=
  match traits c with
  | .ok (some t) =>
    match (e.contribute c w t).outcome with
    | .ok contribution => claimTemplates e.settings contribution.objects
    | .error _ => []
  | _ => []

/-- The kept values of a list are among the shown values of a longer one, in order, exactly if
every kept value is shown. -/
lemma filter_sublist_filter_append {α : Type} {old added : List α} {kept shown : α → Bool} :
    (old.filter kept).Sublist ((old ++ added).filter shown) ↔
      ∀ a ∈ old, kept a = true → shown a = true := by
  constructor
  · intro hsub a ha hkept
    exact (List.mem_filter.1 (hsub.subset (List.mem_filter.2 ⟨ha, hkept⟩))).2
  · intro h
    have hboth : old.filter kept = (old.filter shown).filter kept := by
      rw [List.filter_filter]
      refine List.filter_congr fun a ha => ?_
      cases hkept : kept a with
      | false => rfl
      | true => rw [h a ha hkept, Bool.and_self]
    rw [hboth, List.filter_append]
    exact List.filter_sublist.trans (List.sublist_append_left _ _)

/-- The volumes of a pod on which a contribution is placed, before any are taken away. -/
lemma Pod.volumeList_equip_receive (p : Pod) (main : String) (c : Contribution) :
    ((p.receive c).equip main c).volumeList =
      p.volumeList ++ firsts (·.name) (p.volumeList.map (·.name)) c.volumes := by
  rw [volumeList, volumes_equip, ← volumeList, volumeList_receive, appendNew_eq]

namespace Workload

/-- The volumes of a furnished workload. -/
lemma volumes_furnish {w : Workload} {pod : Pod} (hpod : w.pod? = some pod) (settings : Settings)
    (main : String) (c : Contribution) :
    (w.furnish settings main c).volumes =
      (w.volumes ++ firsts (·.name) (w.volumes.map (·.name)) c.volumes).filter
        fun v => !(w.isStateful && v.hidesAny (claimTemplates settings c.objects)) := by
  rw [volumes, volumes, pod?_furnish, hpod, Option.map_some, Option.map_some, Option.map_some,
    Option.getD_some, Option.getD_some]
  cases w.isStateful with
  | true =>
      rw [if_pos rfl, Pod.volumeList_uncoverAll, Pod.volumeList_equip_receive]
      rfl
  | false =>
      rw [if_neg Bool.false_ne_true, Pod.volumeList_equip_receive]
      exact (List.filter_eq_self.2 fun _ _ => rfl).symm

end Workload

namespace Engine

variable {e : Engine} {c : Component} {w : Workload} {objects : List Companion}

/-- What a successful application makes of the volumes: it appends some, and takes away those that
would hide the claims of its templates. -/
theorem volumes_apply (hok : (e.apply c w).outcome = .ok objects) :
    ∃ added, (e.apply c w).workload.volumes =
      (w.volumes ++ added).filter
        fun v => !(w.isStateful && v.hidesAny (e.emittedTemplates c w)) := by
  rcases e.apply_cases c w with ⟨hkept, hnone⟩ |
    ⟨t, contribution, pod, htraits, hcontribution, hpod, -, hplaced⟩
  · refine ⟨[], ?_⟩
    rw [hkept, List.append_nil, emittedTemplates, hnone objects hok]
    refine (List.filter_eq_self.2 fun v _ => ?_).symm
    simp [Volume.hidesAny]
  · refine ⟨firsts (·.name) (w.volumes.map (·.name)) contribution.volumes, ?_⟩
    have hemitted : e.emittedTemplates c w = claimTemplates e.settings contribution.objects := by
      simp only [emittedTemplates, htraits, hcontribution]
    rw [hplaced, Workload.volumes_furnish hpod, hemitted]

/-- **Volumes survive**, those apart that refer to the claim of a template that the application
makes, exactly if every volume that it takes away is one of those. -/
theorem volumes_survive_iff (hok : (e.apply c w).outcome = .ok objects) :
    (w.volumes.filter fun v => !v.refersToAny (e.emittedTemplates c w)).Sublist
        (e.apply c w).workload.volumes ↔
      ∀ v ∈ w.volumes, w.isStateful = true → v.hidesAny (e.emittedTemplates c w) = true →
        v.refersToAny (e.emittedTemplates c w) = true := by
  obtain ⟨added, hvolumes⟩ := volumes_apply hok
  rw [hvolumes, filter_sublist_filter_append]
  refine forall₂_congr fun v _ => ?_
  cases w.isStateful <;> cases v.hidesAny (e.emittedTemplates c w) <;>
    cases v.refersToAny (e.emittedTemplates c w) <;> simp

/-- A component that wants a volume `data` with a claim of its own. -/
def claimingComponent : Component :=
  Component.withTraits { name := "web" }
    { storage := [{ name := "data", type := "persistent", create := true }] }

/-- A stateful workload whose volume `data` refers to a claim from elsewhere. -/
def legacyWorkload : Workload where
  kind := .statefulSet
  spec := some {
    template := {
      pod := some {
        containers := [{ name := "web" }]
        volumes := some [{ name := "data", claimName := some "legacy" }] } } }

theorem volumes_survive_iff_legacy :
    (builtin.apply claimingComponent legacyWorkload).outcome = .ok [] ∧
      ((legacyWorkload.volumes.filter fun v =>
            !v.refersToAny (builtin.emittedTemplates claimingComponent legacyWorkload)).Sublist
          (builtin.apply claimingComponent legacyWorkload).workload.volumes ↔
        ∀ v ∈ legacyWorkload.volumes, legacyWorkload.isStateful = true →
          v.hidesAny (builtin.emittedTemplates claimingComponent legacyWorkload) = true →
            v.refersToAny (builtin.emittedTemplates claimingComponent legacyWorkload) = true) :=
  ⟨rfl, volumes_survive_iff rfl⟩

/-- The condition is not met by every application that succeeds: a volume that refers to a claim
from elsewhere is lost to a template of its name. -/
theorem legacy_volume_lost :
    ¬ ∀ (c : Component) (w : Workload) (objects : List Companion),
      (builtin.apply c w).outcome = .ok objects →
        (w.volumes.filter fun v => !v.refersToAny (builtin.emittedTemplates c w)).Sublist
          (builtin.apply c w).workload.volumes := by
  intro h
  have hsurvives := h claimingComponent legacyWorkload [] rfl
  have hlost : (builtin.apply claimingComponent legacyWorkload).workload.volumes = [] := rfl
  have hkept : (legacyWorkload.volumes.filter fun v =>
      !v.refersToAny (builtin.emittedTemplates claimingComponent legacyWorkload)) =
        [{ name := "data", claimName := some "legacy" }] := by decide +kernel
  rw [hlost, hkept] at hsurvives
  cases hsurvives

end Engine

end WorkloadTraits
