import WorkloadTraits.Proofs.Claims.Shadowing
import WorkloadTraits.Proofs.Mounts
import WorkloadTraits.Proofs.Placement.Again

/-!
# Applying a component twice

An application that has succeeded succeeds again on the workload that came of it, and gives the same
objects: the main container is still there, and what the traits come to does not depend on the
workload.  The same contribution is placed twice, so `Workload.furnish_furnish` says what the second
placement does: it adds containers, and variables of the main container, and all the rest stays.

The volumes are an exception.  A volume that refers to a claim is taken away when a template of its
name is bound, and with it the name is free.  If the component asks for a volume of that name that
refers to no claim, the first application passes it over, and the second adds it.  `apply_again`
says that nothing else can happen.
-/

namespace WorkloadTraits

namespace Engine

variable {e : Engine} {c : Component} {w : Workload} {t : Traits} {contribution : Contribution}

/-- With the main container in place, what the traits come to is placed. -/
lemma apply_of_contribute (htraits : traits c = .ok (some t))
    (hcontribution : (e.contribute c w t).outcome = .ok contribution)
    (hmain : w.HasApplicationContainer c.name) :
    (e.apply c w).workload = w.furnish e.settings c.name contribution ∧
      (e.apply c w).outcome = .ok (freeObjects e.settings contribution.objects) := by
  simp only [apply, htraits, hcontribution]
  rcases @Workload.place_cases w e.settings c.name contribution with
    ⟨-, -, -, hworkload, hplaced⟩ | ⟨-, hfailed⟩
  · exact ⟨hworkload, hplaced⟩
  · exact absurd hmain (Workload.place_eq_error_iff.1 hfailed).2

/-- The main container is still there after a placement. -/
lemma hasApplicationContainer_furnish {pod : Pod} (hpod : w.pod? = some pod) {main : String}
    (hc : contribution.RoutesOnlyTo main)
    (hmain : pod.containers.any (·.name == main) = true) (settings : Settings) :
    (w.furnish settings main contribution).HasApplicationContainer main := by
  obtain ⟨pod', hpod', -, hcontainers⟩ :=
    @Workload.containers_furnish w pod hpod settings main contribution hc hmain
  have hname : ∀ k : Container, (((contribution.own main).onto k).name == main) =
      (k.name == main) := fun _ => rfl
  have hany : pod'.containers.any (·.name == main) = true := by
    rw [hcontainers, List.any_append, any_updateFirst hname, hmain, Bool.true_or]
  obtain ⟨k, hk, hkname⟩ := List.any_eq_true.1 hany
  exact ⟨pod', hpod', k, hk, beq_iff_eq.1 hkname⟩

/-! ## Volumes that come back -/

/-- The volumes of a contribution are those that count of the volumes that are asked for. -/
lemma volumes_contribute (hbuiltin : e.registry.IsBuiltin)
    (hcontribution : (e.contribute c w t).outcome = .ok contribution) :
    contribution.volumes = firsts (·.name) [] (e.askedVolumes c (some t)) := by
  have hcontributes := Dispatcher.contributes_of_dispatch hcontribution
  have hvolumes := hcontributes.volumes_eq hbuiltin rfl
  exact hvolumes

/-- A volume is asked for under the name of each created claim. -/
lemma name_mem_askedVolumes (hbuiltin : e.registry.IsBuiltin)
    (hcontribution : (e.contribute c w t).outcome = .ok contribution) :
    ∀ x ∈ e.creations c (some t), x.name ∈ (e.askedVolumes c (some t)).map (·.name) := by
  intro x hx
  have hcontributes := Dispatcher.contributes_of_dispatch hcontribution
  have hname := hcontributes.follows (Creation.follows_volumes e.registry.kinds) rfl hbuiltin rfl
    x hx
  rw [volumes_contribute hbuiltin hcontribution, mem_map_firsts] at hname
  exact hname.1

section Placed

variable {xs : List Creation} {claims : List Claim}

/-- A stateful workload takes away volumes that refer to a claim and have the name of a created one,
any other workload none. -/
lemma hidesAny_takenTemplates (hmade : List.Forall₂ (fun x k => x.claim = .ok k) xs claims)
    (htemplates : claimTemplates e.settings contribution.objects =
      firsts (·.metadata.name) [] claims) (v : Volume) :
    v.hidesAny (w.takenTemplates e.settings contribution) = false ↔
      (w.isStateful = true → v.name ∈ xs.map (·.name) → v.claimName = none) := by
  rw [Workload.takenTemplates]
  by_cases hstateful : w.isStateful = true
  · rw [if_pos hstateful, htemplates, ← Bool.not_eq_true, hidesAny_firsts hmade v,
      Option.isSome_iff_ne_none]
    tauto
  · rw [if_neg hstateful]
    exact iff_of_true rfl fun h => absurd h hstateful

/-- No volume comes back at a second placement exactly if, under each name of a created claim that
old volumes have, an old volume is kept or none is added. -/
lemma none_returns_iff (hmade : List.Forall₂ (fun x k => x.claim = .ok k) xs claims)
    (htemplates : claimTemplates e.settings contribution.objects =
      firsts (·.metadata.name) [] claims) {asked : List Volume}
    (hvolumes : contribution.volumes = firsts (·.name) [] asked)
    (hasked : ∀ x ∈ xs, x.name ∈ asked.map (·.name)) :
    (∀ v ∈ firsts (·.name) [] contribution.volumes,
        v.hidesAny (w.takenTemplates e.settings contribution) = false →
          v.name ∈ w.volumes.map (·.name) → ∃ u ∈ w.volumes, u.name = v.name ∧
            u.hidesAny (w.takenTemplates e.settings contribution) = false) ↔
      (w.isStateful = true → ∀ x ∈ xs, x.name ∈ w.volumes.map (·.name) →
        (∃ u ∈ w.volumes, u.name = x.name ∧ u.claimName = none) ∨
          ∃ v, asked.find? (·.name = x.name) = some v ∧ v.claimName.isSome = true) := by
  have hshown := hidesAny_takenTemplates (w := w) hmade htemplates
  simp only [hvolumes, firsts_firsts, mem_firsts, List.not_mem_nil, not_false_eq_true, true_and,
    hshown]
  constructor
  · intro h hstateful x hx hold
    obtain ⟨v, hfirst, hname⟩ := exists_find?_of_mem_map (hasked x hx)
    cases hclaim : v.claimName with
    | some claim => exact .inr ⟨v, hfirst, by rw [hclaim]; rfl⟩
    | none =>
        rw [← hname] at hold hfirst
        obtain ⟨u, hu, huname, hkept⟩ := h v hfirst (fun _ _ => hclaim) hold
        refine .inl ⟨u, hu, huname.trans hname, hkept hstateful ?_⟩
        exact List.mem_map.2 ⟨x, hx, (huname.trans hname).symm⟩
  · intro h v hfirst hkept hold
    by_cases hcreated : w.isStateful = true ∧ v.name ∈ xs.map (·.name)
    · obtain ⟨hstateful, hcreated⟩ := hcreated
      obtain ⟨x, hx, hname⟩ := List.mem_map.1 hcreated
      rcases h hstateful x hx (by rwa [hname]) with ⟨u, hu, huname, hnone⟩ | ⟨v', hfirst', hclaim⟩
      · exact ⟨u, hu, huname.trans hname, fun _ _ => hnone⟩
      · -- The volume that is asked for under this name is the one that refers to no claim.
        rw [hname, hfirst] at hfirst'
        obtain rfl := Option.some.inj hfirst'
        rw [hkept hstateful hcreated] at hclaim
        cases hclaim
    · obtain ⟨u, hu, huname⟩ := List.mem_map.1 hold
      exact ⟨u, hu, huname, fun hstateful hname =>
        absurd ⟨hstateful, by rwa [← huname]⟩ hcreated⟩

end Placed

/-- **Applying twice.**  After an application that succeeds another one of the same component
succeeds with the same objects, and all that it does to the workload is to add containers, and
variables and sources of variables of the main container, and to change the volumes.  It leaves the
volumes as they are if and only if the workload is not stateful, or each name of a created claim
that volumes had at the beginning is one of which a volume is kept, or under which the first volume
that is asked for refers to a claim. -/
theorem apply_again (hbuiltin : e.registry.IsBuiltin) {objects : List Companion}
    (hok : (e.apply c w).outcome = .ok objects) {t? : Option Traits}
    (htraits : traits c = .ok t?) :
    (e.apply c (e.apply c w).workload).outcome = .ok objects ∧
    ∃ (growth : Growth) (volumes : Option (List Volume)),
      (e.apply c (e.apply c w).workload).workload =
        ((e.apply c w).workload.mapPod fun p => { growth.ofPod c.name p with volumes }) ∧
      (volumes = (e.apply c w).workload.pod?.bind (·.volumes) ↔
        (w.isStateful = true → ∀ x ∈ e.creations c t?, x.name ∈ w.volumes.map (·.name) →
          (∃ u ∈ w.volumes, u.name = x.name ∧ u.claimName = none) ∨
            ∃ v, (e.askedVolumes c t?).find? (·.name = x.name) = some v ∧
              v.claimName.isSome = true)) := by
  rcases e.apply_outcome c w with
    ⟨t, contribution, pod, htraits', hcontribution, hpod, hmain, hworkload, hplaced⟩ |
      ⟨hkept, ⟨htraits', -⟩ | ⟨failure, hfailed⟩⟩
  · obtain rfl := Except.ok.inj (htraits.symm.trans htraits')
    obtain rfl := Except.ok.inj (hok.symm.trans hplaced)
    have hcontributes := Dispatcher.contributes_of_dispatch hcontribution
    have hroutes := hcontributes.routesOnlyTo hbuiltin
    obtain ⟨claims, hmade, -, htemplates⟩ := claimTemplates_contribute hbuiltin hcontribution
    have hclosed := hcontributes.closed hbuiltin
    obtain ⟨hworkload', hplaced'⟩ :=
      apply_of_contribute htraits ((contribute_workload hbuiltin w _ t).trans hcontribution)
        (hasApplicationContainer_furnish hpod hroutes hmain e.settings)
    obtain ⟨volumes, hgrown, hcame⟩ := Workload.furnish_furnish hpod hroutes hmain
      fun k hk => hclosed.claims k (mem_of_mem_claimTemplates hk)
    rw [hworkload, hworkload']
    exact ⟨hplaced', contribution.growth c.name, volumes, hgrown,
      hcame.trans (none_returns_iff hmade htemplates (volumes_contribute hbuiltin hcontribution)
        (name_mem_askedVolumes hbuiltin hcontribution))⟩
  · obtain rfl := Except.ok.inj (htraits.symm.trans htraits')
    have hnothing : e.creations c none = [] :=
      Demand.flatten_of_nothing (fun _ k => by cases k <;> rfl) (e.site c)
    rw [hkept, hkept, hnothing]
    refine ⟨hok, {}, w.pod?.bind (·.volumes), ?_, iff_of_true rfl fun _ x hx => ?_⟩
    · refine w.mapPod_self.symm.trans (Workload.mapPod_congr fun p hp => ?_)
      rw [Growth.ofPod_empty, hp]
      rfl
    · exact (List.not_mem_nil hx).elim
  · cases hfailed.symm.trans hok

theorem apply_again_mixed :
    (builtin.apply mixedComponent legacyWorkload).outcome = .ok [] ∧
      ∃ t?, traits mixedComponent = .ok t? ∧
        (builtin.apply mixedComponent
          (builtin.apply mixedComponent legacyWorkload).workload).outcome = .ok [] ∧
        ∃ (growth : Growth) (volumes : Option (List Volume)),
          (builtin.apply mixedComponent
              (builtin.apply mixedComponent legacyWorkload).workload).workload =
            ((builtin.apply mixedComponent legacyWorkload).workload.mapPod
              fun p => { growth.ofPod mixedComponent.name p with volumes }) ∧
          (volumes = (builtin.apply mixedComponent legacyWorkload).workload.pod?.bind (·.volumes) ↔
            (legacyWorkload.isStateful = true → ∀ x ∈ builtin.creations mixedComponent t?,
              x.name ∈ legacyWorkload.volumes.map (·.name) →
                (∃ u ∈ legacyWorkload.volumes, u.name = x.name ∧ u.claimName = none) ∨
                  ∃ v, (builtin.askedVolumes mixedComponent t?).find? (·.name = x.name) = some v ∧
                    v.claimName.isSome = true)) := by
  have hok : (builtin.apply mixedComponent legacyWorkload).outcome = .ok [] := rfl
  exact ⟨hok, _, rfl, apply_again Registry.isBuiltin_builtin hok rfl⟩

/-- Volumes need not stay as they are: the first application takes a volume away, and the second
puts another one of its name in its place. -/
theorem volume_comes_back :
    ¬ ∀ (c : Component) (w : Workload) (objects : List Companion),
      (builtin.apply c w).outcome = .ok objects →
        (builtin.apply c (builtin.apply c w).workload).workload.volumes =
          (builtin.apply c w).workload.volumes := by
  intro h
  have hsame := h mixedComponent legacyWorkload [] rfl
  have honce : (builtin.apply mixedComponent legacyWorkload).workload.volumes = [] := rfl
  have htwice : (builtin.apply mixedComponent
      (builtin.apply mixedComponent legacyWorkload).workload).workload.volumes =
        [{ name := "data", emptyDir := true }] := rfl
  rw [honce, htwice] at hsame
  cases hsame

end Engine

end WorkloadTraits
