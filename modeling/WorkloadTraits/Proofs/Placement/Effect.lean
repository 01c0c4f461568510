import WorkloadTraits.Proofs.Mounts
import WorkloadTraits.Proofs.Placement.Again
import WorkloadTraits.Proofs.Placement.Walk

/-!
# What placing does

A contribution can be anything that a processor makes up: it may want a volume twice, add containers
of names that are taken, and have values under any names at all.  Placing it on a workload with a
main container always succeeds, and `Workload.place_provides` says what comes of it, part by part of
the pod and container by container.

The containers of the new pod are the old ones and the added ones, in their order, and each is as it
was unless it is the first of its name; then it gets everything that the contribution has for that
name (`Contribution.Provides`).  This can be said of all containers at once because the walk over
the names comes to one change of the list in which they are looked up (`Pod.allContainers_equip`).
-/

namespace WorkloadTraits

/-! ## Resources -/

/-- The amount under a key, in a map that need not be given. -/
def amount? (amounts : Option StringMap) (key : String) : Option String :=
  amounts.bind (·.get? key)

/-- How requested resources are laid over others: a requested amount takes the place of the one
under its key, all others stay, and so do the claims. -/
structure ResourceRequirements.LaidOver (requested base result : ResourceRequirements) : Prop where
  limits : ∀ key, amount? result.limits key =
    (amount? requested.limits key).or (amount? base.limits key)
  requests : ∀ key, amount? result.requests key =
    (amount? requested.requests key).or (amount? base.requests key)
  /-- A map is given if one of the two was. -/
  limitsGiven : result.limits.isSome = (requested.limits.isSome || base.limits.isSome)
  requestsGiven : result.requests.isSome = (requested.requests.isSome || base.requests.isSome)
  claims : result.claims = base.claims

lemma isSome_overlayGiven (base extra : Option StringMap) :
    (overlayGiven base extra).isSome = (extra.isSome || base.isSome) := by
  cases extra <;> rfl

/-- Laying a map over another is a matter of single keys. -/
lemma amount?_overlayGiven (base extra : Option StringMap) (key : String) :
    amount? (overlayGiven base extra) key = (amount? extra key).or (amount? base key) := by
  cases extra with
  | none => rfl
  | some m =>
      have hbase : (base.getD .empty).get? key = amount? base key := by
        cases base <;> rfl
      have hover := SortedMap.get?_overlay (base.getD .empty) m key
      rwa [hbase] at hover

lemma ResourceRequirements.laidOver_overlay (base requested : ResourceRequirements) :
    requested.LaidOver base (base.overlay requested) where
  limits := amount?_overlayGiven base.limits requested.limits
  requests := amount?_overlayGiven base.requests requested.requests
  limitsGiven := isSome_overlayGiven base.limits requested.limits
  requestsGiven := isSome_overlayGiven base.requests requested.requests
  claims := rfl

/-! ## Single containers -/

namespace Contribution

/-- What a contribution makes of the main container's resources and probes, of which there can only
be one. -/
structure Equips (c : Contribution) (k k' : Container) : Prop where
  resources : match c.resources with
    | none => k'.resources = k.resources
    | some requested => ∃ result, k'.resources = some result ∧
        requested.LaidOver (k.resources.getD {}) result
  liveness : k'.livenessProbe = c.livenessProbe.or k.livenessProbe
  readiness : k'.readinessProbe = c.readinessProbe.or k.readinessProbe
  startup : k'.startupProbe = c.startupProbe.or k.startupProbe

/-- What a contribution makes of the first container of a name, where `main` is the name of the main
container: new mounts on paths that are free, of each path the first, then all variables and all
sources of variables. -/
structure Provides (c : Contribution) (main : String) (k k' : Container) : Prop where
  mounts : k'.volumeMounts = extendGiven (· ++ ·) k.volumeMounts
    (firsts (·.mountPath) (k.mounts.map (·.mountPath)) (c.volumeMounts.get k.name))
  env : k'.env = extendGiven (· ++ ·) k.env (c.envVars.get k.name)
  envFrom : k'.envFrom = extendGiven (· ++ ·) k.envFrom (c.envFrom.get k.name)
  /-- A container other than the main one is equipped with nothing. -/
  equipment : (if k.name = main then c else empty).Equips k k'
  rest : k'.name = k.name ∧ k'.image = k.image ∧ k'.command = k.command ∧ k'.args = k.args

end Contribution

/-- A list that is extended by new keys is extended by the first value of each of them. -/
lemma extendGiven_appendNew {α κ : Type} [DecidableEq κ] (key : α → κ) (given : Option (List α))
    (new : List α) :
    extendGiven (appendNew key) given new =
      extendGiven (· ++ ·) given (firsts key ((given.getD []).map key) new) := by
  unfold extendGiven
  rw [appendNew_eq]
  cases new with
  | nil => rfl
  | cons a rest =>
      cases hnew : firsts key ((given.getD []).map key) (a :: rest) with
      | cons _ _ => rfl
      | nil =>
          -- Nothing is new, so all keys were there, and the list is given.
          cases given with
          | none =>
              rw [Option.getD_none, List.map_nil, firsts, if_neg List.not_mem_nil] at hnew
              cases hnew
          | some as => exact congrArg some (List.append_nil as)

namespace Container

variable (k : Container) (main : String) (c : Contribution)

lemma equips_equip : c.Equips k (k.equip c) where
  resources := by
    unfold equip
    cases c.resources with
    | none => exact rfl
    | some requested => exact ⟨_, rfl, ResourceRequirements.laidOver_overlay _ requested⟩
  liveness := rfl
  readiness := rfl
  startup := rfl

/-- What a container gets under its name and what the main container gets are different fields. -/
lemma provides_provided : c.Provides main k (k.provided main c) := by
  have hmounts := extendGiven_appendNew (·.mountPath) k.volumeMounts (c.volumeMounts.get k.name)
  unfold provided
  by_cases hmain : k.name = main
  · have hequips := k.equips_equip c
    rw [if_pos hmain]
    refine ⟨hmounts, rfl, rfl, ?_, rfl, rfl, rfl, rfl⟩
    rw [if_pos hmain]
    exact ⟨hequips.resources, hequips.liveness, hequips.readiness, hequips.startup⟩
  · rw [if_neg hmain]
    refine ⟨hmounts, rfl, rfl, ?_, rfl, rfl, rfl, rfl⟩
    rw [if_neg hmain]
    exact ⟨rfl, rfl, rfl, rfl⟩

end Container

/-! ## Pods -/

namespace Pod

/-- The containers of the pod with those that are added, in the order in which they are looked up:
those that run beside each other come before those that run first. -/
def joined (p : Pod) (c : Contribution) : List Container :=
  (p.containers ++ c.containers) ++ (p.inits ++ c.initContainers)

/-- What a contribution makes of a pod, where `main` is the name of the main container. -/
structure Takes (main : String) (c : Contribution) (p q : Pod) : Prop where
  containers : q.containers.length = p.containers.length + c.containers.length
  inits : q.inits.length = p.inits.length + c.initContainers.length
  /-- A list of containers that run first is given if it was or if there are any to add. -/
  initsGiven : q.initContainers.isSome =
    (extendGiven (· ++ ·) p.initContainers c.initContainers).isSome
  /-- Of each name the first container is provided. -/
  each : ∀ i k, (p.joined c)[i]? = some k → ∃ k', q.allContainers[i]? = some k' ∧
    if k.name ∈ ((p.joined c).take i).map (·.name) then k' = k else c.Provides main k k'
  volumes : q.volumes = extendGiven (· ++ ·) p.volumes
    (firsts (·.name) (p.volumeList.map (·.name)) c.volumes)
  /-- An account without a name is none. -/
  account : q.serviceAccountName =
    if p.serviceAccountName.getD "" = "" then c.serviceAccountName.or p.serviceAccountName
    else p.serviceAccountName
  token : q.automountToken = p.automountToken.or c.automountToken

variable (p : Pod) (main : String) (c : Contribution)

lemma allContainers_receive : (p.receive c).allContainers = p.joined c := by
  rw [allContainers, containers_receive, inits_receive]
  rfl

lemma serviceAccountName_receive : (p.receive c).serviceAccountName =
    if p.serviceAccountName.getD "" = "" then c.serviceAccountName.or p.serviceAccountName
    else p.serviceAccountName := by
  show (p.serviceAccountName.filter (!·.isEmpty)).or
    (c.serviceAccountName.or p.serviceAccountName) = _
  cases p.serviceAccountName with
  | none => rfl
  | some name =>
      rw [Option.getD_some, Option.filter_some]
      by_cases hname : name = ""
      · subst hname
        rfl
      · have hgiven : (!name.isEmpty) = true := by
          rw [Bool.not_eq_true', Bool.eq_false_iff]
          exact fun hempty => hname (String.isEmpty_iff.1 hempty)
        rw [if_pos hgiven, if_neg hname, Option.some_or]

lemma takes_equip_receive : Takes main c p ((p.receive c).equip main c) := by
  have hshell := (p.receive c).sameShell_equip main c
  have hall : ((p.receive c).equip main c).allContainers =
      changeFirsts (·.name) (·.provided main c) [] (p.joined c) := by
    rw [allContainers_equip, allContainers_receive]
  have hcontainers : ((p.receive c).equip main c).containers.length =
      p.containers.length + c.containers.length := by
    rw [length_containers_equip, containers_receive, List.length_append]
  constructor
  case containers => exact hcontainers
  case inits =>
    have hlength := congrArg List.length hall
    rw [length_changeFirsts, allContainers, joined] at hlength
    simp only [List.length_append] at hlength
    omega
  case initsGiven => exact hshell.given
  case each =>
    intro i k hk
    have hat : ((p.receive c).equip main c).allContainers[i]? =
        some (if k.name ∈ [] ∨ k.name ∈ ((p.joined c).take i).map (·.name) then k
          else k.provided main c) := by
      rw [hall, getElem?_changeFirsts, hk, Option.map_some]
    refine ⟨_, hat, ?_⟩
    by_cases hfirst : k.name ∈ ((p.joined c).take i).map (·.name)
    · rw [if_pos hfirst, if_pos (Or.inr hfirst)]
    · have hfresh : ¬ (k.name ∈ [] ∨ k.name ∈ ((p.joined c).take i).map (·.name)) :=
        fun h => h.elim List.not_mem_nil hfirst
      rw [if_neg hfirst, if_neg hfresh]
      exact k.provides_provided main c
  case volumes => exact hshell.volumes.trans (extendGiven_appendNew _ p.volumes c.volumes)
  case account => exact hshell.account.trans (p.serviceAccountName_receive c)
  case token => exact hshell.token

end Pod

/-! ## Containers that are not there -/

/-- Whether a contribution has values for containers of a name. -/
def Contribution.HasValuesFor (c : Contribution) (name : String) : Prop :=
  name ∈ c.volumeMounts.names ∨ name ∈ c.envVars.names ∨ name ∈ c.envFrom.names

instance (c : Contribution) (name : String) : Decidable (c.HasValuesFor name) :=
  inferInstanceAs (Decidable (_ ∨ _ ∨ _))

namespace Pod

variable (p : Pod) (main : String) (c : Contribution)

lemma containerMissing_not_mem_receiveWarnings (name : String) :
    .containerMissing name ∉ p.receiveWarnings main c := by
  intro h
  simp only [receiveWarnings, accountWarnings, automountWarnings, List.mem_append] at h
  rcases h with (hvolume | haccount) | htoken
  · obtain ⟨v, -, hv⟩ := List.mem_map.1 hvolume
    cases hv
  · split at haccount
    · split at haccount <;> simp at haccount
    · cases haccount
  · split at htoken
    · split at htoken <;> simp at htoken
    · cases htoken

lemma hasContainer_receive_iff (name : String) :
    (p.receive c).hasContainer name = true ↔ ∃ k ∈ p.joined c, k.name = name := by
  rw [← allContainers_receive, hasContainer, ← allContainers]
  simp only [List.any_eq_true, beq_iff_eq]

/-- There is one warning for each name that values but no container have. -/
lemma count_equipWarnings (name : String) :
    ((p.receive c).equipWarnings c).count (.containerMissing name) =
      if c.HasValuesFor name ∧ ∀ k ∈ p.joined c, k.name ≠ name then 1 else 0 := by
  have hinjective : Function.Injective Warning.containerMissing :=
    fun _ _ h => Warning.containerMissing.inj h
  have hnodup : (c.routedNames.filter (!(p.receive c).hasContainer ·)).Nodup :=
    c.nodup_routedNames.filter _
  have hmem : name ∈ c.routedNames.filter (!(p.receive c).hasContainer ·) ↔
      c.HasValuesFor name ∧ ∀ k ∈ p.joined c, k.name ≠ name := by
    rw [List.mem_filter, Contribution.mem_routedNames, Bool.not_eq_true', Bool.eq_false_iff, Ne,
      hasContainer_receive_iff]
    simp only [not_exists, not_and]
    rfl
  rw [equipWarnings, List.count_map_of_injective _ _ hinjective, hnodup.count]
  simp only [hmem]

end Pod

/-! ## Workloads -/

namespace Workload

variable {w : Workload} {settings : Settings} {main : String}

lemma count_containerMissing_place {pod : Pod} (hpod : w.pod? = some pod)
    (hmain : pod.containers.any (·.name == main) = true) (c : Contribution) (name : String) :
    (w.place settings main c).warnings.count (.containerMissing name) =
      if c.HasValuesFor name ∧ ∀ k ∈ pod.joined c, k.name ≠ name then 1 else 0 := by
  have hreceive := List.count_eq_zero.2 (pod.containerMissing_not_mem_receiveWarnings main c name)
  have hclaims : .containerMissing name ∉
      w.claimWarnings main (claimTemplates settings c.objects) := by
    intro h
    cases w.isOfDroppedClaim_claimWarnings main _ _ h
  rw [place_eq hpod hmain, List.count_append, List.count_append, hreceive,
    List.count_eq_zero.2 hclaims, pod.count_equipWarnings, Nat.zero_add, Nat.add_zero]

/-- **What placing does.**  On a workload with a main container every contribution can be placed.
The pod takes what is for the pod and for its containers, and there is one warning for each name
that has values but no container.  The templates of claims are bound last, which changes nothing of
the pod but that it loses the volumes that would hide them. -/
theorem place_provides (settings : Settings) (hmain : w.HasApplicationContainer main)
    (c : Contribution) :
    (w.place settings main c).outcome = .ok (freeObjects settings c.objects) ∧
    ∃ pod q r, w.pod? = some pod ∧ pod.Takes main c q ∧
      (w.place settings main c).workload =
        (w.mapPod fun _ => q).bindClaims (claimTemplates settings c.objects) ∧
      (w.place settings main c).workload.pod? = some r ∧ r = { q with volumes := r.volumes } ∧
      r.volumeList = q.volumeList.filter (!·.hidesAny (w.takenTemplates settings c)) ∧
      ∀ name, (w.place settings main c).warnings.count (.containerMissing name) =
        if c.HasValuesFor name ∧ ∀ k ∈ pod.joined c, k.name ≠ name then 1 else 0 := by
  obtain ⟨pod, hpod, k, hk, hname⟩ := hmain
  have hany : pod.containers.any (·.name == main) = true :=
    List.any_eq_true.2 ⟨k, hk, beq_iff_eq.2 hname⟩
  have hplaced := place_eq hpod hany settings c
  have hworkload : (w.place settings main c).workload =
      (w.mapPod fun _ => (pod.receive c).equip main c).bindClaims
        (claimTemplates settings c.objects) := by
    have hsame : (w.mapPod fun p => (p.receive c).equip main c) =
        w.mapPod fun _ => (pod.receive c).equip main c := by
      refine mapPod_congr fun p hp => ?_
      rw [Option.some.inj (hp.symm.trans hpod)]
    rw [hplaced, furnish, mapPod_mapPod, hsame]
  have hfinal : (w.place settings main c).workload.pod? =
      some (((pod.receive c).equip main c).uncoverAll (w.takenTemplates settings c)) := by
    rw [hplaced, pod?_furnish, hpod, Option.map_some, takenTemplates]
    split <;> rfl
  refine ⟨by rw [hplaced], pod, _, _, hpod, pod.takes_equip_receive main c, hworkload, hfinal,
    Pod.uncoverAll_eq _ _, Pod.volumeList_uncoverAll _ _, ?_⟩
  exact fun name => count_containerMissing_place hpod hany c name

/-- A pod with two containers of the component's name, one of which runs first. -/
def crowdedPod : Pod where
  containers := [{ name := "web" }]
  initContainers := some [{ name := "web" }]
  volumes := some [{ name := "data", claimName := some "legacy" }]

/-- A stateful workload with that pod. -/
def crowdedWorkload : Workload where
  kind := .statefulSet
  spec := some { template := { pod := some crowdedPod } }

/-- A contribution that adds one more container of that name, wants volumes and paths twice, and has
values for a container that is nowhere. -/
def crowdedContribution : Contribution where
  initContainers := [{ name := "setup" }]
  containers := [{ name := "web" }]
  volumes := [{ name := "data" }, { name := "logs" }, { name := "logs", emptyDir := true }]
  volumeMounts := .ofList [
    ("web", [{ name := "data", mountPath := "/data" }, { name := "logs", mountPath := "/data" }]),
    ("ghost", [{ name := "logs", mountPath := "/logs" }])]
  envVars := .ofList [("setup", [{ name := "STAGE" }]), ("ghost", [{ name := "STAGE" }])]
  objects := [.claim { metadata := {
    name := some "data"
    annotations := some (.ofList [("storage.kubemin.cli/pvc-role", "template")]) } }]
  livenessProbe := some {}
  resources := some { limits := some (.ofList [("cpu", "2")]) }

theorem place_provides_crowded :
    crowdedWorkload.HasApplicationContainer "web" ∧
    (crowdedWorkload.place {} "web" crowdedContribution).outcome = .ok [] ∧
    (∃ q r, crowdedPod.Takes "web" crowdedContribution q ∧
      (crowdedWorkload.place {} "web" crowdedContribution).workload.pod? = some r ∧
      r.volumeList = q.volumeList.filter (!·.hidesAny
        (crowdedWorkload.takenTemplates {} crowdedContribution))) ∧
    (crowdedWorkload.place {} "web" crowdedContribution).warnings.count
      (.containerMissing "ghost") = 1 := by
  have hmain : crowdedWorkload.HasApplicationContainer "web" :=
    ⟨crowdedPod, rfl, _, List.mem_singleton.2 rfl, rfl⟩
  obtain ⟨houtcome, pod, q, r, hpod, htakes, -, hfinal, -, hvolumes, hcount⟩ :=
    place_provides {} hmain crowdedContribution
  obtain rfl : crowdedPod = pod := Option.some.inj hpod
  have hghost := hcount "ghost"
  rw [if_pos (by decide)] at hghost
  exact ⟨hmain, houtcome, ⟨q, r, htakes, hfinal, hvolumes⟩, hghost⟩

end Workload

end WorkloadTraits
