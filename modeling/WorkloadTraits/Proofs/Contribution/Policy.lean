import WorkloadTraits.Proofs.Contribution.Regrouping

/-!
# The merge policy

Contributions are merged one into the other, and each merge tests what has been kept so far.  The
policy behind it needs neither the order of the merges nor a test: lists are concatenated, of some
the first value of each key is kept, and what there can only be one of is taken from the last that
gives it.  `Contribution.combined` says it in this form, for any number of contributions at once,
and `aggregate_eq_combined` says that merging comes to nothing else.

For most fields the equations for a merged contribution are enough.  What is routed to containers
needs one step more: the names have to stand in the order in which they first come up, in each of
the three routings by itself, also those under which nothing is wanted (`aggregate_eq_collect`).
-/

namespace WorkloadTraits

namespace Routing

variable {α : Type}

/-- Some routings taken together: the names in the order in which they first come up, and under each
name what `keep` leaves of all values under it. -/
def collect (keep : List α → List α) (rs : List (Routing α)) : Routing α where
  entries := (firsts id [] (rs.flatMap (·.names))).map fun name =>
    (name, keep (rs.flatMap (·.get name)))
  nodup := by
    have hnodup := nodup_map_firsts id [] (rs.flatMap (·.names))
    rw [List.map_id] at hnodup
    rw [List.map_map]
    exact hnodup.map fun _ _ heq => heq

/-- A routing is the collected one if it has the names of that and the values under each. -/
lemma eq_collect {keep : List α → List α} {rs : List (Routing α)} {r : Routing α}
    (hnames : r.names = firsts id [] (rs.flatMap (·.names)))
    (hget : ∀ name, r.get name = keep (rs.flatMap (·.get name))) : r = collect keep rs := by
  have hentries : r.entries = (collect keep rs).entries := by
    rw [entries_eq, hnames]
    exact List.map_congr_left fun name _ => by rw [hget]
  cases r
  exact (mk.injEq ..).mpr hentries

end Routing

namespace Contribution

/-- What is routed to containers by some merged contributions is what each of them routes, taken
together. -/
lemma aggregate_eq_collect {α : Type} (field : Contribution → Routing α)
    {join : List α → List α → List α} (keep : List α → List α)
    (hempty : field empty = .empty)
    (hmerge : ∀ a b, field (a.merge b) = (field a).merge join (field b)) (cs : List Contribution)
    (hget : ∀ name, (field (aggregate cs)).get name =
      keep (cs.flatMap fun c => (field c).get name)) :
    field (aggregate cs) = .collect keep (cs.map field) := by
  have hjoined : ∀ a b, (field (a.merge b)).names =
      appendNew id (field a).names (field b).names := by
    intro a b
    rw [hmerge, Routing.names_merge]
  have hnone : (field empty).names = [] := by
    rw [hempty, Routing.names_empty]
  have hnames : (field (aggregate cs)).names =
      appendNew id [] (cs.flatMap fun c => (field c).names) :=
    field_aggregate (fun c => (field c).names) (appendNew_nil id) (appendNew_append id) hnone
      hjoined cs
  apply Routing.eq_collect
  · rw [hnames, appendNew_eq, List.flatMap_map]
    rfl
  · intro name
    rw [hget, List.flatMap_map]

/-- What some contributions come to, by the policy and without a merge. -/
def combined (cs : List Contribution) : Contribution where
  initContainers := cs.flatMap (·.initContainers)
  containers := cs.flatMap (·.containers)
  volumes := firsts (·.name) [] (cs.flatMap (·.volumes))
  volumeMounts := .collect (firsts (·.mountPath) []) (cs.map (·.volumeMounts))
  envVars := .collect id (cs.map (·.envVars))
  envFrom := .collect id (cs.map (·.envFrom))
  objects := firsts (·.key) [] (cs.flatMap (·.objects))
  serviceAccountName := cs.reverse.findSome? fun c => c.serviceAccountName.filter (!·.isEmpty)
  automountToken := cs.reverse.findSome? (·.automountToken)
  livenessProbe := cs.reverse.findSome? (·.livenessProbe)
  readinessProbe := cs.reverse.findSome? (·.readinessProbe)
  startupProbe := cs.reverse.findSome? (·.startupProbe)
  resources := cs.reverse.findSome? (·.resources)

/-- **Merging follows the policy.**  Merged one by one, contributions come to what the policy says
of all of them at once.  So no volume name, no object key and no path of a mount of one container is
there twice, even if it is twice in one of the contributions. -/
theorem aggregate_eq_combined (cs : List Contribution) :
    aggregate cs = combined cs ∧
      ((aggregate cs).volumes.map (·.name)).Nodup ∧ ((aggregate cs).objects.map (·.key)).Nodup ∧
        ∀ name, (((aggregate cs).volumeMounts.get name).map (·.mountPath)).Nodup := by
  have hvolumes : (aggregate cs).volumes = firsts (·.name) [] (cs.flatMap (·.volumes)) := by
    rw [aggregate_volumes, appendNew_eq]
    rfl
  have hobjects : (aggregate cs).objects = firsts (·.key) [] (cs.flatMap (·.objects)) := by
    rw [aggregate_objects, appendNew_eq]
    rfl
  have hpaths : ∀ name, (aggregate cs).volumeMounts.get name =
      firsts (·.mountPath) [] (cs.flatMap (·.volumeMounts.get name)) := by
    intro name
    rw [get_volumeMounts_aggregate, appendNew_eq]
    rfl
  have hmounts : (aggregate cs).volumeMounts =
      .collect (firsts (·.mountPath) []) (cs.map (·.volumeMounts)) :=
    aggregate_eq_collect (·.volumeMounts) _ rfl (fun _ _ => rfl) cs hpaths
  have henv : (aggregate cs).envVars = .collect id (cs.map (·.envVars)) :=
    aggregate_eq_collect (·.envVars) id rfl (fun _ _ => rfl) cs (get_envVars_aggregate cs)
  have hsources : (aggregate cs).envFrom = .collect id (cs.map (·.envFrom)) :=
    aggregate_eq_collect (·.envFrom) id rfl (fun _ _ => rfl) cs (get_envFrom_aggregate cs)
  refine ⟨?_, ?_, ?_, fun name => ?_⟩
  · calc aggregate cs
        = ⟨(aggregate cs).initContainers, (aggregate cs).containers, (aggregate cs).volumes,
            (aggregate cs).volumeMounts, (aggregate cs).envVars, (aggregate cs).envFrom,
            (aggregate cs).objects, (aggregate cs).serviceAccountName,
            (aggregate cs).automountToken, (aggregate cs).livenessProbe,
            (aggregate cs).readinessProbe, (aggregate cs).startupProbe,
            (aggregate cs).resources⟩ := rfl
      _ = combined cs := by
        rw [aggregate_initContainers, aggregate_containers, hvolumes, hmounts, henv, hsources,
          hobjects, aggregate_serviceAccountName, aggregate_automountToken,
          aggregate_livenessProbe, aggregate_readinessProbe, aggregate_startupProbe,
          aggregate_resources]
        rfl
  · rw [hvolumes]
    exact nodup_map_firsts _ _ _
  · rw [hobjects]
    exact nodup_map_firsts _ _ _
  · rw [hpaths]
    exact nodup_map_firsts _ _ _

end Contribution

end WorkloadTraits
