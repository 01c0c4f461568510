import WorkloadTraits.Proofs.Acceptance.Levels
import WorkloadTraits.Proofs.Labels

/-!
# The levels of a payload in a row

With the built-in processors a payload has levels at three depths and no more: its own, those of its
init entries and sidecars, and those of the sidecars within its init entries.  `Dispatcher.levels`
lists them in the order in which they are come to, each level before the levels in it.  There is one
for the component's own container and one for every container that is added
(`Dispatcher.map_target_levels`).
-/

namespace WorkloadTraits

namespace Dispatcher

/-- There is one level for each container: the component's own and those that are added. -/
lemma map_target_levels (d : Dispatcher) (t : Traits) :
    ((d.levels t).map (·.target)).Perm
      (d.component.name :: Containers.names (d.site (d.top t)) t) := by
  have hinits : (t.init.zipIdx.flatMap fun e => d.initLevel (d.top t) e ::
        e.1.traits.sidecar.zipIdx.map (d.sidecarLevel (d.initLevel (d.top t) e))).map (·.target) =
      t.init.zipIdx.flatMap fun e => Containers.initName (d.site (d.top t)) e.2 e.1 ::
        e.1.traits.sidecar.zipIdx.map fun s => Containers.sidecarName
          ((d.site (d.top t)).forTarget (Containers.initName (d.site (d.top t)) e.2 e.1))
            s.2 s.1 := by
    simp only [List.map_flatMap, List.map_cons, List.map_map]
    rfl
  have hsidecars : (t.sidecar.zipIdx.map (d.sidecarLevel (d.top t))).map (·.target) =
      t.sidecar.zipIdx.map fun e => Containers.sidecarName (d.site (d.top t)) e.2 e.1 := by
    rw [List.map_map]
    rfl
  rw [levels, List.map_cons, nestedLevels, List.map_append, hinits, hsidecars, Containers.names,
    ← List.append_assoc]
  exact .cons _ (.append_right _ (List.map_append_flatMap_perm _ _ _).symm)

end Dispatcher

namespace Engine

/-- The levels of a component's traits. -/
def levels (e : Engine) (c : Component) (w : Workload) : List Level :=
  match traits c with
  | .ok (some t) => (e.dispatcher c w).levels t
  | _ => []

/-- The names of the component's own container and of the containers that its traits add. -/
def containerNames (e : Engine) (c : Component) : List String :=
  match traits c with
  | .ok (some t) => c.name :: Containers.names (e.site c) t
  | _ => [c.name]

end Engine

end WorkloadTraits
