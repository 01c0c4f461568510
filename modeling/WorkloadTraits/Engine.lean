import WorkloadTraits.Builtin.Registry
import WorkloadTraits.Placement.Basic

/-!
# Applying the traits of a component

`Engine.apply` is the whole way: the payload of a component is decoded, its levels are processed,
and what comes of them is placed on a workload.  A component without traits leaves the workload as
it is.  An application that fails keeps the workload as it is by then, and whatever was journaled
up to the failure stays in the journal.
-/

namespace WorkloadTraits

/-- Processors and settings, with which traits are applied. -/
structure Engine where
  registry : Registry := .builtin
  settings : Settings := {}

/-- What has become of a workload, the objects that stand beside it, and what happened. -/
structure Application where
  workload : Workload
  outcome : Except Failure (List Companion)
  journal : List Event

/-- The warnings of an application. -/
def Application.warnings (a : Application) : List Warning :=
  journalWarnings a.journal

namespace Engine

/-- The engine of the built-in processors, with nothing set. -/
def builtin : Engine := {}

/-- The traits of a component, which must have a name; nothing when there are none. -/
def traits (c : Component) : Except Failure (Option Traits) :=
  if Text.isBlankText c.name then .error (.invalidComponent "component name must not be empty")
  else c.readTraits

/-- The dispatcher for a component and a workload. -/
def dispatcher (e : Engine) (c : Component) (w : Workload) : Dispatcher where
  registry := e.registry
  settings := e.settings
  component := c
  workload := w

/-- Processes the traits of a component and of everything in it. -/
def contribute (e : Engine) (c : Component) (w : Workload) (t : Traits) : Run Contribution :=
  (e.dispatcher c w).dispatch { traits := t, target := c.name }

/-- Applies the traits of a component to a workload. -/
def apply (e : Engine) (c : Component) (w : Workload) : Application :=
  match traits c with
  | .error failure => ⟨w, .error failure, []⟩
  | .ok none => ⟨w, .ok [], []⟩
  | .ok (some t) =>
    let run := e.contribute c w t
    match run.outcome with
    | .error failure => ⟨w, .error failure, run.journal⟩
    | .ok contribution =>
      let placed := w.place e.settings c.name contribution
      ⟨placed.workload, placed.outcome, run.journal ++ placed.warnings.map .warned⟩

end Engine

end WorkloadTraits
