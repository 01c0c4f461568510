import WorkloadTraits.Component
import WorkloadTraits.Contribution.Basic
import WorkloadTraits.Manifest.Workload
import WorkloadTraits.Warning

/-!
# Plans

A processor is given the data of one kind of trait for one container and returns a `Plan`: it ends
with a contribution or fails, it may warn on the way, and it may ask for the traits of another
container to be processed first and go on with what comes of that.  A plan says what a processor
does and leaves to others how nested traits are processed, so that one and the same processor
can be run at any depth, and any processor at all can be written down.

`Plan.run` follows a plan, given a way to answer its questions.  It keeps a journal of what
happened, in order, also when the plan fails in the end.
-/

namespace WorkloadTraits

/-- The container that traits are for, and what is the same for all traits of a component. -/
structure Site where
  settings : Settings
  component : Component
  /-- The name of the container. -/
  target : String

namespace Site

/-- Whether the container is the component's own. -/
def isMain (s : Site) : Bool := s.target == s.component.name

/-- The namespace of the component's objects. -/
def ns (s : Site) : String :=
  if s.component.ns.isEmpty then s.settings.defaultNamespace else s.component.ns

end Site

/-- What a processor is given. -/
structure Context extends Site where
  workload : Workload
  data : TraitData
  /-- How deep the traits are nested; those of the component itself are at depth zero. -/
  depth : Nat
  /-- The kinds that are barred at this level. -/
  barred : KindSet

/-- The context on one line. -/
def Context.text (c : Context) : String :=
  Failure.labelled "TraitContext" [
    ("component", Text.quoted c.component.name), ("workload", Text.quoted c.workload.kind.name),
    ("data", c.data.kind.title), ("target", Text.quoted c.target), ("depth", toString c.depth),
    ("exclusions", c.barred.text)]

/-- Traits that are to be processed for another container, one level deeper. -/
structure Nested where
  traits : Traits
  target : String
  /-- The kinds that are barred there besides those that are barred here. -/
  barring : List TraitKind

/-- What happened. -/
inductive Event
  | warned (warning : Warning)
  | called (processor : String) (kind : TraitKind) (context : Context)
  | finished (processor : String) (ok : Bool)

/-- What became of a run, and everything that happened in it. -/
structure Run (α : Type) where
  journal : List Event
  outcome : Except Failure α

/-- What a processor does. -/
inductive Plan (α : Type) where
  | done (value : α)
  | fail (failure : Failure)
  | warn (warning : Warning) (next : Plan α)
  /-- Has nested traits processed, and goes on with their contribution or failure. -/
  | nested (request : Nested) (next : Except Failure Contribution → Plan α)

namespace Plan

variable {α β : Type}

/-- One plan after another. -/
def andThen (f : α → Plan β) : Plan α → Plan β
  | done a => f a
  | fail failure => fail failure
  | warn w next => warn w (next.andThen f)
  | nested request next => nested request fun outcome => (next outcome).andThen f

instance : Monad Plan where
  pure := done
  bind p f := p.andThen f

/-- The plan of an outcome that is known already. -/
def ofExcept : Except Failure α → Plan α
  | .ok a => done a
  | .error failure => fail failure

/-- Has nested traits processed, and fails when they do. -/
def dispatch (request : Nested) : Plan Contribution :=
  nested request ofExcept

/-- Warns. -/
def warning (w : Warning) : Plan Unit :=
  warn w (done ())

/-- Warns several times. -/
def warnings : List Warning → Plan Unit
  | [] => done ()
  | w :: rest => warn w (warnings rest)

/-- Follows a plan. -/
def run (answer : Nested → Run Contribution) : Plan α → Run α
  | done a => ⟨[], .ok a⟩
  | fail failure => ⟨[], .error failure⟩
  | warn w next =>
    let rest := next.run answer
    ⟨.warned w :: rest.journal, rest.outcome⟩
  | nested request next =>
    let inner := answer request
    let rest := (next inner.outcome).run answer
    ⟨inner.journal ++ rest.journal, rest.outcome⟩

end Plan

end WorkloadTraits
