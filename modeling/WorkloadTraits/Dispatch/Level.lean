import WorkloadTraits.Dispatch.Registry

/-!
# Processing the traits of a level

A level is a payload with the container that it is for.  `Dispatcher.dispatch` runs every
processor of the registry whose kind the payload says something about, in order, and merges what
they contribute.  A kind that is barred is passed over with a warning.  The first failure ends the
level, wrapped with the name of the processor that failed.

A processor may ask for the traits of another container, one level deeper.  There the barred kinds
are at least those that are barred above, and below the greatest depth no level is processed at
all.  The recursion is on the room that is left below, so it ends for every set of processors,
also for one that asks for its own kind again.
-/

namespace WorkloadTraits

/-- What is the same for all levels of one application. -/
structure Dispatcher where
  registry : Registry
  settings : Settings
  component : Component
  workload : Workload

/-- A payload with the container that it is for. -/
structure Level where
  traits : Traits
  target : String
  /-- The kinds that are barred. -/
  barred : KindSet := .empty
  depth : Nat := 0

namespace Dispatcher

/-- What a processor of a level is given. -/
def context (d : Dispatcher) (l : Level) (data : TraitData) : Context where
  settings := d.settings
  component := d.component
  target := l.target
  workload := d.workload
  data := data
  depth := l.depth
  barred := l.barred

/-- Runs processors one after the other, up to the first that fails, and collects what they
contribute. -/
def runProcessors (d : Dispatcher) (answer : Nested → Run Contribution) (l : Level) :
    List Processor → Run (List Contribution)
  | [] => ⟨[], .ok []⟩
  | p :: rest =>
    match l.traits.data? p.kind with
    | none => d.runProcessors answer l rest
    | some data =>
      if l.barred.contains p.kind then
        let others := d.runProcessors answer l rest
        ⟨.warned (.kindIgnored d.component.name l.target l.depth p.kind) :: others.journal,
          others.outcome⟩
      else
        let context := d.context l data
        let own := (p.process context).run answer
        let call := Event.called p.name p.kind context
        match own.outcome with
        | .error failure =>
          ⟨call :: own.journal ++ [.finished p.name false], .error (.inTrait p.name failure)⟩
        | .ok contribution? =>
          let others := d.runProcessors answer l rest
          ⟨call :: own.journal ++ .finished p.name true :: others.journal,
            others.outcome.map (contribution?.toList ++ ·)⟩

/-- Processes a level, given a way to process the levels below it. -/
def processLevel (d : Dispatcher) (answer : Nested → Run Contribution) (l : Level) :
    Run Contribution :=
  let contributions := d.runProcessors answer l d.registry.processors
  ⟨contributions.journal, contributions.outcome.map Contribution.aggregate⟩

/-- The level of a request that is made at a level. -/
def below (l : Level) (request : Nested) : Level where
  traits := request.traits
  target := request.target
  barred := l.barred.insertAll request.barring
  depth := l.depth + 1

/-- Processes a level, with room for so many levels below it. -/
def dispatchWithin (d : Dispatcher) : Nat → Level → Run Contribution
  | 0, l =>
    d.processLevel (fun _ => ⟨[], .error (.recursionLimit d.settings.maxDepth)⟩) l
  | room + 1, l => d.processLevel (fun request => d.dispatchWithin room (below l request)) l

/-- Processes a level and all levels below it. -/
def dispatch (d : Dispatcher) (l : Level) : Run Contribution :=
  d.dispatchWithin (d.settings.maxDepth - l.depth) l

end Dispatcher

/-- The warnings of a journal. -/
def journalWarnings (journal : List Event) : List Warning :=
  journal.filterMap fun
    | .warned w => some w
    | _ => none

end WorkloadTraits
