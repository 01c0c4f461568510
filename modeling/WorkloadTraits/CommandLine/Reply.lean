import WorkloadTraits.CommandLine.Command
import WorkloadTraits.CommandLine.Files
import WorkloadTraits.Metrics
import WorkloadTraits.Yaml.Printer

/-!
# Replies to commands

What the program writes and the code it ends with, as a function of its words and of the files that
it is pointed to (`Files`).  Code 0 says that all went well, 1 that the command failed, 2 that the
words are no command.  Files hold JSON values.

The settings are read first, then the component, then the workload; the first that cannot be read
decides the failure.
-/

namespace WorkloadTraits.CommandLine

/-- What the program writes, and the code it ends with. -/
structure Reply where
  code : Nat
  output : String := ""
  /-- The line that says why the command failed. -/
  failure : Option String := none
  /-- Lines for whoever watches, besides. -/
  notes : List String := []

/-- The reply to words that are no command. -/
def Reply.misuse : Reply where
  code := 2
  notes := [
    "usage: render --component PATH --workload PATH [--config PATH] [--output yaml|json]",
    "       processors [--kind KIND]"]

/-- The reply to a command that failed. -/
def Reply.ofFailure (f : Failure) (notes : List String) : Reply where
  code := 1
  failure := some ("Error: " ++ f.detail)
  notes := notes

/-! ## Rendering -/

/-- The value of a file that the user named. -/
def readManifest (files : Files) (path : String) : Except Failure Json :=
  match files path with
  | .ok text =>
    match Yaml.parse? text with
    | some j => .ok j
    | none => .error .unreadableFile
  | .error fault =>
    .error (.configuration ("failed to read " ++ path ++ ": " ++ fault.message ++
      " (os error " ++ toString fault.code ++ ")"))

/-- The settings of a file, or the default ones when no file is named. -/
def readSettings (files : Files) : Option String → Except Failure Settings
  | none => .ok {}
  | some path =>
    match files path with
    | .ok text => Settings.ofFile text
    | .error fault => .error (.unopenedFile fault.code fault.kind fault.message)

/-- The component of a file. -/
def readComponent (files : Files) (path : String) : Except Failure Component := do
  match Component.ofFile? (← readManifest files path) with
  | some c => return c
  | none => throw .unreadableFile

/-- Manifests as one text. -/
def Format.write : Format → List Json → String
  | json, manifests => (Json.array manifests).pretty ++ "\n"
  | yaml, manifests => String.join (manifests.map Yaml.document)

/-- A warning as a line. -/
def warningLine (w : Warning) : String :=
  "warning: " ++ w.toJson.compact

/-- Places the traits of a component on a workload and writes what comes of it. -/
def render (files : Files) (r : RenderRequest) : Reply :=
  let inputs : Except Failure (Settings × Component × Workload) := do
    let settings ← readSettings files r.config
    let component ← readComponent files r.component
    let workload ← Workload.ofJson (← readManifest files r.workload)
    return (settings, component, workload)
  match inputs with
  | .error f => .ofFailure f []
  | .ok (settings, component, workload) =>
    let engine : Engine := { settings }
    let a := engine.apply component workload
    let warnings := a.warnings.map warningLine
    match a.outcome with
    | .error f => .ofFailure f warnings
    | .ok objects =>
      { code := 0
        output := r.format.write (a.workload.toJson :: objects.map Companion.toJson)
        notes := warnings ++ if r.printMetrics then (({} : Metrics).record a).lines else [] }

/-! ## Listing processors -/

/-- A position, in two places at least. -/
def positionText (n : Nat) : String :=
  if n < 10 then " " ++ toString n else toString n

/-- The processors from a position on, one on a line, or only those for a kind. -/
def processorLines (kind : Option TraitKind) (position : Nat) : List Processor → List String
  | [] => []
  | p :: rest =>
    let others := processorLines kind (position + 1) rest
    if kind.all (· == p.kind) then (positionText position ++ ". " ++ p.name) :: others else others

/-! ## All commands -/

/-- The reply to a command. -/
def Command.reply (files : Files) : Command → Reply
  | render request => CommandLine.render files request
  | processors kind =>
    { code := 0
      output := String.join ((processorLines kind 1 builtinProcessors).map (· ++ "\n")) }

/-- The reply to the words behind the program's name. -/
def reply (files : Files) (words : List String) : Reply :=
  match Command.ofWords? words with
  | some command => command.reply files
  | none => .misuse

end WorkloadTraits.CommandLine
