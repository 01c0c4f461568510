import WorkloadTraits.Trait.Kind

/-!
# Commands

The words behind the program's name are one of two commands with options.  An option starts with
two dashes; its value is the next word, or stands behind an equals sign in the same word.  No option
may be given twice, and a word that is neither an option nor a value is an error, but two dashes
alone may end the line.

`render` places the traits of a component on a workload and writes the result; `processors` lists
the built-in processors.  The options about logging may stand before the command or behind it.
-/

namespace WorkloadTraits.CommandLine

/-- How manifests are written. -/
inductive Format
  | yaml
  | json
deriving DecidableEq

/-- What to render, where the paths name files. -/
structure RenderRequest where
  component : String
  workload : String
  config : Option String := none
  format : Format := .yaml
  /-- Whether to show what was counted. -/
  printMetrics : Bool := false
deriving DecidableEq

/-- A command. -/
inductive Command
  | render (request : RenderRequest)
  /-- Lists the processors, or only those for a kind. -/
  | processors (kind : Option TraitKind)
deriving DecidableEq

/-- A kind of option, by its name without the dashes. -/
structure OptionKind where
  name : String
  takesValue : Bool

/-- The options of every command. -/
def commonOptions : List OptionKind := [⟨"log-level", true⟩, ⟨"log-json", false⟩]

/-- The options of `render`. -/
def renderOptions : List OptionKind :=
  [⟨"component", true⟩, ⟨"workload", true⟩, ⟨"config", true⟩, ⟨"output", true⟩,
    ⟨"print-metrics", false⟩] ++ commonOptions

/-- The options of `processors`. -/
def processorsOptions : List OptionKind := ⟨"kind", true⟩ :: commonOptions

/-- Options that were given, by name, with their values; an option without a value has none. -/
abbrev Given := List (String × Option String)

/-- A word behind two dashes: its name, and its value if there is an equals sign. -/
def nameAndValue (word : List Char) : String × Option String :=
  match word.dropWhile (· != '=') with
  | [] => (String.ofList word, none)
  | _ :: value => (String.ofList (word.takeWhile (· != '=')), some (String.ofList value))

/-- Whether a word can be the value of the option before it. -/
def isValue (word : String) : Bool :=
  match word.toList with
  | '-' :: _ :: _ => false
  | _ => true

/-- Puts one more option before those already taken. -/
def consOption (option : String × Option String) (taken : Option (Given × List String)) :
    Option (Given × List String) :=
  taken.map fun (given, rest) => (option :: given, rest)

/-- Takes options from the front, up to the first word that is none; two dashes alone are none. -/
def takeOptions (kinds : List OptionKind) : List String → Option (Given × List String)
  | [] => some ([], [])
  | word :: rest =>
    match word.toList with
    | ['-', '-'] => some ([], word :: rest)
    | '-' :: '-' :: chars =>
      let (name, value?) := nameAndValue chars
      match kinds.find? (·.name == name), value? with
      | none, _ | some ⟨_, false⟩, some _ => none
      | some ⟨_, false⟩, none => consOption (name, none) (takeOptions kinds rest)
      | some ⟨_, true⟩, some value => consOption (name, some value) (takeOptions kinds rest)
      | some ⟨_, true⟩, none =>
        match rest with
        | [] => none
        | value :: rest =>
          if isValue value then consOption (name, some value) (takeOptions kinds rest) else none
    | '-' :: _ :: _ => none
    | _ => some ([], word :: rest)

/-- Takes options from the front, each at most once. -/
def takeDistinct (kinds : List OptionKind) (words : List String) :
    Option (Given × List String) :=
  (takeOptions kinds words).filter fun (given, _) => decide (given.map Prod.fst).Nodup

/-- The options of a command, behind which nothing may stand but two dashes. -/
def takeAll (kinds : List OptionKind) (words : List String) : Option Given :=
  match takeDistinct kinds words with
  | some (given, []) | some (given, ["--"]) => some given
  | _ => none

/-- The value of an option, if the option was given. -/
def value? (given : Given) (name : String) : Option String :=
  (given.lookup name).join

/-- The path that is the value of an option; a path is never empty. -/
def path? (given : Given) (name : String) : Option String :=
  (value? given name).filter (!·.isEmpty)

/-- Reads the value of an option, if the option was given. -/
def readValue? {α : Type} (given : Given) (name : String) (read : String → Option α) :
    Option (Option α) :=
  match value? given name with
  | none => some none
  | some value => (read value).map some

/-- A format by its name. -/
def Format.ofName? : String → Option Format
  | "yaml" => some .yaml
  | "json" => some .json
  | _ => none

/-- The request that some options make. -/
def RenderRequest.ofGiven? (given : Given) : Option RenderRequest := do
  return {
    component := ← path? given "component"
    workload := ← path? given "workload"
    config := ← readValue? given "config" Text.given?
    format := (← readValue? given "output" Format.ofName?).getD .yaml
    printMetrics := (given.lookup "print-metrics").isSome }

/-- The files that a command reads. -/
def Command.paths : Command → List String
  | render r => r.config.toList ++ [r.component, r.workload]
  | processors _ => []

/-- The command that the words behind the program's name stand for. -/
def Command.ofWords? (words : List String) : Option Command := do
  let (_, rest) ← takeDistinct commonOptions words
  match rest with
  | "render" :: words => return .render (← RenderRequest.ofGiven? (← takeAll renderOptions words))
  | "processors" :: words =>
    let given ← takeAll processorsOptions words
    return .processors (← readValue? given "kind" TraitKind.ofSpelling?)
  | _ => none

end WorkloadTraits.CommandLine
