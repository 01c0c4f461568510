import WorkloadTraits.Schema.Cause

/-!
# Failures

Everything that can go wrong between a component and its workload.  A failure inside a trait is
wrapped with the name of the processor at work, once for each level of nesting, so that the
wrappers spell the way to the place; `Failure.root` is what went wrong there.

A failure belongs to one `Category`.  In two of them the user's payload is to blame, and a
corrected payload may succeed.
-/

namespace WorkloadTraits

/-- What went wrong. -/
inductive Failure where
  | malformedTraits (component : String) (refusal : Schema.Refusal)
  | invalidComponent (reason : String)
  /-- A processor was given the data of another kind of trait. -/
  | typeMismatch (processor expected actual : String)
  | duplicateProcessor (name : String)
  /-- A failure while a processor was at work. -/
  | inTrait (processor : String) (source : Failure)
  | duplicateProbe (probe component : String)
  | invalidProbe (reason : String)
  | nestedSidecar (sidecar : String)
  | missingImage (kind name : String)
  | missingVerbs (serviceAccount : String) (rule : Nat)
  | noIngressRoutes (index : Nat)
  | missingIngressSpec (index : Nat)
  | invalidPathType (pathType : String)
  | invalidPathChange (reason : String)
  | invalidQuantity (field value reason : String)
  | unknownStorageType (type : String)
  | invalidVolumeName (name reason : String)
  | invalidEnvSource (reason : String)
  | mainContainerNotFound (name : String)
  | unsupportedWorkload (kind : String)
  | recursionLimit (maxDepth : Nat)
  | configuration (reason : String)
  /-- A manifest or a component is not of its form. -/
  | unreadableManifest
  /-- A file is not of its form. -/
  | unreadableFile
  /-- A file cannot be opened: the system's number, name and words for the reason. -/
  | unopenedFile (code : Nat) (kind message : String)
deriving DecidableEq

/-- Who has to act on a failure. -/
inductive Category
  /-- The payload cannot be decoded. -/
  | malformedInput
  /-- Processors are wired wrongly. -/
  | typeMismatch
  /-- The payload can be decoded and asks for something impossible. -/
  | domainViolation
  /-- The workload does not fit the component. -/
  | structuralInconsistency
  /-- Configuration, files, and what else lies outside one application. -/
  | environment
deriving DecidableEq

namespace Failure

/-- What went wrong, without the way to it. -/
def root : Failure → Failure
  | inTrait _ source => source.root
  | failure => failure

/-- The processors on the way, the outermost first. -/
def path : Failure → List String
  | inTrait processor source => processor :: source.path
  | _ => []

/-- The category of a failure; the way to it does not matter. -/
def category : Failure → Category
  | inTrait _ source => source.category
  | malformedTraits .. | invalidComponent .. => .malformedInput
  | typeMismatch .. => .typeMismatch
  | duplicateProbe .. | invalidProbe .. | nestedSidecar .. | missingImage .. | missingVerbs ..
  | noIngressRoutes .. | missingIngressSpec .. | invalidPathType .. | invalidPathChange ..
  | invalidQuantity .. | unknownStorageType .. | invalidVolumeName .. | invalidEnvSource .. =>
    .domainViolation
  | mainContainerNotFound .. | unsupportedWorkload .. | recursionLimit .. =>
    .structuralInconsistency
  | duplicateProcessor .. | configuration .. | unreadableManifest | unreadableFile
  | unopenedFile .. => .environment

/-- Whether a corrected payload may succeed. -/
def isUserError (failure : Failure) : Bool :=
  failure.category == .malformedInput || failure.category == .domainViolation

/-- The failure wrapped with the processors of a way, the innermost first. -/
def wrap (failure : Failure) (processors : List String) : Failure :=
  processors.foldl (fun f p => inTrait p f) failure

theorem root_wrap (failure : Failure) (processors : List String) :
    (failure.wrap processors).root = failure.root := by
  induction processors generalizing failure with
  | nil => rfl
  | cons p rest ih => exact ih (inTrait p failure)

theorem path_wrap (failure : Failure) (processors : List String) :
    (failure.wrap processors).path = processors.reverse ++ failure.path := by
  induction processors generalizing failure with
  | nil => rfl
  | cons p rest ih =>
    rw [show failure.wrap (p :: rest) = (inTrait p failure).wrap rest from rfl, ih]
    simp [path]

theorem category_root (failure : Failure) : failure.root.category = failure.category := by
  induction failure with
  | inTrait _ _ ih => exact ih
  | _ => rfl

theorem isUserError_root (failure : Failure) :
    failure.root.isUserError = failure.isUserError := by
  rw [isUserError, isUserError, category_root]

/-- The failure in words, up to the place of a text that they may end with. -/
def message : Failure → String
  | malformedTraits component refusal =>
    "failed to parse traits for component " ++ component ++ ": " ++ refusal.cause.message
  | invalidComponent reason => "invalid component: " ++ reason
  | typeMismatch processor expected actual =>
    "trait processor '" ++ processor ++ "' expected " ++ expected ++ " data, got " ++ actual
  | duplicateProcessor name => "trait processor already registered: " ++ name
  | inTrait processor source => "failed to process trait '" ++ processor ++ "': " ++ source.message
  | duplicateProbe probe component =>
    probe ++ " probe already defined for component " ++ component
  | invalidProbe reason => "invalid probe: " ++ reason
  | nestedSidecar sidecar => "sidecar '" ++ sidecar ++ "' must not contain nested sidecars"
  | missingImage kind name => kind ++ " '" ++ name ++ "' is missing an image"
  | missingVerbs serviceAccount rule =>
    "rbac trait " ++ serviceAccount ++ ": rule " ++ toString rule ++ " must specify verbs"
  | noIngressRoutes index =>
    "ingress trait[" ++ toString index ++ "]: at least one route is required"
  | missingIngressSpec index => "ingress trait[" ++ toString index ++ "]: ingress spec is nil"
  | invalidPathType pathType => "invalid ingress path type: " ++ pathType
  | invalidPathChange reason => "invalid ingress rewrite: " ++ reason
  | invalidQuantity field value reason =>
    "invalid " ++ field ++ " quantity " ++ Text.quoted value ++ ": " ++ reason
  | unknownStorageType type => "unknown storage type: " ++ type
  | invalidVolumeName name reason =>
    "invalid volume name " ++ Text.quoted name ++ ": " ++ reason
  | invalidEnvSource reason => "invalid env source: " ++ reason
  | mainContainerNotFound name => "main container '" ++ name ++ "' not found in workload"
  | unsupportedWorkload kind => "unsupported workload kind: " ++ kind
  | recursionLimit maxDepth => "trait nesting exceeds maximum depth of " ++ toString maxDepth
  | configuration reason => "Configuration error: " ++ reason
  | unreadableManifest => "JSON error"
  | unreadableFile => "YAML error"
  | unopenedFile code _ message =>
    "IO error: " ++ message ++ " (os error " ++ toString code ++ ")"

/-- The failure as it is shown in a message: in words, with the place when a text was refused. -/
def display (failure : Failure) : String :=
  match failure.root with
  | malformedTraits _ refusal => failure.message ++ refusal.position.text
  | _ => failure.message

/-- The name of the failure, as it is shown when the program ends with it. -/
def title : Failure → String
  | malformedTraits .. => "MalformedTraits"
  | invalidComponent .. => "InvalidComponent"
  | typeMismatch .. => "TraitTypeMismatch"
  | duplicateProcessor .. => "DuplicateProcessor"
  | inTrait .. => "Trait"
  | duplicateProbe .. => "DuplicateProbe"
  | invalidProbe .. => "InvalidProbe"
  | nestedSidecar .. => "NestedSidecar"
  | missingImage .. => "MissingImage"
  | missingVerbs .. => "MissingVerbs"
  | noIngressRoutes .. => "NoIngressRoutes"
  | missingIngressSpec .. => "MissingIngressSpec"
  | invalidPathType .. => "InvalidPathType"
  | invalidPathChange .. => "InvalidRewrite"
  | invalidQuantity .. => "InvalidQuantity"
  | unknownStorageType .. => "UnknownStorageType"
  | invalidVolumeName .. => "InvalidVolumeName"
  | invalidEnvSource .. => "InvalidEnvSource"
  | mainContainerNotFound .. => "MainContainerNotFound"
  | unsupportedWorkload .. => "UnsupportedWorkload"
  | recursionLimit .. => "RecursionLimit"
  | configuration .. => "Configuration"
  | unreadableManifest => "Json"
  | unreadableFile => "Yaml"
  | unopenedFile .. => "Io"

/-- A name with its parts in braces. -/
def labelled (title : String) (parts : List (String × String)) : String :=
  title ++ " \x7b " ++ ", ".intercalate (parts.map fun (name, text) => name ++ ": " ++ text) ++
    " \x7d"

/-- The failure in full, as it is shown when the program ends with it. -/
def detail : Failure → String
  | f@(malformedTraits component ⟨cause, position⟩) =>
    labelled f.title [
      ("component", Text.quoted component),
      ("source", "Error(" ++ Text.quoted cause.message ++ ", line: " ++ toString position.line ++
        ", column: " ++ toString position.column ++ ")")]
  | f@(typeMismatch processor expected actual) =>
    labelled f.title [
      ("processor", Text.quoted processor), ("expected", Text.quoted expected),
      ("actual", Text.quoted actual)]
  | f@(duplicateProcessor name) => labelled f.title [("name", Text.quoted name)]
  | f@(inTrait processor source) =>
    labelled f.title [("trait_name", Text.quoted processor), ("source", source.detail)]
  | f@(duplicateProbe probe component) =>
    labelled f.title [("probe_type", Text.quoted probe), ("component", Text.quoted component)]
  | f@(nestedSidecar sidecar) => labelled f.title [("sidecar", Text.quoted sidecar)]
  | f@(missingImage kind name) =>
    labelled f.title [("kind", Text.quoted kind), ("name", Text.quoted name)]
  | f@(missingVerbs serviceAccount rule) =>
    labelled f.title [
      ("service_account", Text.quoted serviceAccount), ("rule", toString rule)]
  | f@(noIngressRoutes index) => labelled f.title [("index", toString index)]
  | f@(missingIngressSpec index) => labelled f.title [("index", toString index)]
  | f@(invalidQuantity field value reason) =>
    labelled f.title [
      ("field", Text.quoted field), ("value", Text.quoted value), ("reason", Text.quoted reason)]
  | f@(invalidVolumeName name reason) =>
    labelled f.title [("name", Text.quoted name), ("reason", Text.quoted reason)]
  | f@(mainContainerNotFound name) => labelled f.title [("name", Text.quoted name)]
  | f@(recursionLimit maxDepth) => labelled f.title [("max_depth", toString maxDepth)]
  | f@(invalidComponent text) | f@(invalidProbe text) | f@(invalidPathType text)
  | f@(invalidPathChange text) | f@(unknownStorageType text) | f@(invalidEnvSource text)
  | f@(unsupportedWorkload text) | f@(configuration text) =>
    f.title ++ "(" ++ Text.quoted text ++ ")"
  | f@unreadableManifest | f@unreadableFile => f.title
  | f@(unopenedFile code kind message) =>
    f.title ++ "(" ++ labelled "Os" [
      ("code", toString code), ("kind", kind), ("message", Text.quoted message)] ++ ")"

end Failure

/-- The name of a category. -/
def Category.title : Category → String
  | malformedInput => "MalformedInput"
  | typeMismatch => "TypeMismatch"
  | domainViolation => "DomainViolation"
  | structuralInconsistency => "StructuralInconsistency"
  | environment => "Environment"

end WorkloadTraits
