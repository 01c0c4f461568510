import WorkloadTraits.Builtin.Field

/-!
# Changes of path

A route may have the path of a request changed before it reaches the service.  The controller
takes its orders from two annotations of the ingress, which all routes of the ingress share, and
for some orders from the written path as well: routes that would need different annotations are
refused.  The entry's own annotations win over those that the routes imply.
-/

namespace WorkloadTraits

/-- How a path is changed. -/
inductive PathChangeKind
  /-- The whole path is replaced. -/
  | replace
  /-- The front of the path is replaced. -/
  | lead
  /-- What a pattern matches is replaced. -/
  | pattern
deriving DecidableEq

namespace PathChange

/-- The key of the annotation that says what the path is replaced by. -/
def targetKey : String := "nginx.ingress.kubernetes.io/rewrite-target"

/-- The key of the annotation that says that paths are patterns. -/
def regexKey : String := "nginx.ingress.kubernetes.io/use-regex"

/-- How the path is changed. -/
def kind (c : PathChange) : Except Failure PathChangeKind :=
  let type := TraitKind.keyword c.type
  if type = "replace" then .ok .replace
  else if type = "prefix" then .ok .lead
  else if type = "regexreplace" ∨ type = "regex" then .ok .pattern
  else .error (.invalidPathChange ("unknown rewrite type '" ++ type ++ "'"))

end PathChange

namespace Route

/-- The path of a route; a route without one is for every path. -/
def givenPath (r : Route) : String :=
  Text.firstNonEmpty [Text.trim r.path, "/"]

/-- The path with a group behind it, so that what follows the path can be kept. -/
def groupedPath (path : String) : String :=
  let base := Text.dropTrailingChar '/' path
  if base.isEmpty then "/()(.*)" else base ++ "(/|$)(.*)"

/-- The path as it is written into the ingress. -/
def writtenPath (r : Route) : String :=
  match r.change with
  | none => r.givenPath
  | some change =>
    match change.kind with
    | .ok .lead => groupedPath r.givenPath
    | .ok .pattern => Text.firstNonEmpty [Text.trim change.pattern, r.givenPath]
    | _ => r.givenPath

/-- The annotations that a route implies. -/
def annotations (r : Route) : Except Failure StringMap :=
  match r.change with
  | none => .ok .empty
  | some change => do
    let replacement := Text.trim change.replacement
    match ← change.kind with
    | .replace =>
      if replacement.isEmpty then
        throw (.invalidPathChange
          ("replace rewrite on path " ++ r.givenPath ++ " requires a replacement"))
      return .ofList [(PathChange.targetKey, replacement)]
    | .lead =>
      let target := Text.dropTrailingChar '/' replacement ++ "/$2"
      return .ofList [(PathChange.targetKey, target), (PathChange.regexKey, "true")]
    | .pattern =>
      if Text.isBlankText change.pattern || replacement.isEmpty then
        throw (.invalidPathChange
          ("regexReplace rewrite on path " ++ r.givenPath ++ " requires match and replacement"))
      return .ofList [(PathChange.targetKey, replacement), (PathChange.regexKey, "true")]

end Route

namespace PathChange

/-- Adds one annotation to those implied so far; a second value for an annotation is refused. -/
def addImplied (implied : StringMap) (entry : String × String) :
    Except Failure StringMap :=
  let (key, value) := entry
  match implied.get? key with
  | some existing =>
    if existing = value then .ok implied
    else .error (.invalidPathChange ("conflicting " ++ key ++ " values " ++
      Text.quoted existing ++ " and " ++ Text.quoted value))
  | none => .ok (implied.insert key value)

/-- Adds the annotations that one more route implies. -/
def addRoute (implied : StringMap) (r : Route) : Except Failure StringMap := do
  (← r.annotations).entries.foldlM addImplied implied

/-- The annotations that some routes imply. -/
def implied (routes : List Route) : Except Failure StringMap :=
  routes.foldlM addRoute .empty

/-- The entry's own annotations that differ from the implied ones. -/
def overridden (implied own : StringMap) : List String :=
  (own.entries.filter fun (key, value) =>
    match implied.get? key with
    | some existing => existing != value
    | none => false).map Prod.fst

end PathChange

end WorkloadTraits
