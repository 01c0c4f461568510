import WorkloadTraits.Builtin.PathChange

/-!
# The ingress trait

Each entry becomes an ingress with one rule for each host.  A route belongs to its own host, or to
all hosts of the entry, or to every host; its path is added to the rules of its hosts, in the order
of the routes.
-/

namespace WorkloadTraits

/-- The type of a path: the route's own, or that of the entry, or the one that goes with patterns
or without. -/
def pathType (own default : String) (regex : Bool) : Except Failure String :=
  let chosen := Text.firstNonEmpty [Text.trim own, Text.trim default]
  let keyword := Text.asciiLower chosen
  if chosen.isEmpty then .ok (if regex then "ImplementationSpecific" else "Prefix")
  else if keyword = "exact" then .ok "Exact"
  else if keyword = "prefix" then .ok "Prefix"
  else if keyword = "implementationspecific" then .ok "ImplementationSpecific"
  else .error (.invalidPathType chosen)

namespace IngressEntry

/-- The name of the ingress of the entry at an index. -/
def objectName (target : String) (index : Nat) (e : IngressEntry) : String :=
  nameOr e.name target (if index = 0 then "-ingress" else "-ingress-" ++ toString (index + 1))

/-- The hosts that a route belongs to; the empty host stands for every host. -/
def hostsOf (e : IngressEntry) (r : Route) : List String :=
  if !Text.isBlankText r.host then [Text.trim r.host]
  else if e.hosts.isEmpty then [""]
  else e.hosts

/-- The path of a route as it is written into the ingress. -/
def pathOf (site : Site) (e : IngressEntry) (regex : Bool) (r : Route) :
    Except Failure IngressPath := do
  return {
    path := some r.writtenPath
    pathType := ← pathType r.pathType e.defaultPathType regex
    service := some {
      name := Text.firstNonEmpty [Text.trim r.backend.serviceName, site.component.name]
      portNumber := some (if 0 < r.backend.servicePort then r.backend.servicePort else 80) } }

/-- The hosts with their paths, in the order in which the hosts come up first. -/
def hostPaths (site : Site) (e : IngressEntry) (regex : Bool) :
    Except Failure (Routing IngressPath) :=
  e.routes.foldlM
    (fun hosts r => do
      let path ← e.pathOf site regex r
      return (e.hostsOf r).foldl (fun hosts host => hosts.push host path) hosts)
    .empty

/-- The rule of a host. -/
def rule (host : String) (paths : List IngressPath) : IngressRule where
  host := Text.given? host
  paths := some paths

/-- A certificate of the ingress. -/
def certificate (c : Certificate) : IngressTls where
  hosts := given? c.hosts
  secretName := Text.given? c.secretName

/-- The ingress of the entry, with its annotations. -/
def object (site : Site) (index : Nat) (e : IngressEntry) (annotations : StringMap) :
    Except Failure Ingress := do
  let regex := (annotations.get? PathChange.regexKey).any fun v => Text.asciiLower v == "true"
  let hosts ← e.hostPaths site regex
  return {
    metadata := {
      name := some (e.objectName site.target index)
      ns := some (namespaceOr e.ns site)
      labels := (site.component.labels.overlay e.label).given?
      annotations := annotations.given? }
    spec := some {
      className := trimmed? e.className
      rules := some (hosts.entries.map fun (host, paths) => rule host paths)
      tls := given? (e.tls.map certificate) } }

/-- The annotations that all routes of an ingress share: those that the routes imply, with the
entry's own laid over them. -/
def sharedAnnotations (e : IngressEntry) : Except Failure StringMap :=
  (PathChange.implied e.routes).map (·.overlay e.annotations)

/-- The entry's own annotations that differ from those that its routes imply. -/
def overriding (e : IngressEntry) : List String :=
  match PathChange.implied e.routes with
  | .ok implied => PathChange.overridden implied e.annotations
  | .error _ => []

/-- Makes the ingress of the entry.  An annotation of the entry that differs from the one that its
routes imply is kept, with a warning. -/
def build (site : Site) (index : Nat) (e : IngressEntry) : Plan Ingress := do
  let annotations ← Plan.ofExcept e.sharedAnnotations
  Plan.warnings (e.overriding.map .impliedOverridden)
  Plan.ofExcept (e.object site index annotations)

end IngressEntry

namespace Ingresses

/-- The ingresses of the entries from an index on. -/
def objects (site : Site) (index : Nat) : List (Option IngressEntry) → Plan (List Companion)
  | [] => .done []
  | none :: _ => .fail (.missingIngressSpec index)
  | some e :: rest => do
    if e.routes.isEmpty then Plan.fail (.noIngressRoutes index)
    let first ← e.build site index
    return .ingress first :: (← objects site (index + 1) rest)

/-- The processor of the ingress trait. -/
def processor : Processor where
  name := "ingress"
  kind := .ingress
  process := fun c =>
    match c.data with
    | .ingress entries => do
      return some { objects := ← objects c.toSite 0 entries }
    | data => .fail (.typeMismatch "ingress" TraitKind.ingress.name data.kind.name)

end Ingresses

end WorkloadTraits
