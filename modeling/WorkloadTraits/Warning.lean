import WorkloadTraits.Json.Object
import WorkloadTraits.Trait.Kind

/-!
# Warnings

Some requests cannot be honoured and do no harm when they are not: they are passed over, and a
warning says so.  A warning is a message and the names it is about.
-/

namespace WorkloadTraits

/-- A request that was passed over. -/
inductive Warning
  | kindIgnored (component container : String) (depth : Nat) (kind : TraitKind)
  | initProbesIgnored (container : String)
  | impliedOverridden (key : String)
  | volumeKept (volume : String)
  | serviceAccountKept (component existing requested : String)
  | automountKept (component : String) (existing requested : Bool)
  | containerMissing (container : String)
  | claimDropped (component workload claim : String)
deriving DecidableEq

namespace Warning

/-- A warning in words. -/
def message : Warning → String
  | kindIgnored .. => "trait not allowed at this nesting level, ignoring"
  | initProbesIgnored .. => "probes are not supported on init containers, ignoring"
  | impliedOverridden .. => "explicit annotation overrides route rewrite"
  | volumeKept .. => "volume already defined on workload, keeping existing"
  | serviceAccountKept .. => "workload already sets a service account, keeping it"
  | automountKept .. => "workload already sets automountServiceAccountToken, keeping it"
  | containerMissing .. => "container not found on workload, skipping mounts and env"
  | claimDropped .. => "volume claim templates require a StatefulSet, dropping claim"

/-- What a warning is about. -/
def subjects : Warning → List (String × Json)
  | kindIgnored component container depth kind =>
    [("component", .string component), ("container", .string container), ("depth", .int depth),
      ("trait_kind", .string kind.name)]
  | initProbesIgnored container => [("container", .string container)]
  | impliedOverridden key => [("annotation", .string key)]
  | volumeKept volume => [("volume", .string volume)]
  | serviceAccountKept component existing requested =>
    [("component", .string component), ("existing", .string existing),
      ("requested", .string requested)]
  | automountKept component existing requested =>
    [("component", .string component), ("existing", .bool existing),
      ("requested", .bool requested)]
  | containerMissing container => [("container", .string container)]
  | claimDropped component workload claim =>
    [("component", .string component), ("workload", .string workload), ("claim", .string claim)]

/-- A warning as JSON. -/
def toJson (w : Warning) : Json :=
  .ofFields (("message", .string w.message) :: w.subjects)

end Warning

end WorkloadTraits
