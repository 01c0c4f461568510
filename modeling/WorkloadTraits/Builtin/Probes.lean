import WorkloadTraits.Builtin.Field

/-!
# The probes trait

A container has at most one probe of each of three kinds, and a probe does exactly one thing: run
a command, make a request, or open a connection.
-/

namespace WorkloadTraits

/-- What a probe is for. -/
inductive ProbeKind
  | liveness
  | readiness
  | startup
deriving DecidableEq

namespace ProbeKind

/-- The name of a kind. -/
def name : ProbeKind → String
  | liveness => "liveness"
  | readiness => "readiness"
  | startup => "startup"

/-- The kind that a type stands for. -/
def read (raw : String) : Except Failure ProbeKind :=
  match [liveness, readiness, startup].find? (·.name == TraitKind.keyword raw) with
  | some k => .ok k
  | none =>
    .error (.invalidProbe ("invalid probe type: " ++ raw ++
      ". Must be one of 'liveness', 'readiness', or 'startup'"))

/-- The probe of a kind in a contribution. -/
def get? (c : Contribution) : ProbeKind → Option Probe
  | liveness => c.livenessProbe
  | readiness => c.readinessProbe
  | startup => c.startupProbe

/-- The contribution with the probe of a kind. -/
def set (c : Contribution) (p : Probe) : ProbeKind → Contribution
  | liveness => { c with livenessProbe := some p }
  | readiness => { c with readinessProbe := some p }
  | startup => { c with startupProbe := some p }

end ProbeKind

namespace ProbeEntry

/-- How many things the probe does. -/
def actionCount (e : ProbeEntry) : Nat :=
  [e.exec.isSome, e.httpGet.isSome, e.tcpSocket.isSome].count true

/-- The probe that an entry asks for. -/
def probe (e : ProbeEntry) : Except Failure Probe :=
  if e.actionCount ≠ 1 then
    .error (.invalidProbe
      "exactly one of 'exec', 'httpGet', or 'tcpSocket' must be specified for a probe")
  else .ok {
    initialDelaySeconds := positive? e.initialDelaySeconds
    periodSeconds := positive? e.periodSeconds
    timeoutSeconds := positive? e.timeoutSeconds
    failureThreshold := positive? e.failureThreshold
    successThreshold := positive? e.successThreshold
    exec := e.exec.map fun x => { command := some x.command }
    httpGet := e.httpGet.map fun h => {
      path := trimmed? h.path
      port := .number h.port
      host := trimmed? h.host
      scheme := (trimmed? h.scheme).map fun s => String.ofList (s.toList.map Char.toUpper) }
    tcpSocket := e.tcpSocket.map fun t => { port := .number t.port, host := trimmed? t.host } }

end ProbeEntry

namespace Probes

/-- Adds the probe of one more entry. -/
def addProbe (target : String) (c : Contribution) (e : ProbeEntry) :
    Except Failure Contribution := do
  let kind ← ProbeKind.read e.type
  if (kind.get? c).isSome then throw (.duplicateProbe kind.name target)
  return kind.set c (← e.probe)

/-- The contribution of probes. -/
def contribution (site : Site) (entries : List ProbeEntry) : Except Failure Contribution :=
  entries.foldlM (addProbe site.target) .empty

/-- The processor of the probes trait. -/
def processor : Processor where
  name := "probes"
  kind := .probes
  process := fun c =>
    match c.data with
    | .probes entries => .ofExcept ((contribution c.toSite entries).map some)
    | data => .fail (.typeMismatch "probes" TraitKind.probes.name data.kind.name)

end Probes

end WorkloadTraits
