import WorkloadTraits.Manifest.Workload
import WorkloadTraits.Placement.Pod
import WorkloadTraits.Settings

/-!
# Placing a contribution on a workload

A contribution goes to the workload's pod in two parts, first to the pod itself (`Pod.receive`),
then to its containers (`Pod.equip`).  Before either part the main container is looked up, and
without it the part is not begun.  A placement that fails keeps the workload as it is by then, so
that nobody has to take on trust what a failure leaves behind.

Of the companion objects, those claims that are marked as templates belong to the workload when it
is stateful: each becomes a template of the workload, unless there is one of its name.  A volume of
the pod that has the name of such a template and names a claim would hide the claims that are made
from the template, so it is taken away.  A workload of another kind has no place for templates, and
they are dropped with a warning.  All other objects stand beside the workload.
-/

namespace WorkloadTraits

/-- The object as a claim, if it is one that is marked as a template. -/
def Companion.template? (settings : Settings) : Companion → Option Claim
  | claim c =>
    if c.metadata.annotationValue? settings.templateKey = some Settings.templateMark then some c
    else none
  | _ => none

/-- The templates of claims among some objects. -/
def claimTemplates (settings : Settings) (objects : List Companion) : List Claim :=
  objects.filterMap (·.template? settings)

/-- The objects that are no templates of claims. -/
def freeObjects (settings : Settings) (objects : List Companion) : List Companion :=
  objects.filter fun o => (o.template? settings).isNone

/-- Whether a volume would hide the claims that are made from the template of a name. -/
def Volume.hides (v : Volume) (template : String) : Bool :=
  v.name == template && v.claimName.isSome

/-- The pod without the volumes that would hide claims; an empty list is not kept. -/
def Pod.uncover (p : Pod) (template : String) : Pod :=
  { p with volumes := (p.volumes.map (·.filter (!·.hides template))).filter (!·.isEmpty) }

/-- The workload's specification with one more template; the first of a name stays. -/
def WorkloadSpec.bindClaim (s : WorkloadSpec) (c : Claim) : WorkloadSpec :=
  let name := c.metadata.name.getD ""
  let templates := s.claimTemplates.getD []
  let known := templates.any (·.metadata.name == some name)
  { s with
    template := { s.template with pod := s.template.pod.map (·.uncover name) }
    claimTemplates := some <|
      if known then templates
      else templates ++ [{ c with metadata := { c.metadata with ns := none } }] }

/-- What has become of a workload, the objects that stand beside it, and what was passed over. -/
structure Placement where
  /-- The workload at the end, or at the failure. -/
  workload : Workload
  outcome : Except Failure (List Companion)
  warnings : List Warning

namespace Workload

/-- The workload with some templates of claims; one that is not stateful takes none. -/
def bindClaims (w : Workload) (templates : List Claim) : Workload :=
  if w.isStateful then
    { w with spec := w.spec.map fun s => templates.foldl WorkloadSpec.bindClaim s }
  else w

/-- The warnings for templates of claims that have no place on the workload. -/
def claimWarnings (w : Workload) (main : String) (templates : List Claim) : List Warning :=
  if w.isStateful then []
  else templates.map fun c => .claimDropped main w.kind.name (c.metadata.name.getD "")

/-- Places a contribution on the workload, where `main` is the name of the main container. -/
def place (w : Workload) (settings : Settings) (main : String) (c : Contribution) : Placement :=
  let missing : Except Failure (List Companion) := .error (.mainContainerNotFound main)
  match w.container? main, w.pod? with
  | some _, some pod =>
    let received := w.mapPod (·.receive c)
    let passedOver := pod.receiveWarnings main c
    if (pod.receive c).hasContainer main then
      let templates := claimTemplates settings c.objects
      { workload := (received.mapPod (·.equip main c)).bindClaims templates
        outcome := .ok (freeObjects settings c.objects)
        warnings :=
          passedOver ++ (pod.receive c).equipWarnings c ++ w.claimWarnings main templates }
    else ⟨received, missing, passedOver⟩
  | _, _ => ⟨w, missing, []⟩

end Workload

end WorkloadTraits
