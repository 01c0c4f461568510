import WorkloadTraits.Contribution.Basic
import WorkloadTraits.Warning

/-!
# Placing a contribution on a pod

The pod keeps what it has.  Containers are appended, a volume is added unless the pod has one of
its name, and an account or a token switch is set only where the pod says nothing.  Values for a
container go to the first container of that name, where those that run beside each other come
before those that run first; containers that the contribution itself adds are found as well.

The main container is the one that the component is named after.  What there can only be one of
goes to it: amounts of resources are laid over the ones it has, a probe takes the place of its
probe.

First the pod takes what is its own (`Pod.receive`), then its containers are equipped
(`Pod.equip`); of each part there is a list of what was passed over, which looks at the pod as it
was before that part.
-/

namespace WorkloadTraits

/-- The values that `appendNew` leaves out, in order. -/
def repeated {α κ : Type} [DecidableEq κ] (key : α → κ) (kept : List α) : List α → List α
  | [] => []
  | a :: rest =>
    if kept.any (key · == key a) then a :: repeated key kept rest
    else repeated key (kept ++ [a]) rest

/-- Changes the first value with a property. -/
def updateFirst {α : Type} (p : α → Bool) (f : α → α) : List α → List α
  | [] => []
  | a :: rest => if p a then f a :: rest else a :: updateFirst p f rest

/-- A map of amounts with the amounts of another laid over it; a map that is not given says
nothing. -/
def overlayGiven (base extra : Option StringMap) : Option StringMap :=
  match extra with
  | none => base
  | some m => some ((base.getD .empty).overlay m)

/-- The resources with the requested amounts laid over them; claims stay as they are. -/
def ResourceRequirements.overlay (base requested : ResourceRequirements) :
    ResourceRequirements :=
  { base with
    limits := overlayGiven base.limits requested.limits
    requests := overlayGiven base.requests requested.requests }

/-- The container with what there can only be one of. -/
def Container.equip (r : Container) (c : Contribution) : Container :=
  { r with
    resources :=
      match c.resources with
      | none => r.resources
      | some requested => some ((r.resources.getD {}).overlay requested)
    livenessProbe := c.livenessProbe.or r.livenessProbe
    readinessProbe := c.readinessProbe.or r.readinessProbe
    startupProbe := c.startupProbe.or r.startupProbe }

/-- The names of the containers that a contribution has values for, each once. -/
def Contribution.routedNames (c : Contribution) : List String :=
  appendNew id c.volumeMounts.names (c.envVars.names ++ c.envFrom.names)

namespace Pod

/-- Whether the pod has a container of a name. -/
def hasContainer (p : Pod) (name : String) : Bool :=
  (p.containers ++ p.inits).any (·.name == name)

/-- The pod with the first container of a name changed. -/
def updateContainer (p : Pod) (name : String) (f : Container → Container) : Pod :=
  if p.containers.any (·.name == name) then
    { p with containers := updateFirst (·.name == name) f p.containers }
  else
    { p with initContainers := p.initContainers.map (updateFirst (·.name == name) f) }

/-- The pod with the containers and volumes of a contribution. -/
def extend (p : Pod) (c : Contribution) : Pod :=
  { p with
    containers := p.containers ++ c.containers
    initContainers := extendGiven (· ++ ·) p.initContainers c.initContainers
    volumes := extendGiven (appendNew (·.name)) p.volumes c.volumes }

/-- The pod with the account of a contribution, unless it has one. -/
def bindAccount (p : Pod) (c : Contribution) : Pod :=
  { p with
    serviceAccountName := (p.serviceAccountName.filter (!·.isEmpty)).or
      (c.serviceAccountName.or p.serviceAccountName)
    automountToken := p.automountToken.or c.automountToken }

/-- The pod with the values that a contribution has for containers. -/
def route (p : Pod) (c : Contribution) : Pod :=
  c.routedNames.foldl (fun p name => p.updateContainer name (c.fieldsFor name).applyTo) p

/-- The pod with what a contribution has for the pod itself. -/
def receive (p : Pod) (c : Contribution) : Pod :=
  (p.extend c).bindAccount c

/-- The pod with what a contribution has for its containers, where `main` is the name of the main
container. -/
def equip (p : Pod) (main : String) (c : Contribution) : Pod :=
  (p.updateContainer main (·.equip c)).route c

/-! ## What is passed over -/

/-- The warning for an account other than the one that the pod has. -/
def accountWarnings (p : Pod) (main : String) (c : Contribution) : List Warning :=
  match p.serviceAccountName.filter (!·.isEmpty), c.serviceAccountName with
  | some existing, some requested =>
    if existing = requested then [] else [.serviceAccountKept main existing requested]
  | _, _ => []

/-- The warning for a token switch other than the one that the pod has. -/
def automountWarnings (p : Pod) (main : String) (c : Contribution) : List Warning :=
  match p.automountToken, c.automountToken with
  | some existing, some requested =>
    if existing = requested then [] else [.automountKept main existing requested]
  | _, _ => []

/-- The warnings for what the pod does not take for itself. -/
def receiveWarnings (p : Pod) (main : String) (c : Contribution) : List Warning :=
  (repeated (·.name) p.volumeList c.volumes).map (.volumeKept ·.name) ++
    p.accountWarnings main c ++ p.automountWarnings main c

/-- The warnings for values whose container is not there. -/
def equipWarnings (p : Pod) (c : Contribution) : List Warning :=
  (c.routedNames.filter (!p.hasContainer ·)).map .containerMissing

end Pod

end WorkloadTraits
