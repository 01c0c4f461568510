import WorkloadTraits.Contribution.Routing
import WorkloadTraits.Manifest.Companion
import WorkloadTraits.Manifest.Pod

/-!
# Contributions

What a processor wants of a workload is a `Contribution`: containers, volumes, values for
containers, companion objects, and a few things of which there can only be one.  Contributions of
one level are merged in the order of the processors; a merged contribution is one like any other.

`merge` keeps the first volume of a name, the first object of a key and the first mount of a path,
concatenates containers and variables, and lets the later contribution decide what there can only
be one of.
-/

namespace WorkloadTraits

/-- What is wanted of a workload. -/
structure Contribution where
  initContainers : List Container := []
  containers : List Container := []
  volumes : List Volume := []
  volumeMounts : Routing VolumeMount := .empty
  envVars : Routing EnvVar := .empty
  envFrom : Routing EnvSource := .empty
  objects : List Companion := []
  serviceAccountName : Option String := none
  automountToken : Option Bool := none
  livenessProbe : Option Probe := none
  readinessProbe : Option Probe := none
  startupProbe : Option Probe := none
  resources : Option ResourceRequirements := none
deriving DecidableEq

/-- What is wanted for one container. -/
structure ContainerFields where
  volumeMounts : List VolumeMount := []
  env : List EnvVar := []
  envFrom : List EnvSource := []
deriving DecidableEq

/-- The list with some more values; a list that is not given stays so when there are none. -/
def extendGiven {α : Type} (append : List α → List α → List α) (given : Option (List α))
    (new : List α) : Option (List α) :=
  if new.isEmpty then given else some (append (given.getD []) new)

/-- The container with the fields appended; a mount whose path is taken is left out. -/
def ContainerFields.applyTo (f : ContainerFields) (c : Container) : Container :=
  { c with
    volumeMounts := extendGiven (appendNew (·.mountPath)) c.volumeMounts f.volumeMounts
    env := extendGiven (· ++ ·) c.env f.env
    envFrom := extendGiven (· ++ ·) c.envFrom f.envFrom }

namespace Contribution

/-- The contribution that wants nothing. -/
def empty : Contribution := {}

instance : Inhabited Contribution := ⟨empty⟩

/-- Whether nothing is wanted. -/
def isEmpty (c : Contribution) : Bool := c = empty

/-- With one more mount for a container. -/
def addMount (c : Contribution) (container : String) (m : VolumeMount) : Contribution :=
  { c with volumeMounts := c.volumeMounts.push container m }

/-- With one more variable for a container. -/
def addEnv (c : Contribution) (container : String) (e : EnvVar) : Contribution :=
  { c with envVars := c.envVars.push container e }

/-- With one more source of variables for a container. -/
def addEnvFrom (c : Contribution) (container : String) (s : EnvSource) : Contribution :=
  { c with envFrom := c.envFrom.push container s }

/-- With one more object. -/
def addObject (c : Contribution) (o : Companion) : Contribution :=
  { c with objects := c.objects ++ [o] }

/-- What is wanted for a container. -/
def fieldsFor (c : Contribution) (container : String) : ContainerFields where
  volumeMounts := c.volumeMounts.get container
  env := c.envVars.get container
  envFrom := c.envFrom.get container

/-- The contribution without what is wanted for a container. -/
def withoutFieldsFor (c : Contribution) (container : String) : Contribution :=
  { c with
    volumeMounts := c.volumeMounts.erase container
    envVars := c.envVars.erase container
    envFrom := c.envFrom.erase container }

/-- The names of the containers that are added, those that run first in front. -/
def containerNames (c : Contribution) : List String :=
  (c.initContainers ++ c.containers).map (·.name)

/-- The contribution with a later one merged into it.  An account without a name asks for none. -/
def merge (c later : Contribution) : Contribution where
  initContainers := c.initContainers ++ later.initContainers
  containers := c.containers ++ later.containers
  volumes := appendNew (·.name) c.volumes later.volumes
  volumeMounts := c.volumeMounts.merge (appendNew (·.mountPath)) later.volumeMounts
  envVars := c.envVars.merge (· ++ ·) later.envVars
  envFrom := c.envFrom.merge (· ++ ·) later.envFrom
  objects := appendNew (·.key) c.objects later.objects
  serviceAccountName := (later.serviceAccountName.filter (!·.isEmpty)).or c.serviceAccountName
  automountToken := later.automountToken.or c.automountToken
  livenessProbe := later.livenessProbe.or c.livenessProbe
  readinessProbe := later.readinessProbe.or c.readinessProbe
  startupProbe := later.startupProbe.or c.startupProbe
  resources := later.resources.or c.resources

/-- All contributions of a list merged in order. -/
def aggregate (cs : List Contribution) : Contribution :=
  cs.foldl merge empty

end Contribution

end WorkloadTraits
