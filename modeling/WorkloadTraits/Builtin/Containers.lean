import WorkloadTraits.Builtin.Field

/-!
# The traits that add containers

Init entries add containers that run before the others, sidecar entries containers that run beside
them.  The traits of an entry are processed one level deeper, for the entry's container; what they
want for that container is put on it at once (`Contribution.attach`), and everything else goes up
with the entry's own level.

Below an init entry no init entries are processed, and below a sidecar neither kind.  A sidecar
with sidecars of its own is an error, however; an init entry within a nested level is ignored.
-/

namespace WorkloadTraits

/-- Whether a contribution asks for any probe. -/
def Contribution.hasProbes (c : Contribution) : Bool :=
  c.livenessProbe.isSome || c.readinessProbe.isSome || c.startupProbe.isSome

/-- The contribution without the things that the container of the level gets for itself. -/
def Contribution.withoutOwn (c : Contribution) (container : String) : Contribution :=
  { c.withoutFieldsFor container with
    resources := none
    livenessProbe := none
    readinessProbe := none
    startupProbe := none }

/-- The container with what the traits of its level want for it; a container that runs before the
others has no probes. -/
def Contribution.attach (c : Contribution) (isInit : Bool) (container : Container) : Container :=
  let equipped := (c.fieldsFor container.name).applyTo container
  let supplied := { equipped with resources := c.resources.or equipped.resources }
  if isInit then supplied
  else
    { supplied with
      livenessProbe := c.livenessProbe.or supplied.livenessProbe
      readinessProbe := c.readinessProbe.or supplied.readinessProbe
      startupProbe := c.startupProbe.or supplied.startupProbe }

/-- Variables with the values of a map, in the order of their names. -/
def literalVariables (env : StringMap) : Option (List EnvVar) :=
  given? (env.entries.map fun (name, value) => { name, value := some value })

namespace Containers

/-- Processes the traits of a container, unless they say nothing: the container with what they
want for it, and what they want besides. -/
def decorate (container : Container) (traits : Traits) (barring : List TraitKind)
    (isInit : Bool) : Plan (Container × Contribution) :=
  if traits.isEmpty then .done (container, .empty)
  else do
    let c ← Plan.dispatch ⟨traits, container.name, barring⟩
    if isInit && c.hasProbes then Plan.warning (.initProbesIgnored container.name)
    return (c.attach isInit container, c.withoutOwn container.name)

/-- The container of an init entry, before its traits. -/
def initContainer (name image : String) (e : InitEntry Traits) : Container where
  name := name
  image := some image
  command := given? e.properties.command
  env := literalVariables e.properties.env

/-- Processes the init entries from an index on, after those that came before. -/
def inits (site : Site) (index : Nat) (before : Contribution) :
    List (InitEntry Traits) → Plan Contribution
  | [] => .done before
  | e :: rest => do
    let name := nameOr e.name site.target ("-init-" ++ toString index)
    match trimmed? e.properties.image with
    | none => .fail (.missingImage "init container" name)
    | some image =>
      let (container, besides) ← decorate (initContainer name image e) e.traits [.init] true
      let merged := before.merge besides
      inits site (index + 1)
        { merged with initContainers := merged.initContainers ++ [container] } rest

/-- The name of the sidecar at an index. -/
def sidecarName (site : Site) (index : Nat) (e : SidecarEntry Traits) : String :=
  nameOr e.name site.target ("-sidecar-" ++ toString index)

/-- Checks the sidecars from an index on, before any of them is processed. -/
def checkSidecars (site : Site) (index : Nat) : List (SidecarEntry Traits) → Except Failure Unit
  | [] => .ok ()
  | e :: rest =>
    if !e.traits.sidecar.isEmpty then .error (.nestedSidecar (sidecarName site index e))
    else if Text.isBlankText e.image then
      .error (.missingImage "sidecar" (sidecarName site index e))
    else checkSidecars site (index + 1) rest

/-- The container of a sidecar, before its traits. -/
def sidecarContainer (name : String) (e : SidecarEntry Traits) : Container where
  name := name
  image := some (Text.trim e.image)
  command := given? e.command
  args := given? e.args
  env := literalVariables e.env

/-- Processes the sidecars from an index on, after those that came before. -/
def sidecars (site : Site) (index : Nat) (before : Contribution) :
    List (SidecarEntry Traits) → Plan Contribution
  | [] => .done before
  | e :: rest => do
    let name := sidecarName site index e
    let (container, besides) ←
      decorate (sidecarContainer name e) e.traits [.sidecar, .init] false
    let merged := before.merge besides
    sidecars site (index + 1) { merged with containers := merged.containers ++ [container] } rest

/-- The processor of the init trait. -/
def initProcessor : Processor where
  name := "init"
  kind := .init
  process := fun c =>
    match c.data with
    | .init entries => do return some (← inits c.toSite 0 .empty entries)
    | data => .fail (.typeMismatch "init" TraitKind.init.name data.kind.name)

/-- The processor of the sidecar trait. -/
def sidecarProcessor : Processor where
  name := "sidecar"
  kind := .sidecar
  process := fun c =>
    match c.data with
    | .sidecar entries => do
      Plan.ofExcept (checkSidecars c.toSite 0 entries)
      return some (← sidecars c.toSite 0 .empty entries)
    | data => .fail (.typeMismatch "sidecar" TraitKind.sidecar.name data.kind.name)

end Containers

end WorkloadTraits
