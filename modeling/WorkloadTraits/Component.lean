import WorkloadTraits.Settings
import WorkloadTraits.Trait.Schema
import WorkloadTraits.Trait.Written

/-!
# Components

A component has a name, which is also the name of its container in the workload, and a payload
of traits that nobody has looked into yet: a JSON value, or a text that holds one.
`Component.readTraits` decodes it; both encodings of one payload mean the same.
-/

namespace WorkloadTraits

/-- A component. -/
structure Component where
  name : String := ""
  /-- The namespace; empty for the default one. -/
  ns : String := ""
  /-- The application that the component belongs to. -/
  appId : Option String := none
  image : String := ""
  traits : Option Json := none

namespace Component

open Schema in
/-- The schema of a component. -/
def schema : Record Component where
  name := "Component"
  blank := {}
  fields := [
    requiredField "name" text fun v r => { r with name := v },
    optionalField "namespace" text fun v r => { r with ns := v },
    optionalField "appId" (optional text) fun v r => { r with appId := v },
    optionalField "image" text fun v r => { r with image := v },
    optionalField "traits" (optional anything) fun v r => { r with traits := v }]

/-- A component from a JSON value. -/
def ofJson (j : Json) : Except Failure Component :=
  (Schema.ofJson schema.decoder j).mapError fun _ => .unreadableManifest

/-- A component as JSON. -/
def toJson (c : Component) : Json :=
  .ofGiven [
    ("name", some (.string c.name)), ("namespace", some (.string c.ns)),
    ("appId", c.appId.map .string), ("image", some (.string c.image)), ("traits", c.traits)]

/-- The component that the value of a file gives; its texts need no quotes. -/
def ofFile? (j : Json) : Option Component := do
  guard j.isObject
  return {
    name := ← (← j.scalarField? "name" Json.scalarText?)
    ns := (← j.scalarField? "namespace" Json.scalarText?).getD ""
    appId := ← j.field? "appId" Json.scalarText?
    image := (← j.scalarField? "image" Json.scalarText?).getD ""
    traits := j.get? "traits" }

/-- The component with a payload. -/
def withTraits (c : Component) (t : Traits) : Component :=
  { c with traits := some t.toJson }

/-- Decodes a payload by the schema; nothing when there is none, or none but blanks. -/
def decodePayload : Option Json → Except Schema.Refusal (Option Traits)
  | none => .ok none
  | some .null => .ok none
  | some (.string s) =>
    if Text.isBlankText s then .ok none else (Schema.ofText Traits.decoder s).map some
  | some j => (Schema.ofJson Traits.decoder j).map some

/-- The traits of a component; nothing when they say nothing. -/
def readTraits (c : Component) : Except Failure (Option Traits) :=
  match decodePayload c.traits with
  | .error refusal => .error (.malformedTraits c.name refusal)
  | .ok traits? => .ok (traits?.filter (!·.isEmpty))

/-- The label that identifies a component. -/
def componentLabel : String := "kube-min-cli"

/-- The label that identifies an application. -/
def applicationLabel : String := "kube-min-cli-appId"

/-- The labels that identify the objects of a component. -/
def labels (c : Component) : StringMap :=
  match c.appId.filter (!·.isEmpty) with
  | some appId =>
    .ofList [(componentLabel, appId ++ "-" ++ c.name), (applicationLabel, appId)]
  | none => .ofList [(componentLabel, c.name)]

end Component

end WorkloadTraits
