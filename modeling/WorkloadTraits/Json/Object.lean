import WorkloadTraits.Json.Basic
import WorkloadTraits.SortedMap

/-!
# Reading objects

Manifests are read from objects field by field.  A field that is absent or null is not given, a
field that is given must be of its type, and a field that is not asked for is passed over.  There
is no word of explanation when a manifest cannot be read, so the readers return an `Option`.
-/

namespace WorkloadTraits.Json

/-- Whether a value is an object. -/
def isObject : Json → Bool
  | .object _ => true
  | _ => false

/-- A text. -/
def string? : Json → Option String
  | .string s => some s
  | _ => none

/-- A truth value. -/
def bool? : Json → Option Bool
  | .bool b => some b
  | _ => none

/-- An integer of 32 bits with a sign. -/
def int32? : Json → Option Int32
  | .number n => n.integer?.bind Number.word?
  | _ => none

/-- An integer of 64 bits without a sign. -/
def nat? : Json → Option Nat
  | .number (.integer (.ofNat n)) => some n
  | _ => none

/-- A list. -/
def list? {α : Type} (read : Json → Option α) : Json → Option (List α)
  | .array items => items.mapM read
  | _ => none

/-- A map from text to text. -/
def map? : Json → Option StringMap
  | .object fields => do
    return .ofList (← fields.mapM fun (name, j) => do return (name, ← j.string?))
  | _ => none

/-- A field, if it is given; nothing when it is given and cannot be read. -/
def field? {α : Type} (j : Json) (name : String) (read : Json → Option α) : Option (Option α) :=
  match j.get? name with
  | none => some none
  | some value => (read value).map some

/-- A field with a default. -/
def fieldD {α : Type} (j : Json) (name : String) (read : Json → Option α) (default : α) :
    Option α :=
  (j.field? name read).map (·.getD default)

/-- Whether a field is absent or has a given text; null is neither. -/
def agrees (j : Json) (name : String) (text : String) : Bool :=
  match j with
  | .object fields =>
    match fields.lookup name with
    | none => true
    | some (.string s) => s == text
    | some _ => false
  | _ => false

/-- Whether a value is an object that, as far as it says, is of a version and a kind. -/
def isOfKind (j : Json) (apiVersion kind : String) : Bool :=
  j.isObject && j.agrees "apiVersion" apiVersion && j.agrees "kind" kind

/-- Texts as an array. -/
def ofTexts (ss : List String) : Json := .array (ss.map .string)

/-- Values as an array. -/
def ofList {α : Type} (write : α → Json) (as : List α) : Json := .array (as.map write)

end WorkloadTraits.Json

namespace WorkloadTraits

/-- A map as an object. -/
def SortedMap.toJson (m : StringMap) : Json :=
  .object (m.entries.map fun (key, value) => (key, .string value))

end WorkloadTraits
