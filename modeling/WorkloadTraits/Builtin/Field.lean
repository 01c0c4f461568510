import WorkloadTraits.Dispatch.Registry
import WorkloadTraits.Label
import WorkloadTraits.Quantity

/-!
# Fields of a payload

How the fields of an entry are taken where a trait is processed: a text without the blanks around
it, if anything is left; a number, if it is positive; a name, or one made for the purpose.
-/

namespace WorkloadTraits

/-- A text without blanks around it, if anything is left. -/
def trimmed? (s : String) : Option String :=
  Text.given? (Text.trim s)

/-- A number that is positive. -/
def positive? (n : Int32) : Option Int32 :=
  if 0 < n then some n else none

/-- A list, or nothing when it is empty. -/
def given? {α : Type} (as : List α) : Option (List α) :=
  if as.isEmpty then none else some as

/-- A name that was given, normalized, or one made of the container's name. -/
def nameOr (name target ending : String) : String :=
  if Text.isBlankText name then Label.normalize target ++ ending else Label.normalize name

/-- The namespace that an entry names, or that of the component. -/
def namespaceOr (name : String) (site : Site) : String :=
  Text.firstNonEmpty [Text.trim name, site.ns]

/-- Reads an amount of a resource; `field` is where it stands. -/
def readQuantity (field raw : String) : Except Failure String :=
  (Quantity.read raw).mapError fun fault => .invalidQuantity field raw fault.reason

end WorkloadTraits
