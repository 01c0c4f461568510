import WorkloadTraits.Json.Object

/-!
# Scalars of a file

In a file that a person writes, a text need not stand between quotes: where a text is asked for, a
number, a truth value or a null stands for the word itself.  The reverse does not hold, a quoted
number is no number; and a null is a value like any other, not an absent field.
-/

namespace WorkloadTraits.Json

/-- A text, with quotes or without. -/
def scalarText? : Json → Option String
  | .string s => some s
  | .null => some "null"
  | .bool true => some "true"
  | .bool false => some "false"
  | .number n => some n.text
  | _ => none

/-- A field, if it is there; nothing when it is there and cannot be read. -/
def scalarField? {α : Type} (j : Json) (name : String) (read : Json → Option α) :
    Option (Option α) :=
  match j with
  | .object fields =>
    match fields.lookup name with
    | some value => (read value).map some
    | none => some none
  | _ => none

end WorkloadTraits.Json
