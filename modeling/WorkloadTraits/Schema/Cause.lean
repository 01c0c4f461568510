import WorkloadTraits.Json.Reading
import WorkloadTraits.Text.Quoted

/-!
# Why a payload does not fit its schema

A payload is decoded by a schema of records, lists, maps and scalars.  The first thing that does
not fit is the cause of the failure; `Cause.message` words it.  A cause `unreadable` means that
the text itself is at fault.  A `Misfit` is a cause with the offset up to which the payload had been
read by then, a `Refusal` one with the line and column of a text.
-/

namespace WorkloadTraits.Schema

/-- What stands where something else was expected. -/
inductive Found
  | null
  | bool (value : Bool)
  | number (value : Json.Number)
  | string (content : String)
  | sequence
  | map
deriving DecidableEq

/-- What the schema asks for. -/
inductive Expected
  | string
  | boolean
  | sequence
  | map
  | int32
  | natural
  | record (name : String)
deriving DecidableEq

/-- The first thing in a payload that does not fit. -/
inductive Cause
  | wrongType (found : Found) (expected : Expected)
  | outOfRange (value : Int) (expected : Expected)
  | missingField (name : String)
  | duplicateField (name : String)
  /-- A record written as a list of too few items. -/
  | tooFew (length : Nat) (record : String) (size : Nat)
  /-- A record written as a list of too many items. -/
  | tooMany (length : Nat)
  | unreadable (fault : Json.Fault)
deriving DecidableEq

/-- A cause, and the number of bytes that had been read when it was found. -/
structure Misfit where
  cause : Cause
  offset : Nat
deriving DecidableEq

/-- A defect of the text as a misfit. -/
def Misfit.ofDefect (d : Json.Defect) : Misfit := ⟨.unreadable d.fault, d.offset⟩

/-- A cause, and its place in the payload. -/
structure Refusal where
  cause : Cause
  position : Json.Position := {}
deriving DecidableEq

/-- A value in a message. -/
def Found.text : Found → String
  | null => "null"
  | bool b => "boolean \x60" ++ (if b then "true" else "false") ++ "\x60"
  | number n@(.integer _) => "integer \x60" ++ n.text ++ "\x60"
  | number n@(.double ..) => "floating point \x60" ++ n.text ++ "\x60"
  | string s => "string " ++ Text.quoted s
  | sequence => "sequence"
  | map => "map"

/-- An expectation in a message. -/
def Expected.text : Expected → String
  | string => "a string"
  | boolean => "a boolean"
  | sequence => "a sequence"
  | map => "a map"
  | int32 => "i32"
  | natural => "usize"
  | record name => "struct " ++ name

/-- The words for a cause. -/
def Cause.message : Cause → String
  | wrongType found expected =>
    "invalid type: " ++ found.text ++ ", expected " ++ expected.text
  | outOfRange n expected =>
    "invalid value: " ++ (Found.number (.integer n)).text ++ ", expected " ++ expected.text
  | missingField name => "missing field \x60" ++ name ++ "\x60"
  | duplicateField name => "duplicate field \x60" ++ name ++ "\x60"
  | tooFew length record size =>
    "invalid length " ++ toString length ++ ", expected " ++ (Expected.record record).text ++
      " with " ++ toString size ++ (if size = 1 then " element" else " elements")
  | tooMany length => "invalid length " ++ toString length ++ ", expected fewer elements in array"
  | unreadable fault => fault.message

/-- The cause as it is for a payload that arrived as a text: where a list has too many items,
something stands in the place of its closing bracket. -/
def Cause.inText : Cause → Cause
  | tooMany _ => unreadable .trailingCharacters
  | cause => cause

end WorkloadTraits.Schema
