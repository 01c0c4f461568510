import WorkloadTraits.Text.Lowercase

/-!
# Names of containers, volumes and objects

The names that a payload gives are normalized: lower case, and without the spaces and line breaks
that come along when text is pasted.  Volume, container and port names have to be labels in the
sense of RFC 1123 besides, which `checkLabel` decides.
-/

namespace WorkloadTraits.Label

/-- The white space that a name loses wherever it stands. -/
def isPasted (c : Char) : Bool :=
  c == ' ' || c == '\n' || c == '\r' || c == '\t'

/-- A name in lower case and without pasted white space. -/
def normalize (name : String) : String :=
  String.ofList ((Text.lowerChars [] name.toList).filter fun c => !isPasted c)

/-- The characters of a label. -/
def isLabelChar (c : Char) : Bool :=
  ('a' ≤ c && c ≤ 'z') || ('0' ≤ c && c ≤ '9') || c == '-'

/-- Why a name is not a label. -/
inductive Fault
  | empty
  /-- The size is counted in UTF-8 bytes. -/
  | tooLong (size : Nat)
  | badCharacter
  | badEnd
deriving DecidableEq

/-- What a message says of a name that is not a label. -/
def Fault.message : Fault → String
  | empty => "name must not be empty"
  | tooLong size => "name must be at most 63 characters, got " ++ toString size
  | badCharacter => "name must consist of lowercase alphanumerics or '-'"
  | badEnd => "name must start and end with an alphanumeric character"

/-- What keeps a name from being a label, or nothing; the length is examined first. -/
def fault? (name : String) : Option Fault :=
  let cs := name.toList
  if cs = [] then some .empty
  else if 63 < name.utf8ByteSize then some (.tooLong name.utf8ByteSize)
  else if !cs.all isLabelChar then some .badCharacter
  else if cs.head? == some '-' || cs.getLast? == some '-' then some .badEnd
  else none

end WorkloadTraits.Label
