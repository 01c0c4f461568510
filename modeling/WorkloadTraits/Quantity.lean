import WorkloadTraits.Text.Blank

/-!
# Resource quantities

An amount of a resource is written as a number with an optional plus sign and an optional unit:
`500m`, `1Gi`, `+.5`, `1e3`.  The cluster would refuse a malformed one much later, so it is
checked here before it is placed on a workload.  A payload's amounts are sizes and limits, hence
no minus sign.  The text is kept as it was written; only the blanks around it are removed.
-/

namespace WorkloadTraits.Quantity

/-- What is wrong with a quantity. -/
inductive Fault
  | empty
  | negative
  | missingNumber
  | twoPoints
  | unknownUnit (unit : String)
deriving DecidableEq

/-- What a message says is wrong with a quantity. -/
def Fault.reason : Fault → String
  | empty => "empty quantity string"
  | negative => "quantity must not be negative"
  | missingNumber => "missing numeric value"
  | twoPoints => "more than one decimal point"
  | unknownUnit unit => "unknown suffix: " ++ unit

/-- The units: milli, decimal multiples, powers of 1024; a number may stand alone. -/
def units : List String :=
  ["Ki", "Mi", "Gi", "Ti", "Pi", "Ei", "m", "", "k", "M", "G", "T", "P", "E"]

/-- A decimal digit of ASCII. -/
def isDigit (c : Char) : Bool :=
  '0' ≤ c && c ≤ '9'

/-- A character that belongs to the number in front of the unit. -/
def isNumeral (c : Char) : Bool :=
  isDigit c || c == '.'

/-- One sign less, if the text starts with one of the two. -/
def dropSign : List Char → List Char
  | '+' :: rest => rest
  | '-' :: rest => rest
  | cs => cs

/-- A decimal exponent, written after an `e` of either case: digits behind an optional sign. -/
def isExponent : List Char → Bool
  | c :: rest =>
    (c == 'e' || c == 'E') && !(dropSign rest).isEmpty && (dropSign rest).all isDigit
  | [] => false

/-- Checks what follows the number. -/
def checkUnit (unit : List Char) : Except Fault Unit :=
  if units.any (·.toList == unit) || isExponent unit then .ok ()
  else .error (.unknownUnit (String.ofList unit))

/-- Checks the number: some digit, and at most one point. -/
def checkNumber (number : List Char) : Except Fault Unit :=
  if number = [] ∨ number = ['.'] then .error .missingNumber
  else if 1 < number.count '.' then .error .twoPoints
  else .ok ()

/-- Checks a quantity without its sign. -/
def checkUnsigned (cs : List Char) : Except Fault Unit := do
  checkNumber (cs.takeWhile isNumeral)
  checkUnit (cs.dropWhile isNumeral)

/-- Checks a quantity without blanks around it. -/
def check : List Char → Except Fault Unit
  | [] => .error .empty
  | '-' :: _ => .error .negative
  | '+' :: rest => checkUnsigned rest
  | cs => checkUnsigned cs

/-- Reads a quantity: the text without the blanks around it, or what is wrong with it. -/
def read (raw : String) : Except Fault String := do
  check (Text.trimChars raw.toList)
  return Text.trim raw

end WorkloadTraits.Quantity
