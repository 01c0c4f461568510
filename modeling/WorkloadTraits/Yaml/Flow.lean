import WorkloadTraits.Json.Reading
import WorkloadTraits.Yaml.Character

/-!
# JSON in a YAML file

A file holds a JSON document as `Json.compact` writes it, but it is read by the rules of YAML, of
which JSON is not quite a part.  Some characters must not stand in a file at all.  In a text between
quotes a line may end, and the end of a line is not a character of the text: blanks around it are
left out, one next line becomes a blank, and further ones become line feeds.  The name of a field
stands on one line and is not too long.  `Yaml.parse?` reads such a file.
-/

namespace WorkloadTraits.Yaml

/-- A character of a text that ends a line of the file.  Line feeds are written by an escape and
do not. -/
def endsLine (c : Char) : Bool :=
  c == nextLine || isSeparator c

/-- What is read for a break. -/
def breakChar (c : Char) : Char :=
  if c == nextLine then '\n' else c

/-- What is read for several breaks in a row: the first, when it is a next line, joins the lines
by a blank unless others follow. -/
def foldedBreaks (first : Char) (more : List Char) : List Char :=
  if first == nextLine then
    if more = [] then [' '] else more.map breakChar
  else first :: more.map breakChar

/-- What has been passed inside a text and not yet been taken: some blanks, or breaks with the
last of the further ones first. -/
inductive Pending
  | blanks (count : Nat)
  | breaks (first : Char) (more : List Char)

/-- The characters that are taken when the text goes on. -/
def Pending.chars : Pending → List Char
  | blanks count => List.replicate count ' '
  | breaks first more => foldedBreaks first more.reverse

/-- The text that is read for some characters between quotes. -/
def folded (pending : Pending) : List Char → List Char
  | [] => pending.chars
  | c :: rest =>
    if endsLine c then
      match pending with
      | .blanks _ => folded (.breaks c []) rest
      | .breaks first more => folded (.breaks first (c :: more)) rest
    else if c == ' ' then
      match pending with
      | .blanks count => folded (.blanks (count + 1)) rest
      | breaks => folded breaks rest
    else pending.chars ++ c :: folded (.blanks 0) rest

/-- Whether a line that starts here would begin or end a document of the stream. -/
def startsDocumentMark : List Char → Bool
  | '-' :: '-' :: '-' :: c :: _ | '.' :: '.' :: '.' :: c :: _ => c == ' ' || endsLine c
  | _ => false

/-- Whether some line of a text, the first apart, begins or ends a document. -/
def hasDocumentMark : List Char → Bool
  | [] => false
  | c :: rest => (endsLine c && startsDocumentMark rest) || hasDocumentMark rest

/-- The text that is read for a text between quotes. -/
def text? (s : String) : Option String :=
  if hasDocumentMark s.toList then none else some (String.ofList (folded (.blanks 0) s.toList))

/-- How many characters a name may take with its quotes. -/
def nameLimit : Nat := 1024

/-- Whether a name can stand before a colon. -/
def isName (name : String) : Bool :=
  !name.toList.any endsLine && (Json.stringChars name).length ≤ nameLimit

mutual

/-- The value that is read for a value of a file. -/
def value? : Json → Option Json
  | .string s => (text? s).map .string
  | .array items => (items? items).map .array
  | .object fields => (fields? fields).map .object
  | j => some j

/-- The values that are read for some items. -/
def items? : List Json → Option (List Json)
  | [] => some []
  | j :: rest => do return (← value? j) :: (← items? rest)

/-- The fields that are read for some fields. -/
def fields? : List (String × Json) → Option (List (String × Json))
  | [] => some []
  | (name, j) :: rest => do
    guard (isName name)
    return (name, ← value? j) :: (← fields? rest)

end

/-- The value that a file holds. -/
def parse? (s : String) : Option Json :=
  if s.toList.all isReadable then (Json.parse? Json.Literal.nearest s).bind value? else none

end WorkloadTraits.Yaml
