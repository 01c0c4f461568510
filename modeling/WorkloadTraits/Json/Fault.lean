/-!
# What is wrong with a JSON text

A text may be broken anywhere, and what a message says of it depends on who came to the place.  One
who reads a value is stricter than one who passes over a value that nobody asks for: only to the
first do halves of surrogate pairs matter, and only the first takes a number that breaks off at the
end of the text for a text that is cut short.  One who has read all that can stand in a list
expects nothing but its end.  A `Break` holds the defect that each of the three finds.

Places are counted in bytes from the start of the text; `Position.ofOffset` turns such a count into
a line and a column.
-/

namespace WorkloadTraits.Json

/-- What is wrong with a text. -/
inductive Fault
  | listEnds
  | objectEnds
  | stringEnds
  | valueEnds
  | expectedColon
  | expectedListEnd
  | expectedObjectEnd
  | expectedWord
  | expectedValue
  | invalidEscape
  | invalidNumber
  | numberOutOfRange
  | controlCharacter
  | nameNotString
  | loneSurrogate
  | pairEnds
  | trailingComma
  | trailingCharacters
  | tooDeep
deriving DecidableEq

namespace Fault

/-- Whether the text is cut short, so that more text might mend it. -/
def endsEarly : Fault → Bool
  | listEnds | objectEnds | stringEnds | valueEnds => true
  | _ => false

/-- The words for a fault. -/
def message : Fault → String
  | listEnds => "EOF while parsing a list"
  | objectEnds => "EOF while parsing an object"
  | stringEnds => "EOF while parsing a string"
  | valueEnds => "EOF while parsing a value"
  | expectedColon => "expected \x60:\x60"
  | expectedListEnd => "expected \x60,\x60 or \x60]\x60"
  | expectedObjectEnd => "expected \x60,\x60 or \x60\x7d\x60"
  | expectedWord => "expected ident"
  | expectedValue => "expected value"
  | invalidEscape => "invalid escape"
  | invalidNumber => "invalid number"
  | numberOutOfRange => "number out of range"
  | controlCharacter => "control character (\\u0000-\\u001F) found while parsing a string"
  | nameNotString => "key must be a string"
  | loneSurrogate => "lone leading surrogate in hex escape"
  | pairEnds => "unexpected end of hex escape"
  | trailingComma => "trailing comma"
  | trailingCharacters => "trailing characters"
  | tooDeep => "recursion limit exceeded"

end Fault

/-- A fault with the number of bytes that had been taken when it was found. -/
structure Defect where
  fault : Fault
  offset : Nat
deriving DecidableEq

/-- A place where the text cannot be followed further: the defect found by one who reads the value
there, by one who passes over it, and by one who expects the end of a list. -/
structure Break where
  read : Defect
  skip : Defect
  full : Defect
deriving DecidableEq

/-- A break where each of the three finds a fault at one offset. -/
def Break.ofFaults (offset : Nat) (read skip full : Fault) : Break :=
  ⟨⟨read, offset⟩, ⟨skip, offset⟩, ⟨full, offset⟩⟩

/-- A stretch of a text, from one offset up to another. -/
structure Span where
  start : Nat := 0
  stop : Nat := 0
deriving DecidableEq

/-- A place of a text that a message names: the line, and the bytes taken on it.  A value that is
no text has no places; its line is zero. -/
structure Position where
  line : Nat := 0
  column : Nat := 0
deriving DecidableEq

/-- The place in a message; a value that is no text has none. -/
def Position.text (p : Position) : String :=
  if p.line = 0 then ""
  else " at line " ++ toString p.line ++ " column " ++ toString p.column

/-- The place behind a number of bytes. -/
def Position.ofOffset (s : String) (offset : Nat) : Position :=
  let (_, lines, lineStart) := s.toList.foldl
    (fun (i, lines, lineStart) c =>
      if c == '\n' && i < offset then (i + 1, lines + 1, i + 1)
      else (i + c.utf8Size, lines, lineStart))
    (0, 0, 0)
  ⟨lines + 1, offset - lineStart⟩

end WorkloadTraits.Json
