import WorkloadTraits.Json.Basic

/-!
# Written JSON

`Json.compact` writes a value without any white space, `Json.pretty` with two spaces of
indentation and one item a line, where empty arrays and objects stay on theirs.  Both keep the
order of the fields.  In strings the quote, the backslash and control characters are escaped, and
all else stands as it is.
-/

namespace WorkloadTraits.Json

/-- One character between the quotes of a string. -/
def escape (c : Char) : List Char :=
  if c == '"' then ['\\', '"']
  else if c == '\\' then ['\\', '\\']
  else if c == '\n' then ['\\', 'n']
  else if c == '\r' then ['\\', 'r']
  else if c == '\t' then ['\\', 't']
  else if c.toNat == 0x08 then ['\\', 'b']
  else if c.toNat == 0x0C then ['\\', 'f']
  else if c.toNat < 0x20 then
    ['\\', 'u', '0', '0', Nat.digitChar (c.toNat / 16), Nat.digitChar (c.toNat % 16)]
  else [c]

/-- A string with its quotes. -/
def stringChars (s : String) : List Char :=
  '"' :: (s.toList.flatMap escape ++ ['"'])

mutual

/-- The characters of a value without white space. -/
def compactChars : Json → List Char
  | .null => ['n', 'u', 'l', 'l']
  | .bool true => ['t', 'r', 'u', 'e']
  | .bool false => ['f', 'a', 'l', 's', 'e']
  | .number n => n.chars
  | .string s => stringChars s
  | .array [] => ['[', ']']
  | .array (j :: rest) => '[' :: (compactChars j ++ compactItems rest)
  | .object [] => ['\x7b', '\x7d']
  | .object ((name, j) :: rest) =>
    '\x7b' :: (stringChars name ++ ':' :: (compactChars j ++ compactFields rest))

/-- Items after the first, each behind a comma, and the closing bracket. -/
def compactItems : List Json → List Char
  | [] => [']']
  | j :: rest => ',' :: (compactChars j ++ compactItems rest)

/-- Fields after the first, each behind a comma, and the closing brace. -/
def compactFields : List (String × Json) → List Char
  | [] => ['\x7d']
  | (name, j) :: rest =>
    ',' :: (stringChars name ++ ':' :: (compactChars j ++ compactFields rest))

end

/-- A value without white space. -/
def compact (j : Json) : String :=
  String.ofList j.compactChars

/-- A new line with its indentation. -/
def newLine (level : Nat) : List Char :=
  '\n' :: List.replicate (2 * level) ' '

mutual

/-- The characters of a value over several lines, at a level of indentation. -/
def prettyChars (level : Nat) : Json → List Char
  | .array (j :: rest) =>
    '[' :: (newLine (level + 1) ++ prettyChars (level + 1) j ++ prettyItems level rest)
  | .object ((name, j) :: rest) =>
    '\x7b' :: (newLine (level + 1) ++ stringChars name ++ ':' :: ' ' ::
      (prettyChars (level + 1) j ++ prettyFields level rest))
  | .null => ['n', 'u', 'l', 'l']
  | .bool true => ['t', 'r', 'u', 'e']
  | .bool false => ['f', 'a', 'l', 's', 'e']
  | .number n => n.chars
  | .string s => stringChars s
  | .array [] => ['[', ']']
  | .object [] => ['\x7b', '\x7d']

/-- Items after the first, and the closing bracket on a line of its own. -/
def prettyItems (level : Nat) : List Json → List Char
  | [] => newLine level ++ [']']
  | j :: rest =>
    ',' :: (newLine (level + 1) ++ prettyChars (level + 1) j ++ prettyItems level rest)

/-- Fields after the first, and the closing brace on a line of its own. -/
def prettyFields (level : Nat) : List (String × Json) → List Char
  | [] => newLine level ++ ['\x7d']
  | (name, j) :: rest =>
    ',' :: (newLine (level + 1) ++ stringChars name ++ ':' :: ' ' ::
      (prettyChars (level + 1) j ++ prettyFields level rest))

end

/-- A value over several lines. -/
def pretty (j : Json) : String :=
  String.ofList (j.prettyChars 0)

end WorkloadTraits.Json
