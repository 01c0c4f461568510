import WorkloadTraits.Json.Basic
import WorkloadTraits.Yaml.Scalar

/-!
# Values as YAML documents

A value is written in block style: each field and each item begins a line of its own, and what
belongs to it is indented by two.  The items of a list stand no deeper than the name of the list.
An empty list or object is written on one line.  A name that is long or has several lines is put
behind a question mark, and its value, with a colon in front, on the next line.

Everything is composed of lines without indentation; whoever puts a value behind a name or a dash
indents its further lines.
-/

namespace WorkloadTraits.Yaml

/-- A line one level deeper; an empty line stays empty. -/
def indented (line : Line) : Line :=
  if line.chars = [] then line else { line with chars := ' ' :: ' ' :: line.chars }

/-- Lines of which the first stands behind something, and the others are indented. -/
def behind (lead : List Char) : List Line → List Line
  | [] => []
  | line :: rest => { line with chars := lead ++ line.chars } :: rest.map indented

/-- A line of its own. -/
def oneLine (chars : List Char) : List Line := [⟨chars, '\n'⟩]

/-- Whether a name can stand in front of its colon. -/
def isShortName (name : String) : Bool :=
  !name.toList.any isBreak && name.utf8ByteSize ≤ 128

/-- The characters of a short name, which stands on one line. -/
def shortNameChars (name : String) : List Char :=
  (textLines name).flatMap Line.chars

/-- The lines of a value that is no list and no object. -/
def scalarLines : Json → List Line
  | .null => oneLine ['n', 'u', 'l', 'l']
  | .bool true => oneLine ['t', 'r', 'u', 'e']
  | .bool false => oneLine ['f', 'a', 'l', 's', 'e']
  | .number n => oneLine n.chars
  | .string s => textLines s
  | .array _ | .object _ => []

mutual

/-- The lines of a value. -/
def lines : Json → List Line
  | .array items => if items.isEmpty then oneLine ['[', ']'] else itemLines items
  | .object fields => if fields.isEmpty then oneLine ['\x7b', '\x7d'] else fieldLines fields
  | j => scalarLines j

/-- The lines of a value behind a short name and its colon. -/
def namedLines (lead : List Char) : Json → List Line
  | .array items =>
    if items.isEmpty then oneLine (lead ++ [' ', '[', ']']) else oneLine lead ++ itemLines items
  | .object fields =>
    if fields.isEmpty then oneLine (lead ++ [' ', '\x7b', '\x7d'])
    else oneLine lead ++ (fieldLines fields).map indented
  | j => behind (lead ++ [' ']) (scalarLines j)

/-- The lines of some items. -/
def itemLines : List Json → List Line
  | [] => []
  | j :: rest => behind ['-', ' '] (lines j) ++ itemLines rest

/-- The lines of some fields. -/
def fieldLines : List (String × Json) → List Line
  | [] => []
  | (name, j) :: rest =>
    (if isShortName name then namedLines (shortNameChars name ++ [':']) j
    else behind ['?', ' '] (textLines name) ++ behind [':', ' '] (lines j)) ++ fieldLines rest

end

/-- A value as a document of a stream. -/
def document (j : Json) : String :=
  String.ofList ((⟨['-', '-', '-'], '\n'⟩ :: lines j).flatMap fun line =>
    line.chars ++ [line.ending])

end WorkloadTraits.Yaml
