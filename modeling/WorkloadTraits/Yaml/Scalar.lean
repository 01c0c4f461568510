import WorkloadTraits.Decimal.Double
import WorkloadTraits.Yaml.Character

/-!
# Scalars of a YAML document

A text is written without quotes where it can be: it has to be read back as the same text, so it
must not look like a number, a truth value or null (`isOtherScalar`), and none of its characters
may mean something to a reader of the document (`isPlain`).  Otherwise it is put between single
quotes, or between double quotes when a character has to be escaped.  A text with a line feed is
written as a block, where it can be.

A scalar is written as lines.  A line remembers the character that ends it, because the separators
of lines and of paragraphs end a line of the document and are characters of the text as well.
-/

namespace WorkloadTraits.Yaml

/-! ## Texts that look like something else -/

/-- A digit of a base, by its value. -/
def digit? (base : Nat) (c : Char) : Option Nat :=
  let value? :=
    if '0' ≤ c ∧ c ≤ '9' then some (c.toNat - 48)
    else if 'a' ≤ c ∧ c ≤ 'z' then some (c.toNat - 87)
    else if 'A' ≤ c ∧ c ≤ 'Z' then some (c.toNat - 55)
    else none
  value?.filter (· < base)

/-- The number that some digits of a base stand for; there has to be one. -/
def numeral? (base : Nat) (cs : List Char) : Option Nat :=
  if cs = [] then none
  else cs.foldlM (fun n c => (digit? base c).map (base * n + ·)) 0

/-- Whether some characters are a number below a limit behind the mark of its base. -/
def isBased (limit : Nat) : List Char → Bool
  | '0' :: 'x' :: digits => (numeral? 16 digits).any (· < limit)
  | '0' :: 'o' :: digits => (numeral? 8 digits).any (· < limit)
  | '0' :: 'b' :: digits => (numeral? 2 digits).any (· < limit)
  | _ => false

/-- Whether some characters read as an integer within 128 bits behind the mark of its base. -/
def isBasedInteger : List Char → Bool
  | '-' :: rest => isBased (Decimal.twoTo 127 + 1) rest
  | '+' :: rest => isBased (Decimal.twoTo 128) rest
  | cs => isBased (Decimal.twoTo 128) cs

/-- Some characters without the sign in front. -/
def unsigned : List Char → List Char
  | '-' :: rest | '+' :: rest => rest
  | cs => cs

/-- Whether some characters are digits with a zero in front, which some readers take for a number
and others do not. -/
def isPadded (cs : List Char) : Bool :=
  match unsigned cs with
  | '0' :: rest => rest ≠ [] && (numeral? 10 rest).isSome
  | _ => false

/-- The characters up to the first with a property, and those behind it, if there is one. -/
def splitBefore (p : Char → Bool) (cs : List Char) : List Char × Option (List Char) :=
  match cs.dropWhile (!p ·) with
  | [] => (cs, none)
  | _ :: rest => (cs.takeWhile (!p ·), some rest)

/-- The number of an exponent with an optional sign. -/
def exponent? : List Char → Option Int
  | '-' :: rest => (numeral? 10 rest).map fun n => -(n : Int)
  | '+' :: rest => (numeral? 10 rest).map fun n => (n : Int)
  | cs => (numeral? 10 cs).map fun n => (n : Int)

/-- Whether some characters without a sign read as a decimal number, with a point and an exponent
or without; one that is too large for a double is none. -/
def isDecimal (cs : List Char) : Bool :=
  let (mantissa, exponent) := splitBefore (fun c => c == 'e' || c == 'E') cs
  let (whole, fraction) := splitBefore (· == '.') mantissa
  let fraction := fraction.getD []
  match numeral? 10 (whole ++ fraction), exponent.elim (some 0) exponent? with
  | some significand, some e =>
    (Decimal.Double.ofDecimal? significand (e - fraction.length)).isSome
  | _, _ => false

/-- Whether some characters read as a decimal number, as infinity, or as no number. -/
def isDouble (cs : List Char) : Bool :=
  isDecimal (unsigned cs) || [".inf", ".Inf", ".INF"].any (·.toList == unsigned cs) ||
    [".nan", ".NaN", ".NAN"].any (·.toList == cs)

/-- Whether an unquoted text may be read as something other than a text. -/
def isOtherScalar (cs : List Char) : Bool :=
  ["", "~", "null", "Null", "NULL", "true", "True", "TRUE", "false", "False", "FALSE"].any
      (·.toList == cs) ||
    isBasedInteger cs || isPadded cs || isDouble cs

/-! ## Styles -/

/-- The characters that mean something at the start of a value. -/
def indicators : List Char := "#,[]{}&*!|>'\"%@\x60".toList

/-- Whether a colon that ends a name, or a sharp sign that starts a comment, stands in a text. -/
def hasMark : List Char → Bool
  | [] => false
  | [c] => c == ':'
  | c :: d :: rest => (c == ':' && d == ' ') || (c == ' ' && d == '#') || hasMark (d :: rest)

/-- Whether the start of a text means something to a reader. -/
def hasMarkedStart : List Char → Bool
  | [] => true
  | c :: rest =>
    indicators.contains c ||
      ((c == '-' || c == '?' || c == ':') && (rest.isEmpty || rest.head? == some ' ')) ||
      (['-', '-'].isPrefixOf rest && c == '-') || (['.', '.'].isPrefixOf rest && c == '.')

/-- Whether a text can be written without quotes. -/
def isPlain (cs : List Char) : Bool :=
  cs.all (fun c => isPrintable c && !isBreak c) && !isOtherScalar cs && !hasMarkedStart cs &&
    !hasMark cs && cs.head? != some ' ' && cs.getLast? != some ' '

/-- Whether two neighbours in a text have the given properties. -/
def hasNeighbours (p q : Char → Bool) : List Char → Bool
  | c :: d :: rest => (p c && q d) || hasNeighbours p q (d :: rest)
  | _ => false

/-- Whether every character shows and no blank stands before a break, where it would not be seen. -/
def isVisible (cs : List Char) : Bool :=
  cs.all isPrintable && !hasNeighbours (· == ' ') isBreak cs

/-- How a text is written. -/
inductive Style
  | plain
  | single
  | double
  | block
deriving DecidableEq

/-- The style of a text. -/
def styleOf (cs : List Char) : Style :=
  if cs.contains '\n' then
    if isVisible cs && cs.getLast? != some ' ' then .block else .double
  else if isPlain cs then .plain
  else if isVisible cs && !hasNeighbours isBreak (· == ' ') cs then .single
  else .double

/-! ## Lines -/

/-- A line of a document, and the character that ends it. -/
structure Line where
  chars : List Char
  ending : Char := '\n'

/-- The lines of a text; the last has no end of its own and may be empty. -/
def splitLines : List Char → List Line
  | [] => [⟨[], '\n'⟩]
  | c :: rest =>
    if isBreak c then ⟨[], c⟩ :: splitLines rest
    else
      match splitLines rest with
      | line :: others => { line with chars := c :: line.chars } :: others
      | [] => [⟨[c], '\n'⟩]

/-- A number in upper case hexadecimal digits, with zeros in front. -/
def hexDigits (width n : Nat) : List Char :=
  let digits := (Nat.toDigits 16 n).map Char.toUpper
  List.replicate (width - digits.length) '0' ++ digits

/-- A character between double quotes. -/
def escape (c : Char) : List Char :=
  if c == '"' || c == '\\' then ['\\', c]
  else if isPrintable c && !isBreak c then [c]
  else
    match c.toNat with
    | 0x00 => ['\\', '0']
    | 0x07 => ['\\', 'a']
    | 0x08 => ['\\', 'b']
    | 0x09 => ['\\', 't']
    | 0x0A => ['\\', 'n']
    | 0x0B => ['\\', 'v']
    | 0x0C => ['\\', 'f']
    | 0x0D => ['\\', 'r']
    | 0x1B => ['\\', 'e']
    | 0x85 => ['\\', 'N']
    | 0x2028 => ['\\', 'L']
    | 0x2029 => ['\\', 'P']
    | n =>
      if n ≤ 0xFF then '\\' :: 'x' :: hexDigits 2 n
      else if n ≤ 0xFFFF then '\\' :: 'u' :: hexDigits 4 n
      else '\\' :: 'U' :: hexDigits 8 n

/-- A character between single quotes. -/
def quoteTwice (c : Char) : List Char :=
  if c == '\'' then ['\'', '\''] else [c]

/-- What stands in the place of a block's text: whether the first line is indented or empty, and
how many of the breaks at its end belong to the text. -/
def blockHeader (cs : List Char) : List Char :=
  let indentation := if cs.head?.any (fun c => c == ' ' || isBreak c) then ['2'] else []
  let ending :=
    match cs.reverse with
    | [c] => if isBreak c then ['+'] else ['-']
    | c :: d :: _ => if !isBreak c then ['-'] else if isBreak d then ['+'] else []
    | [] => ['-']
  '|' :: indentation ++ ending

/-- The lines of a block below its header: a text that ends with a break has no last line. -/
def blockLines (cs : List Char) : List Line :=
  let lines := splitLines cs
  if cs.getLast?.all isBreak then lines.dropLast else lines

/-- The lines of a text as a value; the first stands behind the name or dash. -/
def textLines (s : String) : List Line :=
  let cs := s.toList
  match styleOf cs with
  | .plain => [⟨cs, '\n'⟩]
  | .single => splitLines ('\'' :: cs.flatMap quoteTwice ++ ['\''])
  | .double => [⟨'"' :: cs.flatMap escape ++ ['"'], '\n'⟩]
  | .block => ⟨blockHeader cs, '\n'⟩ :: blockLines cs

end WorkloadTraits.Yaml
