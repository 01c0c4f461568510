import WorkloadTraits.Json.Fault
import WorkloadTraits.Json.Literal

/-!
# Tokens of a JSON text

`tokens` reads the longest part of a text that makes sense, and ends with a token for the defect,
if there is one.  Every token knows the bytes that it takes.

A string that is whole may still stand for no text, when it has one half of a surrogate pair
without the other.  Such a string is a token like any other: whoever passes over it does not mind,
and whoever reads it finds the defect in its content.
-/

namespace WorkloadTraits.Json

/-- A token.  A broken one has the defect found by a reader, and by one who passes over it. -/
inductive Token
  | openArray
  | closeArray
  | openObject
  | closeObject
  | comma
  | colon
  | null
  | bool (value : Bool)
  | number (literal : Literal)
  | string (content : Except Defect String)
  | brokenString (read skip : Defect)
  | broken (read skip : Defect)

/-- A token in its place. -/
structure Placed where
  token : Token
  span : Span

/-- A token that was read, the offset behind it, and the characters there. -/
abbrev Scanned := Token × Nat × List Char

/-! ## Strings -/

/-- The value of a hexadecimal digit. -/
def hexValue? (c : Char) : Option Nat :=
  if '0' ≤ c && c ≤ '9' then some (c.toNat - 48)
  else if 'a' ≤ c && c ≤ 'f' then some (c.toNat - 87)
  else if 'A' ≤ c && c ≤ 'F' then some (c.toNat - 55)
  else none

/-- The number of four hexadecimal digits. -/
def unit? (a b c d : Char) : Option Nat := do
  return (((← hexValue? a) * 16 + (← hexValue? b)) * 16 + (← hexValue? c)) * 16 + (← hexValue? d)

/-- The character of a short escape. -/
def shortEscape? (c : Char) : Option Char :=
  match c with
  | '"' => some '"'
  | '\\' => some '\\'
  | '/' => some '/'
  | 'b' => some '\x08'
  | 'f' => some '\x0c'
  | 'n' => some '\n'
  | 'r' => some '\r'
  | 't' => some '\t'
  | _ => none

/-- How many bytes some characters take. -/
def byteCount (cs : List Char) : Nat :=
  cs.foldl (fun n c => n + c.utf8Size) 0

/-- The state inside a string: what was read, with the last character first; the first half of a
surrogate pair when it came last; and the first defect found by one who reads the string. -/
structure StringState where
  content : List Char
  half : Option Nat
  defect : Option Defect

namespace StringState

/-- The state at the opening quote. -/
def start : StringState := ⟨[], none, none⟩

/-- The state with a defect, unless one was found before. -/
def mark (s : StringState) (fault : Fault) (offset : Nat) : StringState :=
  { s with defect := s.defect.or (some ⟨fault, offset⟩) }

/-- What comes next does not join the half that is waiting for the other. -/
def leaveHalf (s : StringState) (fault : Fault) (offset : Nat) : StringState :=
  if s.half.isSome then { s with half := none }.mark fault offset else s

/-- After one more character. -/
def push (s : StringState) (c : Char) : StringState :=
  { s with content := c :: s.content }

/-- After one more 16-bit unit, whose escape ends at an offset. -/
def pushUnit (s : StringState) (n stop : Nat) : StringState :=
  if 0xDC00 ≤ n ∧ n ≤ 0xDFFF then
    match s.half with
    | some h =>
      { s with half := none }.push
        (Char.ofNat ((h - 0xD800) * 0x400 + (n - 0xDC00) + 0x10000))
    | none => s.mark .loneSurrogate stop
  else
    let s := s.leaveHalf .loneSurrogate stop
    if 0xD800 ≤ n ∧ n ≤ 0xDBFF then { s with half := some n } else s.push (Char.ofNat n)

/-- The string at its closing quote. -/
def close (s : StringState) : Token :=
  .string <|
    match s.defect with
    | some defect => .error defect
    | none => .ok (String.ofList s.content.reverse)

/-- The string breaks; one who reads it may have stopped before. -/
def fail (s : StringState) (fault : Fault) (read skip : Nat) : Scanned :=
  (.brokenString (s.defect.getD ⟨fault, read⟩) ⟨fault, skip⟩, skip, [])

end StringState

/-- Reads a string behind its opening quote, from an offset on. -/
def scanString (s : StringState) (i : Nat) : List Char → Scanned
  | [] => s.fail .stringEnds i i
  | '"' :: rest => ((s.leaveHalf .pairEnds (i + 1)).close, i + 1, rest)
  | ['\\'] => s.fail .stringEnds (i + 1) (i + 1)
  | '\\' :: 'u' :: a :: b :: c :: d :: rest =>
    match unit? a b c d with
    | some n => scanString (s.pushUnit n (i + 6)) (i + 6) rest
    | none => s.fail .invalidEscape (i + 6) (i + 6)
  | '\\' :: 'u' :: rest =>
    let size := byteCount rest
    if size < 4 then s.fail .stringEnds (i + 2 + size) (i + 2 + size)
    else s.fail .invalidEscape (i + 6) (i + 6)
  | '\\' :: e :: rest =>
    let s := s.leaveHalf .pairEnds (i + 2)
    match shortEscape? e with
    | some c => scanString (s.push c) (i + 2) rest
    | none => s.fail .invalidEscape (i + 2) (i + 2)
  | c :: rest =>
    let s := s.leaveHalf .pairEnds (i + 1)
    if c.toNat < 0x20 then s.fail .controlCharacter (i + 1) i
    else scanString (s.push c) (i + c.utf8Size) rest

/-! ## Numbers -/

/-- The digits at the front and what follows them. -/
def spanDigits : List Char → List Digit × List Char
  | [] => ([], [])
  | c :: rest =>
    match digit? c with
    | some d => let (ds, rest) := spanDigits rest; (d :: ds, rest)
    | none => ([], c :: rest)

/-- A part of a number, the offset behind it, and the characters there. -/
abbrev Part (α : Type) := α × Nat × List Char

/-- A digit is missing: at the end of the text only one who reads the number sees an end. -/
def digitMissing (i : Nat) (rest : List Char) : Token :=
  if rest = [] then .broken ⟨.valueEnds, i⟩ ⟨.invalidNumber, i⟩
  else .broken ⟨.invalidNumber, i + 1⟩ ⟨.invalidNumber, i + 1⟩

/-- Reads digits, of which there has to be one. -/
def scanDigits (i : Nat) (cs : List Char) : Except Token (Part (List Digit)) :=
  match spanDigits cs with
  | ([], rest) => .error (digitMissing i rest)
  | (ds, rest) => .ok (ds, i + ds.length, rest)

/-- Reads the digits in front of the point: a zero stands alone. -/
def scanWhole (i : Nat) (cs : List Char) : Except Token (Part (List Digit)) := do
  let (ds, stop, rest) ← scanDigits i cs
  if ds.head? = some 0 ∧ ds.length ≠ 1 then
    .error (.broken ⟨.invalidNumber, i + 2⟩ ⟨.invalidNumber, i + 2⟩)
  else return (ds, stop, rest)

/-- Reads the digits behind the point, if there is one. -/
def scanFraction (i : Nat) (cs : List Char) : Except Token (Part (List Digit)) :=
  match cs with
  | '.' :: rest => scanDigits (i + 1) rest
  | _ => .ok ([], i, cs)

/-- Reads the digits of an exponent. -/
def scanExponentDigits (negative : Bool) (i : Nat) (cs : List Char) :
    Except Token (Part (Option Exponent)) := do
  let (ds, stop, rest) ← scanDigits i cs
  return (some ⟨negative, ds⟩, stop, rest)

/-- Reads the exponent, if there is one. -/
def scanExponent (i : Nat) (cs : List Char) : Except Token (Part (Option Exponent)) :=
  match cs with
  | c :: rest =>
    if c == 'e' || c == 'E' then
      match rest with
      | '-' :: rest => scanExponentDigits true (i + 2) rest
      | '+' :: rest => scanExponentDigits false (i + 2) rest
      | rest => scanExponentDigits false (i + 1) rest
    else .ok (none, i, cs)
  | [] => .ok (none, i, [])

/-- Reads a number without its sign. -/
def scanUnsigned (negative : Bool) (i : Nat) (cs : List Char) : Except Token (Part Literal) := do
  let (whole, i, cs) ← scanWhole i cs
  let (fraction, i, cs) ← scanFraction i cs
  let (exponent, i, cs) ← scanExponent i cs
  return (⟨negative, whole, fraction, exponent⟩, i, cs)

/-- Reads a number; after a defect nothing follows. -/
def scanNumber (i : Nat) (cs : List Char) : Scanned :=
  let scanned :=
    match cs with
    | '-' :: rest => scanUnsigned true (i + 1) rest
    | _ => scanUnsigned false i cs
  match scanned with
  | .ok (l, stop, rest) => (.number l, stop, rest)
  | .error token => (token, i, [])

/-! ## Words and the text as a whole -/

/-- Reads the rest of a word. -/
def scanWord (token : Token) (i : Nat) : List Char → List Char → Scanned
  | [], rest => (token, i, rest)
  | _ :: _, [] => (.broken ⟨.valueEnds, i⟩ ⟨.valueEnds, i⟩, i, [])
  | w :: word, c :: rest =>
    if w = c then scanWord token (i + 1) word rest
    else (.broken ⟨.expectedWord, i + 1⟩ ⟨.expectedWord, i + 1⟩, i, [])

/-- White space between tokens. -/
def isSpace (c : Char) : Bool :=
  c == ' ' || c == '\n' || c == '\t' || c == '\r'

/-- Reads one token that starts with the given character at an offset. -/
def scanToken (i : Nat) (c : Char) (rest : List Char) : Scanned :=
  match c with
  | '[' => (.openArray, i + 1, rest)
  | ']' => (.closeArray, i + 1, rest)
  | '\x7b' => (.openObject, i + 1, rest)
  | '\x7d' => (.closeObject, i + 1, rest)
  | ',' => (.comma, i + 1, rest)
  | ':' => (.colon, i + 1, rest)
  | '"' => scanString .start (i + 1) rest
  | 'n' => scanWord .null (i + 1) ['u', 'l', 'l'] rest
  | 't' => scanWord (.bool true) (i + 1) ['r', 'u', 'e'] rest
  | 'f' => scanWord (.bool false) (i + 1) ['a', 'l', 's', 'e'] rest
  | '-' => scanNumber i (c :: rest)
  | c =>
    if (digit? c).isSome then scanNumber i (c :: rest)
    else (.broken ⟨.expectedValue, i + 1⟩ ⟨.expectedValue, i + 1⟩, i, [])

/-- The tokens of a text from an offset on, with a number of rounds that is at least the length of
the text. -/
def tokensWithin : Nat → Nat → List Char → List Placed
  | 0, _, _ => []
  | _ + 1, _, [] => []
  | rounds + 1, i, c :: rest =>
    if isSpace c then tokensWithin rounds (i + 1) rest
    else
      let (token, stop, rest) := scanToken i c rest
      ⟨token, i, stop⟩ :: tokensWithin rounds stop rest

/-- The tokens of a text. -/
def tokens (cs : List Char) : List Placed :=
  tokensWithin cs.length 0 cs

end WorkloadTraits.Json
