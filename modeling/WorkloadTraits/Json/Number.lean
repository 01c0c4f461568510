import WorkloadTraits.Decimal.Shortest

/-!
# Numbers of a JSON value

A number is an integer or a double, and which of the two it is makes a difference: a double is
never accepted where an integer is asked for, not even a whole one.  Minus zero is a double.

A double has one text, which messages and documents share: the fewest digits that read back, with a
point among them when it is near, and with an exponent otherwise.
-/

namespace WorkloadTraits.Json

/-- A number; a double carries its sign apart. -/
inductive Number where
  | integer (value : Int)
  | double (negative : Bool) (size : Decimal.Double)
deriving DecidableEq

namespace Number

/-- The number as an integer, if it is one. -/
def integer? : Number → Option Int
  | integer i => some i
  | double .. => none

/-- An integer as a word of 32 bits, if it is in range. -/
def word? (i : Int) : Option Int32 :=
  if -2147483648 ≤ i ∧ i ≤ 2147483647 then some (Int32.ofInt i) else none

/-- Digits with the point after the first `place` of them; zeros fill up. -/
def pointed (digits : List Char) (place : Int) : List Char :=
  if place ≤ 0 then ['0', '.'] ++ List.replicate (-place).toNat '0' ++ digits
  else
    let padded := digits ++ List.replicate (place.toNat - digits.length) '0'
    let after := padded.drop place.toNat
    padded.take place.toNat ++ ['.'] ++ if after = [] then ['0'] else after

/-- The first digit, the point, the others and the exponent with its sign. -/
def exponential (digits : List Char) (place : Int) : List Char :=
  let e := place - 1
  let fraction :=
    match digits.drop 1 with
    | [] => []
    | rest => '.' :: rest
  digits.take 1 ++ fraction ++ 'e' :: (if e < 0 then '-' else '+') :: Nat.toDigits 10 e.natAbs

/-- The size of a double: the point stands among the digits or next to them, with at most five
zeros in front and sixteen digits before it, or there is an exponent. -/
def sizeChars (x : Decimal.Double) : List Char :=
  if x.mantissa = 0 then ['0', '.', '0']
  else
    let (digits, place) := x.shortest.written
    if -5 < place ∧ place ≤ 16 then pointed digits place else exponential digits place

/-- The characters of a number. -/
def chars : Number → List Char
  | integer i => (if i < 0 then ['-'] else []) ++ Nat.toDigits 10 i.natAbs
  | double negative size => (if negative then ['-'] else []) ++ sizeChars size

/-- A number as text. -/
def text (n : Number) : String :=
  String.ofList n.chars

end Number

end WorkloadTraits.Json
