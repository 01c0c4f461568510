import WorkloadTraits.Json.Number

/-!
# Numbers as they are written

A `Literal` keeps the digits of a number as they stand in a text.  Without a point and an exponent,
and within 64 bits, it is an integer (`Literal.integer?`); in every other case it is a double, and
how it is rounded depends on who reads it.

A payload is read in one go (`Literal.inSteps`): digits are taken into a word of 64 bits as long as
they fit, and what the word holds is scaled by powers of ten.  A file is read exactly
(`Literal.nearest`).  A literal that is too large for a double is refused, and the refusal says how
many digits at its end had not been looked at by then.
-/

namespace WorkloadTraits.Json

/-- A decimal digit. -/
abbrev Digit := Fin 10

/-- The digit of a character. -/
def digit? (c : Char) : Option Digit :=
  if h : '0' ≤ c ∧ c ≤ '9' then
    some ⟨c.toNat - 48, by
      have : c.toNat ≤ 57 := h.2
      omega⟩
  else none

/-- The number that digits stand for. -/
def ofDigits (ds : List Digit) : Nat :=
  ds.foldl (fun n d => 10 * n + d.val) 0

/-- A written exponent. -/
structure Exponent where
  negative : Bool
  digits : List Digit

/-- A number as it is written; a written exponent zero differs from none. -/
structure Literal where
  negative : Bool
  whole : List Digit
  fraction : List Digit
  exponent : Option Exponent

/-- How literals become doubles: the size without the sign, or, when that is too large, how many
digits at the end of the literal were not looked at. -/
abbrev Rounding := Literal → Except Nat Decimal.Double

/-- Adds digits to a number while it stays below a limit; the first digit that does not fit and
all behind it are left over. -/
def fill (limit n : Nat) : List Digit → Nat × List Digit
  | [] => (n, [])
  | d :: rest => if 10 * n + d.val < limit then fill limit (10 * n + d.val) rest else (n, d :: rest)

namespace Literal

/-- The literal as an integer, if it is one. -/
def integer? (l : Literal) : Option Int :=
  let n := ofDigits l.whole
  if l.fraction ≠ [] ∨ l.exponent.isSome then none
  else if l.negative then
    if n = 0 ∨ Decimal.twoTo 63 < n then none else some (-(n : Int))
  else if n < Decimal.twoTo 64 then some n else none

/-- A significand scaled in steps. -/
def scaledInSteps (significand : Nat) (exponent : Int) : Except Nat Decimal.Double :=
  match Decimal.Double.ofDecimalInSteps? significand exponent with
  | some x => .ok x
  | none => .error 0

/-- The double of a literal as a payload's reader finds it.  A word of 64 bits that has no room for
a digit before the point has room again behind it, if the digit there is small enough. -/
def inSteps : Rounding := fun l =>
  let (n, skipped) := fill (Decimal.twoTo 64) 0 l.whole
  let (n, ignored) := fill (Decimal.twoTo 64) n l.fraction
  let place : Int := skipped.length + ignored.length - l.fraction.length
  match l.exponent with
  | none => scaledInSteps n place
  | some e =>
    match fill (Decimal.twoTo 31) 0 e.digits with
    | (size, []) => scaledInSteps n (if e.negative then place - size else place + size)
    | (_, _ :: unread) => if n = 0 ∨ e.negative then .ok .zero else .error unread.length

/-- The double next to a literal. -/
def nearest : Rounding := fun l =>
  let exponent : Int :=
    match l.exponent with
    | none => 0
    | some e => if e.negative then -(ofDigits e.digits : Int) else ofDigits e.digits
  match Decimal.Double.ofDecimal? (ofDigits (l.whole ++ l.fraction))
      (exponent - l.fraction.length) with
  | some x => .ok x
  | none => .error 0

/-- The number that a literal stands for. -/
def number (round : Rounding) (l : Literal) : Except Nat Number :=
  match l.integer? with
  | some i => .ok (.integer i)
  | none => (round l).map (.double l.negative)

end Literal

end WorkloadTraits.Json
