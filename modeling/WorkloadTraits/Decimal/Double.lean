/-!
# Double-precision numbers

A number that is not an integer is held as a double: `mantissa · 2 ^ exponent` with a mantissa of
at most 53 bits.  This file rounds a fraction to the nearest double (`nearest?`), and reads a
decimal significand with a power of ten in two ways: exactly (`ofDecimal?`), and the way a payload
is read, by one rounded multiplication or division for every power in reach (`ofDecimalInSteps?`),
which may miss the nearest double by a little.  All arithmetic is on natural numbers, so nothing
depends on the machine.
-/

namespace WorkloadTraits.Decimal

/-- A power of two. -/
def twoTo (e : Nat) : Nat := Nat.pow 2 e

/-- A power of ten. -/
def tenTo (e : Nat) : Nat := Nat.pow 10 e

/-- A double without its sign, with the value `mantissa · 2 ^ exponent`. -/
structure Double where
  mantissa : Nat
  exponent : Int
deriving DecidableEq

namespace Double

/-- The number zero. -/
def zero : Double := ⟨0, -1074⟩

/-- The quotient of two numbers, rounded to the nearest integer, and to the even one of two. -/
def roundDiv (num den : Nat) : Nat :=
  let q := num / den
  let r := num % den
  if 2 * r > den || (2 * r == den && q % 2 == 1) then q + 1 else q

/-- The numerator and the denominator after a division by `2 ^ e`. -/
def shift (num den : Nat) (e : Int) : Nat × Nat :=
  if 0 ≤ e then (num, den * twoTo e.toNat) else (num * twoTo (-e).toNat, den)

/-- The binary exponent at which the fraction has a mantissa of 53 bits; never below the least
exponent of a double, so that small numbers lose bits instead. -/
def exponentOf (num den : Nat) : Int :=
  let guess : Int := (num.log2 : Int) - den.log2 - 52
  let (n, d) := shift num den guess
  let e := if n / d < twoTo 52 then guess - 1 else guess
  max e (-1074)

/-- The double next to a fraction; of two, the one with the even mantissa.  Nothing when the
fraction is too large for a double. -/
def nearest? (num den : Nat) : Option Double :=
  if num = 0 then some zero
  else
    let e := exponentOf num den
    let (n, d) := shift num den e
    let m := roundDiv n d
    let (m, e) := if m = twoTo 53 then (twoTo 52, e + 1) else (m, e)
    if 971 < e then none else some ⟨m, e⟩

/-- A double as a fraction. -/
def fraction (x : Double) : Nat × Nat :=
  if 0 ≤ x.exponent then (x.mantissa * twoTo x.exponent.toNat, 1)
  else (x.mantissa, twoTo (-x.exponent).toNat)

/-- The product of two doubles, rounded. -/
def mul? (x y : Double) : Option Double :=
  let (a, b) := x.fraction
  let (c, d) := y.fraction
  nearest? (a * c) (b * d)

/-- The quotient of two doubles, rounded. -/
def div? (x y : Double) : Option Double :=
  let (a, b) := x.fraction
  let (c, d) := y.fraction
  nearest? (a * d) (b * c)

/-- Divides by powers of ten, one after the other. -/
def divideByPowers (x : Double) (powers : List Nat) : Option Double :=
  powers.foldlM (fun y e => (nearest? (tenTo e) 1).bind y.div?) x

/-- The powers by which one divides for a negative exponent.  The largest power of ten that is a
double is the 308th, and no significand is left after two divisions by it. -/
def powersFor (e : Nat) : List Nat :=
  if e ≤ 308 then [e] else if e ≤ 616 then [308, e - 308] else [308, 308]

/-- The double that a significand and a power of ten come to in rounded steps; nothing when it is
too large. -/
def ofDecimalInSteps? (significand : Nat) (exponent : Int) : Option Double :=
  (nearest? significand 1).bind fun x =>
    if exponent < 0 then x.divideByPowers (powersFor (-exponent).toNat)
    else if significand = 0 then some zero
    else if 308 < exponent then none
    else (nearest? (tenTo exponent.toNat) 1).bind x.mul?

/-- The double next to a significand times a power of ten; nothing when it is too large.  A number
with its first digit far out of reach is not computed. -/
def ofDecimal? (significand : Nat) (exponent : Int) : Option Double :=
  let place : Int := (Nat.toDigits 10 significand).length + exponent
  if significand = 0 ∨ place < -330 then some zero
  else if 310 < place then none
  else if exponent < 0 then nearest? significand (tenTo (-exponent).toNat)
  else nearest? (significand * tenTo exponent.toNat) 1

end Double

end WorkloadTraits.Decimal
