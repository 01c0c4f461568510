import WorkloadTraits.Decimal.Double

/-!
# The shortest decimal of a double

Of all decimals that read back as a given double, messages show the one with the fewest digits,
and of those the nearest.  `shortest` tries one digit, two digits and so on, and takes the first
grid on which one of the two neighbours of the double lies inside its rounding interval; between
two that are equally near it takes the even one.
-/

namespace WorkloadTraits.Decimal

/-- A decimal number `digits · 10 ^ exponent`. -/
structure Scaled where
  digits : Nat
  exponent : Int
deriving DecidableEq

namespace Double

/-- Four times the value of a double and of the two ends of its rounding interval, over one
denominator: lower end, value, upper end, denominator. -/
def interval (x : Double) : Nat × Nat × Nat × Nat :=
  let below := if x.mantissa = twoTo 52 ∧ -1074 < x.exponent then 1 else 2
  let m := 4 * x.mantissa
  let scale (n : Nat) : Nat := if 0 ≤ x.exponent then n * twoTo x.exponent.toNat else n
  let den := if 0 ≤ x.exponent then 4 else 4 * twoTo (-x.exponent).toNat
  (scale (m - below), scale m, scale (m + 2), den)

/-- How many decimal digits stand before the point; zero or less when zeros follow it.  A fraction
below one has as many zeros as one less than its reciprocal has digits. -/
def magnitude (num den : Nat) : Int :=
  if den ≤ num then ((Nat.toDigits 10 (num / den)).length : Int)
  else 1 - ((Nat.toDigits 10 ((den + num - 1) / num - 1)).length : Int)

/-- The decimal of some digits inside the rounding interval that is nearest to the double; of two,
the even one. -/
def onGrid? (x : Double) (size : Nat) : Option Scaled :=
  let (low, value, high, den) := x.interval
  let e : Int := magnitude value den - size
  let (unitNum, unitDen) : Nat × Nat :=
    if 0 ≤ e then (tenTo e.toNat, 1) else (1, tenTo (-e).toNat)
  -- a decimal `d` of the grid is `d * unitNum / unitDen`
  let scaled (d : Nat) : Nat := d * unitNum * den
  let target := value * unitDen
  let floor := target / (den * unitNum)
  let inside (d : Nat) : Bool :=
    if x.mantissa % 2 == 0 then low * unitDen ≤ scaled d && scaled d ≤ high * unitDen
    else low * unitDen < scaled d && scaled d < high * unitDen
  let below := target - scaled floor
  let above := scaled (floor + 1) - target
  let floorFirst := below < above || (below == above && floor % 2 == 0)
  let candidates := if floorFirst then [floor, floor + 1] else [floor + 1, floor]
  (candidates.find? inside).map (⟨·, e⟩)

/-- The decimal with the fewest digits that reads back as the double. -/
def shortest (x : Double) : Scaled :=
  if x.mantissa = 0 then ⟨0, 0⟩
  else ((List.range 17).findSome? fun n => x.onGrid? (n + 1)).getD ⟨0, 0⟩

end Double

/-- The digits of a decimal without the zeros at their end, and the place of the point counted
from the first digit. -/
def Scaled.written (d : Scaled) : List Char × Int :=
  let digits := Nat.toDigits 10 d.digits
  ((digits.reverse.dropWhile (· == '0')).reverse, digits.length + d.exponent)

end WorkloadTraits.Decimal
