/-
  The shortest decimal of a double.

  All numbers between the midpoints to its two neighbours read back as the double; the midpoints
  themselves do when its mantissa is even.  On the decimal grids of 1, 2, ... 17 significant digits
  only the two points next to the double can lie in that interval, so the first grid with such a
  point gives the fewest digits.  Of two points the nearer is taken, and the even one of two equally
  near ones.
-/
import Chip8.Number.Decimal
import Chip8.Number.Double

namespace Chip8.Shortest

/-- The numbers that read back as a double: from `low / den` to `high / den`, ends included or
    not. -/
structure Interval where
  low : Nat
  high : Nat
  den : Nat
  closed : Bool

/-- Whether `num / den'` lies in the interval. -/
def Interval.contains (i : Interval) (num den : Nat) : Bool :=
  if i.closed then i.low * den ≤ num * i.den && num * i.den ≤ i.high * den
  else i.low * den < num * i.den && num * i.den < i.high * den

/-- Four times the mantissa over this denominator is the double, in whole numbers. -/
def quarters (mantissa : Nat) (exponent : Int) : Nat × Nat :=
  ((4 * mantissa) <<< (exponent - 2).toNat, 1 <<< (2 - exponent).toNat)

/-- The interval of `mantissa * 2 ^ exponent`.  Below a power of two the doubles lie closer. -/
def interval (mantissa : Nat) (exponent : Int) : Interval :=
  let unit := 1 <<< (exponent - 2).toNat
  let below := if mantissa = Double.fullMantissa ∧ -1074 < exponent then 1 else 2
  { low := (4 * mantissa - below) * unit
    high := (4 * mantissa + 2) * unit
    den := 1 <<< (2 - exponent).toNat
    closed := mantissa % 2 == 0 }

/-- The point of the grid of `n` significant digits that reads back, if there is one. -/
def onGrid (i : Interval) (num den n : Nat) : Option Decimal :=
  let exponent := Decimal.magnitude num den - n
  let q := Decimal.scale num den (-exponent)
  let lower := q.1 / q.2
  let reads (c : Nat) : Bool :=
    i.contains (c * Decimal.tenPow exponent.toNat) (Decimal.tenPow (-exponent).toNat)
  match reads lower, reads (lower + 1) with
  | true, true => some ⟨Decimal.roundDiv q.1 q.2, exponent⟩
  | true, false => some ⟨lower, exponent⟩
  | false, true => some ⟨lower + 1, exponent⟩
  | false, false => none

/-- The shortest decimal that reads back as `mantissa * 2 ^ exponent`, which is positive. -/
def shortest (mantissa : Nat) (exponent : Int) : Decimal :=
  let q := quarters mantissa exponent
  ((List.range' 1 17).findSome? (onGrid (interval mantissa exponent) q.1 q.2)).getD
    (Decimal.significant 17 q.1 q.2)

example : shortest (2 ^ 52) (-53) = ⟨5, -1⟩ := by decide +kernel
example : shortest 1 (-1074) = ⟨5, -324⟩ := by decide +kernel

end Chip8.Shortest
