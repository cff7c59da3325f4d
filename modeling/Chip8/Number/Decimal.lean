/-
  Decimal approximations of quotients of whole numbers.

  A positive quotient `num / den` is approximated on a grid of powers of ten: on the grid of so many
  significant digits by `significant`, or on the grid of so many places after the point by `places`.
  Both take the nearest point of the grid, and of two equally near ones the even one; that is
  `roundDiv`.
-/

namespace Chip8

/-- The number `coefficient * 10 ^ exponent`. -/
structure Decimal where
  coefficient : Nat
  exponent : Int
deriving DecidableEq, Repr

namespace Decimal

/-- A power of ten. -/
def tenPow (k : Nat) : Nat := Nat.pow 10 k

/-- The number of decimal digits of `n`; zero has none. -/
def digitCount (n : Nat) : Nat := if n = 0 then 0 else (Nat.toDigits 10 n).length

/-- The whole number nearest to `num / den`, the even one of two. -/
def roundDiv (num den : Nat) : Nat :=
  let q := num / den
  let twice := 2 * (num % den)
  if twice < den then q else if den < twice then q + 1 else q + q % 2

/-- The `k` with `10 ^ (k - 1) ≤ num / den < 10 ^ k`, for positive `num` and `den`. -/
def magnitude (num den : Nat) : Int :=
  if den ≤ num then digitCount (num / den) else 1 - digitCount ((den - 1) / num)

/-- The quotient `num / den * 10 ^ k`, as numerator and denominator. -/
def scale (num den : Nat) (k : Int) : Nat × Nat :=
  (num * tenPow k.toNat, den * tenPow (-k).toNat)

/-- The decimal of `n` significant digits nearest to `num / den`. -/
def significant (n num den : Nat) : Decimal :=
  let exponent := magnitude num den - n
  let q := scale num den (-exponent)
  ⟨roundDiv q.1 q.2, exponent⟩

/-- The number of units of `10 ^ (-n)` nearest to `num / den`. -/
def places (n num den : Nat) : Nat := roundDiv (num * tenPow n) den

/-- The digits of the coefficient without zeros at the end. -/
def digits (d : Decimal) : List Char :=
  ((Nat.toDigits 10 d.coefficient).reverse.dropWhile (· == '0')).reverse

/-- The power of ten of the first digit. -/
def leading (d : Decimal) : Int := d.exponent + digitCount d.coefficient - 1

end Decimal

end Chip8
