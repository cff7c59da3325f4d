/-
  Doubles read exactly.

  `value` takes a double apart into a sign, a whole mantissa and a power of two, so that what has to
  be exact can be computed with whole numbers: the remainder of a division, the integer part, the
  floor, and the digits of number texts.
-/

namespace Chip8.Double

/-- What a double stands for. -/
inductive Value
  /-- No number. -/
  | nan
  /-- An infinity. -/
  | infinite (negative : Bool)
  /-- The number `mantissa * 2 ^ exponent`, with a sign. -/
  | finite (negative : Bool) (mantissa : Nat) (exponent : Int)
deriving DecidableEq, Repr

/-- The bit of the sign. -/
def signBit : Nat := 0x8000000000000000

/-- The least mantissa of a double of full precision, which is also the bit above the fraction. -/
def fullMantissa : Nat := 0x10000000000000

/-- The value that 64 bits stand for. -/
def decode (bits : Nat) : Value :=
  let negative : Bool := signBit ≤ bits
  let biased : Nat := bits / fullMantissa % 2048
  let fraction := bits % fullMantissa
  if biased = 2047 then if fraction = 0 then .infinite negative else .nan
  else if biased = 0 then .finite negative fraction (-1074)
  else .finite negative (fullMantissa + fraction) ((biased : Int) - 1075)

/-- The value of a double. -/
def value (x : Float) : Value := decode x.toBits.toNat

/-- The double of `mantissa * 2 ^ exponent`, for numbers that have one; bits below the last place of
    a double are dropped. -/
def ofScaled (negative : Bool) (mantissa : Nat) (exponent : Int) : Float :=
  let place := max (-1074) (exponent + mantissa.log2 - 52)
  let m := (mantissa <<< (exponent - place).toNat) >>> (place - exponent).toNat
  let bits := if m < fullMantissa then m else (place + 1074).toNat * fullMantissa + m
  Float.ofBits (UInt64.ofNat (bits + if negative then signBit else 0))

/-- No number. -/
def nan : Float := 0 / 0

/-- What is left of `x` after taking away whole multiples of `y` toward zero; the sign is that of
    `x`.  The result is exact. -/
def remainder (x y : Float) : Float :=
  match value x, value y with
  | .finite s m e, .finite _ n f =>
    if n = 0 then nan
    else
      let place := min e f
      ofScaled s ((m <<< (e - place).toNat) % (n <<< (f - place).toNat)) place
  | .finite .., .infinite _ => x
  | _, _ => nan

/-- The integer part of `mantissa * 2 ^ exponent` with a sign. -/
def integerPart (negative : Bool) (mantissa : Nat) (exponent : Int) : Int :=
  let n : Nat := (mantissa <<< exponent.toNat) >>> (-exponent).toNat
  if negative then -n else n

/-- The largest integer that is not above `x`, as a double. -/
def floor (x : Float) : Float :=
  match value x with
  | .finite negative m e =>
    if 0 ≤ e then x
    else Float.ofInt ((if negative then -(m : Int) else m) >>> (-e).toNat)
  | _ => x

/-- Why a double has no integer part. -/
inductive NotIntegral
  | nan
  | infinite
deriving DecidableEq, Repr

/-- The integer part of a double. -/
def toInt (x : Float) : Except NotIntegral Int :=
  match value x with
  | .nan => .error .nan
  | .infinite _ => .error .infinite
  | .finite negative m e => .ok (integerPart negative m e)

example : value 0.5 = .finite false (2 ^ 52) (-53) := by decide +kernel
example : (toInt (-2.75)).toOption = some (-2) := by decide +kernel
example : (remainder (-7.5) 2).toBits = (-1.5 : Float).toBits := by decide +kernel
example : (floor (-2.75)).toBits = (-3 : Float).toBits := by decide +kernel

end Chip8.Double
