/-
  Numbers as text.

  Three texts of a double are used: `shortest`, which reads back as the same double and is shown in
  messages, `general`, which has six significant digits and is shown for rates, and `fixed`, which
  has two places and is shown for times.  The first two leave positional notation for a power of ten
  when the number is very small or very large; `Layout` says where.
-/
import Chip8.Number.Double
import Chip8.Number.Shortest

namespace Chip8.NumberText

/-- Where a decimal is written positionally, and whether a whole number keeps its point. -/
structure Layout where
  /-- The smallest power of ten of the first digit that is written positionally. -/
  least : Int
  /-- The smallest power of ten above those that are written positionally. -/
  bound : Int
  /-- Whether a whole number is written with a point and a zero. -/
  keepPoint : Bool

/-- Positional from 0.0001 up to 16 digits, whole numbers with a point. -/
def shortestLayout : Layout := ⟨-4, 16, true⟩

/-- Positional from 0.0001 up to 6 digits, whole numbers without a point. -/
def generalLayout : Layout := ⟨-4, 6, false⟩

/-- A power of ten behind a mark: a sign and at least two digits. -/
def powerOfTen (e : Int) : List Char :=
  'e' :: (if e < 0 then '-' else '+') :: (Nat.toDigits 10 e.natAbs).leftpad 2 '0'

/-- The digits of a positive number, whose first one stands for the given power of ten. -/
def layDigits (l : Layout) (digits : List Char) (leading : Int) : List Char :=
  let point (whole fraction : List Char) (keep : Bool) : List Char :=
    if fraction.isEmpty then if keep then whole ++ ['.', '0'] else whole
    else whole ++ '.' :: fraction
  if l.least ≤ leading ∧ leading < l.bound then
    if 0 ≤ leading then
      let count := leading.toNat + 1
      point ((digits.take count).rightpad count '0') (digits.drop count) l.keepPoint
    else point ['0'] (List.replicate (-leading - 1).toNat '0' ++ digits) l.keepPoint
  else point (digits.take 1) (digits.drop 1) false ++ powerOfTen leading

/-- A double by the layout, with the decimal that a positive finite value is given. -/
def layOut (l : Layout) (decimal : Nat → Int → Decimal) (x : Float) : String :=
  let signed (negative : Bool) (cs : List Char) : String :=
    String.ofList (if negative then '-' :: cs else cs)
  match Double.value x with
  | .nan => "nan"
  | .infinite negative => signed negative ['i', 'n', 'f']
  | .finite negative m e =>
    if m = 0 then signed negative (layDigits l ['0'] 0)
    else
      let d := decimal m e
      signed negative (layDigits l d.digits d.leading)

/-- The shortest text that reads back as the same double. -/
def shortest (x : Float) : String := layOut shortestLayout Shortest.shortest x

/-- The text of six significant digits. -/
def general (x : Float) : String :=
  layOut generalLayout
    (fun m e => Decimal.significant 6 (m <<< e.toNat) (1 <<< (-e).toNat)) x

/-- The text with two places, filled with blanks on the left to eight characters. -/
def fixed (x : Float) : String :=
  let signed (negative : Bool) (cs : List Char) : String :=
    String.ofList ((if negative then '-' :: cs else cs).leftpad 8 ' ')
  match Double.value x with
  | .nan => signed false ['n', 'a', 'n']
  | .infinite negative => signed negative ['i', 'n', 'f']
  | .finite negative m e =>
    let units := Decimal.places 2 (m <<< e.toNat) (1 <<< (-e).toNat)
    signed negative
      (Nat.toDigits 10 (units / 100) ++ '.' :: (Nat.toDigits 10 (units % 100)).leftpad 2 '0')

example : shortest 0.1 = "0.1" := by decide +kernel
example : shortest 500 = "500.0" := by decide +kernel
example : shortest (-1e16) = "-1e+16" := by decide +kernel
example : shortest 0.00001 = "1e-05" := by decide +kernel
example : general 500 = "500" := by decide +kernel
example : general 1234567 = "1.23457e+06" := by decide +kernel
example : fixed 0.125 = "    0.12" := by decide +kernel

end Chip8.NumberText
