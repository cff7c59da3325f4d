/-
  Numbers read from text.

  Blanks around a number are left out, digits of all scripts count as digits, and one underscore may
  stand between two digits.  `integer?` reads a sign and digits, at most 4300 of them; `double?`
  reads digits with a point and a power of ten, or the words for an infinity or for no number.
-/
import Chip8.Number.Double
import Chip8.Text.Blank
import Chip8.Text.DecimalDigit

namespace Chip8.Reading

/-- The most digits that an integer may have. -/
def maxDigits : Nat := 4300

/-- A text without blanks around it and with its digits replaced by those from `0` to `9`. -/
def normalize (s : String) : List Char :=
  (Blank.trim s.toList).map fun c =>
    match DecimalDigit.value? c with
    | some d => Nat.digitChar d
    | none => c

/-- A leading sign, which may be missing: whether it is a minus, and what follows. -/
def splitSign : List Char → Bool × List Char
  | '-' :: cs => (true, cs)
  | '+' :: cs => (false, cs)
  | cs => (false, cs)

/-- Takes out the underscores, each of which has to stand between two digits.  `afterDigit` tells
    whether a digit came just before. -/
def dropUnderscores (afterDigit : Bool) : List Char → Option (List Char)
  | [] => some []
  | '_' :: c :: cs =>
    if afterDigit && c.isDigit then (dropUnderscores true cs).map (c :: ·) else none
  | '_' :: [] => none
  | c :: cs => (dropUnderscores c.isDigit cs).map (c :: ·)

/-- The number of a list of digits. -/
def digitsValue (cs : List Char) : Nat :=
  cs.foldl (fun n c => 10 * n + (c.toNat - '0'.toNat)) 0

/-- The integer that a text shows. -/
def integer? (s : String) : Option Int :=
  let (negative, body) := splitSign (normalize s)
  match dropUnderscores false body with
  | none => none
  | some cs =>
    if cs.isEmpty || !cs.all Char.isDigit || maxDigits < cs.length then none
    else if negative then some (-digitsValue cs) else some (digitsValue cs)

/-- The power of ten after the digits of a double: nothing, or a mark with a signed number. -/
def exponent? : List Char → Option Int
  | [] => some 0
  | c :: cs =>
    let (negative, digits) := splitSign cs
    if (c == 'e' || c == 'E') && !digits.isEmpty && digits.all Char.isDigit then
      some (if negative then -digitsValue digits else digitsValue digits)
    else none

/-- The double nearest to `coefficient * 10 ^ exponent`.  Far out all exponents give an infinity or
    zero, so that none beyond is computed with. -/
def nearest (coefficient : Nat) (exponent : Int) : Float :=
  let exponent := max (-(400 + coefficient.log2 : Int)) (min 400 exponent)
  Float.ofScientific coefficient (exponent < 0) exponent.natAbs

/-- A double without its sign. -/
def magnitude? (cs : List Char) : Option Float :=
  let word := cs.map Char.toLower
  if word = ['i', 'n', 'f'] ∨ word = ['i', 'n', 'f', 'i', 'n', 'i', 't', 'y'] then some (1 / 0)
  else if word = ['n', 'a', 'n'] then some Double.nan
  else
    let whole := cs.takeWhile Char.isDigit
    let (fraction, rest) :=
      match cs.dropWhile Char.isDigit with
      | '.' :: r => (r.takeWhile Char.isDigit, r.dropWhile Char.isDigit)
      | r => ([], r)
    if whole.isEmpty && fraction.isEmpty then none
    else (exponent? rest).map fun e => nearest (digitsValue (whole ++ fraction)) (e - fraction.length)

/-- The double that a text shows. -/
def double? (s : String) : Option Float :=
  match dropUnderscores false (normalize s) with
  | none => none
  | some cs =>
    let (negative, body) := splitSign cs
    (magnitude? body).map fun x => if negative then -x else x

example : integer? " +1_000 " = some 1000 := by decide +kernel
example : integer? "1__0" = none := by decide +kernel
example : (double? "-2.5e-1").map Float.toBits = some (-0.25 : Float).toBits := by decide +kernel
example : double? "1e" = none := by decide +kernel

end Chip8.Reading
