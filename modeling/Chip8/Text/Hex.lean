/-
  Upper-case hexadecimal text with zero padding.

  `padded width n` is how instruction words and addresses are shown: at least `width`
  characters, filled with zeros on the left.  A negative number keeps its sign in front of the
  zeros, and the sign counts as one of the `width` characters.
-/

namespace Chip8.Hex

/-- The upper-case hexadecimal digits of `n`; zero has the one digit `0`. -/
def digits (n : Nat) : List Char :=
  (Nat.toDigits 16 n).map Char.toUpper

/-- `n` in hexadecimal, sign first, filled with zeros to at least `width` characters. -/
def padded (width : Nat) (n : Int) : String :=
  let sign := if n < 0 then ['-'] else []
  String.ofList (sign ++ (digits n.natAbs).leftpad (width - sign.length) '0')

example : padded 4 0x2AF = "02AF" := by decide
example : padded 3 0x1000 = "1000" := by decide
example : padded 3 (-5) = "-05" := by decide

end Chip8.Hex
