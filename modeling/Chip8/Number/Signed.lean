/-
  Whole numbers in two's complement.

  A whole number of any size is read as a row of bits whose sign goes on without end, so that the
  operations on bits need no width.  Where a width does matter, `fits32` and `fits64` tell whether a number
  has a place in so many bits, and `last32` and `last64` are what is left of one that is cut down to them.
-/

namespace Chip8

namespace Signed

/-- Whether a number fits 32 bits with a sign. -/
def fits32 (n : Int) : Bool := -0x80000000 ≤ n ∧ n < 0x80000000

/-- Whether a number fits 64 bits with a sign. -/
def fits64 (n : Int) : Bool := -0x8000000000000000 ≤ n ∧ n < 0x8000000000000000

/-- The number that the last 32 bits of a number stand for. -/
def last32 (n : Int) : Int := (n + 0x80000000) % 0x100000000 - 0x80000000

/-- The number that the last 64 bits of a number stand for. -/
def last64 (n : Int) : Int := (n + 0x8000000000000000) % 0x10000000000000000 - 0x8000000000000000

/-- The bits that both numbers have. -/
def and : Int → Int → Int
  | .ofNat m, .ofNat n => .ofNat (m &&& n)
  | .ofNat m, .negSucc n => .ofNat (m ^^^ (m &&& n))
  | .negSucc m, .ofNat n => .ofNat (n ^^^ (m &&& n))
  | .negSucc m, .negSucc n => .negSucc (m ||| n)

/-- The bits that at least one of the numbers has. -/
def or (m n : Int) : Int := (and m.not n.not).not

/-- The bits that just one of the numbers has. -/
def xor : Int → Int → Int
  | .ofNat m, .ofNat n => .ofNat (m ^^^ n)
  | .ofNat m, .negSucc n => .negSucc (m ^^^ n)
  | .negSucc m, .ofNat n => .negSucc (m ^^^ n)
  | .negSucc m, .negSucc n => .ofNat (m ^^^ n)

/-- Cutting a number down to 64 bits changes nothing about one that fits them. -/
theorem last64_of_fits {n : Int} (h : fits64 n) : last64 n = n := by
  simp only [fits64, decide_eq_true_eq] at h
  simp only [last64]
  omega

end Signed

end Chip8
