/-
  Arithmetic on two registers.

  An operation takes the bytes of its two registers and yields the byte to store and, for most
  operations, a flag: the carry of an addition, the absence of a borrow of a subtraction, the bit
  that a shift moves out.  Both shifts read the first register only.

  Result and flag together lose nothing: `toNat_add_carry`, `toNat_sub_borrow`,
  `toNat_shiftRight_out` and `toNat_shiftLeft_out` give the exact sums.

  The same operations are there for whole numbers of any size: sums, differences and the shift to the
  left keep their last byte, and everything else is exact.
-/
import Chip8.Machine.Word
import Chip8.Number.Signed

namespace Chip8

/-- The operations between two registers. -/
inductive AluOp
  | copy
  | or
  | and
  | xor
  | add
  | subtract
  | shiftRight
  | subtractFrom
  | shiftLeft
deriving DecidableEq, Repr

namespace AluOp

/-- The operation of a last nibble; seven nibbles have none. -/
def ofNibble? (n : Nibble) : Option AluOp :=
  match n.val with
  | 0x0 => some .copy
  | 0x1 => some .or
  | 0x2 => some .and
  | 0x3 => some .xor
  | 0x4 => some .add
  | 0x5 => some .subtract
  | 0x6 => some .shiftRight
  | 0x7 => some .subtractFrom
  | 0xE => some .shiftLeft
  | _ => none

/-- The byte to store and, unless the flag register is left alone, the flag. -/
def apply (op : AluOp) (a b : UInt8) : UInt8 × Option Bool :=
  match op with
  | .copy => (b, none)
  | .or => (a ||| b, none)
  | .and => (a &&& b, none)
  | .xor => (a ^^^ b, none)
  | .add => (a + b, some (255 < a.toNat + b.toNat))
  | .subtract => (a - b, some (b ≤ a))
  | .shiftRight => (a >>> 1, some (a.toNat % 2 = 1))
  | .subtractFrom => (b - a, some (a ≤ b))
  | .shiftLeft => (a <<< 1, some (128 ≤ a))

/-- The result and, where there is one, the flag of an operation on whole numbers. -/
def applyWhole (op : AluOp) (a b : Int) : Int × Option Bool :=
  match op with
  | .copy => (b, none)
  | .or => (Signed.or a b, none)
  | .and => (Signed.and a b, none)
  | .xor => (Signed.xor a b, none)
  | .add => ((a + b) % 256, some (255 < a + b))
  | .subtract => ((a - b) % 256, some (b ≤ a))
  | .shiftRight => (a / 2, some (a % 2 = 1))
  | .subtractFrom => ((b - a) % 256, some (a ≤ b))
  | .shiftLeft => (2 * a % 256, some (a / 128 % 2 = 1))

end AluOp

/-- A flag as the byte that the flag register holds. -/
def flagByte (flag : Bool) : UInt8 := if flag then 1 else 0

/-! ## Result and flag together lose nothing -/

theorem toNat_add_carry (a b : UInt8) :
    (a + b).toNat + 256 * (decide (255 < a.toNat + b.toNat)).toNat = a.toNat + b.toNat := by
  have := a.toNat_lt; have := b.toNat_lt
  rw [UInt8.toNat_add]
  by_cases h : 255 < a.toNat + b.toNat <;> simp [h] <;> omega

theorem toNat_sub_borrow (a b : UInt8) :
    (a - b).toNat + b.toNat = a.toNat + 256 * (1 - (decide (b ≤ a)).toNat) := by
  have := a.toNat_lt; have := b.toNat_lt
  rw [UInt8.toNat_sub]
  by_cases h : b ≤ a
  · have := UInt8.le_iff_toNat_le.1 h
    simp [h]; omega
  · have := mt UInt8.le_iff_toNat_le.2 h
    simp [h]; omega

theorem toNat_shiftRight_one (a : UInt8) : (a >>> 1).toNat = a.toNat / 2 := by
  simp [UInt8.toNat_shiftRight, Nat.shiftRight_eq_div_pow]

theorem toNat_shiftRight_out (a : UInt8) :
    2 * (a >>> 1).toNat + (decide (a.toNat % 2 = 1)).toNat = a.toNat := by
  rw [toNat_shiftRight_one]
  by_cases h : a.toNat % 2 = 1 <;> simp [h] <;> omega

theorem toNat_shiftLeft_one (a : UInt8) : (a <<< 1).toNat = 2 * a.toNat % 256 := by
  simp [UInt8.toNat_shiftLeft, Nat.shiftLeft_eq, Nat.mul_comm]

theorem toNat_shiftLeft_out (a : UInt8) :
    (a <<< 1).toNat + 256 * (decide (128 ≤ a)).toNat = 2 * a.toNat := by
  have := a.toNat_lt
  rw [toNat_shiftLeft_one]
  by_cases h : 128 ≤ a
  · have : 128 ≤ a.toNat := UInt8.le_iff_toNat_le.1 h
    simp [h]; omega
  · have : ¬ 128 ≤ a.toNat := fun t => h (UInt8.le_iff_toNat_le.2 t)
    simp [h]; omega

end Chip8
