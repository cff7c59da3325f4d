/-
  The instructions and their decoding.

  A word is decoded by its family, its first nibble; families 0, 5, 8, 9, E and F look at the rest
  of the word as well, and the words that they have no use for decode to nothing.  A word of
  family 0 that is neither 00E0 nor 00EE is a call of a machine-language routine: it is an
  instruction, which no machine here executes.
-/
import Chip8.Machine.Arithmetic

namespace Chip8

/-- What a skip instruction tests. -/
inductive Condition
  /-- The register holds the byte. -/
  | equalsByte (x : Register) (b : UInt8)
  /-- The register does not hold the byte. -/
  | differsByte (x : Register) (b : UInt8)
  /-- Both registers hold the same byte. -/
  | equal (x y : Register)
  /-- The registers hold different bytes. -/
  | differ (x y : Register)
  /-- The key named by the low nibble of the register is held. -/
  | keyHeld (x : Register)
  /-- The key named by the low nibble of the register is not held. -/
  | keyFree (x : Register)
deriving DecidableEq, Repr

/-- What a word tells the machine to do. -/
inductive Instruction
  /-- `0NNN`: call the machine-language routine at an address. -/
  | machineCall (target : Address)
  /-- `00E0`: make the screen dark. -/
  | clear
  /-- `00EE`: go back to the address on top of the call stack. -/
  | ret
  /-- `1NNN`: go to an address. -/
  | jump (target : Address)
  /-- `2NNN`: go to an address and remember where to come back to. -/
  | call (target : Address)
  /-- `3XNN`, `4XNN`, `5XY0`, `9XY0`, `EX9E`, `EXA1`: leave out the next instruction if a condition
      holds. -/
  | skip (condition : Condition)
  /-- `6XNN`: put a byte into a register. -/
  | set (x : Register) (b : UInt8)
  /-- `7XNN`: add a byte to a register, without a flag. -/
  | addByte (x : Register) (b : UInt8)
  /-- `8XYN`: combine two registers. -/
  | combine (op : AluOp) (x y : Register)
  /-- `ANNN`: put an address into the index. -/
  | setIndex (a : Address)
  /-- `BNNN`: go to an address plus register 0. -/
  | jumpOffset (a : Address)
  /-- `CXNN`: put a random byte, masked, into a register. -/
  | random (x : Register) (mask : UInt8)
  /-- `DXYN`: draw the sprite of so many rows at the index, at the position in two registers. -/
  | draw (x y : Register) (rows : Nibble)
  /-- `FX07`: read the delay timer. -/
  | getDelay (x : Register)
  /-- `FX0A`: wait until a key is held and put it into a register. -/
  | awaitKey (x : Register)
  /-- `FX15`: set the delay timer. -/
  | setDelay (x : Register)
  /-- `FX18`: set the sound timer. -/
  | setSound (x : Register)
  /-- `FX1E`: add a register to the index. -/
  | addIndex (x : Register)
  /-- `FX29`: point the index to the glyph of a digit. -/
  | pointGlyph (x : Register)
  /-- `FX33`: store the three decimal digits of a register at the index. -/
  | storeDigits (x : Register)
  /-- `FX55`: store register 0 to the given one at the index. -/
  | saveRegisters (x : Register)
  /-- `FX65`: load register 0 to the given one from the index. -/
  | loadRegisters (x : Register)
deriving DecidableEq, Repr

namespace Instruction

/-- The instruction of a word of family `F`, which its last byte names. -/
def decodeMisc? (x : Register) (nn : UInt8) : Option Instruction :=
  match nn.toNat with
  | 0x07 => some (.getDelay x)
  | 0x0A => some (.awaitKey x)
  | 0x15 => some (.setDelay x)
  | 0x18 => some (.setSound x)
  | 0x1E => some (.addIndex x)
  | 0x29 => some (.pointGlyph x)
  | 0x33 => some (.storeDigits x)
  | 0x55 => some (.saveRegisters x)
  | 0x65 => some (.loadRegisters x)
  | _ => none

/-- The instruction of a word; some words have none. -/
def decode? (w : Word) : Option Instruction :=
  match w.family.val with
  | 0x0 => some (if w = 0x00E0 then .clear else if w = 0x00EE then .ret else .machineCall w.nnn)
  | 0x1 => some (.jump w.nnn)
  | 0x2 => some (.call w.nnn)
  | 0x3 => some (.skip (.equalsByte w.x w.nn))
  | 0x4 => some (.skip (.differsByte w.x w.nn))
  | 0x5 => if w.n.val = 0 then some (.skip (.equal w.x w.y)) else none
  | 0x6 => some (.set w.x w.nn)
  | 0x7 => some (.addByte w.x w.nn)
  | 0x8 => (AluOp.ofNibble? w.n).map (.combine · w.x w.y)
  | 0x9 => if w.n.val = 0 then some (.skip (.differ w.x w.y)) else none
  | 0xA => some (.setIndex w.nnn)
  | 0xB => some (.jumpOffset w.nnn)
  | 0xC => some (.random w.x w.nn)
  | 0xD => some (.draw w.x w.y w.n)
  | 0xE =>
    if w.nn = 0x9E then some (.skip (.keyHeld w.x))
    else if w.nn = 0xA1 then some (.skip (.keyFree w.x))
    else none
  | _ => decodeMisc? w.x w.nn

example : decode? 0x00E0 = some .clear := by decide
example : decode? 0x8AB4 = some (.combine .add 0xA 0xB) := by decide
example : decode? 0x8ABC = none := by decide
example : decode? 0xF265 = some (.loadRegisters 2) := by decide

end Instruction

end Chip8
