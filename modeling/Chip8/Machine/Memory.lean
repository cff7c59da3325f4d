/-
  Memory: 4096 bytes on a ring of addresses.

  Every access takes an integer address and reduces it modulo 4096, so that a block that runs past
  the end goes on at address 0.  A fresh memory holds the sixteen glyphs at its start and zeros
  elsewhere; a program goes to 0x200, and what does not fit below the end is left out.

  `read_write` says what one write changes, `getElem_load` what a loaded program changes.
-/
import Chip8.Machine.Word

namespace Chip8

/-- A finite string of bytes, such as the contents of a program file. -/
abbrev Bytes := Array UInt8

/-- The bytes of a machine, one for each twelve bit address. -/
abbrev Memory := Vector UInt8 4096

namespace Memory

/-- The number of bytes of memory. -/
def size : Nat := 4096

/-- Where a program is loaded. -/
def programStart : Nat := 0x200

/-- The number of program bytes that fit between `programStart` and the end. -/
def capacity : Nat := size - programStart

/-- Where the glyphs start. -/
def glyphStart : Nat := 0

/-- The number of rows, one byte each, of a glyph. -/
def glyphSize : Nat := 5

/-- The glyphs of the hexadecimal digits, five rows each; the high half of a row is its picture. -/
def glyphs : Bytes := #[
  0xF0, 0x90, 0x90, 0x90, 0xF0,  -- 0
  0x20, 0x60, 0x20, 0x20, 0x70,  -- 1
  0xF0, 0x10, 0xF0, 0x80, 0xF0,  -- 2
  0xF0, 0x10, 0xF0, 0x10, 0xF0,  -- 3
  0x90, 0x90, 0xF0, 0x10, 0x10,  -- 4
  0xF0, 0x80, 0xF0, 0x10, 0xF0,  -- 5
  0xF0, 0x80, 0xF0, 0x90, 0xF0,  -- 6
  0xF0, 0x10, 0x20, 0x40, 0x40,  -- 7
  0xF0, 0x90, 0xF0, 0x90, 0xF0,  -- 8
  0xF0, 0x90, 0xF0, 0x10, 0xF0,  -- 9
  0xF0, 0x90, 0xF0, 0x90, 0x90,  -- A
  0xE0, 0x90, 0xE0, 0x90, 0xE0,  -- B
  0xF0, 0x80, 0x80, 0x80, 0xF0,  -- C
  0xE0, 0x90, 0x90, 0x90, 0xE0,  -- D
  0xF0, 0x80, 0xF0, 0x80, 0xF0,  -- E
  0xF0, 0x80, 0xF0, 0x80, 0x80]  -- F

/-- The glyphs followed by zeros. -/
def fresh : Memory := Vector.ofFn fun a => glyphs.getD a.val 0

/-- The byte at `a`, reduced modulo 4096. -/
def read (m : Memory) (a : Int) : UInt8 := m[Address.ofInt a]

/-- Puts `b` at `a`, reduced modulo 4096. -/
def write (m : Memory) (a : Int) (b : UInt8) : Memory :=
  m.set (Address.ofInt a).val b (Address.ofInt a).isLt

/-- The `n` bytes from `a` on, round the end of memory. -/
def readBlock (m : Memory) (a : Int) (n : Nat) : List UInt8 :=
  (List.range n).map fun k : Nat => m.read (a + k)

/-- Puts the bytes one after the other from `a` on, round the end of memory. -/
def writeBlock (m : Memory) (a : Int) : List UInt8 → Memory
  | [] => m
  | b :: bs => (m.write a b).writeBlock (a + 1) bs

/-- Puts a program at 0x200; bytes past the end of memory are left out. -/
def load (m : Memory) (program : Bytes) : Memory :=
  Vector.ofFn fun a =>
    if programStart ≤ a.val then program.getD (a.val - programStart) m[a] else m[a]

/-! ## What a write and a load change -/

theorem read_write (m : Memory) (a a' : Int) (b : UInt8) :
    (m.write a b).read a' = if a % 4096 = a' % 4096 then b else m.read a' := by
  simp only [read, write, Fin.getElem_fin, Vector.getElem_set, Address.ofInt]
  congr 1
  simp only [eq_iff_iff]; omega

theorem length_readBlock (m : Memory) (a : Int) (n : Nat) : (m.readBlock a n).length = n := by
  simp [readBlock]

theorem getElem_load (m : Memory) (program : Bytes) (a : Nat) (h : a < 4096) :
    (m.load program)[a] =
      if 0x200 ≤ a then program.getD (a - 0x200) m[a] else m[a] := by
  simp [load, programStart]

theorem getElem_fresh (a : Nat) (h : a < 4096) : fresh[a] = glyphs.getD a 0 := by
  simp [fresh]

theorem read_load (m : Memory) (program : Bytes) (a : Int) :
    (m.load program).read a =
      if 0x200 ≤ (Address.ofInt a).val then program.getD ((Address.ofInt a).val - 0x200) (m.read a)
      else m.read a := by
  simp only [read, Fin.getElem_fin, getElem_load]

theorem read_fresh (a : Int) : fresh.read a = glyphs.getD (Address.ofInt a).val 0 := by
  simp only [read, Fin.getElem_fin, getElem_fresh]

end Memory

end Chip8
