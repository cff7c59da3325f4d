/-
  What a computer allows the sessions that run on it.

  How large a picture can become is a matter of its memory, and how large a window, of its window system.
  Both come from outside, so that all that is said of pictures and sessions is said for any `Limits`.
-/

namespace Chip8

/-- The limits that a computer sets to pictures and windows. -/
structure Limits where
  /-- The most bytes that an enlarged picture can take. -/
  memory : Nat
  /-- The longest side that a window can have, in picture points. -/
  longest : Nat
  /-- Bytes are addressed by signed numbers of 64 bits. -/
  addressable : memory < 0x8000000000000000

namespace Limits

/-- Four GiB to spare for a picture, and windows of up to 16384 points a side, which is where the window
    library draws the line. -/
def usual : Limits := ⟨0x100000000, 16384, by decide⟩

/-- Whether there is memory for the picture of the screen at every scale up to 256. -/
def Ample (l : Limits) : Prop := 3 * (64 * 256) * (32 * 256) ≤ l.memory

instance (l : Limits) : Decidable l.Ample := inferInstanceAs (Decidable (_ ≤ l.memory))

example : usual.Ample := by decide

end Limits

end Chip8
