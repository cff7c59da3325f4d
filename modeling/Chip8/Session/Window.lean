/-
  The window of a session.

  A window is asked for by its two sides in picture points.  Sides that have no place in 64 bits
  cannot even be read.  Of the others the last 32 bits count, and both have to come out between zero
  and the longest side that a window can have; a window without any extent covers the desktop.
-/
import Chip8.Limits
import Chip8.Machine.Screen

namespace Chip8

/-- Why a window cannot be opened. -/
inductive WindowError
  /-- A side does not fit 64 bits. -/
  | unreadable
  /-- A side is negative or too long. -/
  | impossible
deriving DecidableEq, Repr

/-- The size of a window as it is asked for, in picture points. -/
structure Window where
  width : Int
  height : Int
deriving DecidableEq, Repr

namespace Window

/-- The window for the screen at a scale. -/
def ofScale (scale : Int) : Window := ⟨Screen.width * scale, Screen.height * scale⟩

/-- Whether a window can have a side. -/
def admits (limits : Limits) (side : Int) : Bool :=
  0 ≤ Signed.last32 side ∧ Signed.last32 side ≤ limits.longest

/-- Why a window cannot be opened, if it cannot. -/
def failure? (limits : Limits) (w : Window) : Option WindowError :=
  if !(Signed.fits64 w.width && Signed.fits64 w.height) then some .unreadable
  else if admits limits w.width && admits limits w.height then none
  else some .impossible

end Window

end Chip8
