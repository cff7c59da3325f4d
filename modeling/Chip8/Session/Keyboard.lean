/-
  The keyboard layout: which key of the keyboard stands for which key of the keypad.

      1 2 3 C      1 2 3 4
      4 5 6 D  ->  Q W E R
      7 8 9 E      A S D F
      A 0 B F      Z X C V

  Other keys mean nothing, but for `escape`, which ends a session.
-/
import Chip8.Machine.Keypad

namespace Chip8

namespace Keyboard

/-- The keys of the keyboard that stand for keys of the keypad. -/
def layout : List (String × Nibble) :=
  [("1", 0x1), ("2", 0x2), ("3", 0x3), ("4", 0xC),
   ("q", 0x4), ("w", 0x5), ("e", 0x6), ("r", 0xD),
   ("a", 0x7), ("s", 0x8), ("d", 0x9), ("f", 0xE),
   ("z", 0xA), ("x", 0x0), ("c", 0xB), ("v", 0xF)]

/-- The key of the keypad that a key of the keyboard stands for. -/
def keyOf? (name : String) : Option Nibble := layout.lookup name

end Keyboard

/-- What a user does. -/
inductive Event
  /-- Closes the window. -/
  | quit
  /-- Pushes a key of the keyboard down. -/
  | down (key : String)
  /-- Lets a key of the keyboard go. -/
  | up (key : String)
deriving DecidableEq, Repr

namespace Event

/-- Whether an event ends the session. -/
def quits : Event → Bool
  | .quit => true
  | .down key => key == "escape"
  | .up _ => false

/-- What an event does to the keypad. -/
def apply (k : Keypad) : Event → Keypad
  | .quit => k
  | .down key => ((Keyboard.keyOf? key).map fun i => k.set i true).getD k
  | .up key => ((Keyboard.keyOf? key).map fun i => k.set i false).getD k

end Event

end Chip8
