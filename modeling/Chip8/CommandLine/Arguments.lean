/-
  The arguments of the command line: which program to run, and with what settings.

  Arguments are read from left to right.  The first word names the program; each flag of a setting
  takes the value joined to it or the word after it, and the last value of a setting counts.  The
  mark `--` joined to a flag takes the value of the setting away.  The first thing that cannot be so
  ends the reading, and so does a request for help.  What is left over is found fault with only at
  the end.
-/
import Chip8.CommandLine.Token

namespace Chip8.CommandLine

/-- The arguments of a call. -/
structure Arguments where
  /-- The file of the program. -/
  rom : String
  settings : Settings
  /-- The settings whose value was taken away. -/
  unset : List Setting := []

/-- Why there are no arguments. -/
inductive Exit
  /-- Help was asked for. -/
  | help
  /-- The arguments cannot be understood. -/
  | usage
deriving DecidableEq, Repr

/-- The status that is then returned. -/
def Exit.status : Exit → Nat
  | .help => 0
  | .usage => 2

/-- What has been found in arguments so far. -/
structure Draft where
  rom : Option String := none
  settings : Settings := {}
  /-- The settings whose value was taken away. -/
  unset : List Setting := []
  /-- Whether there was something that nothing takes. -/
  surplus : Bool := false

namespace Draft

/-- A word that no flag takes: the first is the program's file. -/
def addWord (d : Draft) (text : String) : Draft :=
  match d.rom with
  | none => { d with rom := some text }
  | some _ => { d with surplus := true }

/-- Something that nothing takes. -/
def addSurplus (d : Draft) : Draft := { d with surplus := true }

/-- Gives a setting a value. -/
def store (d : Draft) (s : Setting) (text : String) : Except Exit Draft :=
  match s.store? text d.settings with
  | some settings => .ok { d with settings, unset := d.unset.filter (· ≠ s) }
  | none => .error .usage

/-- Gives a setting the value that is joined to its flag, or takes its value away. -/
def storeJoined (d : Draft) (s : Setting) (text : String) : Except Exit Draft :=
  if text = "--" then .ok { d with unset := s :: d.unset } else d.store s text

/-- Reads what is left of the arguments.  A separator next to a word goes with it. -/
def read (d : Draft) : List Token → Except Exit Draft
  | [] => .ok d
  | .word text :: .separator :: rest => (d.addWord text).read rest
  | .separator :: .word text :: rest => (d.addWord text).read rest
  | .word text :: rest => (d.addWord text).read rest
  | .separator :: rest => d.addSurplus.read rest
  | .unknown :: rest => d.addSurplus.read rest
  | .flag .help none :: _ => .error .help
  | .flag .help (some _) :: _ => .error .usage
  | .flag (.setting s) (some value) :: rest =>
    match d.storeJoined s value with
    | .ok d => d.read rest
    | .error e => .error e
  | .flag (.setting s) none :: .word value :: rest =>
    match d.store s value with
    | .ok d => d.read rest
    | .error e => .error e
  | .flag (.setting _) none :: _ => .error .usage

/-- The arguments, if a program is named and nothing is left over. -/
def finish (d : Draft) : Except Exit Arguments :=
  match d.rom, d.surplus with
  | some rom, false => .ok ⟨rom, d.settings, d.unset⟩
  | _, _ => .error .usage

end Draft

/-- Reads the arguments of a call. -/
def Arguments.parse (texts : List String) : Except Exit Arguments :=
  match Token.ofTexts? texts with
  | none => .error .usage
  | some tokens =>
    match ({} : Draft).read tokens with
    | .ok d => d.finish
    | .error e => .error e

end Chip8.CommandLine
