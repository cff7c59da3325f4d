/-
  The flags of the command line.

  Each setting of a session has a flag that takes a value; one more flag asks for help.
  `Setting.store?` puts a value that is given as text into the settings, unless the text is none that
  the setting takes.  Settings with a fixed choice of values take those alone, spelled exactly.
-/
import Chip8.Number.Reading
import Chip8.Session.Settings

namespace Chip8.CommandLine

/-- The settings that flags can change. -/
inductive Setting
  | instructionRate
  | renderRate
  | scale
  | scheme
  | seed
  | logLevel
deriving DecidableEq, Repr

namespace Setting

/-- The settings in the order of the help. -/
def all : List Setting := [.instructionRate, .renderRate, .scale, .scheme, .seed, .logLevel]

/-- The flag of a setting. -/
def flag : Setting → String
  | .instructionRate => "--instruction-rate"
  | .renderRate => "--render-rate"
  | .scale => "--scale"
  | .scheme => "--color-scheme"
  | .seed => "--seed"
  | .logLevel => "--log-level"

/-- Puts a value into the settings. -/
def store? (setting : Setting) (text : String) (s : Settings) : Option Settings :=
  match setting with
  | .instructionRate => (Reading.double? text).map fun x => { s with instructionRate := x }
  | .renderRate => (Reading.double? text).map fun x => { s with renderRate := x }
  | .scale => (Reading.integer? text).map fun n => { s with scale := n }
  | .scheme => (Scheme.ofName text).toOption.map fun c => { s with scheme := c.name }
  | .seed => (Reading.integer? text).map fun n => { s with seed := n }
  | .logLevel => (Log.Level.ofName? text).map fun l => { s with logLevel := l.name }

end Setting

/-- What a flag is for. -/
inductive Flag
  /-- Shows the help. -/
  | help
  /-- Changes a setting. -/
  | setting (s : Setting)
deriving DecidableEq, Repr

namespace Flag

/-- All flags. -/
def all : List Flag := .help :: Setting.all.map .setting

/-- The long name of a flag. -/
def name : Flag → String
  | .help => "--help"
  | .setting s => s.flag

end Flag

end Chip8.CommandLine
