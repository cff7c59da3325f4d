/-
  Loggers.

  A logger prints the messages that its threshold lets through, one line each: the time since it was
  made, if it shows times, the level, its own name and the message.  The level stands between
  terminal colour codes when the logger uses colours.
-/
import Chip8.Log.Level
import Chip8.Number.Text

namespace Chip8.Log

/-- A named printer of messages. -/
structure Logger where
  name : String
  threshold : Level := .info
  colors : Bool := false
  timestamps : Bool := true
  /-- When the logger was made, in seconds. -/
  start : Float

namespace Logger

/-- A logger with a threshold given as text.  Colours are used only on a terminal. -/
def create (name level : String) (colors terminal timestamps : Bool) (start : Float) :
    Except UnknownLevel Logger :=
  (Level.parse level).map fun threshold =>
    { name, threshold, colors := colors && terminal, timestamps, start }

/-- Changes the threshold. -/
def setLevel (l : Logger) (level : String) : Except UnknownLevel Logger :=
  (Level.parse level).map fun threshold => { l with threshold }

/-- Whether messages of a level given as text are printed. -/
def enabled (l : Logger) (level : String) : Bool :=
  l.threshold.rank ≤ Level.textRank level

/-- A terminal code that switches to the given colour; 0 switches back. -/
def colorCode (n : Nat) : String := s!"\x1b[{n}m"

/-- The terminal code of an upper-case level name; names of no level have none, but for `RESET`. -/
def levelColor (label : String) : String :=
  match Level.ofName? label with
  | some .debug => colorCode 36
  | some .info => colorCode 32
  | some .warning => colorCode 33
  | some .error => colorCode 31
  | some .critical => colorCode 35
  | none => if label = "RESET" then colorCode 0 else ""

/-- A message of an upper-case level name, as it is printed at the time `now`. -/
def format (l : Logger) (now : Float) (label message : String) : String :=
  let stamp := if l.timestamps then "[" ++ NumberText.fixed (now - l.start) ++ "s]" else ""
  let level := "[" ++ String.ofList (label.toList.leftpad 8 ' ') ++ "]"
  let level := if l.colors then levelColor label ++ level ++ colorCode 0 else level
  stamp ++ level ++ "[" ++ l.name ++ "] " ++ message

/-- The line of an entry. -/
def line (l : Logger) (now : Float) (e : Entry) : String :=
  l.format now e.level.name e.text

/-- What a message with a level given as text prints. -/
def log (l : Logger) (now : Float) (level message : String) : Option String :=
  if l.enabled level then some (l.format now (UpperCase.upper level) message) else none

end Logger

end Chip8.Log
