/-
  Log levels.

  The five levels are ordered by rank.  A logger shows an entry whose level ranks at least as high
  as its own threshold.  Levels also arrive as text, in any case; a text that names no level ranks
  as `INFO` when it is the level of a message, and is refused as a threshold.

  `note` is a message as a logger of a given threshold passes it on, and `note_eq_filter` says that
  this is the unfiltered message with the levels below the threshold left out.
-/
import Chip8.Text.Quoted
import Chip8.Text.UpperCase

namespace Chip8.Log

/-- How important a message is. -/
inductive Level
  | debug
  | info
  | warning
  | error
  | critical
deriving DecidableEq, Repr

namespace Level

/-- The levels, least important first. -/
def all : List Level := [.debug, .info, .warning, .error, .critical]

/-- The place of a level in the order of importance. -/
def rank : Level → Nat
  | .debug => 0
  | .info => 1
  | .warning => 2
  | .error => 3
  | .critical => 4

/-- The name of a level. -/
def name : Level → String
  | .debug => "DEBUG"
  | .info => "INFO"
  | .warning => "WARNING"
  | .error => "ERROR"
  | .critical => "CRITICAL"

/-- The level with the given upper-case name. -/
def ofName? (name : String) : Option Level := all.find? (·.name == name)

/-- The level that a text names in any case. -/
def ofText? (text : String) : Option Level := ofName? (UpperCase.upper text)

/-- The rank of a text as the level of a message. -/
def textRank (text : String) : Nat :=
  match ofText? text with
  | some l => l.rank
  | none => info.rank

/-- Whether a threshold lets a level through. -/
def admits (threshold level : Level) : Bool := threshold.rank ≤ level.rank

end Level

/-- A text that names no level. -/
structure UnknownLevel where
  text : String
deriving DecidableEq, Repr

namespace UnknownLevel

/-- Says which text names no level. -/
def message (e : UnknownLevel) : String := "Unknown log level '" ++ e.text ++ "'"

/-- Says which text names no level, and which ones do. -/
def fullMessage (e : UnknownLevel) : String :=
  e.message ++ ". Available: " ++ Quoted.encodeList (Level.all.map Level.name)

end UnknownLevel

/-- The level that a text names, for a threshold. -/
def Level.parse (text : String) : Except UnknownLevel Level :=
  match Level.ofText? text with
  | some l => .ok l
  | none => .error ⟨text⟩

/-- A message with its level. -/
structure Entry where
  level : Level
  text : String
deriving DecidableEq, Repr

/-- A message as a logger with the given threshold passes it on. -/
def note (threshold level : Level) (text : String) : List Entry :=
  if threshold.admits level then [⟨level, text⟩] else []

/-- A threshold takes out of what `DEBUG` lets through the entries of lower level. -/
theorem note_eq_filter (threshold level : Level) (text : String) :
    note threshold level text =
      (note .debug level text).filter fun e => threshold.admits e.level := by
  have : Level.debug.admits level = true := by cases level <;> rfl
  simp only [note, this, if_true, List.filter_cons, List.filter_nil]

end Chip8.Log
