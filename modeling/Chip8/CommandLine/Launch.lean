/-
  From the command line to a session.

  Arguments that can be read start a session on the file that they name.  Settings that cannot be
  used are reported with status 2 before anything is read, and a program that cannot be read with
  status 1.  Whatever else ends the session without a status is passed on.

  A setting without a value is noticed when it is looked at, that is after those before it in
  `lookedAt` have been accepted; it ends everything.
-/
import Chip8.CommandLine.Arguments
import Chip8.CommandLine.Help
import Chip8.Session.Run

namespace Chip8.CommandLine

/-- The name of the logger of sessions. -/
def loggerName : String := "chip8vm"

/-- The settings in the order in which they are looked at.  The seed comes last: every seed is
    accepted, and looked at only when the random source is made. -/
def Setting.lookedAt : List Setting :=
  [.instructionRate, .renderRate, .scale, .scheme, .logLevel, .seed]

/-- The setting that is refused. -/
def refusedSetting : SettingsError → Setting
  | .instructionRate _ => .instructionRate
  | .renderRate _ => .renderRate
  | .scale _ => .scale
  | .scheme _ => .scheme
  | .logLevel _ => .logLevel

/-- A setting that has no value when it is looked at. -/
structure Unset where
  setting : Setting
deriving DecidableEq, Repr

namespace Arguments

/-- The first setting without a value among those that are looked at before the settings are
    accepted, or up to the one that is refused. -/
def firstUnset? (a : Arguments) : Option Setting :=
  let seen :=
    match a.settings.check with
    | .ok _ => Setting.lookedAt
    | .error e => Setting.lookedAt.take (Setting.lookedAt.idxOf (refusedSetting e) + 1)
  seen.find? fun s => a.unset.contains s

/-- Runs a session with the settings of the arguments, all of which have a value. -/
def session (a : Arguments) (d : Directory) (start : Float) (frames : List Frame)
    (limits : Limits := .usual) : Session.Report :=
  match a.settings.check with
  | .error e => { result := .ok 2, log := [(start, ⟨.error, e.message⟩)] }
  | .ok c =>
    let report := Session.run c d (.file a.rom) start frames limits
    match report.result with
    | .error (.read (.rom e)) =>
      { report with
        result := .ok 1
        log := report.log ++ (Log.note c.threshold .error e.message).map fun m => (start, m) }
    | _ => report

/-- Runs a session as the arguments say, unless a setting without a value is come upon. -/
def launch (a : Arguments) (d : Directory) (start : Float) (frames : List Frame)
    (limits : Limits := .usual) : Except Unset Session.Report :=
  match a.firstUnset? with
  | some s => .error ⟨s⟩
  | none => .ok (a.session d start frames limits)

end Arguments

/-- The lines that are shown in place of a session. -/
def Exit.lines (e : Exit) (program : String) : List String :=
  match e with
  | .help => Help.lines program
  | .usage => []

end Chip8.CommandLine
