/-
  The program: a session on a terminal.

  Standard input tells what the user does, a line for each frame: the time in seconds, and then what
  has happened since the frame before, which is `quit`, a key pushed down such as `+q`, or a key let
  go such as `-q`.  Standard output shows the log, and at the end the last picture in colours.
-/
import Chip8.CommandLine.Launch

namespace Chip8.Terminal

/-- What one word of a line says that the user does. -/
def event? (word : String) : Option Event :=
  match word.toList with
  | '+' :: key => some (.down (String.ofList key))
  | '-' :: key => some (.up (String.ofList key))
  | _ => if word = "quit" then some .quit else none

/-- The frame of a line, unless the line begins with no time. -/
def frame? (line : String) : Option Frame :=
  match (line.trimAscii.toString.splitOn " ").filter (· ≠ "") with
  | [] => none
  | time :: words => (Reading.double? time).map fun time => ⟨time, words.filterMap event?⟩

/-- A row of a picture, each point as two blanks on its colour. -/
def row (colors : List Color) : String :=
  String.join (colors.map fun c => s!"\x1b[48;2;{c.red};{c.green};{c.blue}m  ") ++ "\x1b[0m"

/-- Says why a session ended without a status. -/
def reason : SessionError → String
  | .seed => "the seed does not fit 64 bits"
  | .read (.rom e) => e.message
  | .read (.other text) => text
  | .clock e => e.message.getD "the clock counts without end"
  | .rate _ => "the instruction rate has no integer part"
  | .machine => "a number of the machine is out of range"
  | .window _ => "the window cannot be opened"
  | .picture _ => "the picture is too large"

/-- The frames of standard input. -/
partial def readFrames (input : IO.FS.Stream) (before : List Frame) : IO (List Frame) := do
  let line ← input.getLine
  if line.isEmpty then return before.reverse
  readFrames input ((frame? line).toList ++ before)

/-- The name under which the program's file is handed on. -/
def fileName : String := "program"

/-- The arguments and a directory with the file that they name.  A file that cannot be read is left
    out of it. -/
def openProgram (a : CommandLine.Arguments) : IO (CommandLine.Arguments × Directory) := do
  try
    let content ← IO.FS.readBinFile a.rom
    return ({ a with rom := fileName }, { files := [(fileName, content.data)] })
  catch _ => return (a, {})

/-- Shows a session and returns its status. -/
def present (report : Session.Report) : IO UInt32 := do
  let logger : Log.Logger := { name := CommandLine.loggerName, start := 0 }
  for (time, entry) in report.log do
    IO.println (logger.line time entry)
  for shot in report.shots.getLast?.toList do
    for colors in shot.image.rows do
      IO.println (row colors)
  match report.result with
  | .ok status => return status.toUInt32
  | .error e =>
    IO.eprintln (reason e)
    return 1

end Chip8.Terminal

open Chip8 in
/-- Runs the program that the arguments name. -/
def main (texts : List String) : IO UInt32 := do
  match CommandLine.Arguments.parse texts with
  | .error e =>
    for line in e.lines "chip8" do
      IO.println line
    if e = .usage then
      for line in CommandLine.Help.usage "chip8" do
        IO.eprintln line
    return e.status.toUInt32
  | .ok a =>
    let (a, d) ← Terminal.openProgram a
    let frames ← Terminal.readFrames (← IO.getStdin) []
    match a.launch d 0 frames with
    | .ok report => Terminal.present report
    | .error e =>
      IO.eprintln (e.setting.flag ++ " has no value")
      return 1
