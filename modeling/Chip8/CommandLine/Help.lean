/-
  The help.

  A line of usage, broken between its parts where they would pass the right margin; the purpose of
  the program; and a list of the arguments with what they mean.
-/
import Chip8.CommandLine.Flag

namespace Chip8.CommandLine.Help

/-- The most characters in a line. -/
def width : Nat := 78

/-- The column at which explanations begin. -/
def column : Nat := 24

/-- A list of values to choose from. -/
def choices (names : List String) : String := "\x7b" ++ String.intercalate "," names ++ "\x7d"

/-- What stands for the value of a setting. -/
def placeholder : Setting → String
  | .instructionRate => "INSTRUCTION_RATE"
  | .renderRate => "RENDER_RATE"
  | .scale => "SCALE"
  | .scheme => choices ((Scheme.all.map Scheme.name).mergeSort (· ≤ ·))
  | .seed => "SEED"
  | .logLevel => choices (Log.Level.all.map Log.Level.name)

/-- What a setting is, and its default.  Values to choose from explain themselves. -/
def explanation (setting : Setting) : Option String :=
  let s : Settings := {}
  let text (what default : String) : Option String := some (what ++ " (default: " ++ default ++ ")")
  match setting with
  | .instructionRate =>
    text "Instructions executed per second" (NumberText.shortest s.instructionRate)
  | .renderRate => text "Frames drawn per second" (NumberText.shortest s.renderRate)
  | .scale => text "Window pixels per CHIP-8 pixel" (toString s.scale)
  | .seed => text "Seed of the random number source" (toString s.seed)
  | .scheme | .logLevel => none

/-- A flag with its value. -/
def header (s : Setting) : String := s.flag ++ " " ++ placeholder s

/-- Adds a part to the last of some lines of parts, or begins a new one if it would be too long. -/
def addPart (room : Nat) (lines : List (List String)) (part : String) : List (List String) :=
  match lines.reverse with
  | [] => [[part]]
  | last :: before =>
    if (String.intercalate " " (last ++ [part])).length ≤ room then
      (((last ++ [part]) :: before).reverse)
    else lines ++ [[part]]

/-- The lines that say how the program is called. -/
def usage (program : String) : List String :=
  let start := "usage: " ++ program ++ " "
  let indent := String.ofList (List.replicate start.length ' ')
  let parts := "[-h]" :: Setting.all.map fun s => "[" ++ header s ++ "]"
  let lines := (parts.foldl (addPart (width - start.length)) []).map (String.intercalate " ")
  match lines ++ ["rom"] with
  | first :: rest => (start ++ first) :: rest.map (indent ++ ·)
  | [] => []

/-- An argument with its explanation beside it, or below it if there is no room. -/
def entry (header : String) (explanation : Option String) : List String :=
  let pad (n : Nat) : String := String.ofList (List.replicate n ' ')
  let first := "  " ++ header
  match explanation with
  | none => [first]
  | some text =>
    if first.length + 2 ≤ column then [first ++ pad (column - first.length) ++ text]
    else [first, pad column ++ text]

/-- The lines of the help, for a program of the given name. -/
def lines (program : String) : List String :=
  usage program ++
  ["", "CHIP-8 virtual machine", "", "positional arguments:"] ++
  entry "rom" (some "Path to a raw CHIP-8 program") ++
  ["", "options:"] ++
  entry "-h, --help" (some "show this help message and exit") ++
  Setting.all.flatMap fun s => entry (header s) (explanation s)

end Chip8.CommandLine.Help
