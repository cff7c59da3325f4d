/-
  Where programs are read from.

  A program comes as bytes, as the name of a file, or from a reader that is asked for it.  `read`
  yields the bytes or says what went wrong.  Nearly everything that can go wrong is a `RomError`,
  which a caller can show and go on from; three things are not, and end the caller as well: a name with
  a NUL in it, a reader that fails in a way of its own, and a reader that cannot be asked.
-/
import Chip8.Rom.Directory
import Chip8.Text.Quoted

namespace Chip8

/-- What a reader does when it is asked for a program. -/
inductive ReaderOutcome
  /-- It gives bytes. -/
  | bytes (data : Bytes)
  /-- It gives something else, of the named type. -/
  | value (type : String)
  /-- The system refuses, with this text. -/
  | systemError (text : String)
  /-- It turns out not to be able to read. -/
  | notReader
  /-- It fails in a way of its own, with this text. -/
  | failure (text : String)

/-- Where a program is read from. -/
inductive Source
  /-- The program itself. -/
  | bytes (data : Bytes)
  /-- A file by its name. -/
  | file (name : String)
  /-- A file by a path value, which is shown normalized. -/
  | path (name : String)
  /-- A reader of the named type, with the text that it is shown as. -/
  | reader (type shown : String) (outcome : ReaderOutcome)
  /-- Something of the named type that has no way to be read from. -/
  | other (type : String)
  /-- Something that has a thing of the named type where readers have their way to be asked. -/
  | unasked (type : String)

/-- Why a program cannot be read. -/
inductive RomError
  /-- The source is of a type that cannot be read from. -/
  | notReader (type : String)
  /-- The file of a source, shown so, cannot be opened. -/
  | cannotOpen (shown name : String) (e : OpenError)
  /-- The system refused to let the reader, shown so, read. -/
  | cannotRead (shown text : String)
  /-- The reader gave something of the named type in place of bytes. -/
  | notBytes (type : String)
deriving DecidableEq, Repr

/-- Says why a program cannot be read. -/
def RomError.message : RomError → String
  | .notReader type => "Cannot read ROM from " ++ type ++ " object"
  | .cannotOpen shown name e =>
    "Cannot read ROM " ++ shown ++ s!": [Errno {e.number}] " ++ e.text ++ ": " ++ Quoted.encode name
  | .cannotRead shown text => "Cannot read ROM " ++ shown ++ ": " ++ text
  | .notBytes type => "ROM source returned " ++ type ++ ", expected bytes"

/-- Why reading did not yield a program. -/
inductive ReadFailure
  /-- The source cannot be read. -/
  | rom (e : RomError)
  /-- Something else failed, with this text. -/
  | other (text : String)
deriving DecidableEq, Repr

namespace Source

/-- The contents of the file of a name, for a source that is shown so. -/
def readFile (d : Directory) (shown name : String) : Except ReadFailure Bytes :=
  if name.toList.contains '\x00' then .error (.other "embedded null byte")
  else
    match d.openFile name with
    | .ok data => .ok data
    | .error e => .error (.rom (.cannotOpen shown name e))

/-- Reads a program, from a directory if it is in a file. -/
def read (d : Directory) : Source → Except ReadFailure Bytes
  | .bytes data => .ok data
  | .file name => readFile d (Quoted.encode name) name
  | .path name =>
    let name := PathName.normalize name
    readFile d ("PurePosixPath(" ++ Quoted.encode name ++ ")") name
  | .other type => .error (.rom (.notReader type))
  | .unasked type => .error (.other s!"'{type}' object is not callable")
  | .reader type shown outcome =>
    match outcome with
    | .bytes data => .ok data
    | .value t => .error (.rom (.notBytes t))
    | .systemError text => .error (.rom (.cannotRead shown text))
    | .notReader => .error (.rom (.notReader type))
    | .failure text => .error (.other text)

end Source

end Chip8
