/-
  Files and folders, seen from a folder.

  A directory holds files and folders under names with slashes.  Names that begin with a slash count from
  the root, all others from the folder in which one is.  Both kinds of name are taken here, for the files
  themselves and for opening them, so that a file can be found by more than one name.

  `openFile` follows a name part by part, as an operating system does, and says at the first part that
  leads nowhere why it does not go on.
-/
import Chip8.Machine.Memory
import Chip8.Rom.PathName

namespace Chip8

/-- Files with their contents, and folders. -/
structure Directory where
  files : List (String × Bytes) := []
  folders : List String := []
  /-- The name, from the root, of the folder in which one is. -/
  home : String := "/tmp/roms"

/-- Why a file cannot be opened. -/
inductive OpenError
  /-- There is nothing of that name. -/
  | missing
  /-- A part of the name that ought to be a folder is a file. -/
  | notFolder
  /-- The name is that of a folder. -/
  | isFolder
  /-- The name, or a part of it, is too long. -/
  | tooLong
deriving DecidableEq, Repr

namespace OpenError

/-- The number that the system gives the error. -/
def number : OpenError → Nat
  | .missing => 2
  | .notFolder => 20
  | .isFolder => 21
  | .tooLong => 36

/-- The system's text for the error. -/
def text : OpenError → String
  | .missing => "No such file or directory"
  | .notFolder => "Not a directory"
  | .isFolder => "Is a directory"
  | .tooLong => "File name too long"

end OpenError

namespace Directory

/-- The place of the folder in which one is. -/
def base (d : Directory) : List (List Char) := PathName.leads [] (PathName.proper d.home.toList)

/-- The place from which a name counts. -/
def start (d : Directory) (name : String) : List (List Char) :=
  if name.toList.head? = some '/' then [] else d.base

/-- The place that a name stands for. -/
def place (d : Directory) (name : String) : List (List Char) :=
  PathName.leads (d.start name) (PathName.proper name.toList)

/-- The places of which something is known: those of all files and folders, and that of the folder in which
    one is. -/
def known (d : Directory) : List (List (List Char)) :=
  d.base :: (d.files.map Prod.fst ++ d.folders).map d.place

/-- What lies at a place. -/
inductive Node
  | file (content : Bytes)
  | folder

/-- What lies at a place, if anything does.  There is a folder at every place on the way to a known one. -/
def node? (d : Directory) (place : List (List Char)) : Option Node :=
  match d.files.find? fun f => d.place f.1 == place with
  | some f => some (.file f.2)
  | none => if d.known.any fun p => place.isPrefixOf p then some .folder else none

/-- The length of a name as the system counts it. -/
def byteLength (cs : List Char) : Nat := (String.ofList cs).utf8ByteSize

/-- Follows one part of a name. -/
def follow (d : Directory) (place : List (List Char)) (part : List Char) :
    Except OpenError (List (List Char)) :=
  match d.node? place with
  | some (.file _) => .error .notFolder
  | none => .error .missing
  | some .folder =>
    if part = PathName.here then .ok place
    else if part = PathName.above then .ok place.dropLast
    else if 255 < byteLength part then .error .tooLong
    else if (d.node? (place ++ [part])).isSome then .ok (place ++ [part])
    else .error .missing

/-- Follows the parts of a name one after the other. -/
def followAll (d : Directory) (place : List (List Char)) :
    List (List Char) → Except OpenError (List (List Char))
  | [] => .ok place
  | part :: rest =>
    match d.follow place part with
    | .ok place => d.followAll place rest
    | .error e => .error e

/-- The contents of the file of a name. -/
def openFile (d : Directory) (name : String) : Except OpenError Bytes :=
  let cs := name.toList
  if cs.isEmpty then .error .missing
  else if 4095 < byteLength cs then .error .tooLong
  else
    match d.followAll (d.start name) (PathName.proper cs) with
    | .error e => .error e
    | .ok place =>
      match d.node? place with
      | some (.file content) => if cs.getLast? = some '/' then .error .notFolder else .ok content
      | some .folder => .error .isFolder
      | none => .error .missing

end Directory

end Chip8
