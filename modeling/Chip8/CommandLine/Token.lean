/-
  What single arguments of the command line are taken for.

  An argument that begins with a hyphen is a flag if it can be one: a long name may be cut short as
  long as it fits one flag only, and a value may follow it after `=`.  A hyphen before a number, or
  before a text with a space in it, begins a word.  After the argument `--` all arguments are words.
-/
import Chip8.CommandLine.Flag

namespace Chip8.CommandLine

/-- What an argument is taken for. -/
inductive Token
  /-- A text on its own, or the value of the flag before it. -/
  | word (text : String)
  /-- The mark after which there are words only. -/
  | separator
  /-- A flag, with the value that is joined to it. -/
  | flag (f : Flag) (value : Option String)
  /-- Something that looks like a flag and is none. -/
  | unknown
deriving DecidableEq, Repr

namespace Token

/-- Whether the characters after a hyphen are those of a number: digits, with a point among or before
    them.  One line end may follow. -/
def isNumber (cs : List Char) : Bool :=
  let digit (c : Char) : Bool := (DecimalDigit.value? c).isSome
  let cs := if cs.getLast? = some '\n' then cs.dropLast else cs
  match cs.dropWhile digit with
  | [] => !cs.isEmpty
  | '.' :: places => !places.isEmpty && places.all digit
  | _ => false

/-- An argument that begins with a hyphen and is no flag. -/
def ofPlain (text : String) : Token :=
  let cs := text.toList
  if isNumber cs.tail || cs.contains ' ' then .word text else .unknown

/-- The value that is joined to a long name. -/
def valueAfter (cs : List Char) : Option String :=
  match cs.dropWhile (· != '=') with
  | [] => none
  | _ :: value => some (String.ofList value)

/-- The value that is joined to `-h`.  Letters behind it, directly or after `=`, are short flags too,
    and `h` is the only one; they repeat the request.  Anything else is a value. -/
def valueAfterHelp (cs : List Char) : Option String :=
  let letters :=
    match cs with
    | '=' :: c :: rest => c :: rest
    | _ => cs
  if letters.all (· == 'h') then none else some (String.ofList cs)

/-- The flags that a long name, or the beginning of one, can mean. -/
def flagsOf (name : List Char) : List Flag :=
  Flag.all.filter fun f => name.isPrefixOf f.name.toList

/-- What an argument other than `--` is taken for, unless it can mean several flags. -/
def ofText? (text : String) : Option Token :=
  match text.toList with
  | '-' :: '-' :: cs =>
    match flagsOf ('-' :: '-' :: cs.takeWhile (· != '=')) with
    | [] => some (ofPlain text)
    | [f] => some (.flag f (valueAfter cs))
    | _ => none
  | '-' :: 'h' :: cs => some (.flag .help (valueAfterHelp cs))
  | '-' :: _ :: _ => some (ofPlain text)
  | _ => some (.word text)

/-- What arguments are taken for, unless one of them can mean several flags. -/
def ofTexts? : List String → Option (List Token)
  | [] => some []
  | text :: rest =>
    if text = "--" then some (.separator :: rest.map .word)
    else
      match ofText? text, ofTexts? rest with
      | some t, some ts => some (t :: ts)
      | _, _ => none

example : ofText? "--sc=3" = some (.flag (.setting .scale) (some "3")) := by decide +kernel
example : ofText? "--s" = none := by decide +kernel
example : ofText? "-2.5" = some (.word "-2.5") := by decide +kernel
example : ofText? "-1e5" = some .unknown := by decide +kernel
example : ofText? "-hh" = some (.flag .help none) := by decide +kernel
example : ofText? "-h=" = some (.flag .help (some "=")) := by decide +kernel

end Token

end Chip8.CommandLine
