/-
  Faults: the ways in which an instruction cannot be executed.

  A fault names its kind, the word that faulted and, when the word was fetched by a cycle, the
  address that it came from.  `describe` is the text without the address, `message` the text
  with it.

  Faults are what programs can run into.  A state that was put together by hand can also hold
  numbers that an instruction cannot work with, and a keypad refuses numbers that name no key; `Trap`
  is any of these.
-/
import Chip8.Machine.Keypad

namespace Chip8

/-- Why an instruction could not be executed. -/
inductive FaultKind
  /-- The word matches no instruction. -/
  | unknownOpcode
  /-- The word calls a machine-language routine, which is recognised and not executed. -/
  | machineCall
  /-- A call found every slot of the call stack in use. -/
  | stackOverflow
  /-- A return found the call stack empty. -/
  | stackUnderflow
  /-- No cause is given. -/
  | unspecified
deriving DecidableEq, Repr

/-- A word that could not be executed, with its address when a cycle fetched it. -/
structure Fault where
  kind : FaultKind
  opcode : Int
  address : Option Int := none
deriving DecidableEq, Repr

namespace Fault

/-- What went wrong, without the address. -/
def describe (f : Fault) : String :=
  let word := "0x" ++ Hex.padded 4 f.opcode
  match f.kind with
  | .unknownOpcode => "Unknown opcode " ++ word
  | .machineCall => "Machine-language call " ++ word ++ " is not supported"
  | .stackOverflow => "Stack overflow on call " ++ word
  | .stackUnderflow => "Return " ++ word ++ " with an empty stack"
  | .unspecified => "Runtime fault on opcode " ++ word

/-- What went wrong and, when it is known, where. -/
def message (f : Fault) : String :=
  match f.address with
  | none => f.describe
  | some a => f.describe ++ " at 0x" ++ Hex.padded 3 a

/-- The same fault, of a word that was fetched from the given address. -/
def fetchedFrom (f : Fault) (address : Int) : Fault := { f with address := some address }

end Fault

/-- Why a word is not executed. -/
inductive Trap
  /-- The word faults. -/
  | fault (f : Fault)
  /-- A number that the word works with does not fit 32 bits with a sign. -/
  | outOfRange
  /-- The keypad is asked for a key that it does not have. -/
  | noSuchKey (e : Keypad.NoSuchKey)
deriving DecidableEq, Repr

/-- The same trap, of a word that was fetched from the given address. -/
def Trap.fetchedFrom : Trap → Int → Trap
  | .fault f, address => .fault (f.fetchedFrom address)
  | t, _ => t

end Chip8
