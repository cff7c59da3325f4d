/-
  What each instruction does.

  A machine works on two devices that it does not own, the screen and the keypad.  They are changed IN
  PLACE: what an instruction has done to them stays done, even if it fails afterwards.  So every
  action here yields its devices beside its result and not as a part of it.  The state is the other
  way round: an action that fails yields no state at all.

  `State.perform` carries out one instruction.  `State.execute` decodes a word first, and carries it
  out only if the numbers that it works with are in range, as they are in every state that a program
  can reach; `State.cycle` fetches the word, executes it and ticks the timers.
-/
import Chip8.Machine.Fault
import Chip8.Machine.Instruction
import Chip8.Machine.Screen
import Chip8.Machine.State

namespace Chip8

/-- What a machine works on without owning it. -/
structure Devices where
  screen : Screen
  keypad : Keypad
deriving DecidableEq

/-- A dark screen, no key held. -/
def Devices.idle : Devices := ⟨Screen.blank, Keypad.idle⟩

/-- Whether a condition holds of the registers and the keypad. -/
def Condition.holds (s : State) (keys : Keypad) : Condition → Except Keypad.NoSuchKey Bool
  | .equalsByte x b => .ok (s.register x == b)
  | .differsByte x b => .ok (s.register x != b)
  | .equal x y => .ok (s.register x == s.register y)
  | .differ x y => .ok (s.register x != s.register y)
  | .keyHeld x => keys.isPressed (s.register x &&& 0xF).toNat
  | .keyFree x => (keys.isPressed (s.register x &&& 0xF).toNat).map not

/-- A fault of a word that no cycle fetched. -/
def Word.fault (w : Word) (kind : FaultKind) : Trap := .fault { kind, opcode := w.toNat }

namespace State

/-- Stores the result of an operation on two registers, the flag last. -/
def combine (s : State) (op : AluOp) (x y : Register) : State :=
  let r := op.apply (s.register x) (s.register y)
  let stored := s.setRegister x r.1
  match r.2 with
  | none => stored
  | some flag => stored.setFlag (flagByte flag)

/-- Adds a register to the index.  A sum above 0xFFF is reduced by 0xFFF and sets the flag. -/
def addToIndex (s : State) (x : Register) : State :=
  let sum := s.index + (s.register x).toNat
  if 0xFFF < sum then { s with index := sum - 0xFFF }.setFlag 1
  else { s with index := sum }.setFlag 0

/-- The decimal digits of a byte, hundreds first. -/
def decimalDigits (b : UInt8) : List UInt8 := [b / 100, b / 10 % 10, b % 10]

/-- The registers from 0 to the given one, in order. -/
def firstRegisters (s : State) (x : Register) : List UInt8 :=
  s.registers.toList.take (x.val + 1)

/-- Loads the registers from 0 to the given one from the index on. -/
def loadRegisters (s : State) (x : Register) : State :=
  { s with registers := Vector.ofFn fun k =>
      if k ≤ x then s.memory.read (s.index + k.val) else s.registers[k] }

/-- Waits for a key: stores the lowest held one, or moves the counter back onto this instruction. -/
def awaitKey (s : State) (keys : Keypad) (x : Register) : State :=
  match keys.firstPressed with
  | some key => s.setRegister x (UInt8.ofNat key.val)
  | none => { s with counter := (s.counter - 2) % 4096 }

/-- Draws the sprite at the index and stores whether it switched a lit pixel off. -/
def draw (s : State) (screen : Screen) (x y : Register) (rows : Nibble) : State × Screen :=
  let sprite := s.memory.readBlock s.index rows.val
  let r := screen.draw (s.register x).toNat (s.register y).toNat sprite
  (s.setFlag (flagByte r.2), r.1)

/-- Leaves out the next instruction if a condition holds. -/
def skipIf (s : State) (holds : Bool) : State :=
  if holds then { s with counter := (s.counter + 2) % 4096 } else s

/-- Carries out the instruction of a word. -/
def perform (s : State) (d : Devices) (w : Word) : Instruction → Except Trap State × Devices
  | .machineCall _ => (.error (w.fault .machineCall), d)
  | .clear => (.ok s, { d with screen := Screen.blank })
  | .ret => match s.stack.pop with
    | .ok (a, stack) => (.ok { s with stack, counter := a.toNat }, d)
    | .error kind => (.error (w.fault kind), d)
  | .jump a => (.ok { s with counter := a.val }, d)
  | .call a => match s.stack.push s.counter with
    | .ok stack => (.ok { s with stack, counter := a.val }, d)
    | .error kind => (.error (w.fault kind), d)
  | .skip c => match c.holds s d.keypad with
    | .ok holds => (.ok (s.skipIf holds), d)
    | .error e => (.error (.noSuchKey e), d)
  | .set x b => (.ok (s.setRegister x b), d)
  | .addByte x b => (.ok (s.setRegister x (s.register x + b)), d)
  | .combine op x y => (.ok (s.combine op x y), d)
  | .setIndex a => (.ok { s with index := a.val }, d)
  | .jumpOffset a =>
    (.ok { s with counter := (a.val + (s.register offsetRegister).toNat) % 4096 }, d)
  | .random x mask => (.ok { s.setRegister x (s.key.draw &&& mask) with key := s.key.next }, d)
  | .draw x y rows =>
    let r := s.draw d.screen x y rows
    (.ok r.1, { d with screen := r.2 })
  | .getDelay x => (.ok (s.setRegister x (UInt8.ofNat (s.delay % 256).toNat)), d)
  | .awaitKey x => (.ok (s.awaitKey d.keypad x), d)
  | .setDelay x => (.ok { s with delay := (s.register x).toNat }, d)
  | .setSound x => (.ok { s with sound := (s.register x).toNat }, d)
  | .addIndex x => (.ok (s.addToIndex x), d)
  | .pointGlyph x =>
    (.ok { s with index := Memory.glyphStart + (s.register x).toNat * Memory.glyphSize }, d)
  | .storeDigits x =>
    (.ok { s with memory := s.memory.writeBlock s.index (decimalDigits (s.register x)) }, d)
  | .saveRegisters x =>
    (.ok { s with memory := s.memory.writeBlock s.index (s.firstRegisters x) }, d)
  | .loadRegisters x => (.ok (s.loadRegisters x), d)

/-- Whether the numbers that an instruction works with are in range: the index of one that reads or
    writes memory, and a timer that is put into a register. -/
def inRange (s : State) : Instruction → Bool
  | .getDelay _ => Signed.fits32 s.delay
  | .draw .. | .storeDigits _ | .saveRegisters _ | .loadRegisters _ => Signed.fits32 s.index
  | _ => true

/-- Decodes a word and carries it out. -/
def execute (s : State) (d : Devices) (w : Word) : Except Trap State × Devices :=
  match Instruction.decode? w with
  | none => (.error (w.fault .unknownOpcode), d)
  | some i => if s.inRange i then s.perform d w i else (.error .outOfRange, d)

/-- Fetches the next word, executes it and ticks the timers. -/
def cycle (s : State) (d : Devices) : Except Trap State × Devices :=
  let (w, advanced) := s.fetch
  match advanced.execute d w with
  | (.ok after, d) => (.ok after.tick, d)
  | (.error t, d) => (.error (t.fetchedFrom s.address), d)

end State

end Chip8
