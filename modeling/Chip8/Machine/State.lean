/-
  The state of a machine: everything that a program can change, screen and keypad apart.

  The counter, the index and the timers are integers: a state may be put together with any values,
  and the operations below say what they make of them.  `WellFormed` names the states that programs
  are meant to reach from `State.fresh`.

  `fetch` reads a big-endian word and moves the counter two on, both modulo 4096; `tick` counts both
  timers down to zero.
-/
import Chip8.Machine.CallStack
import Chip8.Machine.Memory
import Chip8.Machine.RandomKey

namespace Chip8

/-- The sixteen byte registers. -/
abbrev Registers := Vector UInt8 16

/-- The register that takes carries, borrows and collisions. -/
def flagRegister : Register := Fin.last 15

/-- The register that a jump with an offset adds. -/
def offsetRegister : Register := ⟨0, by decide⟩

/-- Registers, memory, call stack, timers and random key of a machine. -/
structure State where
  key : RandomKey
  memory : Memory
  counter : Int
  stack : CallStack
  delay : Int
  sound : Int
  registers : Registers
  index : Int
deriving DecidableEq

namespace State

/-- A machine before its first program. -/
def fresh (key : RandomKey) : State where
  key := key
  memory := Memory.fresh
  counter := Memory.programStart
  stack := CallStack.empty
  delay := 0
  sound := 0
  registers := Vector.replicate 16 0
  index := 0

/-- The address that the next word is fetched from. -/
def address (s : State) : Int := s.counter % 4096

/-- The word at the counter. -/
def nextWord (s : State) : Word :=
  Word.ofBytes (s.memory.read s.address) (s.memory.read (s.address + 1))

/-- The word at the counter, and the state with the counter moved past it. -/
def fetch (s : State) : Word × State :=
  (s.nextWord, { s with counter := (s.address + 2) % 4096 })

/-- Both timers counted down by one, but not below zero. -/
def tick (s : State) : State :=
  { s with delay := max (s.delay - 1) 0, sound := max (s.sound - 1) 0 }

/-- The same state with a program at 0x200. -/
def load (s : State) (program : Bytes) : State :=
  { s with memory := s.memory.load program }

/-- The byte in a register. -/
def register (s : State) (x : Register) : UInt8 := s.registers[x]

/-- Puts a byte into a register. -/
def setRegister (s : State) (x : Register) (b : UInt8) : State :=
  { s with registers := s.registers.set x.val b x.isLt }

/-- Puts a flag into the flag register. -/
def setFlag (s : State) (flag : UInt8) : State := s.setRegister flagRegister flag

/-- Counter and index are addresses, the timers are bytes, the slots in use hold addresses and the
    others zero. -/
structure WellFormed (s : State) : Prop where
  counter_range : 0 ≤ s.counter ∧ s.counter ≤ 0xFFF
  index_range : 0 ≤ s.index ∧ s.index ≤ 0xFFF
  delay_range : 0 ≤ s.delay ∧ s.delay ≤ 255
  sound_range : 0 ≤ s.sound ∧ s.sound ≤ 255
  used_slot : ∀ k : Nat, ∀ h : k < 16, k < s.stack.depth → s.stack.slots[k].toNat ≤ 0xFFF
  free_slot : ∀ k : Nat, ∀ h : k < 16, s.stack.depth ≤ k → s.stack.slots[k] = 0

theorem register_setRegister (s : State) (x y : Register) (b : UInt8) :
    (s.setRegister x b).register y = if x = y then b else s.register y := by
  simp only [register, setRegister, Fin.getElem_fin, Vector.getElem_set, Fin.ext_iff]

@[simp] theorem register_setRegister_self (s : State) (x : Register) (b : UInt8) :
    (s.setRegister x b).register x = b := by
  rw [register_setRegister, if_pos rfl]

@[simp] theorem register_setFlag (s : State) (flag : UInt8) :
    (s.setFlag flag).register flagRegister = flag :=
  s.register_setRegister_self flagRegister flag

end State

end Chip8
