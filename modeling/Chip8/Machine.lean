/-
  The machine: a state, the random key that it starts every program with, and a count of cycles.

  `load` starts a program on a fresh state with the remembered key, whatever happened before, so
  that nothing of an earlier program survives.  `execute` carries out a single word, `cycle` fetches
  one, and only a `cycle` that succeeds is counted.  Both tell what became of machine and devices, also
  when the word is not executed.

  The `logged` forms add the messages that a logger of the given threshold passes on: one trace
  message for each cycle, followed by the fault if there is one, and the size of a loaded program,
  preceded by a warning if it did not fit.
-/
import Chip8.Log.Level
import Chip8.Machine.Execution

namespace Chip8

/-- A state, the key of its programs and the number of cycles done since the last one was loaded. -/
structure Machine where
  state : State
  origin : RandomKey
  cycles : Nat
deriving DecidableEq

/-- What carrying out a word leaves behind: the machine, the devices and what stopped it, if
    anything. -/
structure Attempt where
  machine : Machine
  devices : Devices
  trap : Option Trap
deriving DecidableEq

namespace Machine

/-- A machine without a program. -/
def ofKey (key : RandomKey) : Machine := ⟨State.fresh key, key, 0⟩

/-- A machine that goes on from a state, whose key it remembers. -/
def ofState (s : State) : Machine := ⟨s, s.key, 0⟩

/-- Starts a program on a fresh state. -/
def load (m : Machine) (program : Bytes) : Machine :=
  ⟨(State.fresh m.origin).load program, m.origin, 0⟩

/-- A machine with a program. -/
def ofProgram (key : RandomKey) (program : Bytes) : Machine := (ofKey key).load program

/-- Carries out a word of any size or sign, without fetching or ticking. -/
def execute (m : Machine) (d : Devices) (word : Int) : Attempt :=
  match m.state.execute d (Word.ofInt word) with
  | (.ok s, d) => ⟨{ m with state := s }, d, none⟩
  | (.error t, d) => ⟨m, d, some t⟩

/-- Carries out the next word. -/
def cycle (m : Machine) (d : Devices) : Attempt :=
  match m.state.cycle d with
  | (.ok s, d) => ⟨{ m with state := s, cycles := m.cycles + 1 }, d, none⟩
  | (.error t, d) => ⟨m, d, some t⟩

/-- Whether the sound timer is running. -/
def sounding (m : Machine) : Bool := 0 < m.state.sound

/-- A one line description. -/
def summary (m : Machine) : String :=
  "Interpreter(pc=0x" ++ Hex.padded 3 m.state.counter ++ ", I=0x" ++ Hex.padded 3 m.state.index ++
    s!", sp={m.state.stack.depth}, cycles={m.cycles})"

/-! ## Messages -/

/-- The trace message of the next cycle: where it fetches from, and what. -/
def trace (m : Machine) : String :=
  "0x" ++ Hex.padded 3 m.state.address ++ ": " ++ Hex.padded 4 m.state.nextWord.toNat

/-- A cycle with its messages. -/
def cycleLogged (m : Machine) (threshold : Log.Level) (d : Devices) : List Log.Entry × Attempt :=
  let traced := Log.note threshold .debug m.trace
  let attempt := m.cycle d
  match attempt.trap with
  | some (.fault f) => (traced ++ Log.note threshold .error f.message, attempt)
  | _ => (traced, attempt)

/-- The messages about a loaded program. -/
def loadEntries (threshold : Log.Level) (program : Bytes) : List Log.Entry :=
  (if Memory.capacity < program.size then
    Log.note threshold .warning
      s!"ROM is {program.size} bytes, only the first {Memory.capacity} fit in memory"
  else []) ++
  Log.note threshold .info s!"Loaded ROM ({program.size} bytes)"

/-- Starts a program, with its messages. -/
def loadLogged (m : Machine) (threshold : Log.Level) (program : Bytes) :
    List Log.Entry × Machine :=
  (loadEntries threshold program, m.load program)

end Machine

end Chip8
