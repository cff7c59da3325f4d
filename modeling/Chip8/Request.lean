/-
  Requests: what a caller asks of a machine.

  A caller has programs started, which it names by the source that they are read from, and has cycles
  and single words carried out.  A program is read BEFORE anything is done to the machine, so that a
  source that cannot be read leaves machine and log alone.

  Screen and keypad belong to the caller, who does to them what it likes from one request to the next: a
  `Turn` is a request with what is done to the devices before it.  `Machine.serve` answers one request,
  `Machine.serveAll` one turn after the other, and `Machine.afterAll` is what machine and devices have
  become by then.
-/
import Chip8.Machine
import Chip8.Rom.Source

namespace Chip8

/-- What a caller asks of a machine. -/
inductive Request
  /-- Start the program of a source, which may name a file of a directory. -/
  | load (directory : Directory) (source : Source)
  /-- Carry out the next word. -/
  | cycle
  /-- Carry out a word of any size or sign. -/
  | execute (word : Int)

/-- Why a request is refused. -/
inductive Refusal
  /-- The program cannot be read. -/
  | unread (e : ReadFailure)
  /-- The word is not carried out. -/
  | trapped (t : Trap)
deriving DecidableEq, Repr

/-- What a request leaves behind: machine and devices, why it was refused, if it was, and the messages
    about it. -/
structure Reply where
  machine : Machine
  devices : Devices
  refusal : Option Refusal
  log : List Log.Entry
deriving DecidableEq

/-- A request, and what the caller does to the devices before it. -/
structure Turn where
  prepare : Devices → Devices
  request : Request

namespace Machine

/-- Answers a request. -/
def serve (m : Machine) (threshold : Log.Level) (d : Devices) : Request → Reply
  | .load directory source =>
    match source.read directory with
    | .error e => ⟨m, d, some (.unread e), []⟩
    | .ok program =>
      let (log, machine) := m.loadLogged threshold program
      ⟨machine, d, none, log⟩
  | .cycle =>
    let (log, attempt) := m.cycleLogged threshold d
    ⟨attempt.machine, attempt.devices, attempt.trap.map .trapped, log⟩
  | .execute word =>
    let attempt := m.execute d word
    ⟨attempt.machine, attempt.devices, attempt.trap.map .trapped, []⟩

/-- The replies to one turn after the other. -/
def serveAll (m : Machine) (threshold : Log.Level) (d : Devices) : List Turn → List Reply
  | [] => []
  | t :: rest =>
    let reply := m.serve threshold (t.prepare d) t.request
    reply :: reply.machine.serveAll threshold reply.devices rest

/-- Machine and devices after one turn after the other. -/
def afterAll (m : Machine) (threshold : Log.Level) (d : Devices) : List Turn → Machine × Devices
  | [] => (m, d)
  | t :: rest =>
    let reply := m.serve threshold (t.prepare d) t.request
    reply.machine.afterAll threshold reply.devices rest

end Machine

end Chip8
