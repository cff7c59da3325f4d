/-
  Sessions: a machine that runs against time and a user.

  A session goes through frames.  In each, the events of the frame are applied to the keypad, all of
  them, also those after one that ends the session; then as many cycles are run as deadlines of the
  instruction clock have passed; then a picture of the screen is presented if the render clock is
  due; then the pacer is told the rate.  The first fault ends the session on the spot: nothing is
  presented and nothing paced in that frame.  When the frames are used up the user closes the window
  without time having passed.

  A clock that cannot count ends the session as well, but as an error, and without the closing
  message; so does a picture that is too large.  A window that cannot be opened leaves nothing but the
  messages about the loaded program.  How large a picture and a window may be, the computer says on which
  the session runs (`Limits`).

  `Machine.burst` is the run of the cycles of one frame; `frame` is one frame, `play` all of them.
-/
import Chip8.Log.Logger
import Chip8.Machine
import Chip8.Picture.Image
import Chip8.Rom.Source
import Chip8.Session.DeadlineClock
import Chip8.Session.Keyboard
import Chip8.Session.Settings
import Chip8.Session.Window

namespace Chip8

/-- What a run of cycles leaves behind, with its messages. -/
structure Burst extends Attempt where
  log : List Log.Entry

/-- Runs so many cycles, or fewer if one of them fails. -/
def Machine.burst (threshold : Log.Level) : Nat → Machine → Devices → Burst
  | 0, m, d => ⟨⟨m, d, none⟩, []⟩
  | n + 1, m, d =>
    let (log, attempt) := m.cycleLogged threshold d
    match attempt.trap with
    | some _ => ⟨attempt, log⟩
    | none =>
      let rest := Machine.burst threshold n attempt.machine attempt.devices
      { rest with log := log ++ rest.log }

/-- The events of a user up to a point of time. -/
structure Frame where
  time : Float
  events : List Event

/-- A presented picture, with the number of times that the pacer had been told the rate. -/
structure Shot where
  paced : Nat
  image : Image

/-- Why a session ended early. -/
inductive SessionError
  /-- The seed does not fit 64 bits. -/
  | seed
  /-- The program cannot be read. -/
  | read (e : ReadFailure)
  /-- A clock cannot count its deadlines. -/
  | clock (e : ClockError)
  /-- The instruction rate has no integer part. -/
  | rate (e : Double.NotIntegral)
  /-- The machine came upon a number that is out of range. -/
  | machine
  /-- The window cannot be opened. -/
  | window (e : WindowError)
  /-- A picture is too large. -/
  | picture (e : Oversize)

/-- How far a session has come. -/
structure Session where
  machine : Machine
  devices : Devices := Devices.idle
  /-- Deadlines of cycles. -/
  instructions : DeadlineClock Float
  /-- Deadlines of pictures. -/
  renders : DeadlineClock Float
  now : Float
  /-- The messages so far, each with its time. -/
  log : List (Float × Log.Entry)
  shots : List Shot := []
  /-- The rates that the pacer was told. -/
  paces : List Int := []

/-- Whether a session goes on after a frame. -/
inductive Progress
  /-- There may be another frame. -/
  | running
  /-- The user ended the session. -/
  | closed
  /-- A cycle faulted. -/
  | halted
  /-- Something else failed. -/
  | failed (e : SessionError)

namespace Session

/-- Adds messages at the present time. -/
def note (s : Session) (entries : List Log.Entry) : Session :=
  { s with log := s.log ++ entries.map fun e => (s.now, e) }

/-- The picture of the screen. -/
def picture (c : Accepted) (limits : Limits) (p : Screen) : Except Oversize Image :=
  Image.render? p.lit c.scale c.scheme.lit c.scheme.dark limits

/-- Presents a picture of the screen. -/
def show? (c : Accepted) (limits : Limits) (s : Session) : Except SessionError Session :=
  match picture c limits s.devices.screen with
  | .error e => .error (.picture e)
  | .ok image => .ok { s with shots := s.shots ++ [⟨s.paces.length, image⟩] }

/-- Presents a picture of the screen if one is due, and tells the pacer the rate. -/
def present (c : Accepted) (limits : Limits) (s : Session) : Session × Except SessionError Unit :=
  match s.renders.poll s.now with
  | .error e => (s, .error (.clock e))
  | .ok (due, renders) =>
    let s := { s with renders }
    match if due = 0 then .ok s else s.show? c limits with
    | .error e => (s, .error e)
    | .ok s =>
      match Double.toInt c.instructionRate with
      | .error e => (s, .error (.rate e))
      | .ok rate => ({ s with paces := s.paces ++ [rate] }, .ok ())

/-- One frame. -/
def frame (c : Accepted) (limits : Limits) (s : Session) (f : Frame) : Session × Progress :=
  let keypad := f.events.foldl Event.apply s.devices.keypad
  let s := { s with now := f.time, devices := { s.devices with keypad } }
  match s.instructions.poll s.now with
  | .error e => (s, .failed (.clock e))
  | .ok (due, instructions) =>
    let b := Machine.burst c.threshold due.toNat s.machine s.devices
    let s := { s with instructions, machine := b.machine, devices := b.devices }.note b.log
    match b.trap with
    | some .outOfRange | some (.noSuchKey _) => (s, .failed .machine)
    | some (.fault _) =>
      (s.note (Log.note c.threshold .critical
        (s!"Halted after {b.machine.cycles} cycles: " ++ b.machine.summary)), .halted)
    | none =>
      match s.present c limits with
      | (s, .error e) => (s, .failed e)
      | (s, .ok ()) => (s, if f.events.any Event.quits then .closed else .running)

/-- All frames, and the closing of the window when they are used up. -/
def play (c : Accepted) (limits : Limits) (s : Session) : List Frame → Session × Progress
  | [] => s.frame c limits ⟨s.now, [.quit]⟩
  | f :: rest =>
    match s.frame c limits f with
    | (s, .running) => s.play c limits rest
    | r => r

/-- The closing message and the exit status. -/
def finish (c : Accepted) (s : Session) (p : Progress) : Session × Except SessionError Nat :=
  let closing := Log.note c.threshold .info s!"Stopped after {s.machine.cycles} cycles"
  match p with
  | .failed e => (s, .error e)
  | .halted => (s.note closing, .ok 1)
  | .running | .closed => (s.note closing, .ok 0)

/-- A session at its start: the program loaded, both clocks set going. -/
def opening (c : Accepted) (key : RandomKey) (program : Bytes) (start : Float) : Session :=
  let (entries, machine) := (Machine.ofKey key).loadLogged c.threshold program
  let banner := Log.note c.threshold .info
    ("Running at " ++ NumberText.general c.instructionRate ++ " Hz, rendering at " ++
      NumberText.general c.renderRate ++ " Hz")
  { machine
    instructions := DeadlineClock.starting c.instructionPeriod start
    renders := DeadlineClock.starting c.renderPeriod start 1
    now := start
    log := (entries ++ banner).map fun e => (start, e) }

/-- What a session shows to the outside. -/
structure Report where
  /-- The exit status, or why there is none. -/
  result : Except SessionError Nat
  /-- The window that was asked for. -/
  window : Option Window := none
  paces : List Int := []
  shots : List Shot := []
  log : List (Float × Log.Entry) := []

/-- Runs a program from a source until the user ends the session or a cycle faults. -/
def run (c : Accepted) (d : Directory) (source : Source) (start : Float) (frames : List Frame)
    (limits : Limits := .usual) : Report :=
  match RandomKey.ofSeed? c.seed with
  | none => { result := .error .seed }
  | some key =>
    match source.read d with
    | .error e => { result := .error (.read e) }
    | .ok program =>
      let window := Window.ofScale c.scale
      match window.failure? limits with
      | some e =>
        { result := .error (.window e)
          window := some window
          log := (Machine.loadEntries c.threshold program).map fun m => (start, m) }
      | none =>
        let (s, p) := (opening c key program start).play c limits frames
        let (s, result) := s.finish c p
        { result
          window := some window
          paces := s.paces
          shots := s.shots
          log := s.log }

end Session

end Chip8
