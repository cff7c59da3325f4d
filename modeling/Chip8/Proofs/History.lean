/-
  Histories: what is done to a machine from outside, one thing after the other.

  A machine is started on programs, has programs put into its memory, is told to carry out words and
  cycles, or has one of the two halves of a cycle done by itself: a word fetched, the timers ticked.
  Each time the devices may be different ones.  `Machine.after` is the machine at the end of a history;
  an operation that fails has its place in a history as well, and leaves what it leaves.

  `Machine.attempts` is the history of cycles alone, with everything that each of them leaves behind.

  The key that a machine starts its programs with is the same after every history (`origin_after`).
-/
import Chip8.Machine

namespace Chip8

/-- What can be done to a machine from outside. -/
inductive Operation
  /-- Starts a program on a fresh state. -/
  | load (program : Bytes)
  /-- Puts a program into the memory of the present state. -/
  | overwrite (program : Bytes)
  /-- Carries out the next word. -/
  | cycle (d : Devices)
  /-- Carries out a word of any size or sign. -/
  | execute (d : Devices) (word : Int)
  /-- Moves the counter past the next word. -/
  | fetch
  /-- Ticks the timers. -/
  | tick

/-- The machine after an operation, whether that was carried out or not. -/
def Operation.apply (m : Machine) : Operation → Machine
  | .load program => m.load program
  | .overwrite program => { m with state := m.state.load program }
  | .cycle d => (m.cycle d).machine
  | .execute d word => (m.execute d word).machine
  | .fetch => { m with state := m.state.fetch.2 }
  | .tick => { m with state := m.state.tick }

namespace Machine

/-- The machine after a history. -/
def after (m : Machine) (history : List Operation) : Machine := history.foldl Operation.apply m

/-- What cycles leave behind that are tried one after the other, each on its own devices. -/
def attempts (m : Machine) : List Devices → List Attempt
  | [] => []
  | d :: ds => m.cycle d :: (m.cycle d).machine.attempts ds

/-- An invariant of every operation holds after every history. -/
theorem after_induction {p : Machine → Prop} (step : ∀ m o, p m → p (Operation.apply m o)) :
    ∀ (history : List Operation) (m : Machine), p m → p (m.after history) := by
  intro history
  induction history with
  | nil => intro m start; exact start
  | cons o rest ih => intro m start; exact ih (o.apply m) (step m o start)

/-! ## The key of programs -/

theorem origin_withState (m : Machine) (s : State) : { m with state := s }.origin = m.origin := rfl

theorem origin_load (m : Machine) (program : Bytes) : (m.load program).origin = m.origin := by
  unfold load
  rfl

/-- The key that every program starts with is never changed. -/
theorem origin_apply (m : Machine) (o : Operation) : (o.apply m).origin = m.origin := by
  cases o with
  | load program => exact origin_load m program
  | overwrite program => exact origin_withState m _
  | cycle d =>
    show (m.cycle d).machine.origin = m.origin
    unfold cycle
    split <;> rfl
  | execute d word =>
    show (m.execute d word).machine.origin = m.origin
    unfold execute
    split <;> rfl
  | fetch => exact origin_withState m _
  | tick => exact origin_withState m _

theorem origin_after (m : Machine) (history : List Operation) :
    (m.after history).origin = m.origin :=
  after_induction (p := fun u => u.origin = m.origin)
    (fun u o same => (origin_apply u o).trans same) history m rfl

end Machine

end Chip8
