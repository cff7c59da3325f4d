/-
  The registry of shared loggers.

  A registry holds at most one logger for each name.  `get` makes a logger when a name is asked for
  the first time and hands out that one ever after, whatever threshold is asked for later;
  `setLevel` changes the thresholds of all loggers made so far.

  The loggers are changed IN PLACE, one after the other: where one of them refuses a threshold, those
  before it have it already.  `setEach` is that loop, with what it leaves behind.  A text that names no
  level is refused by the first logger, so a refusal leaves the registry as it was
  (`setEach_of_unknown`), and `setLevel` yields none.
-/
import Chip8.Log.Logger

namespace Chip8.Log

/-- The shared loggers in the order in which they were made. -/
structure Registry where
  loggers : List Logger

namespace Registry

/-- No logger made yet. -/
def empty : Registry := ⟨[]⟩

/-- The logger of a name. -/
def find? (r : Registry) (name : String) : Option Logger :=
  r.loggers.find? (·.name == name)

/-- The logger of a name and the registry that holds it, made now with the given threshold if there
    was none.  It uses colours on a terminal. -/
def get (r : Registry) (name level : String) (now : Float) (terminal : Bool := false) :
    Except UnknownLevel (Logger × Registry) :=
  match r.find? name with
  | some l => .ok (l, r)
  | none =>
    (Logger.create name level true terminal true now).map fun l => (l, ⟨r.loggers ++ [l]⟩)

/-- Gives loggers a threshold, one after the other, up to the first that refuses it. -/
def setEach (level : String) : List Logger → List Logger × Option UnknownLevel
  | [] => ([], none)
  | l :: rest =>
    match l.setLevel level with
    | .error e => (l :: rest, some e)
    | .ok l =>
      let later := setEach level rest
      (l :: later.1, later.2)

/-- Gives all loggers a threshold.  Without loggers, no threshold is looked at. -/
def setLevel (r : Registry) (level : String) : Except UnknownLevel Registry :=
  match setEach level r.loggers with
  | (loggers, none) => .ok ⟨loggers⟩
  | (_, some e) => .error e

/-! ## All loggers or none -/

theorem setEach_of_known {level : String} {threshold : Level}
    (known : Level.ofText? level = some threshold) (ls : List Logger) :
    setEach level ls = (ls.map ({ · with threshold }), none) := by
  have set : ∀ l : Logger, l.setLevel level = .ok { l with threshold } := by
    intro l
    rw [Logger.setLevel, Level.parse, known]
    rfl
  induction ls with
  | nil => rfl
  | cons l rest ih => rw [setEach, set, ih]; rfl

theorem setEach_of_unknown {level : String} (unknown : Level.ofText? level = none) (ls : List Logger) :
    setEach level ls = (ls, if ls.isEmpty then none else some ⟨level⟩) := by
  have refused : ∀ l : Logger, l.setLevel level = .error ⟨level⟩ := by
    intro l
    rw [Logger.setLevel, Level.parse, unknown]
    rfl
  cases ls with
  | nil => rfl
  | cons l rest => rw [setEach, refused]; rfl

end Registry

end Chip8.Log
