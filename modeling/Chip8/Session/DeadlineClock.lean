/-
  Clocks that count deadlines.

  A clock has a deadline every period.  Polling it tells how many deadlines have passed since the
  last poll, but never more than a cap: a caller that was held up does not have to catch up in one
  go.  A poll that fails leaves the clock as it was, since it yields none.

  The rule is the same for every kind of time; `Timeline` names the four operations that it needs.
  Sessions measure time in doubles; with exact fractions the same clock can be reasoned about
  without rounding.
-/
import Chip8.Number.Double

namespace Chip8

/-- Why the periods of a span cannot be counted. -/
inductive ClockError
  /-- The period is zero. -/
  | zeroPeriod
  /-- The count is no number. -/
  | notANumber
  /-- The count is infinite. -/
  | infinite
deriving DecidableEq, Repr

/-- What went wrong; an infinite count has no text. -/
def ClockError.message : ClockError → Option String
  | .zeroPeriod => some "float floor division by zero"
  | .notANumber => some "cannot convert float NaN to integer"
  | .infinite => none

/-- A kind of time that a clock can run on. -/
class Timeline (τ : Type) where
  /-- Whether one time lies before another. -/
  before : τ → τ → Bool
  /-- A time and a span added up. -/
  add : τ → τ → τ
  /-- So many periods as a span. -/
  times : Int → τ → τ
  /-- The number of whole periods from one time to another. -/
  periods : τ → τ → τ → Except ClockError Int

/-- The whole periods `y` in a span `x`: the floor of the quotient.  The quotient is formed from the
    span without its remainder, so that it comes out whole up to rounding. -/
def Double.floorQuotient (x y : Float) : Except ClockError Int :=
  if y == 0 then .error .zeroPeriod
  else
    let r := remainder x y
    let q := (x - r) / y
    let q := if r != 0 && (decide (y < 0) != decide (r < 0)) then q - 1 else q
    let f := floor q
    let f := if q - f > 0.5 then f + 1 else f
    match toInt f with
    | .ok n => .ok n
    | .error .nan => .error .notANumber
    | .error .infinite => .error .infinite

/-- Time in doubles. -/
instance : Timeline Float where
  before a b := a < b
  add a b := a + b
  times n p := Float.ofInt n * p
  periods start stop p := Double.floorQuotient (stop - start) p

/-- A clock with a deadline every `period`, the next of them at `next`. -/
structure DeadlineClock (τ : Type) where
  period : τ
  next : τ
  /-- The most deadlines that one poll reports. -/
  cap : Int

namespace DeadlineClock

variable {τ : Type} [Timeline τ]

/-- A clock whose first deadline is one period after `start`. -/
def starting (period start : τ) (cap : Int := 16) : DeadlineClock τ :=
  ⟨period, Timeline.add start period, cap⟩

/-- The deadlines that have passed by `now`, at most `cap`, and the clock that waits for the next
    one. -/
def poll (c : DeadlineClock τ) (now : τ) : Except ClockError (Int × DeadlineClock τ) :=
  if Timeline.before now c.next then .ok (0, c)
  else
    (Timeline.periods c.next now c.period).map fun n =>
      (min (n + 1) c.cap,
        { c with next := Timeline.add c.next (Timeline.times (n + 1) c.period) })

end DeadlineClock

end Chip8
