/-
  Clocks that go on answering.

  A clock fails if it cannot count the periods since its last deadline.  What carries one through a sequence
  of polls is an invariant, `Steady`: the next deadline never moves below the earliest time, and the period
  never changes.  So the span that a poll has to divide is bounded by the times alone, and the number of
  periods in it by the rate and the times (`poll_steady`).  Deadlines may well run out: plus infinity is a
  deadline that no time comes up to.
-/
import Chip8.Proofs.Deadlines
import Chip8.Proofs.WholePeriods

namespace Chip8.DeadlineClock

open Double

variable {clock : DeadlineClock Float} {rate start now : Float} {q r : ℚ} {a b : ℕ}

/-! ## One poll -/

theorem poll_of_ahead (ahead : now < clock.next) : clock.poll now = .ok (0, clock) :=
  if_pos (decide_eq_true ahead)

theorem poll_of_counted (passed : ¬ now < clock.next) {n : Int}
    (counted : floorQuotient (now - clock.next) clock.period = .ok n) :
    clock.poll now = .ok (min (n + 1) clock.cap,
      { clock with next := clock.next + Float.ofInt (n + 1) * clock.period }) := by
  have passed : Timeline.before now clock.next = false := decide_eq_false passed
  have counted : Timeline.periods clock.next now clock.period = .ok n := counted
  simp only [poll, passed, counted]
  rfl

/-- A deadline has passed, but the periods since then cannot be counted. -/
theorem poll_of_uncounted {e : ClockError} (passed : ¬ now < clock.next)
    (uncounted : floorQuotient (now - clock.next) clock.period = .error e) :
    clock.poll now = .error e := by
  have passed : Timeline.before now clock.next = false := decide_eq_false passed
  have uncounted : Timeline.periods clock.next now clock.period = .error e := uncounted
  simp only [poll, passed, uncounted]
  rfl

/-! ## Clocks that can go on -/

/-- A clock whose next deadline is not before `-2 ^ b` and whose period, unless there is no deadline any
    more, is not below `2 ^ -a`. -/
structure Steady (a b : ℕ) (clock : DeadlineClock Float) : Prop where
  next : AtLeast (-2 ^ b) clock.next
  period : value clock.next = .infinite false ∨ ∃ p, StandsFor clock.period p ∧ 1 ≤ 2 ^ a * p

/-- **A poll of a steady clock** answers, and leaves a steady clock. -/
theorem poll_steady (steady : Steady a b clock) (fit : a + b ≤ 1022) {x : ℚ} (number : StandsFor now x)
    (small : |x| ≤ 2 ^ b) : ∃ n clock', clock.poll now = .ok (n, clock') ∧ Steady a b clock' := by
  by_cases ahead : now < clock.next
  · exact ⟨0, clock, poll_of_ahead ahead, steady⟩
  obtain ⟨least, pace⟩ := steady
  have finite : value clock.next ≠ .infinite false := fun infinite => ahead (lt_infinite number infinite)
  obtain ⟨d, deadline, least⟩ := least.resolve_left finite
  obtain ⟨p, period, one⟩ := pace.resolve_left finite
  have positive : 0 < p := by
    by_contra nonpos
    have : 2 ^ a * p ≤ 0 := mul_nonpos_of_nonneg_of_nonpos (by positivity) (not_lt.mp nonpos)
    linarith
  have passed : d ≤ x := not_lt.mp (mt (number.lt_iff deadline).mpr ahead)
  obtain ⟨s, span, nonneg, le⟩ := (rounds_sub number deadline).between (by linarith)
    (representable_two_pow (by omega : b + 1 ≤ 1023)) (by rw [pow_succ]; linarith [le_of_abs_le small])
  have few : s ≤ 2 ^ (a + b + 1) * p := by
    calc s ≤ 2 ^ (b + 1) * 1 := by rwa [mul_one]
      _ ≤ 2 ^ (b + 1) * (2 ^ a * p) := by gcongr
      _ = 2 ^ (a + b + 1) * p := by ring
  obtain ⟨n, counted⟩ := floorQuotient_of_short span period nonneg positive (by omega) few
  refine ⟨_, _, poll_of_counted ahead counted, ?_, Or.inr ⟨p, period, one⟩⟩
  have steps : AtLeast 0 (Float.ofInt ((n : Int) + 1)) :=
    (rounds_ofInt (n + 1)).atLeast representable_zero (by positivity)
  have bottom : Representable (-2 ^ b) := (representable_two_pow (by omega)).neg
  exact AtLeast.add deadline (steps.mul period positive) bottom least

/-- A steady clock answers at all times of a sequence, by induction on the times. -/
theorem polls_steady (fit : a + b ≤ 1022) : ∀ (times : List Float) {clock : DeadlineClock Float},
    Steady a b clock → (∀ t ∈ times, ∃ x, StandsFor t x ∧ |x| ≤ 2 ^ b) →
      ∃ answers, clock.polls times = .ok answers := by
  intro times
  induction times with
  | nil => exact fun _ _ => ⟨[], rfl⟩
  | cons t rest ih =>
    intro clock steady small
    obtain ⟨⟨x, number, le⟩, later⟩ := List.forall_mem_cons.mp small
    obtain ⟨n, clock', polled, steady'⟩ := poll_steady steady fit number le
    obtain ⟨answers, run⟩ := ih steady' later
    exact ⟨(n, clock') :: answers, by rw [polls_cons polled, run]; rfl⟩

/-! ## Rates -/

/-- The clock of a rate that is a number is steady. -/
theorem steady_of_number (number : StandsFor rate r) (positive : 0 < r) (fit : a + b ≤ 1022)
    (slow : r ≤ 2 ^ a) (started : StandsFor start q) (small : |q| ≤ 2 ^ b) (cap : Int) :
    Steady a b (starting (1 / rate) start cap) := by
  have unit : Representable (2 ^ (-a : ℤ)) := representable_two_zpow (by omega) (by omega)
  have bottom : Representable (-2 ^ b) := (representable_two_pow (by omega)).neg
  have period : AtLeast (2 ^ (-a : ℤ)) (1 / rate) := by
    refine (rounds_div standsFor_one number positive.ne').atLeast unit ?_
    rw [zpow_neg, zpow_natCast, ← one_div]
    exact one_div_le_one_div_of_le positive slow
  have nonneg : AtLeast 0 (1 / rate) := (rounds_div standsFor_one number positive.ne').atLeast
    representable_zero (by positivity)
  refine ⟨AtLeast.add started nonneg bottom (neg_le_of_abs_le small), ?_⟩
  rcases period with infinite | ⟨p, number', le⟩
  · exact Or.inl (add_infinite started infinite)
  · refine Or.inr ⟨p, number', ?_⟩
    calc (1 : ℚ) = 2 ^ a * 2 ^ (-a : ℤ) := by
          rw [zpow_neg, zpow_natCast, mul_inv_cancel₀ (by positivity)]
      _ ≤ 2 ^ a * p := by gcongr

end Chip8.DeadlineClock
