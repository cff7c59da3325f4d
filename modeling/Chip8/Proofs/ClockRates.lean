/-
  The clocks of accepted rates.

  The settings refuse a rate of which it can be said that it is not positive; a rate that is no number
  compares with nothing and is accepted, and so is an infinite one.  `polls_of_paced` says what becomes of the
  clocks of a session for every rate that is accepted: those of a number go on answering as long as rate and
  times are not too large (`polls_steady`), and never lack a period (`polls_ne_zeroPeriod`), while the others
  fail sooner or later (`polls_of_nan`, `polls_of_infinite`).
-/
import Chip8.Proofs.SteadyClocks
import Chip8.Session.Run

namespace Chip8

open Double

namespace DeadlineClock

variable {clock clock' : DeadlineClock Float} {rate start now : Float} {q r : ℚ}

/-! ## Periods -/

/-- A poll leaves the period as it is. -/
theorem period_of_poll {n : Int} (polled : clock.poll now = .ok (n, clock')) :
    clock'.period = clock.period := by
  rw [poll] at polled
  split at polled
  · cases polled
    rfl
  · cases count : Timeline.periods clock.next now clock.period with
    | error e =>
      rw [count] at polled
      cases polled
    | ok k =>
      rw [count] at polled
      cases polled
      rfl

theorem poll_ne_zeroPeriod (nonzero : ¬ (clock.period == 0) = true) (now : Float) :
    clock.poll now ≠ .error .zeroPeriod := by
  rw [poll]
  split
  · rintro ⟨⟩
  · have other : Timeline.periods clock.next now clock.period ≠ .error .zeroPeriod :=
      floorQuotient_of_nonzero _ nonzero
    cases count : Timeline.periods clock.next now clock.period with
    | error e =>
      rintro ⟨⟩
      exact other count
    | ok n => rintro ⟨⟩

/-- A clock with a period never fails for want of one, by induction on the times. -/
theorem polls_ne_zeroPeriod : ∀ (times : List Float) {clock : DeadlineClock Float},
    ¬ (clock.period == 0) = true → clock.polls times ≠ .error .zeroPeriod := by
  intro times
  induction times with
  | nil =>
    intro _ _
    rintro ⟨⟩
  | cons t rest ih =>
    intro clock nonzero
    cases polled : clock.poll t with
    | error e =>
      rw [polls, polled]
      rintro ⟨⟩
      exact poll_ne_zeroPeriod nonzero t polled
    | ok answer =>
      rw [polls_cons polled]
      have same : answer.2.period = clock.period := period_of_poll polled
      have later := @ih answer.2 (by rwa [same])
      cases further : answer.2.polls rest with
      | error e =>
        rintro ⟨⟩
        exact later further
      | ok answers => rintro ⟨⟩

/-! ## Rates -/

/-- The clock of a rate that is no number fails at every poll. -/
theorem polls_of_nan (nan : value rate = .nan) (start : Float) (cap : Int) {times : List Float}
    (polled : times ≠ []) : (starting (1 / rate) start cap).polls times = .error .notANumber := by
  obtain ⟨t, rest, rfl⟩ := List.exists_cons_of_ne_nil polled
  have period : value (1 / rate) = .nan := div_nan 1 nan
  have next : value (start + 1 / rate) = .nan := add_nan start period
  have fails : (starting (1 / rate) start cap).poll t = .error .notANumber :=
    poll_of_uncounted (not_lt_nan t next) (floorQuotient_of_nan _ period)
  rw [polls, fails]

/-- The clock of an infinite rate answers until its start, and fails at the first poll from then on. -/
theorem polls_of_infinite (infinite : value rate = .infinite false) (started : StandsFor start q)
    (cap : Int) : ∀ times : List Float, (∀ t ∈ times, ∃ x, StandsFor t x) →
      ((∀ t ∈ times, t < start) → (starting (1 / rate) start cap).polls times =
        .ok (times.map fun _ => (0, starting (1 / rate) start cap))) ∧
      (∀ t ∈ times, ¬ t < start → (starting (1 / rate) start cap).polls times = .error .zeroPeriod) := by
  have period : StandsFor (1 / rate) 0 := div_infinite standsFor_one infinite
  have next : StandsFor (start + 1 / rate) q := by
    have sum := rounds_add started period
    rw [add_zero] at sum
    exact sum.standsFor started.representable
  intro times
  induction times with
  | nil =>
    intro _
    exact ⟨fun _ => rfl, fun t member => by cases member⟩
  | cons t rest ih =>
    intro numbers
    obtain ⟨⟨x, number⟩, later⟩ := List.forall_mem_cons.mp numbers
    obtain ⟨ahead, reached⟩ := ih later
    have same : t < start + 1 / rate ↔ t < start := by
      rw [number.lt_iff next, number.lt_iff started]
    by_cases early : t < start
    · have answers : (starting (1 / rate) start cap).poll t = .ok (0, starting (1 / rate) start cap) :=
        poll_of_ahead (same.mpr early)
      rw [polls_cons answers]
      constructor
      · intro all
        rw [ahead (List.forall_mem_cons.mp all).2]
        rfl
      · intro t' member late
        rcases List.mem_cons.mp member with rfl | member
        · exact absurd early late
        · rw [reached t' member late]
          rfl
    · have fails : (starting (1 / rate) start cap).poll t = .error .zeroPeriod :=
        poll_of_uncounted (mt same.mp early) (floorQuotient_of_zero _ period)
      rw [polls, fails]
      exact ⟨fun all => absurd (all t List.mem_cons_self) early, fun _ _ _ => rfl⟩

/-- The period of a rate that is a positive number is positive. -/
theorem period_of_number (number : StandsFor rate r) (positive : 0 < r) :
    AtLeast (2 ^ (-1024 : ℤ)) (1 / rate) := by
  have below : r ≤ 2 ^ (1024 : ℤ) := (le_abs_self r).trans number.representable.lt.le
  refine (rounds_div standsFor_one number positive.ne').atLeast
    (representable_two_zpow (by decide) (by decide)) ?_
  rw [zpow_neg, ← one_div]
  exact one_div_le_one_div_of_le positive below

end DeadlineClock

namespace Session

variable {s : Settings} {c : Accepted} {key : RandomKey} {program : Bytes} {start rate : Float}
  {clock : DeadlineClock Float} {q : ℚ}

/-- A clock that a session starts with, beside the rate that it is set to. -/
inductive Paced (c : Accepted) (key : RandomKey) (program : Bytes) (start : Float) :
    Float → DeadlineClock Float → Prop
  | instructions : Paced c key program start c.instructionRate (opening c key program start).instructions
  | renders : Paced c key program start c.renderRate (opening c key program start).renders

theorem Paced.eq_starting (paced : Paced c key program start rate clock) :
    ∃ cap, clock = DeadlineClock.starting (1 / rate) start cap := by
  cases paced with
  | instructions => exact ⟨16, rfl⟩
  | renders => exact ⟨1, rfl⟩

theorem Paced.not_le_zero (paced : Paced c key program start rate clock) (accepted : s.check = .ok c) :
    ¬ rate ≤ 0 := by
  obtain ⟨instructions, renders⟩ := Settings.rates_of_check accepted
  cases paced with
  | instructions => exact instructions
  | renders => exact renders

/-- **The clocks of accepted rates.**  A rate that is accepted may be no number, and then every poll of its
    clock fails; it may be infinite, and then every poll from the start of the session on fails.  If it is a
    number, no poll ever fails for want of a period, and if the rate is at most `2 ^ a` and all times are
    within `2 ^ b` of zero for `a + b ≤ 1022`, no poll fails at all, however many there are and in whatever
    order their times come. -/
theorem polls_of_paced (accepted : s.check = .ok c) (paced : Paced c key program start rate clock)
    (started : StandsFor start q) :
    (value rate = .nan → ∀ times, times ≠ [] → clock.polls times = .error .notANumber) ∧
    (∀ negative, value rate = .infinite negative → ∀ times, (∀ t ∈ times, ∃ x, StandsFor t x) →
      ((∀ t ∈ times, t < start) → clock.polls times = .ok (times.map fun _ => (0, clock))) ∧
      (∀ t ∈ times, ¬ t < start → clock.polls times = .error .zeroPeriod)) ∧
    (∀ r, StandsFor rate r →
      (∀ times, clock.polls times ≠ .error .zeroPeriod) ∧
      ∀ a b : ℕ, a + b ≤ 1022 → r ≤ 2 ^ a → |q| ≤ 2 ^ b →
        ∀ times, (∀ t ∈ times, ∃ x, StandsFor t x ∧ |x| ≤ 2 ^ b) →
          ∃ answers, clock.polls times = .ok answers) := by
  have positive := paced.not_le_zero accepted
  obtain ⟨cap, rfl⟩ := paced.eq_starting
  refine ⟨fun nan times polled => DeadlineClock.polls_of_nan nan start cap polled, ?_, ?_⟩
  · intro negative infinite times numbers
    cases negative with
    | true => exact absurd (infinite_le infinite standsFor_zero) positive
    | false => exact DeadlineClock.polls_of_infinite infinite started cap times numbers
  · intro r number
    have positive : 0 < r := not_le.mp (mt (number.le_iff standsFor_zero).mpr positive)
    refine ⟨fun times => DeadlineClock.polls_ne_zeroPeriod times ?_, ?_⟩
    · exact (DeadlineClock.period_of_number number positive).not_beq_zero (by positivity)
    · intro a b fit slow small times numbers
      exact DeadlineClock.polls_steady fit times
        (DeadlineClock.steady_of_number number positive fit slow started small cap) numbers

/-- Pictures that are to come at an infinite rate are not to be had, while the cycles go on. -/
theorem polls_of_paced_at_an_infinite_rate :
    ∃ c, Settings.check { renderRate := 1 / 0 } = .ok c ∧ StandsFor 0 0 ∧
      (∃ answers, (opening c ⟨0, 0⟩ #[0x12, 0x00] 0).instructions.polls [1, 0.5] = .ok answers) ∧
      (opening c ⟨0, 0⟩ #[0x12, 0x00] 0).renders.polls [-1, 0] = .error .zeroPeriod := by
  have level : Log.Level.parse "INFO" = .ok .info := by rfl
  have accepted := Settings.check_eq_ok (s := { renderRate := 1 / 0 }) (by decide +kernel)
    (by decide +kernel) (by decide) (Scheme.ofName_name .classic) level
  have usual : StandsFor 500 500 := by
    have value : Double.value 500 = .finite false 0x1F400000000000 (-44) := by decide +kernel
    exact standsFor_of_value value (by norm_num [signed, scaled])
  have infinite : value (1 / 0) = .infinite false := by decide +kernel
  refine ⟨_, accepted, standsFor_zero, ?_, ?_⟩
  · obtain ⟨-, -, numbers⟩ := polls_of_paced accepted (@Paced.instructions _ ⟨0, 0⟩ _ _) standsFor_zero
    obtain ⟨-, answers⟩ := numbers 500 usual
    refine answers 9 0 (by decide) (by norm_num) (by norm_num) [1, 0.5] ?_
    simp only [List.forall_mem_cons]
    exact ⟨⟨1, standsFor_one, by norm_num⟩, ⟨1 / 2, standsFor_half, by norm_num⟩, List.forall_mem_nil _⟩
  · have numbers : ∀ t ∈ ([-1, 0] : List Float), ∃ x, StandsFor t x := by
      simp only [List.forall_mem_cons]
      exact ⟨⟨-1, standsFor_neg standsFor_one⟩, ⟨0, standsFor_zero⟩, List.forall_mem_nil _⟩
    obtain ⟨-, infinities, -⟩ := polls_of_paced accepted (@Paced.renders _ ⟨0, 0⟩ _ _) standsFor_zero
    obtain ⟨-, reached⟩ := infinities false infinite [-1, 0] numbers
    exact reached 0 (.tail _ (.head _)) (by decide +kernel)

/-- Rates that are accepted although their clocks cannot be polled: one that is no number, an infinite one,
    and one that together with the times is just beyond what can be counted. -/
theorem polls_unanswered_of_accepted :
    (∃ c, Settings.check { renderRate := nan } = .ok c ∧
      (opening c ⟨0, 0⟩ #[0x12, 0x00] 0).renders.polls [0] = .error .notANumber) ∧
    (∃ c, Settings.check { renderRate := 1 / 0 } = .ok c ∧
      (opening c ⟨0, 0⟩ #[0x12, 0x00] 0).renders.polls [0] = .error .zeroPeriod) ∧
    ∃ c, Settings.check { instructionRate := ofScaled false 1 1021 } = .ok c ∧
      (opening c ⟨0, 0⟩ #[0x12, 0x00] (-4)).instructions.polls [4] = .error .infinite := by
  have level : Log.Level.parse "INFO" = .ok .info := by rfl
  have scheme := Scheme.ofName_name .classic
  refine ⟨⟨_, Settings.check_eq_ok (by decide +kernel) (by decide +kernel) (by decide) scheme level, ?_⟩,
    ⟨_, Settings.check_eq_ok (by decide +kernel) (by decide +kernel) (by decide) scheme level, ?_⟩,
    ⟨_, Settings.check_eq_ok (by decide +kernel) (by decide +kernel) (by decide) scheme level, ?_⟩⟩
  · exact DeadlineClock.polls_of_nan (by decide +kernel) 0 1 (List.cons_ne_nil 0 [])
  · have infinite : value (1 / 0) = .infinite false := by decide +kernel
    obtain ⟨-, reached⟩ := DeadlineClock.polls_of_infinite infinite standsFor_zero 1 [0]
      (List.forall_mem_singleton.mpr ⟨0, standsFor_zero⟩)
    exact reached 0 (.head _) (by decide +kernel)
  · have fails : (DeadlineClock.starting (1 / ofScaled false 1 1021) (-4)).poll 4 = .error .infinite :=
      DeadlineClock.poll_of_uncounted (by decide +kernel) (by decide +kernel)
    show (DeadlineClock.starting (1 / ofScaled false 1 1021) (-4)).polls [4] = _
    rw [DeadlineClock.polls, fails]

end Session

end Chip8
