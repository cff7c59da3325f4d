/-
  Every deadline is reported once.

  A clock is read here in exact fractions, where nothing is rounded: the deadlines are `start + j * period`
  for `j = 1, 2, ..`, and the number of whole periods in a span is the floor of a quotient.

  What a clock knows of its past is a single number, `First`: the number `k` of the first deadline after
  everything that it has seen, its start included.  A poll moves `k` on to the first deadline after the
  polled time as well, if that is later, and reports the deadlines in between (`First.mem_due`), which are
  `k' - k` many.  The cap has no say in where `k` goes (`poll_waiting`).

  From one poll to the next the numbers `k` fit together, so the reports of a whole sequence of polls are
  pieces of one interval, in whatever order the times come (`polls_waiting`): no deadline is in two of them
  and none is left out (`due_once`), and the sum depends on both ends alone (`sum_polls`).
-/
import Chip8.Session.DeadlineClock
import Mathlib.Data.Rat.Floor
import Mathlib.Data.Set.Card
import Mathlib.Data.Int.Interval
import Mathlib.Tactic.Linarith

namespace Chip8

/-- Time in exact fractions. -/
instance : Timeline ℚ where
  before a b := a < b
  add a b := a + b
  times n p := n * p
  periods start stop p := if p = 0 then .error .zeroPeriod else .ok ⌊(stop - start) / p⌋

namespace DeadlineClock

/-- What polls at the given times report, one after the other, each with the clock that it leaves. -/
def polls {τ : Type} [Timeline τ] (c : DeadlineClock τ) :
    List τ → Except ClockError (List (Int × DeadlineClock τ))
  | [] => .ok []
  | t :: rest =>
    match c.poll t with
    | .error e => .error e
    | .ok answer => (answer.2.polls rest).map fun later => answer :: later

/-- The numbers of the deadlines after `seen` and up to `now`. -/
def due (start period seen now : ℚ) : Set ℤ :=
  {j | 1 ≤ j ∧ seen < start + j * period ∧ start + j * period ≤ now}

/-- The latest of a time and others. -/
def latest (start : ℚ) (times : List ℚ) : ℚ := times.foldl max start

/-- The first deadline after `seen` has number `k`. -/
structure First (start period seen : ℚ) (k : ℤ) : Prop where
  one_le : 1 ≤ k
  before : start + (k - 1) * period ≤ seen
  after : seen < start + k * period

variable {start period seen now : ℚ} {k k' j : ℤ}

/-! ## Numbers of deadlines -/

theorem mem_due_iff :
    j ∈ due start period seen now ↔
      1 ≤ j ∧ seen < start + j * period ∧ start + j * period ≤ now := Iff.rfl

theorem deadline_le (start : ℚ) (positive : 0 < period) (le : j ≤ k) :
    start + j * period ≤ start + k * period := by
  have le : (j : ℚ) ≤ k := by exact_mod_cast le
  have := mul_le_mul_of_nonneg_right le positive.le
  linarith

/-- The deadlines after `seen` are those from the first one on. -/
theorem First.lt_iff (first : First start period seen k) (positive : 0 < period) :
    seen < start + j * period ↔ k ≤ j := by
  constructor
  · intro later
    by_contra lower
    have le : j ≤ k - 1 := by omega
    have := deadline_le start positive le
    have before := first.before
    push_cast at this
    linarith
  · intro le
    exact first.after.trans_le (deadline_le start positive le)

/-- The deadlines that fall between two times, by their numbers. -/
theorem First.mem_due (first : First start period seen k)
    (next : First start period (max seen now) k') (positive : 0 < period) :
    j ∈ due start period seen now ↔ k ≤ j ∧ j < k' := by
  have from_ := first.lt_iff (j := j) positive
  have upTo := next.lt_iff (j := j) positive
  have one := first.one_le
  rw [max_lt_iff] at upTo
  rw [mem_due_iff, from_]
  constructor
  · rintro ⟨-, le, passed⟩
    refine ⟨le, ?_⟩
    by_contra beyond
    exact absurd passed (not_le_of_gt (upTo.mpr (by omega)).2)
  · rintro ⟨le, lt⟩
    refine ⟨by omega, le, not_lt.mp fun ahead => ?_⟩
    have := upTo.mp ⟨from_.mpr le, ahead⟩
    omega

/-- The first deadline is the least one. -/
theorem First.isLeast (first : First start period seen k) (positive : 0 < period) :
    IsLeast {x | ∃ j : ℤ, 1 ≤ j ∧ x = start + j * period ∧ seen < x} (start + k * period) := by
  refine ⟨⟨k, first.one_le, rfl, first.after⟩, ?_⟩
  rintro x ⟨j, -, rfl, later⟩
  exact deadline_le start positive ((first.lt_iff positive).mp later)

/-- The number of deadlines between two times. -/
theorem First.encard_due (first : First start period seen k)
    (next : First start period (max seen now) k') (positive : 0 < period) :
    (due start period seen now).encard = (k' - k).toNat := by
  have interval : due start period seen now = Finset.Ico k k' := by
    ext j
    rw [first.mem_due next positive, Finset.coe_Ico, Set.mem_Ico]
  rw [interval, Set.encard_coe_eq_coe_finsetCard, Int.card_Ico]

/-! ## One poll -/

/-- The clock whose next deadline has number `k`. -/
def waiting (start period : ℚ) (cap k : ℤ) : DeadlineClock ℚ := ⟨period, start + k * period, cap⟩

theorem starting_eq_waiting (start period : ℚ) (cap : ℤ) :
    starting period start cap = waiting start period cap 1 := by
  rw [waiting, Int.cast_one, one_mul]
  rfl

theorem first_one (positive : 0 < period) : First start period start 1 := by
  constructor
  · exact le_refl 1
  · rw [Int.cast_one, sub_self, zero_mul, add_zero]
  · rw [Int.cast_one, one_mul]
    linarith

theorem poll_of_early {c : DeadlineClock ℚ} (early : now < c.next) : c.poll now = .ok (0, c) :=
  if_pos (decide_eq_true early)

theorem poll_of_late {c : DeadlineClock ℚ} (positive : 0 < c.period) (late : c.next ≤ now) :
    c.poll now =
      .ok (min (⌊(now - c.next) / c.period⌋ + 1) c.cap,
        { c with next := c.next + ((⌊(now - c.next) / c.period⌋ + 1 : ℤ) : ℚ) * c.period }) := by
  have before : ¬ Timeline.before now c.next = true := by
    show ¬ decide (now < c.next) = true
    rw [decide_eq_true_eq, not_lt]
    exact late
  have count : Timeline.periods c.next now c.period = .ok ⌊(now - c.next) / c.period⌋ :=
    if_neg positive.ne'
  rw [poll, if_neg before, count]
  rfl

/-- **A poll** reports the deadlines up to the first one after the polled time, which the clock then waits
    for; a time that does not come after what the clock has seen moves nothing. -/
theorem poll_waiting {cap : ℤ} (positive : 0 < period) (nonneg : 0 ≤ cap)
    (first : First start period seen k) (now : ℚ) :
    ∃ k', First start period (max seen now) k' ∧ k ≤ k' ∧
      (waiting start period cap k).poll now = .ok (min (k' - k) cap, waiting start period cap k') := by
  by_cases early : now < start + k * period
  · refine ⟨k, ?_, le_refl k, ?_⟩
    · exact ⟨first.one_le, first.before.trans (le_max_left _ _), max_lt first.after early⟩
    · rw [poll_of_early early, sub_self, min_eq_left nonneg]
  · rw [not_lt] at early
    have later : max seen now = now := max_eq_right (first.after.le.trans early)
    have polled := poll_of_late (c := waiting start period cap k) positive early
    -- so many whole periods have passed since the next deadline
    have passed : 0 ≤ ⌊(now - (start + k * period)) / period⌋ :=
      Int.floor_nonneg.mpr (div_nonneg (by linarith) positive.le)
    have lower := (le_div_iff₀ positive).mp (Int.floor_le ((now - (start + k * period)) / period))
    have upper :=
      (div_lt_iff₀ positive).mp (Int.lt_floor_add_one ((now - (start + k * period)) / period))
    simp only [waiting] at polled
    generalize ⌊(now - (start + k * period)) / period⌋ = n at passed lower upper polled
    refine ⟨k + (n + 1), ?_, by omega, ?_⟩
    · have one := first.one_le
      rw [later]
      refine ⟨by omega, ?_, ?_⟩
      · push_cast
        linarith
      · push_cast
        linarith
    · have next : start + k * period + ((n + 1 : ℤ) : ℚ) * period =
          start + ((k + (n + 1) : ℤ) : ℚ) * period := by
        push_cast
        ring
      rw [waiting, polled, next, add_sub_cancel_left]
      rfl

/-! ## Polls one after the other -/

theorem latest_nil (start : ℚ) : latest start [] = start := rfl

theorem latest_cons (start t : ℚ) (rest : List ℚ) :
    latest start (t :: rest) = latest (max start t) rest := rfl

theorem latest_lt_iff {x : ℚ} : ∀ {times : List ℚ} {start : ℚ},
    latest start times < x ↔ start < x ∧ ∀ t ∈ times, t < x := by
  intro times
  induction times with
  | nil =>
    intro start
    simp [latest_nil]
  | cons t rest ih =>
    intro start
    rw [latest_cons, ih, max_lt_iff, List.forall_mem_cons, and_assoc]

theorem polls_cons {τ : Type} [Timeline τ] {c c' : DeadlineClock τ} {t : τ} {n : ℤ}
    (polled : c.poll t = .ok (n, c')) (rest : List τ) :
    c.polls (t :: rest) = (c'.polls rest).map fun later => (n, c') :: later := by
  rw [polls, polled]

/-- What comes after an answer is what the clock that it leaves reports. -/
theorem polls_eq_ok {τ : Type} [Timeline τ] {c c' : DeadlineClock τ} {t : τ} {n : ℤ}
    (polled : c.poll t = .ok (n, c')) {rest : List τ} {answers : List (ℤ × DeadlineClock τ)}
    (run : c.polls (t :: rest) = .ok answers) :
    ∃ later, c'.polls rest = .ok later ∧ answers = (n, c') :: later := by
  rw [polls_cons polled] at run
  cases further : c'.polls rest with
  | error e =>
    rw [further] at run
    cases run
  | ok later =>
    rw [further] at run
    cases run
    exact ⟨later, rfl, rfl⟩

theorem le_latest (start : ℚ) (times : List ℚ) : start ≤ latest start times := by
  by_contra later
  exact lt_irrefl start (latest_lt_iff.mp (not_le.mp later)).1

theorem latest_take_succ {times : List ℚ} {i : Nat} (found : times[i]? = some now) (start : ℚ) :
    latest start (times.take (i + 1)) = max (latest start (times.take i)) now := by
  rw [List.take_add_one, found, latest, List.foldl_append]
  rfl

/-- **Every poll of a sequence** finds the clock waiting for the first deadline after everything that was
    seen before it, and leaves it waiting for the first one after the polled time as well. -/
theorem polls_waiting {cap : ℤ} (positive : 0 < period) (nonneg : 0 ≤ cap) :
    ∀ (times : List ℚ) {seen : ℚ} {k : ℤ}, First start period seen k →
      ∃ answers, (waiting start period cap k).polls times = .ok answers ∧
        answers.length = times.length ∧
        ∀ i now, times[i]? = some now → ∃ k₀ k₁,
          First start period (latest seen (times.take i)) k₀ ∧
          First start period (latest seen (times.take (i + 1))) k₁ ∧ k₀ ≤ k₁ ∧
          answers[i]? = some (min (k₁ - k₀) cap, waiting start period cap k₁) := by
  intro times
  induction times with
  | nil =>
    intro seen k first
    refine ⟨[], rfl, rfl, ?_⟩
    intro i now none
    cases none
  | cons t rest ih =>
    intro seen k first
    obtain ⟨k', next, le, polled⟩ := poll_waiting positive nonneg first t
    obtain ⟨answers, run, length, each⟩ := ih next
    refine ⟨(min (k' - k) cap, waiting start period cap k') :: answers, ?_,
      congrArg (· + 1) length, ?_⟩
    · rw [polls_cons polled, run]
      rfl
    · intro i now found
      cases i with
      | zero => exact ⟨k, k', first, next, le, rfl⟩
      | succ i => exact each i now found

/-- Reports below the cap add up to the number of deadlines from the first one waited for on. -/
theorem sum_polls {cap : ℤ} (positive : 0 < period) (nonneg : 0 ≤ cap) :
    ∀ (times : List ℚ) {seen : ℚ} {k : ℤ}, First start period seen k →
      ∀ {answers}, (waiting start period cap k).polls times = .ok answers →
        (∀ answer ∈ answers, answer.1 < cap) →
        ∃ k', First start period (latest seen times) k' ∧ k ≤ k' ∧
          (answers.map Prod.fst).sum = k' - k := by
  intro times
  induction times with
  | nil =>
    intro seen k first answers run _
    cases run
    exact ⟨k, first, le_refl k, (sub_self k).symm⟩
  | cons t rest ih =>
    intro seen k first answers run below
    obtain ⟨k', next, le, polled⟩ := poll_waiting positive nonneg first t
    obtain ⟨later, further, rfl⟩ := polls_eq_ok polled run
    obtain ⟨head, tail⟩ := List.forall_mem_cons.mp below
    obtain ⟨k'', last, le', sum⟩ := ih next further tail
    refine ⟨k'', last, le.trans le', ?_⟩
    have head : min (k' - k) cap < cap := head
    rw [List.map_cons, List.sum_cons]
    show min (k' - k) cap + (later.map Prod.fst).sum = k'' - k
    omega

/-- A deadline that has passed at the end is due at a single poll. -/
theorem due_once (one : 1 ≤ j) : ∀ {times : List ℚ} {seen : ℚ}, seen < start + j * period →
    start + j * period ≤ latest seen times →
    ∃! i, ∃ now, times[i]? = some now ∧ j ∈ due start period (latest seen (times.take i)) now := by
  intro times
  induction times with
  | nil =>
    intro seen ahead passed
    exact absurd ahead (not_lt_of_ge passed)
  | cons t rest ih =>
    intro seen ahead passed
    rw [latest_cons] at passed
    by_cases reached : start + j * period ≤ t
    · refine ⟨0, ⟨t, rfl, ?_⟩, ?_⟩
      · rw [List.take_zero, latest_nil, mem_due_iff]
        exact ⟨one, ahead, reached⟩
      · rintro (_ | i) ⟨now, found, member⟩
        · rfl
        · -- a later poll has seen this one
          rw [List.take_succ_cons, latest_cons, mem_due_iff, latest_lt_iff, max_lt_iff] at member
          exact absurd reached (not_le_of_gt member.2.1.1.2)
    · rw [not_le] at reached
      obtain ⟨i, ⟨now, found, member⟩, unique⟩ := ih (max_lt ahead reached) passed
      refine ⟨i + 1, ⟨now, found, ?_⟩, ?_⟩
      · rw [List.take_succ_cons, latest_cons]
        exact member
      · rintro (_ | i') ⟨now', found', member'⟩
        · cases found'
          exact absurd (mem_due_iff.mp member').2.2 (not_le_of_gt reached)
        · rw [List.take_succ_cons, latest_cons] at member'
          rw [unique i' ⟨now', found', member'⟩]

/-- **Every deadline is reported once.**  Polls never fail, in whatever order their times come.  Each
    reports, up to the cap, the deadlines after everything that was seen before it and up to its own time,
    and leaves the clock waiting for the first deadline after all that it has seen.  So each deadline that
    has passed is due at one poll and no other, and reports of which none reaches the cap add up to the
    number of deadlines up to the latest time, however often the clock was polled. -/
theorem polls_report {start period : ℚ} (positive : 0 < period) {cap : ℤ} (nonneg : 0 ≤ cap)
    (times : List ℚ) :
    ∃ answers,
      (starting period start cap).polls times = .ok answers ∧
      answers.length = times.length ∧
      (∀ i now, times[i]? = some now → ∃ (n : ℕ) (c : DeadlineClock ℚ),
        answers[i]? = some (min cap n, c) ∧
        (due start period (latest start (times.take i)) now).encard = n ∧
        IsLeast {x | ∃ j : ℤ, 1 ≤ j ∧ x = start + j * period ∧
          start < x ∧ ∀ t ∈ times.take (i + 1), t < x} c.next) ∧
      (∀ j : ℤ, 1 ≤ j → start + j * period ≤ latest start times →
        ∃! i, ∃ now, times[i]? = some now ∧
          j ∈ due start period (latest start (times.take i)) now) ∧
      ((∀ answer ∈ answers, answer.1 < cap) → ∃ n : ℕ,
        (answers.map Prod.fst).sum = n ∧
        (due start period start (latest start times)).encard = n) := by
  have first : First start period start 1 := first_one positive
  obtain ⟨answers, run, length, each⟩ := polls_waiting positive nonneg times first
  refine ⟨answers, ?_, length, ?_, ?_, ?_⟩
  · rw [starting_eq_waiting]
    exact run
  · intro i now found
    obtain ⟨k₀, k₁, before, after, le, answer⟩ := each i now found
    have least := after.isLeast positive
    rw [latest_take_succ found] at after
    refine ⟨(k₁ - k₀).toNat, waiting start period cap k₁, ?_, before.encard_due after positive, ?_⟩
    · rw [answer, min_comm, Int.toNat_of_nonneg (by omega)]
    · simp only [latest_lt_iff] at least
      exact least
  · intro j one passed
    refine due_once one ?_ passed
    have := deadline_le start positive one
    rw [Int.cast_one, one_mul] at this
    linarith
  · intro below
    obtain ⟨k', last, le, sum⟩ := sum_polls positive nonneg times first run below
    rw [← max_eq_right (le_latest start times)] at last
    refine ⟨(k' - 1).toNat, ?_, first.encard_due last positive⟩
    rw [sum, Int.toNat_of_nonneg (by omega)]

/-- Four polls of which the second goes back in time and the third repeats the first. -/
theorem polls_report_of_times_going_back :
    let times : List ℚ := [1 / 4, 1 / 10, 1 / 4, 1]
    (0 : ℚ) < 1 / 10 ∧ (0 : ℤ) ≤ 9 ∧
      ∃ answers, (starting (1 / 10) 0 9).polls times = .ok answers ∧
        answers.map Prod.fst = [2, 0, 0, 8] ∧ (due 0 (1 / 10) 0 1).encard = 10 := by
  intro times
  have positive : (0 : ℚ) < 1 / 10 := by norm_num
  obtain ⟨answers, run, -, -, -, sum⟩ :=
    @polls_report 0 (1 / 10) positive 9 (by decide) times
  have reports : answers.map Prod.fst = [2, 0, 0, 8] := by
    have shown : ((starting (1 / 10 : ℚ) 0 9).polls times).toOption.map (List.map Prod.fst) =
        some [2, 0, 0, 8] := by decide +kernel
    rw [run] at shown
    exact Option.some.inj shown
  have below : ∀ answer ∈ answers, answer.1 < 9 := by
    intro answer member
    have report : answer.1 ∈ answers.map Prod.fst := List.mem_map_of_mem member
    rw [reports] at report
    exact (by decide : ∀ n ∈ ([2, 0, 0, 8] : List ℤ), n < 9) _ report
  obtain ⟨n, total, number⟩ := sum below
  have ten : n = 10 := by
    have sum : ([2, 0, 0, 8] : List ℤ).sum = 10 := by decide
    rw [reports, sum] at total
    omega
  have last : latest 0 times = 1 := by decide +kernel
  rw [last, ten] at number
  exact ⟨positive, by decide, answers, run, reports, number⟩

end DeadlineClock

end Chip8
