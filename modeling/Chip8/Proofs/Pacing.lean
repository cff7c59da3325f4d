/-
  What the pacer of a session is told.

  A session goes round in a loop, and each pass through it ends in telling the pacer the rate of the cycles,
  which holds the loop back to that rate; a pass in which a cycle faults tells it nothing.  The pacer takes
  whole numbers, and zero for no limit at all.  What it is told is the floor of the rate: never above the
  rate, but positive only if the rate is at least one (`run_paces`).  A slower rate is accepted just as well,
  and then nothing holds the loop back (`run_paces_without_limit`).

  `passes` are the passes that a session goes through, each with what its frame comes to.  `frame_tells` is
  about one of them, and `play_traced` about all, by the induction of `play_induction`.
-/
import Chip8.Proofs.Pictures
import Chip8.Proofs.WholePeriods

namespace Chip8

open Double

/-- The pacer is told rates from one point of a session to another, and what is presented in between is
    presented first. -/
structure Session.Told (s r : Session) (rates : List Int) : Prop where
  paces : r.paces = s.paces ++ rates
  shots : ∃ shown, r.shots = s.shots ++ shown ∧ ∀ shot ∈ shown, shot.paced = s.paces.length

/-- A pass through the loop of a session: where it begins, its frame, and what the frame comes to. -/
structure Pass where
  before : Session
  frame : Frame
  result : Session × Progress

namespace Pass

/-- Whether one of the cycles of a pass faults. -/
def Faults (p : Pass) : Prop :=
  ∃ due clock fault, p.before.instructions.poll p.frame.time = .ok (due, clock) ∧
    (p.before.machine.follow p.before.devices (Batch.actions ⟨p.frame.events, due⟩)).trap =
      some (.fault fault)

/-- Whether a pass ends in telling the pacer a rate, once, unless one of its cycles faults. -/
structure Tells (p : Pass) (rate : Int) : Prop where
  faulting : p.Faults → p.before.Told p.result.1 []
  faultless : ¬ p.Faults → p.before.Told p.result.1 [rate]

end Pass

/-- The exit status that a session comes to if it does not fail. -/
def Progress.status : Progress → Nat
  | .halted => 1
  | _ => 0

namespace Session

variable {c : Accepted} {limits : Limits} {s u r : Session} {f : Frame} {rate : Int}

/-- The passes that a session goes through, the last of them the one that ends it. -/
def passes (c : Accepted) (limits : Limits) (s : Session) : List Frame → List Pass
  | [] => []
  | f :: rest =>
    ⟨s, f, s.frame c limits f⟩ ::
      match s.frame c limits f with
      | (s, .running) => s.passes c limits rest
      | _ => []

theorem passes_cons_of_running (h : (s.frame c limits f).2 = .running) (rest : List Frame) :
    s.passes c limits (f :: rest) =
      ⟨s, f, s.frame c limits f⟩ :: (s.frame c limits f).1.passes c limits rest := by
  rw [passes]
  rcases framed : s.frame c limits f with ⟨u, p⟩
  rw [framed] at h
  obtain rfl : p = .running := h
  rfl

theorem passes_cons_of_ended (h : (s.frame c limits f).2 ≠ .running) (rest : List Frame) :
    s.passes c limits (f :: rest) = [⟨s, f, s.frame c limits f⟩] := by
  rw [passes]
  rcases framed : s.frame c limits f with ⟨u, _ | _ | _ | e⟩
  · rw [framed] at h
    exact absurd rfl h
  all_goals rfl

/-! ## One pass -/

/-- What is told in the middle of a frame is told from its beginning on. -/
theorem Entered.told {now : Attempt} {clock : DeadlineClock Float} {rates : List Int}
    (entered : Entered s f now clock u) (told : u.Told r rates) : s.Told r rates where
  paces := by
    rw [← entered.paces]
    exact told.paces
  shots := by
    rw [← entered.shots, ← entered.paces]
    exact told.shots

theorem told_note (s : Session) (entries : List Log.Entry) : s.Told (s.note entries) [] where
  paces := (List.append_nil _).symm
  shots := ⟨[], (List.append_nil _).symm, fun _ member => absurd member List.not_mem_nil⟩

/-- The pacer is told the rate after the picture, if there is one. -/
theorem told_present (whole : toInt c.instructionRate = .ok rate)
    (presented : (s.present c limits).2 = .ok ()) : s.Told (s.present c limits).1 [rate] := by
  rcases rendered : s.renders.poll s.now with e | ⟨due, renders⟩
  · rw [present_of_error rendered] at presented
    cases presented
  · by_cases idle : due = 0
    · subst idle
      rw [present_idle whole rendered]
      exact ⟨rfl, [], (List.append_nil _).symm, fun _ member => absurd member List.not_mem_nil⟩
    · rcases size : Image.oversize? limits 64 32 c.scale with _ | e
      · rw [present_due whole rendered idle size]
        refine ⟨rfl, [_], rfl, ?_⟩
        intro shot member
        rw [List.mem_singleton.mp member]
      · rw [present_large rendered idle size] at presented
        cases presented

/-- **A pass that does not fail** tells the pacer the rate at its end, unless a cycle faults. -/
theorem frame_tells (wf : s.machine.state.WellFormed) (whole : toInt c.instructionRate = .ok rate)
    (lasts : ∀ e, (s.frame c limits f).2 ≠ .failed e) :
    let p : Pass := ⟨s, f, s.frame c limits f⟩
    p.Tells rate ∧ (p.Faults ∧ p.result.2.status = 1 ∨ ¬ p.Faults ∧ p.result.2.status = 0) := by
  intro p
  rcases polled : s.instructions.poll f.time with e | ⟨due, clock⟩
  · exact absurd (frame_of_unanswered polled) (lasts (.clock e))
  obtain ⟨u, entered, framed⟩ := frame_entered (c := c) wf polled
  cases trap : (s.machine.follow s.devices (Batch.actions ⟨f.events, due⟩)).trap with
  | some t =>
    obtain ⟨fault, rfl⟩ := Machine.fault_of_follow _ _ wf trap
    have faults : p.Faults := ⟨due, clock, fault, polled, trap⟩
    rw [trap, if_neg (Option.some_ne_none _)] at framed
    have told : s.Told (s.frame c limits f).1 [] := by
      rw [framed]
      exact entered.told (told_note u _)
    refine ⟨⟨fun _ => told, fun faultless => absurd faults faultless⟩, Or.inl ⟨faults, ?_⟩⟩
    show (s.frame c limits f).2.status = 1
    rw [framed]
    rfl
  | none =>
    have faultless : ¬ p.Faults := by
      rintro ⟨due', clock', fault, polled', trap'⟩
      cases polled.symm.trans polled'
      cases trap.symm.trans trap'
    rw [trap, if_pos rfl] at framed
    rcases presented : u.present c limits with ⟨r, e | _⟩
    · rw [presented] at framed
      exact absurd (congrArg Prod.snd framed) (lasts e)
    · have told := told_present (s := u) whole (by rw [presented])
      rw [presented] at framed told
      have told : s.Told (s.frame c limits f).1 [rate] := by
        rw [framed]
        exact entered.told told
      refine ⟨⟨fun faults => absurd faults faultless, fun _ => told⟩, Or.inr ⟨faultless, ?_⟩⟩
      show (s.frame c limits f).2.status = 0
      rw [framed]
      show (if Batch.quits ⟨f.events, due⟩ then Progress.closed else .running).status = 0
      split <;> rfl

/-- A machine that is at a fault halts the session in a frame in which a cycle is due. -/
theorem frame_of_fault {kind : FaultKind} {due : Int} {clock : DeadlineClock Float}
    (wf : s.machine.state.WellFormed)
    (fault : s.machine.state.nextWord.fault? s.machine.state.stack = some kind)
    (polled : s.instructions.poll f.time = .ok (due, clock)) (pos : 0 < due) :
    (s.frame c limits f).2 = .halted := by
  have stopped : (s.machine.follow s.devices (Batch.actions ⟨f.events, due⟩)).trap ≠ none := by
    rw [follow_of_fault fault s.devices pos, Machine.cycle_of_fault fault]
    exact Option.some_ne_none _
  obtain ⟨halted, -⟩ := frame_of_stopped (c := c) wf polled stopped
  exact halted

/-! ## One pass after the other -/

/-- A session that has gone through a script and told the pacer a rate in each pass without a fault. -/
structure Traced (c : Accepted) (limits : Limits) (rate : Int) (s : Session) (script : List Frame)
    (r : Session × Progress) : Prop where
  last : (s.passes c limits script).getLast?.map Pass.result = some r
  each : ∀ p ∈ s.passes c limits script, p.Tells rate
  faults : (∃ p ∈ s.passes c limits script, p.Faults) ↔ r.2.status = 1
  paces : ∃ k, r.1.paces = s.paces ++ List.replicate k rate ∧
    (s.passes c limits script).length = k + r.2.status

/-- The first pass may be the last. -/
theorem Traced.first (ended : (s.frame c limits f).2 ≠ .running)
    (tells : Pass.Tells ⟨s, f, s.frame c limits f⟩ rate)
    (status : Pass.Faults ⟨s, f, s.frame c limits f⟩ ∧ (s.frame c limits f).2.status = 1 ∨
      ¬ Pass.Faults ⟨s, f, s.frame c limits f⟩ ∧ (s.frame c limits f).2.status = 0)
    (later : List Frame) : Traced c limits rate s (f :: later) (s.frame c limits f) := by
  have alone := passes_cons_of_ended ended later
  refine ⟨?_, ?_, ?_, ?_⟩ <;> rw [alone]
  · rfl
  · exact List.forall_mem_singleton.mpr tells
  · simp only [List.mem_singleton, exists_eq_left]
    rcases status with ⟨faults, one⟩ | ⟨faultless, zero⟩
    · exact iff_of_true faults one
    · refine iff_of_false faultless ?_
      rw [zero]
      exact Nat.zero_ne_one
  · rcases status with ⟨faults, one⟩ | ⟨faultless, zero⟩
    · exact ⟨0, (tells.faulting faults).paces, by rw [one]; rfl⟩
    · exact ⟨1, (tells.faultless faultless).paces, by rw [zero]; rfl⟩

/-- What the first pass leaves behind goes on to the same end. -/
theorem Traced.cons {later : List Frame} {r : Session × Progress}
    (running : (s.frame c limits f).2 = .running) (tells : Pass.Tells ⟨s, f, s.frame c limits f⟩ rate)
    (faultless : ¬ Pass.Faults ⟨s, f, s.frame c limits f⟩)
    (rest : Traced c limits rate (s.frame c limits f).1 later r) : Traced c limits rate s (f :: later) r := by
  have onward := passes_cons_of_running running later
  refine ⟨?_, ?_, ?_, ?_⟩ <;> rw [onward]
  · obtain ⟨p, last, result⟩ := Option.map_eq_some_iff.mp rest.last
    rw [List.getLast?_cons, last]
    exact congrArg some result
  · exact List.forall_mem_cons.mpr ⟨tells, rest.each⟩
  · rw [List.exists_mem_cons_iff, or_iff_right faultless]
    exact rest.faults
  · obtain ⟨k, paces, length⟩ := rest.paces
    have told : (s.frame c limits f).1.paces = s.paces ++ [rate] := (tells.faultless faultless).paces
    refine ⟨k + 1, ?_, ?_⟩
    · rw [paces, told, List.append_assoc]
      rfl
    · rw [List.length_cons, length]
      omega

/-- **A session that does not fail** tells the pacer the rate in each pass without a fault, by induction on
    its frames. -/
theorem play_traced (whole : toInt c.instructionRate = .ok rate) (frames : List Frame) (s : Session)
    (wf : s.machine.state.WellFormed) (lasts : ∀ e, (s.play c limits frames).2 ≠ .failed e) :
    Traced c limits rate s (script s.now frames) (s.play c limits frames) := by
  refine play_induction (Q := fun p => ∀ e, p ≠ .failed e) (P := Traced c limits rate) ?_ ?_ frames s wf
    lasts
  · rintro e ⟨⟩
  · intro s f later wf lasts
    obtain ⟨tells, status⟩ := frame_tells wf whole lasts
    rcases frame_concludes wf ⟨rate, whole⟩ f (fun e => lasts (.clock e))
      (fun e => lasts (.picture e)) later with ⟨ended, -⟩ | ⟨running, stays, wf', now, -⟩
    · exact Or.inl ⟨ended, .first ended tells status later⟩
    · refine Or.inr ⟨running, stays, wf', now, fun r rest => .cons running tells ?_ rest⟩
      -- a pass that faults does not go on
      intro faults
      rcases status with ⟨-, one⟩ | ⟨faultless, -⟩
      · have one : (s.frame c limits f).2.status = 1 := one
        rw [running] at one
        cases one
      · exact faultless faults

/-! ## Whole sessions -/

variable {d : Directory} {source : Source} {start : Float} {frames : List Frame} {status : Nat}

/-- A session that comes to an exit status has started. -/
theorem started_of_result (ended : (run c d source start frames limits).result = .ok status) :
    ∃ key program, RandomKey.ofSeed? c.seed = some key ∧ source.read d = .ok program ∧
      (Window.ofScale c.scale).failure? limits = none := by
  unfold run at ended
  rcases seed : RandomKey.ofSeed? c.seed with _ | key
  · rw [seed] at ended
    cases ended
  rcases read : source.read d with e | program
  · rw [seed, read] at ended
    cases ended
  rcases window : (Window.ofScale c.scale).failure? limits with _ | e
  · exact ⟨key, program, rfl, rfl, rfl⟩
  · simp only [seed, read, window] at ended
    cases ended

/-- The status that a session is finished with. -/
theorem status_of_finish {p : Progress} (finished : (s.finish c p).2 = .ok status) :
    (∀ e, p ≠ .failed e) ∧ p.status = status := by
  rcases p with _ | _ | _ | e <;> cases finished
  all_goals exact ⟨fun _ => Progress.noConfusion, rfl⟩

/-- **What the pacer is told.**  In a session that comes to an exit status, each pass ends in telling the
    pacer the floor of the rate, but for a pass in which a cycle faults, which tells it nothing and of which
    there is one if the status is 1 and none otherwise.  So the pacer is never told more than the rate; what
    it is told is a limit if the rate is at least one, and no limit in any pass if the rate is below one,
    although such a rate is accepted. -/
theorem run_paces {settings : Settings} {q : ℚ} (accepted : settings.check = .ok c)
    (number : StandsFor c.instructionRate q)
    (ended : (run c d source start frames limits).result = .ok status) :
    let report := run c d source start frames limits
    ∃ key program, RandomKey.ofSeed? c.seed = some key ∧ source.read d = .ok program ∧
      let session := opening c key program start
      let passes := session.passes c limits (script start frames)
      passes.getLast?.map Pass.result = some (session.play c limits frames) ∧
        (∀ p ∈ passes, p.Tells ⌊q⌋) ∧ ((∃ p ∈ passes, p.Faults) ↔ status = 1) ∧
        passes.length = report.paces.length + status ∧
        ∀ n ∈ report.paces, n = ⌊q⌋ ∧ 0 ≤ n ∧ (n : ℚ) ≤ q ∧ (0 < n ↔ 1 ≤ q) := by
  intro report
  obtain ⟨key, program, seed, read, window⟩ := started_of_result ended
  obtain ⟨result, -, paces⟩ := run_eq seed read window start frames
  obtain ⟨lasts, status⟩ := status_of_finish (result.symm.trans ended)
  have positive : 0 < q := by
    obtain ⟨instructions, -⟩ := Settings.rates_of_check accepted
    exact not_le.mp (mt (number.le_iff standsFor_zero).mpr instructions)
  have whole : toInt c.instructionRate = .ok ⌊q⌋ := toInt_eq_floor number positive.le
  obtain ⟨last, each, faults, k, told, length⟩ := play_traced whole frames (opening c key program start)
    (State.wellFormed_ofProgram key program) lasts
  have told : report.paces = List.replicate k ⌊q⌋ := by
    rw [paces, paces_finish, told]
    rfl
  rw [status] at faults length
  refine ⟨key, program, seed, read, last, each, faults, ?_, ?_⟩
  · rw [told, List.length_replicate]
    exact length
  · intro n member
    rw [told] at member
    obtain rfl := List.eq_of_mem_replicate member
    exact ⟨rfl, Int.floor_nonneg.mpr positive.le, Int.floor_le q, Int.floor_pos⟩

/-- At two and a half cycles a second the pacer is told two.  The empty program faults in its first cycle,
    which is due in the second frame. -/
theorem run_paces_to_a_fault :
    let c : Accepted :=
      { instructionRate := 2.5, renderRate := 60, scale := 8, scheme := .classic, seed := 0,
        threshold := .info, scale_pos := by decide }
    let frames : List Frame := [⟨0.1, []⟩, ⟨0.5, []⟩]
    Settings.check { instructionRate := 2.5 } = .ok c ∧ StandsFor c.instructionRate (5 / 2) ∧
      (run c {} (.bytes #[]) 0 frames).result = .ok 1 ∧ (run c {} (.bytes #[]) 0 frames).paces = [2] := by
  intro c frames
  have accepted : Settings.check { instructionRate := 2.5 } = .ok c := by rfl
  have number : StandsFor c.instructionRate (5 / 2) := by
    have value : Double.value 2.5 = .finite false 0x14000000000000 (-51) := by decide +kernel
    exact standsFor_of_value value (by norm_num [signed, scaled])
  let s := opening c RandomKey.zero #[] 0
  -- in the first frame no cycle is due, and nothing happens to the machine
  have running : (s.frame c .usual ⟨0.1, []⟩).2 = .running := by
    dsimp only [s, c]
    rfl
  have machine : (s.frame c .usual ⟨0.1, []⟩).1.machine = Machine.ofProgram RandomKey.zero #[] := by
    dsimp only [s, c]
    rfl
  have instructions : (s.frame c .usual ⟨0.1, []⟩).1.instructions =
      DeadlineClock.starting (1 / 2.5 : Float) 0 := by
    dsimp only [s, c]
    rfl
  have halted : ((s.frame c .usual ⟨0.1, []⟩).1.frame c .usual ⟨0.5, []⟩).2 = .halted := by
    obtain ⟨next, polled⟩ : ∃ next,
        (DeadlineClock.starting (1 / 2.5 : Float) 0).poll 0.5 = .ok (1, next) := ⟨_, by rfl⟩
    have fresh := State.wellFormed_ofProgram RandomKey.zero #[]
    have fault := fault?_ofProgram_nil RandomKey.zero
    rw [← instructions] at polled
    rw [← machine] at fresh fault
    exact frame_of_fault fresh fault polled (by decide)
  have ended : ((s.frame c .usual ⟨0.1, []⟩).1.frame c .usual ⟨0.5, []⟩).2 ≠ .running := by
    rw [halted]
    exact Progress.noConfusion
  have seed : RandomKey.ofSeed? c.seed = some RandomKey.zero := rfl
  have read : (Source.bytes #[]).read {} = .ok #[] := rfl
  have window : (Window.ofScale c.scale).failure? .usual = none := by decide
  have result : (run c {} (.bytes #[]) 0 frames).result = .ok 1 := by
    obtain ⟨result, -⟩ := run_eq seed read window 0 frames
    rw [result, play_cons_of_running running, play_cons_of_ended ended, halted]
    rfl
  refine ⟨accepted, number, result, ?_⟩
  obtain ⟨key, program, seed', read', -, -, -, length, told⟩ := run_paces accepted number result
  obtain rfl : RandomKey.zero = key := Option.some.inj (seed.symm.trans seed')
  obtain rfl : #[] = program := Except.ok.inj (read.symm.trans read')
  have two : (s.passes c .usual (script 0 frames)).length = 2 := by
    show (s.passes c .usual [⟨0.1, []⟩, ⟨0.5, []⟩, ⟨0.5, [.quit]⟩]).length = 2
    rw [passes_cons_of_running running, passes_cons_of_ended ended]
    rfl
  obtain ⟨n, paces⟩ := List.length_eq_one_iff.mp (Nat.succ.inj (length.symm.trans two))
  rw [paces] at told ⊢
  obtain ⟨floor, -⟩ := told n List.mem_cons_self
  rw [floor]
  norm_num

/-- At one cycle in two seconds the pacer is told that there is no limit. -/
theorem run_paces_without_limit :
    let c : Accepted :=
      { instructionRate := 0.5, renderRate := 60, scale := 8, scheme := .classic, seed := 0,
        threshold := .info, scale_pos := by decide }
    Settings.check { instructionRate := 0.5 } = .ok c ∧ StandsFor c.instructionRate (1 / 2) ∧
      (run c {} (.bytes #[0x12, 0x00]) 0 []).result = .ok 0 ∧
      (run c {} (.bytes #[0x12, 0x00]) 0 []).paces = [0] := by
  refine ⟨?_, standsFor_half, ?_, ?_⟩ <;> rfl

end Session

end Chip8
