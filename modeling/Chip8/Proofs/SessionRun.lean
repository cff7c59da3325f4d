/-
  Sessions as runs of a bare machine.

  A session is given frames; to its machine it gives BATCHES, each the events of a frame and the number
  of cycles that the instruction clock finds due at its time.  What becomes of machine, screen and keypad
  depends on nothing else: they end as if the actions of the batches had been done to a bare machine one
  after the other, up to and including the first batch that ends the session, or to the first fault.
  Pictures, pacing and messages take no part in it.

  `Ends` says where a list of batches comes to its end, `Reached` what a session has in common with a
  bare run from one point of it to another, and `Concludes` is both for the end of the session.
  `frame_of_done` and `frame_of_stopped` are the two things that one frame can come to, and
  `play_concludes` follows by induction on the frames.

  A clock that cannot count and a picture that is too large end a session otherwise.  The latter needs a
  scale far beyond any screen.
-/
import Chip8.Proofs.BareRun
import Chip8.Proofs.Messages
import Chip8.Proofs.Requests
import Chip8.Session.Run

namespace Chip8

open Log

/-! ## What a session asks of its machine -/

/-- What an event does to the keypad: nothing, if it is not about a key of the layout. -/
def Event.actions : Event → List Action
  | .quit => []
  | .down name => ((Keyboard.keyOf? name).map .press).toList
  | .up name => ((Keyboard.keyOf? name).map .release).toList

/-- The events of a frame, and the number of cycles that are due in it. -/
structure Batch where
  events : List Event
  due : Int

namespace Batch

/-- All events of a batch, and then its cycles. -/
def actions (b : Batch) : List Action :=
  b.events.flatMap Event.actions ++ List.replicate b.due.toNat .cycle

/-- Whether a batch ends the session. -/
def quits (b : Batch) : Bool := b.events.any Event.quits

end Batch

namespace Session

/-- The frames of a session with the one in which the window is closed when they are used up. -/
def script (now : Float) : List Frame → List Frame
  | [] => [⟨now, [.quit]⟩]
  | f :: rest => f :: script f.time rest

/-- The batches of a script, each with what a clock answers at its time. -/
def batches (clock : DeadlineClock Float) : List Frame → List Batch
  | [] => []
  | f :: rest =>
    match clock.poll f.time with
    | .ok (due, clock) => ⟨f.events, due⟩ :: batches clock rest
    | .error _ => []

end Session

namespace Machine

variable {m m' : Machine} {d d' : Devices}

theorem follow_event (m : Machine) (d : Devices) (e : Event) :
    m.follow d e.actions = ⟨⟨m, { d with keypad := e.apply d.keypad }, none⟩, 0⟩ := by
  have pressed : ∀ key, m.follow d [.press key] =
      ⟨⟨m, { d with keypad := d.keypad.set key true }, none⟩, 0⟩ :=
    fun key => follow_cons_of_done (act_press m d key) []
  have released : ∀ key, m.follow d [.release key] =
      ⟨⟨m, { d with keypad := d.keypad.set key false }, none⟩, 0⟩ :=
    fun key => follow_cons_of_done (act_release m d key) []
  cases e with
  | quit => rfl
  | down name =>
    rw [Event.actions, Event.apply]
    cases Keyboard.keyOf? name with
    | none => rfl
    | some key => exact pressed key
  | up name =>
    rw [Event.actions, Event.apply]
    cases Keyboard.keyOf? name with
    | none => rfl
    | some key => exact released key

/-- Events are never refused. -/
theorem follow_events (m : Machine) : ∀ (events : List Event) (d : Devices),
    m.follow d (events.flatMap Event.actions) =
      ⟨⟨m, { d with keypad := events.foldl Event.apply d.keypad }, none⟩, 0⟩ := by
  intro events
  induction events with
  | nil => intro d; rfl
  | cons e rest ih =>
    intro d
    have first := follow_event m d e
    rw [List.flatMap_cons, follow_append_of_done (by rw [first]), first]
    exact congrArg (fun r : Outcome => { r with done := r.done + 0 }) (ih _)

/-! ## Bursts -/

theorem burst_succ_of_done {threshold : Log.Level} (h : m.cycle d = ⟨m', d', none⟩) (n : Nat) :
    burst threshold (n + 1) m d =
      { burst threshold n m' d' with
        log := (m.cycleLogged threshold d).1 ++ (burst threshold n m' d').log } := by
  rw [burst, cycleLogged_eq, h]

theorem burst_succ_of_stopped {threshold : Log.Level} {t : Trap} (h : m.cycle d = ⟨m', d', some t⟩)
    (n : Nat) :
    burst threshold (n + 1) m d = ⟨⟨m', d', some t⟩, (m.cycleLogged threshold d).1⟩ := by
  rw [burst, cycleLogged_eq, h]

/-- The burst of a frame is a run of so many cycles. -/
theorem burst_eq (threshold : Log.Level) : ∀ (n : Nat) (m : Machine) (d : Devices),
    (burst threshold n m d).toAttempt = (m.follow d (List.replicate n .cycle)).toAttempt := by
  intro n
  induction n with
  | zero => intro m d; rfl
  | succ n ih =>
    intro m d
    rw [List.replicate_succ]
    rcases act_cases m d .cycle with ⟨m', d', step⟩ | ⟨m', d', t, step⟩
    · rw [burst_succ_of_done step, follow_cons_of_done step]
      exact ih m' d'
    · rw [burst_succ_of_stopped step, follow_cons_of_stopped step]

theorem quiet_burst (threshold : Log.Level) : ∀ (n : Nat) (m : Machine) (d : Devices),
    Quiet (burst threshold n m d).log := by
  intro n
  induction n with
  | zero => intro m d; exact quiet_nil
  | succ n ih =>
    intro m d
    have first := quiet_cycleLogged threshold m d
    rcases act_cases m d .cycle with ⟨m', d', step⟩ | ⟨m', d', t, step⟩
    · rw [burst_succ_of_done step]
      exact first.append (ih m' d')
    · rw [burst_succ_of_stopped step]
      exact first

end Machine

namespace Session

variable {c : Accepted} {limits : Limits} {s : Session} {f : Frame}

/-- Two points of a session between which nothing happened but to its pictures. -/
structure Alike (s s' : Session) : Prop where
  machine : s'.machine = s.machine
  devices : s'.devices = s.devices
  instructions : s'.instructions = s.instructions
  now : s'.now = s.now
  log : s'.log = s.log

/-- A picture that is due is made or is too large; nothing else depends on it. -/
theorem present_cases (limits : Limits) (rate : ∃ n, Double.toInt c.instructionRate = .ok n) (s : Session) :
    Alike s (s.present c limits).1 ∧
      ((s.present c limits).2 = .ok () ∧ (s.present c limits).1.paces.length = s.paces.length + 1 ∨
        (∃ e, (s.present c limits).2 = .error (.clock e)) ∨
        ∃ e, (s.present c limits).2 = .error (.picture e)) := by
  obtain ⟨n, rate⟩ := rate
  unfold present
  cases s.renders.poll s.now with
  | error e => exact ⟨⟨rfl, rfl, rfl, rfl, rfl⟩, Or.inr (Or.inl ⟨e, rfl⟩)⟩
  | ok polled =>
    obtain ⟨due, renders⟩ := polled
    dsimp only
    by_cases idle : due = 0
    · rw [if_pos idle]
      simp only [rate]
      exact ⟨⟨rfl, rfl, rfl, rfl, rfl⟩, Or.inl ⟨trivial, List.length_append⟩⟩
    · rw [if_neg idle, show?]
      cases picture c limits s.devices.screen with
      | error e => exact ⟨⟨rfl, rfl, rfl, rfl, rfl⟩, Or.inr (Or.inr ⟨e, rfl⟩)⟩
      | ok image =>
        simp only [rate]
        exact ⟨⟨rfl, rfl, rfl, rfl, rfl⟩, Or.inl ⟨trivial, List.length_append⟩⟩

/-- The messages about a run that was stopped. -/
def halting (c : Accepted) (bare : Outcome) : List Log.Entry :=
  if bare.trap = none then []
  else Log.note c.threshold .critical
    (s!"Halted after {bare.machine.cycles} cycles: " ++ bare.machine.summary)

/-- A session that has come from one point to another as a bare machine comes to an outcome, through
    so many frames. -/
structure Reached (c : Accepted) (s : Session) (bare : Outcome) (frames : Nat) (r : Session) :
    Prop where
  machine : r.machine = bare.machine
  devices : r.devices = bare.devices
  paces : r.paces.length = s.paces.length + frames
  log : ∃ entries : List (Float × Log.Entry), Quiet (entries.map Prod.snd) ∧
    r.log = s.log ++ entries ++ (halting c bare).map fun e => (r.now, e)

theorem follow_batch (threshold : Log.Level) (m : Machine) (d : Devices) (b : Batch) :
    (m.follow d b.actions).toAttempt = (Machine.burst threshold b.due.toNat m
      { d with keypad := b.events.foldl Event.apply d.keypad }).toAttempt := by
  have events := Machine.follow_events m b.events d
  rw [Batch.actions, Machine.follow_append_of_done (by rw [events]), Machine.burst_eq, events]

/-- A machine that is at a fault has its keys seen to, and no more. -/
theorem follow_of_fault {m : Machine} {kind : FaultKind}
    (fault : m.state.nextWord.fault? m.state.stack = some kind) (d : Devices) {b : Batch}
    (due : 0 < b.due) :
    m.follow d b.actions =
      ⟨m.cycle { d with keypad := b.events.foldl Event.apply d.keypad }, 0⟩ := by
  obtain ⟨n, count⟩ : ∃ n, b.due.toNat = n + 1 := ⟨b.due.toNat - 1, by omega⟩
  have events := Machine.follow_events m b.events d
  have stopped := Machine.cycle_of_fault
    (d := { d with keypad := b.events.foldl Event.apply d.keypad }) fault
  rw [Batch.actions, Machine.follow_append_of_done (by rw [events]), events, count,
    List.replicate_succ, Machine.follow_cons_of_stopped (a := .cycle) stopped, stopped]
  rfl

/-! ## One frame -/

variable {due : Int} {clock : DeadlineClock Float}

theorem batches_cons {next : DeadlineClock Float} (polled : clock.poll f.time = .ok (due, next))
    (later : List Frame) : batches clock (f :: later) = ⟨f.events, due⟩ :: batches next later := by
  rw [batches, polled]

/-- A frame whose cycles cannot be counted. -/
theorem frame_of_unanswered {e : ClockError} (polled : s.instructions.poll f.time = .error e) :
    (s.frame c limits f).2 = .failed (.clock e) := by
  unfold frame
  dsimp only
  rw [polled]

/-- A frame whose clock answers, by the bare run of its batch: what the run comes to is entered, with
    the messages of its cycles, before anything else is done. -/
theorem frame_eq (wf : s.machine.state.WellFormed)
    (polled : s.instructions.poll f.time = .ok (due, clock)) :
    let bare := s.machine.follow s.devices (Batch.actions ⟨f.events, due⟩)
    ∃ log, Quiet log ∧
      s.frame c limits f =
        let u := note { s with
          now := f.time, instructions := clock, machine := bare.machine, devices := bare.devices } log
        if bare.trap = none then
          match u.present c limits with
          | (r, .error e) => (r, .failed e)
          | (r, .ok ()) => (r, if Batch.quits ⟨f.events, due⟩ then .closed else .running)
        else (u.note (halting c bare), .halted) := by
  intro bare
  have burst := follow_batch c.threshold s.machine s.devices ⟨f.events, due⟩
  have quiet := Machine.quiet_burst c.threshold due.toNat s.machine
    { s.devices with keypad := f.events.foldl Event.apply s.devices.keypad }
  refine ⟨_, quiet, ?_⟩
  unfold frame
  dsimp only at burst ⊢
  rw [polled]
  dsimp only
  -- of the burst nothing is needed from here on but what it has in common with the bare run
  revert burst
  generalize Machine.burst c.threshold due.toNat s.machine
    { s.devices with keypad := f.events.foldl Event.apply s.devices.keypad } = run
  intro burst
  obtain ⟨⟨machine, devices, trap⟩, log⟩ := run
  have machine_eq : bare.machine = machine := congrArg Attempt.machine burst
  have devices_eq : bare.devices = devices := congrArg Attempt.devices burst
  have trap_eq : bare.trap = trap := congrArg Attempt.trap burst
  rw [machine_eq, devices_eq]
  cases trap with
  | none =>
    rw [if_pos trap_eq]
    rfl
  | some t =>
    obtain ⟨fault, rfl⟩ := Machine.fault_of_follow _ _ wf trap_eq
    have stopped : bare.trap ≠ none := by
      rw [trap_eq]
      exact Option.some_ne_none _
    rw [if_neg stopped, halting, if_neg stopped, machine_eq]

/-- A frame in which the machine faults ends the session there. -/
theorem frame_of_stopped (wf : s.machine.state.WellFormed)
    (polled : s.instructions.poll f.time = .ok (due, clock))
    (stopped : (s.machine.follow s.devices (Batch.actions ⟨f.events, due⟩)).trap ≠ none) :
    (s.frame c limits f).2 = .halted ∧
      Reached c s (s.machine.follow s.devices (Batch.actions ⟨f.events, due⟩)) 0
        (s.frame c limits f).1 := by
  obtain ⟨log, quiet, framed⟩ := frame_eq (c := c) wf polled
  rw [if_neg stopped] at framed
  rw [framed]
  exact ⟨rfl, rfl, rfl, rfl, _, quiet.stamped f.time, rfl⟩

/-- A frame in which the machine does not fault goes on, unless a clock or a picture fails. -/
theorem frame_of_done (wf : s.machine.state.WellFormed)
    (rate : ∃ n, Double.toInt c.instructionRate = .ok n)
    (polled : s.instructions.poll f.time = .ok (due, clock))
    (done : (s.machine.follow s.devices (Batch.actions ⟨f.events, due⟩)).trap = none) :
    (∃ e, (s.frame c limits f).2 = .failed (.clock e)) ∨
      (∃ e, (s.frame c limits f).2 = .failed (.picture e)) ∨
      (s.frame c limits f).2 = (if Batch.quits ⟨f.events, due⟩ then .closed else .running) ∧
        (s.frame c limits f).1.now = f.time ∧ (s.frame c limits f).1.instructions = clock ∧
        Reached c s (s.machine.follow s.devices (Batch.actions ⟨f.events, due⟩)) 1
          (s.frame c limits f).1 := by
  obtain ⟨log, quiet, framed⟩ := frame_eq (c := c) wf polled
  rw [if_pos done] at framed
  revert framed
  generalize moved : note { s with
    now := f.time, instructions := clock
    machine := (s.machine.follow s.devices (Batch.actions ⟨f.events, due⟩)).machine
    devices := (s.machine.follow s.devices (Batch.actions ⟨f.events, due⟩)).devices } log = u
  intro framed
  obtain ⟨alike, outcome⟩ := present_cases limits rate u
  rw [framed]
  rcases presented : u.present c limits with ⟨r, result⟩
  rw [presented] at alike outcome
  rcases outcome with ⟨rfl, paces⟩ | ⟨e, rfl⟩ | ⟨e, rfl⟩
  · subst moved
    refine Or.inr (Or.inr ⟨rfl, alike.now, alike.instructions, alike.machine, alike.devices, paces,
      _, quiet.stamped f.time, ?_⟩)
    rw [alike.log, halting, if_pos done, List.map_nil, List.append_nil]
    rfl
  · exact Or.inl ⟨e, rfl⟩
  · exact Or.inr (Or.inl ⟨e, rfl⟩)

/-! ## The end of a session -/

end Session

/-- Where a session ends whose machine is given batches: after some EARLIER ones that neither end it
    nor are stopped, in a LAST one that does the one or is the other. -/
structure Ends (m : Machine) (d : Devices) (batches earlier : List Batch) (last : Batch) : Prop where
  split : ∃ later, batches = earlier ++ last :: later
  kept : ∀ b ∈ earlier, b.quits = false
  whole : (m.follow d (earlier.flatMap Batch.actions)).trap = none
  ended : last.quits = true ∨ (m.follow d ((earlier ++ [last]).flatMap Batch.actions)).trap ≠ none

namespace Ends

variable {m : Machine} {d : Devices} {batches earlier : List Batch} {b last : Batch}

/-- The first batch may be the last. -/
theorem first (h : b.quits = true ∨ (m.follow d b.actions).trap ≠ none) (later : List Batch) :
    Ends m d (b :: later) [] b where
  split := ⟨later, rfl⟩
  kept := fun _ member => absurd member List.not_mem_nil
  whole := rfl
  ended := by
    rw [List.nil_append, List.flatMap_singleton]
    exact h

/-- What the first batch leaves behind goes on to the same end. -/
theorem cons (quits : b.quits = false) (done : (m.follow d b.actions).trap = none)
    (ends : Ends (m.follow d b.actions).machine (m.follow d b.actions).devices batches earlier last) :
    Ends m d (b :: batches) (b :: earlier) last where
  split := by
    obtain ⟨later, same⟩ := ends.split
    exact ⟨later, by rw [same, List.cons_append]⟩
  kept := by
    intro b' member
    rcases List.mem_cons.mp member with rfl | member
    · exact quits
    · exact ends.kept b' member
  whole := by
    rw [List.flatMap_cons, Machine.follow_append_of_done done]
    exact ends.whole
  ended := by
    rw [List.cons_append, List.flatMap_cons, Machine.follow_append_of_done done]
    exact ends.ended

/-- A session that ends does not go on. -/
theorem not_longer {earlier' : List Batch} {last' : Batch} (h : Ends m d batches earlier last)
    (h' : Ends m d batches earlier' last') {rest : List Batch} :
    earlier' ≠ earlier ++ last :: rest := by
  intro longer
  -- the end of the one would be among the batches that come before the end of the other
  have member : last ∈ earlier' := by rw [longer]; simp
  have whole := h'.whole
  rcases h.ended with quits | stopped
  · rw [h'.kept last member] at quits
    cases quits
  · rw [longer, List.append_cons, List.flatMap_append,
      Machine.follow_append_of_stopped stopped] at whole
    exact stopped whole

/-- There is one end at most. -/
theorem unique {earlier' : List Batch} {last' : Batch} (h : Ends m d batches earlier last)
    (h' : Ends m d batches earlier' last') : earlier = earlier' ∧ last = last' := by
  obtain ⟨later, split⟩ := h.split
  obtain ⟨later', split'⟩ := h'.split
  rcases List.append_eq_append_iff.mp (split.symm.trans split') with
    ⟨rest, longer, same⟩ | ⟨rest, longer, same⟩
  · cases rest with
    | nil =>
      cases same
      exact ⟨by rw [longer, List.append_nil], rfl⟩
    | cons b rest =>
      cases same
      exact absurd longer (h.not_longer h')
  · cases rest with
    | nil =>
      cases same
      exact ⟨by rw [longer, List.append_nil], rfl⟩
    | cons b rest =>
      cases same
      exact absurd longer (h'.not_longer h)

end Ends

namespace Session

variable {c : Accepted} {s u r : Session}

/-- What two outcomes, one after the other, come to. -/
theorem Reached.trans {m : Machine} {d : Devices} {as bs : List Action} {n k : Nat}
    (done : (m.follow d as).trap = none) (h : Reached c s (m.follow d as) n u)
    (h' : Reached c u (u.machine.follow u.devices bs) k r) :
    Reached c s (m.follow d (as ++ bs)) (n + k) r := by
  rw [h.machine, h.devices] at h'
  rw [Machine.follow_append_of_done done]
  obtain ⟨entries, quiet, log⟩ := h.log
  obtain ⟨entries', quiet', log'⟩ := h'.log
  refine ⟨h'.machine, h'.devices, ?_, entries ++ entries', ?_, ?_⟩
  · rw [h'.paces, h.paces, Nat.add_assoc]
  · rw [List.map_append]
    exact quiet.append quiet'
  · -- a run that goes on has no message about being stopped
    have first : halting c (m.follow d as) = [] := by rw [halting, if_pos done]
    rw [log', log, first]
    simp only [List.map_nil, List.append_nil, List.append_assoc]
    rfl

/-- A session that comes from one point to its end as a bare machine does that is given batches. -/
def Concludes (c : Accepted) (s : Session) (batches : List Batch) (r : Session × Progress) : Prop :=
  ∃ earlier last,
    let bare := s.machine.follow s.devices ((earlier ++ [last]).flatMap Batch.actions)
    Ends s.machine s.devices batches earlier last ∧
      r.2 = (if bare.trap = none then .closed else .halted) ∧
      Reached c s bare (earlier.length + if bare.trap = none then 1 else 0) r.1

/-- The end comes in the first batch. -/
theorem Concludes.first {b : Batch} {r : Session × Progress}
    (last : b.quits = true ∨ (s.machine.follow s.devices b.actions).trap ≠ none)
    (ended : r.2 = if (s.machine.follow s.devices b.actions).trap = none then .closed else .halted)
    (reached : Reached c s (s.machine.follow s.devices b.actions)
      (if (s.machine.follow s.devices b.actions).trap = none then 1 else 0) r.1)
    (later : List Batch) : Concludes c s (b :: later) r := by
  refine ⟨[], b, .first last later, ?_⟩
  rw [List.nil_append, List.flatMap_singleton, List.length_nil, Nat.zero_add]
  exact ⟨ended, reached⟩

/-- The end comes after the first batch. -/
theorem Concludes.cons {b : Batch} {r : Session × Progress} {later : List Batch}
    (stays : b.quits = false) (done : (s.machine.follow s.devices b.actions).trap = none)
    (reached : Reached c s (s.machine.follow s.devices b.actions) 1 u)
    (h : Concludes c u later r) : Concludes c s (b :: later) r := by
  obtain ⟨earlier, last, ends, ended, rest⟩ := h
  have joined := reached.trans done rest
  rw [reached.machine, reached.devices] at ends ended joined
  refine ⟨b :: earlier, last, .cons stays done ends, ?_⟩
  rw [List.cons_append, List.flatMap_cons, List.length_cons, Nat.add_comm earlier.length 1,
    Nat.add_assoc, Machine.trap_append_of_done done]
  exact ⟨ended, joined⟩

/-- A frame that does not fail is the end of the session, or goes on to it. -/
theorem frame_concludes (wf : s.machine.state.WellFormed)
    (rate : ∃ n, Double.toInt c.instructionRate = .ok n) (f : Frame)
    (clock : ∀ e, (s.frame c limits f).2 ≠ .failed (.clock e))
    (picture : ∀ e, (s.frame c limits f).2 ≠ .failed (.picture e)) (later : List Frame) :
    (s.frame c limits f).2 ≠ .running ∧
        Concludes c s (batches s.instructions (f :: later)) (s.frame c limits f) ∨
      (s.frame c limits f).2 = .running ∧ f.events.any Event.quits = false ∧
        (s.frame c limits f).1.machine.state.WellFormed ∧ (s.frame c limits f).1.now = f.time ∧
        ∀ r, Concludes c (s.frame c limits f).1 (batches (s.frame c limits f).1.instructions later) r →
          Concludes c s (batches s.instructions (f :: later)) r := by
  cases polled : s.instructions.poll f.time with
  | error e => exact absurd (frame_of_unanswered polled) (clock e)
  | ok answer =>
    obtain ⟨due, next⟩ := answer
    rw [batches_cons polled]
    by_cases done : (s.machine.follow s.devices (Batch.actions ⟨f.events, due⟩)).trap = none
    · rcases frame_of_done wf rate polled done with ⟨e, failed⟩ | ⟨e, failed⟩ |
        ⟨ended, now, instructions, reached⟩
      · exact absurd failed (clock e)
      · exact absurd failed (picture e)
      · rw [ended, instructions]
        cases quits : Batch.quits ⟨f.events, due⟩ with
        | true =>
          rw [quits] at ended
          refine Or.inl ⟨?_, .first (Or.inl quits) ?_ ?_ _⟩
          · intro h
            cases h
          · rw [if_pos done]
            exact ended
          · rw [if_pos done]
            exact reached
        | false =>
          refine Or.inr ⟨rfl, quits, ?_, now, fun r rest => .cons quits done reached rest⟩
          rw [reached.machine]
          exact Machine.wellFormed_follow _ _ wf
    · obtain ⟨ended, reached⟩ := frame_of_stopped (c := c) wf polled done
      refine Or.inl ⟨?_, .first (Or.inr done) ?_ ?_ _⟩
      · rw [ended]
        intro h
        cases h
      · rw [if_neg done]
        exact ended
      · rw [if_neg done]
        exact reached

theorem play_cons_of_running {f : Frame} (h : (s.frame c limits f).2 = .running) (rest : List Frame) :
    s.play c limits (f :: rest) = (s.frame c limits f).1.play c limits rest := by
  rw [play]
  rcases framed : s.frame c limits f with ⟨u, p⟩
  rw [framed] at h
  dsimp only at h
  subst h
  rfl

theorem play_cons_of_ended {f : Frame} (h : (s.frame c limits f).2 ≠ .running) (rest : List Frame) :
    s.play c limits (f :: rest) = s.frame c limits f := by
  rw [play]
  rcases framed : s.frame c limits f with ⟨u, p⟩
  rw [framed] at h
  cases p with
  | running => exact absurd rfl h
  | _ => rfl

/-- What every frame adds to a session, the whole session comes to, by induction on its frames.  A frame is
    looked at only if it ends in a way that the session may end in. -/
theorem play_induction {Q : Progress → Prop}
    {P : Session → List Frame → Session × Progress → Prop} (going : Q .running)
    (step : ∀ (s : Session) (f : Frame) (later : List Frame), s.machine.state.WellFormed →
      Q (s.frame c limits f).2 →
        (s.frame c limits f).2 ≠ .running ∧ P s (f :: later) (s.frame c limits f) ∨
          (s.frame c limits f).2 = .running ∧ f.events.any Event.quits = false ∧
            (s.frame c limits f).1.machine.state.WellFormed ∧ (s.frame c limits f).1.now = f.time ∧
            ∀ r, P (s.frame c limits f).1 later r → P s (f :: later) r) :
    ∀ (frames : List Frame) (s : Session), s.machine.state.WellFormed →
      Q (s.play c limits frames).2 → P s (script s.now frames) (s.play c limits frames) := by
  intro frames
  induction frames with
  | nil =>
    intro s wf ending
    -- the closing frame ends the session, if nothing else does
    rcases step s ⟨s.now, [.quit]⟩ [] wf ending with ⟨-, ends⟩ | ⟨-, stays, -⟩
    · exact ends
    · cases stays
  | cons f rest ih =>
    intro s wf ending
    rw [script]
    by_cases running : (s.frame c limits f).2 = .running
    · rw [play_cons_of_running running] at ending ⊢
      rcases step s f (script f.time rest) wf (by rw [running]; exact going) with
        ⟨ended, -⟩ | ⟨-, -, wf', now, onward⟩
      · exact absurd running ended
      · refine onward _ ?_
        rw [← now]
        exact ih _ wf' ending
    · rw [play_cons_of_ended running] at ending ⊢
      rcases step s f (script f.time rest) wf ending with ⟨-, ends⟩ | ⟨onward, -⟩
      · exact ends
      · exact absurd onward running

/-- **A session that no clock and no picture fails goes through its batches to the end.** -/
theorem play_concludes (rate : ∃ n, Double.toInt c.instructionRate = .ok n) (frames : List Frame)
    (s : Session) (wf : s.machine.state.WellFormed)
    (clock : ∀ e, (s.play c limits frames).2 ≠ .failed (.clock e))
    (picture : ∀ e, (s.play c limits frames).2 ≠ .failed (.picture e)) :
    Concludes c s (batches s.instructions (script s.now frames)) (s.play c limits frames) := by
  refine play_induction
    (Q := fun p => (∀ e, p ≠ .failed (.clock e)) ∧ ∀ e, p ≠ .failed (.picture e))
    (P := fun s script r => Concludes c s (batches s.instructions script) r)
    ?_ ?_ frames s wf ⟨clock, picture⟩
  · constructor <;> intro e h <;> cases h
  · intro s f later wf ⟨clock, picture⟩
    exact frame_concludes wf rate f clock picture later

/-! ## Whole sessions -/

/-- A session of a program that starts, with a rate that is a finite number, and that neither a clock
    nor a picture brings to an end. -/
structure Undisturbed (c : Accepted) (limits : Limits) (d : Directory) (source : Source) (start : Float)
    (frames : List Frame) (key : RandomKey) (program : Bytes) : Prop where
  seed : RandomKey.ofSeed? c.seed = some key
  read : source.read d = .ok program
  window : (Window.ofScale c.scale).failure? limits = none
  rate : ∃ negative mantissa exponent,
    Double.value c.instructionRate = .finite negative mantissa exponent
  clock : ∀ e, (run c d source start frames limits).result ≠ .error (.clock e)
  picture : ∀ e, (run c d source start frames limits).result ≠ .error (.picture e)

/-- The last messages of a session, which tell how many cycles succeeded. -/
def closing (threshold : Log.Level) (bare : Outcome) : List Log.Entry :=
  (if bare.trap = none then []
    else Log.note threshold .critical
      (s!"Halted after {bare.done} cycles: " ++ bare.machine.summary)) ++
  Log.note threshold .info s!"Stopped after {bare.done} cycles"

variable {d : Directory} {source : Source} {start : Float} {frames : List Frame} {key : RandomKey}
  {program : Bytes}

theorem run_eq (seed : RandomKey.ofSeed? c.seed = some key) (read : source.read d = .ok program)
    (window : (Window.ofScale c.scale).failure? limits = none) (start : Float) (frames : List Frame) :
    let played := (opening c key program start).play c limits frames
    let finished := played.1.finish c played.2
    (run c d source start frames limits).result = finished.2 ∧
      (run c d source start frames limits).log = finished.1.log ∧
      (run c d source start frames limits).paces = finished.1.paces := by
  unfold run
  simp only [seed, read, window]
  exact ⟨trivial, trivial, trivial⟩

theorem log_finish {p : Progress} (h : ∀ e, p ≠ .failed e) (s : Session) :
    (s.finish c p).1.log = s.log ++ (Log.note c.threshold .info
      s!"Stopped after {s.machine.cycles} cycles").map fun e => (s.now, e) := by
  cases p with
  | failed e => exact absurd rfl (h e)
  | _ => rfl

theorem paces_finish (s : Session) (p : Progress) : (s.finish c p).1.paces = s.paces := by
  cases p <;> rfl

/-- The last messages, told by the count that the machine keeps itself. -/
theorem closing_eq {bare : Outcome} (count : bare.machine.cycles = bare.done) :
    closing c.threshold bare = halting c bare ++
      Log.note c.threshold .info s!"Stopped after {bare.machine.cycles} cycles" := by
  rw [closing, halting, count]

theorem quiet_opening (c : Accepted) (key : RandomKey) (program : Bytes) (start : Float) :
    Quiet ((opening c key program start).log.map Prod.snd) := by
  have banner : ¬ Closing ("Running at " ++ NumberText.general c.instructionRate ++
      " Hz, rendering at " ++ NumberText.general c.renderRate ++ " Hz") :=
    not_closing (begins_append (begins_append (begins_append (begins_append List.prefix_rfl _) _) _) _)
      3 (by decide)
  have noted : Quiet (Log.note c.threshold .info _) := quiet_note banner
  have entries := (Machine.quiet_loadEntries c.threshold program).append noted
  exact entries.stamped start

/-- The empty program calls machine code. -/
theorem fault?_ofProgram_nil (key : RandomKey) :
    (Machine.ofProgram key #[]).state.nextWord.fault? (Machine.ofProgram key #[]).state.stack =
      some .machineCall := by
  rw [Machine.nextWord_ofProgram]
  rfl

/-- **A session is a run of the bare machine.**  Its batches come to an end, at one place only.  Machine
    and devices end as a bare machine with fresh devices does that is given the batches up to there; the
    exit status says whether that was stopped, which only a fault can do; the pacer was told the rate in
    every frame that was not stopped, and in none after the last; and the messages that tell a number
    of cycles stand at the very end and tell how many of them succeeded. -/
theorem run_follows (h : Undisturbed c limits d source start frames key program) :
    let report := run c d source start frames limits
    let final := ((opening c key program start).play c limits frames).1
    let m := Machine.ofProgram key program
    let given := batches (DeadlineClock.starting c.instructionPeriod start) (script start frames)
    (∃ earlier last, Ends m Devices.idle given earlier last) ∧
      ∀ earlier last, Ends m Devices.idle given earlier last →
        let bare := m.follow Devices.idle ((earlier ++ [last]).flatMap Batch.actions)
        final.machine = bare.machine ∧ final.devices = bare.devices ∧
          (bare.trap = none ∧ report.result = .ok 0 ∨
            (∃ f, bare.trap = some (.fault f)) ∧ report.result = .ok 1) ∧
          report.paces.length = earlier.length + (if bare.trap = none then 1 else 0) ∧
          ∃ entries : List (Float × Log.Entry), Quiet (entries.map Prod.snd) ∧
            report.log = entries ++ (closing c.threshold bare).map fun e => (final.now, e) := by
  intro report final m given
  obtain ⟨result, log, paces⟩ := run_eq h.seed h.read h.window start frames
  -- what fails the frames would be the result of the session
  have clock : ∀ e, ((opening c key program start).play c limits frames).2 ≠ .failed (.clock e) := by
    intro e failed
    refine h.clock e ?_
    rw [result, failed]
    rfl
  have picture : ∀ e, ((opening c key program start).play c limits frames).2 ≠ .failed (.picture e) := by
    intro e failed
    refine h.picture e ?_
    rw [result, failed]
    rfl
  have rate : ∃ n, Double.toInt c.instructionRate = .ok n := by
    obtain ⟨negative, mantissa, exponent, value⟩ := h.rate
    exact ⟨_, by rw [Double.toInt, value]⟩
  have fresh : m.state.WellFormed := (State.wellFormed_fresh key).load program
  obtain ⟨earlier, last, ends, ended, reached⟩ :=
    play_concludes rate frames (opening c key program start) fresh clock picture
  have machine : (opening c key program start).machine = m := rfl
  have devices : (opening c key program start).devices = Devices.idle := rfl
  rw [machine, devices] at ends ended reached
  refine ⟨⟨earlier, last, ends⟩, ?_⟩
  intro earlier' last' ends' bare
  obtain ⟨rfl, rfl⟩ := ends.unique ends'
  have count : bare.machine.cycles = bare.done := by
    rw [Machine.cycles_follow]
    exact Nat.zero_add _
  have lasting : ∀ e, ((opening c key program start).play c limits frames).2 ≠ .failed e := by
    intro e
    rw [ended]
    split <;> intro h <;> cases h
  refine ⟨reached.machine, reached.devices, ?_, ?_, ?_⟩
  · rw [result, ended]
    cases stopped : bare.trap with
    | none => exact Or.inl ⟨rfl, rfl⟩
    | some t =>
      obtain ⟨f, rfl⟩ := Machine.fault_of_follow _ _ fresh stopped
      exact Or.inr ⟨⟨f, rfl⟩, rfl⟩
  · rw [paces, paces_finish, reached.paces]
    exact Nat.zero_add _
  · obtain ⟨entries, quiet, reachedLog⟩ := reached.log
    refine ⟨(opening c key program start).log ++ entries, ?_, ?_⟩
    · rw [List.map_append]
      exact (quiet_opening c key program start).append quiet
    · rw [log, log_finish lasting, reachedLog, closing_eq count, List.map_append,
        reached.machine, List.append_assoc]

/-- The empty program faults in its first cycle, after all keys of that frame have been seen to. -/
theorem run_follows_to_a_fault :
    let c : Accepted :=
      { instructionRate := 500, renderRate := 60, scale := 8, scheme := .classic, seed := 0,
        threshold := .info, scale_pos := by decide }
    let frames : List Frame := [⟨0.01, [.down "q", .quit, .down "w", .up "q"]⟩]
    Undisturbed c .usual {} (.bytes #[]) 0 frames RandomKey.zero #[] ∧
      (run c {} (.bytes #[]) 0 frames).result = .ok 1 ∧
      ((opening c RandomKey.zero #[] 0).play c .usual frames).1.devices.keypad.pressed = [0x5] := by
  intro c frames
  have window : (Window.ofScale c.scale).failure? .usual = none := by decide
  have seed : RandomKey.ofSeed? c.seed = some RandomKey.zero := rfl
  obtain ⟨next, polled⟩ : ∃ next,
      (DeadlineClock.starting (1 / 500 : Float) 0).poll 0.01 = .ok (5, next) := ⟨_, by rfl⟩
  let b : Batch := ⟨[.down "q", .quit, .down "w", .up "q"], 5⟩
  have bare := follow_of_fault (fault?_ofProgram_nil RandomKey.zero) Devices.idle (b := b) (by decide)
  rw [Machine.cycle_of_fault (fault?_ofProgram_nil RandomKey.zero)] at bare
  have stopped :
      ((Machine.ofProgram RandomKey.zero #[]).follow Devices.idle b.actions).trap ≠ none := by
    rw [bare]
    exact Option.some_ne_none _
  have halted : ((opening c RandomKey.zero #[] 0).play c .usual frames).2 = .halted := by
    have fresh : (opening c RandomKey.zero #[] 0).machine.state.WellFormed :=
      (State.wellFormed_fresh RandomKey.zero).load #[]
    obtain ⟨framed, -⟩ := frame_of_stopped (c := c) (s := opening c RandomKey.zero #[] 0)
      (f := ⟨0.01, b.events⟩) fresh polled stopped
    rw [play_cons_of_ended (by rw [framed]; intro h; cases h)]
    exact framed
  have result : (run c {} (.bytes #[]) 0 frames).result = .ok 1 := by
    have read : (Source.bytes #[]).read {} = .ok #[] := rfl
    obtain ⟨result, -⟩ := run_eq seed read window 0 frames
    rw [result, halted]
    rfl
  have undisturbed : Undisturbed c .usual {} (.bytes #[]) 0 frames RandomKey.zero #[] :=
    { seed := seed
      read := rfl
      window := window
      rate := ⟨false, 0x1F400000000000, -44, by decide⟩
      clock := fun e => by rw [result]; intro h; cases h
      picture := fun e => by rw [result]; intro h; cases h }
  have given : batches (DeadlineClock.starting c.instructionPeriod 0) (script 0 frames) =
      b :: batches next [⟨0.01, [.quit]⟩] := by
    show batches (DeadlineClock.starting (1 / 500 : Float) 0) [⟨0.01, b.events⟩, ⟨0.01, [.quit]⟩] = _
    rw [batches, polled]
  obtain ⟨-, all⟩ := run_follows undisturbed
  obtain ⟨-, devices, -⟩ := all [] b (by rw [given]; exact .first (Or.inl rfl) _)
  refine ⟨undisturbed, result, ?_⟩
  rw [devices, List.nil_append, List.flatMap_singleton, bare]
  decide

/-- A picture can be too large.  At this scale the last 32 bits of the sides make a window of 64 by 32
    points, which can be opened; the first picture that is due takes more memory than there is, so that
    the session has no exit status, though no clock fails. -/
theorem run_at_a_scale_beyond_memory :
    let c : Accepted :=
      { instructionRate := 500, renderRate := 1000, scale := 1099511627777, scheme := .classic,
        seed := 0, threshold := .info, scale_pos := by decide }
    Settings.check { renderRate := 1000, scale := 1099511627777 } = .ok c ∧
      Double.toInt c.instructionRate = .ok 500 ∧ Double.toInt c.renderRate = .ok 1000 ∧
      RandomKey.ofSeed? c.seed = some RandomKey.zero ∧
      (Window.ofScale c.scale).failure? .usual = none ∧
      (run c {} (.bytes #[0x12, 0x00]) 0 [⟨0.0015, []⟩]).result = .error (.picture .memory) := by
  intro c
  have window : (Window.ofScale c.scale).failure? .usual = none := by decide
  have seed : RandomKey.ofSeed? c.seed = some RandomKey.zero := rfl
  have rate : Double.toInt 500 = .ok 500 := by rfl
  have renders : Double.toInt 1000 = .ok 1000 := by rfl
  refine ⟨rfl, rate, renders, seed, window, ?_⟩
  have framed : (frame c .usual (opening c RandomKey.zero #[0x12, 0x00] 0) ⟨0.0015, []⟩).2 =
      .failed (.picture .memory) := by
    have idle : (DeadlineClock.starting (1 / 500 : Float) 0).poll 0.0015 =
        .ok (0, DeadlineClock.starting (1 / 500 : Float) 0) := by rfl
    obtain ⟨next, due⟩ : ∃ next,
        (DeadlineClock.starting (1 / 1000 : Float) 0 1).poll 0.0015 = .ok (1, next) := ⟨_, by rfl⟩
    have large : Image.oversize? .usual 64 32 1099511627777 = some .memory := by decide +kernel
    unfold frame
    dsimp only [opening, Accepted.instructionPeriod, Accepted.renderPeriod, c]
    -- no cycle is due yet, but a picture is
    rw [idle]
    dsimp only [Int.toNat, Machine.burst, present, note]
    rw [due]
    dsimp only
    rw [if_neg (by decide)]
    dsimp only [show?, picture, Image.render?]
    rw [large]
  have ended :
      (frame c .usual (opening c RandomKey.zero #[0x12, 0x00] 0) ⟨0.0015, []⟩).2 ≠ .running := by
    rw [framed]
    intro h
    cases h
  have read : (Source.bytes #[0x12, 0x00]).read {} = .ok #[0x12, 0x00] := rfl
  obtain ⟨result, -⟩ := run_eq seed read window 0 [⟨0.0015, []⟩]
  rw [result, play_cons_of_ended ended, framed]
  rfl

end Session

end Chip8
