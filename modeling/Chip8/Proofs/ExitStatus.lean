/-
  The exit status of the program.

  Three things can end the program: settings that are refused, a program file that cannot be read, and the
  session itself, which goes on to the user's end or to the first fault.  Each has a status of its own
  (`launch_status`), PROVIDED that what is accepted at one stage is fit for the later ones.  It need not be:
  the seed may be beyond 64 bits, the name of the file may have a NUL in it, and a clock may be unable to
  count the deadlines of a rate, although all three pass the settings.  `Launchable` says what is needed, and
  `launch_without_status` shows what becomes of arguments that lack it.

  That nothing else fails a session is `play_lasts`, an induction on its frames: as long as both clocks
  answer (`Answers`) and pictures are not too large, no frame fails (`frame_lasts`).  The clocks answer if the
  rates and the times are numbers and not too large for each other (`Moderate`).
-/
import Chip8.CommandLine.Launch
import Chip8.Proofs.Pictures
import Chip8.Proofs.RomSources
import Chip8.Proofs.SteadyClocks

namespace Chip8

open Double (StandsFor)

namespace DeadlineClock

variable {clock : DeadlineClock Float}

/-- Whether a clock can count its deadlines at the times of frames, one after the other. -/
def Answers (clock : DeadlineClock Float) (frames : List Frame) : Prop :=
  ∃ answers, clock.polls (frames.map Frame.time) = .ok answers

theorem Answers.cons {f : Frame} {rest : List Frame} (answers : clock.Answers (f :: rest)) :
    ∃ n next, clock.poll f.time = .ok (n, next) ∧ next.Answers rest := by
  obtain ⟨answers, run⟩ := answers
  rw [List.map_cons] at run
  rcases polled : clock.poll f.time with e | ⟨n, next⟩
  · rw [polls, polled] at run
    cases run
  · obtain ⟨later, run, -⟩ := polls_eq_ok polled run
    exact ⟨n, next, rfl, later, run⟩

end DeadlineClock

namespace Session

variable {c : Accepted} {limits : Limits} {s : Session} {f : Frame} {rate due n : Int}
  {clock renders : DeadlineClock Float}

/-! ## Sessions that nothing fails -/

/-- A frame in which both clocks answer does not fail, unless a picture is too large. -/
theorem frame_lasts (wf : s.machine.state.WellFormed)
    (whole : Double.toInt c.instructionRate = .ok rate) (fits : Image.oversize? limits 64 32 c.scale = none)
    (polled : s.instructions.poll f.time = .ok (due, clock))
    (rendered : s.renders.poll f.time = .ok (n, renders)) (e : SessionError) :
    (s.frame c limits f).2 ≠ .failed e := by
  obtain ⟨u, entered, framed⟩ := frame_entered (c := c) wf polled
  rw [framed]
  split
  · have passed : ∀ r : Session, (verdict ⟨f.events, due⟩ (r, .ok ())).2 ≠ .failed e := by
      intro r
      dsimp only [verdict]
      split <;> exact Progress.noConfusion
    by_cases idle : n = 0
    · subst idle
      rw [present_idle whole (entered.polled.trans rendered)]
      exact passed _
    · rw [present_due whole (entered.polled.trans rendered) idle fits]
      exact passed _
  · exact Progress.noConfusion

/-- A session whose clocks answer at the time of every frame does not fail, by induction on its frames. -/
theorem play_lasts (whole : Double.toInt c.instructionRate = .ok rate)
    (fits : Image.oversize? limits 64 32 c.scale = none) (e : SessionError) :
    ∀ (frames : List Frame) (s : Session), s.machine.state.WellFormed →
      s.instructions.Answers (script s.now frames) → s.renders.Answers (script s.now frames) →
      (s.play c limits frames).2 ≠ .failed e := by
  intro frames
  induction frames with
  | nil =>
    intro s wf instructions renders
    obtain ⟨due, clock, polled, -⟩ := instructions.cons
    obtain ⟨n, next, rendered, -⟩ := renders.cons
    exact frame_lasts wf whole fits polled rendered e
  | cons f rest ih =>
    intro s wf instructions renders
    obtain ⟨due, clock, polled, instructions⟩ := instructions.cons
    obtain ⟨n, next, rendered, renders⟩ := renders.cons
    have lasts := frame_lasts wf whole fits polled rendered
    by_cases running : (s.frame c limits f).2 = .running
    · rw [play_cons_of_running running]
      have tick : ∀ n' renders', s.renders.poll f.time = .ok (n', renders') → (n ≠ 0 ↔ n' ≠ 0) := by
        intro n' renders' again
        cases rendered.symm.trans again
        exact Iff.rfl
      obtain ⟨picture, framed⟩ := frame_framed wf whole polled (fun e => lasts (.clock e)) tick
      have onward := framed.onward running
      obtain ⟨n', again⟩ := onward.renders
      rw [rendered] at again
      cases again
      refine ih _ ?_ ?_ ?_
      · rw [onward.machine]
        exact Machine.wellFormed_follow _ _ wf
      · rw [onward.instructions, onward.time]
        exact instructions
      · rw [onward.time]
        exact renders
    · rw [play_cons_of_ended running]
      exact lasts e

/-- What a session needs in order to come to a status: a rate with an integer part, a window that can be
    opened, pictures that are not too large, and clocks that answer at the time of every frame. -/
structure Unhindered (c : Accepted) (limits : Limits) (start : Float) (frames : List Frame) : Prop where
  rate : ∃ rate, Double.toInt c.instructionRate = .ok rate
  window : (Window.ofScale c.scale).failure? limits = none
  picture : Image.oversize? limits 64 32 c.scale = none
  instructions : (DeadlineClock.starting c.instructionPeriod start).Answers (script start frames)
  renders : (DeadlineClock.starting c.renderPeriod start 1).Answers (script start frames)

/-- Rates and times that are numbers and not too large for each other: the rates are at most `2 ^ a`, and the
    times at most `2 ^ b` from zero. -/
structure Moderate (a b : ℕ) (c : Accepted) (start : Float) (frames : List Frame) : Prop where
  fit : a + b ≤ 1022
  instructions : ∃ r, StandsFor c.instructionRate r ∧ r ≤ 2 ^ a
  renders : ∃ r, StandsFor c.renderRate r ∧ r ≤ 2 ^ a
  start : ∃ x, StandsFor start x ∧ |x| ≤ 2 ^ b
  times : ∀ f ∈ frames, ∃ x, StandsFor f.time x ∧ |x| ≤ 2 ^ b

/-- The window is closed at a time that has been before. -/
theorem script_times {P : Float → Prop} : ∀ {frames : List Frame} {now : Float}, P now →
    (∀ f ∈ frames, P f.time) → ∀ t ∈ (script now frames).map Frame.time, P t := by
  intro frames
  induction frames with
  | nil =>
    intro now closing _
    exact List.forall_mem_singleton.mpr closing
  | cons f rest ih =>
    intro now _ times
    obtain ⟨first, later⟩ := List.forall_mem_cons.mp times
    exact List.forall_mem_cons.mpr ⟨first, ih first later⟩

/-- At moderate rates and times the clock of a rate answers. -/
theorem Moderate.answers {a b : ℕ} {start : Float} {frames : List Frame} (m : Moderate a b c start frames)
    {rate : Float} {r : ℚ} (number : StandsFor rate r) (positive : 0 < r) (slow : r ≤ 2 ^ a) (cap : Int) :
    (DeadlineClock.starting (1 / rate) start cap).Answers (script start frames) := by
  obtain ⟨q, started, small⟩ := m.start
  exact DeadlineClock.polls_steady m.fit _
    (DeadlineClock.steady_of_number number positive m.fit slow started small cap)
    (script_times m.start m.times)

/-- What the computer, the rates and the times must allow for a session to come to a status. -/
structure Feasible (c : Accepted) (limits : Limits) (start : Float) (frames : List Frame) : Prop where
  window : (Window.ofScale c.scale).failure? limits = none
  picture : Image.oversize? limits 64 32 c.scale = none
  moderate : ∃ a b, Moderate a b c start frames

theorem Feasible.unhindered {settings : Settings} {start : Float} {frames : List Frame}
    (feasible : Feasible c limits start frames) (accepted : settings.check = .ok c) :
    Unhindered c limits start frames := by
  obtain ⟨a, b, moderate⟩ := feasible.moderate
  obtain ⟨r, instructions, slow⟩ := moderate.instructions
  obtain ⟨r', renders, slow'⟩ := moderate.renders
  have positive : ∀ {rate q}, StandsFor rate q → ¬ rate ≤ 0 → 0 < q := fun number above =>
    not_le.mp (mt (number.le_iff Double.standsFor_zero).mpr above)
  obtain ⟨above, above'⟩ := Settings.rates_of_check accepted
  have pos := positive instructions above
  exact
    { rate := ⟨⌊r⌋, Double.toInt_eq_floor instructions pos.le⟩
      window := feasible.window
      picture := feasible.picture
      instructions := moderate.answers instructions pos slow 16
      renders := moderate.answers renders (positive renders above') slow' 1 }

/-- Whether one of the cycles faults that a session has its machine carry out. -/
def Faults (c : Accepted) (m : Machine) (start : Float) (frames : List Frame) : Prop :=
  ∃ earlier last fault,
    Ends m Devices.idle (batches (DeadlineClock.starting c.instructionPeriod start) (script start frames))
      earlier last ∧
    (m.follow Devices.idle ((earlier ++ [last]).flatMap Batch.actions)).trap = some (.fault fault)

variable {d : Directory} {source : Source} {start : Float} {frames : List Frame} {key : RandomKey}
  {program : Bytes}

/-- A session that nothing hinders comes to a status, which tells whether a cycle faulted. -/
theorem result_run (free : Unhindered c limits start frames) (seed : RandomKey.ofSeed? c.seed = some key)
    (read : source.read d = .ok program) :
    (run c d source start frames limits).result = .ok 0 ∧
        ¬ Faults c (Machine.ofProgram key program) start frames ∨
      (run c d source start frames limits).result = .ok 1 ∧
        Faults c (Machine.ofProgram key program) start frames := by
  obtain ⟨rate, whole⟩ := free.rate
  have fresh : (opening c key program start).machine.state.WellFormed :=
    State.wellFormed_ofProgram key program
  have lasts : ∀ e, ((opening c key program start).play c limits frames).2 ≠ .failed e := fun e =>
    play_lasts whole free.picture e frames (opening c key program start) fresh free.instructions free.renders
  obtain ⟨earlier, last, ends, ended, -⟩ := play_concludes ⟨rate, whole⟩ frames
    (opening c key program start) fresh (fun e => lasts (.clock e)) (fun e => lasts (.picture e))
  obtain ⟨result, -⟩ := run_eq seed read free.window start frames
  rw [result, ended]
  cases trap : ((opening c key program start).machine.follow (opening c key program start).devices
      ((earlier ++ [last]).flatMap Batch.actions)).trap with
  | none =>
    refine Or.inl ⟨rfl, ?_⟩
    rintro ⟨earlier', last', fault, ends', faulted⟩
    obtain ⟨rfl, rfl⟩ := ends.unique ends'
    cases trap.symm.trans faulted
  | some t =>
    obtain ⟨fault, rfl⟩ := Machine.fault_of_follow _ _ fresh trap
    exact Or.inr ⟨rfl, earlier, last, fault, ends, trap⟩

/-- A machine that is at a fault comes upon it in the first frame in which a cycle is due. -/
theorem faults_of_fault {m : Machine} {kind : FaultKind} {f : Frame} {rest : List Frame} {due : Int}
    {clock : DeadlineClock Float} (fault : m.state.nextWord.fault? m.state.stack = some kind)
    (polled : (DeadlineClock.starting c.instructionPeriod start).poll f.time = .ok (due, clock))
    (pos : 0 < due) : Faults c m start (f :: rest) := by
  have bare := follow_of_fault fault Devices.idle (b := ⟨f.events, due⟩) pos
  rw [Machine.cycle_of_fault fault] at bare
  have stopped : (m.follow Devices.idle ([⟨f.events, due⟩].flatMap Batch.actions)).trap = some (.fault
      { kind, opcode := m.state.nextWord.toNat, address := some m.state.address }) := by
    rw [List.flatMap_singleton, bare]
  refine ⟨[], ⟨f.events, due⟩, _, ?_, stopped⟩
  rw [script, batches_cons polled]
  refine .first (Or.inr ?_) _
  rw [bare]
  exact Option.some_ne_none _

/-- A clock that cannot count the deadlines of the first frame ends the session without a status. -/
theorem result_run_of_unanswered {f : Frame} {rest : List Frame} {e : ClockError}
    (window : (Window.ofScale c.scale).failure? limits = none) (seed : RandomKey.ofSeed? c.seed = some key)
    (read : source.read d = .ok program)
    (polled : (DeadlineClock.starting c.instructionPeriod start).poll f.time = .error e) :
    (run c d source start (f :: rest) limits).result = .error (.clock e) := by
  have failed : ((opening c key program start).frame c limits f).2 = .failed (.clock e) :=
    frame_of_unanswered polled
  obtain ⟨result, -⟩ := run_eq seed read window start (f :: rest)
  rw [result, play_cons_of_ended (by rw [failed]; exact Progress.noConfusion), failed]
  rfl

end Session

namespace CommandLine.Arguments

variable {a : Arguments} {c : Accepted} {limits : Limits} {d : Directory} {start : Float}
  {frames : List Frame}

/-! ## Sessions that arguments start -/

/-- Whether the settings are refused. -/
def Refused (a : Arguments) : Prop := ∃ e, a.settings.check = .error e

/-- Whether there is no file to read the program from. -/
def Unreadable (a : Arguments) (d : Directory) : Prop :=
  ∀ program, ¬ (Source.file a.rom).Holds d program

/-- Whether one of the cycles faults in the session that is started. -/
def Faults (a : Arguments) (d : Directory) (start : Float) (frames : List Frame) : Prop :=
  ∃ c key program, a.settings.check = .ok c ∧ RandomKey.ofSeed? c.seed = some key ∧
    (Source.file a.rom).Holds d program ∧
    Session.Faults c (Machine.ofProgram key program) start frames

/-- What arguments need in order to come to a status: no setting without a value is come upon, and if the
    settings are accepted, the seed fits 64 bits, there is no NUL in the name of the file, and the session of
    the program is feasible. -/
structure Launchable (a : Arguments) (d : Directory) (limits : Limits) (start : Float)
    (frames : List Frame) : Prop where
  valued : a.firstUnset? = none
  seed : ∀ c, a.settings.check = .ok c → Signed.fits64 c.seed
  clean : ∀ c, a.settings.check = .ok c → '\x00' ∉ a.rom.toList
  session : ∀ c program, a.settings.check = .ok c → (Source.file a.rom).Holds d program →
    Session.Feasible c limits start frames

theorem not_refused (accepted : a.settings.check = .ok c) : ¬ a.Refused := by
  rintro ⟨e, refused⟩
  cases accepted.symm.trans refused

/-- Arguments whose settings are accepted can be launched if these settings will do. -/
theorem launchable_of_accepted (accepted : a.settings.check = .ok c) (valued : a.firstUnset? = none)
    (seed : Signed.fits64 c.seed) (clean : '\x00' ∉ a.rom.toList)
    (feasible : Session.Feasible c limits start frames) : a.Launchable d limits start frames where
  valued := valued
  seed := by
    intro c' accepted'
    cases accepted.symm.trans accepted'
    exact seed
  clean := fun _ _ => clean
  session := by
    intro c' program accepted' _
    cases accepted.symm.trans accepted'
    exact feasible

theorem firstUnset?_of_nil (h : a.unset = []) : a.firstUnset? = none := by
  unfold firstUnset?
  rw [h]
  exact List.find?_eq_none.mpr fun _ _ => Bool.false_ne_true

theorem launch_of_valued (h : a.firstUnset? = none) (d : Directory) (start : Float)
    (frames : List Frame) (limits : Limits) :
    a.launch d start frames limits = .ok (a.session d start frames limits) := by
  rw [launch, h]

theorem result_session_of_refused {e : SettingsError} (refused : a.settings.check = .error e)
    (d : Directory) (start : Float) (frames : List Frame) (limits : Limits) :
    (a.session d start frames limits).result = .ok 2 := by
  rw [session, refused]

theorem result_session_of_unread {e : RomError} {key : RandomKey} (accepted : a.settings.check = .ok c)
    (seed : RandomKey.ofSeed? c.seed = some key) (read : (Source.file a.rom).read d = .error (.rom e))
    (start : Float) (frames : List Frame) (limits : Limits) :
    (a.session d start frames limits).result = .ok 1 := by
  simp only [session, accepted, Session.run, seed, read]

/-- Whatever else the session comes to is passed on. -/
theorem result_session {result : Except SessionError Nat} (accepted : a.settings.check = .ok c)
    (ran : (Session.run c d (.file a.rom) start frames limits).result = result)
    (read : ∀ e, result ≠ .error (.read (.rom e))) :
    (a.session d start frames limits).result = result := by
  simp only [session, accepted]
  split
  · rename_i e unread
    exact absurd (ran.symm.trans unread) (read e)
  · exact ran

/-- A file holds one program only, so that the session is the one that `Faults` speaks of. -/
theorem faults_iff {key : RandomKey} {program : Bytes} (accepted : a.settings.check = .ok c)
    (seed : RandomKey.ofSeed? c.seed = some key) (holds : (Source.file a.rom).Holds d program)
    (start : Float) (frames : List Frame) :
    a.Faults d start frames ↔ Session.Faults c (Machine.ofProgram key program) start frames := by
  constructor
  · rintro ⟨c', key', program', accepted', seed', holds', faults⟩
    cases accepted.symm.trans accepted'
    cases seed.symm.trans seed'
    cases (Source.read_of_holds holds).symm.trans (Source.read_of_holds holds')
    exact faults
  · exact fun faults => ⟨c, key, program, accepted, seed, holds, faults⟩

/-- The session that is started comes to one of three statuses. -/
theorem result_session_cases (h : a.Launchable d limits start frames) :
    a.Refused ∧ (a.session d start frames limits).result = .ok 2 ∨
      (¬ a.Refused ∧ (a.Unreadable d ∨ a.Faults d start frames)) ∧
        (a.session d start frames limits).result = .ok 1 ∨
      (¬ a.Refused ∧ ¬ (a.Unreadable d ∨ a.Faults d start frames)) ∧
        (a.session d start frames limits).result = .ok 0 := by
  cases checked : a.settings.check with
  | error e => exact Or.inl ⟨⟨e, checked⟩, result_session_of_refused checked d start frames limits⟩
  | ok c =>
    have accepted := not_refused checked
    have seed : RandomKey.ofSeed? c.seed = some ⟨0, UInt32.ofInt c.seed⟩ := if_pos (h.seed c checked)
    rcases Source.read_cases (.file a.rom) d with ⟨program, holds, read⟩ | ⟨text, fails, -⟩ | ⟨e, unread⟩
    · have readable : ¬ a.Unreadable d := fun nothing => nothing program holds
      have faults := faults_iff checked seed holds start frames
      have free := (h.session c program checked holds).unhindered checked
      rcases Session.result_run free seed read with ⟨ran, sound⟩ | ⟨ran, faulted⟩
      · refine Or.inr (Or.inr ⟨⟨accepted, ?_⟩, result_session checked ran nofun⟩)
        rintro (unread | faulted)
        · exact readable unread
        · exact sound (faults.mp faulted)
      · exact Or.inr (Or.inl ⟨⟨accepted, Or.inr (faults.mpr faulted)⟩, result_session checked ran nofun⟩)
    · cases fails with
      | file nul => exact absurd nul (h.clean c checked)
    · obtain ⟨nothing, -⟩ := (Source.read_eq_rom_iff (.file a.rom) d).mp ⟨e, unread⟩
      exact Or.inr (Or.inl ⟨⟨accepted, Or.inl nothing⟩,
        result_session_of_unread checked seed unread start frames limits⟩)

/-- **The exit status.**  Arguments that nothing hinders come to a status.  It is 2 exactly if the settings
    are refused; otherwise it is 1 exactly if the program cannot be read or one of the cycles faults; and
    otherwise it is 0. -/
theorem launch_status (h : a.Launchable d limits start frames) :
    ∃ report status, a.launch d start frames limits = .ok report ∧ report.result = .ok status ∧
      (status = 2 ↔ a.Refused) ∧
      (status = 1 ↔ ¬ a.Refused ∧ (a.Unreadable d ∨ a.Faults d start frames)) ∧
      (status = 0 ↔ ¬ a.Refused ∧ ¬ (a.Unreadable d ∨ a.Faults d start frames)) := by
  have launched := launch_of_valued h.valued d start frames limits
  rcases result_session_cases h with ⟨refused, result⟩ | ⟨failed, result⟩ | ⟨clean, result⟩
  · exact ⟨_, 2, launched, result, by simp [refused]⟩
  · exact ⟨_, 1, launched, result, by simp [failed]⟩
  · exact ⟨_, 0, launched, result, by simp [clean]⟩

/-- A program without a byte faults in its first cycle, and the status says so. -/
theorem launch_status_of_an_empty_file :
    let d : Directory := { files := [("/games/maze.ch8", #[])] }
    let frames : List Frame := [⟨0.01, [.down "q"]⟩]
    ∃ a, Arguments.parse ["/games/maze.ch8", "--seed", "-1"] = .ok a ∧ a.Launchable d .usual 0 frames ∧
      ∃ report, a.launch d 0 frames = .ok report ∧ report.result = .ok 1 := by
  intro d frames
  obtain ⟨c, accepted, instructions, renders, scale, seed⟩ :
      ∃ c, Settings.check { seed := -1 } = .ok c ∧ c.instructionRate = 500 ∧ c.renderRate = 60 ∧
        c.scale = 8 ∧ c.seed = -1 := ⟨_, rfl, rfl, rfl, rfl, rfl⟩
  obtain ⟨a, parsed, rom, settings, valued⟩ :
      ∃ a, Arguments.parse ["/games/maze.ch8", "--seed", "-1"] = .ok a ∧ a.rom = "/games/maze.ch8" ∧
        a.settings = { seed := -1 } ∧ a.unset = [] := ⟨_, by rfl, rfl, rfl, rfl⟩
  have clean : '\x00' ∉ a.rom.toList := by
    rw [rom]
    decide +kernel
  have holds : (Source.file a.rom).Holds d #[] := by
    refine .file clean (Directory.openFile_eq_ok_iff.mp ?_)
    rw [rom]
    decide +kernel
  rw [← settings] at accepted
  -- nine bits are enough for the rates, and all times are within a second
  have moderate : Session.Moderate 9 0 c 0 frames := by
    have hundredth : StandsFor 0.01 (5764607523034235 / 2 ^ 59) := by
      have value : Double.value 0.01 = .finite false 0x147AE147AE147B (-59) := by decide +kernel
      exact Double.standsFor_of_value value (by norm_num [Double.signed, Double.scaled])
    refine ⟨by decide, ⟨500, ?_, by norm_num⟩, ⟨60, ?_, by norm_num⟩,
      ⟨0, Double.standsFor_zero, by norm_num⟩, ?_⟩
    · have value : Double.value 500 = .finite false 0x1F400000000000 (-44) := by decide +kernel
      rw [instructions]
      exact Double.standsFor_of_value value (by norm_num [Double.signed, Double.scaled])
    · have value : Double.value 60 = .finite false 0x1E000000000000 (-47) := by decide +kernel
      rw [renders]
      exact Double.standsFor_of_value value (by norm_num [Double.signed, Double.scaled])
    · exact List.forall_mem_singleton.mpr ⟨_, hundredth, by norm_num⟩
  have feasible : Session.Feasible c .usual 0 frames := by
    refine ⟨?_, ?_, 9, 0, moderate⟩ <;> rw [scale] <;> decide +kernel
  have launchable : a.Launchable d .usual 0 frames :=
    launchable_of_accepted accepted (firstUnset?_of_nil valued) (by rw [seed]; decide) clean feasible
  have key : RandomKey.ofSeed? c.seed = some ⟨0, 0xFFFFFFFF⟩ := by
    rw [seed]
    decide +kernel
  -- five cycles are due in the one frame
  obtain ⟨next, due⟩ : ∃ next,
      (DeadlineClock.starting c.instructionPeriod 0).poll 0.01 = .ok (5, next) := by
    rw [Accepted.instructionPeriod, instructions]
    exact ⟨_, by rfl⟩
  have faults : a.Faults d 0 frames := (faults_iff accepted key holds 0 frames).mpr
    (Session.faults_of_fault (Session.fault?_ofProgram_nil _) due (by decide))
  obtain ⟨report, status, launched, result, -, failed, -⟩ := launch_status launchable
  obtain rfl := failed.mpr ⟨not_refused accepted, Or.inr faults⟩
  exact ⟨a, parsed, launchable, report, launched, result⟩

/-- Arguments that come to an error and so to no status, although their settings are accepted, both rates are
    finite numbers and the window can be opened. -/
def Fails (a : Arguments) (d : Directory) (frames : List Frame) (e : SessionError) : Prop :=
  ∃ c report, a.settings.check = .ok c ∧
    (∃ negative mantissa exponent,
      Double.value c.instructionRate = .finite negative mantissa exponent) ∧
    (∃ negative mantissa exponent, Double.value c.renderRate = .finite negative mantissa exponent) ∧
    (Window.ofScale c.scale).failure? .usual = none ∧
    a.launch d 0 frames = .ok report ∧ report.result = .error e

theorem fails_of_run {e : SessionError} (accepted : a.settings.check = .ok c) (valued : a.unset = [])
    (instructions : ∃ negative mantissa exponent,
      Double.value c.instructionRate = .finite negative mantissa exponent)
    (renders : ∃ negative mantissa exponent,
      Double.value c.renderRate = .finite negative mantissa exponent)
    (window : (Window.ofScale c.scale).failure? .usual = none)
    (ran : (Session.run c d (.file a.rom) 0 frames).result = .error e)
    (other : ∀ e', e ≠ .read (.rom e')) : a.Fails d frames e := by
  refine ⟨c, _, accepted, instructions, renders, window,
    launch_of_valued (firstUnset?_of_nil valued) d 0 frames .usual, result_session accepted ran ?_⟩
  intro e' read
  exact other e' (Except.error.inj read)

/-- Settings that are accepted are not all that a status needs: the seed may be beyond 64 bits, the name of the
    file may have a NUL in it, a clock may be asked for more deadlines than it can count, and a setting may
    have had its value taken away. -/
theorem launch_without_status :
    let d : Directory := { files := [("maze.ch8", #[0x12, 0x00])] }
    (∃ a, Arguments.parse ["maze.ch8", "--seed", "9223372036854775808"] = .ok a ∧ a.Fails d [] .seed) ∧
      (∃ a, Arguments.parse ["maze.ch8\x00"] = .ok a ∧
        a.Fails d [] (.read (.other "embedded null byte"))) ∧
      Fails ⟨"maze.ch8", { instructionRate := 1e308 }, []⟩ d [⟨4, []⟩] (.clock .infinite) ∧
      ∃ a, Arguments.parse ["maze.ch8", "--seed=--"] = .ok a ∧ a.launch d 0 [] = .error ⟨.seed⟩ := by
  intro d
  have usual : ∃ negative mantissa exponent, Double.value 500 = .finite negative mantissa exponent :=
    ⟨false, 0x1F400000000000, -44, by decide +kernel⟩
  have pictures : ∃ negative mantissa exponent, Double.value 60 = .finite negative mantissa exponent :=
    ⟨false, 0x1E000000000000, -47, by decide +kernel⟩
  have window : (Window.ofScale 8).failure? .usual = none := by decide
  refine ⟨⟨_, by rfl, ?_⟩, ⟨_, by rfl, ?_⟩, ?_, ⟨_, by rfl, by rfl⟩⟩
  · exact fails_of_run rfl rfl usual pictures window (by rfl) nofun
  · exact fails_of_run rfl rfl usual pictures window (by rfl) nofun
  · have level : Log.Level.parse "INFO" = .ok .info := by rfl
    have accepted := Settings.check_eq_ok (s := { instructionRate := 1e308 }) (by decide +kernel)
      (by decide +kernel) (by decide) (Scheme.ofName_name .classic) level
    have late : (DeadlineClock.starting (1 / 1e308 : Float) 0).poll 4 = .error .infinite :=
      DeadlineClock.poll_of_uncounted (by decide +kernel) (by decide +kernel)
    have read : (Source.file "maze.ch8").read d = .ok #[0x12, 0x00] := by decide +kernel
    exact fails_of_run accepted rfl ⟨false, 0x11CCF385EBC8A0, 971, by decide +kernel⟩ pictures window
      (Session.result_run_of_unanswered window rfl read late) nofun

end CommandLine.Arguments

end Chip8
