/-
  What a session presents.

  A frame presents one picture or none.  It presents one if the render clock reports a deadline and the
  machine has not faulted in the cycles of that frame; and the picture is of the screen that the bare
  machine has after all batches up to and including that of the frame (`Presents`).  So what is shown is
  never behind what was carried out.

  A frame comes to one of four things, `framed_of_fault`, `framed_of_idle`, `framed_of_due` and
  `framed_of_large`, and `Framed` is what they have in common.  `Shown` says what the frames of a session
  present one after the other, and that none comes after the last; it is put together from its first
  frame and the rest (`Shown.first`, `Shown.cons`) by the induction of `play_induction`.

  The fourth thing is a picture that is due and too large to be made.  In a window of ordinary size there
  is none, if there is ample memory (`oversize?_ofScale`), but at a scale of 41 bits and more a window can be
  opened all the same, since its sides wrap round 32 bits.
-/
import Chip8.Proofs.Images
import Chip8.Proofs.SessionRun

namespace Chip8

/-- A picture that shows a screen in a window: every point has the colour of the pixel that it belongs to,
    `u` points to the right and `v` points down being the pixel in column `u / scale` and row
    `v / scale`. -/
structure Depicts (p : Screen) (scale : Nat) (scheme : Scheme) (i : Image) : Prop where
  width : i.surface.length = 64 * scale
  height : ∀ column ∈ i.surface, column.length = 32 * scale
  point : ∀ (x : Fin 64) (y : Fin 32) (u v : Nat), u / scale = x.val → v / scale = y.val →
    (i.surface[u]?.bind fun column => column[v]?) =
      some (if p.lit x y then scheme.lit else scheme.dark)

namespace Session

variable {c : Accepted} {limits : Limits} {s r : Session} {f : Frame}

/-! ## Pictures of the screen -/

/-- The picture of a screen at the scale and in the colours of a session. -/
def view (c : Accepted) (p : Screen) : Image := Image.render p.lit c.scale c.scheme.lit c.scheme.dark

theorem depicts_view (c : Accepted) (p : Screen) : Depicts p c.scale.toNat c.scheme (view c p) := by
  have side : Image.cellSide c.scale = c.scale.toNat := by
    have := c.scale_pos
    show (max c.scale 1).toNat = _
    omega
  have width : (view c p).width = 64 * c.scale.toNat := by
    rw [← side]
    exact Image.width_render p.lit c.scale _ _ (by decide)
  have even : ∀ row ∈ (view c p).rows, row.length = (view c p).width := by
    intro row member
    rw [width, ← side]
    exact Image.length_row_render p.lit c.scale _ _ member
  refine ⟨?_, ?_, ?_⟩
  · rw [Image.length_surface, width]
  · intro column member
    rw [Image.length_column even member, ← side]
    exact Image.height_render p.lit c.scale _ _
  · intro x y u v across down
    have within : u < (view c p).width := by
      have pos : 0 < c.scale.toNat := side ▸ Image.cellSide_pos c.scale
      rw [width, ← Nat.div_lt_iff_lt_mul pos, across]
      exact x.isLt
    rw [Image.getElem?_surface even within v]
    rw [← side] at across down
    exact Image.getElem?_rows_render p.lit c.scale _ _ across down

/-! ## Presenting -/

variable {rate due : Int} {renders : DeadlineClock Float} {e : Oversize}

theorem present_idle (whole : Double.toInt c.instructionRate = .ok rate)
    (polled : s.renders.poll s.now = .ok (0, renders)) :
    s.present c limits = ({ s with renders, paces := s.paces ++ [rate] }, .ok ()) := by
  unfold present
  rw [polled]
  dsimp only
  rw [if_pos rfl, whole]

theorem present_due (whole : Double.toInt c.instructionRate = .ok rate)
    (polled : s.renders.poll s.now = .ok (due, renders)) (ticks : due ≠ 0)
    (fits : Image.oversize? limits 64 32 c.scale = none) :
    s.present c limits =
      ({ s with
          renders
          shots := s.shots ++ [⟨s.paces.length, view c s.devices.screen⟩]
          paces := s.paces ++ [rate] }, .ok ()) := by
  unfold present
  rw [polled]
  dsimp only
  rw [if_neg ticks]
  dsimp only [show?, picture, Image.render?]
  rw [fits]
  dsimp only
  rw [whole]
  rfl

theorem present_large (polled : s.renders.poll s.now = .ok (due, renders)) (ticks : due ≠ 0)
    (large : Image.oversize? limits 64 32 c.scale = some e) :
    s.present c limits = ({ s with renders }, .error (.picture e)) := by
  unfold present
  rw [polled]
  dsimp only
  rw [if_neg ticks]
  dsimp only [show?, picture, Image.render?]
  rw [large]

theorem present_of_error {e : ClockError} (polled : s.renders.poll s.now = .error e) :
    s.present c limits = (s, .error (.clock e)) := by
  unfold present
  rw [polled]

/-! ## One frame -/

/-- Pictures that frames have presented, as far as they have, each with the number of frames before its
    own. -/
def numbered (k : Nat) : List (Option Image) → List Shot
  | [] => []
  | picture :: rest => (picture.map (Shot.mk k)).toList ++ numbered (k + 1) rest

/-- What a frame presents after which the bare machine is as in `now`: a picture, if one is due and the
    machine has not faulted, and the picture is of the screen as it is now.  A picture that is due and too
    large is what the session ends with. -/
structure Presents (c : Accepted) (limits : Limits) (now : Attempt) (due : Prop) (picture : Option Image)
    (ending : Progress) : Prop where
  presented : (∃ image, picture = some image) ↔
    now.trap = none ∧ due ∧ Image.oversize? limits 64 32 c.scale = none
  depicts : ∀ image, picture = some image → Depicts now.devices.screen c.scale.toNat c.scheme image
  large : now.trap = none → due → ∀ e, Image.oversize? limits 64 32 c.scale = some e →
    ending = .failed (.picture e)

/-- Whether a frame is the last: the user ends the session, the machine faults or a picture that is due is
    too large. -/
def Final (c : Accepted) (limits : Limits) (b : Batch) (now : Attempt) (due : Prop) : Prop :=
  b.quits = true ∨ now.trap ≠ none ∨ due ∧ Image.oversize? limits 64 32 c.scale ≠ none

/-- What has been presented becomes the end of a frame: a failure, or what the events of its batch ask
    for. -/
def verdict (b : Batch) : Session × Except SessionError Unit → Session × Progress
  | (r, .error e) => (r, .failed e)
  | (r, .ok ()) => (r, if b.quits then .closed else .running)

/-- A session in the middle of a frame: its machine has come to what it is in `now`, and nothing has been
    presented yet. -/
structure Entered (s : Session) (f : Frame) (now : Attempt) (instructions : DeadlineClock Float)
    (u : Session) : Prop where
  machine : u.machine = now.machine
  devices : u.devices = now.devices
  time : u.now = f.time
  instructions : u.instructions = instructions
  renders : u.renders = s.renders
  shots : u.shots = s.shots
  paces : u.paces = s.paces

/-- A session that has gone on through a frame, after which the bare machine is as in `now`. -/
structure Onward (s : Session) (f : Frame) (now : Attempt) (instructions : DeadlineClock Float)
    (r : Session) : Prop where
  machine : r.machine = now.machine
  devices : r.devices = now.devices
  time : r.now = f.time
  instructions : r.instructions = instructions
  renders : ∃ n, s.renders.poll f.time = .ok (n, r.renders)
  paces : r.paces.length = s.paces.length + 1

/-- What a frame that no clock fails presents, whether it is the last, and what it leaves behind. -/
structure Framed (c : Accepted) (limits : Limits) (s : Session) (f : Frame) (b : Batch) (now : Attempt)
    (instructions : DeadlineClock Float) (due : Prop) (picture : Option Image)
    (r : Session × Progress) : Prop where
  shots : r.1.shots = s.shots ++ numbered s.paces.length [picture]
  presents : Presents c limits now due picture r.2
  final : r.2 ≠ .running ↔ Final c limits b now due
  onward : r.2 = .running → Onward s f now instructions r.1

variable {n : Int} {clock : DeadlineClock Float} {ticks : Prop} {now : Attempt} {u : Session} {b : Batch}
  {ending : Progress}

theorem frame_entered (wf : s.machine.state.WellFormed)
    (polled : s.instructions.poll f.time = .ok (due, clock)) :
    let bare := s.machine.follow s.devices (Batch.actions ⟨f.events, due⟩)
    ∃ u, Entered s f bare.toAttempt clock u ∧
      s.frame c limits f =
        if bare.trap = none then verdict ⟨f.events, due⟩ (u.present c limits)
        else (u.note (halting c bare), .halted) := by
  obtain ⟨log, -, framed⟩ := frame_eq (c := c) wf polled
  refine ⟨_, ?_, framed⟩
  exact ⟨rfl, rfl, rfl, rfl, rfl, rfl, rfl⟩

theorem Entered.polled (entered : Entered s f now clock u) : u.renders.poll u.now = s.renders.poll f.time := by
  rw [entered.renders, entered.time]

theorem Entered.onward (entered : Entered s f now clock u)
    (rendered : s.renders.poll f.time = .ok (n, renders)) (rate : Int) (shots : List Shot) :
    Onward s f now clock { u with renders, shots := shots, paces := u.paces ++ [rate] } := by
  refine ⟨entered.machine, entered.devices, entered.time, entered.instructions, ⟨n, rendered⟩, ?_⟩
  show (u.paces ++ [rate]).length = _
  rw [List.length_append, entered.paces]
  rfl

theorem Presents.nothing
    (reason : ¬ (now.trap = none ∧ ticks ∧ Image.oversize? limits 64 32 c.scale = none))
    (large : now.trap = none → ticks → ∀ e, Image.oversize? limits 64 32 c.scale = some e →
      ending = .failed (.picture e)) : Presents c limits now ticks none ending := by
  refine ⟨?_, ?_, large⟩
  · constructor
    · rintro ⟨_, ⟨⟩⟩
    · intro all
      exact absurd all reason
  · rintro _ ⟨⟩

theorem Presents.view (done : now.trap = none) (due : ticks)
    (fits : Image.oversize? limits 64 32 c.scale = none) :
    Presents c limits now ticks (some (view c now.devices.screen)) ending := by
  refine ⟨⟨fun _ => ⟨done, due, fits⟩, fun _ => ⟨_, rfl⟩⟩, ?_, ?_⟩
  · rintro _ ⟨⟩
    exact depicts_view c now.devices.screen
  · intro _ _ e large
    rw [fits] at large
    cases large

/-- How a session ends does not matter to a frame that is not the last. -/
theorem Presents.of_goes {picture : Option Image} (presents : Presents c limits now ticks picture ending)
    (goes : ¬ Final c limits b now ticks) (ending' : Progress) :
    Presents c limits now ticks picture ending' := by
  refine ⟨presents.presented, presents.depicts, ?_⟩
  intro _ due e size
  refine absurd (Or.inr (Or.inr ⟨due, ?_⟩)) goes
  rw [size]
  exact Option.some_ne_none e

/-- A frame in which nothing fails is the last if the user ends the session. -/
theorem final_of_fits (done : now.trap = none) (fits : ticks → Image.oversize? limits 64 32 c.scale = none)
    (b : Batch) :
    (if b.quits then Progress.closed else .running) ≠ .running ↔ Final c limits b now ticks := by
  unfold Final
  cases quits : b.quits with
  | true => exact ⟨fun _ => Or.inl rfl, fun _ => Progress.noConfusion⟩
  | false =>
    constructor
    · intro ended
      exact absurd rfl ended
    · rintro (h | stopped | ⟨due, large⟩)
      · cases h
      · exact absurd done stopped
      · exact absurd (fits due) large

/-- A frame in which the machine faults presents nothing and is the last. -/
theorem framed_of_fault (stopped : now.trap ≠ none) (shots : u.shots = s.shots) :
    Framed c limits s f b now clock ticks none (u, .halted) := by
  refine ⟨?_, .nothing ?_ ?_, ?_, ?_⟩
  · rw [shots]
    exact (List.append_nil _).symm
  · rintro ⟨done, -⟩
    exact absurd done stopped
  · intro done
    exact absurd done stopped
  · exact ⟨fun _ => Or.inr (Or.inl stopped), fun _ => Progress.noConfusion⟩
  · rintro ⟨⟩

/-- A frame that has no picture due. -/
theorem framed_of_idle (entered : Entered s f now clock u) (done : now.trap = none)
    (whole : Double.toInt c.instructionRate = .ok rate)
    (rendered : s.renders.poll f.time = .ok (0, renders)) (early : ¬ ticks) :
    Framed c limits s f b now clock ticks none (verdict b (u.present c limits)) := by
  rw [present_idle whole (entered.polled.trans rendered)]
  refine ⟨?_, .nothing ?_ ?_, final_of_fits done (fun due => absurd due early) b,
    fun _ => entered.onward rendered rate _⟩
  · rw [← entered.shots]
    exact (List.append_nil _).symm
  · rintro ⟨-, due, -⟩
    exact absurd due early
  · intro _ due
    exact absurd due early

/-- A frame that has a picture due and makes it. -/
theorem framed_of_due (entered : Entered s f now clock u) (done : now.trap = none)
    (whole : Double.toInt c.instructionRate = .ok rate)
    (rendered : s.renders.poll f.time = .ok (n, renders)) (reported : n ≠ 0) (due : ticks)
    (fits : Image.oversize? limits 64 32 c.scale = none) :
    Framed c limits s f b now clock ticks (some (view c now.devices.screen))
      (verdict b (u.present c limits)) := by
  rw [present_due whole (entered.polled.trans rendered) reported fits]
  refine ⟨?_, .view done due fits, final_of_fits done (fun _ => fits) b,
    fun _ => entered.onward rendered rate _⟩
  rw [← entered.shots, ← entered.paces, ← entered.devices]
  rfl

/-- A frame that has a picture due which is too large. -/
theorem framed_of_large (entered : Entered s f now clock u)
    (rendered : s.renders.poll f.time = .ok (n, renders)) (reported : n ≠ 0) (due : ticks)
    (large : Image.oversize? limits 64 32 c.scale = some e) :
    Framed c limits s f b now clock ticks none (verdict b (u.present c limits)) := by
  have misfit : Image.oversize? limits 64 32 c.scale ≠ none := by
    rw [large]
    exact Option.some_ne_none e
  rw [present_large (entered.polled.trans rendered) reported large]
  refine ⟨?_, .nothing ?_ ?_, ?_, ?_⟩
  · rw [← entered.shots]
    exact (List.append_nil _).symm
  · rintro ⟨-, -, fits⟩
    exact absurd fits misfit
  · intro _ _ e' same
    cases large.symm.trans same
    rfl
  · exact ⟨fun _ => Or.inr (Or.inr ⟨due, misfit⟩), fun _ => Progress.noConfusion⟩
  · rintro ⟨⟩

/-- Every frame that no clock fails is one of these. -/
theorem frame_framed (wf : s.machine.state.WellFormed)
    (whole : Double.toInt c.instructionRate = .ok rate)
    (polled : s.instructions.poll f.time = .ok (due, clock))
    (answers : ∀ e, (s.frame c limits f).2 ≠ .failed (.clock e))
    (tick : ∀ n renders, s.renders.poll f.time = .ok (n, renders) → (ticks ↔ n ≠ 0)) :
    ∃ picture, Framed c limits s f ⟨f.events, due⟩
      (s.machine.follow s.devices (Batch.actions ⟨f.events, due⟩)).toAttempt clock ticks picture
      (s.frame c limits f) := by
  obtain ⟨u, entered, framed⟩ := frame_entered (c := c) wf polled
  by_cases done : (s.machine.follow s.devices (Batch.actions ⟨f.events, due⟩)).trap = none
  · rw [if_pos done] at framed
    rw [framed]
    rcases rendered : s.renders.poll f.time with e | ⟨n, renders⟩
    · -- then the clock would have failed the frame
      rw [present_of_error (entered.polled.trans rendered)] at framed
      exact absurd (congrArg Prod.snd framed) (answers e)
    · have tick := tick n renders rendered
      by_cases idle : n = 0
      · subst idle
        exact ⟨_, framed_of_idle entered done whole rendered fun due => tick.mp due rfl⟩
      · rcases size : Image.oversize? limits 64 32 c.scale with _ | e
        · exact ⟨_, framed_of_due entered done whole rendered idle (tick.mpr idle) size⟩
        · exact ⟨_, framed_of_large entered rendered idle (tick.mpr idle) size⟩
  · rw [if_neg done] at framed
    rw [framed]
    exact ⟨none, framed_of_fault done entered.shots⟩

/-! ## One frame after the other -/

/-- Whether a clock that gave these answers, one in each frame, has reported a deadline in a frame. -/
def Due (ticks : List Int) (k : Nat) : Prop := ∃ n, ticks[k]? = some n ∧ n ≠ 0

/-- What the frames of a session present that gives its machine the batches and whose render clock gives
    the answers: each frame what the bare machine shows after its batch, and none comes after the one
    that is the last. -/
structure Shown (c : Accepted) (limits : Limits) (m : Machine) (d : Devices) (given : List Batch)
    (ticks : List Int) (pictures : List (Option Image)) (ending : Progress) : Prop where
  nonempty : pictures ≠ []
  each : ∀ k picture, pictures[k]? = some picture → ∃ b, given[k]? = some b ∧
    let now := (m.follow d ((given.take (k + 1)).flatMap Batch.actions)).toAttempt
    Presents c limits now (Due ticks k) picture ending ∧
      (k + 1 = pictures.length ↔ Final c limits b now (Due ticks k))

namespace Shown

variable {m : Machine} {d : Devices} {given : List Batch} {ticks : List Int} {ending : Progress}
  {picture : Option Image} {pictures : List (Option Image)}

/-- The first frame may be the last. -/
theorem first (presents : Presents c limits (m.follow d b.actions).toAttempt (Due ticks 0) picture ending)
    (final : Final c limits b (m.follow d b.actions).toAttempt (Due ticks 0)) :
    Shown c limits m d (b :: given) ticks [picture] ending where
  nonempty := List.cons_ne_nil _ _
  each := by
    intro k picture' found
    rcases k with _ | k
    · cases found
      refine ⟨b, rfl, ?_⟩
      rw [List.take_succ_cons, List.take_zero, List.flatMap_singleton]
      exact ⟨presents, fun _ => final, fun _ => rfl⟩
    · cases found

/-- What the first frame leaves behind goes on to the same end. -/
theorem cons (done : (m.follow d b.actions).trap = none)
    (presents : Presents c limits (m.follow d b.actions).toAttempt (Due (n :: ticks) 0) picture ending)
    (goes : ¬ Final c limits b (m.follow d b.actions).toAttempt (Due (n :: ticks) 0))
    (rest : Shown c limits (m.follow d b.actions).machine (m.follow d b.actions).devices given ticks pictures
      ending) :
    Shown c limits m d (b :: given) (n :: ticks) (picture :: pictures) ending where
  nonempty := List.cons_ne_nil _ _
  each := by
    intro k picture' found
    rcases k with _ | k
    · cases found
      refine ⟨b, rfl, ?_⟩
      rw [List.take_succ_cons, List.take_zero, List.flatMap_singleton]
      refine ⟨presents, fun last => ?_, fun final => absurd final goes⟩
      exact absurd (List.eq_nil_of_length_eq_zero (Nat.succ.inj last).symm) rest.nonempty
    · obtain ⟨b', found', presents', final'⟩ := rest.each k picture' found
      refine ⟨b', found', ?_⟩
      rw [List.take_succ_cons, List.flatMap_cons, Machine.follow_append_of_done done]
      refine ⟨presents', ?_⟩
      rw [List.length_cons, Nat.add_right_cancel_iff]
      exact final'

end Shown

/-- A session that has presented pictures on its way through a script. -/
def Displays (c : Accepted) (limits : Limits) (s : Session) (script : List Frame)
    (r : Session × Progress) : Prop :=
  ∃ pictures, r.1.shots = s.shots ++ numbered s.paces.length pictures ∧
    Shown c limits s.machine s.devices (batches s.instructions script)
      ((batches s.renders script).map Batch.due) pictures r.2

theorem due_zero (polled : clock.poll f.time = .ok (n, renders)) (later : List Frame) :
    Due ((batches clock (f :: later)).map Batch.due) 0 ↔ n ≠ 0 := by
  rw [batches_cons polled]
  constructor
  · rintro ⟨_, ⟨⟩, due⟩
    exact due
  · intro due
    exact ⟨n, rfl, due⟩

/-- A frame that no clock fails is the end of what a session displays, or goes on to it. -/
theorem frame_displays (whole : Double.toInt c.instructionRate = .ok rate) (s : Session) (f : Frame)
    (later : List Frame) (wf : s.machine.state.WellFormed)
    (answers : ∀ e, (s.frame c limits f).2 ≠ .failed (.clock e)) :
    (s.frame c limits f).2 ≠ .running ∧ Displays c limits s (f :: later) (s.frame c limits f) ∨
      (s.frame c limits f).2 = .running ∧ f.events.any Event.quits = false ∧
        (s.frame c limits f).1.machine.state.WellFormed ∧ (s.frame c limits f).1.now = f.time ∧
        ∀ r, Displays c limits (s.frame c limits f).1 later r → Displays c limits s (f :: later) r := by
  rcases polled : s.instructions.poll f.time with e | ⟨due, clock⟩
  · exact absurd (frame_of_unanswered polled) (answers e)
  · obtain ⟨picture, framed⟩ := frame_framed wf whole polled answers
      fun n renders polled => due_zero polled later
    unfold Displays
    rw [batches_cons polled]
    by_cases going : (s.frame c limits f).2 = .running
    · have goes := mt framed.final.mpr (not_not_intro going)
      have onward := framed.onward going
      obtain ⟨n, rendered⟩ := onward.renders
      have ticks : (batches s.renders (f :: later)).map Batch.due =
          n :: (batches (s.frame c limits f).1.renders later).map Batch.due := by
        rw [batches_cons rendered]
        rfl
      have done : (s.machine.follow s.devices (Batch.actions ⟨f.events, due⟩)).trap = none := by
        by_contra stopped
        exact goes (Or.inr (Or.inl stopped))
      have presents := framed.presents
      rw [ticks] at presents goes
      refine Or.inr ⟨going, ?_, ?_, onward.time, ?_⟩
      · cases quits : f.events.any Event.quits with
        | true => exact absurd (Or.inl quits) goes
        | false => rfl
      · rw [onward.machine]
        exact Machine.wellFormed_follow _ _ wf
      · rintro r ⟨pictures, shots, shown⟩
        refine ⟨picture :: pictures, ?_, ?_⟩
        · rw [shots, framed.shots, onward.paces, List.append_assoc]
          show _ ++ ((_ ++ []) ++ _) = _
          rw [List.append_nil]
          rfl
        · rw [onward.machine, onward.devices, onward.instructions] at shown
          rw [ticks]
          exact .cons done (presents.of_goes goes r.2) goes shown
    · refine Or.inl ⟨going, [picture], framed.shots, .first ?_ (framed.final.mp going)⟩
      exact framed.presents

/-- **A session that no clock fails displays its screen**, by induction on its frames. -/
theorem play_displays (whole : Double.toInt c.instructionRate = .ok rate) (frames : List Frame)
    (s : Session) (wf : s.machine.state.WellFormed)
    (answers : ∀ e, (s.play c limits frames).2 ≠ .failed (.clock e)) :
    Displays c limits s (script s.now frames) (s.play c limits frames) := by
  refine play_induction (Q := fun p => ∀ e, p ≠ .failed (.clock e)) (P := Displays c limits) ?_ ?_ frames s wf
    answers
  · rintro e ⟨⟩
  · intro s f later wf answers
    exact frame_displays whole s f later wf answers

/-! ## Whole sessions -/

/-- A session of a program that starts, with a rate that is a finite number, and that no clock brings to an
    end. -/
structure Timely (c : Accepted) (limits : Limits) (d : Directory) (source : Source) (start : Float)
    (frames : List Frame) (key : RandomKey) (program : Bytes) : Prop where
  seed : RandomKey.ofSeed? c.seed = some key
  read : source.read d = .ok program
  window : (Window.ofScale c.scale).failure? limits = none
  rate : ∃ negative mantissa exponent,
    Double.value c.instructionRate = .finite negative mantissa exponent
  clock : ∀ e, (run c d source start frames limits).result ≠ .error (.clock e)

/-- In a window of ordinary size no picture is too large, if there is ample memory. -/
theorem oversize?_ofScale (ample : limits.Ample) {scale : Int} (pos : 1 ≤ scale) (le : scale ≤ 256) :
    Image.oversize? limits 64 32 scale = none := by
  have memory : 3 * (64 * 256) * (32 * 256) ≤ limits.memory := ample
  have area : scale * scale ≤ 256 * 256 := Int.mul_le_mul le le (by omega) (by decide)
  have bytes : 3 * (64 : Nat) * ((32 : Nat) * scale) * scale = 6144 * (scale * scale) := by
    rw [← Int.mul_assoc, ← Int.mul_assoc]
    rfl
  rw [Image.oversize?_eq_none_iff scale limits (by decide) (by decide), bytes]
  omega

variable {d : Directory} {source : Source} {start : Float} {frames : List Frame} {key : RandomKey}
  {program : Bytes}

theorem shots_run (seed : RandomKey.ofSeed? c.seed = some key) (read : source.read d = .ok program)
    (window : (Window.ofScale c.scale).failure? limits = none) (start : Float) (frames : List Frame) :
    (run c d source start frames limits).shots =
      ((opening c key program start).play c limits frames).1.shots := by
  unfold run
  simp only [seed, read, window]
  cases ((opening c key program start).play c limits frames).2 <;> rfl

/-- A session that its first frame ends. -/
theorem run_of_ended (seed : RandomKey.ofSeed? c.seed = some key) (read : source.read d = .ok program)
    (window : (Window.ofScale c.scale).failure? limits = none) (later : List Frame)
    (ended : (frame c limits (opening c key program start) f).2 ≠ .running) :
    (run c d source start (f :: later) limits).shots =
        (frame c limits (opening c key program start) f).1.shots ∧
      (run c d source start (f :: later) limits).result =
        ((frame c limits (opening c key program start) f).1.finish c
          (frame c limits (opening c key program start) f).2).2 := by
  obtain ⟨result, -⟩ := run_eq seed read window start (f :: later)
  have shots := shots_run seed read window start (f :: later)
  rw [play_cons_of_ended ended] at result shots
  exact ⟨shots, result⟩

/-- **What is presented is the screen of the bare machine.**  A session goes through frames, and each of
    them presents one picture or none: one if the render clock reports a deadline, the machine has not
    faulted and the picture is not too large.  The picture has the size of the window and shows, point by
    point, the screen of a bare machine that was given all batches up to and including that of the frame.
    The frame with an event that ends the session is the last, and so is the one in which the machine
    faults or a picture is too large; the latter is the result of the session and, where there is ample
    memory, takes a scale above 256. -/
theorem run_presents (h : Timely c limits d source start frames key program) :
    let report := run c d source start frames limits
    let m := Machine.ofProgram key program
    let given := batches (DeadlineClock.starting c.instructionPeriod start) (script start frames)
    let ticks :=
      (batches (DeadlineClock.starting c.renderPeriod start 1) (script start frames)).map Batch.due
    ∃ pictures : List (Option Image), report.shots = numbered 0 pictures ∧ pictures ≠ [] ∧
      ∀ k picture, pictures[k]? = some picture → ∃ b, given[k]? = some b ∧
        let now := (m.follow Devices.idle ((given.take (k + 1)).flatMap Batch.actions)).toAttempt
        ((∃ image, picture = some image) ↔
          now.trap = none ∧ Due ticks k ∧ Image.oversize? limits 64 32 c.scale = none) ∧
        (∀ image, picture = some image →
          Depicts now.devices.screen c.scale.toNat c.scheme image) ∧
        (k + 1 = pictures.length ↔ b.quits = true ∨ now.trap ≠ none ∨
          Due ticks k ∧ Image.oversize? limits 64 32 c.scale ≠ none) ∧
        (now.trap = none → Due ticks k → ∀ e, Image.oversize? limits 64 32 c.scale = some e →
          (limits.Ample → 256 < c.scale) ∧ report.result = .error (.picture e)) := by
  intro report m given ticks
  obtain ⟨result, -⟩ := run_eq h.seed h.read h.window start frames
  have answers : ∀ e, ((opening c key program start).play c limits frames).2 ≠ .failed (.clock e) := by
    intro e failed
    refine h.clock e ?_
    rw [result, failed]
    rfl
  obtain ⟨rate, whole⟩ : ∃ rate, Double.toInt c.instructionRate = .ok rate := by
    obtain ⟨negative, mantissa, exponent, value⟩ := h.rate
    exact ⟨_, by rw [Double.toInt, value]⟩
  obtain ⟨pictures, shots, shown⟩ := play_displays whole frames (opening c key program start)
    (State.wellFormed_ofProgram key program) answers
  refine ⟨pictures, (shots_run h.seed h.read h.window start frames).trans shots, shown.nonempty, ?_⟩
  intro k picture found
  obtain ⟨b, batch, presents, final⟩ := shown.each k picture found
  refine ⟨b, batch, presents.presented, presents.depicts, final, ?_⟩
  intro done due e size
  constructor
  · intro ample
    by_contra small
    rw [oversize?_ofScale ample c.scale_pos (Int.not_lt.mp small)] at size
    cases size
  · show (run c d source start frames limits).result = _
    rw [result, presents.large done due e size]
    rfl

/-- A state that draws the glyph of 0 in the corner. -/
theorem perform_glyph {s : State} {program : Bytes} (corner : s.register 0 = 0) (index : s.index = 0)
    (memory : s.memory = Memory.fresh.load program) (w : Word) :
    ∃ t, s.perform Devices.idle w (.draw 0 0 5) =
      (.ok t, ⟨(Screen.blank.draw 0 0 [0xF0, 0x90, 0x90, 0x90, 0xF0]).1, Keypad.idle⟩) := by
  have glyph : (Memory.fresh.load program).readBlock (5 * 0 : Nat) 5 =
      [0xF0, 0x90, 0x90, 0x90, 0xF0] := Machine.readBlock_glyph program 0 (by decide)
  have start : ((5 * 0 : Nat) : Int) = 0 := rfl
  have zero : ((0 : UInt8).toNat : Int) = 0 := rfl
  have five : (5 : Nibble).val = 5 := rfl
  rw [start] at glyph
  refine ⟨(s.draw Devices.idle.screen 0 0 5).1, ?_⟩
  simp only [State.perform, State.draw, corner, zero, index, memory, five, glyph]
  rfl

/-- A program that begins by drawing it. -/
theorem cycle_of_glyph (key : RandomKey) (program : Bytes)
    (first : program.getD 0 0 = 0xD0 ∧ program.getD 1 0 = 0x05) :
    ∃ m p, (Machine.ofProgram key program).cycle Devices.idle = ⟨m, ⟨p, Keypad.idle⟩, none⟩ ∧
      ∀ x y, p.lit x y = Screen.spriteBit [0xF0, 0x90, 0x90, 0x90, 0xF0] x.val y.val := by
  have known : Instruction.decode? (Machine.ofProgram key program).state.nextWord =
      some (.draw 0 0 5) := by
    rw [Machine.nextWord_ofProgram, first.1, first.2]
    rfl
  obtain ⟨t, run⟩ := perform_glyph (s := (Machine.ofProgram key program).state.fetch.2)
    ((Machine.pristine_ofProgram key program).register 0) rfl rfl _
  refine ⟨_, _, Machine.cycle_of_perform known rfl run, ?_⟩
  intro x y
  rw [Screen.draw_eq_blit _ _ _ (List.cons_ne_nil _ _) (by decide), Screen.lit_blit, Screen.lit_blank,
    Bool.false_xor]
  have := x.isLt
  have := y.isLt
  congr 1 <;> omega

/-- Such a program at eight points to a pixel: the point 32 down is in the last row of the glyph and lit,
    the point 32 to the right is beside it and dark. -/
theorem run_presents_a_glyph :
    let c : Accepted :=
      { instructionRate := 500, renderRate := 1000, scale := 8, scheme := .classic, seed := 0,
        threshold := .info, scale_pos := by decide }
    let program : Bytes := #[0xD0, 0x05, 0x12, 0x00]
    let frames : List Frame := [⟨0.002, [.quit]⟩]
    Timely c .usual {} (.bytes program) 0 frames RandomKey.zero program ∧
      ∃ image, (run c {} (.bytes program) 0 frames).shots = [⟨0, image⟩] ∧
        (image.surface[0]?.bind fun column => column[32]?) = some Scheme.classic.lit ∧
        (image.surface[32]?.bind fun column => column[0]?) = some Scheme.classic.dark := by
  intro c program frames
  let b : Batch := ⟨[.quit], 1⟩
  obtain ⟨m, p, cycle, lit⟩ := cycle_of_glyph RandomKey.zero program ⟨rfl, rfl⟩
  have bare : (Machine.ofProgram RandomKey.zero program).follow Devices.idle b.actions =
      ⟨⟨m, ⟨p, Keypad.idle⟩, none⟩, 1⟩ := Machine.follow_cons_of_done (a := .cycle) cycle []
  -- both clocks have a deadline in the one frame
  obtain ⟨next, due⟩ : ∃ next,
      (DeadlineClock.starting (1 / 500 : Float) 0).poll 0.002 = .ok (1, next) := ⟨_, by rfl⟩
  obtain ⟨render, tick⟩ : ∃ render,
      (DeadlineClock.starting (1 / 1000 : Float) 0 1).poll 0.002 = .ok (1, render) := ⟨_, by rfl⟩
  have fits : Image.oversize? .usual 64 32 c.scale = none := by decide +kernel
  have seed : RandomKey.ofSeed? c.seed = some RandomKey.zero := rfl
  have read : (Source.bytes program).read {} = .ok program := rfl
  have window : (Window.ofScale c.scale).failure? .usual = none := by decide
  have whole : Double.toInt 500 = .ok 500 := by rfl
  have closed : (frame c .usual (opening c RandomKey.zero program 0) ⟨0.002, [.quit]⟩).2 = .closed := by
    obtain ⟨u, entered, framed⟩ := frame_entered (c := c) (f := ⟨0.002, [.quit]⟩)
      (State.wellFormed_ofProgram RandomKey.zero program) (s := opening c RandomKey.zero program 0) due
    have done : ((opening c RandomKey.zero program 0).machine.follow
        (opening c RandomKey.zero program 0).devices b.actions).trap = none :=
      congrArg (fun r : Outcome => r.trap) bare
    rw [framed, if_pos done, present_due whole (entered.polled.trans tick) (by decide) fits]
    rfl
  have timely : Timely c .usual {} (.bytes program) 0 frames RandomKey.zero program := by
    refine ⟨seed, read, window, ⟨false, 0x1F400000000000, -44, by decide⟩, ?_⟩
    rw [(run_of_ended seed read window [] (by rw [closed]; rintro ⟨⟩)).2, closed]
    rintro e ⟨⟩
  refine ⟨timely, ?_⟩
  obtain ⟨pictures, shots, nonempty, each⟩ := run_presents timely
  rcases pictures with _ | ⟨picture, rest⟩
  · exact absurd rfl nonempty
  · have given : batches (DeadlineClock.starting c.instructionPeriod 0) (script 0 frames) =
        b :: batches next [⟨0.002, [.quit]⟩] := batches_cons (f := ⟨0.002, [.quit]⟩) due _
    have ticked : Due ((batches (DeadlineClock.starting c.renderPeriod 0 1) (script 0 frames)).map
        Batch.due) 0 := (due_zero (f := ⟨0.002, [.quit]⟩) tick _).mpr (by decide)
    obtain ⟨b', found, presented, depicts, last, -⟩ := each 0 picture rfl
    rw [given] at found presented depicts last
    obtain rfl : b = b' := Option.some.inj found
    rw [List.take_succ_cons, List.take_zero, List.flatMap_singleton, bare] at presented depicts
    obtain ⟨image, rfl⟩ := presented.mpr ⟨rfl, ticked, fits⟩
    have alone : rest = [] :=
      List.eq_nil_of_length_eq_zero (Nat.succ.inj (last.mpr (Or.inl rfl))).symm
    have side : c.scale.toNat = 8 := rfl
    have point := (depicts image rfl).point
    rw [side] at point
    refine ⟨image, ?_, ?_, ?_⟩
    · rw [shots, alone]
      rfl
    · rw [point 0 4 0 32 (by decide) (by decide), lit]
      rfl
    · rw [point 4 0 32 0 (by decide) (by decide), lit]
      rfl

/-- A picture that is due need not be presented.  At this scale the sides of the window wrap round 32 bits
    and leave one that can be opened, and no cycle is carried out that could fault; but there is not so
    much memory as the picture takes, and the session ends without it. -/
theorem run_presents_nothing_beyond_memory :
    let c : Accepted :=
      { instructionRate := 500, renderRate := 1000, scale := 1099511627777, scheme := .classic,
        seed := 0, threshold := .info, scale_pos := by decide }
    let program : Bytes := #[0x12, 0x00]
    let frames : List Frame := [⟨0.0012, []⟩]
    let given := batches (DeadlineClock.starting c.instructionPeriod 0) (script 0 frames)
    Settings.check { renderRate := 1000, scale := 1099511627777 } = .ok c ∧
      Timely c .usual {} (.bytes program) 0 frames RandomKey.zero program ∧
      Due ((batches (DeadlineClock.starting c.renderPeriod 0 1) (script 0 frames)).map Batch.due) 0 ∧
      ((Machine.ofProgram RandomKey.zero program).follow Devices.idle
        ((given.take 1).flatMap Batch.actions)).trap = none ∧
      (run c {} (.bytes program) 0 frames).shots = [] ∧
      (run c {} (.bytes program) 0 frames).result = .error (.picture .memory) := by
  intro c program frames given
  have window : (Window.ofScale c.scale).failure? .usual = none := by decide
  have seed : RandomKey.ofSeed? c.seed = some RandomKey.zero := rfl
  have size : Image.oversize? .usual 64 32 c.scale = some .memory := by decide +kernel
  have idle : (DeadlineClock.starting (1 / 500 : Float) 0).poll 0.0012 =
      .ok (0, DeadlineClock.starting (1 / 500 : Float) 0) := by rfl
  obtain ⟨render, tick⟩ : ∃ render,
      (DeadlineClock.starting (1 / 1000 : Float) 0 1).poll 0.0012 = .ok (1, render) := ⟨_, by rfl⟩
  have large : (frame c .usual (opening c RandomKey.zero program 0) ⟨0.0012, []⟩).2 =
        .failed (.picture .memory) ∧
      (frame c .usual (opening c RandomKey.zero program 0) ⟨0.0012, []⟩).1.shots = [] := by
    obtain ⟨u, entered, framed⟩ := frame_entered (c := c) (f := ⟨0.0012, []⟩)
      (State.wellFormed_ofProgram RandomKey.zero program) (s := opening c RandomKey.zero program 0) idle
    have polled : u.renders.poll u.now = .ok (1, render) := entered.polled.trans tick
    have done : ((opening c RandomKey.zero program 0).machine.follow
        (opening c RandomKey.zero program 0).devices (Batch.actions ⟨[], 0⟩)).trap = none := rfl
    rw [framed, if_pos done, present_large polled (by decide) size]
    exact ⟨rfl, entered.shots⟩
  have ended : (frame c .usual (opening c RandomKey.zero program 0) ⟨0.0012, []⟩).2 ≠ .running := by
    rw [large.1]
    rintro ⟨⟩
  have read : (Source.bytes program).read {} = .ok program := rfl
  obtain ⟨shots, result⟩ := run_of_ended seed read window [] ended
  rw [large.2] at shots
  rw [large.1] at result
  have timely : Timely c .usual {} (.bytes program) 0 frames RandomKey.zero program := by
    refine ⟨seed, read, window, ⟨false, 0x1F400000000000, -44, by decide⟩, ?_⟩
    rw [result]
    rintro e ⟨⟩
  refine ⟨rfl, timely, (due_zero (f := ⟨0.0012, []⟩) tick _).mpr (by decide), ?_, shots, result⟩
  have first : given = ⟨[], 0⟩ :: batches (DeadlineClock.starting (1 / 500 : Float) 0)
      [⟨0.0012, [.quit]⟩] := batches_cons (f := ⟨0.0012, []⟩) idle _
  rw [first]
  rfl

end Session

end Chip8
