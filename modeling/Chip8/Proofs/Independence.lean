/-
  What the devices can tell a machine.

  Only three kinds of words look at the keypad, `EX9E`, `EXA1` and `FX0A`, and only one looks at the
  screen, `DXYN`.  As long as a run carries out none of them, it does not matter which keys are held, or
  what the screen showed at first: the words, the states and the faults are those of any other run from
  the same state.

  The argument has three layers.  An instruction that does not look at a device does the same with any
  other (`perform_withKeypad`, `perform_withScreen`, by the instructions).  A round, which is a cycle and
  what can be seen of it, has the same said of its word (`round_of_silent`, `round_of_still`).  A run goes
  from round to round: two runs that were equal so far are in the same state, so that their next round
  has the same word.  With different screens there is one more thing to keep, that screens which have
  once become equal stay so; `00E0` makes them equal.
-/
import Chip8.Proofs.Footprint
import Chip8.Proofs.Requests

namespace Chip8

/-! ## Instructions that look at a device -/

namespace Instruction

/-- Whether an instruction looks at the keypad. -/
def asks : Instruction → Bool
  | .skip (.keyHeld _) | .skip (.keyFree _) | .awaitKey _ => true
  | _ => false

/-- Whether an instruction looks at the screen. -/
def draws : Instruction → Bool
  | .draw .. => true
  | _ => false

end Instruction

namespace Word

/-- The numbers of the words that look at the keypad: `EX9E`, `EXA1` and `FX0A`. -/
def AsksKeys (r : Nat) : Prop := r / 0x1000 = 0xE ∧ (r % 0x100 = 0x9E ∨ r % 0x100 = 0xA1) ∨ Misc 0x0A r

/-- The numbers of the words that look at the screen: `DXYN`. -/
def Draws (r : Nat) : Prop := r / 0x1000 = 0xD

instance (r : Nat) : Decidable (AsksKeys r) :=
  inferInstanceAs (Decidable (r / 0x1000 = 0xE ∧ (r % 0x100 = 0x9E ∨ r % 0x100 = 0xA1) ∨ Misc 0x0A r))

instance (r : Nat) : Decidable (Draws r) := inferInstanceAs (Decidable (r / 0x1000 = 0xD))

variable {w : Word} {i : Instruction}

theorem asks_eq_false (known : Instruction.decode? w = some i) (silent : ¬ AsksKeys w.toNat) :
    i.asks = false := by
  have number := Instruction.toNat_of_decode? known
  rw [← Bool.not_eq_true]
  intro asks
  apply silent
  cases i with
  | skip c =>
    cases c with
    | keyHeld x | keyFree x =>
      have := x.isLt
      simp only [Instruction.number, Condition.number] at number
      exact Or.inl (by omega)
    | _ => cases asks
  | awaitKey x => exact Or.inr (misc_of_number 0x0A x number (by decide)).1
  | _ => cases asks

theorem draws_eq_false (known : Instruction.decode? w = some i) (still : ¬ Draws w.toNat) :
    i.draws = false := by
  have number := Instruction.toNat_of_decode? known
  rw [← Bool.not_eq_true]
  intro draws
  apply still
  cases i with
  | draw x y n =>
    have := x.isLt; have := y.isLt; have := n.isLt
    simp only [Instruction.number] at number
    show w.toNat / 0x1000 = 0xD
    omega
  | _ => cases draws

/-- A word clears the screen if and only if it is `00E0`. -/
theorem eq_clear_iff (known : Instruction.decode? w = some i) : i = .clear ↔ w = 0x00E0 := by
  constructor
  · rintro rfl
    exact eq_iff_toNat.mpr (Instruction.toNat_of_decode? known)
  · rintro rfl
    exact (Option.some.inj known).symm

end Word

namespace State

variable {s : State} {w : Word} {i : Instruction}

theorem perform_withKeypad (silent : i.asks = false) (p : Screen) (k l : Keypad) :
    s.perform ⟨p, l⟩ w i = ((s.perform ⟨p, k⟩ w i).1, ⟨(s.perform ⟨p, k⟩ w i).2.screen, l⟩) := by
  cases i with
  | ret =>
    rw [perform_ret, perform_ret]
    rcases s.stack.pop with _ | _ <;> rfl
  | call a =>
    rw [perform_call, perform_call]
    rcases s.stack.push s.counter with _ | _ <;> rfl
  | skip c =>
    rw [perform_skip, perform_skip]
    cases c with
    | keyHeld x | keyFree x => cases silent
    | _ => rfl
  | awaitKey x => cases silent
  | _ => rfl

/-- An instruction that does not look at the screen makes it dark or leaves it alone. -/
theorem perform_withScreen (still : i.draws = false) (p q : Screen) (k : Keypad) :
    s.perform ⟨q, k⟩ w i =
      ((s.perform ⟨p, k⟩ w i).1, ⟨if i = .clear then Screen.blank else q, k⟩) := by
  cases i with
  | ret =>
    rw [perform_ret, perform_ret]
    rcases s.stack.pop with _ | _ <;> rfl
  | call a =>
    rw [perform_call, perform_call]
    rcases s.stack.push s.counter with _ | _ <;> rfl
  | skip c =>
    rw [perform_skip, perform_skip]
    rfl
  | draw x y n => cases still
  | _ => rfl

theorem execute_withKeypad (silent : ¬ Word.AsksKeys w.toNat) (p : Screen) (k l : Keypad) :
    s.execute ⟨p, l⟩ w = ((s.execute ⟨p, k⟩ w).1, ⟨(s.execute ⟨p, k⟩ w).2.screen, l⟩) := by
  unfold execute
  split
  · rfl
  · rename_i i known
    split
    · exact perform_withKeypad (Word.asks_eq_false known silent) p k l
    · rfl

theorem execute_withScreen (still : ¬ Word.Draws w.toNat) (p q : Screen) (k : Keypad) :
    s.execute ⟨q, k⟩ w =
      ((s.execute ⟨p, k⟩ w).1, ⟨if w = 0x00E0 then Screen.blank else q, k⟩) := by
  have other : Instruction.decode? w ≠ some .clear → w ≠ 0x00E0 := by
    rintro other rfl
    exact other rfl
  unfold execute
  split
  · rename_i unknown
    rw [if_neg (other (by rw [unknown]; intro h; cases h))]
  · rename_i i known
    split
    · rw [perform_withScreen (Word.draws_eq_false known still) p q k]
      simp only [Word.eq_clear_iff known]
    · rename_i range
      have : i ≠ .clear := by
        rintro rfl
        exact range rfl
      rw [if_neg (mt (Word.eq_clear_iff known).mpr this)]

theorem cycle_withKeypad (silent : ¬ Word.AsksKeys s.nextWord.toNat) (p : Screen) (k l : Keypad) :
    s.cycle ⟨p, l⟩ = ((s.cycle ⟨p, k⟩).1, ⟨(s.cycle ⟨p, k⟩).2.screen, l⟩) := by
  rw [cycle_eq, cycle_eq, execute_withKeypad silent p k l]
  rcases s.fetch.2.execute ⟨p, k⟩ s.nextWord with ⟨_ | _, _⟩ <;> rfl

theorem cycle_withScreen (still : ¬ Word.Draws s.nextWord.toNat) (p q : Screen) (k : Keypad) :
    s.cycle ⟨q, k⟩ =
      ((s.cycle ⟨p, k⟩).1, ⟨if s.nextWord = 0x00E0 then Screen.blank else q, k⟩) := by
  rw [cycle_eq, cycle_eq, execute_withScreen still p q k]
  rcases s.fetch.2.execute ⟨p, k⟩ s.nextWord with ⟨_ | _, _⟩ <;> rfl

end State

/-! ## Rounds -/

/-- A cycle as it is seen from outside: the word that it fetched, and the state, the trap and the screen
    that it left. -/
structure Round where
  word : Word
  state : State
  trap : Option Trap
  screen : Screen
deriving DecidableEq

/-- A round without its screen. -/
def Round.inner (e : Round) : Word × State × Option Trap := (e.word, e.state, e.trap)

namespace Machine

/-- The next cycle, seen from outside. -/
def round (m : Machine) (d : Devices) : Round :=
  let a := m.cycle d
  ⟨m.state.nextWord, a.machine.state, a.trap, a.devices.screen⟩

/-- One cycle after the other from a screen on, each with its own keypad. -/
def rounds (m : Machine) (p : Screen) : List Keypad → List Round
  | [] => []
  | k :: rest =>
    let a := m.cycle ⟨p, k⟩
    m.round ⟨p, k⟩ :: a.machine.rounds a.devices.screen rest

variable {m m' : Machine}

/-- A round goes by the state alone, whatever the machine has counted or remembers. -/
theorem round_eq (m : Machine) (d : Devices) :
    m.round d =
      match m.state.cycle d with
      | (.ok after, d) => ⟨m.state.nextWord, after, none, d.screen⟩
      | (.error t, d) => ⟨m.state.nextWord, m.state, some t, d.screen⟩ := by
  unfold round cycle
  rcases m.state.cycle d with ⟨_ | _, _⟩ <;> rfl

theorem round_of_silent (same : m'.state = m.state) (silent : ¬ Word.AsksKeys m.state.nextWord.toNat)
    (p : Screen) (k l : Keypad) : m'.round ⟨p, l⟩ = m.round ⟨p, k⟩ := by
  rw [round_eq, round_eq, same, State.cycle_withKeypad silent p k l]
  rcases m.state.cycle ⟨p, k⟩ with ⟨_ | _, _⟩ <;> rfl

theorem round_of_still (same : m'.state = m.state) (still : ¬ Word.Draws m.state.nextWord.toNat)
    (p q : Screen) (k : Keypad) :
    m'.round ⟨q, k⟩ = { m.round ⟨p, k⟩ with
      screen := if m.state.nextWord = 0x00E0 then Screen.blank else q } := by
  rw [round_eq, round_eq, same, State.cycle_withScreen still p q k]
  rcases m.state.cycle ⟨p, k⟩ with ⟨_ | _, _⟩ <;> rfl

/-! ## Runs -/

/-- Runs with different keypads agree as long as no word looks at the keypad. -/
theorem rounds_of_silent : ∀ (ks ks' : List Keypad) (m m' : Machine) (p : Screen) (j : Nat),
    ks'.length = ks.length → m'.state = m.state →
    (∀ e ∈ (m.rounds p ks).take (j + 1), ¬ Word.AsksKeys e.word.toNat) →
    (m'.rounds p ks')[j]? = (m.rounds p ks)[j]? := by
  intro ks
  induction ks with
  | nil =>
    intro ks' m m' p j length _ _
    rw [List.eq_nil_of_length_eq_zero length]
    rfl
  | cons k rest ih =>
    intro ks' m m' p j length same silent
    rcases ks' with _ | ⟨l, rest'⟩
    · cases length
    · have head : m'.round ⟨p, l⟩ = m.round ⟨p, k⟩ :=
        round_of_silent same (silent _ List.mem_cons_self) p k l
      rcases j with _ | j
      · exact congrArg some head
      · -- the next rounds start from one state and one screen
        have state : (m'.cycle ⟨p, l⟩).machine.state = (m.cycle ⟨p, k⟩).machine.state :=
          congrArg Round.state head
        have screen : (m'.cycle ⟨p, l⟩).devices.screen = (m.cycle ⟨p, k⟩).devices.screen :=
          congrArg Round.screen head
        show ((m'.cycle ⟨p, l⟩).machine.rounds (m'.cycle ⟨p, l⟩).devices.screen rest')[j]? = _
        rw [screen]
        exact ih rest' _ _ _ j (Nat.succ.inj length) state
          fun e later => silent e (List.mem_cons_of_mem _ later)

/-- Runs from different screens agree, the screens aside, as long as no word looks at the screen; and
    screens that were equal at first, or are since a word has cleared them, are equal. -/
theorem rounds_of_still : ∀ (ks : List Keypad) (m m' : Machine) (p q : Screen) (j : Nat),
    m'.state = m.state → (∀ e ∈ (m.rounds p ks).take (j + 1), ¬ Word.Draws e.word.toNat) →
    (m'.rounds q ks)[j]?.map Round.inner = (m.rounds p ks)[j]?.map Round.inner ∧
      ((q = p ∨ ∃ e ∈ (m.rounds p ks).take (j + 1), e.word = 0x00E0) →
        (m'.rounds q ks)[j]? = (m.rounds p ks)[j]?) := by
  intro ks
  induction ks with
  | nil =>
    intro m m' p q j _ _
    exact ⟨rfl, fun _ => rfl⟩
  | cons k rest ih =>
    intro m m' p q j same still
    have calm : ¬ Word.Draws m.state.nextWord.toNat := still _ List.mem_cons_self
    have head := round_of_still same calm p q k
    have own := round_of_still rfl calm p p k
    -- the screens become equal in this round if they were so before, or if it clears them
    have cleared : q = p ∨ m.state.nextWord = 0x00E0 → m'.round ⟨q, k⟩ = m.round ⟨p, k⟩ := by
      rintro (rfl | clears)
      · rw [head, ← own]
      · rw [head, own, if_pos clears, if_pos clears]
    rcases j with _ | j
    · have inner : (m'.round ⟨q, k⟩).inner = (m.round ⟨p, k⟩).inner := by rw [head]; rfl
      refine ⟨congrArg some inner, ?_⟩
      rintro (equal | ⟨e, first, clears⟩)
      · exact congrArg some (cleared (Or.inl equal))
      · obtain rfl : e = m.round ⟨p, k⟩ := List.mem_singleton.mp first
        exact congrArg some (cleared (Or.inr clears))
    · have state : (m'.cycle ⟨q, k⟩).machine.state = (m.cycle ⟨p, k⟩).machine.state :=
        congrArg Round.state head
      obtain ⟨inner, screens⟩ := ih _ _ (m.round ⟨p, k⟩).screen (m'.round ⟨q, k⟩).screen j state
        fun e later => still e (List.mem_cons_of_mem _ later)
      refine ⟨inner, ?_⟩
      rintro (equal | ⟨e, member, clears⟩)
      · exact screens (Or.inl (congrArg Round.screen (cleared (Or.inl equal))))
      · rcases List.mem_cons.mp member with rfl | later
        · exact screens (Or.inl (congrArg Round.screen (cleared (Or.inr clears))))
        · exact screens (Or.inr ⟨e, later, clears⟩)

/-- **A machine knows its devices by four kinds of words.**  Two runs from one state and one screen, with
    any keypads, agree in words, states, traps and screens as long as the first carries out no `EX9E`,
    `EXA1` or `FX0A`.  Two runs from one state with the same keypads, from any screens, agree in words,
    states and traps as long as the first carries out no `DXYN`, and in their screens from the first
    `00E0` on. -/
theorem rounds_independent (m m' : Machine) (same : m'.state = m.state) :
    (∀ (p : Screen) (ks ks' : List Keypad) (j : Nat), ks'.length = ks.length →
      (∀ e ∈ (m.rounds p ks).take (j + 1), ¬ Word.AsksKeys e.word.toNat) →
      (m'.rounds p ks')[j]? = (m.rounds p ks)[j]?) ∧
    ∀ (p q : Screen) (ks : List Keypad) (j : Nat),
      (∀ e ∈ (m.rounds p ks).take (j + 1), ¬ Word.Draws e.word.toNat) →
      (m'.rounds q ks)[j]?.map Round.inner = (m.rounds p ks)[j]?.map Round.inner ∧
        ((∃ e ∈ (m.rounds p ks).take (j + 1), e.word = 0x00E0) →
          (m'.rounds q ks)[j]? = (m.rounds p ks)[j]?) := by
  constructor
  · intro p ks ks' j length silent
    exact rounds_of_silent ks ks' m m' p j length same silent
  · intro p q ks j still
    obtain ⟨inner, screens⟩ := rounds_of_still ks m m' p q j same still
    exact ⟨inner, fun cleared => screens (Or.inr cleared)⟩

/-- A program that clears the screen and then goes back to its start: after two cycles neither other
    keys nor a screen that was lit at first can be told. -/
theorem rounds_independent_of_a_cleared_screen :
    let m := ofProgram RandomKey.zero #[0x00, 0xE0, 0x12, 0x00]
    let free := [Keypad.idle, Keypad.idle]
    let held := [Keypad.idle.set 3 true, Keypad.idle.set 5 true]
    let lit := Screen.ofFn fun _ _ => true
    (m.rounds Screen.blank free).map Round.word = [0x00E0, 0x1200] ∧
      (m.rounds Screen.blank held)[1]? = (m.rounds Screen.blank free)[1]? ∧
      (m.rounds lit free)[1]? = (m.rounds Screen.blank free)[1]? := by
  intro m free held lit
  have first : m.state.nextWord = 0x00E0 := nextWord_ofProgram RandomKey.zero #[0x00, 0xE0, 0x12, 0x00]
  have cycle : m.cycle Devices.idle =
      ⟨{ m with state := m.state.fetch.2.tick, cycles := 1 }, Devices.idle, none⟩ := by
    refine cycle_of_perform (i := .clear) ?_ rfl rfl
    rw [first]
    rfl
  have second : (m.cycle Devices.idle).machine.state.nextWord = 0x1200 := by
    rw [cycle]
    exact nextWord_of_program (s := m.state.fetch.2.tick) (k := 2) rfl (by decide) (by rfl)
  have words : (m.rounds Screen.blank free).map Round.word = [0x00E0, 0x1200] := by
    show [m.state.nextWord, (m.cycle Devices.idle).machine.state.nextWord] = _
    rw [first, second]
  have among : ∀ e ∈ (m.rounds Screen.blank free).take 2, e.word = 0x00E0 ∨ e.word = 0x1200 := by
    intro e member
    have : e.word ∈ (m.rounds Screen.blank free).map Round.word :=
      List.mem_map_of_mem (List.mem_of_mem_take member)
    rw [words] at this
    simpa using this
  obtain ⟨keys, screens⟩ := rounds_independent m m rfl
  refine ⟨words, keys _ free held 1 rfl ?_, (screens _ lit free 1 ?_).2 ⟨_, List.mem_cons_self, first⟩⟩
  · intro e member
    rcases among e member with same | same <;> rw [same] <;> decide
  · intro e member
    rcases among e member with same | same <;> rw [same] <;> decide

end Machine

end Chip8
