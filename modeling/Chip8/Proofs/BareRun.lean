/-
  Runs of a bare machine.

  Clocks, pictures and messages apart, a machine that runs for a user has two things done to it: keys
  are pressed and let go, and cycles are carried out.  `Machine.follow` does a list of such ACTIONS,
  one after the other, and stops where the first of them fails; it counts the cycles that succeed.

  Lists of actions may be cut anywhere (`follow_append_of_done`, `follow_append_of_stopped`), so that
  how they are grouped does not matter.  From a well-formed machine nothing but a fault stops them
  (`fault_of_follow`).
-/
import Chip8.Proofs.WellFormed

namespace Chip8

/-- What is done to a machine and its keypad. -/
inductive Action
  /-- Holds a key of the keypad down. -/
  | press (key : Nibble)
  /-- Lets a key of the keypad go. -/
  | release (key : Nibble)
  /-- Carries out the next word. -/
  | cycle
deriving DecidableEq

/-- What a list of actions leaves behind, and how many of its cycles succeeded. -/
structure Outcome extends Attempt where
  done : Nat

namespace Machine

/-- The keypad put in place, unless there is none. -/
def keyed (m : Machine) (d : Devices) : Except Keypad.NoSuchKey Keypad → Attempt
  | .ok keypad => ⟨m, { d with keypad }, none⟩
  | .error e => ⟨m, d, some (.noSuchKey e)⟩

/-- One action. -/
def act (m : Machine) (d : Devices) : Action → Attempt
  | .press key => m.keyed d (d.keypad.press key.val)
  | .release key => m.keyed d (d.keypad.release key.val)
  | .cycle => m.cycle d

/-- One action after the other, up to the first that fails. -/
def follow (m : Machine) (d : Devices) : List Action → Outcome
  | [] => ⟨⟨m, d, none⟩, 0⟩
  | a :: rest =>
    match m.act d a with
    | ⟨m, d, none⟩ =>
      let r := m.follow d rest
      { r with done := r.done + if a = .cycle then 1 else 0 }
    | stopped => ⟨stopped, 0⟩

variable {m m' : Machine} {d d' : Devices} {a : Action} {as bs : List Action} {t : Trap}

theorem act_press (m : Machine) (d : Devices) (key : Nibble) :
    m.act d (.press key) = ⟨m, { d with keypad := d.keypad.set key true }, none⟩ := by
  rw [act, Keypad.press, Keypad.key_natCast key.isLt]
  rfl

theorem act_release (m : Machine) (d : Devices) (key : Nibble) :
    m.act d (.release key) = ⟨m, { d with keypad := d.keypad.set key false }, none⟩ := by
  rw [act, Keypad.release, Keypad.key_natCast key.isLt]
  rfl

theorem follow_cons_of_done (h : m.act d a = ⟨m', d', none⟩) (rest : List Action) :
    m.follow d (a :: rest) =
      ⟨(m'.follow d' rest).toAttempt,
        (m'.follow d' rest).done + if a = .cycle then 1 else 0⟩ := by
  rw [follow, h]

theorem follow_cons_of_stopped (h : m.act d a = ⟨m', d', some t⟩) (rest : List Action) :
    m.follow d (a :: rest) = ⟨⟨m', d', some t⟩, 0⟩ := by
  rw [follow, h]

/-- Every action is done or stops with a trap. -/
theorem act_cases (m : Machine) (d : Devices) (a : Action) :
    (∃ m' d', m.act d a = ⟨m', d', none⟩) ∨ ∃ m' d' t, m.act d a = ⟨m', d', some t⟩ := by
  rcases m.act d a with ⟨m', d', none | t⟩
  · exact Or.inl ⟨m', d', rfl⟩
  · exact Or.inr ⟨m', d', t, rfl⟩

/-! ## Cutting lists of actions -/

/-- What comes after actions that are done starts from what they leave behind. -/
theorem follow_append_of_done : ∀ {as : List Action} {m : Machine} {d : Devices},
    (m.follow d as).trap = none → ∀ bs : List Action,
      m.follow d (as ++ bs) =
        ⟨((m.follow d as).machine.follow (m.follow d as).devices bs).toAttempt,
          ((m.follow d as).machine.follow (m.follow d as).devices bs).done +
            (m.follow d as).done⟩ := by
  intro as
  induction as with
  | nil => intro m d _ bs; rfl
  | cons a as ih =>
    intro m d done bs
    rcases act_cases m d a with ⟨m', d', step⟩ | ⟨m', d', t, step⟩
    · rw [follow_cons_of_done step] at done
      rw [List.cons_append, follow_cons_of_done step, follow_cons_of_done step, ih done bs]
      simp only [Nat.add_assoc]
    · -- then the whole list would be stopped
      rw [follow_cons_of_stopped step] at done
      cases done

theorem trap_append_of_done (done : (m.follow d as).trap = none) (bs : List Action) :
    (m.follow d (as ++ bs)).trap =
      ((m.follow d as).machine.follow (m.follow d as).devices bs).trap := by
  rw [follow_append_of_done done]

/-- Actions that are stopped are stopped whatever comes after them. -/
theorem follow_append_of_stopped : ∀ {as : List Action} {m : Machine} {d : Devices},
    (m.follow d as).trap ≠ none → ∀ bs : List Action, m.follow d (as ++ bs) = m.follow d as := by
  intro as
  induction as with
  | nil => intro m d stopped; exact absurd rfl stopped
  | cons a as ih =>
    intro m d stopped bs
    rcases act_cases m d a with ⟨m', d', step⟩ | ⟨m', d', t, step⟩
    · rw [follow_cons_of_done step] at stopped
      rw [List.cons_append, follow_cons_of_done step, follow_cons_of_done step, ih stopped bs]
    · rw [List.cons_append, follow_cons_of_stopped step, follow_cons_of_stopped step]

/-! ## What one action and a whole run preserve -/

/-- The machine counts its successful cycles itself. -/
theorem cycles_act (h : m.act d a = ⟨m', d', none⟩) :
    m'.cycles = m.cycles + if a = .cycle then 1 else 0 := by
  cases a with
  | press key => rw [act_press] at h; cases h; rfl
  | release key => rw [act_release] at h; cases h; rfl
  | cycle => exact (cycle_eq_done h).2.2

theorem cycles_follow : ∀ (as : List Action) (m : Machine) (d : Devices),
    (m.follow d as).machine.cycles = m.cycles + (m.follow d as).done := by
  intro as
  induction as with
  | nil => intro m d; rfl
  | cons a as ih =>
    intro m d
    rcases act_cases m d a with ⟨m', d', step⟩ | ⟨m', d', t, step⟩
    · rw [follow_cons_of_done step]
      show (m'.follow d' as).machine.cycles = m.cycles + ((m'.follow d' as).done + _)
      rw [ih, cycles_act step]
      omega
    · -- an action that is stopped leaves the machine, and its count, alone
      rw [follow_cons_of_stopped step]
      show m'.cycles = m.cycles + 0
      cases a with
      | press key => rw [act_press] at step; cases step
      | release key => rw [act_release] at step; cases step
      | cycle => rw [cycle_eq_stopped step]; rfl

theorem wellFormed_act (wf : m.state.WellFormed) (h : m.act d a = ⟨m', d', none⟩) :
    m'.state.WellFormed := by
  cases a with
  | press key => rw [act_press] at h; cases h; exact wf
  | release key => rw [act_release] at h; cases h; exact wf
  | cycle => exact wf.cycle (cycle_eq_done h).1

/-- From a well-formed machine, only a fault stops an action. -/
theorem fault_of_act (wf : m.state.WellFormed) (h : m.act d a = ⟨m', d', some t⟩) :
    m'.state.WellFormed ∧ ∃ f, t = .fault f := by
  cases a with
  | press key => rw [act_press] at h; cases h
  | release key => rw [act_release] at h; cases h
  | cycle =>
    have h : m.cycle d = ⟨m', d', some t⟩ := h
    refine ⟨by rw [cycle_eq_stopped h]; exact wf, ?_⟩
    cases fault : m.state.nextWord.fault? m.state.stack with
    | some kind =>
      rw [cycle_of_fault fault] at h
      cases h
      exact ⟨_, rfl⟩
    | none =>
      -- the machine is within bounds, so that a word without a fault is carried out
      have fetched : m.state.nextWord.fault? m.state.fetch.2.stack = none := fault
      obtain ⟨u, d'', run⟩ := State.execute_ok_of_bounds (d := d) wf.fetch.index_range
        wf.fetch.delay_range fetched
      simp only [cycle, State.cycle_eq, run] at h
      cases h

theorem wellFormed_follow : ∀ (as : List Action) {m : Machine} (d : Devices),
    m.state.WellFormed → (m.follow d as).machine.state.WellFormed := by
  intro as
  induction as with
  | nil => intro m d wf; exact wf
  | cons a as ih =>
    intro m d wf
    rcases act_cases m d a with ⟨m', d', step⟩ | ⟨m', d', t, step⟩
    · rw [follow_cons_of_done step]
      exact ih d' (wellFormed_act wf step)
    · rw [follow_cons_of_stopped step]
      exact (fault_of_act wf step).1

/-- **Nothing but a fault stops a run** that begins well-formed. -/
theorem fault_of_follow : ∀ (as : List Action) {m : Machine} (d : Devices) {t : Trap},
    m.state.WellFormed → (m.follow d as).trap = some t → ∃ f, t = .fault f := by
  intro as
  induction as with
  | nil => intro m d t _ h; cases h
  | cons a as ih =>
    intro m d t wf h
    rcases act_cases m d a with ⟨m', d', step⟩ | ⟨m', d', t', step⟩
    · rw [follow_cons_of_done step] at h
      exact ih d' (wellFormed_act wf step) h
    · rw [follow_cons_of_stopped step] at h
      cases h
      exact (fault_of_act wf step).2

end Machine

end Chip8
