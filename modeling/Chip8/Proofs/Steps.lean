/-
  The words that a history carries out.

  Of the operations in a history, those that carry out a word are its STEPS, each kept with its word
  and with the states before and after it; operations that fail are none, and starting a program
  makes the count begin anew.  Statements about whole histories that speak of "the words so far", of
  how many there were and of the last one of a kind, are statements about `Machine.steps`.

  Histories are gone through from their END: `after_snoc` and `steps_snoc` say what one more operation
  adds to a machine and to its steps.
-/
import Chip8.Proofs.Footprint
import Chip8.Proofs.History

namespace Chip8

/-- A word that was carried out, with the states before and after it. -/
structure Step where
  word : Word
  before : State
  after : State

namespace Operation

/-- The step that an operation is, if it carries out a word. -/
def step? (m : Machine) : Operation → Option Step
  | .cycle d =>
    match m.cycle d with
    | ⟨m', _, none⟩ => some ⟨m.state.nextWord, m.state, m'.state⟩
    | ⟨_, _, some _⟩ => none
  | .execute d word =>
    match m.execute d word with
    | ⟨m', _, none⟩ => some ⟨Word.ofInt word, m.state, m'.state⟩
    | ⟨_, _, some _⟩ => none
  | .load _ | .overwrite _ | .fetch | .tick => none

/-- The steps since the last program was started, with one operation more. -/
def extend (m : Machine) (steps : List Step) : Operation → List Step
  | .load _ => []
  | o => steps ++ (o.step? m).toList

end Operation

namespace Machine

/-- The steps of a history, from the last program on that is started in it. -/
def steps (m : Machine) (history : List Operation) : List Step :=
  (history.foldl (fun (r : Machine × List Step) o => (o.apply r.1, o.extend r.1 r.2)) (m, [])).2

variable {m : Machine} {o : Operation} {e : Step}

theorem after_snoc (m : Machine) (history : List Operation) (o : Operation) :
    m.after (history ++ [o]) = o.apply (m.after history) := by
  rw [after, List.foldl_append]
  rfl

theorem steps_snoc (m : Machine) (history : List Operation) (o : Operation) :
    m.steps (history ++ [o]) = o.extend (m.after history) (m.steps history) := by
  have machine : ∀ (history : List Operation) (m : Machine) (es : List Step),
      (history.foldl (fun (r : Machine × List Step) o => (o.apply r.1, o.extend r.1 r.2))
        (m, es)).1 = m.after history := by
    intro history
    induction history with
    | nil => intro m es; rfl
    | cons o rest ih => intro m es; exact ih (o.apply m) (o.extend m es)
  rw [steps, List.foldl_append]
  show o.extend _ _ = _
  rw [machine]
  rfl

/-- Whatever does not start a program adds the step that it is. -/
theorem extend_eq (start : ∀ program, o ≠ .load program) (m : Machine) (es : List Step) :
    o.extend m es = es ++ (o.step? m).toList := by
  cases o with
  | load program => exact absurd rfl (start program)
  | _ => rfl

/-- **A step carries out an instruction** on the state before it, which a cycle has moved on to the next
    word; a cycle ticks afterwards. -/
theorem step_of_step? (h : o.step? m = some e) :
    e.before = m.state ∧ e.after = (o.apply m).state ∧
      ∃ (i : Instruction) (counter : Int) (d d' : Devices) (t : State),
        Instruction.decode? e.word = some i ∧
        { m.state with counter := counter }.perform d e.word i = (.ok t, d') ∧
        (o = .cycle d ∧ e.after = t.tick ∨ (∃ word, o = .execute d word) ∧ e.after = t) := by
  cases o with
  | cycle d =>
    simp only [Operation.step?] at h
    split at h
    · rename_i m' d' done
      cases h
      obtain ⟨run, -, -⟩ := cycle_eq_done done
      obtain ⟨t, run, ticked⟩ := State.cycle_eq_ok run
      obtain ⟨i, known, run⟩ := State.execute_eq_ok run
      refine ⟨rfl, ?_, i, _, d, d', t, known, run, Or.inl ⟨rfl, ticked⟩⟩
      show m'.state = (m.cycle d).machine.state
      rw [done]
    · cases h
  | execute d word =>
    simp only [Operation.step?] at h
    split at h
    · rename_i m' d' done
      cases h
      obtain ⟨run, -⟩ := execute_eq_done done
      obtain ⟨i, known, run⟩ := State.execute_eq_ok run
      refine ⟨rfl, ?_, i, _, d, d', _, known, run, Or.inr ⟨⟨word, rfl⟩, rfl⟩⟩
      show m'.state = (m.execute d word).machine.state
      rw [done]
    · cases h
  | _ => cases h

/-- A cycle that is a step is counted. -/
theorem cycles_of_step {d : Devices} (h : (Operation.cycle d).step? m = some e) :
    ((Operation.cycle d).apply m).cycles = m.cycles + 1 := by
  simp only [Operation.step?] at h
  split at h
  · rename_i m' d' done
    show (m.cycle d).machine.cycles = m.cycles + 1
    rw [done]
    exact (cycle_eq_done done).2.2
  · cases h

/-- A cycle that is no step changes nothing. -/
theorem cycle_of_no_step {d : Devices} (h : (Operation.cycle d).step? m = none) :
    (Operation.cycle d).apply m = m := by
  simp only [Operation.step?] at h
  split at h
  · cases h
  · rename_i m' d' trap stopped
    show (m.cycle d).machine = m
    rw [stopped]
    exact cycle_eq_stopped stopped

/-- A word that is no step changes nothing. -/
theorem execute_of_no_step {d : Devices} {word : Int}
    (h : (Operation.execute d word).step? m = none) : (Operation.execute d word).apply m = m := by
  simp only [Operation.step?] at h
  split at h
  · cases h
  · rename_i m' d' trap stopped
    show (m.execute d word).machine = m
    rw [stopped]
    exact execute_eq_stopped stopped

/-- What holds of every step and the number of steps before it, with one step more. -/
theorem forall_steps_snoc {p : Nat → Step → Prop} {steps : List Step}
    (earlier : ∀ j, ∀ h : j < steps.length, p j steps[j]) (last : p steps.length e) :
    ∀ j, ∀ h : j < (steps ++ [e]).length, p j (steps ++ [e])[j] := by
  intro j h
  rcases Nat.lt_or_ge j steps.length with before | new
  · rw [List.getElem_append_left before]
    exact earlier j before
  · have new : j = steps.length := by
      rw [List.length_append, List.length_singleton] at h; omega
    subst new
    simpa using last

/-! ## Cycles on end -/

/-- One cycle more is one step more, which is counted, or nothing at all. -/
theorem cycle_snoc (m : Machine) (ds : List Devices) (d : Devices) :
    (∃ e, (Operation.cycle d).step? (m.after (ds.map .cycle)) = some e ∧
      (m.after ((ds ++ [d]).map .cycle)).state = e.after ∧
      (m.after ((ds ++ [d]).map .cycle)).cycles = (m.after (ds.map .cycle)).cycles + 1 ∧
      m.steps ((ds ++ [d]).map .cycle) = m.steps (ds.map .cycle) ++ [e]) ∨
    m.after ((ds ++ [d]).map .cycle) = m.after (ds.map .cycle) ∧
      m.steps ((ds ++ [d]).map .cycle) = m.steps (ds.map .cycle) := by
  have start : ∀ program, Operation.cycle d ≠ .load program := by
    intro program same
    cases same
  rw [List.map_append, List.map_singleton, after_snoc, steps_snoc, extend_eq start]
  cases step : (Operation.cycle d).step? (m.after (ds.map .cycle)) with
  | some e =>
    obtain ⟨-, after, -⟩ := step_of_step? step
    exact Or.inl ⟨e, rfl, after.symm, cycles_of_step step, rfl⟩
  | none => exact Or.inr ⟨cycle_of_no_step step, List.append_nil _⟩

end Machine

end Chip8
