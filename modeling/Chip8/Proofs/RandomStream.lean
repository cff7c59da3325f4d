/-
  The random bytes that programs see.

  A random word draws a byte from the key and goes on with the next key; nothing else that can happen to
  a machine touches the key, except that starting a program puts the first key back.  So the key at any
  time is the first key moved on ONCE FOR EVERY RANDOM WORD since the last program was started, and the
  bytes are a stream that depends on the first key alone: the random word number `i` leaves the byte of
  that place in the stream, masked, no matter what lies between the random words, how many words failed,
  or what the screen and the keypad show.

  `key_of_draw` and `key_of_other` are the two cases of a step, `key_of_no_step` is everything else; the
  law follows by going through the history from its end.
-/
import Mathlib.Data.List.Induction
import Mathlib.Logic.Function.Iterate
import Chip8.Proofs.Steps

namespace Chip8

/-- Whether a step is a random word, `CXNN`. -/
def Step.draws (e : Step) : Bool := e.word.toNat / 0x1000 = 0xC

namespace Machine

variable {m : Machine} {o : Operation} {e : Step}

/-! ## One operation -/

/-- A random word draws from the key and moves it on. -/
theorem key_of_draw (h : o.step? m = some e) (draws : e.draws = true) :
    (o.apply m).state.key = m.state.key.next ∧
      e.after.register e.word.x = m.state.key.draw &&& e.word.nn := by
  obtain ⟨-, after, i, counter, d, d', t, known, run, moved⟩ := step_of_step? h
  rw [Instruction.decode?_of_random (of_decide_eq_true draws)] at known
  cases known
  cases run
  rw [← after]
  -- ticking has no part in key and registers
  rcases moved with ⟨-, ticked⟩ | ⟨-, done⟩
  · rw [ticked]
    exact ⟨rfl, State.register_setRegister_self _ _ _⟩
  · rw [done]
    exact ⟨rfl, State.register_setRegister_self _ _ _⟩

/-- Every other word leaves the key alone. -/
theorem key_of_other (h : o.step? m = some e) (other : e.draws = false) :
    (o.apply m).state.key = m.state.key := by
  obtain ⟨-, after, i, counter, d, d', t, known, run, moved⟩ := step_of_step? h
  have kept : Part.key.Same { m.state with counter := counter } d t d' := by
    refine State.perform_same_of_not_writes known run fun writes => ?_
    cases writes with
    | key word => exact of_decide_eq_false other word
  rw [← after]
  rcases moved with ⟨-, ticked⟩ | ⟨-, done⟩
  · rw [ticked]; exact kept
  · rw [done]; exact kept

/-- What carries out no word leaves the key alone, unless it starts a program. -/
theorem key_of_no_step (h : o.step? m = none) (start : ∀ program, o ≠ .load program) :
    (o.apply m).state.key = m.state.key := by
  cases o with
  | load program => exact absurd rfl (start program)
  | overwrite program =>
    show (m.state.load program).key = m.state.key
    unfold State.load
    rfl
  | cycle d => rw [cycle_of_no_step h]
  | execute d word => rw [execute_of_no_step h]
  | fetch => rfl
  | tick => rfl

/-! ## Histories -/

theorem key_after_load (m : Machine) (history : List Operation) (program : Bytes) :
    (m.after (history ++ [.load program])).state.key = m.origin ∧
      m.steps (history ++ [.load program]) = [] := by
  rw [after_snoc, steps_snoc]
  exact ⟨origin_after m history, rfl⟩

/-- The stream that a list of random words has drawn from a key. -/
structure Drawn (key : RandomKey) (draws : List Step) (now : RandomKey) : Prop where
  moved : now = RandomKey.next^[draws.length] key
  byte : ∀ i, ∀ h : i < draws.length,
    draws[i].after.register draws[i].word.x =
      (RandomKey.next^[i] key).draw &&& draws[i].word.nn

theorem Drawn.snoc {key now : RandomKey} {draws : List Step} (drawn : Drawn key draws now)
    (byte : e.after.register e.word.x = now.draw &&& e.word.nn) :
    Drawn key (draws ++ [e]) now.next where
  moved := by
    rw [List.length_append, List.length_singleton, Function.iterate_succ_apply', ← drawn.moved]
  byte := by
    refine forall_steps_snoc (p := fun i e => e.after.register e.word.x =
      (RandomKey.next^[i] key).draw &&& e.word.nn) drawn.byte ?_
    rw [← drawn.moved]
    exact byte

theorem drawn_after (m : Machine) (kept : m.state.key = m.origin) (history : List Operation) :
    Drawn m.origin ((m.steps history).filter Step.draws) (m.after history).state.key := by
  induction history using List.reverseRecOn with
  | nil => exact ⟨kept, fun i h => absurd h (Nat.not_lt_zero i)⟩
  | append_singleton history o ih =>
    rw [after_snoc, steps_snoc]
    by_cases start : ∃ program, o = .load program
    · -- the stream begins anew
      obtain ⟨program, rfl⟩ := start
      exact ⟨origin_after m history, fun i h => absurd h (Nat.not_lt_zero i)⟩
    · have other : ∀ program, o ≠ .load program := fun program same => start ⟨program, same⟩
      rw [extend_eq other, List.filter_append]
      cases step : o.step? (m.after history) with
      | none =>
        rw [key_of_no_step step other]
        simpa using ih
      | some e =>
        cases draws : e.draws with
        | false =>
          rw [key_of_other step draws]
          simpa [draws] using ih
        | true =>
          obtain ⟨moved, byte⟩ := key_of_draw step draws
          rw [moved]
          simpa [draws] using ih.snoc byte

/-- A machine that was made with a key: without a program, with one, or from a state that has the key. -/
inductive MadeWith (key : RandomKey) : Machine → Prop
  | empty : MadeWith key (ofKey key)
  | program (program : Bytes) : MadeWith key (ofProgram key program)
  | state (s : State) (same : s.key = key) : MadeWith key (ofState s)

theorem MadeWith.key_eq {key : RandomKey} (made : MadeWith key m) :
    m.state.key = key ∧ m.origin = key := by
  cases made with
  | empty => exact ⟨rfl, rfl⟩
  | program program => exact ⟨rfl, rfl⟩
  | state s same => exact ⟨same, same⟩

/-- **Random words consume a stream.**  However a machine was made with a key, and after whatever history:
    the key has moved on once for every random word since the last program was started, each of these
    words has left its own place of the stream in its register, and starting a program begins the stream
    anew. -/
theorem random_stream {key : RandomKey} (made : MadeWith key m) (history : List Operation) :
    let draws := (m.steps history).filter Step.draws
    (m.after history).state.key = RandomKey.next^[draws.length] key ∧
      (∀ i, ∀ h : i < draws.length,
        draws[i].after.register draws[i].word.x =
          (RandomKey.next^[i] key).draw &&& draws[i].word.nn) ∧
      ∀ program : Bytes, (m.after (history ++ [.load program])).state.key = key ∧
        m.steps (history ++ [.load program]) = [] := by
  obtain ⟨now, origin⟩ := made.key_eq
  have drawn := drawn_after m (now.trans origin.symm) history
  rw [origin] at drawn
  refine ⟨drawn.moved, drawn.byte, fun program => ?_⟩
  have begun := key_after_load m history program
  rw [origin] at begun
  exact begun

/-- Two random words with a machine-language call between them, which fails. -/
theorem random_stream_across_a_fault :
    let m := ofKey RandomKey.zero
    let history : List Operation :=
      [.execute Devices.idle 0xC0FF, .execute Devices.idle 0x0123, .execute Devices.idle 0xC10F]
    MadeWith RandomKey.zero m ∧ (m.after history).state.key = RandomKey.zero.next.next ∧
      (m.after history).state.register 1 = RandomKey.zero.next.draw &&& 0x0F := by
  intro m history
  have made : MadeWith RandomKey.zero m := .empty
  obtain ⟨moved, byte, -⟩ := random_stream made history
  have count : ((m.steps history).filter Step.draws).length = 2 := by decide +kernel
  rw [count] at moved
  refine ⟨made, moved, ?_⟩
  -- the second of the two draws, and what is left of it at the end
  let second := ((m.steps history).filter Step.draws).get ⟨1, by decide⟩
  have word : second.word = 0xC10F := by decide +kernel
  have kept : (m.after history).state.register 1 = second.after.register 1 := by decide +kernel
  have left : second.after.register second.word.x =
      RandomKey.zero.next.draw &&& second.word.nn := byte 1 (by decide)
  rw [word] at left
  rw [kept]
  exact left

end Machine

end Chip8
