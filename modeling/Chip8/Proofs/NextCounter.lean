/-
  Where a cycle goes next.

  The counter is moved twice in a cycle.  Fetching takes it past the word, modulo 4096; then the instruction
  may put another address there, move it on by one word more, or move it back.  `Word.Leads` says what comes
  of both, by the number of the word and by the state from BEFORE the cycle.

  That most instructions leave the counter where the fetch has put it is a matter of footprints and needs no
  new argument (`counter_of_unwritten`).  What remains are the words that go to an address of their own and
  the skips.  The conditions of skips come in opposite pairs, of which one holds, so that of two opposite
  skips in one state exactly one leaves out the next word.
-/
import Chip8.Proofs.KeyWait
import Chip8.Proofs.WellFormed

namespace Chip8

/-! ## Conditions -/

namespace Condition

/-- The opposite condition on the same operands: `3XNN` and `4XNN`, `5XY0` and `9XY0`, `EX9E` and `EXA1`. -/
def opposite : Condition → Condition
  | .equalsByte x b => .differsByte x b
  | .differsByte x b => .equalsByte x b
  | .equal x y => .differ x y
  | .differ x y => .equal x y
  | .keyHeld x => .keyFree x
  | .keyFree x => .keyHeld x

theorem truth_opposite (s : State) (keys : Keypad) (c : Condition) :
    c.opposite.truth s keys = !c.truth s keys := by
  cases c with
  | equalsByte x b | equal x y | keyHeld x => rfl
  | differsByte x b | differ x y | keyFree x => exact (Bool.not_not _).symm

/-- The counter is no part of a condition. -/
theorem truth_fetch (s : State) (keys : Keypad) (c : Condition) :
    c.truth s.fetch.2 keys = c.truth s keys := by
  cases c <;> rfl

end Condition

/-! ## Words -/

namespace Word

variable {s : State} {keys : Keypad} {w : Word}

/-- Every word that skips has a condition. -/
theorem exists_condition (skips : Skips w.toNat) : ∃ c : Condition, w.toNat = c.number := by
  have fields := w.toNat_eq_fields
  have byte := w.toNat_nn_eq
  have family := w.family_eq
  rcases skips with h | h | ⟨h | h, last⟩ | ⟨h, last | last⟩
  · exact ⟨.equalsByte w.x w.nn, by simp only [Condition.number]; omega⟩
  · exact ⟨.differsByte w.x w.nn, by simp only [Condition.number]; omega⟩
  · exact ⟨.equal w.x w.y, by simp only [Condition.number]; omega⟩
  · exact ⟨.differ w.x w.y, by simp only [Condition.number]; omega⟩
  · exact ⟨.keyHeld w.x, by simp only [Condition.number]; omega⟩
  · exact ⟨.keyFree w.x, by simp only [Condition.number]; omega⟩

/-- A skip whose condition holds. -/
def Leaps (s : State) (keys : Keypad) (w : Word) : Prop :=
  ∃ c : Condition, w.toNat = c.number ∧ c.truth s keys = true

/-- Where the counter is after a word that was fetched from the counter of `s`. -/
structure Leads (s : State) (keys : Keypad) (w : Word) (next : Int) : Prop where
  /-- `1NNN` and `2NNN` go to their address. -/
  target : w.toNat / 0x1000 = 1 ∨ w.toNat / 0x1000 = 2 → next = (w.toNat % 0x1000 : Nat)
  /-- `BNNN` goes to its address plus register 0. -/
  offset : w.toNat / 0x1000 = 0xB →
    next = (w.toNat % 0x1000 + (s.register offsetRegister).toNat : Nat) % 4096
  /-- `00EE` goes to the last address on the call stack. -/
  top : w.toNat = 0x00EE → ∃ a, s.stack.toList.getLast? = some a ∧ next = a.toNat
  /-- `FX0A` stays where it is as long as no key is held. -/
  wait : Misc 0x0A w.toNat → keys.Free → next = s.counter
  /-- A skip whose condition holds leaves out a word. -/
  skip : w.Leaps s keys → next = (s.counter + 4) % 4096
  /-- Everything else goes on to the next word. -/
  onward : w.toNat / 0x1000 ≠ 1 → w.toNat / 0x1000 ≠ 2 → w.toNat / 0x1000 ≠ 0xB →
    w.toNat ≠ 0x00EE → ¬ (Misc 0x0A w.toNat ∧ keys.Free) → ¬ w.Leaps s keys →
    next = (s.counter + 2) % 4096

end Word

/-! ## Cycles -/

namespace State

variable {s t : State} {d d' : Devices} {i : Instruction}

/-- The instruction of the next word, once known, is what a cycle carries out on the fetched state. -/
theorem perform_of_cycle (h : s.cycle d = (.ok t, d'))
    (known : Instruction.decode? s.nextWord = some i) :
    ∃ u, s.fetch.2.perform d s.nextWord i = (.ok u, d') ∧ t.counter = u.counter := by
  obtain ⟨u, run, rfl⟩ := cycle_eq_ok h
  obtain ⟨j, decoded, run⟩ := execute_eq_ok run
  rw [known] at decoded
  cases decoded
  exact ⟨u, run, rfl⟩

theorem counter_fetch (s : State) : s.fetch.2.counter = (s.counter + 2) % 4096 :=
  Int.emod_add_emod s.counter 4096 2

theorem counter_of_target (h : s.cycle d = (.ok t, d'))
    (word : s.nextWord.toNat / 0x1000 = 1 ∨ s.nextWord.toNat / 0x1000 = 2) :
    t.counter = (s.nextWord.toNat % 0x1000 : Nat) := by
  rcases word with word | word
  · obtain ⟨u, run, same⟩ := perform_of_cycle h (Instruction.decode?_of_jump word)
    cases run
    exact same
  · obtain ⟨u, run, same⟩ := perform_of_cycle h (Instruction.decode?_of_call word)
    obtain ⟨k, -, rfl⟩ := perform_call_eq_ok run
    exact same

theorem counter_of_offset (h : s.cycle d = (.ok t, d'))
    (word : s.nextWord.toNat / 0x1000 = 0xB) :
    t.counter =
      (s.nextWord.toNat % 0x1000 + (s.register offsetRegister).toNat : Nat) % 4096 := by
  obtain ⟨u, run, same⟩ := perform_of_cycle h (Instruction.decode?_of_jumpOffset word)
  cases run
  exact same

theorem counter_of_top (h : s.cycle d = (.ok t, d')) (word : s.nextWord.toNat = 0x00EE) :
    ∃ a, s.stack.toList.getLast? = some a ∧ t.counter = a.toNat := by
  have ret : s.nextWord = 0x00EE := Word.eq_iff_toNat.mpr word
  have known : Instruction.decode? s.nextWord = some .ret := by rw [ret]; decide
  obtain ⟨u, run, same⟩ := perform_of_cycle h known
  obtain ⟨a, k, pop, rfl⟩ := perform_ret_eq_ok run
  have list : s.stack.toList = k.toList ++ [a] := CallStack.toList_of_pop pop
  exact ⟨a, by rw [list, List.getLast?_concat], same⟩

/-- Fetching and moving back come out even within the addresses. -/
theorem counter_of_wait (wf : s.WellFormed) (h : s.cycle d = (.ok t, d'))
    (word : Word.Misc 0x0A s.nextWord.toNat) (free : d.keypad.Free) : t.counter = s.counter := by
  obtain ⟨u, run, same⟩ := perform_of_cycle h (Instruction.decode?_of_misc 0x0A word)
  cases run
  have back : t.counter = (s.fetch.2.counter - 2) % 4096 := by
    rw [same, awaitKey_of_free free]
  have range := wf.counter_range
  rw [back, counter_fetch]
  omega

theorem counter_of_skip {c : Condition} (h : s.cycle d = (.ok t, d'))
    (word : s.nextWord.toNat = c.number) :
    t.counter =
      if c.truth s d.keypad then (s.counter + 4) % 4096 else (s.counter + 2) % 4096 := by
  obtain ⟨u, run, same⟩ := perform_of_cycle h (Instruction.decode?_of_skip word)
  rw [perform_skip, Condition.truth_fetch] at run
  cases run
  rw [same]
  cases c.truth s d.keypad with
  | true =>
    show (s.fetch.2.counter + 2) % 4096 = (s.counter + 4) % 4096
    rw [counter_fetch]
    omega
  | false => exact counter_fetch s

theorem counter_of_unwritten (h : s.cycle d = (.ok t, d'))
    (unwritten : ¬ Word.Writes s.fetch.2 d.keypad s.nextWord.toNat .counter) :
    t.counter = (s.counter + 2) % 4096 := by
  obtain ⟨u, run, rfl⟩ := cycle_eq_ok h
  obtain ⟨i, known, run⟩ := execute_eq_ok run
  have same : u.counter = s.fetch.2.counter := perform_same_of_not_writes known run unwritten
  rw [← counter_fetch]
  exact same

/-- The words that write the counter are the ones with an address of their own and the skips. -/
theorem counter_of_onward (h : s.cycle d = (.ok t, d')) (jump : s.nextWord.toNat / 0x1000 ≠ 1)
    (call : s.nextWord.toNat / 0x1000 ≠ 2) (offset : s.nextWord.toNat / 0x1000 ≠ 0xB)
    (ret : s.nextWord.toNat ≠ 0x00EE) (wait : ¬ (Word.Misc 0x0A s.nextWord.toNat ∧ d.keypad.Free))
    (stays : ¬ s.nextWord.Leaps s d.keypad) : t.counter = (s.counter + 2) % 4096 := by
  by_cases skips : Word.Skips s.nextWord.toNat
  · obtain ⟨c, number⟩ := Word.exists_condition skips
    rw [counter_of_skip h number, if_neg fun holds => stays ⟨c, number, holds⟩]
  · refine counter_of_unwritten h fun writes => ?_
    cases writes with
    | counter word =>
      rcases word with word | word | word | word | word
      · exact ret word
      · exact jump word
      · exact call word
      · exact offset word
      · exact skips word
    | waiting word free => exact wait ⟨word, free⟩

theorem leads_of_cycle (wf : s.WellFormed) (h : s.cycle d = (.ok t, d')) :
    s.nextWord.Leads s d.keypad t.counter where
  target := counter_of_target h
  offset := counter_of_offset h
  top := counter_of_top h
  wait := counter_of_wait wf h
  skip := fun ⟨_, number, holds⟩ => by rw [counter_of_skip h number, if_pos holds]
  onward := counter_of_onward h

/-! ## Opposite skips -/

theorem execute_of_skip {c : Condition} {w : Word} (word : w.toNat = c.number) :
    s.execute d w = (.ok (s.skipIf (c.truth s d.keypad)), d) := by
  rw [execute_of_perform (Instruction.decode?_of_skip word) rfl, perform_skip]

/-- **Where a cycle goes.**  After every cycle of a well-formed state that succeeds, the counter is where the
    word leads, and an address.  And of two words that skip on opposite conditions exactly one moves the
    counter, in any state and with any keys; neither changes anything else. -/
theorem cycle_leads (s : State) :
    (s.WellFormed → ∀ (d d' : Devices) (t : State), s.cycle d = (.ok t, d') →
      s.nextWord.Leads s d.keypad t.counter ∧ 0 ≤ t.counter ∧ t.counter < 4096) ∧
    ∀ (c : Condition) (v w : Word) (d : Devices),
      v.toNat = c.number → w.toNat = c.opposite.number →
      let past : State := { s with counter := (s.counter + 2) % 4096 }
      s.execute d v = (.ok past, d) ∧ s.execute d w = (.ok s, d) ∨
        s.execute d v = (.ok s, d) ∧ s.execute d w = (.ok past, d) := by
  constructor
  · intro wf d d' t h
    have range := (wf.cycle h).counter_range
    exact ⟨leads_of_cycle wf h, range.1, by omega⟩
  · intro c v w d first second past
    rw [execute_of_skip first, execute_of_skip second, Condition.truth_opposite]
    cases c.truth s d.keypad with
    | true => exact Or.inl ⟨rfl, rfl⟩
    | false => exact Or.inr ⟨rfl, rfl⟩

/-- A skip in the last two bytes of memory leaves out the first two.  Of the comparisons of two registers
    that hold the same, one skips from there and the other one does not. -/
theorem cycle_leads_across_the_end :
    let memory := (Memory.fresh.write 0xFFE 0x30).write 0xFFF 0x00
    let s : State := { fresh RandomKey.zero with memory, counter := 0xFFE }
    s.WellFormed ∧
      (∃ t, s.cycle Devices.idle = (.ok t, Devices.idle) ∧ t.counter = 2) ∧
      s.execute Devices.idle 0x5010 = (.ok { s with counter := 0 }, Devices.idle) ∧
      s.execute Devices.idle 0x9010 = (.ok s, Devices.idle) := by
  intro memory
  have bytes : Word.ofBytes (memory.read 0xFFE) (memory.read 0xFFF) = 0x3000 := by
    simp only [memory, Memory.read_write]
    decide
  -- nothing else is taken from the memory
  clear_value memory
  intro s
  have wf : s.WellFormed :=
    { (wellFormed_fresh RandomKey.zero).withContents RandomKey.zero memory (Vector.replicate 16 0) with
      counter_range := (by decide : (0 : Int) ≤ 0xFFE ∧ (0xFFE : Int) ≤ 0xFFF) }
  have word : s.nextWord = 0x3000 := bytes
  have number : s.nextWord.toNat = (Condition.equalsByte 0 0).number := by rw [word]; decide
  have holds : (Condition.equalsByte 0 0).truth s Devices.idle.keypad = true := rfl
  obtain ⟨leads, opposite⟩ := cycle_leads s
  obtain ⟨t, run⟩ : ∃ t, s.cycle Devices.idle = (.ok t, Devices.idle) := by
    have skipped : s.fetch.2.execute Devices.idle s.nextWord = _ := execute_of_skip number
    rw [cycle_eq, skipped]
    exact ⟨_, rfl⟩
  obtain ⟨led, -⟩ := leads wf _ _ t run
  refine ⟨wf, ⟨t, run, led.skip ⟨_, number, holds⟩⟩, ?_⟩
  rcases opposite (.equal 0 1) 0x5010 0x9010 Devices.idle (by decide) (by decide) with
    both | ⟨stays, -⟩
  · exact both
  · have moved : s.execute Devices.idle 0x5010 = (.ok (s.skipIf true), Devices.idle) :=
      execute_of_skip (c := .equal 0 1) (by decide)
    rw [moved] at stays
    cases congrArg (fun r => r.1.toOption.map State.counter) stays

end State

end Chip8
