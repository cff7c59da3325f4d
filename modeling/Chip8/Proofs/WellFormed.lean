/-
  Well-formed states stay well-formed.

  Whatever a machine is made to do, its counter and its index remain addresses, its timers bytes, and
  its call stack tidy.  Two of the bounds are not obvious.  An addition to the index that passes 0xFFF
  is reduced by 0xFFF and NOT by 0x1000, and a glyph is looked up for any byte and not only for the
  sixteen digits; both still end below 4096.  And the address that a return goes to was masked when it
  was PUSHED, any number of words earlier, so that the bound on the counter needs the one on the slots
  in use, and with it the zeros in the free ones, all along the way.

  The invariant is carried from an instruction (`WellFormed.perform`, a case for each) to a word, a
  cycle and an operation, and from there to histories of any length (`wellFormed_after`).
-/
import Chip8.Proofs.Execution
import Chip8.Proofs.History

namespace Chip8.State

variable {s t : State} {d d' : Devices} {w : Word} {i : Instruction}

/-! ## Replacing a part -/

theorem WellFormed.stack_tidy (wf : s.WellFormed) : s.stack.Tidy :=
  ⟨wf.used_slot, wf.free_slot⟩

theorem WellFormed.withCounter (wf : s.WellFormed) {a : Int} (range : 0 ≤ a ∧ a ≤ 0xFFF) :
    { s with counter := a }.WellFormed := { wf with counter_range := range }

theorem WellFormed.withIndex (wf : s.WellFormed) {a : Int} (range : 0 ≤ a ∧ a ≤ 0xFFF) :
    { s with index := a }.WellFormed := { wf with index_range := range }

theorem WellFormed.withStack (wf : s.WellFormed) {k : CallStack} (tidy : k.Tidy) :
    { s with stack := k }.WellFormed := { wf with used_slot := tidy.used, free_slot := tidy.free }

/-- Registers, memory and key are of no concern. -/
theorem WellFormed.withContents (wf : s.WellFormed) (key : RandomKey) (memory : Memory)
    (registers : Registers) : { s with key, memory, registers }.WellFormed := { wf with }

theorem byte_range (b : UInt8) : 0 ≤ (b.toNat : Int) ∧ (b.toNat : Int) ≤ 255 := by
  have := b.toNat_lt; omega

theorem address_range (a : Address) : 0 ≤ (a.val : Int) ∧ (a.val : Int) ≤ 0xFFF := by
  have := a.isLt; omega

theorem wrapped_range (a : Int) : 0 ≤ a % 4096 ∧ a % 4096 ≤ 0xFFF := by omega

/-! ## The helpers of instructions -/

theorem WellFormed.skipIf (wf : s.WellFormed) (holds : Bool) : (s.skipIf holds).WellFormed := by
  cases holds with
  | true => exact wf.withCounter (wrapped_range _)
  | false => exact wf

theorem WellFormed.combine (wf : s.WellFormed) (op : AluOp) (x y : Register) :
    (s.combine op x y).WellFormed := by
  rw [combine_eq]
  exact wf.withContents s.key s.memory _

theorem WellFormed.awaitKey (wf : s.WellFormed) (keys : Keypad) (x : Register) :
    (s.awaitKey keys x).WellFormed := by
  unfold State.awaitKey
  cases keys.firstPressed with
  | some key => exact wf.withContents s.key s.memory _
  | none => exact wf.withCounter (wrapped_range _)

/-- A sum of an address and a byte is at most 0x10FE; taking 0xFFF off one above 0xFFF leaves at most
    0xFF, and at least 1. -/
theorem WellFormed.addToIndex (wf : s.WellFormed) (x : Register) :
    (s.addToIndex x).WellFormed := by
  have index := wf.index_range
  have byte := byte_range (s.register x)
  unfold State.addToIndex
  dsimp only
  split
  · have reduced : { s with index := s.index + (s.register x).toNat - 0xFFF }.WellFormed :=
      wf.withIndex (by omega)
    exact reduced.withContents s.key s.memory _
  · have kept : { s with index := s.index + (s.register x).toNat }.WellFormed :=
      wf.withIndex (by omega)
    exact kept.withContents s.key s.memory _

/-! ## Instructions, words, cycles -/

theorem WellFormed.perform (wf : s.WellFormed) (h : s.perform d w i = (.ok t, d')) :
    t.WellFormed := by
  cases i with
  | machineCall a => cases h
  | clear => cases h; exact wf
  | ret =>
    obtain ⟨a, k, pop, rfl⟩ := perform_ret_eq_ok h
    have top := wf.stack_tidy.top_le pop
    exact (wf.withStack (wf.stack_tidy.pop pop)).withCounter (by omega)
  | jump a => cases h; exact wf.withCounter (address_range a)
  | call a =>
    obtain ⟨k, push, rfl⟩ := perform_call_eq_ok h
    exact (wf.withStack (wf.stack_tidy.push push)).withCounter (address_range a)
  | skip c => rw [perform_skip] at h; cases h; exact wf.skipIf _
  | set x b => cases h; exact wf.withContents s.key s.memory _
  | addByte x b => cases h; exact wf.withContents s.key s.memory _
  | combine op x y => cases h; exact wf.combine op x y
  | setIndex a => cases h; exact wf.withIndex (address_range a)
  | jumpOffset a => cases h; exact wf.withCounter (wrapped_range _)
  | random x mask => cases h; exact wf.withContents _ s.memory _
  | draw x y n => cases h; exact wf.withContents s.key s.memory _
  | getDelay x => cases h; exact wf.withContents s.key s.memory _
  | awaitKey x => cases h; exact wf.awaitKey _ x
  | setDelay x => cases h; exact { wf with delay_range := byte_range _ }
  | setSound x => cases h; exact { wf with sound_range := byte_range _ }
  | addIndex x => cases h; exact wf.addToIndex x
  | pointGlyph x =>
    -- every byte has a place there, 5 * 255 at most
    cases h
    have byte := byte_range (s.register x)
    exact wf.withIndex (by simp only [Memory.glyphStart, Memory.glyphSize]; omega)
  | storeDigits x => cases h; exact wf.withContents s.key _ s.registers
  | saveRegisters x => cases h; exact wf.withContents s.key _ s.registers
  | loadRegisters x => cases h; exact wf.withContents s.key s.memory _

theorem WellFormed.execute (wf : s.WellFormed) (h : s.execute d w = (.ok t, d')) :
    t.WellFormed := by
  obtain ⟨i, -, run⟩ := execute_eq_ok h
  exact wf.perform run

theorem WellFormed.fetch (wf : s.WellFormed) : s.fetch.2.WellFormed :=
  wf.withCounter (wrapped_range _)

theorem WellFormed.tick (wf : s.WellFormed) : s.tick.WellFormed :=
  { wf with
    delay_range := by have := wf.delay_range; simp only [State.tick]; omega
    sound_range := by have := wf.sound_range; simp only [State.tick]; omega }

theorem WellFormed.cycle (wf : s.WellFormed) (h : s.cycle d = (.ok t, d')) : t.WellFormed := by
  obtain ⟨u, run, rfl⟩ := cycle_eq_ok h
  exact (wf.fetch.execute run).tick

/-! ## Histories -/

theorem wellFormed_fresh (key : RandomKey) : (fresh key).WellFormed where
  counter_range := by simp [fresh, Memory.programStart]
  index_range := by simp [fresh]
  delay_range := by simp [fresh]
  sound_range := by simp [fresh]
  used_slot := CallStack.tidy_empty.used
  free_slot := CallStack.tidy_empty.free

theorem WellFormed.load (wf : s.WellFormed) (program : Bytes) : (s.load program).WellFormed :=
  wf.withContents s.key _ s.registers

theorem wellFormed_ofProgram (key : RandomKey) (program : Bytes) :
    (Machine.ofProgram key program).state.WellFormed :=
  (wellFormed_fresh key).load program

/-- No operation leaves a machine ill-formed, be it carried out or not. -/
theorem WellFormed.apply {m : Machine} (wf : m.state.WellFormed) (o : Operation) :
    (o.apply m).state.WellFormed := by
  cases o with
  | load program => exact (wellFormed_fresh m.origin).load program
  | overwrite program => exact wf.load program
  | cycle d =>
    show (m.cycle d).machine.state.WellFormed
    unfold Machine.cycle
    split
    · rename_i t d' run; exact wf.cycle run
    · exact wf
  | execute d word =>
    show (m.execute d word).machine.state.WellFormed
    unfold Machine.execute
    split
    · rename_i t d' run; exact wf.execute run
    · exact wf
  | fetch => exact wf.fetch
  | tick => exact wf.tick

/-- **A machine is well-formed after every history.**  The sizes of memory, registers and call stack
    are part of their types; they are listed so that the statement is complete. -/
theorem wellFormed_after (key : RandomKey) (history : List Operation) :
    let s := ((Machine.ofKey key).after history).state
    (fresh key).WellFormed ∧ s.WellFormed ∧ s.stack.depth ≤ 16 ∧ s.memory.toArray.size = 4096 ∧
      s.registers.toArray.size = 16 := by
  intro s
  have wf : s.WellFormed :=
    Machine.after_induction (p := fun m => m.state.WellFormed) (fun _ o h => h.apply o) history
      (Machine.ofKey key) (wellFormed_fresh key)
  exact ⟨wellFormed_fresh key, wf, s.stack.depth_le, s.memory.size_toArray,
    s.registers.size_toArray⟩

end Chip8.State
