/-
  Adding to the index, any number of times.

  A sum above 0xFFF is reduced by 0xFFF and NOT by 0x1000: the index 0xFFF is kept, and 0x1000 becomes 1.  So
  the index is no remainder modulo 4096, and the usual arithmetic of addresses says nothing of it.  What
  holds is an account: a reduction takes 0xFFF off the sum and sets the flag, hence

      index + 0xFFF * (flags set)  =  first index + everything added

  `addToIndex_account` is the account of one addition, in its two cases.  A sequence of additions
  (`Additions`) may have any changes between its members that leave the index alone; the account of the
  whole is carried through it from its end, together with the bounds of the index, which the next addition
  needs.
-/
import Mathlib.Algebra.GroupWithZero.Nat
import Chip8.Proofs.Steps

namespace Chip8

/-! ## One addition -/

namespace State

variable {s : State} {d : Devices} {w : Word}

theorem execute_of_addIndex (word : Word.Misc 0x1E w.toNat) :
    s.execute d w = (.ok (s.addToIndex w.x), d) :=
  execute_of_perform (Instruction.decode?_of_misc 0x1E word) rfl

/-- The account of one addition: the register is read before the flag is written. -/
theorem addToIndex_account (s : State) (x : Register) :
    s.index + (s.register x).toNat ≤ 0xFFF ∧
        (s.addToIndex x).index = s.index + (s.register x).toNat ∧
        (s.addToIndex x).register flagRegister = 0 ∨
      0xFFF < s.index + (s.register x).toNat ∧
        (s.addToIndex x).index + 0xFFF = s.index + (s.register x).toNat ∧
        (s.addToIndex x).register flagRegister = 1 := by
  unfold addToIndex
  dsimp only
  split
  · rename_i above
    exact Or.inr ⟨above, Int.sub_add_cancel _ _, register_setFlag _ 1⟩
  · rename_i within
    exact Or.inl ⟨Int.not_lt.mp within, rfl, register_setFlag _ 0⟩

end State

/-! ## Sequences of additions -/

namespace Step

/-- What the register of a word holds before it. -/
def operand (e : Step) : Nat := (e.before.register e.word.x).toNat

/-- Whether a word leaves the flag set. -/
def flagged (e : Step) : Bool := e.after.register flagRegister = 1

/-- A word that adds to the index, `FX1E`, and is carried out. -/
structure AddsIndex (e : Step) : Prop where
  word : Word.Misc 0x1E e.word.toNat
  run : ∃ d d', e.before.execute d e.word = (.ok e.after, d')

theorem AddsIndex.account {e : Step} (adds : e.AddsIndex) :
    e.before.index + e.operand ≤ 0xFFF ∧ e.after.index = e.before.index + e.operand ∧
        e.after.register flagRegister = 0 ∨
      0xFFF < e.before.index + e.operand ∧ e.after.index + 0xFFF = e.before.index + e.operand ∧
        e.after.register flagRegister = 1 := by
  obtain ⟨d, d', run⟩ := adds.run
  rw [State.execute_of_addIndex adds.word] at run
  have after : e.after = e.before.addToIndex e.word.x :=
    (Except.ok.inj (congrArg Prod.fst run)).symm
  rw [after]
  exact e.before.addToIndex_account e.word.x

end Step

/-- Additions one after the other, with the index before the first and after the last.  Each comes upon the
    index that the one before it has left; everything else may have been changed in between. -/
inductive Additions (start : Int) : List Step → Int → Prop
  | none : Additions start [] start
  | more {es : List Step} {i : Int} {e : Step} (earlier : Additions start es i)
      (found : e.before.index = i) (adds : e.AddsIndex) : Additions start (es ++ [e]) e.after.index

namespace Additions

variable {start final : Int} {es : List Step}

/-- The index stays an address. -/
theorem range (address : 0 ≤ start ∧ start ≤ 0xFFF) (run : Additions start es final) :
    0 ≤ final ∧ final ≤ 0xFFF := by
  induction run with
  | none => exact address
  | @more es i e earlier found adds ih =>
    have byte := (e.before.register e.word.x).toNat_lt
    have operand : e.operand < 256 := byte
    rcases adds.account with ⟨small, sum, -⟩ | ⟨large, sum, -⟩
    · omega
    · omega

/-- The account of a sequence. -/
theorem account (run : Additions start es final) :
    final + 0xFFF * (es.filter Step.flagged).length = start + (es.map Step.operand).sum := by
  induction run with
  | none => rfl
  | @more es i e earlier found adds ih =>
    rw [List.filter_append, List.length_append, List.map_append, List.sum_append_nat,
      List.map_singleton, List.sum_singleton]
    rcases adds.account with ⟨-, sum, flag⟩ | ⟨-, sum, flag⟩
    · have clear : e.flagged = false := by rw [Step.flagged, flag]; rfl
      have none : ([e].filter Step.flagged).length = 0 := by simp [clear]
      omega
    · have set : e.flagged = true := by rw [Step.flagged, flag]; rfl
      have one : ([e].filter Step.flagged).length = 1 := by simp [set]
      omega

/-- What each member of a sequence does. -/
theorem each (address : 0 ≤ start ∧ start ≤ 0xFFF) (run : Additions start es final) :
    ∀ e ∈ es, (0 ≤ e.after.index ∧ e.after.index ≤ 0xFFF) ∧
      e.after.register flagRegister = if 0xFFF < e.before.index + e.operand then 1 else 0 := by
  induction run with
  | none => exact List.forall_mem_nil _
  | @more es i e earlier found adds ih =>
    intro e' member
    rcases List.mem_append.mp member with before | last
    · exact ih e' before
    · obtain rfl := List.mem_singleton.mp last
      refine ⟨range address (.more earlier found adds), ?_⟩
      rcases adds.account with ⟨small, -, flag⟩ | ⟨large, -, flag⟩
      · rw [flag, if_neg (Int.not_lt.mpr small)]
      · rw [flag, if_pos large]

/-- A further addition can always be made, whatever else has changed. -/
theorem further (run : Additions start es final) {s : State} {w : Word} (found : s.index = final)
    (word : Word.Misc 0x1E w.toNat) (d : Devices) :
    ∃ t, s.execute d w = (.ok t, d) ∧ Additions start (es ++ [⟨w, s, t⟩]) t.index :=
  ⟨s.addToIndex w.x, State.execute_of_addIndex word,
    .more run found ⟨word, d, d, State.execute_of_addIndex word⟩⟩

/-- **The account of additions to the index.**  From an address on, with any changes in between that leave
    the index alone: the last index and 0xFFF for every addition that set the flag make up the first index
    and all that was added.  The index is an address after every addition, the flag is set exactly by those
    whose sum passes 0xFFF and cleared by the others, and no addition can fail. -/
theorem balance (address : 0 ≤ start ∧ start ≤ 0xFFF) (run : Additions start es final) :
    final + 0xFFF * (es.filter Step.flagged).length = start + (es.map Step.operand).sum ∧
      (0 ≤ final ∧ final ≤ 0xFFF) ∧
      (∀ e ∈ es, (0 ≤ e.after.index ∧ e.after.index ≤ 0xFFF) ∧
        e.after.register flagRegister = if 0xFFF < e.before.index + e.operand then 1 else 0) ∧
      ∀ (s : State) (d : Devices) (w : Word), s.index = final → Word.Misc 0x1E w.toNat →
        ∃ t, s.execute d w = (.ok t, d) ∧ Additions start (es ++ [⟨w, s, t⟩]) t.index :=
  ⟨run.account, run.range address, run.each address,
    fun _ d _ found word => run.further found word d⟩

/-- The flag register is added to 0xFFE, which makes 0xFFF, and then a register that holds one, which makes
    1 and not 0. -/
theorem balance_past_the_last_address :
    let s : State :=
      { State.fresh RandomKey.zero with index := 0xFFE, registers := Vector.replicate 16 1 }
    ∃ t u : State,
      s.execute Devices.idle 0xFF1E = (.ok t, Devices.idle) ∧
      t.execute Devices.idle 0xF01E = (.ok u, Devices.idle) ∧
      t.index = 0xFFF ∧ t.register flagRegister = 0 ∧ u.index = 1 ∧ u.register flagRegister = 1 := by
  intro s
  let t := s.addToIndex flagRegister
  let u := t.addToIndex 0
  have first : s.execute Devices.idle 0xFF1E = (.ok t, Devices.idle) :=
    State.execute_of_addIndex (by decide)
  have second : t.execute Devices.idle 0xF01E = (.ok u, Devices.idle) :=
    State.execute_of_addIndex (by decide)
  have one : Step.AddsIndex ⟨0xFF1E, s, t⟩ := ⟨by decide, _, _, first⟩
  have other : Step.AddsIndex ⟨0xF01E, t, u⟩ := ⟨by decide, _, _, second⟩
  have run : Additions 0xFFE [⟨0xFF1E, s, t⟩, ⟨0xF01E, t, u⟩] u.index :=
    .more (.more .none rfl one) rfl other
  obtain ⟨account, -, each, -⟩ := balance (by decide) run
  obtain ⟨-, clear⟩ := each _ List.mem_cons_self
  obtain ⟨-, set⟩ := each _ (List.mem_cons_of_mem _ List.mem_cons_self)
  have reductions :
      (([⟨0xFF1E, s, t⟩, ⟨0xF01E, t, u⟩] : List Step).filter Step.flagged).length = 1 := by decide
  have added : (([⟨0xFF1E, s, t⟩, ⟨0xF01E, t, u⟩] : List Step).map Step.operand).sum = 2 := by decide
  rw [reductions, added] at account
  refine ⟨t, u, first, second, rfl, clear.trans (if_neg ?_), ?_, set.trans (if_pos ?_)⟩
  · decide
  · omega
  · decide

end Additions

end Chip8
