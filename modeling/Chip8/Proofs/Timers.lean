/-
  What the timers show after any number of cycles.

  Both timers count down once in every cycle that is completed, and stay at zero.  A word that sets a
  timer is itself a cycle, so the value that it sets is already one lower when that cycle ends; a cycle
  that fails does not count.  `Timer.Law` says so in closed form, for a list with an entry for every
  completed cycle: the value that the cycle set the timer to, if it did.

      never set        max (start - n) 0     after n cycles
      last set to v    max (v - m) 0         m cycles from that one on, itself included

  The law is kept by one more cycle (`Law.count`, `Law.reset`) and names a single value (`Law.unique`).
  That a cycle does to either timer what the law says is `law_cycle`; reading the delay timer comes
  BEFORE the tick of its own cycle, so that `getDelay_cycle` speaks of the cycles completed before it.
-/
import Mathlib.Data.List.Induction
import Chip8.Proofs.Steps
import Chip8.Proofs.WellFormed

namespace Chip8

/-! ## The law -/

/-- The two timers. -/
inductive Timer
  | delay
  | sound

namespace Timer

/-- What a timer shows that started with a value, after cycles that set it as listed. -/
inductive Law (start : Int) (settings : List (Option UInt8)) : Int → Prop
  /-- No cycle has set it. -/
  | unset (never : ∀ o ∈ settings, o = none) : Law start settings (max (start - settings.length) 0)
  /-- The last cycle that has set it is followed by so many others. -/
  | set {before after : List (Option UInt8)} {v : UInt8} (split : settings = before ++ some v :: after)
      (last : ∀ o ∈ after, o = none) : Law start settings (max (v.toNat - (after.length + 1)) 0)

variable {start t t' : Int} {settings : List (Option UInt8)}

theorem Law.initial (nonneg : 0 ≤ start) : Law start [] start := by
  have law : Law start [] (max (start - 0) 0) := .unset fun _ h => absurd h List.not_mem_nil
  rwa [Int.sub_zero, Int.max_eq_left nonneg] at law

/-- One more cycle counts down. -/
theorem Law.count (law : Law start settings t) :
    Law start (settings ++ [none]) (max (t - 1) 0) := by
  have still : ∀ {os : List (Option UInt8)}, (∀ o ∈ os, o = none) → ∀ o ∈ os ++ [none], o = none := by
    intro os never o member
    rcases List.mem_append.mp member with earlier | new
    · exact never o earlier
    · exact List.mem_singleton.mp new
  cases law with
  | unset never =>
    have next : Law start (settings ++ [none]) _ := .unset (still never)
    have value : max (start - ((settings ++ [none]).length : Int)) 0 =
        max (max (start - (settings.length : Int)) 0 - 1) 0 := by
      rw [List.length_append, List.length_singleton]; omega
    rwa [value] at next
  | @set before after v split last =>
    have split' : settings ++ [none] = before ++ some v :: (after ++ [none]) := by
      rw [split, List.append_assoc, List.cons_append]
    have next : Law start (settings ++ [none]) _ := .set split' (still last)
    have value : max ((v.toNat : Int) - (((after ++ [none]).length : Int) + 1)) 0 =
        max (max ((v.toNat : Int) - ((after.length : Int) + 1)) 0 - 1) 0 := by
      rw [List.length_append, List.length_singleton]; omega
    rwa [value] at next

/-- One more cycle sets the timer, and counts down. -/
theorem Law.reset (start : Int) (settings : List (Option UInt8)) (v : UInt8) :
    Law start (settings ++ [some v]) (max (v.toNat - 1) 0) := by
  have split : settings ++ [some v] = settings ++ some v :: [] := rfl
  exact .set split fun _ h => absurd h List.not_mem_nil

/-- Two ways of finding the last setting find the same one, if the first does not find a later one. -/
theorem last_setting_eq {before before' after after' c : List (Option UInt8)} {v v' : UInt8}
    (last : ∀ o ∈ after, o = none) (later : before' = before ++ c)
    (same : some v :: after = c ++ some v' :: after') : v = v' ∧ after = after' := by
  cases c with
  | nil =>
    cases same
    exact ⟨rfl, rfl⟩
  | cons o rest =>
    cases same
    have none := last (some v') (by simp)
    cases none

/-- The law names a single value. -/
theorem Law.unique (law : Law start settings t) (law' : Law start settings t') : t = t' := by
  cases law with
  | unset never =>
    cases law' with
    | unset never' => rfl
    | set split' last' =>
      have none := never _ (by rw [split']; exact List.mem_append_right _ List.mem_cons_self)
      cases none
  | set split last =>
    cases law' with
    | unset never' =>
      have none := never' _ (by rw [split]; exact List.mem_append_right _ List.mem_cons_self)
      cases none
    | set split' last' =>
      rcases List.append_eq_append_iff.mp (split.symm.trans split') with ⟨c, h, same⟩ | ⟨c, h, same⟩
      · obtain ⟨rfl, rfl⟩ := last_setting_eq last h same
        rfl
      · obtain ⟨rfl, rfl⟩ := last_setting_eq last' h same
        rfl

/-! ## One cycle -/

/-- The last byte of the words that set a timer, `FX15` and `FX18`. -/
def settingByte : Timer → Nat
  | .delay => 0x15
  | .sound => 0x18

/-- What a timer shows in a state. -/
def shown (s : State) : Timer → Int
  | .delay => s.delay
  | .sound => s.sound

/-- A timer as a part of a state. -/
def part : Timer → Part
  | .delay => .delay
  | .sound => .sound

theorem shown_tick (s : State) (timer : Timer) :
    timer.shown s.tick = max (timer.shown s - 1) 0 := by
  cases timer <;> rfl

theorem shown_of_same {s u : State} {d d' : Devices} {timer : Timer}
    (same : timer.part.Same s d u d') : timer.shown u = timer.shown s := by
  cases timer <;> exact same

theorem misc_of_writes {s : State} {keys : Keypad} {r : Nat} {timer : Timer}
    (writes : Word.Writes s keys r timer.part) : Word.Misc timer.settingByte r := by
  cases timer with
  | delay => cases writes with | delay word => exact word
  | sound => cases writes with | sound word => exact word

/-- A word that sets a timer puts the byte of its register into it. -/
theorem shown_of_perform {s u : State} {d d' : Devices} {w : Word} {i : Instruction} {timer : Timer}
    (word : Word.Misc timer.settingByte w.toNat) (known : Instruction.decode? w = some i)
    (run : s.perform d w i = (.ok u, d')) : timer.shown u = (s.register w.x).toNat := by
  cases timer with
  | delay =>
    rw [Instruction.decode?_of_misc 0x15 word] at known
    cases known
    cases run
    rfl
  | sound =>
    rw [Instruction.decode?_of_misc 0x18 word] at known
    cases known
    cases run
    rfl

end Timer

/-- The value that a step sets a timer to, if it does. -/
def Step.setting (timer : Timer) (e : Step) : Option UInt8 :=
  if Word.Misc timer.settingByte e.word.toNat then some (e.before.register e.word.x) else none

namespace Machine

variable {m : Machine} {d : Devices} {e : Step}

/-- A cycle does to a timer what the law says of one more cycle. -/
theorem law_cycle {timer : Timer} {start : Int} {settings : List (Option UInt8)}
    (h : (Operation.cycle d).step? m = some e)
    (law : Timer.Law start settings (timer.shown m.state)) :
    Timer.Law start (settings ++ [e.setting timer]) (timer.shown e.after) := by
  obtain ⟨before, -, i, counter, dev, dev', t, known, run, ⟨-, ticked⟩ | ⟨⟨word, other⟩, -⟩⟩ :=
    step_of_step? h
  · rw [ticked, Timer.shown_tick, Step.setting]
    split
    · -- the word sets the timer first, and the tick of its own cycle counts it down
      rename_i word
      rw [Timer.shown_of_perform word known run, before]
      exact .reset start settings _
    · rename_i word
      have kept := State.perform_same_of_not_writes known run (mt Timer.misc_of_writes word)
      rw [Timer.shown_of_same kept]
      exact law.count
  · cases other

/-- A word that reads the delay timer finds what it shows before the cycle. -/
theorem getDelay_cycle (wf : m.state.WellFormed) (h : (Operation.cycle d).step? m = some e)
    (word : Word.Misc 0x07 e.word.toNat) :
    ((e.after.register e.word.x).toNat : Int) = m.state.delay := by
  obtain ⟨-, -, i, counter, dev, dev', t, known, run, ⟨-, ticked⟩ | ⟨⟨other, differs⟩, -⟩⟩ :=
    step_of_step? h
  · rw [Instruction.decode?_of_misc 0x07 word] at known
    cases known
    cases run
    have stored : e.after.register e.word.x = UInt8.ofNat (m.state.delay % 256).toNat := by
      rw [ticked]
      exact State.register_setRegister_self _ _ _
    have range := wf.delay_range
    rw [stored, UInt8.toNat_ofNat']
    omega
  · cases differs

/-! ## Cycles on end -/

theorem wellFormed_after_cycles (wf : m.state.WellFormed) (ds : List Devices) :
    (m.after (ds.map .cycle)).state.WellFormed :=
  after_induction (p := fun u => u.state.WellFormed) (fun _ o h => h.apply o) _ m wf

/-- Both timers follow the law. -/
theorem law_after (wf : m.state.WellFormed) (timer : Timer) (ds : List Devices) :
    Timer.Law (timer.shown m.state) ((m.steps (ds.map .cycle)).map (Step.setting timer))
      (timer.shown (m.after (ds.map .cycle)).state) := by
  induction ds using List.reverseRecOn with
  | nil =>
    have delay := wf.delay_range
    have sound := wf.sound_range
    exact .initial (by cases timer <;> simp only [Timer.shown] <;> omega)
  | append_singleton ds d ih =>
    rcases cycle_snoc m ds d with ⟨e, step, after, -, steps⟩ | ⟨after, steps⟩
    · rw [after, steps, List.map_append, List.map_singleton]
      exact law_cycle step ih
    · rw [after, steps]
      exact ih

/-- What a list of completed cycles has read from the delay timer. -/
def Readings (start : Int) (steps : List Step) : Prop :=
  ∀ j, ∀ h : j < steps.length, Word.Misc 0x07 steps[j].word.toNat →
    Timer.Law start ((steps.take j).map (Step.setting .delay))
      (steps[j].after.register steps[j].word.x).toNat

theorem Readings.snoc {start : Int} {steps : List Step} (readings : Readings start steps)
    (last : Word.Misc 0x07 e.word.toNat →
      Timer.Law start (steps.map (Step.setting .delay)) (e.after.register e.word.x).toNat) :
    Readings start (steps ++ [e]) := by
  -- what was read goes by the steps before it, which the new step is not among
  have before : ∀ j, j ≤ steps.length → (steps ++ [e]).take j = steps.take j :=
    fun j le => List.take_append_of_le_length le
  refine forall_steps_snoc (p := fun j e' => Word.Misc 0x07 e'.word.toNat →
    Timer.Law start (((steps ++ [e]).take j).map (Step.setting .delay))
      (e'.after.register e'.word.x).toNat) ?_ ?_
  · intro j h
    rw [before j (Nat.le_of_lt h)]
    exact readings j h
  · rw [before _ (Nat.le_refl _), List.take_length]
    exact last

theorem readings_after (wf : m.state.WellFormed) (ds : List Devices) :
    Readings m.state.delay (m.steps (ds.map .cycle)) := by
  induction ds using List.reverseRecOn with
  | nil => exact fun j h => absurd h (Nat.not_lt_zero j)
  | append_singleton ds d ih =>
    rcases cycle_snoc m ds d with ⟨e, step, after, -, steps⟩ | ⟨after, steps⟩
    · rw [steps]
      refine ih.snoc fun word => ?_
      rw [getDelay_cycle (wellFormed_after_cycles wf ds) step word]
      exact law_after wf .delay ds
    · rw [steps]
      exact ih

/-- The steps of cycles on end are the cycles that the machine counts. -/
theorem cycles_after (m : Machine) (ds : List Devices) :
    (m.after (ds.map .cycle)).cycles = m.cycles + (m.steps (ds.map .cycle)).length := by
  induction ds using List.reverseRecOn with
  | nil => rfl
  | append_singleton ds d ih =>
    rcases cycle_snoc m ds d with ⟨e, -, -, counted, steps⟩ | ⟨after, steps⟩
    · rw [counted, ih, steps, List.length_append, List.length_singleton, Nat.add_assoc]
    · rw [after, steps]
      exact ih

/-- **The timer law.**  From a well-formed machine on, and whatever the devices show, the completed
    cycles leave in either timer what the law says of that timer alone; every reading of the delay timer
    is what the law says of the cycles completed before it; and the sound is on just when the law says
    that its timer is above zero. -/
theorem timer_law (m : Machine) (wf : m.state.WellFormed) (ds : List Devices) :
    let steps := m.steps (ds.map .cycle)
    let final := m.after (ds.map .cycle)
    final.cycles = m.cycles + steps.length ∧
      (∀ timer : Timer, Timer.Law (timer.shown m.state) (steps.map (Step.setting timer))
        (timer.shown final.state)) ∧
      (∀ j, ∀ h : j < steps.length, Word.Misc 0x07 steps[j].word.toNat →
        Timer.Law m.state.delay ((steps.take j).map (Step.setting .delay))
          (steps[j].after.register steps[j].word.x).toNat) ∧
      (final.sounding = true ↔
        ∃ t, 0 < t ∧ Timer.Law m.state.sound (steps.map (Step.setting .sound)) t) := by
  intro steps final
  have sound := law_after wf .sound ds
  refine ⟨cycles_after m ds, fun timer => law_after wf timer ds, readings_after wf ds, ?_, ?_⟩
  · intro sounding
    exact ⟨_, of_decide_eq_true sounding, sound⟩
  · rintro ⟨t, positive, law⟩
    have same : t = final.state.sound := law.unique sound
    exact decide_eq_true (same ▸ positive)

/-- Three cycles of which the first sets the delay timer, the second reads it and the third fails. -/
theorem run_of_set_and_read {m : Machine} (d : Devices) (start : m.state.counter = 0x200)
    (word : Word.ofBytes (m.state.memory.read 0x200) (m.state.memory.read 0x201) = 0xF015)
    (word₁ : Word.ofBytes (m.state.memory.read 0x202) (m.state.memory.read 0x203) = 0xF107)
    (word₂ : Word.ofBytes (m.state.memory.read 0x204) (m.state.memory.read 0x205) = 0x0123)
    (held : m.state.register 0 = 5) :
    ∃ u v : Machine, m.after ([d, d, d].map .cycle) = v ∧ m.steps ([d, d, d].map .cycle) =
      [⟨0xF015, m.state, u.state⟩, ⟨0xF107, u.state, v.state⟩] := by
  let u : Machine :=
    { m with
      state := { m.state.fetch.2 with delay := (m.state.register 0).toNat }.tick
      cycles := m.cycles + 1 }
  let v : Machine :=
    { u with
      state := (u.state.fetch.2.setRegister 1 (UInt8.ofNat (u.state.delay % 256).toNat)).tick
      cycles := u.cycles + 1 }
  have address : m.state.address = 0x200 := by rw [State.address, start]; rfl
  have address₁ : u.state.address = 0x202 := by
    show (m.state.address + 2) % 4096 % 4096 = 0x202
    rw [address]; rfl
  have address₂ : v.state.address = 0x204 := by
    show (u.state.address + 2) % 4096 % 4096 = 0x204
    rw [address₁]; rfl
  have word : m.state.nextWord = 0xF015 := by rw [State.nextWord, address]; exact word
  have word₁ : u.state.nextWord = 0xF107 := by rw [State.nextWord, address₁]; exact word₁
  have word₂ : v.state.nextWord = 0x0123 := by rw [State.nextWord, address₂]; exact word₂
  have first : m.cycle d = ⟨u, d, none⟩ :=
    cycle_of_perform (i := .setDelay 0) (by rw [word]; decide) rfl rfl
  have second : u.cycle d = ⟨v, d, none⟩ := by
    have four : u.state.delay = 4 := by
      show max (((m.state.register 0).toNat : Int) - 1) 0 = 4
      rw [held]; rfl
    exact cycle_of_perform (i := .getDelay 1) (by rw [word₁]; decide)
      (by rw [State.inRange, four]; decide) rfl
  obtain ⟨t, third⟩ : ∃ t, v.cycle d = ⟨v, d, some t⟩ := by
    have fault : v.state.nextWord.fault? v.state.stack = some .machineCall := by rw [word₂]; rfl
    exact ⟨_, cycle_of_fault fault⟩
  refine ⟨u, v, ?_, ?_⟩
  · simp only [after, List.map_cons, List.map_nil, List.foldl_cons, List.foldl_nil,
      Operation.apply, first, second, third]
  · simp only [steps, List.map_cons, List.map_nil, List.foldl_cons, List.foldl_nil,
      Operation.apply, Operation.extend, Operation.step?, first, second, third, word, word₁,
      Option.toList_some, Option.toList_none, List.nil_append, List.append_nil,
      List.singleton_append]

/-- The delay timer is set to five, read a cycle later, and not counted down by a call that fails; the
    sound timer runs out meanwhile. -/
theorem timer_law_at_a_fault :
    let memory := (((((Memory.fresh.write 0x200 0xF0).write 0x201 0x15).write 0x202 0xF1).write
      0x203 0x07).write 0x204 0x01).write 0x205 0x23
    let m := ofState
      { State.fresh RandomKey.zero with memory, registers := Vector.replicate 16 5, sound := 2 }
    m.state.WellFormed ∧
      ∃ v, m.after ([Devices.idle, Devices.idle, Devices.idle].map .cycle) = v ∧ v.cycles = 2 ∧
        v.state.delay = 3 ∧ v.state.register 1 = 4 ∧ v.sounding = false := by
  intro memory
  have words : Word.ofBytes (memory.read 0x200) (memory.read 0x201) = 0xF015 ∧
      Word.ofBytes (memory.read 0x202) (memory.read 0x203) = 0xF107 ∧
      Word.ofBytes (memory.read 0x204) (memory.read 0x205) = 0x0123 := by
    simp only [memory, Memory.read_write]
    decide
  -- nothing else is taken from the memory
  revert words
  generalize memory = memory
  rintro ⟨word, word₁, word₂⟩ m
  have wf : m.state.WellFormed :=
    { (State.wellFormed_fresh RandomKey.zero).withContents RandomKey.zero memory
        (Vector.replicate 16 5) with
      sound_range := (by decide : (0 : Int) ≤ 2 ∧ (2 : Int) ≤ 255) }
  obtain ⟨u, v, reached, steps⟩ :=
    run_of_set_and_read (m := m) Devices.idle rfl word word₁ word₂ rfl
  have law := timer_law m wf [Devices.idle, Devices.idle, Devices.idle]
  dsimp only at law
  rw [steps, reached] at law
  obtain ⟨cycles, timers, readings, -⟩ := law
  have set : Word.Misc Timer.delay.settingByte (0xF015 : Word).toNat := by decide
  have other : ¬ Word.Misc Timer.delay.settingByte (0xF107 : Word).toNat := by decide
  have silent : ¬ Word.Misc Timer.sound.settingByte (0xF015 : Word).toNat := by decide
  have silent₁ : ¬ Word.Misc Timer.sound.settingByte (0xF107 : Word).toNat := by decide
  have x : (0xF015 : Word).x = 0 := by decide
  have x₁ : (0xF107 : Word).x = 1 := by decide
  have held : m.state.register 0 = 5 := rfl
  have delay := timers .delay
  have sound := timers .sound
  have reading := readings 1 Nat.one_lt_two
  simp only [List.map_cons, List.map_nil, List.take_succ_cons, List.take_zero, Step.setting,
    if_pos set, if_neg other, if_neg silent, if_neg silent₁, x, x₁, held,
    List.getElem_cons_succ, List.getElem_cons_zero] at delay sound reading
  have three : v.state.delay = 3 := delay.unique (@Timer.Law.set _ _ [] [none] 5 rfl (by simp))
  have four : ((v.state.register 1).toNat : Int) = 4 :=
    (reading (by decide)).unique (@Timer.Law.set _ _ [] [] 5 rfl (by simp))
  have zero : v.state.sound = 0 := sound.unique (.unset (by simp))
  have silence : v.sounding = false := by rw [Machine.sounding, zero]; rfl
  exact ⟨wf, v, reached, cycles, three, UInt8.toNat.inj (Int.ofNat.inj four), silence⟩

end Machine

end Chip8
