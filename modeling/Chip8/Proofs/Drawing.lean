/-
  What the drawing instruction does, from the registers and the memory to the screen and the flag.

  The rows of a sprite are read from memory round its end (`getD_readBlock`), its corner is in two
  registers, and what becomes of the screen is told pixel by pixel: one changes if a set bit of a row falls
  on it, which at most 32 rows do once (`lit_draw_ne_iff`).  So a lit pixel that is met ends dark, and the
  collision is what can be seen by comparing the two screens (`snd_draw_iff`).

  The flag is written LAST, after the corner has been read.  The instruction finds the same corner a second
  time only if neither register of its corner is the flag register; then it restores the screen, and of
  the two drawings one collides unless there was nothing to draw (`snd_draw_or`).
-/
import Chip8.Proofs.Execution
import Chip8.Proofs.Decoding
import Chip8.Proofs.LitPixels

namespace Chip8

/-! ## Bits of rows -/

/-- A byte that is not zero has a bit. -/
theorem exists_bit_iff (b : UInt8) : (∃ j, b.toBitVec.getMsbD j = true) ↔ b ≠ 0 := by
  constructor
  · rintro ⟨j, set⟩ rfl
    simp at set
  · intro some
    by_contra none
    apply some
    apply UInt8.toBitVec_inj.mp
    apply BitVec.eq_of_getMsbD_eq
    intro j _
    have clear : b.toBitVec.getMsbD j = false := by
      rw [Bool.eq_false_iff]
      exact fun set => none ⟨j, set⟩
    rw [clear]
    simp

theorem Memory.getD_readBlock (m : Memory) (a : Int) {n i : Nat} (within : i < n) :
    (m.readBlock a n).getD i 0 = m.read (a + i) := by
  rw [Memory.readBlock, List.getD_eq_getElem?_getD, List.getElem?_map, List.getElem?_range within]
  rfl

/-- The bits of a sprite that is read from memory. -/
theorem Memory.spriteBit_readBlock (m : Memory) (a : Int) (n : Nat) {i j : Nat} :
    Screen.spriteBit (m.readBlock a n) j i = true ↔
      i < n ∧ (m.read (a + i)).toBitVec.getMsbD j = true := by
  constructor
  · intro set
    have within : i < n := by
      have row := (Screen.lt_of_spriteBit set).2
      rwa [Memory.length_readBlock] at row
    rw [Screen.spriteBit, Memory.getD_readBlock m a within] at set
    exact ⟨within, set⟩
  · rintro ⟨within, set⟩
    rw [Screen.spriteBit, Memory.getD_readBlock m a within]
    exact set

namespace Screen

variable {x y : Int} {rows : List UInt8}

/-! ## Before and after -/

/-- Whether some pixel that is lit on the first screen is dark on the second. -/
def SwitchedOff (p q : Screen) : Prop := ∃ cx cy, p.lit cx cy = true ∧ q.lit cx cy = false

theorem mem_under_iff {cx : Fin 64} {cy : Fin 32} :
    (cx, cy) ∈ under x y rows ↔
      ∃ i j, spriteBit rows j i = true ∧ (x + j) % 64 = cx.val ∧ (y + i) % 32 = cy.val := by
  rw [under, List.mem_map]
  constructor
  · rintro ⟨⟨i, j⟩, member, falls⟩
    exact ⟨i, j, mem_setBits.mp member, around_eq_iff.mp falls⟩
  · rintro ⟨i, j, set, falls⟩
    exact ⟨(i, j), mem_setBits.mpr set, around_eq_iff.mpr falls⟩

/-- At most 32 rows change a pixel if one of their set bits falls on it. -/
theorem lit_draw_ne_iff (short : rows.length ≤ 32) (p : Screen) (cx : Fin 64) (cy : Fin 32) :
    (p.draw x y rows).1.lit cx cy ≠ p.lit cx cy ↔ (cx, cy) ∈ under x y rows := by
  have changed : ∀ a b : Bool, (a ^^ b) ≠ a ↔ b = true := by decide
  rw [draw_eq_plot, plot, lit_flips, changed, decide_eq_true_eq]
  exact odd_count_iff (nodup_under short)

/-- The collision of at most 32 rows is what can be seen by comparing the screens. -/
theorem snd_draw_iff (short : rows.length ≤ 32) (p : Screen) :
    (p.draw x y rows).2 = true ↔ p.SwitchedOff (p.draw x y rows).1 := by
  have met : (p.draw x y rows).2 = true ↔ ∃ q ∈ under x y rows, p.lit q.1 q.2 = true := by
    rw [draw_eq_plot]
    exact snd_flips_of_nodup (nodup_under short) p
  rw [met]
  constructor
  · rintro ⟨⟨cx, cy⟩, member, lit⟩
    have changed := (lit_draw_ne_iff short p cx cy).mpr member
    rw [lit, ne_eq, Bool.not_eq_true] at changed
    exact ⟨cx, cy, lit, changed⟩
  · rintro ⟨cx, cy, lit, dark⟩
    refine ⟨(cx, cy), (lit_draw_ne_iff short p cx cy).mp ?_, lit⟩
    rw [lit, dark]
    exact Bool.false_ne_true

/-- Of two drawings one collides, unless there is nothing to draw. -/
theorem snd_draw_or (short : rows.length ≤ 32) (p : Screen) :
    (p.draw x y rows).2 = true ∨ ((p.draw x y rows).1.draw x y rows).2 = true ↔
      ∃ i j, spriteBit rows j i = true := by
  have first : (p.draw x y rows).2 = true ↔ 0 < p.litAmong (under x y rows) := by
    rw [draw_eq_plot]
    exact snd_flips_iff (nodup_under short) p
  have bits : 0 < (setBits rows).length ↔ ∃ i j, spriteBit rows j i = true := by
    rw [List.length_pos_iff_exists_mem]
    constructor
    · rintro ⟨⟨i, j⟩, member⟩
      exact ⟨i, j, mem_setBits.mp member⟩
    · rintro ⟨i, j, set⟩
      exact ⟨(i, j), mem_setBits.mpr set⟩
  rw [first, snd_draw_draw short, ← bits]
  have among : p.litAmong (under x y rows) ≤ (setBits rows).length := by
    rw [← length_under x y]
    exact List.countP_le_length
  omega

end Screen

namespace State

variable {s : State} {d : Devices} {w : Word}

/-- The sprite that a word draws: as many rows as it says, from the index on. -/
def sprite (s : State) (w : Word) : List UInt8 := s.memory.readBlock s.index w.n.val

theorem length_sprite_le (s : State) (w : Word) : (s.sprite w).length ≤ 32 := by
  have := w.n.isLt
  rw [sprite, Memory.length_readBlock]
  omega

/-- The drawing of a word, from the corner that its registers hold. -/
def drawn (s : State) (p : Screen) (w : Word) : Screen × Bool :=
  p.draw (s.register w.x).toNat (s.register w.y).toNat (s.sprite w)

theorem execute_of_draw (word : w.toNat / 0x1000 = 0xD) (range : Signed.fits32 s.index) :
    s.execute d w =
      (.ok (s.setFlag (flagByte (s.drawn d.screen w).2)), { d with screen := (s.drawn d.screen w).1 }) :=
  execute_of_perform (Instruction.decode?_of_draw word) range

/-- The flag is read by the next drawing only if it holds a part of the corner. -/
theorem drawn_setFlag (x : w.x ≠ flagRegister) (y : w.y ≠ flagRegister) (flag : UInt8) (p : Screen) :
    (s.setFlag flag).drawn p w = s.drawn p w := by
  have across : (s.setFlag flag).register w.x = s.register w.x := by
    rw [setFlag, register_setRegister, if_neg (Ne.symm x)]
  have down : (s.setFlag flag).register w.y = s.register w.y := by
    rw [setFlag, register_setRegister, if_neg (Ne.symm y)]
  rw [drawn, drawn, across, down]
  rfl

theorem flagByte_eq_one_iff (flag : Bool) : flagByte flag = 1 ↔ flag = true := by
  cases flag <;> decide

/-- The pixels that a drawing changes are those that a bit of a row in memory falls on. -/
theorem lit_drawn_ne_iff (s : State) (p : Screen) (w : Word) (cx : Fin 64) (cy : Fin 32) :
    (s.drawn p w).1.lit cx cy ≠ p.lit cx cy ↔
      ∃ i j, i < w.n.val ∧ (s.memory.read (s.index + i)).toBitVec.getMsbD j = true ∧
        ((s.register w.x).toNat + j : Int) % 64 = cx.val ∧
        ((s.register w.y).toNat + i : Int) % 32 = cy.val := by
  rw [drawn, Screen.lit_draw_ne_iff (s.length_sprite_le w), Screen.mem_under_iff]
  simp only [sprite, Memory.spriteBit_readBlock, and_assoc]

/-- The flag that a drawing leaves says whether a lit pixel was switched off. -/
theorem flag_drawn (s : State) (p : Screen) (w : Word) :
    flagByte (s.drawn p w).2 = 1 ∧ p.SwitchedOff (s.drawn p w).1 ∨
      flagByte (s.drawn p w).2 = 0 ∧ ¬ p.SwitchedOff (s.drawn p w).1 := by
  rw [drawn, ← Screen.snd_draw_iff (s.length_sprite_le w)]
  cases (p.draw (s.register w.x).toNat (s.register w.y).toNat (s.sprite w)).2 with
  | true => exact Or.inl ⟨rfl, rfl⟩
  | false => exact Or.inr ⟨rfl, Bool.false_ne_true⟩

/-- Of two drawings from the same corner one collides, unless all rows are empty. -/
theorem flag_drawn_drawn (s : State) (p : Screen) (w : Word) :
    flagByte (s.drawn p w).2 = 1 ∨ flagByte (s.drawn (s.drawn p w).1 w).2 = 1 ↔
      ∃ i, i < w.n.val ∧ s.memory.read (s.index + i) ≠ 0 := by
  rw [flagByte_eq_one_iff, flagByte_eq_one_iff, drawn, drawn,
    Screen.snd_draw_or (s.length_sprite_le w)]
  simp only [sprite, Memory.spriteBit_readBlock, exists_and_left, exists_bit_iff]

/-- **Drawing from end to end.**  A drawing word never fails while the index fits 32 bits, wherever it
    points.  The bits of the rows that memory holds from the index on, round its end, change the pixels
    that they fall on from the corner that the registers held BEFORE the word, and no others; nothing of the
    state changes but the flag, which is one if a lit pixel went dark and zero if none did.  If the flag is
    no part of the corner, the same word once more gives back the screen, and one of the two drawings has
    set the flag unless all rows are empty. -/
theorem execute_draws (s : State) (d : Devices) {w : Word} (word : w.toNat / 0x1000 = 0xD)
    (range : Signed.fits32 s.index) :
    let x : Int := (s.register w.x).toNat
    let y : Int := (s.register w.y).toNat
    let row (i : Nat) : UInt8 := s.memory.read (s.index + i)
    ∃ t q,
      s.execute d w = (.ok t, { d with screen := q }) ∧
      t = s.setFlag (t.register flagRegister) ∧
      (∀ cx cy, q.lit cx cy ≠ d.screen.lit cx cy ↔
        ∃ i j, i < w.n.val ∧ (row i).toBitVec.getMsbD j = true ∧
          (x + j) % 64 = cx.val ∧ (y + i) % 32 = cy.val) ∧
      (t.register flagRegister = 1 ∧ d.screen.SwitchedOff q ∨
        t.register flagRegister = 0 ∧ ¬ d.screen.SwitchedOff q) ∧
      (w.x ≠ flagRegister → w.y ≠ flagRegister →
        ∃ u, t.execute { d with screen := q } w = (.ok u, d) ∧
          (t.register flagRegister = 1 ∨ u.register flagRegister = 1 ↔
            ∃ i, i < w.n.val ∧ row i ≠ 0)) := by
  intro x y row
  let hit := (s.drawn d.screen w).2
  let q := (s.drawn d.screen w).1
  have flag : (s.setFlag (flagByte hit)).register flagRegister = flagByte hit := register_setFlag _ _
  refine ⟨s.setFlag (flagByte hit), q, execute_of_draw word range, ?_, ?_, ?_, ?_⟩
  · rw [flag]
  · exact s.lit_drawn_ne_iff d.screen w
  · rw [flag]
    exact s.flag_drawn d.screen w
  · intro notX notY
    have same : (s.setFlag (flagByte hit)).drawn q w = s.drawn q w := drawn_setFlag notX notY _ _
    have back : (s.drawn q w).1 = d.screen := Screen.draw_draw d.screen _ _ (s.sprite w)
    refine ⟨(s.setFlag (flagByte hit)).setFlag (flagByte (s.drawn q w).2), ?_, ?_⟩
    · rw [execute_of_draw (s := s.setFlag (flagByte hit)) word range, same, back]
    · rw [flag, register_setFlag]
      exact s.flag_drawn_drawn d.screen w

/-- Two rows at the last index that fits 32 bits, of which the second is the first of the glyphs, drawn
    round a corner of a dark screen and drawn again. -/
theorem execute_draws_round_the_ends :
    let s : State :=
      { fresh RandomKey.zero with index := 0x7FFFFFFF, registers := Vector.replicate 16 62 }
    Signed.fits32 s.index ∧
      ∃ t q u,
        s.execute Devices.idle 0xD012 = (.ok t, { Devices.idle with screen := q }) ∧
        t.register flagRegister = 0 ∧ q.lit 1 31 = true ∧ q.lit 1 30 = false ∧
        t.execute { Devices.idle with screen := q } 0xD012 = (.ok u, Devices.idle) ∧
        u.register flagRegister = 1 := by
  intro s
  have range : Signed.fits32 s.index := by decide
  have dark : ∀ cx cy, Devices.idle.screen.lit cx cy = false := Screen.lit_blank
  have upper : s.memory.read (s.index + (0 : Nat)) = 0 := (Memory.read_fresh _).trans (by decide)
  have lower : s.memory.read (s.index + (1 : Nat)) = 0xF0 := (Memory.read_fresh _).trans (by decide)
  have corner : ∀ x : Register, (s.register x).toNat = 62 := by decide
  have height : (Word.n 0xD012).val = 2 := by decide
  obtain ⟨t, q, drawn, -, changed, flag, twice⟩ :=
    execute_draws s Devices.idle (w := 0xD012) (by decide) range
  obtain ⟨u, redrawn, collides⟩ := twice (by decide) (by decide)
  simp only [corner, height, dark] at changed collides
  have zero : t.register flagRegister = 0 := by
    obtain ⟨-, cx, cy, lit, -⟩ | ⟨zero, -⟩ := flag
    · rw [dark] at lit
      cases lit
    · exact zero
  have one : u.register flagRegister = 1 := by
    refine (collides.mpr ⟨1, by decide, ?_⟩).resolve_left ?_
    · rw [lower]
      decide
    · rw [zero]
      decide
  have lit : q.lit 1 31 = true := by
    have bit : (0xF0 : UInt8).toBitVec.getMsbD 3 = true := by decide
    exact Bool.ne_false_iff.mp ((changed 1 31).mpr ⟨1, 3, by decide, lower ▸ bit, rfl, rfl⟩)
  have unlit : q.lit 1 30 = false := by
    -- only the upper row falls there, and it is empty
    by_contra differs
    obtain ⟨i, j, within, set, -, falls⟩ := (changed 1 30).mp differs
    have first : i = 0 := by
      have falls : ((62 : Nat) + i : Int) % 32 = 30 := falls
      omega
    rw [first, upper] at set
    simp at set
  exact ⟨range, t, q, u, drawn, zero, lit, unlit, redrawn, one⟩

end State

end Chip8
