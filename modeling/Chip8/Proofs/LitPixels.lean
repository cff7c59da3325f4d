/-
  How many pixels a sprite leaves lit.

  Flipping one pixel lights it or switches it off, so the number of lit pixels goes up or down by one
  (`litCount_flip`).  Over a list of pixels of which none comes twice, each is lit when its turn comes just
  when it was lit at the beginning; so the list splits into those that were lit, which are switched off,
  and the others, which are lit (`litCount_flips`).  Drawing the sprite again meets the list with the two
  kinds exchanged (`litAmong_flips`) and puts every pixel back (`draw_draw`).

  A sprite of at most 32 rows is such a list: its set bits fall on pixels of their own, across both edges
  of the screen (`nodup_under`).
-/
import Chip8.Proofs.Sprites

namespace Chip8

namespace Screen

/-- The number of pixels in a list that are lit. -/
def litAmong (p : Screen) (s : List Pixel) : Nat := s.countP fun q => p.lit q.1 q.2

variable {x y : Int} {rows : List UInt8}

/-! ## One pixel -/

theorem cell_lt (q : Pixel) : 32 * q.1.val + q.2.val < 2048 := by
  have := q.1.isLt
  have := q.2.isLt
  omega

/-- A flip changes one cell. -/
theorem flip_eq_set (p : Screen) (q : Pixel) :
    p.flip q = ⟨p.cells.set (32 * q.1.val + q.2.val) (!p.lit q.1 q.2) (cell_lt q)⟩ := by
  ext cx cy
  rw [lit_flip]
  simp only [lit, Vector.getElem_set]
  by_cases same : (cx, cy) = q
  · subst same
    rw [if_pos rfl, decide_eq_true rfl, Bool.xor_true]
  · have apart : 32 * q.1.val + q.2.val ≠ 32 * cx.val + cy.val := by
      intro place
      apply same
      rw [Prod.ext_iff, Fin.ext_iff, Fin.ext_iff]
      show cx.val = q.1.val ∧ cy.val = q.2.val
      omega
    rw [if_neg apart, decide_eq_false same, Bool.xor_false]

/-- A pixel that is lit when it is flipped is one lit pixel less, a dark one is one more. -/
theorem litCount_flip (p : Screen) (q : Pixel) :
    (p.flip q).litCount + 2 * (p.lit q.1 q.2).toNat = p.litCount + 1 := by
  have cell : p.cells[32 * q.1.val + q.2.val] = p.lit q.1 q.2 := rfl
  rw [flip_eq_set, litCount, litCount, Vector.count_set, cell]
  cases lit : p.lit q.1 q.2 with
  | false => rfl
  | true =>
    -- it is one of those that are counted
    have counted : 0 < p.cells.count true := by
      rw [Vector.count_pos_iff, ← lit]
      exact Vector.getElem_mem _
    simp only [beq_true, Bool.not_true, if_true, Bool.false_eq_true, if_false, Bool.toNat_true]
    omega

theorem litCount_blank : blank.litCount = 0 := by
  refine Vector.count_eq_zero.mpr fun member => ?_
  obtain ⟨k, hk, cell⟩ := Vector.getElem_of_mem member
  have dark : blank.cells[k] = false := by
    simp only [blank, ofFn, Vector.getElem_ofFn]
  rw [dark] at cell
  cases cell

/-! ## Pixels of which none comes twice -/

theorem litAmong_cons (p : Screen) (q : Pixel) (rest : List Pixel) :
    p.litAmong (q :: rest) = p.litAmong rest + (p.lit q.1 q.2).toNat := by
  rw [litAmong, List.countP_cons]
  cases p.lit q.1 q.2 <;> rfl

theorem litAmong_flip {s : List Pixel} {q : Pixel} (elsewhere : q ∉ s) (p : Screen) :
    (p.flip q).litAmong s = p.litAmong s :=
  List.countP_congr fun r member => by rw [lit_flip_elsewhere elsewhere member]

/-- **The lit pixels are conserved** but for those that are switched on and off. -/
theorem litCount_flips : ∀ {s : List Pixel}, s.Nodup → ∀ p : Screen,
    (p.flips s).1.litCount + 2 * p.litAmong s = p.litCount + s.length := by
  intro s
  induction s with
  | nil => intro _ p; rfl
  | cons q rest ih =>
    intro nodup p
    obtain ⟨fresh, nodup⟩ := List.nodup_cons.mp nodup
    have first := litCount_flip p q
    have others := ih nodup (p.flip q)
    rw [litAmong_flip fresh] at others
    rw [litAmong_cons, List.length_cons]
    simp only [flips]
    omega

/-- A lit pixel is switched off if there is one among them. -/
theorem snd_flips_iff {s : List Pixel} (nodup : s.Nodup) (p : Screen) :
    (p.flips s).2 = true ↔ 0 < p.litAmong s := by
  rw [snd_flips_of_nodup nodup, litAmong, List.countP_pos_iff]

/-- Afterwards those are lit that were dark. -/
theorem litAmong_flips {s : List Pixel} (nodup : s.Nodup) (p : Screen) :
    (p.flips s).1.litAmong s + p.litAmong s = s.length := by
  have exchanged : (p.flips s).1.litAmong s = s.countP fun q => !p.lit q.1 q.2 := by
    refine List.countP_congr fun q member => ?_
    have once : decide (s.count (q.1, q.2) % 2 = 1) = true :=
      decide_eq_true ((odd_count_iff nodup).mpr member)
    rw [lit_flips, once, Bool.xor_true]
  have split := List.length_eq_countP_add_countP (l := s) fun q => p.lit q.1 q.2
  simp only [Bool.not_eq_true, Bool.decide_eq_false] at split
  rw [exchanged, litAmong]
  omega

/-! ## Sprites -/

theorem length_under (x y : Int) (rows : List UInt8) : (under x y rows).length = (setBits rows).length :=
  List.length_map _

/-- A sprite of any height that is drawn twice leaves no trace. -/
theorem draw_draw (p : Screen) (x y : Int) (rows : List UInt8) :
    ((p.draw x y rows).1.draw x y rows).1 = p := by
  rw [draw_eq_plot, draw_eq_plot]
  ext cx cy
  rw [plot, plot, lit_flips, lit_flips, Bool.xor_assoc, Bool.xor_self, Bool.xor_false]

/-- Of two drawings of a sprite that falls on no pixel twice, the second switches a lit pixel off if one of
    the set bits fell on a dark pixel at the first. -/
theorem snd_draw_draw (short : rows.length ≤ 32) (p : Screen) :
    ((p.draw x y rows).1.draw x y rows).2 = true ↔
      p.litAmong (under x y rows) < (setBits rows).length := by
  have nodup : (under x y rows).Nodup := nodup_under short
  have both := litAmong_flips nodup p
  rw [length_under] at both
  rw [draw_eq_plot, draw_eq_plot, plot, plot, snd_flips_iff nodup]
  omega

theorem drawIntegers_of_fits (p : Screen) (across : Signed.fits32 x) (down : Signed.fits32 y)
    {sprite : List Int} (bytes : ∀ v ∈ sprite, 0 ≤ v ∧ v < 256) :
    p.drawIntegers x y sprite = .ok (p.draw x y (sprite.map rowOf)) := by
  rw [drawIntegers, mapM_byte? bytes]
  simp only [across, down, Bool.and_true, Bool.or_true, if_true]

/-- **Pixels and collisions.**  From a corner anywhere in 32 bits, at most 32 rows that are bytes are never
    refused, and their set bits fall on pixels of their own.  The lit ones among these are switched off and
    the others lit, and the collision tells whether there were any to switch off.  Drawn again, the sprite
    leaves the screen as it was, and collides unless every bit had met a lit pixel. -/
theorem litCount_drawIntegers (p : Screen) {x y : Int} (across : Signed.fits32 x)
    (down : Signed.fits32 y) {sprite : List Int} (bytes : ∀ v ∈ sprite, 0 ≤ v ∧ v < 256)
    (short : sprite.length ≤ 32) :
    let rows := sprite.map rowOf
    let bits := (setBits rows).length
    let met := p.litAmong (under x y rows)
    (under x y rows).Nodup ∧
      ∃ after hit again,
        p.drawIntegers x y sprite = .ok (after, hit) ∧
        after.drawIntegers x y sprite = .ok (p, again) ∧
        after.litCount + 2 * met = p.litCount + bits ∧
        (hit = true ↔ 0 < met) ∧
        (hit = true ↔ after.litCount ≠ p.litCount + bits) ∧
        (again = true ↔ met < bits) := by
  intro rows bits met
  have short : rows.length ≤ 32 := by rw [List.length_map]; exact short
  have nodup : (under x y rows).Nodup := nodup_under short
  have count : (p.draw x y rows).1.litCount + 2 * met = p.litCount + bits := by
    have conserved := litCount_flips nodup p
    rw [length_under] at conserved
    rw [draw_eq_plot]
    exact conserved
  have hit : (p.draw x y rows).2 = true ↔ 0 < met := by
    rw [draw_eq_plot]
    exact snd_flips_iff nodup p
  refine ⟨nodup, (p.draw x y rows).1, (p.draw x y rows).2,
    ((p.draw x y rows).1.draw x y rows).2, ?_, ?_, count, hit, ?_, snd_draw_draw short p⟩
  · exact drawIntegers_of_fits p across down bytes
  · rw [drawIntegers_of_fits _ across down bytes]
    show Except.ok ((p.draw x y rows).1.draw x y rows) = _
    rw [Except.ok.injEq, Prod.ext_iff]
    exact ⟨draw_draw p x y rows, rfl⟩
  · rw [hit]
    omega

/-- A sprite round a corner of the screen, of whose four bits one falls on a lit pixel. -/
theorem litCount_drawIntegers_round_a_corner :
    let p := blank.flip (0, 0)
    let sprite : List Int := [0xC0, 0xC0]
    Signed.fits32 63 ∧ Signed.fits32 31 ∧ (∀ v ∈ sprite, 0 ≤ v ∧ v < 256) ∧ sprite.length ≤ 32 ∧
      under 63 31 (sprite.map rowOf) = [(63, 31), (0, 31), (63, 0), (0, 0)] ∧
      p.litCount = 1 ∧
      ∃ after, p.drawIntegers 63 31 sprite = .ok (after, true) ∧ after.litCount = 3 ∧
        after.drawIntegers 63 31 sprite = .ok (p, true) := by
  intro p sprite
  have one : p.litCount = 1 := by
    have flipped := litCount_flip blank (0, 0)
    rw [litCount_blank, lit_blank, Bool.toNat_false] at flipped
    exact Nat.add_right_cancel flipped
  have lit : ∀ q : Pixel, p.lit q.1 q.2 = decide (q = (0, 0)) := by
    intro q
    rw [lit_flip, lit_blank, Bool.false_xor]
  -- nothing else is asked of the screen
  clear_value p
  have bytes : ∀ v ∈ sprite, 0 ≤ v ∧ v < 256 := by decide
  have falls : under 63 31 (sprite.map rowOf) = [(63, 31), (0, 31), (63, 0), (0, 0)] := by decide
  have met : p.litAmong (under 63 31 (sprite.map rowOf)) = 1 := by
    rw [falls]
    simp only [litAmong, lit]
    decide
  have bits : (setBits (sprite.map rowOf)).length = 4 := by decide
  obtain ⟨-, after, hit, again, drawn, redrawn, count, collides, -, collides'⟩ :=
    litCount_drawIntegers p (x := 63) (y := 31) rfl rfl bytes (by decide)
  rw [met, bits] at collides' count
  rw [met] at collides
  rw [collides.mpr (by omega)] at drawn
  rw [collides'.mpr (by omega)] at redrawn
  exact ⟨rfl, rfl, bytes, by decide, falls, one, after, drawn, by omega, redrawn⟩

end Screen

end Chip8
