/-
  Sprites bit by bit.

  A sprite is drawn by asking of every pixel which bit of the sprite lies over it, in pieces of 32 rows.
  The plain way to draw it is to go through its set bits, row by row and from the left, and to flip the
  pixel that each of them falls on (`plot`).  Both leave the same screen and tell the same about lit
  pixels that were switched off.

  What is needed for this:

  * `lit_flips`: pixels that are flipped one after the other end as they began, but for the PARITY of the
    number of flips, so that their order does not matter to the screen;
  * `blit_eq_flips`: pixels of which none comes twice can be flipped all at once, and one that is lit when
    its turn comes was lit at the beginning;
  * `mem_under` and `nodup_under`: the set bits of at most 32 rows fall on the pixels of the stamp, each on
    one of its own;
  * `under_split`: from row 32 on the rows of a sprite fall where they would if they were the first.

  With these `draw_eq_plot` is an induction on the pieces.  The offsets from the corner may as well be taken
  in words of 32 bits that overflow (`stamp_eq_covered`), since a turn through all of them is a whole
  number of screens.  Sprites drawn one after the other are pixels flipped one after the other
  (`drawAll_eq_flips`), which is why their order does not matter either.
-/
import Chip8.Machine.Screen
import Mathlib.Data.List.Nodup

namespace Chip8

/-- The place of a pixel: its column and its row. -/
abbrev Pixel := Fin 64 × Fin 32

namespace Screen

/-! ## Drawing bit by bit -/

/-- The pixel at a position, which is taken round the edges of the screen. -/
def around (x y : Int) : Pixel :=
  (⟨(x % 64).toNat, by omega⟩, ⟨(y % 32).toNat, by omega⟩)

/-- One pixel flipped. -/
def flip (p : Screen) (q : Pixel) : Screen := ofFn fun x y => p.lit x y ^^ decide ((x, y) = q)

/-- Pixels flipped one after the other, and whether one of them was lit when its turn came. -/
def flips (p : Screen) : List Pixel → Screen × Bool
  | [] => (p, false)
  | q :: rest =>
    let r := (p.flip q).flips rest
    (r.1, p.lit q.1 q.2 || r.2)

/-- The set bits of a row, from the left. -/
def rowBits (row : UInt8) : List Nat := (List.range 8).filter fun j => row.toBitVec.getMsbD j

/-- The set bits of rows, of which the first is row `i`: row by row and from the left, each as its row and
    its place in the row. -/
def bitsFrom (i : Nat) : List UInt8 → List (Nat × Nat)
  | [] => []
  | row :: rest => (rowBits row).map (fun j => (i, j)) ++ bitsFrom (i + 1) rest

/-- The set bits of a sprite. -/
def setBits (rows : List UInt8) : List (Nat × Nat) := bitsFrom 0 rows

/-- The pixels that the set bits of a sprite fall on, one after the other. -/
def under (x y : Int) (rows : List UInt8) : List Pixel :=
  (setBits rows).map fun b => around (x + b.2) (y + b.1)

/-- Draws a sprite of any height bit by bit and tells whether a lit pixel was switched off on the way. -/
def plot (p : Screen) (x y : Int) (rows : List UInt8) : Screen × Bool := p.flips (under x y rows)

/-- Whether a bit of at most 32 rows lies over a pixel, as it is looked up in words of 32 bits.  The offsets
    from the corner overflow; the row and the bit that are looked up are the last ones beyond the end of
    the sprite, and then do not count. -/
def covered (x y : Int) (rows : List UInt8) (cx : Fin 64) (cy : Fin 32) : Bool :=
  let dx := (Signed.last32 (cx.val - x) % 64).toNat
  let dy := (Signed.last32 (cy.val - y) % 32).toNat
  let row := rows.getD (min dy (rows.length - 1)) 0
  row.toNat.testBit (7 - min dx 7) && (decide (dx < 8) && decide (dy < rows.length))

/-! ## Flipping -/

variable {x y : Int} {rows : List UInt8}

@[simp] theorem lit_flip (p : Screen) (q : Pixel) (cx : Fin 64) (cy : Fin 32) :
    (p.flip q).lit cx cy = (p.lit cx cy ^^ decide ((cx, cy) = q)) := by
  simp [flip]

/-- Flips that are done one after the other count by their parity alone. -/
theorem lit_flips (cx : Fin 64) (cy : Fin 32) : ∀ (s : List Pixel) (p : Screen),
    (p.flips s).1.lit cx cy = (p.lit cx cy ^^ decide (s.count (cx, cy) % 2 = 1)) := by
  intro s
  induction s with
  | nil => intro p; simp [flips]
  | cons q rest ih =>
    intro p
    rw [flips, ih, lit_flip, Bool.xor_assoc]
    congr 1
    by_cases same : (cx, cy) = q
    · subst same
      rw [List.count_cons_self, decide_eq_true rfl, Bool.true_xor, ← decide_not, decide_eq_decide]
      omega
    · rw [List.count_cons_of_ne (Ne.symm same), decide_eq_false same, Bool.false_xor]

theorem flips_append : ∀ (s t : List Pixel) (p : Screen),
    p.flips (s ++ t) = (((p.flips s).1.flips t).1, (p.flips s).2 || ((p.flips s).1.flips t).2) := by
  intro s t
  induction s with
  | nil => intro p; simp [flips]
  | cons q rest ih =>
    intro p
    rw [List.cons_append, flips, ih]
    simp only [flips, Bool.or_assoc]

/-- A pixel that is flipped twice is as it was, and was lit at one of the two. -/
theorem flips_pair (p : Screen) (q : Pixel) : p.flips [q, q] = (p, true) := by
  have back : (p.flip q).flip q = p := by
    ext cx cy
    rw [lit_flip, lit_flip, Bool.xor_assoc, Bool.xor_self, Bool.xor_false]
  have lit : (p.flip q).lit q.1 q.2 = !p.lit q.1 q.2 := by
    rw [lit_flip, decide_eq_true rfl, Bool.xor_true]
  simp only [flips, back, lit, Bool.or_false, Bool.or_not_self]

/-- A flip has no say in pixels elsewhere. -/
theorem lit_flip_elsewhere {s : List Pixel} {q r : Pixel} (elsewhere : q ∉ s) (member : r ∈ s)
    (p : Screen) : (p.flip q).lit r.1 r.2 = p.lit r.1 r.2 := by
  have other : (r.1, r.2) ≠ q := by
    rintro rfl
    exact elsewhere member
  rw [lit_flip, decide_eq_false other, Bool.xor_false]

/-- Of pixels of which none comes twice, those that come an odd number of times are those that come. -/
theorem odd_count_iff {s : List Pixel} (nodup : s.Nodup) {q : Pixel} : s.count q % 2 = 1 ↔ q ∈ s := by
  constructor
  · intro odd
    exact List.count_pos_iff.mp (by omega)
  · intro member
    rw [List.count_eq_one_of_mem nodup member]

/-- Among pixels of which none comes twice, one that is lit when its turn comes was lit before. -/
theorem snd_flips_of_nodup : ∀ {s : List Pixel}, s.Nodup → ∀ p : Screen,
    ((p.flips s).2 = true ↔ ∃ q ∈ s, p.lit q.1 q.2 = true) := by
  intro s
  induction s with
  | nil => intro _ p; simp [flips]
  | cons q rest ih =>
    intro nodup p
    obtain ⟨fresh, nodup⟩ := List.nodup_cons.mp nodup
    rw [flips, Bool.or_eq_true, ih nodup]
    simp only [List.mem_cons, exists_eq_or_imp]
    refine or_congr Iff.rfl (exists_congr fun r => and_congr_right fun member => ?_)
    -- the flip of `q` does not touch what comes after it
    rw [lit_flip_elsewhere fresh member]

/-- Pixels of which none comes twice are flipped one after the other as they are all at once. -/
theorem blit_eq_flips {s : List Pixel} (nodup : s.Nodup)
    (cover : ∀ cx cy, (cx, cy) ∈ s ↔ (stamp x y rows).lit cx cy = true) (p : Screen) :
    p.blit x y rows = p.flips s := by
  have screen : p.xor (stamp x y rows) = (p.flips s).1 := by
    ext cx cy
    have once : decide (s.count (cx, cy) % 2 = 1) = (stamp x y rows).lit cx cy := by
      rw [Bool.eq_iff_iff, ← cover, decide_eq_true_eq]
      exact odd_count_iff nodup
    rw [lit_xor, lit_flips, once]
  have met : p.overlaps (stamp x y rows) = (p.flips s).2 := by
    rw [Bool.eq_iff_iff, overlaps_eq_true_iff, snd_flips_of_nodup nodup]
    constructor
    · rintro ⟨cx, cy, lit, stamped⟩
      exact ⟨(cx, cy), (cover cx cy).mpr stamped, lit⟩
    · rintro ⟨⟨cx, cy⟩, member, lit⟩
      exact ⟨cx, cy, lit, (cover cx cy).mp member⟩
  exact Prod.ext screen met

/-! ## The set bits of a sprite -/

theorem mem_rowBits {row : UInt8} {j : Nat} : j ∈ rowBits row ↔ row.toBitVec.getMsbD j = true := by
  rw [rowBits, List.mem_filter, List.mem_range]
  constructor
  · exact fun h => h.2
  · intro set
    refine ⟨?_, set⟩
    by_contra beyond
    rw [BitVec.getMsbD_of_ge _ _ (by omega)] at set
    cases set

theorem nodup_rowBits (row : UInt8) : (rowBits row).Nodup := List.nodup_range.filter _

theorem bitsFrom_append (upper lower : List UInt8) : ∀ i : Nat,
    bitsFrom i (upper ++ lower) = bitsFrom i upper ++ bitsFrom (i + upper.length) lower := by
  induction upper with
  | nil => intro i; simp [bitsFrom]
  | cons row rest ih =>
    intro i
    rw [List.cons_append, bitsFrom, ih, bitsFrom, List.append_assoc, List.length_cons]
    congr 3
    omega

/-- Rows that begin further down have their bits further down. -/
theorem bitsFrom_add (n : Nat) : ∀ (rows : List UInt8) (i : Nat),
    bitsFrom (i + n) rows = (bitsFrom i rows).map fun b => (b.1 + n, b.2) := by
  intro rows
  induction rows with
  | nil => intro i; rfl
  | cons row rest ih =>
    intro i
    rw [bitsFrom, bitsFrom, List.map_append, ← ih, List.map_map, Nat.add_right_comm]
    rfl

theorem mem_bitsFrom : ∀ {rows : List UInt8} {k i j : Nat},
    (i, j) ∈ bitsFrom k rows ↔ k ≤ i ∧ spriteBit rows j (i - k) = true := by
  intro rows
  induction rows with
  | nil =>
    intro k i j
    have none : spriteBit [] j (i - k) = false := by simp [spriteBit]
    simp [bitsFrom, none]
  | cons row rest ih =>
    intro k i j
    rw [bitsFrom, List.mem_append, ih, List.mem_map]
    constructor
    · rintro (⟨j', member, same⟩ | ⟨below, set⟩)
      · cases same
        refine ⟨Nat.le_refl k, ?_⟩
        rw [Nat.sub_self]
        exact mem_rowBits.mp member
      · refine ⟨by omega, ?_⟩
        rw [show i - k = i - (k + 1) + 1 by omega]
        exact set
    · rintro ⟨from_, set⟩
      rcases Nat.eq_or_lt_of_le from_ with rfl | below
      · rw [Nat.sub_self] at set
        exact Or.inl ⟨j, mem_rowBits.mpr set, rfl⟩
      · rw [show i - k = i - (k + 1) + 1 by omega] at set
        exact Or.inr ⟨below, set⟩

theorem mem_setBits {i j : Nat} : (i, j) ∈ setBits rows ↔ spriteBit rows j i = true := by
  rw [setBits, mem_bitsFrom, Nat.sub_zero]
  exact and_iff_right (Nat.zero_le i)

theorem nodup_bitsFrom : ∀ (rows : List UInt8) (k : Nat), (bitsFrom k rows).Nodup := by
  intro rows
  induction rows with
  | nil => intro k; exact List.nodup_nil
  | cons row rest ih =>
    intro k
    refine List.nodup_append.mpr ⟨?_, ih (k + 1), ?_⟩
    · exact (nodup_rowBits row).map fun j j' same => (Prod.mk.inj same).2
    · -- the bits of the first row are in row `k`, the others are below it
      intro b first b' other same
      obtain ⟨j, -, rfl⟩ := List.mem_map.mp first
      subst same
      exact absurd (mem_bitsFrom.mp other).1 (by omega)

/-- A set bit is in one of eight columns and in a row of the sprite. -/
theorem lt_of_spriteBit {i j : Nat} (set : spriteBit rows j i = true) : j < 8 ∧ i < rows.length := by
  constructor
  · by_contra beyond
    rw [spriteBit, BitVec.getMsbD_of_ge _ _ (by omega)] at set
    cases set
  · by_contra beyond
    have none : rows.getD i 0 = 0 := by
      rw [List.getD_eq_getElem?_getD, List.getElem?_eq_none (by omega), Option.getD_none]
    rw [spriteBit, none] at set
    simp at set

/-! ## Where they fall -/

theorem around_eq_iff {cx : Fin 64} {cy : Fin 32} :
    around x y = (cx, cy) ↔ x % 64 = cx.val ∧ y % 32 = cy.val := by
  have := cx.isLt
  have := cy.isLt
  rw [around, Prod.mk.injEq, Fin.ext_iff, Fin.ext_iff]
  show (x % 64).toNat = cx.val ∧ (y % 32).toNat = cy.val ↔ _
  omega

/-- At most 32 rows have a set bit over a pixel if their stamp is lit there. -/
theorem mem_under (short : rows.length ≤ 32) (cx : Fin 64) (cy : Fin 32) :
    (cx, cy) ∈ under x y rows ↔ (stamp x y rows).lit cx cy = true := by
  have := cx.isLt
  have := cy.isLt
  rw [under, List.mem_map, lit_stamp]
  constructor
  · rintro ⟨⟨i, j⟩, member, falls⟩
    have set := mem_setBits.mp member
    obtain ⟨across, down⟩ := lt_of_spriteBit set
    obtain ⟨column, row⟩ := around_eq_iff.mp falls
    rw [show ((cx.val - x) % 64).toNat = j by omega, show ((cy.val - y) % 32).toNat = i by omega]
    exact set
  · intro set
    refine ⟨(_, _), mem_setBits.mpr set, around_eq_iff.mpr ?_⟩
    show (x + (((cx.val - x) % 64).toNat : Nat)) % 64 = _ ∧
      (y + (((cy.val - y) % 32).toNat : Nat)) % 32 = _
    omega

/-- No two of them lie over the same pixel. -/
theorem nodup_under (short : rows.length ≤ 32) : (under x y rows).Nodup := by
  refine (nodup_bitsFrom rows 0).map_on ?_
  rintro ⟨i, j⟩ member ⟨i', j'⟩ member' same
  obtain ⟨across, down⟩ := lt_of_spriteBit (mem_setBits.mp member)
  obtain ⟨across', down'⟩ := lt_of_spriteBit (mem_setBits.mp member')
  obtain ⟨column, row⟩ := around_eq_iff.mp same
  have column : (x + j) % 64 = ((x + j') % 64).toNat := column
  have row : (y + i) % 32 = ((y + i') % 32).toNat := row
  rw [Prod.mk.injEq]
  omega

/-- From row 32 on the rows fall where they would if they were the first. -/
theorem under_split (x y : Int) (rows : List UInt8) :
    under x y rows = under x y (rows.take 32) ++ under x y (rows.drop 32) := by
  by_cases tall : rows.length ≤ 32
  · rw [List.take_of_length_le tall, List.drop_of_length_le tall]
    exact (List.append_nil _).symm
  · have length : (rows.take 32).length = 32 := by
      rw [List.length_take]
      omega
    have bits : setBits rows =
        setBits (rows.take 32) ++ (setBits (rows.drop 32)).map fun b => (b.1 + 32, b.2) := by
      rw [setBits, ← List.take_append_drop 32 rows, bitsFrom_append, length, bitsFrom_add,
        List.take_append_drop]
      rfl
    rw [under, bits, List.map_append, List.map_map]
    congr 1
    refine List.map_congr_left ?_
    rintro ⟨i, j⟩ -
    refine around_eq_iff.mpr ⟨?_, ?_⟩
    · show (x + (j : Int)) % 64 = ((x + (j : Int)) % 64).toNat
      omega
    · show (y + ((i + 32 : Nat) : Int)) % 32 = ((y + (i : Int)) % 32).toNat
      omega

/-! ## Both ways of drawing -/

theorem plot_split (p : Screen) (x y : Int) (rows : List UInt8) :
    p.plot x y rows =
      (((p.plot x y (rows.take 32)).1.plot x y (rows.drop 32)).1,
        (p.plot x y (rows.take 32)).2 || ((p.plot x y (rows.take 32)).1.plot x y (rows.drop 32)).2) := by
  rw [plot, under_split, flips_append]
  rfl

/-- **A sprite of any height is drawn as it is bit by bit**, by induction on its pieces. -/
theorem draw_eq_plot (p : Screen) (x y : Int) (sprite : List UInt8) :
    p.draw x y sprite = p.plot x y sprite := by
  fun_induction draw p x y sprite with
  | case1 p => rfl
  | case2 p sprite some upper lower ih =>
    have short : (sprite.take 32).length ≤ 32 := by
      rw [List.length_take]
      omega
    have first : upper = p.plot x y (sprite.take 32) :=
      blit_eq_flips (nodup_under short) (mem_under short) p
    have second : lower = (p.plot x y (sprite.take 32)).1.plot x y (sprite.drop 32) := by
      rw [← first]
      exact ih
    rw [plot_split, first, second]

/-! ## Corners and rows given as integers -/

/-- Looking bits up in words of 32 bits makes no difference, wherever the corner is. -/
theorem stamp_eq_covered (x y : Int) (rows : List UInt8) : stamp x y rows = ofFn (covered x y rows) := by
  ext cx cy
  have across : Signed.last32 (cx.val - x) % 64 = (cx.val - x) % 64 := by
    simp only [Signed.last32]
    omega
  have down : Signed.last32 (cy.val - y) % 32 = (cy.val - y) % 32 := by
    simp only [Signed.last32]
    omega
  rw [lit_stamp, lit_ofFn, covered, across, down]
  generalize ((cx.val - x) % 64).toNat = dx
  generalize ((cy.val - y) % 32).toNat = dy
  by_cases within : dx < 8 ∧ dy < rows.length
  · have column : min dx 7 = dx := by omega
    have row : min dy (rows.length - 1) = dy := by omega
    simp only [column, row, within.1, within.2, decide_true, Bool.and_true]
    rw [spriteBit, BitVec.getMsbD, decide_eq_true within.1, Bool.true_and]
    rfl
  · have none : spriteBit rows dx dy = false := by
      rw [Bool.eq_false_iff]
      exact fun set => within (lt_of_spriteBit set)
    have outside : (decide (dx < 8) && decide (dy < rows.length)) = false := by
      rw [← Bool.decide_and, decide_eq_false within]
    simp only [none, outside, Bool.and_false]

/-- The row of a number from 0 to 255. -/
def rowOf (v : Int) : UInt8 := UInt8.ofNat v.toNat

theorem mapM_byte? {sprite : List Int} (bytes : ∀ v ∈ sprite, 0 ≤ v ∧ v < 256) :
    sprite.mapM byte? = some (sprite.map rowOf) := by
  induction sprite with
  | nil => rfl
  | cons v rest ih =>
    obtain ⟨head, tail⟩ := List.forall_mem_cons.mp bytes
    rw [List.mapM_cons, ih tail, byte?, if_pos head]
    rfl

/-- **Drawing is drawing bit by bit.**  From a corner anywhere in 32 bits, rows that are bytes are never
    refused, and sprites of any height leave the screen and tell the collision that they do when their set
    bits are gone through in order, each flipping the pixel that it falls on; the pixels that are flipped
    together are those whose bits are looked up with offsets that overflow. -/
theorem drawIntegers_eq_plot (p : Screen) {x y : Int} (across : Signed.fits32 x) (down : Signed.fits32 y)
    {sprite : List Int} (bytes : ∀ v ∈ sprite, 0 ≤ v ∧ v < 256) :
    p.drawIntegers x y sprite = .ok (p.plot x y (sprite.map rowOf)) ∧
      ∀ piece : List UInt8,
        p.blit x y piece = (p.xor (ofFn (covered x y piece)), p.overlaps (ofFn (covered x y piece))) := by
  constructor
  · rw [drawIntegers, mapM_byte? bytes]
    simp only [across, down, Bool.and_true, Bool.or_true, if_true]
    rw [draw_eq_plot]
  · intro piece
    rw [← stamp_eq_covered]
    rfl

/-- A sprite of 33 rows at the ends of both ranges: its last row falls on its first and switches it off. -/
theorem drawIntegers_eq_plot_at_the_ends :
    let sprite : List Int := 0x80 :: (List.replicate 31 0 ++ [0x80])
    Signed.fits32 (-0x80000000) ∧ Signed.fits32 0x7FFFFFFF ∧ (∀ v ∈ sprite, 0 ≤ v ∧ v < 256) ∧
      under (-0x80000000) 0x7FFFFFFF (sprite.map rowOf) = [(0, 31), (0, 31)] ∧
      blank.drawIntegers (-0x80000000) 0x7FFFFFFF sprite = .ok (blank, true) := by
  intro sprite
  have bytes : ∀ v ∈ sprite, 0 ≤ v ∧ v < 256 := by decide
  have twice : under (-0x80000000) 0x7FFFFFFF (sprite.map rowOf) = [(0, 31), (0, 31)] := by decide
  obtain ⟨drawn, -⟩ := drawIntegers_eq_plot blank (x := -0x80000000) (y := 0x7FFFFFFF) rfl rfl bytes
  refine ⟨rfl, rfl, bytes, twice, ?_⟩
  rw [drawn, plot, twice, flips_pair]

/-! ## One sprite after the other -/

/-- A sprite, and the corner that it is drawn from. -/
structure Stroke where
  x : Int
  y : Int
  rows : List UInt8

/-- The set bits of a sprite that fall on a pixel, each as its row and its place in the row. -/
def Stroke.on (s : Stroke) (cx : Fin 64) (cy : Fin 32) : List (Nat × Nat) :=
  (setBits s.rows).filter fun b =>
    decide ((s.x + b.2) % 64 = cx.val) && decide ((s.y + b.1) % 32 = cy.val)

/-- Draws one sprite after the other. -/
def drawAll (p : Screen) (strokes : List Stroke) : Screen :=
  strokes.foldl (fun q s => (q.draw s.x s.y s.rows).1) p

theorem drawAll_eq_flips : ∀ (strokes : List Stroke) (p : Screen),
    p.drawAll strokes = (p.flips (strokes.flatMap fun s => under s.x s.y s.rows)).1 := by
  intro strokes
  induction strokes with
  | nil => intro p; rfl
  | cons s rest ih =>
    intro p
    rw [List.flatMap_cons, flips_append, drawAll, List.foldl_cons, draw_eq_plot]
    exact ih _

theorem count_under (s : Stroke) (cx : Fin 64) (cy : Fin 32) :
    (under s.x s.y s.rows).count (cx, cy) = (s.on cx cy).length := by
  rw [under, List.count_eq_countP, List.countP_map, List.countP_eq_length_filter, Stroke.on]
  congr 1
  refine List.filter_congr ?_
  rintro b -
  rw [Bool.eq_iff_iff, Bool.and_eq_true, decide_eq_true_eq, decide_eq_true_eq, ← around_eq_iff]
  exact beq_iff_eq

/-- The number of set bits of all sprites that fall on a pixel decides what becomes of it. -/
theorem lit_drawAll (strokes : List Stroke) (p : Screen) (cx : Fin 64) (cy : Fin 32) :
    (p.drawAll strokes).lit cx cy =
      (p.lit cx cy ^^ decide ((strokes.flatMap fun s => s.on cx cy).length % 2 = 1)) := by
  have number : (strokes.flatMap fun s => under s.x s.y s.rows).count (cx, cy) =
      (strokes.flatMap fun s => s.on cx cy).length := by
    induction strokes with
    | nil => rfl
    | cons s rest ih =>
      rw [List.flatMap_cons, List.flatMap_cons, List.count_append, List.length_append, ih, count_under]
  rw [drawAll_eq_flips, lit_flips, number]

/-- **The order of drawing does not matter.**  Every pixel ends as it began but for the parity of the number
    of set bits, over all sprites, that fall on it.  So sprites may be drawn in any order, and of two that
    are the same neither leaves a trace, whatever is drawn between them. -/
theorem drawAll_in_any_order (p : Screen) (strokes : List Stroke) :
    (∀ cx cy, (p.drawAll strokes).lit cx cy =
      (p.lit cx cy ^^ decide ((strokes.flatMap fun s => s.on cx cy).length % 2 = 1))) ∧
    (∀ strokes', strokes.Perm strokes' → p.drawAll strokes' = p.drawAll strokes) ∧
    ∀ (s : Stroke) (before between after : List Stroke),
      strokes = before ++ s :: (between ++ s :: after) →
        p.drawAll strokes = p.drawAll (before ++ (between ++ after)) := by
  refine ⟨lit_drawAll strokes p, ?_, ?_⟩
  · intro strokes' perm
    ext cx cy
    rw [lit_drawAll, lit_drawAll, (perm.flatMap_right fun s => s.on cx cy).length_eq]
  · rintro s before between after rfl
    ext cx cy
    rw [lit_drawAll, lit_drawAll]
    simp only [List.flatMap_append, List.flatMap_cons, List.length_append]
    -- the bits of the two have an even number
    congr 2
    rw [eq_iff_iff]
    omega

/-- A sprite that falls on itself, drawn twice with another between, and in another order. -/
theorem drawAll_in_any_order_of_overlapping_strokes :
    let tall : Stroke := ⟨-3, 0x7FFFFFFF, List.replicate 40 0xA5⟩
    let small : Stroke := ⟨61, 31, [0xFF, 0x81]⟩
    [tall, small, tall].Perm [tall, tall, small] ∧
      blank.drawAll [tall, tall, small] = blank.drawAll [tall, small, tall] ∧
      blank.drawAll [tall, small, tall] = blank.drawAll [small] ∧
      (blank.drawAll [tall, small, tall]).lit 63 31 = true := by
  intro tall small
  have perm : [tall, small, tall].Perm [tall, tall, small] := (List.Perm.swap tall small []).cons tall
  obtain ⟨lit, any, twice⟩ := drawAll_in_any_order blank [tall, small, tall]
  have cancelled := twice tall [] [small] [] rfl
  rw [List.nil_append, List.append_nil] at cancelled
  have odd : ([tall, small, tall].flatMap fun s => s.on 63 31).length % 2 = 1 := by decide
  refine ⟨perm, any _ perm, cancelled, (lit 63 31).trans ?_⟩
  rw [lit_blank, decide_eq_true odd, Bool.false_xor]

end Screen

end Chip8
