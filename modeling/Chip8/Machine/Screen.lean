/-
  The screen: 64 columns and 32 rows of pixels that are lit or dark, joined at opposite edges.

  A sprite is a list of rows, one byte each, the most significant bit leftmost.  `stamp` is the
  picture of a sprite on an otherwise dark screen, `blit` flips the pixels of a stamp and tells
  whether one of them was lit before.  A sprite taller than the screen falls on rows that it has
  already flipped, so `draw` goes through it in pieces of 32 rows, each starting again at the top
  row of the sprite.

  A screen is the function `lit` of its pixels (`ext`); `lit_ofFn`, `lit_xor` and `lit_blit` say
  what each operation does to that function, and nothing below needs to look at the cells.
-/
import Chip8.Number.Signed

namespace Chip8

/-- The pixels, column after column. -/
structure Screen where
  cells : Vector Bool 2048
deriving DecidableEq

namespace Screen

/-- The number of columns. -/
def width : Nat := 64

/-- The number of rows. -/
def height : Nat := 32

/-- The screen whose pixel in column `x` and row `y` is `f x y`. -/
def ofFn (f : Fin 64 → Fin 32 → Bool) : Screen :=
  ⟨Vector.ofFn fun k => f ⟨k.val / 32, by omega⟩ ⟨k.val % 32, by omega⟩⟩

/-- Whether the pixel in column `x` and row `y` is lit. -/
def lit (p : Screen) (x : Fin 64) (y : Fin 32) : Bool :=
  p.cells[32 * x.val + y.val]

/-- Every pixel dark. -/
def blank : Screen := ofFn fun _ _ => false

/-- The number of lit pixels. -/
def litCount (p : Screen) : Nat := p.cells.count true

/-- The pixels that are lit on exactly one of two screens. -/
def xor (p q : Screen) : Screen := ⟨Vector.zipWith Bool.xor p.cells q.cells⟩

/-- Whether some pixel is lit on both screens. -/
def overlaps (p q : Screen) : Bool := (Vector.zipWith and p.cells q.cells).any id

/-! ## Sprites -/

/-- Whether a sprite has a bit `dx` to the right of and `dy` below its corner. -/
def spriteBit (rows : List UInt8) (dx dy : Nat) : Bool := (rows.getD dy 0).toBitVec.getMsbD dx

/-- At most 32 sprite rows with their corner in column `x` and row `y`, on a dark screen. -/
def stamp (x y : Int) (rows : List UInt8) : Screen :=
  ofFn fun cx cy => spriteBit rows ((cx.val - x) % 64).toNat ((cy.val - y) % 32).toNat

/-- Flips the pixels under at most 32 sprite rows and tells whether one of them was lit. -/
def blit (p : Screen) (x y : Int) (rows : List UInt8) : Screen × Bool :=
  let s := stamp x y rows
  (p.xor s, p.overlaps s)

/-- Flips the pixels under a sprite of any height, 32 rows at a time, and tells whether a lit pixel
    was switched off on the way. -/
def draw (p : Screen) (x y : Int) (sprite : List UInt8) : Screen × Bool :=
  if sprite = [] then (p, false)
  else
    let upper := p.blit x y (sprite.take 32)
    let lower := upper.1.draw x y (sprite.drop 32)
    (lower.1, upper.2 || lower.2)
termination_by sprite.length
decreasing_by
  rename_i h
  have := List.length_pos_iff.2 h
  simp only [List.length_drop]; omega

/-! ## Requests from outside, which may be out of range -/

/-- A pixel position outside the screen. -/
structure Outside where
  x : Int
  y : Int
deriving DecidableEq, Repr

/-- Says which position is outside. -/
def Outside.message (e : Outside) : String :=
  s!"Pixel ({e.x}, {e.y}) outside {width}x{height} plane"

/-- The pixel at a position, which is not wrapped. -/
def pixel (p : Screen) (x y : Int) : Except Outside Bool :=
  if h : (0 ≤ x ∧ x < 64) ∧ 0 ≤ y ∧ y < 32 then
    .ok (p.lit ⟨x.toNat, by omega⟩ ⟨y.toNat, by omega⟩)
  else .error ⟨x, y⟩

/-- Why a sprite given as integers cannot be drawn. -/
inductive DrawError
  /-- A row is not a byte. -/
  | row
  /-- The corner does not fit 32 bits with a sign. -/
  | corner
deriving DecidableEq, Repr

/-- The byte of a number from 0 to 255. -/
def byte? (v : Int) : Option UInt8 :=
  if 0 ≤ v ∧ v < 256 then some (UInt8.ofNat v.toNat) else none

/-- Draws rows given as integers.  Bad rows are noticed first; the corner matters only to a sprite
    that has rows. -/
def drawIntegers (p : Screen) (x y : Int) (sprite : List Int) : Except DrawError (Screen × Bool) :=
  match sprite.mapM byte? with
  | none => .error .row
  | some rows =>
    if rows.isEmpty || (Signed.fits32 x && Signed.fits32 y) then .ok (p.draw x y rows) else .error .corner

/-- A one line description. -/
def summary (p : Screen) : String := s!"Framebuffer(lit={p.litCount})"

/-! ## A screen as the function of its pixels -/

@[simp] theorem lit_ofFn (f : Fin 64 → Fin 32 → Bool) (x : Fin 64) (y : Fin 32) :
    (ofFn f).lit x y = f x y := by
  simp only [lit, ofFn, Vector.getElem_ofFn]
  congr 1 <;> apply Fin.ext <;> simp only <;> omega

@[ext] theorem ext {p q : Screen} (h : ∀ x y, p.lit x y = q.lit x y) : p = q := by
  obtain ⟨a⟩ := p
  obtain ⟨b⟩ := q
  congr 1
  apply Vector.ext
  intro k hk
  have := h ⟨k / 32, by omega⟩ ⟨k % 32, by omega⟩
  simp only [lit] at this
  simpa only [show 32 * (k / 32) + k % 32 = k by omega] using this

@[simp] theorem lit_blank (x : Fin 64) (y : Fin 32) : blank.lit x y = false := by
  simp [blank]

@[simp] theorem lit_xor (p q : Screen) (x : Fin 64) (y : Fin 32) :
    (p.xor q).lit x y = (p.lit x y ^^ q.lit x y) := by
  simp [lit, xor]

theorem overlaps_eq_true_iff (p q : Screen) :
    p.overlaps q = true ↔ ∃ x y, p.lit x y = true ∧ q.lit x y = true := by
  simp only [overlaps, Vector.any_eq_true, id_eq, Vector.getElem_zipWith, Bool.and_eq_true, lit]
  constructor
  · rintro ⟨k, hk, h⟩
    refine ⟨⟨k / 32, by omega⟩, ⟨k % 32, by omega⟩, ?_⟩
    simpa only [show 32 * (k / 32) + k % 32 = k by omega] using h
  · rintro ⟨x, y, h⟩
    exact ⟨32 * x.val + y.val, by omega, h⟩

@[simp] theorem lit_stamp (x y : Int) (rows : List UInt8) (cx : Fin 64) (cy : Fin 32) :
    (stamp x y rows).lit cx cy =
      spriteBit rows ((cx.val - x) % 64).toNat ((cy.val - y) % 32).toNat := by
  simp [stamp]

theorem lit_blit (p : Screen) (x y : Int) (rows : List UInt8) (cx : Fin 64) (cy : Fin 32) :
    (p.blit x y rows).1.lit cx cy =
      (p.lit cx cy ^^ spriteBit rows ((cx.val - x) % 64).toNat ((cy.val - y) % 32).toNat) := by
  simp [blit]

theorem draw_nil (p : Screen) (x y : Int) : p.draw x y [] = (p, false) := by
  rw [draw, if_pos rfl]

/-- A sprite that is not taller than the screen is one `blit`. -/
theorem draw_eq_blit (p : Screen) (x y : Int) {sprite : List UInt8} (h : sprite ≠ [])
    (short : sprite.length ≤ 32) : p.draw x y sprite = p.blit x y sprite := by
  rw [draw, if_neg h, List.take_of_length_le short, List.drop_of_length_le short]
  simp [draw_nil]

end Screen

end Chip8
