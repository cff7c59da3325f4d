/-
  Pictures of pixel planes.

  A picture is made of square cells, each of one colour.  `Image.render` shows a plane of lit and
  dark pixels in two colours, each pixel as a cell of `scale` by `scale` picture points; a scale
  below one counts as one.  Planes are read by column and row, the points of a picture by row and
  column.  `getElem?_spread` says what repeating each item does to a list, and everything about the
  points of a picture follows from it.

  A picture in memory has three bytes for each point.  One that is enlarged comes about in two steps,
  its rows being repeated first and its columns afterwards, and `Image.render?` makes none if a step
  takes more bytes than can be counted or than there is memory for.  Rows are counted in 64 bits, and a
  count that runs over them goes on with what is left of it.
-/
import Chip8.Limits
import Chip8.Number.Signed
import Chip8.Picture.Scheme

namespace Chip8

/-- A list with every item repeated `n` times in place. -/
def spread {α : Type} (n : Nat) (xs : List α) : List α := xs.flatMap (List.replicate n)

/-- A picture made of square cells. -/
structure Image where
  /-- The colours of the cells, row by row from the top. -/
  cells : List (List Color)
  /-- The side of a cell in picture points. -/
  side : Nat
deriving DecidableEq

/-- Why a picture is too large to be made. -/
inductive Oversize
  /-- The scale does not fit 64 bits. -/
  | scale
  /-- The count of rows comes out negative. -/
  | rows
  /-- The number of bytes does not fit 64 bits. -/
  | bytes
  /-- There is not so much memory. -/
  | memory
deriving DecidableEq, Repr

namespace Image

/-- The points of a picture, row by row. -/
def rows (i : Image) : List (List Color) := spread i.side (i.cells.map (spread i.side))

/-- The number of rows. -/
def height (i : Image) : Nat := i.cells.length * i.side

/-- The number of columns. -/
def width (i : Image) : Nat := (i.cells.headD []).length * i.side

/-- The side of the cell that shows one pixel. -/
def cellSide (scale : Int) : Nat := (max scale 1).toNat

/-- The picture of a plane of `w` columns and `h` rows. -/
def render {w h : Nat} (lit : Fin w → Fin h → Bool) (scale : Int) (on off : Color) : Image :=
  let row (y : Fin h) : List Color :=
    (List.finRange w).map fun x => if lit x y then on else off
  ⟨(List.finRange h).map row, cellSide scale⟩

/-- Why the picture of a plane of `w` columns and `h` rows is too large, if it is. -/
def oversize? (limits : Limits) (w h : Nat) (scale : Int) : Option Oversize :=
  let tall := Signed.last64 (h * scale)
  if scale ≤ 1 then none
  else if !Signed.fits64 scale then some .scale
  else if tall < 0 then some .rows
  else if !Signed.fits64 (3 * w * tall) then some .bytes
  else if limits.memory < 3 * w * (h * scale) then some .memory
  else if !Signed.fits64 (3 * w * (h * scale) * scale) then some .bytes
  else if limits.memory < 3 * w * (h * scale) * scale then some .memory
  else none

/-- The picture of a plane of `w` columns and `h` rows, unless it is too large. -/
def render? {w h : Nat} (lit : Fin w → Fin h → Bool) (scale : Int) (on off : Color)
    (limits : Limits := .usual) : Except Oversize Image :=
  match oversize? limits w h scale with
  | some e => .error e
  | none => .ok (render lit scale on off)

end Image

theorem length_spread {α : Type} (n : Nat) (xs : List α) :
    (spread n xs).length = xs.length * n := by
  induction xs with
  | nil => simp [spread]
  | cons x xs ih => simp_all [spread, List.flatMap_cons, Nat.add_mul]; omega

/-- Every place of a spread list shows the item whose repetitions cover it. -/
theorem getElem?_spread {α : Type} {n : Nat} (pos : 0 < n) (xs : List α) (k : Nat) :
    (spread n xs)[k]? = xs[k / n]? := by
  induction xs generalizing k with
  | nil => simp [spread]
  | cons x xs ih =>
    rw [spread, List.flatMap_cons]
    by_cases h : k < n
    · rw [List.getElem?_append_left (by simpa using h)]
      simp [h, Nat.div_eq_of_lt h]
    · rw [List.getElem?_append_right (by simpa using h), List.length_replicate]
      have := ih (k - n)
      rw [spread] at this
      rw [this, Nat.div_eq_sub_div pos (Nat.le_of_not_lt h), List.getElem?_cons_succ]

/-- A picture has as many rows as its height says. -/
theorem Image.length_rows (i : Image) : i.rows.length = i.height := by
  rw [rows, length_spread, List.length_map, height]

end Chip8
