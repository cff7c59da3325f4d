/-
  Where the pixels of a plane come to lie, in its picture and in a window.

  On its way a plane is turned over twice: it is read by column and row, its picture is made row by row,
  and a window takes a picture by its columns again, which is `Image.surface`.  In between every pixel has
  become a cell of several points.

  A point of a picture is found by dividing: `getElem?_rows_render` says that it has the colour of the one
  pixel whose cell it lies in, and `getElem?_surface` that turning a picture round leaves every point
  where it is.  Both follow from what repeating each item does to a list (`getElem?_spread`), once for
  the rows and once within each row.

  Every pixel has points of its own, so that a picture in two colours can be read back (`lit_of_rows`).
  What a plane may lack is a picture at all, and that is a matter of its SIZE and the memory alone: of all the
  counts that can run over on the way, the number of bytes is the greatest (`oversize?_eq_none_iff`).
-/
import Chip8.Picture.Image

namespace Chip8

namespace Image

/-- The points of a picture column by column, as a window takes them. -/
def surface (i : Image) : List (List Color) :=
  (List.range i.width).map fun u => i.rows.filterMap fun row => row[u]?

/-! ## Rows -/

variable {w h : Nat} (lit : Fin w → Fin h → Bool) (scale : Int) (on off : Color)

theorem cellSide_pos : 0 < cellSide scale := by
  show 0 < (max scale 1).toNat
  omega

theorem height_render : (render lit scale on off).height = h * cellSide scale := by
  show (List.map _ (List.finRange h)).length * cellSide scale = _
  rw [List.length_map, List.length_finRange]

theorem length_row_render {row : List Color} (member : row ∈ (render lit scale on off).rows) :
    row.length = w * cellSide scale := by
  -- a row of the picture is a repeated row of cells, each of them repeated
  obtain ⟨wide, among, copy⟩ := List.mem_flatMap.mp member
  obtain ⟨cells, known, rfl⟩ := List.mem_map.mp among
  obtain ⟨y, -, rfl⟩ := List.mem_map.mp known
  rw [List.eq_of_mem_replicate copy, length_spread, List.length_map, List.length_finRange]
  rfl

theorem width_render (pos : 0 < h) : (render lit scale on off).width = w * cellSide scale := by
  obtain ⟨n, rfl⟩ : ∃ n, h = n + 1 := ⟨h - 1, by omega⟩
  show ((List.map _ (List.finRange (n + 1))).headD []).length * cellSide scale = _
  rw [List.finRange_succ, List.map_cons, List.headD_cons, List.length_map, List.length_finRange]

/-- A point has the colour of the pixel whose cell it lies in. -/
theorem getElem?_rows_render {x : Fin w} {y : Fin h} {u v : Nat}
    (across : u / cellSide scale = x.val) (down : v / cellSide scale = y.val) :
    ((render lit scale on off).rows[v]?.bind fun row => row[u]?) =
      some (if lit x y then on else off) := by
  have pos := cellSide_pos scale
  show ((spread (cellSide scale) (List.map (spread (cellSide scale))
    ((List.finRange h).map fun y => (List.finRange w).map fun x => if lit x y then on else off)))[v]?.bind
      fun row => row[u]?) = _
  rw [getElem?_spread pos, down, List.map_map, List.getElem?_map,
    List.getElem?_eq_getElem (by rw [List.length_finRange]; exact y.isLt), List.getElem_finRange]
  show (spread (cellSide scale) (List.map _ (List.finRange w)))[u]? = _
  rw [getElem?_spread pos, across, List.getElem?_map,
    List.getElem?_eq_getElem (by rw [List.length_finRange]; exact x.isLt), List.getElem_finRange]
  rfl

/-! ## Columns -/

theorem getElem?_filterMap {α β : Type} {f : α → Option β} : ∀ {xs : List α},
    (∀ a ∈ xs, (f a).isSome) → ∀ k : Nat, (xs.filterMap f)[k]? = xs[k]?.bind f := by
  intro xs
  induction xs with
  | nil => intro _ k; rfl
  | cons a rest ih =>
    intro whole k
    obtain ⟨b, found⟩ := Option.isSome_iff_exists.mp (whole a List.mem_cons_self)
    rw [List.filterMap_cons_some found]
    rcases k with _ | k
    · exact found.symm
    · exact ih (fun a later => whole a (List.mem_cons_of_mem _ later)) k

theorem length_surface (i : Image) : i.surface.length = i.width := by
  rw [surface, List.length_map, List.length_range]

variable {i : Image} {u : Nat}

/-- Every row of a picture has something to give to each of its columns. -/
theorem isSome_of_even (even : ∀ row ∈ i.rows, row.length = i.width) (within : u < i.width) :
    ∀ row ∈ i.rows, (row[u]?).isSome := by
  intro row member
  rw [List.getElem?_eq_getElem (by rw [even row member]; exact within)]
  rfl

theorem getElem?_surface (even : ∀ row ∈ i.rows, row.length = i.width) (within : u < i.width) (v : Nat) :
    (i.surface[u]?.bind fun column => column[v]?) = i.rows[v]?.bind fun row => row[u]? := by
  rw [surface, List.getElem?_map, List.getElem?_range within]
  exact getElem?_filterMap (isSome_of_even even within) v

theorem length_column (even : ∀ row ∈ i.rows, row.length = i.width) {column : List Color}
    (member : column ∈ i.surface) : column.length = i.height := by
  obtain ⟨u, within, rfl⟩ := List.mem_map.mp member
  rw [← length_rows]
  exact List.filterMap_length_eq_length.mpr (isSome_of_even even (List.mem_range.mp within))

/-! ## Size -/

variable (limits : Limits)

/-- A picture is too large exactly if it is enlarged and takes more bytes than there is memory for: the counts
    that run over 64 bits on the way belong to such pictures only. -/
theorem oversize?_eq_none_iff (wide : 0 < w) (tall : 0 < h) :
    oversize? limits w h scale = none ↔ scale ≤ 1 ∨ 3 * w * (h * scale) * scale ≤ limits.memory := by
  have addressable := limits.addressable
  unfold oversize?
  dsimp only
  by_cases small : scale ≤ 1
  · rw [if_pos small]
    exact ⟨fun _ => Or.inl small, fun _ => rfl⟩
  rw [if_neg small]
  constructor
  · intro made
    -- otherwise the last of the checks would refuse it, if none before does
    refine Or.inr (Int.not_lt.mp fun large => ?_)
    rw [if_pos large] at made
    repeat' split at made
    all_goals cases made
  · rintro (flat | within)
    · exact absurd flat small
    -- every count on the way is at most the last
    have rows : scale ≤ h * scale := by
      have := Int.mul_le_mul_of_nonneg_right (show (1 : Int) ≤ h by omega) (show 0 ≤ scale by omega)
      omega
    have repeated : h * scale ≤ 3 * w * (h * scale) := by
      have := Int.mul_le_mul_of_nonneg_right (show (1 : Int) ≤ 3 * w by omega)
        (show 0 ≤ h * scale by omega)
      omega
    have bytes : 3 * w * (h * scale) ≤ 3 * w * (h * scale) * scale := by
      have := Int.mul_le_mul_of_nonneg_left (show 1 ≤ scale by omega)
        (show 0 ≤ 3 * w * (h * scale) by omega)
      omega
    have fits (n : Int) (least : 0 ≤ n) (most : n ≤ limits.memory) : Signed.fits64 n = true := by
      simp only [Signed.fits64, decide_eq_true_eq]
      omega
    rw [Signed.last64_of_fits (fits (h * scale) (by omega) (by omega)),
      fits scale (by omega) (by omega), fits (3 * w * (h * scale)) (by omega) (by omega),
      fits (3 * w * (h * scale) * scale) (by omega) within, if_neg (by decide), if_neg (by omega),
      if_neg (by decide), if_neg (by omega), if_neg (by decide), if_neg (by omega)]

/-! ## Reading a plane back -/

variable {lit} {scale} {on off} {lit' : Fin w → Fin h → Bool}

/-- Planes whose pictures have the same points are the same, if their colours can be told apart. -/
theorem lit_of_rows (differ : on ≠ off)
    (same : (render lit' scale on off).rows = (render lit scale on off).rows) : lit' = lit := by
  have pos := cellSide_pos scale
  funext x y
  -- the first point of the cell of a pixel tells the colour of the pixel
  have across := Nat.mul_div_cancel x.val pos
  have down := Nat.mul_div_cancel y.val pos
  have point := getElem?_rows_render lit scale on off across down
  rw [← same, getElem?_rows_render lit' scale on off across down] at point
  have point := Option.some.inj point
  cases here : lit x y <;> cases there : lit' x y
  · rfl
  · rw [here, there] at point
    exact absurd point differ
  · rw [here, there] at point
    exact absurd point.symm differ
  · rfl

variable (lit scale on off)

/-- **A picture is exact and loses nothing.**  However much memory there is, a plane of `w` columns and `h`
    rows has a picture at every scale up to one, and at every other at which there is memory for the bytes of
    the picture.  The picture has as many rows and columns as the plane, times the side of a cell, and each
    point has the colour of the pixel whose cell it lies in.  If the two colours differ, no other plane of
    this size has the same picture.  At the scales that are left there is none. -/
theorem picture_exact (wide : 0 < w) (tall : 0 < h) :
    (scale ≤ 1 ∨ 3 * w * (h * scale) * scale ≤ limits.memory →
      ∃ i, render? lit scale on off limits = .ok i ∧ i.rows.length = h * cellSide scale ∧
        (∀ row ∈ i.rows, row.length = w * cellSide scale) ∧
        (∀ r c, r < h * cellSide scale → c < w * cellSide scale →
          ∃ x y, x.val = c / cellSide scale ∧ y.val = r / cellSide scale ∧
            (i.rows[r]?.bind fun row => row[c]?) = some (if lit x y then on else off)) ∧
        (on ≠ off → ∀ lit' i', render? lit' scale on off limits = .ok i' → i'.rows = i.rows →
          lit' = lit)) ∧
    (¬ (scale ≤ 1 ∨ 3 * w * (h * scale) * scale ≤ limits.memory) →
      ∃ e, render? lit scale on off limits = .error e) := by
  have pos := cellSide_pos scale
  rw [← oversize?_eq_none_iff scale limits wide tall]
  constructor
  · intro fits
    have made (p : Fin w → Fin h → Bool) :
        render? p scale on off limits = .ok (render p scale on off) := by
      rw [render?, fits]
    refine ⟨render lit scale on off, made lit, ?_, fun row => length_row_render lit scale on off, ?_, ?_⟩
    · rw [length_rows, height_render]
    · intro r c above before
      have across := (Nat.div_lt_iff_lt_mul pos).mpr before
      have down := (Nat.div_lt_iff_lt_mul pos).mpr above
      exact ⟨⟨_, across⟩, ⟨_, down⟩, rfl, rfl, getElem?_rows_render lit scale on off rfl rfl⟩
    · intro differ p i other same
      rw [made p] at other
      cases other
      exact lit_of_rows differ same
  · intro large
    rcases size : oversize? limits w h scale with _ | e
    · exact absurd size large
    · exact ⟨e, by rw [render?, size]⟩

/-- Three columns and two rows, lit in one corner: the corner is two points wide and high, and 72 bytes of
    memory do for the picture. -/
theorem picture_exact_of_a_corner :
    let plane : Fin 3 → Fin 2 → Bool := fun x y => x = 2 ∧ y = 0
    let limits : Limits := ⟨72, 1, by decide⟩
    ∃ i, render? plane 2 ⟨1, 2, 3⟩ ⟨0, 0, 0⟩ limits = .ok i ∧ i.rows.length = 4 ∧
      (i.rows[1]?.bind fun row => row[4]?) = some ⟨1, 2, 3⟩ ∧
      (i.rows[2]?.bind fun row => row[4]?) = some ⟨0, 0, 0⟩ := by
  intro plane limits
  obtain ⟨i, made, rows, -, points, -⟩ :=
    (picture_exact plane 2 ⟨1, 2, 3⟩ ⟨0, 0, 0⟩ limits (by decide) (by decide)).1 (by decide)
  obtain ⟨x, y, across, down, corner⟩ := points 1 4 (by decide) (by decide)
  obtain ⟨x', y', across', down', below⟩ := points 2 4 (by decide) (by decide)
  obtain rfl : x = 2 := Fin.ext across
  obtain rfl : y = 0 := Fin.ext down
  obtain rfl : x' = 2 := Fin.ext across'
  obtain rfl : y' = 1 := Fin.ext down'
  exact ⟨i, made, rows, corner, below⟩

/-- Whatever the limits, a single pixel has no picture at a scale that needs more than 64 bits. -/
theorem no_picture_beyond_sixty_four_bits :
    let plane : Fin 1 → Fin 1 → Bool := fun _ _ => true
    ¬ ∃ limits i, render? plane 0x8000000000000000 ⟨1, 2, 3⟩ ⟨0, 0, 0⟩ limits = .ok i := by
  rintro plane ⟨limits, i, made⟩
  have refused : render? plane 0x8000000000000000 ⟨1, 2, 3⟩ ⟨0, 0, 0⟩ limits = .error .scale := rfl
  rw [refused] at made
  cases made

end Image

end Chip8
