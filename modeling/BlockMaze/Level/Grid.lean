-- Grids: rows of tiles, all of one positive width, with nothing of the
-- outside in them. Cells around the grid read as the outside.
import BlockMaze.World.Cell
import BlockMaze.World.Tile

namespace BlockMaze

/-- A rectangle of tiles with at least one row and one column. -/
structure Grid where
  rows : List (List Tile)
  width : Nat
  rows_ne_nil : rows ≠ []
  width_pos : 0 < width
  row_length : ∀ row ∈ rows, row.length = width
  inside : ∀ row ∈ rows, ∀ tile ∈ row, tile ≠ .outside
deriving DecidableEq

namespace Grid

/-- Why rows of tiles form no grid. -/
inductive ShapeError where
  | empty
  | ragged (row length width : Nat)
  | outside
deriving DecidableEq, Repr

/-- The message of an error. -/
def ShapeError.message : ShapeError → String
  | .empty => "Level grid must have at least one row and one column"
  | .ragged row length width =>
    "Level grid must be rectangular: row " ++ toString row ++ " has " ++ toString length
      ++ " tiles, expected " ++ toString width
  | .outside => Tile.TokenError.message .outside

/-- The first row, from a number on, that has not the given width. -/
def firstRagged? (width : Nat) : Nat → List (List Tile) → Option (Nat × Nat)
  | _, [] => none
  | y, row :: rows =>
    if row.length = width then firstRagged? width (y + 1) rows else some (y, row.length)

theorem length_of_firstRagged? {width y : Nat} {rows : List (List Tile)}
    (h : firstRagged? width y rows = none) : ∀ row ∈ rows, row.length = width := by
  induction rows generalizing y with
  | nil => simp
  | cons row rows ih =>
    unfold firstRagged? at h
    split at h
    · rename_i hw
      intro r hr
      rcases List.mem_cons.1 hr with rfl | hr
      · exact hw
      · exact ih h r hr
    · simp at h

/-- The grid of rows of tiles. -/
def ofRows : List (List Tile) → Except ShapeError Grid
  | [] => .error .empty
  | first :: rest =>
    if hw : 0 < first.length then
      match h : firstRagged? first.length 0 (first :: rest) with
      | some (row, length) => .error (.ragged row length first.length)
      | none =>
        if hi : ∀ row ∈ first :: rest, ∀ tile ∈ row, tile ≠ .outside then
          .ok ⟨first :: rest, first.length, by simp, hw, length_of_firstRagged? h, hi⟩
        else .error .outside
    else .error .empty

/-- The number of rows. -/
def height (g : Grid) : Nat := g.rows.length

/-- The tile at a cell, or the outside around the grid. The column is looked up in its own row,
which is as long as the first one by `row_length`. -/
def tileAt (g : Grid) (c : Cell) : Tile :=
  if 0 ≤ c.x ∧ 0 ≤ c.y then
    match g.rows[c.y.toNat]? with
    | none => .outside
    | some row => row[c.x.toNat]?.getD .outside
  else .outside

/-- The cells that hold a tile, row by row. -/
def cellsOf (g : Grid) (tile : Tile) : List Cell :=
  g.rows.zipIdx.flatMap fun (row, y) =>
    row.zipIdx.filterMap fun (t, x) => if t = tile then some ⟨x, y⟩ else none

end Grid

end BlockMaze
