-- Pictures of a level in characters: a symbol for every tile, an arrow for
-- the runner, and collected items and opened doors in their changed form.
import BlockMaze.Level.Basic
import BlockMaze.World.CellKey
import BlockMaze.World.KeySet

namespace BlockMaze

/-- What has changed in a level: the keys of collected cells and of opened doors. -/
structure Changes where
  stars : KeySet
  keys : KeySet
  doors : KeySet
deriving DecidableEq, Repr

namespace Changes

/-- Nothing has changed. -/
def none : Changes := ⟨.empty, .empty, .empty⟩

/-- The symbol of a tile at a cell. -/
def symbol (changes : Changes) (tile : Tile) (c : Cell) : Char :=
  if tile = .star ∧ c.key ∈ changes.stars then Tile.symbol .empty
  else if tile = .key ∧ c.key ∈ changes.keys then Tile.symbol .empty
  else if tile = .door ∧ c.key ∈ changes.doors then '/'
  else tile.symbol

end Changes

namespace Level

/-- The character at a cell: the runner's arrow, or the symbol of the tile. -/
def drawn (pose : Option Pose) (changes : Changes) (tile : Tile) (c : Cell) : Char :=
  match pose with
  | some p => if p.cell = c then p.facing.arrow else changes.symbol tile c
  | none => changes.symbol tile c

/-- The characters of one row. -/
def drawnRow (pose : Option Pose) (changes : Changes) (y : Nat) (row : List Tile) : List Char :=
  row.zipIdx.map fun (tile, x) => drawn pose changes tile ⟨x, y⟩

/-- The picture, row by row. -/
def picture (level : Level) (pose : Option Pose) (changes : Changes) : List String :=
  level.grid.rows.zipIdx.map fun (row, y) => String.ofList (drawnRow pose changes y row)

/-- The picture as one text. -/
def render (level : Level) (pose : Option Pose) (changes : Changes) : String :=
  "\n".intercalate (level.picture pose changes)

end Level

end BlockMaze
