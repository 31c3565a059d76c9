-- Levels: a grid, where the runner starts, and what counts as solving it.
import BlockMaze.Block.Basic
import BlockMaze.Level.Grid
import BlockMaze.World.Pose

namespace BlockMaze

/-- A puzzle. -/
structure Level where
  id : Int
  name : String
  grid : Grid
  start : Pose
  /-- The kinds of blocks that the player is offered. -/
  offered : List Kind
  /-- The stars that a win needs. -/
  minStars : Nat
  /-- The number of blocks of a good solution. -/
  par : Option Int
  tutorial : Option String
deriving DecidableEq

namespace Level

/-- The tile at a cell. -/
def tileAt (level : Level) (c : Cell) : Tile := level.grid.tileAt c

/-- The cells that hold a tile, row by row. -/
def cellsOf (level : Level) (tile : Tile) : List Cell := level.grid.cellsOf tile

end Level

end BlockMaze
