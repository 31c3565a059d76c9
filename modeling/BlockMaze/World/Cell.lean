-- Cells and facings. A cell is a column and a row, and rows grow downward.
import BlockMaze.World.Vocabulary

namespace BlockMaze

/-- A cell of the plane, in the grid or around it. -/
structure Cell where
  x : Int
  y : Int
deriving DecidableEq, Repr

/-- The facing of the runner. -/
inductive Direction where
  | up
  | right
  | down
  | left
deriving DecidableEq, Repr

namespace Direction

/-- The word of a facing in data. -/
def name : Direction → String
  | .up => "UP"
  | .right => "RIGHT"
  | .down => "DOWN"
  | .left => "LEFT"

instance : Vocabulary Direction where
  title := "Direction"
  members := [.up, .right, .down, .left]
  word := name

/-- The displacement of one step forward. -/
def offset : Direction → Cell
  | .up => ⟨0, -1⟩
  | .right => ⟨1, 0⟩
  | .down => ⟨0, 1⟩
  | .left => ⟨-1, 0⟩

/-- A quarter turn clockwise. -/
def turnedRight : Direction → Direction
  | .up => .right
  | .right => .down
  | .down => .left
  | .left => .up

/-- A quarter turn anticlockwise. -/
def turnedLeft : Direction → Direction
  | .up => .left
  | .right => .up
  | .down => .right
  | .left => .down

/-- The arrow that the runner is drawn with. -/
def arrow : Direction → Char
  | .up => '^'
  | .right => '>'
  | .down => 'v'
  | .left => '<'

@[simp]
theorem turnedLeft_turnedRight (d : Direction) : d.turnedRight.turnedLeft = d := by
  cases d <;> rfl

@[simp]
theorem turnedRight_turnedLeft (d : Direction) : d.turnedLeft.turnedRight = d := by
  cases d <;> rfl

end Direction

/-- The cell a number of steps away in a direction. -/
def Cell.ahead (c : Cell) (d : Direction) (distance : Int) : Cell :=
  ⟨c.x + d.offset.x * distance, c.y + d.offset.y * distance⟩

end BlockMaze
