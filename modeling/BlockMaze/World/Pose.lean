-- Poses: where the runner stands, where it looks, and whether its last action
-- was blocked.
import BlockMaze.World.Cell

namespace BlockMaze

/-- What the picture of the runner shows: nothing, or a blocked action. -/
inductive Animation where
  | idle
  | deny
deriving DecidableEq, Repr

namespace Animation

/-- The word of an animation in data. -/
def name : Animation → String
  | .idle => "IDLE"
  | .deny => "DENY"

instance : Vocabulary Animation where
  title := "AnimationHint"
  members := [.idle, .deny]
  word := name

end Animation

/-- Where the runner stands and how. -/
structure Pose where
  cell : Cell
  facing : Direction
  animation : Animation
deriving DecidableEq, Repr

namespace Pose

/-- The cell a number of steps in front of the runner. -/
def ahead (p : Pose) (distance : Int) : Cell := p.cell.ahead p.facing distance

/-- The pose with nothing to show. -/
def atRest (p : Pose) : Pose := { p with animation := .idle }

end Pose

end BlockMaze
