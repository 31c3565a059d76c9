-- The state of a run. The place in the program is a stack of frames, one for
-- each open body, with the innermost first.
import BlockMaze.Run.Snapshot

namespace BlockMaze

/-- An open body: its blocks, the number of blocks already taken, and for a loop the rounds
that are left, the present one included. -/
structure Frame where
  blocks : List Block
  /-- It starts at 0 and goes forward, or back to 0. A cursor below 0 never arises, and would stand
  before the end of the blocks, so that closing finished bodies ends there at once. -/
  cursor : Nat
  roundsLeft : Option Int
deriving DecidableEq, Repr

namespace Frame

/-- A body that runs once, from its start. -/
def once (blocks : List Block) : Frame := ⟨blocks, 0, none⟩

/-- The body of a loop, from its start. -/
def rounds (blocks : List Block) (n : Int) : Frame := ⟨blocks, 0, some n⟩

end Frame

/-- The state of a run on a level. -/
structure State where
  pose : Pose
  stack : List Frame
  stars : List Cell
  keys : List Cell
  doors : List Cell
  status : Status
deriving DecidableEq, Repr

namespace State

/-- The state before the first step. -/
def initial (program : Program) (start : Pose) : State :=
  ⟨start.atRest, [.once program], [], [], [], .running⟩

/-- The keys of the cells of a list. -/
def keysOf (cells : List Cell) : KeySet := .ofList (cells.map Cell.key)

/-- What has changed in the level. -/
def changes (s : State) : Changes := ⟨keysOf s.stars, keysOf s.keys, keysOf s.doors⟩

/-- The state as a snapshot, with the visited block and a message. -/
def shown (s : State) (active : Option String) (message : Option String) : Snapshot :=
  ⟨s.pose, active, s.status, s.changes, message⟩

/-- The state as a snapshot of its own. -/
def snapshot (s : State) : Snapshot := s.shown none none

/-- The number of open bodies. -/
def depth (s : State) : Nat := s.stack.length

end State

end BlockMaze
