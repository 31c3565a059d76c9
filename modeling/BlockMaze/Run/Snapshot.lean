-- Snapshots: what a run shows after a step.
import BlockMaze.Level.Picture

namespace BlockMaze

/-- How far a run has come. A run by itself never shows `error`: that is for its host. -/
inductive Status where
  | running
  | completed
  | failed
  | error
deriving DecidableEq, Repr

namespace Status

/-- The word of a status in data. -/
def name : Status → String
  | .running => "RUNNING"
  | .completed => "COMPLETED"
  | .failed => "FAILED"
  | .error => "ERROR"

instance : Vocabulary Status where
  title := "RunStatus"
  members := [.running, .completed, .failed, .error]
  word := name

/-- A run is over in every status but `running`. -/
def isTerminal (s : Status) : Bool := s ≠ .running

end Status

/-- What a run shows after a step. -/
structure Snapshot where
  pose : Pose
  /-- The block that the step visited. -/
  active : Option String
  status : Status
  changes : Changes
  message : Option String
deriving DecidableEq, Repr

/-- Whether the run is over. -/
def Snapshot.isTerminal (s : Snapshot) : Bool := s.status.isTerminal

end BlockMaze
