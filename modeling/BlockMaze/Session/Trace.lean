-- Traces: the snapshots of a run, with the level it was played on and its
-- outcome. A trace is saved as a document and read back from one.
import BlockMaze.Doc.Reader
import BlockMaze.Doc.Writer
import BlockMaze.Run.SnapshotDoc
import BlockMaze.Session.RunId

namespace BlockMaze

/-- Every snapshot of a run, and what came of it. -/
structure Trace where
  runId : RunId
  levelId : Int
  levelName : String
  blockCount : Int
  par : Option Int
  status : Status
  message : Option String
  steps : List Snapshot
deriving DecidableEq, Repr

namespace Trace

/-- The last snapshot. -/
def final (t : Trace) : Option Snapshot := t.steps.getLast?

/-- Whether a completed run used no more blocks than the par of its level. -/
def withinPar (t : Trace) : Option Bool :=
  match t.status, t.par with
  | .completed, some par => some (t.blockCount ≤ par)
  | _, _ => none

/-- A trace as a document. -/
def toDoc (t : Trace) : Doc :=
  .obj [("run_id", .text t.runId.text), ("level_id", .int t.levelId),
    ("level_name", .text t.levelName), ("block_count", .int t.blockCount),
    ("best_block_count", .ofOption .int t.par), ("status", .text t.status.name),
    ("message", .ofOption .text t.message), ("steps", .arr (t.steps.map Snapshot.toDoc))]

/-- Reads a trace. A trace without an id of its own gets the given one. -/
def read (fresh : RunId) : Reader Trace :=
  .record "RunTrace" fun fields =>
    Trace.mk
      <$> Slot.get (.plain "run_id") fresh RunId.read fields
      <*> Slot.get (.plain "level_id") 0 .whole fields
      <*> Slot.get (.plain "level_name") "" .text fields
      <*> Slot.get (.plain "block_count") 0 .whole fields
      <*> Slot.get (.plain "best_block_count") none (.orNull .whole) fields
      <*> Slot.get (.plain "status") .running (.word Status) fields
      <*> Slot.get (.plain "message") none (.orNull .text) fields
      <*> Slot.get (.plain "steps") [] (.list Snapshot.read) fields

/-- The text of the file that a trace is saved in. -/
def save (t : Trace) : String := t.toDoc.toLines

/-- Reads a trace from the text of a file. -/
def load (fresh : RunId) (text : String) : Checked Trace :=
  match Doc.read Doc.traceRules text with
  | .ok doc => read fresh doc
  | .error _ => .refuse .badText

end Trace

end BlockMaze
