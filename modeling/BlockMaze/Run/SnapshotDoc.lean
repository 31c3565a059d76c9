-- Snapshots in documents.
import BlockMaze.Run.Snapshot
import BlockMaze.World.PoseDoc

namespace BlockMaze.Snapshot

/-- Reads a snapshot: pose and status are required. -/
def read : Reader Snapshot :=
  .record "StepResult" fun fields =>
    (fun pose active status stars keys doors message =>
        ⟨pose, active, status, ⟨stars, keys, doors⟩, message⟩)
      <$> Slot.need (.plain "pose") Pose.read fields
      <*> Slot.get (.plain "active_instruction_id") none (.orNull .text) fields
      <*> Slot.need (.plain "status") (.word Status) fields
      <*> Slot.get (.plain "collected_stars") .empty .keySet fields
      <*> Slot.get (.plain "collected_keys") .empty .keySet fields
      <*> Slot.get (.plain "opened_doors") .empty .keySet fields
      <*> Slot.get (.plain "message") none (.orNull .text) fields

/-- A snapshot as a document. -/
def toDoc (s : Snapshot) : Doc :=
  .obj [("pose", s.pose.toDoc), ("active_instruction_id", .ofOption .text s.active),
    ("status", .text s.status.name), ("collected_stars", .texts s.changes.stars.keys),
    ("collected_keys", .texts s.changes.keys.keys),
    ("opened_doors", .texts s.changes.doors.keys), ("message", .ofOption .text s.message)]

end BlockMaze.Snapshot
