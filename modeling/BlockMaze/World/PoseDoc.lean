-- Poses in documents.
import BlockMaze.Intake.Readers
import BlockMaze.World.Pose

namespace BlockMaze.Pose

/-- Reads a pose: the cell is required, the facing is right and the animation idle unless
given. -/
def read : Reader Pose :=
  .record "Pose" fun fields =>
    (fun x y facing animation => ⟨⟨x, y⟩, facing, animation⟩)
      <$> Slot.need (.plain "x") .whole fields
      <*> Slot.need (.plain "y") .whole fields
      <*> Slot.get (.plain "dir") .right (.word Direction) fields
      <*> Slot.get (.plain "animation") .idle (.word Animation) fields

/-- A pose as a document. -/
def toDoc (p : Pose) : Doc :=
  .obj [("x", .int p.cell.x), ("y", .int p.cell.y), ("dir", .text p.facing.name),
    ("animation", .text p.animation.name)]

theorem read_toDoc (p : Pose) : read p.toDoc = .good p := by
  obtain ⟨⟨x, y⟩, facing, animation⟩ := p
  cases facing <;> cases animation <;> rfl

end BlockMaze.Pose
