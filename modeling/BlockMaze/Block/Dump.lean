-- Dumping blocks as documents. Blocks that are put inside others can end up
-- deeper than any block that is read, and a tree with too many levels is not
-- dumped.
import BlockMaze.Block.BlockDoc

namespace BlockMaze

namespace Block

mutual

/-- The number of levels of a block, its own included. -/
def depth : Block → Nat
  | ⟨_, _, _, none⟩ => 1
  | ⟨_, _, _, some body⟩ => depthAll body + 1

/-- The greatest number of levels of blocks. -/
def depthAll : List Block → Nat
  | [] => 0
  | b :: bs => max (depth b) (depthAll bs)

end

/-- The most levels that are dumped. -/
def maxDumped : Nat := 255

/-- The message for a tree with too many levels. -/
def tooDeepMessage : String := "Maximum serialization depth exceeded"

/-- A block as an editor keeps it, unless it has too many levels. -/
def dump? (b : Block) : Option Doc := if b.depth ≤ maxDumped then some b.toDoc else none

end Block

/-- A program as an editor keeps it, unless one of its blocks has too many levels. -/
def Program.dump? (program : Program) : Option Doc :=
  if Block.depthAll program ≤ Block.maxDumped then some program.toDoc else none

end BlockMaze
