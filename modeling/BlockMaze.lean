import BlockMaze.Block.Dump
import BlockMaze.Block.Sketch
import BlockMaze.Main
import BlockMaze.Run.Limit
import BlockMaze.World.TokenDoc
import BlockMaze.Proofs.Steps
import BlockMaze.Proofs.TreeRun
import BlockMaze.Proofs.CellKeys
import BlockMaze.Proofs.FramePath
import BlockMaze.Proofs.GridCells
import BlockMaze.Proofs.Arrivals
import BlockMaze.Proofs.Verdict
import BlockMaze.Proofs.Limits
import BlockMaze.Proofs.SessionTrace
import BlockMaze.Proofs.TreeWalk
import BlockMaze.Proofs.Unrolling
import BlockMaze.Proofs.Termination
import BlockMaze.Proofs.Halting
import BlockMaze.Proofs.LegalSteps
import BlockMaze.Proofs.Confinement
import BlockMaze.Proofs.Motions
import BlockMaze.Proofs.MovedLevels
import BlockMaze.Proofs.CallMix
import BlockMaze.Proofs.SameMeaning
import BlockMaze.Proofs.StarRequirement
import BlockMaze.Proofs.ProgramDocs
import BlockMaze.Proofs.WrittenDocs
import BlockMaze.Proofs.SavedTraces
import BlockMaze.Proofs.LevelDocs
import BlockMaze.Proofs.DrawnLevels
import BlockMaze.Proofs.GuardedMoves
import BlockMaze.Proofs.LoopCounts
import BlockMaze.Proofs.StarGuard
import BlockMaze.Proofs.DrawnRuns
import BlockMaze.Proofs.Leaps
import BlockMaze.Proofs.FoundBlocks
import BlockMaze.Proofs.ShelfChecks
import BlockMaze.Proofs.ShelfFacts
import BlockMaze.Proofs.ShelfLists
import BlockMaze.Proofs.Spellings
import BlockMaze.Proofs.Closings
