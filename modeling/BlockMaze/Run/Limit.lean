-- Running to the end, within a limit of steps.
import BlockMaze.Run.Step

namespace BlockMaze

/-- A run that was still going on at its limit, with the snapshots up to there. -/
structure LimitReached where
  limit : Int
  results : List Snapshot
deriving DecidableEq, Repr

/-- The message for a run that reached its limit. The limit is written out at any length: the
bound `Number.maxDigits` is left out of messages. -/
def LimitReached.message (r : LimitReached) : String :=
  "Program did not finish within " ++ toString r.limit ++ " steps.\n\nRemediation tips:\n"
    ++ "  - Check WHILE_PATH blocks whose body never moves the runner\n"
    ++ "  - Raise BLOCKRUNNER_MAX_STEPS for very long programs"

namespace State

/-- Steps until a snapshot is terminal, at most a number of times: the state, the snapshots, and
whether the run is over. -/
def stepsUntilOver (level : Level) : Nat → State → State × List Snapshot × Bool
  | 0, s => (s, [], false)
  | n + 1, s =>
    let (s, first) := s.step level
    if first.isTerminal then (s, [first], true)
    else
      let (s, rest, ended) := stepsUntilOver level n s
      (s, first :: rest, ended)

/-- Runs to the end within a limit. A negative limit allows no step. -/
def run (level : Level) (limit : Int) (s : State) : State × Except LimitReached (List Snapshot) :=
  let (s, results, ended) := s.stepsUntilOver level limit.toNat
  (s, if ended then .ok results else .error ⟨limit, results⟩)

end State

end BlockMaze
