-- Sessions: a host that steps a run at a pace, records every snapshot, tells
-- its listeners and reports on the console. Whatever goes wrong outside the
-- game ends the run with the status `error`. A session does not act by
-- itself: it yields the list of what happens, in order.
-- Nothing else around a session fails: every pause ends, the console takes
-- every line, and numbers are written out at any length.
import BlockMaze.Block.Walk
import BlockMaze.Run.Step
import BlockMaze.Session.Console
import BlockMaze.Session.Trace

namespace BlockMaze

open Number

/-- The time between two steps in seconds. It may be infinite, or longer than a clock can count:
a session only asks whether it is positive. -/
inductive Pace where
  | whole (n : Int)
  | real (x : Binary64)
deriving DecidableEq, Repr

namespace Pace

/-- A pace that waits at all. -/
def isPositive : Pace → Bool
  | .whole n => 0 < n
  | .real x => x.isPositive

/-- A pace as a document. -/
def toDoc : Pace → Doc
  | .whole n => .int n
  | .real x => .real x

/-- The pace of a number of milliseconds, which may be too large for one. -/
def ofMillis? (n : Int) : Option Pace := (Binary64.ofInt? n).map fun x => .real (x.divNat 1000)

/-- The message for a number of milliseconds that has no pace. -/
def tooLargeMessage : String := "int too large to convert to float"

end Pace

/-- What a listener does with a snapshot: it may print lines, ask to stop, and break down. Nothing
else that it does reaches the session. -/
structure Reaction where
  lines : List String
  stops : Bool
  breakdown : Option String

/-- A listener is told the number of a step and its snapshot. -/
abbrev Listener := Int → Snapshot → Reaction

/-- A breakdown outside the game: its kind and its text. -/
structure Breakdown where
  kind : String
  text : String

/-- What stays the same during a session. -/
structure Setup where
  level : Level
  pace : Pace
  limit : Int
  verbose : Bool
  ink : Ink
  listeners : List Listener
  /-- The calls for a step that break down, by their number from 1. -/
  breakdown : Nat → Option Breakdown
  /-- Whether someone asks to stop during the pause after a step. -/
  stopInPause : Int → Bool

/-- What happens in a session. A line is always taken, and a pause always ends. -/
inductive Event where
  | line (text : String)
  | told (listener : Nat) (number : Int) (result : Snapshot)
  | pause

/-- A session in progress. -/
structure Session where
  state : State
  trace : Trace
  stopped : Bool
  /-- The number of calls for a step so far. -/
  calls : Nat

namespace Session

/-- A session before its first step. -/
def new (runId : RunId) (program : Program) (level : Level) (start : Option Pose) : Session where
  state := .initial program (start.getD level.start)
  trace := ⟨runId, level.id, level.name, program.count, level.par, .running, none, []⟩
  stopped := false
  calls := 0

/-- Asks the session to stop after the present step. -/
def stop (s : Session) : Session := { s with stopped := true }

/-! ## Lines -/

/-- A text, or another if there is none or it is empty. -/
def textOr (other : String) : Option String → String
  | none => other
  | some text => if text.isEmpty then other else text

/-- A line of a verbose session. -/
def report (setup : Setup) (kind : Report) (text : String) : List Event :=
  if setup.verbose then [.line (kind.line setup.ink text)] else []

/-- The line that opens a run under a limit, which is given as text. -/
def openingUnder (limit : String) (setup : Setup) (s : Session) : List Event :=
  report setup .info <|
    "Running " ++ toString s.trace.blockCount ++ " blocks on level " ++ toString setup.level.id
      ++ " '" ++ setup.level.name ++ "' (limit " ++ limit ++ " steps)"

/-- The line that opens a run. -/
def opening (setup : Setup) (s : Session) : List Event :=
  s.openingUnder (toString setup.limit) setup

/-- The text for a step. -/
def stepText (number : Int) (r : Snapshot) : String :=
  "Step " ++ toString number ++ ": block=" ++ textOr "-" r.active
    ++ " pose=(" ++ toString r.pose.cell.x ++ "," ++ toString r.pose.cell.y ++ ","
    ++ r.pose.facing.name ++ ")"
    ++ (match r.message with
        | none => ""
        | some message => if message.isEmpty then "" else " " ++ message)

/-- The line for a step. -/
def stepLine (setup : Setup) (number : Int) (r : Snapshot) : List Event :=
  report setup (if r.pose.animation = .deny then .denied else .step) (stepText number r)

/-- The line for the outcome. -/
def outcomeLine (setup : Setup) (s : Session) (r : Snapshot) : List Event :=
  if r.status = .completed then
    let score :=
      match s.trace.withinPar, s.trace.par with
      | some _, some par =>
        " (" ++ toString s.trace.blockCount ++ " blocks, par " ++ toString par ++ ")"
      | _, _ => ""
    report setup .success <|
      "Level complete in " ++ toString s.trace.steps.length ++ " steps!" ++ score
  else report setup .failure (r.status.name ++ ": " ++ textOr "Try again!" r.message)

/-! ## Steps -/

/-- The present snapshot as an error of the host. -/
def errorResult (s : Session) (message : String) : Snapshot :=
  { s.state.snapshot with status := .error, message := some message }

/-- One call for a step. A call that breaks down leaves the run as it is. -/
def takeStep (setup : Setup) (number : Int) (s : Session) : Session × Snapshot :=
  let s := { s with calls := s.calls + 1 }
  match setup.breakdown s.calls with
  | some b =>
    (s, s.errorResult ("Step " ++ toString number ++ " raised " ++ b.kind ++ ": " ++ b.text))
  | none =>
    let (state, result) := s.state.step setup.level
    ({ s with state := state }, result)

/-- What one listener's reaction adds. -/
def reactionEvents (reaction : Reaction) : List Event :=
  reaction.lines.map .line
    ++ (reaction.breakdown.map fun text =>
        Event.line ("  [Listener] Listener failed: " ++ text)).toList

/-- Tells the listeners in order, the first of them having a given number. -/
def tell (number : Int) (r : Snapshot) : Nat → List Listener → Session → Session × List Event
  | _, [], s => (s, [])
  | i, listener :: rest, s =>
    let reaction := listener number r
    let s := if reaction.stops then s.stop else s
    let (s, events) := tell number r (i + 1) rest s
    (s, .told i number r :: reactionEvents reaction ++ events)

/-- Records a snapshot: it joins the trace, is printed, and is told to the listeners. -/
def record (setup : Setup) (number : Int) (r : Snapshot) (s : Session) : Session × List Event :=
  let s := { s with trace := { s.trace with steps := s.trace.steps ++ [r] } }
  let (s, events) := s.tell number r 0 setup.listeners
  (s, stepLine setup number r ++ events)

/-- Ends the run with a snapshot. -/
def finish (setup : Setup) (r : Snapshot) (s : Session) : Session × List Event :=
  let s := { s with trace := { s.trace with status := r.status, message := r.message } }
  (s, s.outcomeLine setup r)

/-- The end of a run that has used up its limit: an error, unless it was asked to stop. -/
def atLimit (setup : Setup) (s : Session) : Session × List Event :=
  if s.stopped then (s, [])
  else
    let r := s.errorResult
      ("Stopped after " ++ toString setup.limit ++ " steps without finishing.")
    let (s, told) := s.record setup (setup.limit + 1) r
    let (s, ended) := s.finish setup r
    (s, told ++ ended)

/-- The pause after a step, if the session has a pace. The session goes on after it, however long
the pace is. -/
def rest (setup : Setup) (number : Int) (s : Session) : Session × List Event :=
  if setup.pace.isPositive then (if setup.stopInPause number then s.stop else s, [.pause])
  else (s, [])

/-- The steps from a number on, while some are left. -/
def loop (setup : Setup) : Nat → Int → Session → Session × List Event
  | 0, _, s => s.atLimit setup
  | left + 1, number, s =>
    if s.stopped then
      (s, report setup .info ("Run stopped after " ++ toString (number - 1) ++ " steps"))
    else
      let (s, r) := s.takeStep setup number
      let (s, told) := s.record setup number r
      if r.isTerminal then
        let (s, ended) := s.finish setup r
        (s, told ++ ended)
      else
        let (s, paused) := s.rest setup number
        let (s, later) := loop setup left (number + 1) s
        (s, told ++ paused ++ later)

/-- One run of a session: steps until the game is over, the session is stopped, or the limit is
reached. A second run goes on where the first one ended. -/
def run (setup : Setup) (s : Session) : Session × List Event :=
  let opened := s.opening setup
  let (s, events) := s.loop setup setup.limit.toNat 1
  (s, opened ++ events)

end Session

end BlockMaze
