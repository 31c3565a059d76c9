-- Settings: the pace, the limit of steps, whether runs are verbose and where
-- the levels are. Each comes from a variable of the environment or has a
-- default.
import BlockMaze.Doc.Whole
import BlockMaze.Session.Basic
import BlockMaze.Shelf.Path
import BlockMaze.Text.Capital

namespace BlockMaze

/-- What a host can set. -/
structure Settings where
  tickMillis : Int
  maxSteps : Int
  verbose : Bool
  levels : Path
deriving DecidableEq, Repr

/-- Why settings are refused. -/
inductive SettingsError where
  | negativeTick (millis : Int)
  | noSteps (steps : Int)
deriving DecidableEq, Repr

/-- The message of an error. -/
def SettingsError.message : SettingsError → String
  | .negativeTick millis =>
    "BLOCKRUNNER_TICK_MS must be zero or positive (got " ++ toString millis ++ ")"
  | .noSteps steps =>
    "BLOCKRUNNER_MAX_STEPS must be positive (got " ++ toString steps
      ++ "). It bounds how long a single run may take."

namespace Settings

/-- The words that switch a setting on, in any letter case. -/
def isOn (text : String) : Bool := ["1", "true", "yes"].contains (Text.lower text)

/-- The settings of an environment. The numbers are read first, the pace before the limit. -/
def ofEnvironment (get : String → Option String) (levels : String) :
    Except Doc.WholeError Settings := do
  let tick ← Doc.wholeOfText ((get "BLOCKRUNNER_TICK_MS").getD "800")
  let steps ← Doc.wholeOfText ((get "BLOCKRUNNER_MAX_STEPS").getD "500")
  .ok
    { tickMillis := tick
      maxSteps := steps
      verbose := isOn ((get "BLOCKRUNNER_VERBOSE").getD "")
      levels := Path.ofText ((get "BLOCKRUNNER_LEVELS_DIR").getD levels) }

/-- The pace, unless the number of milliseconds is too large. -/
def pace? (s : Settings) : Option Pace := Pace.ofMillis? s.tickMillis

/-- Refuses settings out of range. -/
def validate (s : Settings) : Except SettingsError Unit :=
  if s.tickMillis < 0 then .error (.negativeTick s.tickMillis)
  else if s.maxSteps ≤ 0 then .error (.noSteps s.maxSteps)
  else .ok ()

/-- The settings as lines of text. -/
def display (s : Settings) : String :=
  "\n".intercalate
    ["Blockrunner Configuration:",
      "  Tick: " ++ toString s.tickMillis ++ "ms",
      "  Max Steps: " ++ toString s.maxSteps,
      "  Levels: " ++ s.levels.text,
      "  Verbose: " ++ (if s.verbose then "True" else "False")]

end Settings

end BlockMaze
