-- The command line. Everything is decided by `Play.command`; this file reads
-- the environment and the files, prints lines, waits and saves.
import BlockMaze.Command.Play

namespace BlockMaze.Main

/-- The variables that settings come from. -/
def settingNames : List String :=
  ["BLOCKRUNNER_TICK_MS", "BLOCKRUNNER_MAX_STEPS", "BLOCKRUNNER_VERBOSE",
    "BLOCKRUNNER_LEVELS_DIR", "BLOCKRUNNER_NO_COLOR"]

/-- The values of the variables that are set. -/
def environment : IO (List (String × String)) := do
  let values ← settingNames.mapM fun name => do
    return (← IO.getEnv name).map fun value => (name, value)
  return values.filterMap id

/-- The texts of the files that can be read. -/
def readAll (paths : List Path) : IO (List (Path × String)) := do
  let texts ← paths.mapM fun path => do
    try
      return some (path, ← IO.FS.readFile path.text)
    catch _ => return none
  return texts.filterMap id

/-- Lets an event happen. -/
def happen (millis : Int) : Event → IO Unit
  | .line text => IO.println text
  | .pause => IO.sleep millis.toNat.toUInt32
  | .told _ _ _ => return ()

/-- Saves a trace, making the directories on the way. -/
def save (path : Path) (trace : Trace) : IO Unit := do
  IO.FS.createDirAll path.parent.text
  IO.FS.writeFile path.text trace.save

/-- A new run id. -/
def newRunId : IO RunId := do
  return .ofNat (← IO.rand 0 (runIdCount - 1))

/-- Carries out a command line under some settings. -/
def runWith (settings : Settings) (ink : Ink) (args : List String) : IO UInt32 := do
  let programs := Path.ofText "examples/programs"
  let texts ← readAll (Play.pathsFor settings programs args)
  let around : Surroundings :=
    { settings, programs, ink, files := .ofTexts texts, runId := ← newRunId }
  let played := Play.command around args
  played.events.forM (happen (Play.millisFor settings args))
  if let some (path, trace) := played.saved then save path trace
  match played.failure with
  | none => return 0
  | some error =>
    IO.eprintln error.message
    return error.exitCode.toUInt32

/-- Carries out a command line under the settings of the environment. -/
def run (args : List String) : IO UInt32 := do
  let env ← environment
  match Settings.ofEnvironment (fun name => env.lookup name) "examples/levels" with
  | .error error =>
    IO.eprintln error.message
    return 1
  | .ok settings => runWith settings (.ofSetting (env.lookup "BLOCKRUNNER_NO_COLOR")) args

end BlockMaze.Main

/-- The command line. -/
def main (args : List String) : IO UInt32 := BlockMaze.Main.run args
