-- Playing a level from the command line: the level and its program are
-- loaded, the level is drawn, the run is reported step by step, and its trace
-- is saved on demand. What happens is yielded as a list, with the error that
-- ends it, if any.
import BlockMaze.Block.BlockDoc
import BlockMaze.Command.Arguments
import BlockMaze.Settings
import BlockMaze.Shelf.Levels

namespace BlockMaze

/-- What the command line finds around it. -/
structure Surroundings where
  settings : Settings
  files : Files
  /-- Where the programs are that go with the levels. -/
  programs : Path
  ink : Ink
  runId : RunId

/-- Why playing ends early. -/
inductive PlayError where
  | quit (how : Quit)
  | settings (error : SettingsError)
  | shelf (error : ShelfError)
  | program (faults : List Fault)
  | noTick
  | tickTooLarge
  | noLimit
  | saving (error : FileError)

namespace PlayError

/-- The message of an error. -/
def message : PlayError → String
  | .quit .help =>
    "[--program FILE] [--tick-ms N] [--max-steps N] [--render] [--trace FILE] LEVEL"
  | .quit .misuse => "bad arguments"
  | .settings error => error.message
  | .shelf (.refused (.invalid faults)) => faultLines faults
  | .shelf .badText => "not a document"
  | .shelf error => error.message
  | .program faults => faultLines faults
  | .noTick => "unsupported operand type(s) for /: 'list' and 'float'"
  | .tickTooLarge => Pace.tooLargeMessage
  | .noLimit => "can only concatenate list (not \"int\") to list"
  | .saving error => error.message

/-- The exit code that an error leads to. -/
def exitCode : PlayError → Nat
  | .quit how => how.code
  | _ => 1

end PlayError

/-- What came of a command. -/
structure Played where
  events : List Event
  failure : Option PlayError
  /-- The trace that was saved, and where. -/
  saved : Option (Path × Trace)
  /-- The files afterwards. -/
  files : Files

namespace Play

/-- A listener that draws the level after every step. -/
def drawer (level : Level) : Listener := fun _ r =>
  ⟨[level.render (some r.pose) r.changes], false, none⟩

/-- Where the program of a command is. -/
def programPath (programs : Path) (args : Arguments) : Path :=
  match args.program with
  | some text => Path.ofText text
  | none => programs.join (args.level ++ ".json")

/-- The program in the file at a path. -/
def loadProgram (files : Files) (path : Path) : Except PlayError Program :=
  match Shelf.docAt files path with
  | .error error => .error (.shelf error)
  | .ok doc =>
    match Program.read 0 doc with
    | .good (program, _) => .ok program
    | .bad faults => .error (.program faults)

/-- What must be there before anything is printed: sound settings, the level and the program. -/
def prepare (around : Surroundings) (args : Arguments) : Except PlayError (Level × Program) := do
  match around.settings.validate with
  | .error error => .error (.settings error)
  | .ok () =>
    match Shelf.load ⟨around.files, around.settings.levels⟩ args.level with
    | .error error => .error (.shelf error)
    | .ok level =>
      let program ← loadProgram around.files (programPath around.programs args)
      .ok (level, program)

/-- The lines before a run: the level's title and tutorial, and its picture. -/
def introduction (ink : Ink) (level : Level) : List Event :=
  let info text := Event.line (Report.info.line ink text)
  [info ("Level " ++ toString level.id ++ ": " ++ level.name)]
    ++ (match level.tutorial with
        | none => []
        | some text => if text.isEmpty then [] else [info text])
    ++ [.line (level.render (some level.start) .none)]

/-- The setup of a run. -/
def setup (around : Surroundings) (args : Arguments) (level : Level) (pace : Pace) (limit : Int) :
    Setup where
  level := level
  pace := pace
  limit := limit
  verbose := true
  ink := around.ink
  listeners := if args.render then [drawer level] else []
  breakdown := fun _ => none
  stopInPause := fun _ => false

/-- The end of a command: the trace is saved if that was asked for. -/
def conclude (around : Surroundings) (args : Arguments) (trace : Trace) (events : List Event) :
    Played :=
  match args.trace with
  | none => ⟨events, none, none, around.files⟩
  | some text =>
    let path := Path.ofText text
    match around.files.write path trace.save with
    | .error error => ⟨events, some (.saving error), none, around.files⟩
    | .ok files =>
      let line := Report.info.line around.ink ("Trace written to " ++ path.text)
      ⟨events ++ [.line line], none, some (path, trace), files⟩

/-- The pace that the arguments ask for. -/
def paceOf (args : Arguments) : Except PlayError Pace :=
  match args.tickMillis with
  | none => .error .noTick
  | some millis =>
    match Pace.ofMillis? millis with
    | none => .error .tickTooLarge
    | some pace => .ok pace

/-- How a line shows a limit that was not given. -/
def noLimitText : String := "[]"

/-- Carries out what the arguments ask for. A run without a limit is announced but not begun. -/
def perform (around : Surroundings) (args : Arguments) : Played :=
  match prepare around args with
  | .error error => ⟨[], some error, none, around.files⟩
  | .ok (level, program) =>
    let opening := introduction around.ink level
    match paceOf args with
    | .error error => ⟨opening, some error, none, around.files⟩
    | .ok pace =>
      let session := Session.new around.runId program level none
      match args.maxSteps with
      | none =>
        let announced := session.openingUnder noLimitText (setup around args level pace 0)
        ⟨opening ++ announced, some .noLimit, none, around.files⟩
      | some limit =>
        let (session, events) := session.run (setup around args level pace limit)
        conclude around args session.trace (opening ++ events)

/-- The files that a command line looks at. -/
def pathsFor (settings : Settings) (programs : Path) (args : List String) : List Path :=
  match Arguments.parse settings.tickMillis settings.maxSteps args with
  | .error _ => []
  | .ok args => [settings.levels.join (args.level ++ ".json"), programPath programs args]

/-- The milliseconds between two steps under a command line. -/
def millisFor (settings : Settings) (args : List String) : Int :=
  match Arguments.parse settings.tickMillis settings.maxSteps args with
  | .error _ => settings.tickMillis
  | .ok args => args.tickMillis.getD settings.tickMillis

/-- Carries out a command line. -/
def command (around : Surroundings) (args : List String) : Played :=
  match Arguments.parse around.settings.tickMillis around.settings.maxSteps args with
  | .error how => ⟨[], some (.quit how), none, around.files⟩
  | .ok args => perform around args

end Play

end BlockMaze
