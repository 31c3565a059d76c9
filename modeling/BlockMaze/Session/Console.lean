-- Lines for the console. A line has a tag for what it reports and, unless
-- plain lines are asked for, a colour.
import BlockMaze.World.Vocabulary

namespace BlockMaze

/-- A colour of the console, or one of the two other marks. -/
inductive Color where
  | blue
  | yellow
  | red
  | green
  | cyan
  | bold
  | reset
deriving DecidableEq, Repr

namespace Color

/-- The word of a colour. -/
def name : Color → String
  | .blue => "BLUE"
  | .yellow => "YELLOW"
  | .red => "RED"
  | .green => "GREEN"
  | .cyan => "CYAN"
  | .bold => "BOLD"
  | .reset => "RESET"

instance : Vocabulary Color where
  title := "Color"
  members := [.blue, .yellow, .red, .green, .cyan, .bold, .reset]
  word := name

/-- The control sequence that switches a colour on. -/
def code : Color → String
  | .blue => "\x1b[94m"
  | .yellow => "\x1b[93m"
  | .red => "\x1b[91m"
  | .green => "\x1b[92m"
  | .cyan => "\x1b[96m"
  | .bold => "\x1b[1m"
  | .reset => "\x1b[0m"

end Color

/-- Whether lines carry colours. -/
inductive Ink where
  | colored
  | plain
deriving DecidableEq, Repr

namespace Ink

/-- The ink that a setting asks for: any text but the empty one turns colours off. -/
def ofSetting : Option String → Ink
  | some text => if text.isEmpty then .colored else .plain
  | none => .colored

/-- A text in a colour. -/
def paint (ink : Ink) (text : String) (color : Color) (bold : Bool) : String :=
  match ink with
  | .plain => text
  | .colored =>
    (if bold then Color.bold.code else "") ++ color.code ++ text ++ Color.reset.code

end Ink

/-- What a line reports. -/
inductive Report where
  | step
  | denied
  | failure
  | success
  | info
deriving DecidableEq, Repr

namespace Report

/-- The word of a report. -/
def name : Report → String
  | .step => "step"
  | .denied => "denied"
  | .failure => "failure"
  | .success => "success"
  | .info => "info"

instance : Vocabulary Report where
  title := "Report"
  members := [.step, .denied, .failure, .success, .info]
  word := name

/-- The tag that opens a line. -/
def tag : Report → String
  | .step => "[•]"
  | .denied => "[~]"
  | .failure => "[!]"
  | .success => "[✓]"
  | .info => "[i]"

/-- The colour of a line. -/
def color : Report → Color
  | .step => .blue
  | .denied => .yellow
  | .failure => .red
  | .success => .green
  | .info => .cyan

/-- The two outcomes are printed bold. -/
def isBold : Report → Bool
  | .failure => true
  | .success => true
  | _ => false

/-- A line of a report. -/
def line (report : Report) (ink : Ink) (text : String) : String :=
  ink.paint (report.tag ++ " " ++ text) report.color report.isBold

end Report

end BlockMaze
