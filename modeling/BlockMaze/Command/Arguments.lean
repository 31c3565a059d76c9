-- The arguments of the command line: the name of a level, and options. An
-- option may be shortened as long as one option is meant, its value may stand
-- behind an equals sign or as the next argument, and the last value counts.
-- Two hyphens by themselves end the options.
import BlockMaze.Doc.Whole

namespace BlockMaze

/-- What the command line asks for. A number is none if its option was given two hyphens in place
of a value. -/
structure Arguments where
  level : String
  program : Option String
  tickMillis : Option Int
  maxSteps : Option Int
  render : Bool
  trace : Option String
deriving DecidableEq, Repr

/-- How the reading of a command line may end instead. -/
inductive Quit where
  | help
  | misuse
deriving DecidableEq, Repr

/-- The exit code. -/
def Quit.code : Quit → Nat
  | .help => 0
  | .misuse => 2

namespace Arguments

/-- The options. -/
inductive Flag where
  | help
  | program
  | tickMillis
  | maxSteps
  | render
  | trace
deriving DecidableEq, Repr

/-- The names of the options. -/
def flags : List (String × Flag) :=
  [("--help", .help), ("--program", .program), ("--tick-ms", .tickMillis),
    ("--max-steps", .maxSteps), ("--render", .render), ("--trace", .trace)]

/-! ## Kinds of arguments -/

/-- What an argument is: an option, perhaps with a value, a value, or unknown. -/
inductive Word where
  | flag (flag : Flag) (value : Option String)
  | value (text : String)
  | unknown

/-- A digit of any script. -/
def isDigit (c : Char) : Bool := (Text.decimalValue? c).isSome

/-- Digits only, and at least one. -/
def isDigits (cs : List Char) : Bool := !cs.isEmpty && cs.all isDigit

/-- Takes one line end off the end. -/
def cutLineEnd (cs : List Char) : List Char := if cs.getLast? = some '\n' then cs.dropLast else cs

/-- A hyphen and a number: digits, with or without a point before the last of them. A line end
may follow. -/
def isNegativeNumber (arg : List Char) : Bool :=
  match cutLineEnd arg with
  | '-' :: cs =>
    isDigits cs ||
      match cs.dropWhile isDigit with
      | '.' :: rest => isDigits rest
      | _ => false
  | _ => false

/-- Splits a text at its first equals sign. -/
def splitValue (s : String) : String × Option String :=
  match s.toList.dropWhile (· != '=') with
  | '=' :: value => (String.ofList (s.toList.takeWhile (· != '=')), some (String.ofList value))
  | _ => (s, none)

/-- The options whose names start with a text. -/
def matching (text : String) : List Flag :=
  (flags.filter fun (name, _) => text.toList.isPrefixOf name.toList).map (·.2)

/-- An argument that starts with a hyphen and is no known option: a negative number or a text
with a space is a value. -/
def otherWord (arg : String) : Word :=
  if isNegativeNumber arg.toList || arg.toList.contains ' ' then .value arg else .unknown

/-- An argument that starts with two hyphens: a full name, a name with a value, or the start of
a name. -/
def longWord (arg : String) : Except Quit Word :=
  match flags.lookup arg with
  | some flag => .ok (.flag flag none)
  | none =>
    let (name, value) := splitValue arg
    match flags.lookup name with
    | some flag => .ok (.flag flag value)
    | none =>
      match matching name with
      | [] => .ok (otherWord arg)
      | [flag] => .ok (.flag flag value)
      | _ => .error .misuse

/-- An argument that starts with the short name of help, given what follows the name: more such
letters, perhaps after an equals sign. Anything else is a value, which help does not take. -/
def helpWord (arg : String) (rest : List Char) : Word :=
  let letters :=
    match rest with
    | '=' :: letters => letters
    | _ => rest
  if rest ≠ ['='] ∧ letters.all (· == 'h') then .flag .help none else .flag .help (some arg)

/-- The kind of an argument. -/
def wordOf (arg : String) : Except Quit Word :=
  match arg.toList with
  | '-' :: '-' :: _ => longWord arg
  | ['-'] => .ok (.value arg)
  | '-' :: 'h' :: rest => .ok (helpWord arg rest)
  | '-' :: _ => .ok (otherWord arg)
  | _ => .ok (.value arg)

/-- The kinds of the arguments: after two hyphens by themselves, which are marked, all are
values. -/
def wordsOf : List String → Except Quit (List (Option Word))
  | [] => .ok []
  | "--" :: rest => .ok (none :: rest.map fun arg => some (.value arg))
  | arg :: rest => do
    let word ← wordOf arg
    let words ← wordsOf rest
    .ok (some word :: words)

/-! ## Taking the arguments in -/

/-- The arguments taken in so far. -/
structure Draft where
  level : Option String
  program : Option String
  tickMillis : Option Int
  maxSteps : Option Int
  render : Bool
  trace : Option String
  surplus : Bool

/-- The value of an option. Two hyphens stand for none. -/
def textValue (text : String) : Option String := if text = "--" then none else some text

/-- A whole number as the value of an option. -/
def wholeValue (text : String) : Except Quit (Option Int) :=
  match textValue text with
  | none => .ok none
  | some text =>
    match Doc.wholeOfText text with
    | .ok n => .ok (some n)
    | .error _ => .error .misuse

/-- Takes in an option with its value. -/
def Draft.put (d : Draft) (flag : Flag) (text : String) : Except Quit Draft :=
  match flag with
  | .program => .ok { d with program := textValue text }
  | .trace => .ok { d with trace := textValue text }
  | .tickMillis => do
    let n ← wholeValue text
    .ok { d with tickMillis := n }
  | .maxSteps => do
    let n ← wholeValue text
    .ok { d with maxSteps := n }
  | .help => .error .misuse
  | .render => .error .misuse

/-- Takes in a value that belongs to no option: the level, or one too many. -/
def Draft.putLevel (d : Draft) (text : String) : Draft :=
  match d.level with
  | none => { d with level := some text }
  | some _ => { d with surplus := true }

/-- Takes in the mark that ends the options. It belongs to the level next to it, so it is one too
many when the level stands elsewhere. -/
def Draft.putMark (d : Draft) : Draft := if d.level.isSome then { d with surplus := true } else d

/-- Takes in the arguments in order. -/
def Draft.take (d : Draft) : List (Option Word) → Except Quit Draft
  | [] => .ok d
  | none :: rest => d.putMark.take rest
  | some (.value text) :: none :: rest => (d.putLevel text).take rest
  | some (.value text) :: rest => (d.putLevel text).take rest
  | some .unknown :: rest => { d with surplus := true }.take rest
  | some (.flag .help none) :: _ => .error .help
  | some (.flag .render none) :: rest => { d with render := true }.take rest
  | some (.flag flag (some text)) :: rest => do
    let d ← d.put flag text
    d.take rest
  | some (.flag flag none) :: some (.value text) :: rest => do
    let d ← d.put flag text
    d.take rest
  | some (.flag _ none) :: _ => .error .misuse

/-- The arguments of a finished draft: a level, and nothing too many. -/
def Draft.finish (d : Draft) : Except Quit Arguments :=
  match d.level with
  | none => .error .misuse
  | some level =>
    if d.surplus then .error .misuse
    else .ok ⟨level, d.program, d.tickMillis, d.maxSteps, d.render, d.trace⟩

/-- Reads a command line. The numbers are the given ones unless an option sets them. -/
def parse (tickMillis maxSteps : Int) (args : List String) : Except Quit Arguments := do
  let words ← wordsOf args
  let draft ← Draft.take ⟨none, none, some tickMillis, some maxSteps, false, none, false⟩ words
  draft.finish

end Arguments

end BlockMaze
