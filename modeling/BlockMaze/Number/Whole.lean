-- Whole numbers written as text. The broad reading takes the digits of every
-- script between white space; the plain reading takes the digits 0 to 9 and
-- also a fraction of zeros. Both take one sign, leading zeros and underscores
-- between digits, and both stop at a length beyond which no number is read.
import BlockMaze.Text.Blank
import BlockMaze.Text.Digit

namespace BlockMaze.Number

open Text

/-- The most digits that a whole number may be written with. -/
def maxDigits : Nat := 4300

/-- Why a text is no whole number. -/
inductive WholeFault where
  | unreadable
  | tooLong (digits : Nat)
deriving DecidableEq, Repr

/-- Splits one sign off: whether it is a minus, and the rest. -/
def splitSign : List Char → Bool × List Char
  | '-' :: rest => (true, rest)
  | '+' :: rest => (false, rest)
  | rest => (false, rest)

/-- A magnitude with its sign. -/
def signed (negative : Bool) (n : Nat) : Int := if negative then -n else n

/-! ## The broad reading -/

/-- The values of a row of digits with single underscores between them. -/
def digitRow? (value? : Char → Option Nat) : List Char → Option (List Nat)
  | [] => none
  | [c] => (value? c).map fun d => [d]
  | c :: '_' :: rest => do
    let d ← value? c
    let ds ← digitRow? value? rest
    some (d :: ds)
  | c :: rest => do
    let d ← value? c
    let ds ← digitRow? value? rest
    some (d :: ds)

/-- A character of a row: a digit of any script, or an underscore. -/
def isInRow (c : Char) : Bool := c = '_' || (decimalValue? c).isSome

/-- Reads a whole number in the digits of any script. Every digit counts toward the limit, which
is looked at before what follows the digits. -/
def readBroad (cs : List Char) : Except WholeFault Int :=
  let (negative, rest) := splitSign (cs.dropWhile isWhiteSpace)
  match digitRow? decimalValue? (rest.takeWhile isInRow) with
  | none => .error .unreadable
  | some digits =>
    if maxDigits < digits.length then .error (.tooLong digits.length)
    else if (rest.dropWhile isInRow).all isWhiteSpace then
      .ok (signed negative (ofDigits digits))
    else .error .unreadable

/-! ## The plain reading -/

/-- One of the digits 1 to 9. -/
def isLeading (c : Char) : Bool := c.isDigit && c != '0'

/-- Reads digits without a leading zero, after a minus or without one. The limit is looked at
before what follows the digits. -/
def readBare (cs : List Char) : Except WholeFault Int :=
  let (negative, rest) :=
    match cs with
    | '-' :: rest => (true, rest)
    | _ => (false, cs)
  let digits := rest.takeWhile Char.isDigit
  if rest = ['0'] then .ok 0
  else if !digits.head?.any isLeading then .error .unreadable
  else if maxDigits < digits.length then .error (.tooLong digits.length)
  else if digits.length < rest.length then .error .unreadable
  else .ok (signed negative (Nat.ofDigitChars 10 digits 0))

/-- Goes past zeros and underscores, the last of which is given: to a leading digit or a minus,
or to a point or the end, in front of which one character is kept. -/
def pastZeros? (last : Char) : List Char → Option (List Char)
  | [] => some [last]
  | c :: rest =>
    if c = '0' || c = '_' then pastZeros? c rest
    else if isLeading c || c = '-' then some (c :: rest)
    else if c = '.' then some (last :: c :: rest)
    else none

/-- Cuts the leading zeros off a text that starts with a digit or a minus. -/
def cutZeros? : List Char → Option (List Char)
  | '0' :: rest => pastZeros? '0' rest
  | c :: rest => if isLeading c || c = '-' then some (c :: rest) else none
  | [] => none

/-- Cuts off the sign if it is a plus, and the zeros after the sign. -/
def cutFront? : List Char → Option (List Char)
  | '+' :: '-' :: _ => none
  | '+' :: rest => cutZeros? rest
  | '-' :: rest => (cutZeros? rest).map ('-' :: ·)
  | cs => cutZeros? cs

/-- Cuts off a point followed by zeros. A point followed by anything else stays. -/
def cutZeroFraction (cs : List Char) : List Char :=
  match cs.dropWhile (· != '.') with
  | '.' :: zeros =>
    if !zeros.isEmpty && zeros.all (· == '0') then cs.takeWhile (· != '.') else cs
  | _ => cs

/-- Whether two underscores stand together. -/
def hasDoubleUnderscore : List Char → Bool
  | '_' :: '_' :: _ => true
  | _ :: rest => hasDoubleUnderscore rest
  | [] => false

/-- Takes single underscores out of the inside of a text. -/
def cutUnderscores (cs : List Char) : List Char :=
  if cs.head? = some '_' || cs.getLast? = some '_' || hasDoubleUnderscore cs then cs
  else cs.filter (· != '_')

/-- The bare form of a text: without white space around it, plus, leading zeros, fraction of zeros
and underscores. -/
def bareForm? (cs : List Char) : Option (List Char) :=
  (cutFront? (trim cs)).map fun cs => cutUnderscores (cutZeroFraction cs)

/-- Reads a whole number in the digits 0 to 9: as it stands, or in its bare form. Only a text
that needs no change can be too long. -/
def readPlain (cs : List Char) : Except WholeFault Int :=
  match readBare cs with
  | .ok n => .ok n
  | .error (.tooLong digits) => .error (.tooLong digits)
  | .error .unreadable =>
    match (bareForm? cs).map readBare with
    | some (.ok n) => .ok n
    | _ => .error .unreadable

end BlockMaze.Number
