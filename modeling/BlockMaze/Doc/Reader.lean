-- Reading a document from text. The grammar is strict: no comments, no comma
-- before a closing bracket, no raw control character in a text and no leading
-- zero. Blanks are the space, the tab and the line ends. The names NaN and
-- Infinity are read as numbers, and of two equal field names the last counts.
import BlockMaze.Doc.Basic
import BlockMaze.Number.Whole
import BlockMaze.Text.Hex

namespace BlockMaze.Doc

open Number Text

/-- What holds other values. -/
inductive Nest where
  | array
  | object
deriving DecidableEq, Repr

/-- Why a text is no document. -/
inductive ReadFault where
  | malformed
  | numberTooLong (digits : Nat)
  | tooDeep (nest : Nest)
deriving DecidableEq, Repr

/-- What a reading allows. -/
structure ReadRules where
  /-- The deepest nesting of arrays and objects. -/
  maxDepth : Option Nat
  /-- Whether an empty array or object counts as nesting. -/
  emptyNests : Bool
  /-- Whether a text may be torn. -/
  tornTexts : Bool
  /-- Whether the digits before a fraction or a power may be any number. -/
  longFronts : Bool
deriving Repr

/-- The rules for files of levels and programs. -/
def fileRules : ReadRules := ⟨some 989, true, true, true⟩

/-- The rules for saved traces. -/
def traceRules : ReadRules := ⟨some 200, false, false, false⟩

/-- The blanks between tokens. -/
def isGap (c : Char) : Bool := c = ' ' || c = '\t' || c = '\n' || c = '\r'

/-- The text after its leading blanks. -/
def skipGap (cs : List Char) : List Char := cs.dropWhile isGap

/-! ## Texts -/

/-- The character of a one-letter escape. -/
def escaped? : Char → Option Char
  | '"' => some '"'
  | '\\' => some '\\'
  | '/' => some '/'
  | 'b' => some '\x08'
  | 'f' => some '\x0c'
  | 'n' => some '\n'
  | 'r' => some '\r'
  | 't' => some '\t'
  | _ => none

/-- The pieces up to the closing quote, and the rest. -/
def readPieces : List Char → Option (List Piece × List Char)
  | [] => none
  | '"' :: rest => some ([], rest)
  | '\\' :: 'u' :: a :: b :: c :: d :: rest => do
    let code ← hexQuad? a b c d
    let (ps, rest) ← readPieces rest
    some (.ofCode code :: ps, rest)
  | '\\' :: c :: rest => do
    let c ← escaped? c
    let (ps, rest) ← readPieces rest
    some (.char c :: ps, rest)
  | c :: rest =>
    if c.toNat < 0x20 then none
    else do
      let (ps, rest) ← readPieces rest
      some (.char c :: ps, rest)

/-- Reads a text after its opening quote. -/
def readText (rules : ReadRules) (cs : List Char) : Except ReadFault (Wording × List Char) :=
  match readPieces cs with
  | none => .error .malformed
  | some (pieces, rest) =>
    match Wording.ofPieces (Piece.join pieces) with
    | .text s => .ok (.text s, rest)
    | .torn pieces => if rules.tornTexts then .ok (.torn pieces, rest) else .error .malformed

/-! ## Numbers -/

/-- Splits the digits 0 to 9 off the front. -/
def splitDigits (cs : List Char) : List Char × List Char :=
  (cs.takeWhile Char.isDigit, cs.dropWhile Char.isDigit)

/-- The whole part of a number: a zero, or digits that do not start with one. -/
def splitWhole : List Char → List Char × List Char
  | '0' :: rest => (['0'], rest)
  | cs => splitDigits cs

/-- The digits after a point. A point without digits is left alone. -/
def splitFraction : List Char → List Char × List Char
  | '.' :: rest =>
    match splitDigits rest with
    | ([], _) => ([], '.' :: rest)
    | (digits, rest) => (digits, rest)
  | cs => ([], cs)

/-- The power of ten. A mark without digits is left alone. -/
def splitPower (cs : List Char) : Option Int × List Char :=
  match cs with
  | mark :: rest =>
    if mark = 'e' || mark = 'E' then
      let (negative, after) := splitSign rest
      match splitDigits after with
      | ([], _) => (none, cs)
      | (digits, rest) => (some (signed negative (Nat.ofDigitChars 10 digits 0)), rest)
    else (none, cs)
  | [] => (none, [])

/-- A number with its sign taken off. -/
def readMagnitude (rules : ReadRules) (negative : Bool) (cs : List Char) :
    Except ReadFault (Doc × List Char) :=
  let (digits, rest) := splitWhole cs
  let (fraction, rest) := splitFraction rest
  let (power, rest) := splitPower rest
  let isWhole := fraction.isEmpty && power.isNone
  if digits.isEmpty then .error .malformed
  else if maxDigits < digits.length && (isWhole || !rules.longFronts) then
    .error (.numberTooLong digits.length)
  else if isWhole then .ok (.int (signed negative (Nat.ofDigitChars 10 digits 0)), rest)
  else
    .ok (.real (Binary64.ofDecimal negative (Nat.ofDigitChars 10 (digits ++ fraction) 0)
      (power.getD 0 - fraction.length)), rest)

/-! ## Values -/

/-- Takes a word off the front. -/
def dropWord? : List Char → List Char → Option (List Char)
  | [], cs => some cs
  | w :: ws, c :: cs => if w = c then dropWord? ws cs else none
  | _ :: _, [] => none

/-- The words that are values. -/
def words : List (String × Doc) :=
  [("null", .null), ("true", .bool true), ("false", .bool false), ("NaN", .real .nan),
    ("Infinity", .real (.infinite false)), ("-Infinity", .real (.infinite true))]

/-- The first of the words that the text starts with. -/
def readWord (cs : List Char) : List (String × Doc) → Option (Doc × List Char)
  | [] => none
  | (word, value) :: more =>
    match dropWord? word.toList cs with
    | some rest => some (value, rest)
    | none => readWord cs more

/-- A value that holds no other value. -/
def readLeaf (rules : ReadRules) (cs : List Char) : Except ReadFault (Doc × List Char) :=
  match cs with
  | '"' :: rest => do
    let (wording, rest) ← readText rules rest
    .ok (.str wording, rest)
  | _ =>
    match readWord cs words with
    | some hit => .ok hit
    | none =>
      match cs with
      | '-' :: rest => readMagnitude rules true rest
      | _ => readMagnitude rules false cs

/-- Whether an array or object, empty or not, may stand at a depth. -/
def ReadRules.admits (rules : ReadRules) (depth : Nat) (empty : Bool) : Bool :=
  match rules.maxDepth with
  | none => true
  | some limit => depth ≤ limit || (empty && !rules.emptyNests)

mutual

/-- Reads the value at the front, nested inside `depth` others. The first number bounds the
recursion. -/
def readValue (rules : ReadRules) : Nat → Nat → List Char → Except ReadFault (Doc × List Char)
  | 0, _, _ => .error .malformed
  | fuel + 1, depth, cs =>
    match cs with
    | '[' :: rest =>
      let inside := skipGap rest
      if !rules.admits (depth + 1) (inside.head? = some ']') then .error (.tooDeep .array)
      else
        match inside with
        | ']' :: rest => .ok (.arr [], rest)
        | _ => do
          let (items, rest) ← readItems rules fuel (depth + 1) inside
          .ok (.arr items, rest)
    | '{' :: rest =>
      let inside := skipGap rest
      if !rules.admits (depth + 1) (inside.head? = some '}') then .error (.tooDeep .object)
      else
        match inside with
        | '}' :: rest => .ok (.obj [], rest)
        | _ => do
          let (fields, rest) ← readFields rules fuel (depth + 1) [] inside
          .ok (.obj fields, rest)
    | _ => readLeaf rules cs

/-- Reads the items of an array from the first one on. -/
def readItems (rules : ReadRules) : Nat → Nat → List Char → Except ReadFault (List Doc × List Char)
  | 0, _, _ => .error .malformed
  | fuel + 1, depth, cs => do
    let (item, rest) ← readValue rules fuel depth cs
    match skipGap rest with
    | ',' :: rest =>
      let (items, rest) ← readItems rules fuel depth (skipGap rest)
      .ok (item :: items, rest)
    | ']' :: rest => .ok ([item], rest)
    | _ => .error .malformed

/-- Reads the fields of an object from the first one on, after the fields read before. -/
def readFields (rules : ReadRules) :
    Nat → Nat → Fields → List Char → Except ReadFault (Fields × List Char)
  | 0, _, _, _ => .error .malformed
  | fuel + 1, depth, before, cs =>
    match cs with
    | '"' :: rest => do
      let (key, rest) ← readText rules rest
      match skipGap rest with
      | ':' :: rest =>
        let (value, rest) ← readValue rules fuel depth (skipGap rest)
        let fields := Fields.put key value before
        match skipGap rest with
        | ',' :: rest => readFields rules fuel depth fields (skipGap rest)
        | '}' :: rest => .ok (fields, rest)
        | _ => .error .malformed
      | _ => .error .malformed
    | _ => .error .malformed

end

/-- Reads a whole text as one document. -/
def read (rules : ReadRules) (text : String) : Except ReadFault Doc := do
  let cs := text.toList
  let (doc, rest) ← readValue rules (2 * cs.length + 2) 0 (skipGap cs)
  if (skipGap rest).isEmpty then .ok doc else .error .malformed

end BlockMaze.Doc
