-- Writing a document as text, on one line or indented by two spaces a level.
-- The quote, the backslash, the control characters and half surrogate pairs
-- are escaped and nothing else is.
import BlockMaze.Doc.Basic
import BlockMaze.Number.Shortest
import BlockMaze.Text.Hex

namespace BlockMaze.Doc

open Number Text

/-- One character of a written text. -/
def writeChar (c : Char) : List Char :=
  if c = '"' then ['\\', '"']
  else if c = '\\' then ['\\', '\\']
  else if c = '\x08' then ['\\', 'b']
  else if c = '\t' then ['\\', 't']
  else if c = '\n' then ['\\', 'n']
  else if c = '\x0c' then ['\\', 'f']
  else if c = '\r' then ['\\', 'r']
  else if c.toNat < 0x20 then '\\' :: 'u' :: hexPadded 4 c.toNat
  else [c]

/-- One piece of a written text. Half of a surrogate pair is escaped. -/
def writePiece : Piece → List Char
  | .char c => writeChar c
  | .half code => '\\' :: 'u' :: hexPadded 4 code

/-- A text between double quotes. -/
def writeText : Wording → List Char
  | .text s => '"' :: s.toList.flatMap writeChar ++ ['"']
  | .torn pieces => '"' :: pieces.flatMap writePiece ++ ['"']

/-- A number with a fraction. -/
def writeReal : Binary64 → List Char
  | .nan => "NaN".toList
  | .infinite negative => (if negative then "-Infinity" else "Infinity").toList
  | x => x.text

/-- How a document is spread over lines: on one line, or indented from a level on. -/
inductive Spread where
  | line
  | lines (level : Nat)

/-- One level further in. -/
def Spread.inner : Spread → Spread
  | .line => .line
  | .lines level => .lines (level + 1)

/-- The start of a new line. -/
def Spread.break : Spread → List Char
  | .line => []
  | .lines level => '\n' :: List.replicate (2 * level) ' '

/-- What stands between a field's name and its value. -/
def Spread.colon : Spread → List Char
  | .line => [':']
  | .lines _ => [':', ' ']

mutual

/-- Writes a document. -/
def write (spread : Spread) : Doc → List Char
  | .null => "null".toList
  | .bool b => (if b then "true" else "false").toList
  | .int n => (toString n).toList
  | .real x => writeReal x
  | .str s => writeText s
  | .arr [] => ['[', ']']
  | .arr (item :: items) =>
    '[' :: spread.inner.break ++ write spread.inner item ++ writeItems spread.inner items
      ++ spread.break ++ [']']
  | .obj [] => ['{', '}']
  | .obj ((key, value) :: fields) =>
    '{' :: spread.inner.break ++ writeText key ++ spread.colon ++ write spread.inner value
      ++ writeFields spread.inner fields ++ spread.break ++ ['}']

/-- Writes the items after the first one. -/
def writeItems (spread : Spread) : List Doc → List Char
  | [] => []
  | item :: items => ',' :: spread.break ++ write spread item ++ writeItems spread items

/-- Writes the fields after the first one. -/
def writeFields (spread : Spread) : List (Wording × Doc) → List Char
  | [] => []
  | (key, value) :: fields =>
    ',' :: spread.break ++ writeText key ++ spread.colon ++ write spread value
      ++ writeFields spread fields

end

/-- A document on one line. -/
def toLine (doc : Doc) : String := String.ofList (write .line doc)

/-- A document on indented lines. -/
def toLines (doc : Doc) : String := String.ofList (write (.lines 0) doc)

end BlockMaze.Doc
