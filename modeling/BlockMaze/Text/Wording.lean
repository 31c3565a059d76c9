-- Wordings: texts as escapes in a document may write them. A pair of
-- surrogates stands for one character. Half of a pair that stands alone is no
-- character, yet it is kept, counted and shown; a text with such a half is
-- torn.
import BlockMaze.Text.Quoted

namespace BlockMaze

/-- A piece of a text: a character, or half of a surrogate pair. -/
inductive Piece where
  | char (c : Char)
  | half (code : Nat)
deriving DecidableEq, Repr

namespace Piece

/-- The first half of a surrogate pair. -/
def isHigh (n : Nat) : Bool := 0xD800 ≤ n && n < 0xDC00

/-- The second half of a surrogate pair. -/
def isLow (n : Nat) : Bool := 0xDC00 ≤ n && n < 0xE000

/-- The piece that a code stands for. -/
def ofCode (n : Nat) : Piece := if isHigh n || isLow n then .half n else .char (Char.ofNat n)

/-- The character of a surrogate pair. -/
def paired (high low : Nat) : Char :=
  Char.ofNat (0x10000 + (high - 0xD800) * 0x400 + (low - 0xDC00))

/-- Joins the two halves of every pair. -/
def join : List Piece → List Piece
  | [] => []
  | .half h :: .half l :: ps =>
    if isHigh h && isLow l then .char (paired h l) :: join ps else .half h :: join (.half l :: ps)
  | p :: ps => p :: join ps

/-- The character of a piece. Half of a pair has none. -/
def char? : Piece → Option Char
  | .char c => some c
  | .half _ => none

/-- A piece inside quotes. -/
def quoted (quote : Char) : Piece → List Char
  | .char c => Text.escapeQuoted quote c
  | .half code => Text.escapeCode code

end Piece

/-- A text, torn if it is not made of characters only. -/
inductive Wording where
  | text (s : String)
  | torn (pieces : List Piece)
deriving DecidableEq, Repr

namespace Wording

instance : Coe String Wording := ⟨.text⟩

/-- The text of some pieces. -/
def ofPieces (pieces : List Piece) : Wording :=
  match pieces.mapM Piece.char? with
  | some cs => .text (String.ofList cs)
  | none => .torn pieces

/-- The number of characters, a half that stands alone counting as one. -/
def length : Wording → Nat
  | .text s => s.length
  | .torn pieces => pieces.length

/-- The pieces as texts of their own. -/
def letters : Wording → List Wording
  | .text s => s.toList.map fun c => .text c.toString
  | .torn pieces => pieces.map fun p => ofPieces [p]

/-- The text with the replacement character for every half. -/
def plain : Wording → String
  | .text s => s
  | .torn pieces => String.ofList (pieces.map fun p => p.char?.getD '\ufffd')

/-- A text between quotes, as a message names it. -/
def quoted : Wording → String
  | .text s => Text.quoted s
  | .torn pieces =>
    let quote := Text.quoteFor (pieces.filterMap Piece.char?)
    String.ofList (quote :: pieces.flatMap (Piece.quoted quote) ++ [quote])

end Wording

end BlockMaze
