-- Atoms: values so plain that there is only one of each, however often it
-- stands in documents. Any other value is one of its own at every place.
import BlockMaze.Doc.Basic

namespace BlockMaze.Doc

/-- A value that is the same one wherever it stands. -/
inductive Atom where
  | null
  | bool (b : Bool)
  | int (n : Int)
  | real (x : Number.Binary64)
  | text (s : String)
deriving DecidableEq, Repr

/-- The numbers that are atoms. -/
def isSmallInt (n : Int) : Bool := -5 ≤ n && n ≤ 256

/-- The texts that are atoms: the empty one, and one character of the first 256. -/
def isSmallText (s : String) : Bool :=
  match s.toList with
  | [] => true
  | [c] => c.toNat < 0x100
  | _ => false

/-- The atom that a document is. -/
def atom? : Doc → Option Atom
  | .null => some .null
  | .bool b => some (.bool b)
  | .int n => if isSmallInt n then some (.int n) else none
  | .real .nan => some (.real .nan)
  | .real (.infinite negative) => some (.real (.infinite negative))
  | .text s => if isSmallText s then some (.text s) else none
  | _ => none

end BlockMaze.Doc
