-- Cell keys: a cell written as its column and its row with a comma between,
-- the form in which sets of cells appear in data. Cells of a grid have no
-- negative part, and only their keys are read back.
import BlockMaze.Doc.Whole
import BlockMaze.World.Cell

namespace BlockMaze

namespace Cell

/-- The key of a cell. -/
def key (c : Cell) : String := toString c.x ++ "," ++ toString c.y

/-- Why a text is no key. -/
inductive KeyError where
  | malformed (key : Wording)
  | tooLong (digits : Nat)
  | wrongType (name : String)
deriving DecidableEq, Repr

/-- The message of an error. -/
def KeyError.message : KeyError → String
  | .malformed key => "Malformed coordinate key " ++ key.quoted ++ "; expected 'x,y'"
  | .tooLong digits => Doc.tooLongMessage digits
  | .wrongType name => "expected string or bytes-like object, got '" ++ name ++ "'"

/-- Digits 0 to 9 without a leading zero. -/
def isCanonical : List Char → Bool
  | [] => false
  | ['0'] => true
  | '0' :: _ => false
  | cs => cs.all Char.isDigit

/-- The number that canonical digits write. -/
def keyPart (digits : List Char) : Except KeyError Int :=
  if Number.maxDigits < digits.length then .error (.tooLong digits.length)
  else .ok (Nat.ofDigitChars 10 digits 0)

/-- The cell of a key. -/
def ofKey (key : String) : Except KeyError Cell :=
  let column := key.toList.takeWhile (· != ',')
  match key.toList.dropWhile (· != ',') with
  | ',' :: row =>
    if isCanonical column && isCanonical row then do
      let x ← keyPart column
      let y ← keyPart row
      .ok ⟨x, y⟩
    else .error (.malformed key)
  | _ => .error (.malformed key)

/-- The cell of a key that is given as a document. -/
def ofKeyDoc : Doc → Except KeyError Cell
  | .text key => ofKey key
  | .str key => .error (.malformed key)
  | other => .error (.wrongType other.typeName)

/-- The key of a cell whose parts are given as documents, the column being read first. -/
def keyOfDocs (x y : Doc) : Except Doc.WholeError String := do
  let x ← x.whole
  let y ← y.whole
  .ok (key ⟨x, y⟩)

end Cell

end BlockMaze
