-- Documents: the data that levels, programs and traces are written in. The
-- fields of an object keep their order, and a name stands at most once.
import BlockMaze.Number.Binary64
import BlockMaze.Text.Wording

namespace BlockMaze

open Number

/-- A value of a document. -/
inductive Doc where
  | null
  | bool (b : Bool)
  | int (n : Int)
  | real (x : Binary64)
  | str (s : Wording)
  | arr (items : List Doc)
  | obj (fields : List (Wording × Doc))
deriving Repr

/-- The named values of an object. -/
abbrev Fields := List (Wording × Doc)

namespace Fields

/-- Sets a name: the value changes in place, or the name comes last. -/
def put (key : Wording) (value : Doc) : Fields → Fields
  | [] => [(key, value)]
  | (k, v) :: rest => if k = key then (k, value) :: rest else (k, v) :: put key value rest

/-- The value of a name. -/
def get? (fields : Fields) (key : String) : Option Doc := fields.lookup (.text key)

/-- Whether a name stands in the object. -/
def has (fields : Fields) (key : String) : Bool := (fields.get? key).isSome

end Fields

namespace Doc

instance : Inhabited Doc := ⟨.null⟩

/-- A text made of characters. -/
@[match_pattern]
abbrev text (s : String) : Doc := .str (.text s)

/-- The document of an optional value. -/
def ofOption (toDoc : α → Doc) : Option α → Doc
  | none => .null
  | some a => toDoc a

/-- An array of texts. -/
def texts (ss : List String) : Doc := .arr (ss.map .text)

/-- Whether a document counts as empty: null, false, zero, and the empty text, array and
object. -/
def isEmpty : Doc → Bool
  | .null => true
  | .bool b => !b
  | .int n => n = 0
  | .real (.finite _ m _) => m = 0
  | .real _ => false
  | .str s => s.length = 0
  | .arr items => items.isEmpty
  | .obj fields => fields.isEmpty

end Doc

end BlockMaze
