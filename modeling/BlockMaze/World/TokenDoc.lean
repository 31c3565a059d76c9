-- Tokens of tiles in documents.
import BlockMaze.Doc.Shown
import BlockMaze.World.Tile

namespace BlockMaze.Tile

/-- Why a document is no token of a tile: it is an unknown text, it is no text, or it cannot even
be looked up. -/
inductive TokenDocError where
  | token (error : TokenError)
  | notText (typeName : String)
  | notPlain (typeName : String)
deriving DecidableEq, Repr

/-- The message of an error. -/
def TokenDocError.message : TokenDocError → String
  | .token error => error.message
  | .notText typeName => "'" ++ typeName ++ "' object has no attribute 'upper'"
  | .notPlain typeName => "unhashable type: '" ++ typeName ++ "'"

/-- The tile of a token that is given as a document. -/
def ofTokenDoc (doc : Doc) : Except TokenDocError Tile :=
  match doc with
  | .str token =>
    match ofWording token with
    | .ok tile => .ok tile
    | .error error => .error (.token error)
  | .arr _ => .error (.notPlain doc.typeName)
  | .obj _ => .error (.notPlain doc.typeName)
  | _ => .error (.notText doc.typeName)

end BlockMaze.Tile
