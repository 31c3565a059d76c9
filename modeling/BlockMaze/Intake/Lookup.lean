-- Looking a document up in a vocabulary.
import BlockMaze.Doc.Shown
import BlockMaze.World.Vocabulary

namespace BlockMaze

/-- A document that is no word of a vocabulary. -/
structure UnknownWord where
  doc : Doc
  title : String

/-- The message for a document that is no word of a vocabulary. -/
def UnknownWord.message (e : UnknownWord) : String :=
  e.doc.shown ++ " is not a valid " ++ e.title

/-- The member whose word a document is. -/
def Vocabulary.lookup (α : Type) [Vocabulary α] (doc : Doc) : Except UnknownWord α :=
  match doc with
  | .text s =>
    match (find? s : Option α) with
    | some a => .ok a
    | none => .error ⟨doc, title α⟩
  | _ => .error ⟨doc, title α⟩

end BlockMaze
