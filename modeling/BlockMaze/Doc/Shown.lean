-- How a message shows a document and names its type.
import BlockMaze.Doc.Basic
import BlockMaze.Number.Shortest

namespace BlockMaze.Doc

/-- The name that a message gives to the type of a document. -/
def typeName : Doc → String
  | .null => "NoneType"
  | .bool _ => "bool"
  | .int _ => "int"
  | .real _ => "float"
  | .str _ => "str"
  | .arr _ => "list"
  | .obj _ => "dict"

mutual

/-- A document as a message shows it. -/
def shown : Doc → String
  | .null => "None"
  | .bool b => if b then "True" else "False"
  | .int n => toString n
  | .real x => String.ofList x.text
  | .str s => s.quoted
  | .arr items => "[" ++ ", ".intercalate (shownItems items) ++ "]"
  | .obj fields => "\x7b" ++ ", ".intercalate (shownFields fields) ++ "\x7d"

/-- The items of an array, each as a message shows it. -/
def shownItems : List Doc → List String
  | [] => []
  | item :: items => shown item :: shownItems items

/-- The fields of an object, each as a message shows it. -/
def shownFields : List (Wording × Doc) → List String
  | [] => []
  | (key, value) :: fields => (key.quoted ++ ": " ++ shown value) :: shownFields fields

end

end BlockMaze.Doc
