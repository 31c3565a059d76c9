-- The shelf of levels: a directory whose files hold one level each. Levels
-- are loaded by name, listed by the number they carry, and looked up without
-- reading the whole grid.
import BlockMaze.Doc.Reader
import BlockMaze.Level.LevelDoc
import BlockMaze.Shelf.Files

namespace BlockMaze

/-- The kinds of errors that a caller can tell apart. -/
inductive ErrorKind where
  | value
  | type
  | attribute
  | key
  | overflow
  | depth
  | file
deriving DecidableEq, Repr

/-- Why a level, or the facts about it, cannot be had. -/
inductive ShelfError where
  | levelMissing (name : String) (path : Path)
  | file (error : FileError)
  | badText
  | numberTooLong (digits : Nat)
  | tooDeep (nest : Doc.Nest)
  | noFields (typeName : String)
  | badNumber (error : Doc.WholeError)
  | notAnObject
  | missingFields (names : List String)
  | noRows
  | refused (refusal : Level.Refusal)
  | noLength (typeName : String)
  | noFirstRow

namespace ShelfError

/-- The message for a file whose values are nested too deep. -/
def tooDeepMessage (nest : Doc.Nest) : String :=
  "maximum recursion depth exceeded while decoding a JSON "
    ++ (match nest with
        | .array => "array"
        | .object => "object")
    ++ " from a unicode string"

/-- The message of an error, for those that have one message. -/
def message : ShelfError → String
  | .levelMissing name path => "Level '" ++ name ++ "' not found at " ++ path.text
  | .file error => error.message
  | .badText => ""
  | .numberTooLong digits => Doc.tooLongMessage digits
  | .tooDeep nest => tooDeepMessage nest
  | .noFields typeName => "'" ++ typeName ++ "' object has no attribute 'get'"
  | .badNumber error => error.message
  | .notAnObject => "Level file must contain a JSON object"
  | .missingFields names => "Level missing required fields: " ++ (Doc.texts names).shown
  | .noRows => "Level grid must have at least one row"
  | .refused (.rowNotWalkable typeName) => Level.rowMessage typeName
  | .refused (.invalid _) => ""
  | .noLength typeName => "object of type '" ++ typeName ++ "' has no len()"
  | .noFirstRow => "0"

/-- The kind of an error. A text that is no document and a document that is no level are bad
values, but to walk what cannot be walked is an error of type. -/
def kind : ShelfError → ErrorKind
  | .levelMissing _ _ => .file
  | .file (.blocked _ _) => .file
  | .file .badName => .value
  | .badText => .value
  | .numberTooLong _ => .value
  | .tooDeep _ => .depth
  | .noFields _ => .attribute
  | .badNumber (.wrongType _) => .type
  | .badNumber .infinite => .overflow
  | .badNumber _ => .value
  | .notAnObject => .value
  | .missingFields _ => .value
  | .noRows => .value
  | .refused (.invalid _) => .value
  | .refused (.rowNotWalkable _) => .type
  | .noLength _ => .type
  | .noFirstRow => .key

end ShelfError

/-- A directory of levels. -/
structure Shelf where
  files : Files
  directory : Path

namespace Shelf

/-- The path of a level's file. -/
def pathOf (shelf : Shelf) (name : String) : Path := shelf.directory.join (name ++ ".json")

/-- The document in a text. -/
def docOf (text : String) : Except ShelfError Doc :=
  match Doc.read Doc.fileRules text with
  | .ok doc => .ok doc
  | .error .malformed => .error .badText
  | .error (.numberTooLong digits) => .error (.numberTooLong digits)
  | .error (.tooDeep nest) => .error (.tooDeep nest)

/-- The document in the file at a path. -/
def docAt (files : Files) (path : Path) : Except ShelfError Doc :=
  match files.read path with
  | .ok text => docOf text
  | .error error => .error (.file error)

/-! ## Loading -/

/-- The fields that the file of a level must have. -/
def requiredFields : List String := ["name", "grid", "start"]

/-- The checks before a document is read as a level. -/
def precheck (doc : Doc) : Except ShelfError Unit :=
  match doc with
  | .obj fields =>
    let missing := requiredFields.filter fun name => !Fields.has fields name
    if !missing.isEmpty then .error (.missingFields missing)
    else if (Fields.get? fields "grid").any Doc.isEmpty then .error .noRows
    else .ok ()
  | _ => .error .notAnObject

/-- The level in a document. -/
def parse (doc : Doc) : Except ShelfError Level := do
  precheck doc
  match Level.read doc with
  | .ok level => .ok level
  | .error refusal => .error (.refused refusal)

/-- Loads a level by its name. -/
def load (shelf : Shelf) (name : String) : Except ShelfError Level :=
  let path := shelf.pathOf name
  match shelf.files.holds path with
  | .error error => .error (.file error)
  | .ok false => .error (.levelMissing name path)
  | .ok true => do
    let doc ← docAt shelf.files path
    parse doc

/-! ## Listing -/

/-- A name without its ending, which a name that is nothing but the ending keeps. -/
def stem (name : String) : String :=
  if name = ".json" then name else String.ofList (name.toList.take (name.length - 5))

/-- Whether a file is listed: it has the ending and is not marked as hidden. -/
def isListed (name : String) : Bool := name.endsWith ".json" && !name.startsWith "_"

/-- The number by which a level is listed. -/
def numberOf (doc : Doc) : Except ShelfError Int :=
  match doc with
  | .obj fields =>
    match ((Fields.get? fields "id").getD (.int 0)).whole with
    | .ok n => .ok n
    | .error error => .error (.badNumber error)
  | other => .error (.noFields other.typeName)

/-- The entry of a file in the list. -/
def entryOf (shelf : Shelf) (name : String) : Except ShelfError (Int × String) := do
  let doc ← docAt shelf.files (shelf.directory.join name)
  let number ← numberOf doc
  .ok (number, stem name)

/-- Entries are in the order of their numbers, those of one number in the order of their
names. -/
def entryLe (a b : Int × String) : Bool := a.1 < b.1 || (a.1 = b.1 && a.2 ≤ b.2)

/-- The names of the levels, in the order of their numbers. -/
def list (shelf : Shelf) : Except ShelfError (List String) :=
  match shelf.files.find shelf.directory with
  | .directory place => do
    let names := (shelf.files.namesIn place).filter isListed
    let entries ← names.mapM shelf.entryOf
    .ok ((entries.mergeSort entryLe).map (·.2))
  | _ => .ok []

/-! ## Facts -/

/-- The number of rows or tiles in a document. -/
def lengthOf : Doc → Except ShelfError Nat
  | .str s => .ok s.length
  | .arr items => .ok items.length
  | .obj fields => .ok fields.length
  | other => .error (.noLength other.typeName)

/-- The length of the first row of a grid that is not empty. -/
def firstRowLength : Doc → Except ShelfError Nat
  | .str _ => .ok 1
  | .arr (row :: _) => lengthOf row
  | _ => .error .noFirstRow

/-- The facts about a level: what its file says, without reading it as a level. -/
structure Facts where
  id : Doc
  name : Doc
  tutorial : Doc
  rows : Nat
  cols : Nat
  minStars : Doc

/-- The facts in the fields of a file. -/
def factsOf (name : String) (fields : Fields) : Except ShelfError Facts := do
  let grid := (fields.get? "grid").getD (.arr [])
  let rows ← lengthOf grid
  let cols ← if grid.isEmpty then .ok 0 else firstRowLength grid
  .ok
    { id := (fields.get? "id").getD (.int 0)
      name := (fields.get? "name").getD (.text name)
      tutorial := ((fields.get? "tutorialText").or (fields.get? "tutorial_text")).getD .null
      rows
      cols
      minStars := ((fields.get? "minStars").or (fields.get? "min_stars")).getD (.int 0) }

/-- The facts about a level by its name. -/
def info (shelf : Shelf) (name : String) : Except ShelfError Facts := do
  let doc ← docAt shelf.files (shelf.pathOf name)
  match doc with
  | .obj fields => factsOf name fields
  | other => .error (.noFields other.typeName)

/-- Facts as a document. -/
def Facts.toDoc (facts : Facts) : Doc :=
  .obj [("id", facts.id), ("name", facts.name), ("tutorial_text", facts.tutorial),
    ("rows", .int facts.rows), ("cols", .int facts.cols), ("min_stars", facts.minStars)]

end Shelf

end BlockMaze
