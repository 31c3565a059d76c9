-- Levels in documents. A row of the grid is a text, an array or an object, and
-- is walked by its characters, items or names. The walk stops at the first
-- token that stands for no tile and at the first row that cannot be walked;
-- the latter refuses the level on the spot, whatever else is wrong with it.
import BlockMaze.Block.Basic
import BlockMaze.Level.Basic
import BlockMaze.World.PoseDoc

namespace BlockMaze

namespace Level

/-- Why a document is no level. -/
inductive Refusal where
  | invalid (faults : List Fault)
  | rowNotWalkable (typeName : String)
deriving DecidableEq, Repr

/-- The message for a row that cannot be walked. -/
def rowMessage (typeName : String) : String := "'" ++ typeName ++ "' object is not iterable"

/-! ## The grid -/

/-- Where a walk over a grid stops. -/
inductive Stop where
  | token (error : Tile.TokenError)
  | row (typeName : String)

/-- The tile of an item; an item that is no text has none yet. -/
def walkItem : Doc → Except Stop (Option Tile)
  | .str token =>
    match Tile.ofWording token with
    | .ok tile => .ok (some tile)
    | .error error => .error (.token error)
  | _ => .ok none

/-- The items of a row. -/
def rowItems : Doc → Except Stop (List Doc)
  | .str s => .ok (s.letters.map .str)
  | .arr items => .ok items
  | .obj fields => .ok (fields.map fun field => .str field.1)
  | other => .error (.row other.typeName)

/-- Walks one row. -/
def walkRow (row : Doc) : Except Stop (List (Option Tile)) := do
  let items ← rowItems row
  items.mapM walkItem

/-- Walks the rows in order. -/
def walkGrid (rows : List Doc) : Except Stop (List (List (Option Tile))) := rows.mapM walkRow

/-- The tiles of a row, the first item having a given number. -/
def tilesOf : Nat → List (Option Tile) → Checked (List Tile)
  | _, [] => .good []
  | x, tile :: rest =>
    let first : Checked Tile :=
      match tile with
      | some tile => .good tile
      | none => .refuse (.notOneOf (Vocabulary.words Tile))
    ((first.under (.index x)).both (tilesOf (x + 1) rest)).map fun (t, ts) => t :: ts

/-- The tiles of the rows, the first row having a given number. -/
def rowsOf : Nat → List (List (Option Tile)) → Checked (List (List Tile))
  | _, [] => .good []
  | y, row :: rest =>
    (((tilesOf 0 row).under (.index y)).both (rowsOf (y + 1) rest)).map fun (r, rs) => r :: rs

/-- The rows of a grid, unless a row cannot be walked. -/
def readRows (doc : Doc) : Except String (Checked (List (List Tile))) :=
  match doc with
  | .arr rows =>
    match walkGrid rows with
    | .ok walked => .ok (rowsOf 0 walked)
    | .error (.token error) => .ok (.refuse (.rule error.message))
    | .error (.row typeName) => .error typeName
  | _ => .ok (.refuse .notList)

/-- The field of the grid, unless a row cannot be walked. -/
def readGridField (fields : Fields) : Except String (Checked (List (List Tile))) :=
  match fields.get? "grid" with
  | none => .ok (.bad [⟨.missing, [.key "grid"]⟩])
  | some doc => (readRows doc).map (·.under (.key "grid"))

/-! ## The level -/

/-- The fields of a level before the shape of the grid is checked. -/
structure Form where
  id : Int
  name : String
  rows : List (List Tile)
  start : Pose
  offered : List Kind
  minStars : Nat
  par : Option Int
  tutorial : Option String

/-- The fields of a level, given those of its grid. -/
def readForm (rows : Checked (List (List Tile))) (fields : Fields) : Checked Form :=
  Form.mk
    <$> Slot.get (.plain "id") 0 .whole fields
    <*> Slot.get (.plain "name") "" .text fields
    <*> rows
    <*> Slot.need (.plain "start") Pose.read fields
    <*> Slot.get ⟨"available_blocks", some "availableBlocks"⟩ Kind.palette
      (.list (.word Kind)) fields
    <*> Slot.get ⟨"min_stars", some "minStars"⟩ 0 .natural fields
    <*> Slot.get ⟨"best_block_count", some "bestBlockCount"⟩ none (.orNull .whole) fields
    <*> Slot.get ⟨"tutorial_text", some "tutorialText"⟩ none (.orNull .text) fields

/-- The level of a form, if its rows form a grid. -/
def ofForm (form : Form) : Except Refusal Level :=
  match Grid.ofRows form.rows with
  | .error error => .error (.invalid [⟨.rule error.message, []⟩])
  | .ok grid =>
    .ok ⟨form.id, form.name, grid, form.start, form.offered, form.minStars, form.par,
      form.tutorial⟩

/-- Reads a level. -/
def read (doc : Doc) : Except Refusal Level :=
  match doc with
  | .obj fields =>
    match readGridField fields with
    | .error typeName => .error (.rowNotWalkable typeName)
    | .ok rows =>
      match readForm rows fields with
      | .bad faults => .error (.invalid faults)
      | .good form => ofForm form
  | _ => .error (.invalid [⟨.notRecord "Level", []⟩])

/-- Assigns a name of a level. A level never changes: a name that starts with an underscore is
none of its fields and is let be, and to assign any other name is a fault. -/
def assign (level : Level) (name : String) : Checked Level :=
  if name.startsWith "_" then .good level else .bad [⟨.frozen, [.key name]⟩]

/-! ## Writing -/

/-- A level with all its fields under either spelling. -/
def toDoc (spelled : Bool) (level : Level) : Doc :=
  .obj [("id", .int level.id), ("name", .text level.name),
    ("grid", .arr (level.grid.rows.map fun row => Doc.texts (row.map Tile.name))),
    ("start", level.start.toDoc),
    (if spelled then "availableBlocks" else "available_blocks",
      Doc.texts (level.offered.map Kind.name)),
    (if spelled then "minStars" else "min_stars", .int level.minStars),
    (if spelled then "bestBlockCount" else "best_block_count", .ofOption .int level.par),
    (if spelled then "tutorialText" else "tutorial_text", .ofOption .text level.tutorial)]

end Level

end BlockMaze
