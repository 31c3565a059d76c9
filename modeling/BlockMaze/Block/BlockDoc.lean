-- Blocks in documents. A block without an id gets the next one of a numbered
-- supply as soon as its reading starts, so ids are handed out to parents
-- before their children. Blocks are read down to a greatest depth. An atom
-- refused for its depth is not let go again: wherever it is met later, it
-- counts as a loop.
import BlockMaze.Block.Basic
import BlockMaze.Doc.Atom
import BlockMaze.Intake.Readers

namespace BlockMaze

/-- The id with a number from the supply. -/
def supplyId (n : Nat) : String := "auto-" ++ toString (n + 1)

namespace Block

/-- The greatest depth at which the blocks of a program are read. -/
def maxDepth : Nat := 254

/-! ## Progress -/

/-- How far a reading of blocks has come. -/
structure Progress where
  /-- The number of ids handed out. -/
  used : Nat
  /-- The atoms refused for their depth. -/
  held : List Doc.Atom
deriving Repr

namespace Progress

/-- The start of a reading, some ids being handed out already. -/
def start (used : Nat) : Progress := ⟨used, []⟩

/-- Whether a document is an atom that was refused for its depth. -/
def holds (p : Progress) (doc : Doc) : Bool := doc.atom?.any (p.held.contains ·)

/-- Keeps a document that is refused for its depth, if it is an atom. -/
def hold (p : Progress) (doc : Doc) : Progress :=
  { p with held := doc.atom?.toList ++ p.held }

end Progress

/-! ## Reading -/

/-- A reader that takes the progress before and gives the progress after. -/
abbrev IdReader (α : Type) := Progress → Doc → Checked α × Progress

/-- The id of a block: its own, or the next one of the supply. -/
def readId (p : Progress) (fields : Fields) : Checked String × Progress :=
  match (Slot.plain "id").find? fields with
  | some _ => (Slot.need (.plain "id") .text fields, p)
  | none => (.good (supplyId p.used), { p with used := p.used + 1 })

/-- The items of an array, the first having a given number. -/
def readItems (read : IdReader Block) : Progress → Nat → List Doc → Checked (List Block) × Progress
  | p, _, [] => (.good [], p)
  | p, n, doc :: docs =>
    let (first, p) := read p doc
    let (rest, p) := readItems read p (n + 1) docs
    (((first.under (.index n)).both rest).map fun (b, bs) => b :: bs, p)

/-- An array of blocks. -/
def readList (read : IdReader Block) : IdReader (List Block) := fun p doc =>
  match doc with
  | .arr docs => readItems read p 0 docs
  | _ => (.refuse .notList, p)

/-- The body of a block, which may be absent or null. -/
def readBody (read : IdReader Block) (p : Progress) (fields : Fields) :
    Checked (Option (List Block)) × Progress :=
  match fields.get? "instructions" with
  | none => (.good none, p)
  | some .null => (.good none, p)
  | some doc =>
    let (body, p) := readList read p doc
    ((body.under (.key "instructions")).map some, p)

/-- The fields of a block. -/
def readFields (read : IdReader Block) (p : Progress) (fields : Fields) :
    Checked Block × Progress :=
  let (id, p) := readId p fields
  let (body, p) := readBody read p fields
  (Block.mk
    <$> id
    <*> Slot.need ⟨"kind", some "type"⟩ (.word Kind) fields
    <*> Slot.get ⟨"loop_count", some "loopCount"⟩ none (.orNull .whole) fields
    <*> body, p)

/-- A block whose children are read by a reader. -/
def readOver (read : IdReader Block) : IdReader Block := fun p doc =>
  match doc with
  | .obj fields => readFields read p fields
  | _ => (.refuse (.notRecord "Instruction"), p)

/-- Reads a document, unless it is an atom that was refused for its depth before. -/
def unlessHeld (read : IdReader Block) : IdReader Block := fun p doc =>
  if p.holds doc then (.refuse .loop, p) else read p doc

/-- Reads a block that may have a number of levels, its own included. -/
def readWithin : Nat → IdReader Block
  | 0 => unlessHeld fun p doc => (.refuse .tooDeep, p.hold doc)
  | levels + 1 => unlessHeld (readOver (readWithin levels))

/-- The value of a reading with the number of ids handed out. -/
def counted (result : Checked α × Progress) : Checked (α × Nat) :=
  result.1.map fun value => (value, result.2.used)

/-- Reads one block by itself, after a number of ids. Its children may have as many levels as the
blocks of a program. -/
def read (used : Nat) (doc : Doc) : Checked (Block × Nat) :=
  counted (readOver (readWithin maxDepth) (.start used) doc)

end Block

/-- Reads a program, which is an array of blocks, after a number of ids. -/
def Program.read (used : Nat) (doc : Doc) : Checked (Program × Nat) :=
  Block.counted (Block.readList (Block.readWithin Block.maxDepth) (.start used) doc)

namespace Block

/-! ## Writing -/

/-- The fields of a block before those of its body. A count is left out if there is none. -/
def fieldsWith (id : String) (kind : Kind) (loopCount : Option Int) (body : Fields) : Fields :=
  ("id", .text id) :: ("type", .text kind.name) ::
    match loopCount with
    | none => body
    | some n => ("loopCount", .int n) :: body

mutual

/-- A block as an editor keeps it: what is absent is left out. -/
def toDoc : Block → Doc
  | ⟨id, kind, loopCount, none⟩ => .obj (fieldsWith id kind loopCount [])
  | ⟨id, kind, loopCount, some body⟩ =>
    .obj (fieldsWith id kind loopCount [("instructions", .arr (toDocs body))])

/-- Blocks as an editor keeps them. -/
def toDocs : List Block → List Doc
  | [] => []
  | b :: bs => toDoc b :: toDocs bs

end

mutual

/-- A block with all its fields, absent ones as null, under either spelling. -/
def toFullDoc (spelled : Bool) : Block → Doc
  | ⟨id, kind, loopCount, none⟩ =>
    .obj [("id", .text id), (if spelled then "type" else "kind", .text kind.name),
      (if spelled then "loopCount" else "loop_count", .ofOption .int loopCount),
      ("instructions", .null)]
  | ⟨id, kind, loopCount, some body⟩ =>
    .obj [("id", .text id), (if spelled then "type" else "kind", .text kind.name),
      (if spelled then "loopCount" else "loop_count", .ofOption .int loopCount),
      ("instructions", .arr (toFullDocs spelled body))]

/-- Blocks with all their fields. -/
def toFullDocs (spelled : Bool) : List Block → List Doc
  | [] => []
  | b :: bs => toFullDoc spelled b :: toFullDocs spelled bs

end

end Block

/-- A program as an editor keeps it. -/
def Program.toDoc (program : Program) : Doc := .arr (Block.toDocs program)

end BlockMaze
