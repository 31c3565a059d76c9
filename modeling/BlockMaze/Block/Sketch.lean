-- Making blocks. A new block is what an editor's palette gives: a loop has
-- two rounds unless told otherwise, a control block an empty body, and any
-- other block none. A sketch is a tree of kinds from which blocks are made,
-- children before their parent.
import BlockMaze.Block.BlockDoc
import BlockMaze.Intake.Lookup

namespace BlockMaze

/-- A tree of blocks to be made. Kind and count are documents that are still to be read. -/
structure Sketch where
  kind : Doc
  loopCount : Doc
  children : List Sketch

/-- Why a block cannot be made. -/
inductive MakeError where
  | unknownKind (error : UnknownWord)
  | invalid (faults : List Fault)
  | cannotHaveChildren (kind : Kind)

/-- The rounds of a new loop. -/
def defaultRounds : Int := 2

/-- The kind that a document names. -/
def Kind.ofDoc (doc : Doc) : Except MakeError Kind :=
  match Vocabulary.lookup Kind doc with
  | .ok kind => .ok kind
  | .error error => .error (.unknownKind error)

/-- The count of a new block. Only loops have one. -/
def newCount (kind : Kind) (loopCount : Doc) : Except MakeError (Option Int) :=
  match kind, loopCount with
  | .loop, .null => .ok (some defaultRounds)
  | .loop, doc =>
    match (Reader.whole doc).under (.key "loop_count") with
    | .good n => .ok (some n)
    | .bad faults => .error (.invalid faults)
  | _, _ => .ok none

/-- A new block, and the number of ids used after it. -/
def Block.new (used : Nat) (kind loopCount : Doc) : Except MakeError (Block × Nat) := do
  let kind ← Kind.ofDoc kind
  let count ← newCount kind loopCount
  .ok (⟨supplyId used, kind, count, if kind.isControl then some [] else none⟩, used + 1)

/-- Gives children to a new block. Without children it stays as it is. -/
def Block.withChildren (b : Block) (children : List Block) : Except MakeError Block :=
  if children.isEmpty then .ok b
  else if b.kind.isControl then .ok { b with body := some children }
  else .error (.cannotHaveChildren b.kind)

mutual

/-- Makes the blocks of a sketch, children first. -/
def Sketch.make (used : Nat) : Sketch → Except MakeError (Block × Nat)
  | ⟨kind, loopCount, children⟩ => do
    let (children, used) ← Sketch.makeAll used children
    let (b, used) ← Block.new used kind loopCount
    let b ← b.withChildren children
    .ok (b, used)

/-- Makes the blocks of sketches from left to right. -/
def Sketch.makeAll (used : Nat) : List Sketch → Except MakeError (List Block × Nat)
  | [] => .ok ([], used)
  | sketch :: sketches => do
    let (b, used) ← Sketch.make used sketch
    let (bs, used) ← Sketch.makeAll used sketches
    .ok (b :: bs, used)

end

/-- The message of an error. A document with faults has one message for each of them instead. -/
def MakeError.message : MakeError → String
  | .unknownKind error => error.message
  | .invalid _ => ""
  | .cannotHaveChildren kind => kind.name ++ " blocks cannot have children"

end BlockMaze
