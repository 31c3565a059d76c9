-- Walking a program: every block once, parents before their children and
-- siblings in order. Looking a block up by its id takes the first in that
-- order, with the list that directly holds it. An editor changes that list in
-- place; here this gives the edited program. All of it works at any depth of
-- blocks: how deep calls may nest on a machine is left out.
import BlockMaze.Block.Basic

namespace BlockMaze.Program

/-- The blocks of a program, parents before their children. -/
def walk : List Block → List Block
  | [] => []
  | ⟨i, k, n, none⟩ :: rest => ⟨i, k, n, none⟩ :: walk rest
  | ⟨i, k, n, some body⟩ :: rest => ⟨i, k, n, some body⟩ :: (walk body ++ walk rest)

/-- The number of blocks, nested ones included. -/
def count (program : Program) : Nat := (walk program).length

/-- The first block with an id, with the list that directly holds it. The block is looked for
in the end of such a list. -/
def findIn (id : String) (siblings : List Block) : List Block → Option (Block × List Block)
  | [] => none
  | ⟨i, k, n, none⟩ :: rest =>
    if i = id then some (⟨i, k, n, none⟩, siblings) else findIn id siblings rest
  | ⟨i, k, n, some body⟩ :: rest =>
    if i = id then some (⟨i, k, n, some body⟩, siblings)
    else
      match findIn id body body with
      | some hit => some hit
      | none => findIn id siblings rest

/-- The first block with an id, with the list that directly holds it. -/
def find? (program : Program) (id : String) : Option (Block × List Block) :=
  findIn id program program

/-- Replaces the first block with an id by a list of blocks, in the list that `find?` gives. -/
def replace? (id : String) (change : Block → List Block) : List Block → Option (List Block)
  | [] => none
  | ⟨i, k, n, none⟩ :: rest =>
    if i = id then some (change ⟨i, k, n, none⟩ ++ rest)
    else (replace? id change rest).map (⟨i, k, n, none⟩ :: ·)
  | ⟨i, k, n, some body⟩ :: rest =>
    if i = id then some (change ⟨i, k, n, some body⟩ ++ rest)
    else
      match replace? id change body with
      | some body => some (⟨i, k, n, some body⟩ :: rest)
      | none => (replace? id change rest).map (⟨i, k, n, some body⟩ :: ·)

/-- Takes the first block with an id out of the list that `find?` gives. -/
def remove? (program : Program) (id : String) : Option Program :=
  replace? id (fun _ => []) program

/-- Puts a block right before the first block with an id, into the list that `find?` gives. -/
def insertBefore? (program : Program) (id : String) (new : Block) : Option Program :=
  replace? id (fun b => [new, b]) program

/-- Puts a block at the end of the body of the block that `find?` gives. A block without a body
gets one. -/
def appendInside? (program : Program) (id : String) (new : Block) : Option Program :=
  replace? id (fun b => [{ b with body := some (b.children ++ [new]) }]) program

end BlockMaze.Program
