-- Paths in a tree of files, in their normal form: no empty part and no part
-- that stays in place. A part that goes up is kept, since what it means
-- depends on the tree.

namespace BlockMaze

/-- A path: its root, which is empty for a path from the present place, and its parts. -/
structure Path where
  root : String
  parts : List String
deriving DecidableEq, Repr

namespace Path

/-- The parts of a text between slashes. -/
def split : List Char → List (List Char)
  | [] => [[]]
  | c :: cs =>
    if c = '/' then [] :: split cs
    else
      match split cs with
      | [] => [[c]]
      | part :: rest => (c :: part) :: rest

/-- The parts that lead somewhere. -/
def partsOf (cs : List Char) : List String :=
  ((split cs).map String.ofList).filter fun part => part ≠ "" ∧ part ≠ "."

/-- The root of a text: exactly two slashes stay two, more of them become one. -/
def rootOf : List Char → String
  | '/' :: '/' :: '/' :: _ => "/"
  | '/' :: '/' :: _ => "//"
  | '/' :: _ => "/"
  | _ => ""

/-- The path that a text writes. -/
def ofText (s : String) : Path := ⟨rootOf s.toList, partsOf s.toList⟩

/-- The text of a path. -/
def text (p : Path) : String :=
  if p.root.isEmpty ∧ p.parts.isEmpty then "." else p.root ++ "/".intercalate p.parts

/-- The path to a text from inside a path. A text with a root of its own replaces it. -/
def join (p : Path) (s : String) : Path :=
  let q := ofText s
  if q.root.isEmpty then ⟨p.root, p.parts ++ q.parts⟩ else q

/-- The path without its last part. -/
def parent (p : Path) : Path := ⟨p.root, p.parts.dropLast⟩

/-- Where the walk along a path starts. The two roots are one place. -/
def start (p : Path) : Path := ⟨if p.root = "//" then "/" else p.root, []⟩

/-- The parts with every part that goes up resolved against the part before it. -/
def settledParts (parts : List String) : List String :=
  parts.foldl (fun done part => if part = ".." then done.dropLast else done ++ [part]) []

/-- The place that a path leads to when every directory on the way is there. -/
def settled (p : Path) : Path := ⟨p.start.root, settledParts p.parts⟩

end Path

end BlockMaze
