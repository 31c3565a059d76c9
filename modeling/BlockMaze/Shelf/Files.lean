-- Trees of files: texts at paths, and the directories around them. A path is
-- walked part by part, and a part that goes up leads to the directory around
-- the place reached so far. To write a file, the directories on the way to it
-- are made.
import BlockMaze.Shelf.Path
import BlockMaze.Text.Quoted

namespace BlockMaze

/-- What keeps a file or directory from being reached or made. -/
inductive Obstacle where
  | missing
  | throughFile
  | isDirectory
  | inTheWay
  | nameTooLong
deriving DecidableEq, Repr

/-- How a message names an obstacle. -/
def Obstacle.label : Obstacle → String
  | .missing => "[Errno 2] No such file or directory"
  | .throughFile => "[Errno 20] Not a directory"
  | .isDirectory => "[Errno 21] Is a directory"
  | .inTheWay => "[Errno 17] File exists"
  | .nameTooLong => "[Errno 36] File name too long"

/-- Why a file cannot be read or written. -/
inductive FileError where
  | blocked (obstacle : Obstacle) (path : Path)
  | badName
deriving DecidableEq, Repr

/-- The message of an error. -/
def FileError.message : FileError → String
  | .blocked obstacle path => obstacle.label ++ ": " ++ Text.quoted path.text
  | .badName => "embedded null byte"

/-- Where a walk along a path ends: at a file, at a directory, at a vacant place inside a
directory, or before an obstacle. -/
inductive Found where
  | file (place : Path) (text : String)
  | directory (place : Path)
  | vacant (place : Path)
  | blocked (obstacle : Obstacle)
deriving DecidableEq, Repr

/-- A tree of files. The places in it have no part that goes up. -/
structure Files where
  /-- The files with their texts. -/
  texts : List (Path × String)
  /-- Directories that are there even without a file in them. -/
  directories : List Path
  /-- The number of bytes from which on a path is too long. -/
  pathBytes : Nat
deriving Repr

namespace Files

/-- The number of bytes from which on a path is too long. -/
def usualPathBytes : Nat := 4096

/-- The most bytes that a name may have. -/
def maxNameBytes : Nat := 255

/-- The tree that texts at paths show: the texts, and the directories on the way to them. -/
def ofTexts (texts : List (Path × String)) : Files where
  texts := texts.map fun (path, text) => (path.settled, text)
  directories := texts.flatMap fun (path, _) =>
    (List.range path.parts.length).map fun n => Path.settled ⟨path.root, path.parts.take n⟩
  pathBytes := usualPathBytes

/-! ## Finding -/

/-- Whether a place is a directory. -/
def isDirectory (files : Files) (place : Path) : Bool :=
  place.parts.isEmpty
    || files.directories.any (fun d => d.root = place.root ∧ place.parts.isPrefixOf d.parts)
    || files.texts.any fun (p, _) =>
      p.root = place.root ∧ place.parts.isPrefixOf p.parts ∧ place.parts.length < p.parts.length

/-- What stands at a place inside a directory. -/
def standing (files : Files) (place : Path) : Found :=
  match files.texts.lookup place with
  | some text => .file place text
  | none => if files.isDirectory place then .directory place else .vacant place

/-- Goes on from what was found, with further parts. -/
def follow (files : Files) : Found → List String → Found
  | found, [] => found
  | .directory place, part :: rest =>
    if part = ".." then follow files (.directory place.parent) rest
    else if maxNameBytes < part.utf8ByteSize then .blocked .nameTooLong
    else follow files (files.standing ⟨place.root, place.parts ++ [part]⟩) rest
  | .file _ _, _ :: _ => .blocked .throughFile
  | .vacant _, _ :: _ => .blocked .missing
  | .blocked obstacle, _ :: _ => .blocked obstacle

/-- What stands at a path. -/
def find (files : Files) (path : Path) : Found :=
  if files.pathBytes ≤ path.text.utf8ByteSize then .blocked .nameTooLong
  else files.follow (.directory path.start) path.parts

/-- A path with a character that no name may hold. -/
def hasBadName (path : Path) : Bool := path.parts.any fun part => part.toList.contains '\x00'

/-- Whether anything stands at a path, which cannot be said of a name that is too long. -/
def holds (files : Files) (path : Path) : Except FileError Bool :=
  if hasBadName path then .ok false
  else
    match files.find path with
    | .file _ _ => .ok true
    | .directory _ => .ok true
    | .blocked .nameTooLong => .error (.blocked .nameTooLong path)
    | _ => .ok false

/-- The text of the file at a path. -/
def read (files : Files) (path : Path) : Except FileError String :=
  if hasBadName path then .error .badName
  else
    match files.find path with
    | .file _ text => .ok text
    | .directory _ => .error (.blocked .isDirectory path)
    | .vacant _ => .error (.blocked .missing path)
    | .blocked obstacle => .error (.blocked obstacle path)

/-- The names of the files and directories directly inside a place, in ascending order. -/
def namesIn (files : Files) (place : Path) : List String :=
  let inside (p : Path) : Option String :=
    if p.root = place.root ∧ place.parts.isPrefixOf p.parts then p.parts[place.parts.length]?
    else none
  let names := files.texts.filterMap (fun (p, _) => inside p) ++ files.directories.filterMap inside
  names.eraseDups.mergeSort (· ≤ ·)

/-! ## Writing -/

/-- Makes a directory inside one that is there, unless the path leads to a directory already. -/
def makeOne (files : Files) (path : Path) : Except FileError Files :=
  match files.find path with
  | .vacant place => .ok { files with directories := place :: files.directories }
  | .directory _ => .ok files
  | .file _ _ => .error (.blocked .inTheWay path)
  | .blocked obstacle => .error (.blocked obstacle path)

/-- Makes the directory at the first parts of a path. If the directory around it is missing, that
one is made first. -/
def makeFirst (files : Files) (path : Path) : Nat → Except FileError Files
  | 0 => .ok files
  | n + 1 =>
    let here : Path := ⟨path.root, path.parts.take (n + 1)⟩
    match files.makeOne here with
    | .error (.blocked .missing _) => do
      let files ← files.makeFirst path n
      files.makeOne here
    | made => made

/-- Makes a directory and those on the way to it. -/
def makeDirectory (files : Files) (path : Path) : Except FileError Files :=
  if hasBadName path then .error .badName else files.makeFirst path path.parts.length

/-- Writes a text at a path whose directory is there. -/
def writeInside (files : Files) (path : Path) (text : String) : Except FileError Files :=
  if hasBadName path then .error .badName
  else
    match files.find path with
    | .file place _ => .ok { files with texts := (place, text) :: files.texts }
    | .vacant place => .ok { files with texts := (place, text) :: files.texts }
    | .directory _ => .error (.blocked .isDirectory path)
    | .blocked obstacle => .error (.blocked obstacle path)

/-- Writes a text at a path, the directories on the way being made. -/
def write (files : Files) (path : Path) (text : String) : Except FileError Files := do
  let files ← files.makeDirectory path.parent
  files.writeInside path text

end Files

end BlockMaze
