-- Run ids: 128-bit numbers, written as 32 hexadecimal digits in five groups.
-- Reading also takes the digits without groups, the groups in braces, and the
-- groups after the mark of a resource name.
import BlockMaze.Intake.Readers
import BlockMaze.Text.Hex

namespace BlockMaze

/-- The number of run ids. -/
def runIdCount : Nat := Nat.pow 16 32

/-- The id of a run. -/
structure RunId where
  value : Nat
  bound : value < runIdCount
deriving DecidableEq

namespace RunId

open Text

instance : Repr RunId := ⟨fun id n => reprPrec id.value n⟩

/-- The run id of a number, which is cut to 128 bits. -/
def ofNat (n : Nat) : RunId := ⟨n % runIdCount, Nat.mod_lt _ (by decide)⟩

/-- The sizes of the groups. -/
def groups : List Nat := [8, 4, 4, 4, 12]

/-- Digits cut into groups, with hyphens between. -/
def hyphenated : List Nat → List Char → List Char
  | [], _ => []
  | [n], cs => cs.take n
  | n :: ns, cs => cs.take n ++ '-' :: hyphenated ns (cs.drop n)

/-- The text of a run id. -/
def text (id : RunId) : String := String.ofList (hyphenated groups (hexPadded 32 id.value))

/-- The digits of groups with hyphens between. -/
def ungroup? : List Nat → List Char → Option (List Char)
  | [], _ => none
  | [n], cs => if cs.length = n then some cs else none
  | n :: ns, cs =>
    match cs.drop n with
    | '-' :: rest => (ungroup? ns rest).map (cs.take n ++ ·)
    | _ => none

/-- The digits of a run id in any of its forms. -/
def digits? (cs : List Char) : Option (List Char) :=
  if cs.length = 32 then some cs
  else if cs.length = 36 then ungroup? groups cs
  else if cs.length = 38 ∧ cs.head? = some '\x7b' ∧ cs.getLast? = some '\x7d' then
    ungroup? groups (cs.drop 1).dropLast
  else if cs.length = 45 ∧ cs.take 9 = "urn:uuid:".toList then ungroup? groups (cs.drop 9)
  else none

/-- The number that hexadecimal digits write. -/
def hexNumber? (cs : List Char) : Option Nat :=
  cs.foldlM (fun n c => (hexValue? c).map (n * 16 + ·)) 0

/-- The run id that a text writes. -/
def ofText? (s : String) : Option RunId := do
  let digits ← digits? s.toList
  let value ← hexNumber? digits
  if h : value < runIdCount then some ⟨value, h⟩ else none

/-- Reads a run id. -/
def read : Reader RunId
  | .text s =>
    match ofText? s with
    | some id => .good id
    | none => .refuse .badRunId
  | .str (.torn _) => .refuse .badRunId
  | _ => .refuse .notRunId

end RunId

end BlockMaze
