-- Blocks: the instructions of a program. A program is a list of blocks, and a
-- control block owns a list of blocks, so a program is a tree.
import BlockMaze.World.Vocabulary

namespace BlockMaze

/-- What a block does. -/
inductive Kind where
  | moveForward
  | turnLeft
  | turnRight
  | jump
  | loop
  | whilePath
  | ifStar
  | ifWall
deriving DecidableEq, Repr

namespace Kind

/-- The word of a kind in data. -/
def name : Kind → String
  | .moveForward => "MOVE_FORWARD"
  | .turnLeft => "TURN_LEFT"
  | .turnRight => "TURN_RIGHT"
  | .jump => "JUMP"
  | .loop => "LOOP"
  | .whilePath => "WHILE_PATH"
  | .ifStar => "IF_STAR"
  | .ifWall => "IF_WALL"

/-- All kinds in the order of the palette. -/
def palette : List Kind :=
  [.moveForward, .turnLeft, .turnRight, .jump, .loop, .whilePath, .ifStar, .ifWall]

instance : Vocabulary Kind where
  title := "InstructionKind"
  members := palette
  word := name

/-- The kinds that own a body. -/
def isControl : Kind → Bool
  | .loop => true
  | .whilePath => true
  | .ifStar => true
  | .ifWall => true
  | _ => false

end Kind

/-- One block. Only control kinds make use of a body and only loops of a count, but any block
may carry either. -/
structure Block where
  id : String
  kind : Kind
  loopCount : Option Int
  body : Option (List Block)
deriving Repr

/-- A program is the list of its top-level blocks. -/
abbrev Program := List Block

namespace Block

/-- The blocks directly inside a block. -/
def children (b : Block) : List Block := b.body.getD []

/-- The rounds of a loop: a missing count or a count of zero stands for one. -/
def rounds (b : Block) : Int :=
  match b.loopCount with
  | none => 1
  | some n => if n = 0 then 1 else n

/-! ## Equality of trees -/

mutual

/-- Whether two blocks are the same tree. -/
def same : Block → Block → Bool
  | ⟨i, k, n, none⟩, ⟨j, l, m, none⟩ => i = j && k = l && n = m
  | ⟨i, k, n, some bs⟩, ⟨j, l, m, some cs⟩ => i = j && k = l && n = m && sameAll bs cs
  | _, _ => false

/-- Whether two lists of blocks are the same trees. -/
def sameAll : List Block → List Block → Bool
  | [], [] => true
  | b :: bs, c :: cs => same b c && sameAll bs cs
  | _, _ => false

end

mutual

theorem eq_of_same : ∀ {b c : Block}, same b c = true → b = c
  | ⟨_, _, _, none⟩, ⟨_, _, _, none⟩, h => by
    simp only [same, Bool.and_eq_true, decide_eq_true_eq] at h
    simp [h]
  | ⟨_, _, _, some bs⟩, ⟨_, _, _, some cs⟩, h => by
    simp only [same, Bool.and_eq_true, decide_eq_true_eq] at h
    simp [h, eq_of_sameAll h.2]
  | ⟨_, _, _, none⟩, ⟨_, _, _, some _⟩, h => by simp [same] at h
  | ⟨_, _, _, some _⟩, ⟨_, _, _, none⟩, h => by simp [same] at h

theorem eq_of_sameAll : ∀ {bs cs : List Block}, sameAll bs cs = true → bs = cs
  | [], [], _ => rfl
  | b :: bs, c :: cs, h => by
    simp only [sameAll, Bool.and_eq_true] at h
    rw [eq_of_same h.1, eq_of_sameAll h.2]
  | [], _ :: _, h => by simp [sameAll] at h
  | _ :: _, [], h => by simp [sameAll] at h

end

mutual

theorem same_refl : ∀ b : Block, same b b = true
  | ⟨_, _, _, none⟩ => by simp [same]
  | ⟨_, _, _, some bs⟩ => by simp [same, sameAll_refl bs]

theorem sameAll_refl : ∀ bs : List Block, sameAll bs bs = true
  | [] => rfl
  | b :: bs => by simp [sameAll, same_refl b, sameAll_refl bs]

end

instance : DecidableEq Block := fun b c =>
  if h : same b c = true then isTrue (eq_of_same h)
  else isFalse fun e => h (e ▸ same_refl b)

end Block

end BlockMaze
