-- Closed vocabularies: types with finitely many members, each with its word.

namespace BlockMaze

/-- A type whose members have words, in a fixed order. -/
class Vocabulary (α : Type) where
  /-- The name of the vocabulary in messages. -/
  title : String
  /-- The members in order. -/
  members : List α
  /-- The word of a member. -/
  word : α → String

namespace Vocabulary

/-- The member with a word. Letter case counts. -/
def find? {α : Type} [Vocabulary α] (text : String) : Option α :=
  members.find? fun a => word a == text

/-- The words of all members in order. -/
def words (α : Type) [Vocabulary α] : List String := (members : List α).map word

end Vocabulary

end BlockMaze
