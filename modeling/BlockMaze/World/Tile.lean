-- Tiles: what occupies a cell of a level. A tile has a name and a symbol, and
-- a token of a level's grid is a symbol, a shorthand or a name in any case.
import BlockMaze.Text.Capital
import BlockMaze.Text.Wording
import BlockMaze.World.Vocabulary

namespace BlockMaze

/-- What occupies a cell. `outside` is what lies around the grid and is never part of one. -/
inductive Tile where
  | empty
  | wall
  | start
  | flag
  | star
  | hole
  | key
  | door
  | outside
deriving DecidableEq, Repr

namespace Tile

/-- The name of a tile in data. -/
def name : Tile → String
  | .empty => "EMPTY"
  | .wall => "WALL"
  | .start => "START"
  | .flag => "END"
  | .star => "STAR"
  | .hole => "HOLE"
  | .key => "KEY"
  | .door => "DOOR"
  | .outside => "BOUNDS"

instance : Vocabulary Tile where
  title := "Tile"
  members := [.empty, .wall, .start, .flag, .star, .hole, .key, .door, .outside]
  word := name

/-- The name of a tile in messages. -/
def label : Tile → String
  | .outside => "OUT_OF_BOUNDS"
  | tile => tile.name

/-- The symbol that a tile is drawn with. -/
def symbol : Tile → Char
  | .empty => '.'
  | .wall => '#'
  | .start => 'S'
  | .flag => 'F'
  | .star => '*'
  | .hole => 'O'
  | .key => 'K'
  | .door => 'D'
  | .outside => ' '

/-- Walls and the area around the grid stop every move. -/
def isWallLike : Tile → Bool
  | .wall => true
  | .outside => true
  | _ => false

/-! ## Tokens -/

/-- The tokens that stand for a tile as they are: its symbol or a shorthand. -/
def tokens : List (String × Tile) :=
  [(".", .empty), ("#", .wall), ("S", .start), ("F", .flag), ("*", .star), ("O", .hole),
    ("K", .key), ("D", .door), ("W", .wall), ("E", .empty), ("ST", .star)]

/-- Why a token stands for no tile of a grid. -/
inductive TokenError where
  | unknown (token : Wording)
  | outside
deriving DecidableEq, Repr

/-- The message of an error. -/
def TokenError.message : TokenError → String
  | .unknown token => "Unknown tile symbol " ++ token.quoted
  | .outside => label .outside ++ " cannot appear inside a level grid"

/-- The tile that a token stands for: a symbol, a shorthand, or a name in any case. -/
def ofToken (token : String) : Except TokenError Tile :=
  match tokens.lookup token with
  | some tile => .ok tile
  | none =>
    match (Vocabulary.find? (Text.upper token) : Option Tile) with
    | none => .error (.unknown token)
    | some .outside => .error .outside
    | some tile => .ok tile

/-- The tile that a token stands for. A torn text is no token. -/
def ofWording : Wording → Except TokenError Tile
  | .text token => ofToken token
  | torn => .error (.unknown torn)

end Tile

end BlockMaze
