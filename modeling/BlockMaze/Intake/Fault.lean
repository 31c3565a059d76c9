-- Faults: what is wrong with a document that is read as a block, a pose, a
-- level, a snapshot or a trace, and at which place of the document.
import BlockMaze.Doc.Whole

namespace BlockMaze

/-- One step into a document. -/
inductive Place where
  | key (name : String)
  | index (n : Nat)
deriving DecidableEq, Repr

/-- What is wrong. -/
inductive Cause where
  | missing
  | notRecord (name : String)
  | notList
  | notSet
  | notText
  | tornText
  | notOneOf (words : List String)
  | notWhole
  | fraction
  | unreadableWhole
  | wholeTooLong
  | notFinite
  | negative
  | rule (message : String)
  | frozen
  | tooDeep
  | loop
  | badText
  | badRunId
  | notRunId
deriving DecidableEq, Repr

/-- Something wrong at a place. -/
structure Fault where
  cause : Cause
  place : List Place
deriving DecidableEq, Repr

/-- Where a document comes from: from data at hand, or straight from text. Some messages name
the types of the one, some those of the other. -/
inductive Source where
  | data
  | text
deriving DecidableEq, Repr

namespace Cause

/-- The code of a cause. -/
def code : Cause → String
  | .missing => "missing"
  | .notRecord _ => "model_type"
  | .notList => "list_type"
  | .notSet => "set_type"
  | .notText => "string_type"
  | .tornText => "string_unicode"
  | .notOneOf _ => "enum"
  | .notWhole => "int_type"
  | .fraction => "int_from_float"
  | .unreadableWhole => "int_parsing"
  | .wholeTooLong => "int_parsing_size"
  | .notFinite => "finite_number"
  | .negative => "greater_than_equal"
  | .rule _ => "value_error"
  | .frozen => "frozen_instance"
  | .tooDeep => "recursion_depth_exceeded"
  | .loop => "recursion_loop"
  | .badText => "json_invalid"
  | .badRunId => "uuid_parsing"
  | .notRunId => "uuid_type"

/-- A list of words, each in single quotes, with commas and an `or` before the last. -/
def choices : List String → String
  | [] => ""
  | [w] => "'" ++ w ++ "'"
  | [v, w] => "'" ++ v ++ "' or '" ++ w ++ "'"
  | w :: ws => "'" ++ w ++ "', " ++ choices ws

/-- The message of a cause. A text that is no document or no run id is not explained further. -/
def message (source : Source) : Cause → Option String
  | .missing => some "Field required"
  | .notRecord name =>
    match source with
    | .data => some ("Input should be a valid dictionary or instance of " ++ name)
    | .text => some "Input should be an object"
  | .notList =>
    match source with
    | .data => some "Input should be a valid list"
    | .text => some "Input should be a valid array"
  | .notSet =>
    match source with
    | .data => some "Input should be a valid set"
    | .text => some "Input should be a valid array"
  | .notText => some "Input should be a valid string"
  | .tornText =>
    some "Input should be a valid string, unable to parse raw data as a unicode string"
  | .notOneOf words => some ("Input should be " ++ choices words)
  | .notWhole => some "Input should be a valid integer"
  | .fraction => some "Input should be a valid integer, got a number with a fractional part"
  | .unreadableWhole =>
    some "Input should be a valid integer, unable to parse string as an integer"
  | .wholeTooLong => some "Unable to parse input string as an integer, exceeded maximum size"
  | .notFinite => some "Input should be a finite number"
  | .negative => some "Input should be greater than or equal to 0"
  | .rule message => some ("Value error, " ++ message)
  | .frozen => some "Instance is frozen"
  | .tooDeep => some "Recursion error - maximum validation depth exceeded"
  | .loop => some "Recursion error - cyclic reference detected"
  | .badText => none
  | .badRunId => none
  | .notRunId => some "UUID input should be a string, bytes or UUID object"

end Cause

/-- The text of a place: its steps with points between. -/
def placeText (place : List Place) : String :=
  ".".intercalate <| place.map fun
    | .key name => name
    | .index n => toString n

/-- Faults as lines of text. -/
def faultLines (faults : List Fault) : String :=
  "\n".intercalate <| faults.map fun f =>
    placeText f.place ++ ": " ++ (f.cause.message .data).getD f.cause.code

/-- A value, or everything that is wrong with its document, in the order of the document's
parts. -/
inductive Checked (α : Type) where
  | good (value : α)
  | bad (faults : List Fault)
deriving Repr

namespace Checked

/-- A refusal for one cause. -/
def refuse (cause : Cause) : Checked α := .bad [⟨cause, []⟩]

/-- The value changed, the faults kept. -/
def map (f : α → β) : Checked α → Checked β
  | .good a => .good (f a)
  | .bad faults => .bad faults

/-- Both values, or the faults of both in order. -/
def both : Checked α → Checked β → Checked (α × β)
  | .good a, .good b => .good (a, b)
  | .good _, .bad faults => .bad faults
  | .bad faults, .good _ => .bad faults
  | .bad faults, .bad more => .bad (faults ++ more)

/-- A reading that depends on a value; it is left out when there is none. -/
def bind (c : Checked α) (f : α → Checked β) : Checked β :=
  match c with
  | .good a => f a
  | .bad faults => .bad faults

/-- The faults moved to a place further out. -/
def under (place : Place) : Checked α → Checked α
  | .good a => .good a
  | .bad faults => .bad (faults.map fun f => { f with place := place :: f.place })

instance : Functor Checked := ⟨map, fun b => map fun _ => b⟩

instance : Pure Checked := ⟨.good⟩

instance : Seq Checked := ⟨fun f a => (f.both (a ())).map fun (f, a) => f a⟩

/-! ## Good readings -/

theorem map_eq_good {f : α → β} {c : Checked α} {b : β} :
    c.map f = .good b ↔ ∃ a, c = .good a ∧ f a = b := by
  cases c <;> simp [map]

theorem both_eq_good {c : Checked α} {d : Checked β} {p : α × β} :
    c.both d = .good p ↔ c = .good p.1 ∧ d = .good p.2 := by
  obtain ⟨a, b⟩ := p
  cases c <;> cases d <;> simp [both]

theorem under_eq_good {place : Place} {c : Checked α} {a : α} :
    c.under place = .good a ↔ c = .good a := by
  cases c <;> simp [under]

theorem fmap_eq_good {f : α → β} {c : Checked α} {b : β} :
    f <$> c = .good b ↔ ∃ a, c = .good a ∧ f a = b := map_eq_good

theorem seq_eq_good {f : Checked (α → β)} {c : Checked α} {b : β} :
    f <*> c = .good b ↔ ∃ g a, f = .good g ∧ c = .good a ∧ g a = b := by
  cases f <;> cases c <;> simp [Seq.seq, both, map]

end Checked

end BlockMaze
