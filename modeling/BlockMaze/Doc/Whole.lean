-- The whole number that a document stands for, when it is read broadly: a
-- text in the digits of any script, a truth value as 0 or 1, and a number
-- with a fraction cut toward zero.
import BlockMaze.Doc.Shown
import BlockMaze.Number.Whole

namespace BlockMaze.Doc

open Number

/-- Why a document stands for no whole number. -/
inductive WholeError where
  | unreadable (wording : Wording)
  | tooLong (digits : Nat)
  | notANumber
  | infinite
  | wrongType (name : String)
deriving DecidableEq, Repr

/-- The message for a number with too many digits. -/
def tooLongMessage (digits : Nat) : String :=
  "Exceeds the limit (4300 digits) for integer string conversion: value has " ++ toString digits
    ++ " digits; use sys.set_int_max_str_digits() to increase the limit"

/-- How many characters of an unreadable text a message shows at most, quotes included. -/
def maxShown : Nat := 200

/-- The message of an error. -/
def WholeError.message : WholeError → String
  | .unreadable wording =>
    "invalid literal for int() with base 10: "
      ++ String.ofList (wording.quoted.toList.take maxShown)
  | .tooLong digits => tooLongMessage digits
  | .notANumber => "cannot convert float NaN to integer"
  | .infinite => "cannot convert float infinity to integer"
  | .wrongType name =>
    "int() argument must be a string, a bytes-like object or a real number, not '" ++ name ++ "'"

/-- The whole number that a text stands for. -/
def wholeOfText (wording : Wording) : Except WholeError Int :=
  match readBroad wording.plain.toList with
  | .ok n => .ok n
  | .error .unreadable => .error (.unreadable wording)
  | .error (.tooLong digits) => .error (.tooLong digits)

/-- The whole number that a document stands for. -/
def whole : Doc → Except WholeError Int
  | .int n => .ok n
  | .bool b => .ok (if b then 1 else 0)
  | .real (.finite negative m e) => .ok (Binary64.whole negative m e)
  | .real (.infinite _) => .error .infinite
  | .real .nan => .error .notANumber
  | .str wording => wholeOfText wording
  | other => .error (.wrongType other.typeName)

end BlockMaze.Doc
