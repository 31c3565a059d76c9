-- Capital letters. Upper-casing is needed only to compare with names in the
-- letters A to Z, so it is exact for the characters whose capitals are such
-- letters and leaves every other character alone: a capital outside A to Z
-- occurs in no name.

namespace BlockMaze.Text

/-- The characters beyond ASCII whose capitals are letters A to Z. -/
def ligatures : List (Char × String) :=
  [('ß', "SS"), ('ı', "I"), ('ſ', "S"), ('\ufb00', "FF"), ('\ufb01', "FI"), ('\ufb02', "FL"),
    ('\ufb03', "FFI"), ('\ufb04', "FFL"), ('\ufb05', "ST"), ('\ufb06', "ST")]

/-- The capitals of one character. -/
def capitals (c : Char) : List Char :=
  match ligatures.lookup c with
  | some letters => letters.toList
  | none => [c.toUpper]

/-- A text in capitals. -/
def upper (s : String) : String := String.ofList (s.toList.flatMap capitals)

/-- A text in small letters, for the letters A to Z. -/
def lower (s : String) : String := s.map Char.toLower

end BlockMaze.Text
