-- The text of a binary number: the fewest decimal digits that read back as
-- the same number, and of those the nearest. Digits are written in place for
-- exponents from -4 to 15, and with a power of ten beyond.
import BlockMaze.Number.Binary64

namespace BlockMaze.Number

namespace Binary64

/-! ## The digits -/

/-- `a * 10 ^ s ≤ b * 2 ^ t`, decided in whole numbers. -/
def decimalLe (a : Nat) (s : Int) (b : Nat) (t : Int) : Bool :=
  a * ten s.toNat * two (-t).toNat ≤ b * two t.toNat * ten (-s).toNat

/-- `a * 10 ^ s < b * 2 ^ t`, decided in whole numbers. -/
def decimalLt (a : Nat) (s : Int) (b : Nat) (t : Int) : Bool :=
  a * ten s.toNat * two (-t).toNat < b * two t.toNat * ten (-s).toNat

/-- `m * 2 ^ e` in units of `10 ^ s`, rounded down. -/
def decimalFloor (m : Nat) (e s : Int) : Nat :=
  m * two e.toNat * ten (-s).toNat / (two (-e).toNat * ten s.toNat)

/-- Whether the decimal `d * 10 ^ s` reads back as `m * 2 ^ e`: it lies no further away than
half the gap to the neighbours, and exactly half way only beside an even mantissa. -/
def readsBack (m : Nat) (e : Int) (d : Nat) (s : Int) : Bool :=
  let below := if m = two 52 ∧ minExponent < e then 4 * m - 1 else 4 * m - 2
  let above := 4 * m + 2
  if m % 2 = 0 then !decimalLt d s below (e - 2) && decimalLe d s above (e - 2)
  else !decimalLe d s below (e - 2) && decimalLt d s above (e - 2)

/-- Whether `d` is at least as near to `m * 2 ^ e` as `d + 1`, both in units of `10 ^ s`; a tie
goes to the even one. -/
def lowerIsNearer (m : Nat) (e : Int) (d : Nat) (s : Int) : Bool :=
  if d % 2 = 0 then !decimalLt (2 * d + 1) s m (e + 1) else !decimalLe (2 * d + 1) s m (e + 1)

/-- The decimal exponent: the number of places of `m * 2 ^ e` before the point. -/
def places (m : Nat) (e : Int) : Int :=
  let guess : Int := (e + Nat.log2 m) * 30103 / 100000
  if !decimalLe 1 guess m e then guess
  else if !decimalLe 1 (guess + 1) m e then guess + 1
  else guess + 2

/-- The decimal with `k` digits that reads back, if there is one. -/
def withDigits? (m : Nat) (e : Int) (k : Nat) : Option (Nat × Int) :=
  let s := places m e - k
  let d := decimalFloor m e s
  match readsBack m e d s, readsBack m e (d + 1) s with
  | true, true => some (if lowerIsNearer m e d s then d else d + 1, s)
  | true, false => some (d, s)
  | false, true => some (d + 1, s)
  | false, false => none

/-- The shortest decimal that reads back; seventeen digits always do. -/
def shortest (m : Nat) (e : Int) : Nat × Int :=
  (((List.range 17).map (· + 1)).findSome? (withDigits? m e)).getD
    (decimalFloor m e (places m e - 17), places m e - 17)

/-! ## The text -/

/-- Zeros at the end moved into the exponent. -/
def dropZeros : List Char → List Char := fun ds =>
  (ds.reverse.dropWhile (· == '0')).reverse

/-- Digits with the point after a number of places. -/
def positional (digits : List Char) (point : Int) : List Char :=
  if point ≤ 0 then '0' :: '.' :: List.replicate (-point).toNat '0' ++ digits
  else
    let n := point.toNat
    if digits.length ≤ n then digits ++ List.replicate (n - digits.length) '0' ++ ['.', '0']
    else digits.take n ++ '.' :: digits.drop n

/-- Digits with one place before the point and a power of ten of at least two digits. -/
def scientific (digits : List Char) (point : Int) : List Char :=
  let e := point - 1
  let power := Nat.toDigits 10 e.natAbs
  let head := digits.take 1 ++ (if digits.length ≤ 1 then [] else '.' :: digits.drop 1)
  head ++ 'e' :: (if e < 0 then '-' else '+') :: List.replicate (2 - power.length) '0' ++ power

/-- The text of a number without its sign. -/
def magnitudeText (m : Nat) (e : Int) : List Char :=
  if m = 0 then ['0', '.', '0']
  else
    let (d, s) := shortest m e
    let written := Nat.toDigits 10 d
    let point := written.length + s
    let digits := dropZeros written
    if -4 < point ∧ point ≤ 16 then positional digits point else scientific digits point

/-- The text of a number. -/
def text : Binary64 → List Char
  | .finite negative m e => (if negative then ['-'] else []) ++ magnitudeText m e
  | .infinite negative => (if negative then ['-'] else []) ++ "inf".toList
  | .nan => "nan".toList

end Binary64

end BlockMaze.Number
