-- Binary numbers with 53 bits of precision, the numbers that have a fraction
-- here. A number is a mantissa times a power of two, and every operation is
-- exact arithmetic followed by one rounding to the nearest such number, with
-- ties to the even mantissa.

namespace BlockMaze.Number

/-- A binary number: a mantissa below `2 ^ 53` times a power of two, an infinity or no number. -/
inductive Binary64 where
  | finite (negative : Bool) (mantissa : Nat) (exponent : Int)
  | infinite (negative : Bool)
  | nan
deriving DecidableEq, Repr

namespace Binary64

/-- A power of two. -/
def two (n : Nat) : Nat := Nat.pow 2 n

/-- A power of ten. -/
def ten (n : Nat) : Nat := Nat.pow 10 n

/-- The number of binary digits. -/
def bitLength (n : Nat) : Nat := if n = 0 then 0 else Nat.log2 n + 1

/-- The exponent of the smallest numbers. -/
def minExponent : Int := -1074

/-- The exponent of the largest numbers. -/
def maxExponent : Int := 971

/-- The fraction `num / den` divided by a power of two. -/
def scaled (num den : Nat) (e : Int) : Nat × Nat :=
  if 0 ≤ e then (num, den * two e.toNat) else (num * two (-e).toNat, den)

/-- A quotient rounded to the nearest whole number, a tie to the even one. -/
def roundDiv (num den : Nat) : Nat :=
  let q := num / den
  let r := num % den
  if den < 2 * r || (2 * r = den && q % 2 = 1) then q + 1 else q

/-- The exponent for which `num / den` has a mantissa of 53 bits, or the smallest exponent. -/
def exponentFor (num den : Nat) : Int :=
  let guess : Int := max minExponent (bitLength num - bitLength den - 53)
  let (n, d) := scaled num den guess
  if two 53 ≤ n / d then guess + 1 else guess

/-- A rounded mantissa with its exponent. Rounding up may have reached 54 bits. -/
def assemble (negative : Bool) (m : Nat) (e : Int) : Binary64 :=
  let (m, e) := if two 53 ≤ m then (m / 2, e + 1) else (m, e)
  if maxExponent < e then .infinite negative else .finite negative m e

/-- The number nearest to `num / den`. -/
def ofRatio (negative : Bool) (num den : Nat) : Binary64 :=
  if num = 0 then .finite negative 0 minExponent
  else
    let e := exponentFor num den
    let (n, d) := scaled num den e
    assemble negative (roundDiv n d) e

/-- The number nearest to `digits * 10 ^ exponent`. Exponents far beyond the range are decided
without computing the power. -/
def ofDecimal (negative : Bool) (digits : Nat) (exponent : Int) : Binary64 :=
  let places : Int := (Nat.toDigits 10 digits).length
  if digits = 0 then .finite negative 0 minExponent
  else if 400 < places + exponent then .infinite negative
  else if places + exponent < -400 then .finite negative 0 minExponent
  else if 0 ≤ exponent then ofRatio negative (digits * ten exponent.toNat) 1
  else ofRatio negative digits (ten (-exponent).toNat)

/-- The number nearest to a whole number, which may be too large to have one. -/
def ofInt? (n : Int) : Option Binary64 :=
  match ofRatio (n < 0) n.natAbs 1 with
  | .infinite _ => none
  | x => some x

/-- A mantissa times a power of two, as a fraction. -/
def ratio (m : Nat) (e : Int) : Nat × Nat :=
  if 0 ≤ e then (m * two e.toNat, 1) else (m, two (-e).toNat)

/-- The quotient by a positive whole number. -/
def divNat (x : Binary64) (k : Nat) : Binary64 :=
  match x with
  | .finite negative m e => ofRatio negative (ratio m e).1 ((ratio m e).2 * k)
  | other => other

/-- The whole part, toward zero. -/
def whole (negative : Bool) (m : Nat) (e : Int) : Int :=
  let n : Int := ((ratio m e).1 / (ratio m e).2 : Nat)
  if negative then -n else n

/-- A number without a fractional part. -/
def isWhole (m : Nat) (e : Int) : Bool := (ratio m e).1 % (ratio m e).2 = 0

/-- A number above zero. -/
def isPositive : Binary64 → Bool
  | .finite negative m _ => !negative && m != 0
  | .infinite negative => !negative
  | .nan => false

end Binary64

end BlockMaze.Number
