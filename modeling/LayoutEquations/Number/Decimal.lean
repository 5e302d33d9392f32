import LayoutEquations.Number.Basic

/-!
# Numbers as decimals

`Number.ofDecimal` rounds a decimal to the nearest number. Of the two ways to write one, `Numeral` is the plain
numeral of equations, digits with at most one point, and `Number.ofText?` reads the wider grammar of command-line
arguments, which has exponents, infinities and NaN.
-/

namespace LayoutEquations

/-- The decimal `digits · 10 ^ exponent`. -/
structure Decimal where
  digits : Nat
  exponent : Int
deriving DecidableEq

/-- The decimal rounded to the nearest number; one beyond the finite numbers is infinite. -/
def Number.ofDecimal (negative : Bool) (d : Decimal) : Number :=
  .ofRank negative
    (Rank.nearest (d.digits * Nat.pow 10 d.exponent.toNat * Rank.unit) (Nat.pow 10 (-d.exponent).toNat))

/-! ## Plain numerals -/

/-- An unsigned numeral: the digits before and after its point. -/
structure Numeral where
  whole : List Char
  fraction : List Char
deriving DecidableEq

namespace Numeral

/-- Does a numeral start here: with a digit, or with a point and a digit? -/
def startsAt : List Char → Bool
  | '.' :: c :: _ => c.isDigit
  | c :: _ => c.isDigit
  | [] => false

/-- The digits after a point. A point without a digit belongs to something else. -/
def fractionAt : List Char → List Char
  | '.' :: cs => cs.takeWhile Char.isDigit
  | _ => []

/-- The longest numeral at the head of a text. -/
def ofChars (cs : List Char) : Numeral :=
  ⟨cs.takeWhile Char.isDigit, fractionAt (cs.dropWhile Char.isDigit)⟩

/-- The characters of a numeral. -/
def chars (n : Numeral) : List Char :=
  if n.fraction.isEmpty then n.whole else n.whole ++ '.' :: n.fraction

def decimal (n : Numeral) : Decimal :=
  ⟨Nat.ofDigitChars 10 (n.whole ++ n.fraction) 0, -n.fraction.length⟩

/-- The number that a numeral stands for behind a sign. -/
def value (negative : Bool) (n : Numeral) : Number := .ofDecimal negative n.decimal

end Numeral

/-! ## Numbers of the command line -/

namespace Number

/-- A sign in front of a text, and what follows it. -/
def splitSign : List Char → Bool × List Char
  | '-' :: cs => (true, cs)
  | '+' :: cs => (false, cs)
  | cs => (false, cs)

/-- The exponent written at the end of a number: nothing, or `e` with a sign and at least one digit. -/
def exponentOf? : List Char → Option Int
  | [] => some 0
  | c :: cs =>
    let (negative, digits) := splitSign cs
    let n := Nat.ofDigitChars 10 digits 0
    if (c == 'e' || c == 'E') && !digits.isEmpty && digits.all Char.isDigit then
      some (if negative then -n else n)
    else none

/-- An exponent behind `size` digits, cut to where more of it could not change the number. -/
def clampExponent (size : Nat) (e : Int) : Int :=
  max (-(400 + size)) (min (400 + size) e)

/-- Digits with an optional point on any side and an optional exponent. -/
def unsignedOfChars? (negative : Bool) (cs : List Char) : Option Number := do
  let whole := cs.takeWhile Char.isDigit
  let tail := cs.dropWhile Char.isDigit
  let (fraction, tail) := match tail with
    | '.' :: cs => (cs.takeWhile Char.isDigit, cs.dropWhile Char.isDigit)
    | _ => ([], tail)
  let digits := whole ++ fraction
  if digits.isEmpty then none
  let e ← exponentOf? tail
  some (.ofDecimal negative ⟨Nat.ofDigitChars 10 digits 0, clampExponent digits.length e - fraction.length⟩)

/-- A number as a command-line argument: an optional sign before `inf`, `infinity`, `nan` in any case, or before
digits with an optional point and an optional exponent. -/
def ofText? (text : String) : Option Number :=
  let (negative, cs) := splitSign text.toList
  let word := String.ofList (cs.map Char.toLower)
  if word = "nan" then some .nan
  else if word = "inf" ∨ word = "infinity" then some (.infinite negative)
  else unsignedOfChars? negative cs

end Number

end LayoutEquations
