import LayoutEquations.Number.Shortest

/-!
# Numbers as text

A number is written by the digits of its shortest decimal. `Number.text` is the form of equations, constraints and
messages, which never has an exponent; `Number.jsonText?` is the form of JSON output, which has one for large and
small magnitudes, always shows a point or an exponent, and has no text for NaN and the infinities.
-/

namespace LayoutEquations

namespace Decimal

/-- The decimal without an exponent: zeros fill the digits up to the point, or down from it. -/
def positional (d : Decimal) : List Char :=
  let digits := Nat.toDigits 10 d.digits
  match d.exponent with
  | .ofNat e => digits ++ List.replicate e '0'
  | .negSucc e =>
    let places := e + 1
    if digits.length ≤ places then '0' :: '.' :: (List.replicate (places - digits.length) '0' ++ digits)
    else digits.take (digits.length - places) ++ '.' :: digits.drop (digits.length - places)

/-- The exponent that the decimal has with one digit before the point. -/
def magnitude (d : Decimal) : Int :=
  d.exponent + (Nat.toDigits 10 d.digits).length - 1

/-- The decimal with one digit before the point and an exponent that always shows its sign. -/
def scientific (d : Decimal) : List Char :=
  let digits := Nat.toDigits 10 d.digits
  digits.take 1 ++ (if digits.length = 1 then [] else '.' :: digits.drop 1) ++
    'e' :: (if d.magnitude < 0 then '-' else '+') :: Nat.toDigits 10 d.magnitude.natAbs

end Decimal

namespace Number

def signChars (negative : Bool) : List Char :=
  if negative then ['-'] else []

/-- The characters of a number outside JSON. Equally near decimals: the upper one. -/
def chars : Number → List Char
  | nan => ['N', 'a', 'N']
  | infinite s => signChars s ++ ['i', 'n', 'f']
  | finite s r => signChars s ++ (Rank.shortest .upper r.val).positional

/-- The text of a number outside JSON. -/
def text (x : Number) : String := String.ofList x.chars

/-- The characters of a magnitude in JSON: positional from 10 ^ -5 up to below 10 ^ 16, with a point. -/
def jsonChars (rank : Nat) : List Char :=
  let d := Rank.shortest .even rank
  if rank = 0 ∨ (-5 ≤ d.magnitude ∧ d.magnitude < 16) then
    d.positional ++ (if 0 ≤ d.exponent then ['.', '0'] else [])
  else d.scientific

/-- The text of a number in JSON. Equally near decimals: the even one. -/
def jsonText? : Number → Option String
  | finite s r => some (String.ofList (signChars s ++ jsonChars r.val))
  | _ => none

end Number

end LayoutEquations
