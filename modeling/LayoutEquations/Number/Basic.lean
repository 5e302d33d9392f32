import LayoutEquations.Number.Rank

/-!
# Numbers

The numbers of equations: double precision, as a sign and a `Rank`. Equality as such tells apart whatever is written
apart, the two zeros included; `==` compares values, so `0 == -0` and NaN differs from itself.
-/

namespace LayoutEquations

/-- A double-precision number. -/
inductive Number where
  | nan
  | infinite (negative : Bool)
  | finite (negative : Bool) (rank : Fin Rank.infinity)
deriving DecidableEq

namespace Number

/-- Equality of values. -/
protected def beq : Number → Number → Bool
  | .finite s m, .finite t n => m.val == n.val && (s == t || m.val == 0)
  | .infinite s, .infinite t => s == t
  | _, _ => false

instance : BEq Number := ⟨Number.beq⟩

/-- The number with a sign and a rank; a rank past the finite ones gives an infinity. -/
def ofRank (negative : Bool) (rank : Nat) : Number :=
  if h : rank < Rank.infinity then .finite negative ⟨rank, h⟩ else .infinite negative

def zero : Number := ofRank false 0

def one : Number := ofRank false (1023 * Rank.binade)

def neg : Number → Number
  | nan => nan
  | infinite s => infinite (!s)
  | finite s r => finite (!s) r

instance : Neg Number := ⟨neg⟩

def isFinite : Number → Bool
  | finite .. => true
  | _ => false

/-- Above zero. -/
def isPositive : Number → Bool
  | nan => false
  | infinite s => !s
  | finite s r => !s && r.val != 0

/-- Below zero. -/
def isNegative : Number → Bool
  | nan => false
  | infinite s => s
  | finite s r => s && r.val != 0

/-- The natural number that a number equals, if it equals one; both zeros equal `0`. -/
def toNat? : Number → Option Nat
  | finite s r =>
    let units := Rank.units r.val
    if units % Rank.unit = 0 ∧ ¬ (s ∧ units ≠ 0) then some (units / Rank.unit) else none
  | _ => none

end Number

end LayoutEquations
