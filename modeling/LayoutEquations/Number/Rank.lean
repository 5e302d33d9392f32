/-!
# Ranks of magnitudes

The magnitudes of double precision, counted from zero upwards. `units rank` is the magnitude of a rank in units of
2 ^ -1074, the least positive magnitude, so all of them are natural numbers; `floor` is the last rank at or below a
number of units, and `nearest` the rank that a quotient of units rounds to, where a half goes to the even rank.
Counting goes on past the largest finite magnitude: a quotient whose nearest rank is at least `infinity` overflows.
-/

namespace LayoutEquations.Rank

/-- The number of magnitudes from one power of two up to the next. -/
def binade : Nat := Nat.pow 2 52

/-- The rank of 2 ^ 1024, the first magnitude that is not finite. -/
def infinity : Nat := 2047 * binade

/-- The number of units in one. No proof computes it. -/
@[irreducible] def unit : Nat := Nat.pow 2 1074

/-- The magnitude of a rank, in units: the first two binades advance by one unit, each later one by twice the step
of the binade before it. -/
def units (rank : Nat) : Nat :=
  let shift := rank / binade - 1
  (rank - shift * binade) * Nat.pow 2 shift

/-- The last rank whose magnitude is at most `n` units. -/
def floor (n : Nat) : Nat :=
  let shift := n.log2 - 52
  shift * binade + n / Nat.pow 2 shift

/-- The rank `low` or the one after it, as a quotient compares with the middle between them; a half goes to the even
one. -/
def roundFrom (low : Nat) : Ordering → Nat
  | .lt => low
  | .eq => low + low % 2
  | .gt => low + 1

/-- The rank nearest to `num / den` units. -/
def nearest (num den : Nat) : Nat :=
  let low := floor (num / den)
  roundFrom low (compare (2 * num) ((units low + units (low + 1)) * den))

end LayoutEquations.Rank
