import LayoutEquations.Number.Decimal

/-!
# The shortest decimal of a magnitude

Of the decimals that read back as a magnitude, `Rank.shortest` takes one on the coarsest power-of-ten grid, there
the nearest to the magnitude. The search goes from coarse grids to fine ones and looks at the two grid points next to
the magnitude; it ends at the latest on the grid of 10 ^ -1074, which holds every magnitude exactly.
-/

namespace LayoutEquations

/-- Which of two equally near decimals is taken. -/
inductive Tie where
  | upper
  | even
deriving DecidableEq

namespace Rank

/-- 10 ^ 1074 units in terms of 10 ^ -1074: a magnitude of `n` units lies at `n * finest` on the finest grid. -/
@[irreducible] def finest : Nat := Nat.pow 5 1074

/-- Does `point * 10 ^ (step - 1074)` round to the magnitude of this rank? -/
def readsBack (rank point step : Nat) : Bool :=
  nearest (point * Nat.pow 10 step) finest == rank

/-- The nearer of the grid points `low` and `low + 1` that enclose `scaled / 10 ^ step`. -/
def nearer (tie : Tie) (scaled low step : Nat) : Nat :=
  match compare (2 * scaled) ((2 * low + 1) * Nat.pow 10 step) with
  | .lt => low
  | .gt => low + 1
  | .eq => match tie with
    | .upper => low + 1
    | .even => low + low % 2

/-- Of the grid points `low` and `low + 1` that enclose `scaled / 10 ^ step`, the one that reads back, as two tests
tell; the nearer one if both do. -/
def hit? (tie : Tie) (scaled low step : Nat) : Bool → Bool → Option Nat
  | true, true => some (nearer tie scaled low step)
  | true, false => some low
  | false, true => some (low + 1)
  | false, false => none

/-- The first hit on the grids of 10 ^ (step - 1074), 10 ^ (step - 1075), … -/
def shortestFrom (tie : Tie) (rank : Nat) : Nat → Decimal
  | 0 => ⟨units rank * finest, -1074⟩
  | step + 1 =>
    let scaled := units rank * finest
    let low := scaled / Nat.pow 10 (step + 1)
    let hit := hit? tie scaled low (step + 1) (readsBack rank low (step + 1)) (readsBack rank (low + 1) (step + 1))
    (hit.map fun point => ⟨point, step + 1 - 1074⟩).getD (shortestFrom tie rank step)

/-- A step whose grid is coarser than the magnitude: a number of `b` bits has at most `b * 0.30103 + 1` digits. -/
def coarsest (rank : Nat) : Nat :=
  ((units rank * finest).log2 + 1) * 30103 / 100000 + 1

/-- The shortest decimal that reads back as the magnitude of a rank. -/
def shortest (tie : Tie) (rank : Nat) : Decimal :=
  if rank = 0 then ⟨0, 0⟩ else shortestFrom tie rank (coarsest rank)

end Rank

end LayoutEquations
