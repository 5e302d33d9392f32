import LayoutEquations.Token

/-!
# Grammar errors

The ways in which a list of lexemes fails to be an equation. `Wanted` names what the grammar calls for at a place,
and `ParseError.message` words each error.
-/

namespace LayoutEquations

/-- What can stand at a place of an equation. -/
inductive Wanted where
  | equation
  | viewReference
  | viewRoot
  | segment
  | attributes
  | attributeName
  | relation
  /-- A relation where a multiplier was written. -/
  | relationBeforeMultiplier
  | priority
  | rightTerm
  | multiplier
  | constant
  | constantOrSkip
  | constantOrEnd
  | closeParen
  | endOfEquation
deriving DecidableEq

def Wanted.text : Wanted → String
  | equation => "equation"
  | viewReference => "'$' view reference"
  | viewRoot => "view name or index"
  | segment => "attribute or key path segment"
  | attributes => "attribute"
  | attributeName => "attribute name"
  | relation => "relation"
  | relationBeforeMultiplier => "relation (multipliers belong on the right)"
  | priority => "priority value"
  | rightTerm => "right-hand term"
  | multiplier => "multiplier"
  | constant => "constant"
  | constantOrSkip => "constant or '-'"
  | constantOrEnd => "constant or end of equation"
  | closeParen => "')'"
  | endOfEquation => "end of equation"

inductive ParseError where
  | expected (wanted : Wanted) (found : Token) (pos : Nat)
  /-- A parenthesis without its partner. -/
  | unbalancedParen (pos : Nat)
  | multiplierAfterConstant (pos : Nat)
  | priorityOutOfRange (value : Number) (pos : Nat)
deriving DecidableEq

namespace ParseError

def pos : ParseError → Nat
  | expected _ _ pos => pos
  | unbalancedParen pos => pos
  | multiplierAfterConstant pos => pos
  | priorityOutOfRange _ pos => pos

def message : ParseError → String
  | expected wanted found pos =>
    "expected " ++ wanted.text ++ " at offset " ++ pos.repr ++ ", got " ++ found.describe
  | unbalancedParen pos => "unbalanced parenthesis at offset " ++ pos.repr
  | multiplierAfterConstant pos => "multiplier after constant at offset " ++ pos.repr
  | priorityOutOfRange value pos =>
    "priority " ++ value.text ++ " at offset " ++ pos.repr ++ " is not an integer in 1..=1000"

end ParseError

end LayoutEquations
