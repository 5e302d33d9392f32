import LayoutEquations.Attribute
import LayoutEquations.Number.Text

/-!
# Tokens

The smallest parts of an equation with a meaning of their own. A `Lexeme` is a token at its place: the offset of its
first character. Offsets count characters.
-/

namespace LayoutEquations

inductive Token where
  /-- The `$` that starts a view reference. -/
  | dollar
  /-- A word: a view name, a key-path segment or a reserved word. -/
  | identifier (word : String)
  /-- A numeral, with its sign where that is written against it and may be part of it. -/
  | number (value : Number)
  | dot
  | openParen
  | closeParen
  | comma
  | atSign
  | relation (r : Relation)
  | plus
  | minus
  | star
  /-- A `-` that takes the place of a constant. -/
  | dash
  /-- The end of the equation. -/
  | eof
deriving DecidableEq

/-- The token as an error message names it. -/
def Token.describe : Token → String
  | dollar => "'$'"
  | identifier word => "identifier '" ++ word ++ "'"
  | number value => "number " ++ value.text
  | dot => "'.'"
  | openParen => "'('"
  | closeParen => "')'"
  | comma => "','"
  | atSign => "'@'"
  | relation r => "'" ++ r.symbol ++ "'"
  | plus => "'+'"
  | minus => "'-'"
  | star => "'*'"
  | dash => "skip marker '-'"
  | eof => "end of equation"

/-- A token with the offset of its first character. -/
structure Lexeme where
  pos : Nat
  token : Token
deriving DecidableEq

end LayoutEquations
