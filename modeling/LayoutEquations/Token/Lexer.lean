import LayoutEquations.Text.Classes
import LayoutEquations.Token

/-!
# From characters to tokens

`lex` cuts an equation into lexemes; blanks separate them and mean nothing. `nextToken?` reads the one token at the
head of a text. It depends on the token before only for the sign of a number: where an operand may start, a sign
written against a numeral is part of it. A `-` before `,` or `)` is the skip marker.
-/

namespace LayoutEquations

/-- A character that starts no token. -/
inductive LexError where
  | unexpectedChar (pos : Nat) (c : Char)
deriving DecidableEq

namespace LexError

def pos : LexError → Nat
  | unexpectedChar pos _ => pos

def message : LexError → String
  | unexpectedChar pos c => "unexpected character '" ++ c.toString ++ "' at offset " ++ pos.repr

end LexError

/-- May an operand, and so a signed number, follow this token? -/
def Token.opensOperand : Token → Bool
  | relation _ | openParen | comma | atSign | plus | minus | star => true
  | _ => false

/-- May a sign be part of a number behind the token `previous`, or at the start of the text? -/
def signAllowed (previous : Option Token) : Bool :=
  previous.all Token.opensOperand

/-- The tokens of one character. What follows a `-` decides whether it is the skip marker. -/
def symbolToken? (c : Char) (rest : List Char) : Option Token :=
  match c with
  | '$' => some .dollar
  | '.' => some .dot
  | '(' => some .openParen
  | ')' => some .closeParen
  | ',' => some .comma
  | '@' => some .atSign
  | '+' => some .plus
  | '*' => some .star
  | '=' => some (.relation .equal)
  | '-' => match (rest.dropWhile isBlank).head? with
    | some ',' | some ')' => some .dash
    | _ => some .minus
  | _ => none

/-- The relations of two characters. -/
def inequality? (c : Char) (rest : List Char) : Option Relation :=
  match c, rest with
  | '<', '=' :: _ => some .lessOrEqual
  | '>', '=' :: _ => some .greaterOrEqual
  | _, _ => none

/-- The token at the head of `c :: rest`, where `c` is no blank, and how many characters of `rest` belong to it. -/
def nextToken? (previous : Option Token) (c : Char) (rest : List Char) : Option (Token × Nat) :=
  if Numeral.startsAt (c :: rest) then
    let numeral := Numeral.ofChars (c :: rest)
    some (.number (numeral.value false), numeral.chars.length - 1)
  else if (c == '-' || c == '+') && signAllowed previous && Numeral.startsAt rest then
    let numeral := Numeral.ofChars rest
    some (.number (numeral.value (c == '-')), numeral.chars.length)
  else if let some token := symbolToken? c rest then
    some (token, 0)
  else if let some r := inequality? c rest then
    some (.relation r, 1)
  else if startsWord c then
    let word := rest.takeWhile continuesWord
    some (.identifier (String.ofList (c :: word)), word.length)
  else none

/-- The lexemes of a text that starts at offset `pos` behind the token `previous`. -/
def lexFrom (previous : Option Token) (pos : Nat) : List Char → Except LexError (List Lexeme)
  | [] => .ok [⟨pos, .eof⟩]
  | c :: rest =>
    if isBlank c then lexFrom previous (pos + 1) rest
    else match nextToken? previous c rest with
      | none => .error (.unexpectedChar pos c)
      | some (token, more) => do
        let lexemes ← lexFrom (some token) (pos + 1 + more) (rest.drop more)
        .ok (⟨pos, token⟩ :: lexemes)
termination_by cs => cs.length
decreasing_by all_goals simp; try omega

/-- The lexemes of an equation; the last one marks its end. -/
def lex (src : String) : Except LexError (List Lexeme) :=
  lexFrom none 0 src.toList

end LayoutEquations
