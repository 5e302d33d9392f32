import LayoutEquations.Equation.ParseError

/-!
# Reading lexemes one by one

A `Cursor` is a place in a list of lexemes. It never leaves the list: `advance` stays on the last lexeme. So looking
at the token after the current one is looking at `c.advance`, and a loop that has to move on is bounded by the number
of lexemes that are left (`length_advance_lt`).
-/

namespace LayoutEquations

/-- The lexeme to read next and those after it. -/
structure Cursor where
  current : Lexeme
  rest : List Lexeme
deriving DecidableEq

namespace Cursor

/-- The start of a list of lexemes. -/
def ofList? : List Lexeme → Option Cursor
  | [] => none
  | l :: ls => some ⟨l, ls⟩

def token (c : Cursor) : Token := c.current.token

def pos (c : Cursor) : Nat := c.current.pos

/-- The next place; the last lexeme is followed by itself. -/
def advance (c : Cursor) : Cursor :=
  match c.rest with
  | [] => c
  | l :: ls => ⟨l, ls⟩

theorem length_advance_le (c : Cursor) : c.advance.rest.length ≤ c.rest.length := by
  unfold advance
  split
  · exact Nat.le_refl _
  · rename_i h
    simp [h]

/-- Seeing another token means having moved. -/
theorem length_advance_lt {c : Cursor} (h : c.advance.token ≠ c.token) :
    c.advance.rest.length < c.rest.length := by
  revert h
  unfold advance
  split
  · exact fun h => absurd rfl h
  · rename_i hr
    simp [hr]

/-- The error at a place where something else is wanted. -/
def expected (c : Cursor) (wanted : Wanted) : ParseError :=
  .expected wanted c.token c.pos

/-- Passes the `)` that belongs to the `(` at offset `opened`. -/
def closeParen (opened : Nat) (c : Cursor) : Except ParseError Cursor :=
  match c.token with
  | .closeParen => .ok c.advance
  | .eof => .error (.unbalancedParen opened)
  | _ => .error (c.expected .closeParen)

/-- A number, perhaps behind a detached sign, and the place after it. -/
def signedNumber? (c : Cursor) : Option (Number × Cursor) :=
  match c.token, c.advance.token with
  | .number x, _ => some (x, c.advance)
  | .minus, .number x => some (-x, c.advance.advance)
  | .plus, .number x => some (x, c.advance.advance)
  | _, _ => none

/-- A number that something other than a number follows has been passed. -/
theorem length_lt_of_signedNumber? {c c' : Cursor} {x : Number} (h : c.signedNumber? = some (x, c'))
    (ht : ∀ y, c'.token ≠ .number y) : c'.rest.length < c.rest.length := by
  have hle := length_advance_le c
  unfold signedNumber? at h
  split at h <;> cases h
  · rename_i hc
    exact length_advance_lt (by simp [hc, ht])
  · rename_i hn
    exact Nat.lt_of_lt_of_le (length_advance_lt (by simp [hn, ht])) hle
  · rename_i hn
    exact Nat.lt_of_lt_of_le (length_advance_lt (by simp [hn, ht])) hle

def signedNumber (wanted : Wanted) (c : Cursor) : Except ParseError (Number × Cursor) :=
  match c.signedNumber? with
  | some r => .ok r
  | none => .error (c.expected wanted)

end Cursor

end LayoutEquations
