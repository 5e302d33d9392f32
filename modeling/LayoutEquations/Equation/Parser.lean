import LayoutEquations.Equation
import LayoutEquations.Equation.Cursor
import LayoutEquations.Token.Lexer

/-!
# From tokens to equations

`Equation.ofLexemes` reads an equation by recursive descent. Each function starts at a cursor and returns what it
read together with the place after it. The next token decides everywhere but in two places, where the one behind it
is needed: `(@` starts a priority and `(` alone a constant list; an attribute name that is followed by `.` is a
key-path segment.
-/

namespace LayoutEquations

namespace Cursor

/-! ## View operands -/

/-- The attribute names of a list after its `(` at offset `opened`, up to its `)`. -/
def attributeNames (opened : Nat) (c : Cursor) : Except ParseError (List AttributeName × Cursor) :=
  match _ : c.token with
  | .identifier word =>
    match AttributeName.ofWord? word with
    | none => .error (c.expected .attributeName)
    | some a =>
      if _ : c.advance.token = .comma then do
        let (as, c') ← attributeNames opened c.advance.advance
        .ok (a :: as, c')
      else do
        let c' ← c.advance.closeParen opened
        .ok ([a], c')
  | .eof => .error (.unbalancedParen opened)
  | _ => .error (c.expected .attributeName)
termination_by c.rest.length
decreasing_by
  have := length_advance_lt (c := c) (by simp [*])
  have := length_advance_le c.advance
  omega

/-- A list of attributes between parentheses. -/
def attributeList (c : Cursor) : Except ParseError (List AttributeName × Cursor) :=
  attributeNames c.pos c.advance

/-- What follows the root of a view reference: key-path segments, then attributes. A word is a segment unless it
names an attribute and no `.` follows it. -/
def segments (c : Cursor) : Except ParseError ((List String × List AttributeName) × Cursor) :=
  match _ : c.token, _ : c.advance.token with
  | .dot, .openParen => do
    let (as, c') ← c.advance.attributeList
    .ok (([], as), c')
  | .dot, .identifier word =>
    match AttributeName.ofWord? word, c.advance.advance.token == .dot with
    | some a, false => .ok (([], [a]), c.advance.advance)
    | _, _ => do
      let ((words, as), c') ← segments c.advance.advance
      .ok ((word :: words, as), c')
  | .dot, _ => .error (c.advance.expected .segment)
  | _, _ => .ok (([], []), c)
termination_by c.rest.length
decreasing_by
  have := length_advance_lt (c := c) (by simp [*])
  have := length_advance_le c.advance
  omega

/-- The greatest index that a view reference can have. -/
def maxIndex : Nat := 4294967295

/-- The root of a view reference that a token stands for. -/
def rootOf? : Token → Option ViewRef
  | .identifier word =>
    if word = "self" then some .self
    else if word = "all" then some .all
    else if isReserved word then none
    else some (.name word)
  | .number x => match x.toNat? with
    | some n => if n ≤ maxIndex then some (.index n) else none
    | none => none
  | _ => none

/-- A view reference with its attributes, from its `$` on. -/
def operand (c : Cursor) : Except ParseError ((ViewPath × List AttributeName) × Cursor) :=
  match rootOf? c.advance.token with
  | none => .error (c.advance.expected .viewRoot)
  | some root => do
    let ((words, as), c') ← c.advance.advance.segments
    .ok ((⟨root, words, c.pos⟩, as), c')

/-! ## The left side -/

def leftTerm (c : Cursor) : Except ParseError (LeftTerm × Cursor) :=
  match c.token with
  | .dollar => do
    let ((view, as), c') ← c.operand
    if as = [] then .error (c'.expected .attributes) else .ok (⟨view, as⟩, c')
  | _ => .error (c.expected .viewReference)

def relation (c : Cursor) : Except ParseError (Relation × Cursor) :=
  match c.token with
  | .relation r => .ok (r, c.advance)
  | .star => .error (c.expected .relationBeforeMultiplier)
  | _ => .error (c.expected .relation)

/-- The priority that a number gives, if it is a whole number in range. -/
def priorityOf? (x : Number) : Option Nat :=
  match x.toNat? with
  | some n => if 1 ≤ n ∧ n ≤ requiredPriority then some n else none
  | none => none

/-- The priority clause between the relation and the right side. -/
def priority (c : Cursor) : Except ParseError (Nat × Cursor) :=
  match c.token, c.advance.token with
  | .openParen, .atSign => do
    let value := c.advance.advance
    let (x, c') ← value.signedNumber .priority
    match priorityOf? x with
    | none => .error (.priorityOutOfRange x value.pos)
    | some n => do
      let c'' ← c'.closeParen c.pos
      .ok (n, c'')
  | _, _ => .ok (requiredPriority, c)

/-! ## The right side -/

/-- An entry of a constant list: the skip marker or a number. -/
def constantEntry? (c : Cursor) : Option (Constant × Cursor) :=
  match c.token with
  | .dash => some (.skip, c.advance)
  | _ => c.signedNumber?.map fun (x, c') => (.value x, c')

/-- An entry that a comma follows has been passed. -/
theorem length_lt_of_constantEntry? {c c' : Cursor} {entry : Constant}
    (h : c.constantEntry? = some (entry, c')) (ht : c'.token = .comma) :
    c'.rest.length < c.rest.length := by
  unfold constantEntry? at h
  split at h
  · cases h
    exact length_advance_lt (by simp [*])
  · cases hn : c.signedNumber? with
    | none => simp [hn] at h
    | some r =>
      simp only [hn, Option.map_some, Option.some.injEq, Prod.mk.injEq] at h
      obtain ⟨-, rfl⟩ := h
      exact length_lt_of_signedNumber? (x := r.1) hn (by simp [ht])

/-- The entries of a constant list after its `(` at offset `opened`, up to its `)`. -/
def constantEntries (opened : Nat) (c : Cursor) : Except ParseError (List Constant × Cursor) :=
  match _ : c.constantEntry? with
  | some (entry, c') =>
    if _ : c'.token = .comma then do
      let (entries, c'') ← constantEntries opened c'.advance
      .ok (entry :: entries, c'')
    else do
      let c'' ← c'.closeParen opened
      .ok ([entry], c'')
  | none => match c.token with
    | .eof => .error (.unbalancedParen opened)
    | _ => .error (c.expected .constantOrSkip)
termination_by c.rest.length
decreasing_by
  have := length_lt_of_constantEntry? (by assumption) (by assumption)
  have := length_advance_le c'
  omega

/-- A list of constants between parentheses. -/
def constantList (c : Cursor) : Except ParseError (List Constant × Cursor) :=
  constantEntries c.pos c.advance

/-- Nothing may multiply what ends in constants. -/
def endConstants (t : RightTerm) (c : Cursor) : Except ParseError (RightTerm × Cursor) :=
  match c.token with
  | .star => .error (.multiplierAfterConstant c.pos)
  | _ => .ok (t, c)

/-- The constants behind a sign: a list, or one number. -/
def clauseConstants (c : Cursor) : Except ParseError (List Constant × Cursor) :=
  match c.token with
  | .openParen => c.constantList
  | _ => do
    let (x, c') ← c.signedNumber .constant
    .ok ([.value x], c')

/-- The constant clause of a view term. A `-` turns the sign of every constant. -/
def constantClause (t : RightTerm) (c : Cursor) : Except ParseError (RightTerm × Cursor) :=
  match c.token with
  | .plus => do
    let (constants, c') ← c.advance.clauseConstants
    endConstants { t with constants } c'
  | .minus => do
    let (constants, c') ← c.advance.clauseConstants
    endConstants { t with constants := constants.map Constant.neg } c'
  | .star => .error (c.expected .constantOrEnd)
  | _ => .ok (t, c)

/-- A view term from its `$` on: operand, multiplier behind it, constant clause. -/
def viewTerm (c : Cursor) : Except ParseError (RightTerm × Cursor) := do
  let ((view, attributes), c') ← c.operand
  match c'.token with
  | .star => do
    let (multiplier, c'') ← c'.advance.signedNumber .multiplier
    constantClause { view, attributes, multiplier, multiplierPosition := .after } c''
  | _ => constantClause { view, attributes } c'

/-- A view term behind its multiplier, from the `(` around the operand on. -/
def scaledTerm (multiplier : Number) (c : Cursor) : Except ParseError (RightTerm × Cursor) :=
  match c.advance.token with
  | .dollar => do
    let ((view, attributes), c') ← c.advance.operand
    let c'' ← c'.closeParen c.pos
    constantClause { view, attributes, multiplier, multiplierPosition := .before } c''
  | _ => .error (c.advance.expected .viewReference)

def rightTerm (c : Cursor) : Except ParseError (RightTerm × Cursor) :=
  match c.token, c.signedNumber? with
  | .dollar, _ => c.viewTerm
  | _, some (x, c') => match c'.token with
    | .openParen => c'.scaledTerm x
    | _ => endConstants { view := none, attributes := [], constants := [.value x] } c'
  | .openParen, none => do
    let (constants, c') ← c.constantList
    endConstants { view := none, constants } c'
  | _, none => .error (c.expected .rightTerm)

/-! ## The equation -/

/-- Nothing may follow an equation. -/
def endEquation (c : Cursor) : Except ParseError Unit :=
  match c.token with
  | .eof => .ok ()
  | .closeParen => .error (.unbalancedParen c.pos)
  | _ => .error (c.expected .endOfEquation)

def equation (c : Cursor) : Except ParseError Equation := do
  let (left, c) ← c.leftTerm
  let (relation, c) ← c.relation
  let (priority, c) ← c.priority
  let (right, c) ← c.rightTerm
  c.endEquation
  .ok ⟨left, relation, priority, right⟩

end Cursor

/-- The equation that a list of lexemes spells. -/
def Equation.ofLexemes (lexemes : List Lexeme) : Except ParseError Equation :=
  match Cursor.ofList? lexemes with
  | none => .error (.expected .equation .eof 0)
  | some c => c.equation

end LayoutEquations
