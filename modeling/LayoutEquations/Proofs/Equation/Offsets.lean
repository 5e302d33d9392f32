import LayoutEquations.Proofs.Grammar.Reading
import LayoutEquations.Proofs.Token.Spacing

/-!
# Moving the offsets of an equation

The offsets of lexemes are only handed on: into the equation that is read, and into the error. So lexemes at other
offsets are read alike (`Equation.ofLexemes_move`). There is one lemma for each reading function; a sequence of them
moves when its parts do (`moveResult_bind`).
-/

namespace LayoutEquations

variable {α β : Type} (f : Nat → Nat)

def ViewPath.move (p : ViewPath) : ViewPath := { p with pos := f p.pos }

def LeftTerm.move (t : LeftTerm) : LeftTerm := { t with view := t.view.move f }

def RightTerm.move (t : RightTerm) : RightTerm := { t with view := t.view.map (ViewPath.move f) }

def Equation.move (e : Equation) : Equation := { e with left := e.left.move f, right := e.right.move f }

def ParseError.move : ParseError → ParseError
  | expected wanted found pos => expected wanted found (f pos)
  | unbalancedParen pos => unbalancedParen (f pos)
  | multiplierAfterConstant pos => multiplierAfterConstant (f pos)
  | priorityOutOfRange value pos => priorityOutOfRange value (f pos)

/-- The image under `g` of what was read, or the error at another offset. -/
def moveResult (g : α → α) : Except ParseError α → Except ParseError α
  | .ok a => .ok (g a)
  | .error e => .error (e.move f)

@[simp] theorem moveResult_ok (g : α → α) (a : α) : moveResult f g (.ok a) = .ok (g a) := rfl

@[simp] theorem moveResult_error (g : α → α) (e : ParseError) : moveResult f g (.error e) = .error (e.move f) := rfl

/-- A sequence moves when its parts do. -/
theorem moveResult_bind {g : α → α} {h : β → β} {x y : Except ParseError α} {k m : α → Except ParseError β}
    (hx : y = moveResult f g x) (hk : ∀ a, m (g a) = moveResult f h (k a)) :
    (y >>= m) = moveResult f h (x >>= k) := by
  subst hx
  cases x with
  | error e => rfl
  | ok a => exact hk a

namespace Cursor

/-- The same place in the list of moved lexemes. -/
def move (c : Cursor) : Cursor := ⟨c.current.move f, c.rest.map (Lexeme.move f)⟩

@[simp] theorem token_move (c : Cursor) : (c.move f).token = c.token := rfl

@[simp] theorem pos_move (c : Cursor) : (c.move f).pos = f c.pos := rfl

@[simp] theorem advance_move (c : Cursor) : (c.move f).advance = c.advance.move f := by
  obtain ⟨l, _ | ⟨l', ls⟩⟩ := c <;> rfl

@[simp] theorem expected_move (c : Cursor) (wanted : Wanted) :
    (c.move f).expected wanted = (c.expected wanted).move f := rfl

/-! ## Numbers and parentheses -/

theorem closeParen_move (opened : Nat) (c : Cursor) :
    (c.move f).closeParen (f opened) = moveResult f (move f) (c.closeParen opened) := by
  unfold closeParen
  rw [token_move, advance_move, expected_move]
  split <;> rfl

theorem signedNumber?_move (c : Cursor) :
    (c.move f).signedNumber? = c.signedNumber?.map (Prod.map id (move f)) := by
  unfold signedNumber?
  simp only [token_move, advance_move]
  split <;> rfl

theorem signedNumber_move (wanted : Wanted) (c : Cursor) :
    (c.move f).signedNumber wanted = moveResult f (Prod.map id (move f)) (c.signedNumber wanted) := by
  unfold signedNumber
  rw [signedNumber?_move]
  cases c.signedNumber? <;> rfl

/-! ## Operands

The loops of the parser are unfolded once, without what their termination needs. -/

theorem attributeNames_eq (opened : Nat) (c : Cursor) :
    attributeNames opened c = match c.token with
      | .identifier word => match AttributeName.ofWord? word with
        | none => .error (c.expected .attributeName)
        | some a =>
          if c.advance.token = .comma then do
            let (as, c') ← attributeNames opened c.advance.advance
            .ok (a :: as, c')
          else do
            let c' ← c.advance.closeParen opened
            .ok ([a], c')
      | .eof => .error (.unbalancedParen opened)
      | _ => .error (c.expected .attributeName) := by
  rw [attributeNames]
  split
  · next h =>
    simp only [h]
    rfl
  · next h => simp only [h]
  · simp

theorem segments_eq (c : Cursor) :
    c.segments = match c.token, c.advance.token with
      | .dot, .openParen => do
        let (as, c') ← c.advance.attributeList
        .ok (([], as), c')
      | .dot, .identifier word =>
        match AttributeName.ofWord? word, c.advance.advance.token == .dot with
        | some a, false => .ok (([], [a]), c.advance.advance)
        | _, _ => do
          let ((words, as), c') ← segments c.advance.advance
          .ok ((word :: words, as), c')
      | .dot, _ => .error (c.advance.expected .segment)
      | _, _ => .ok (([], []), c) := by
  rw [segments]
  split
  · next h hnext => simp only [h, hnext]
  · next word h hnext =>
    cases hword : AttributeName.ofWord? word <;> cases c.advance.advance.token == .dot <;>
      simp only [h, hnext, hword]
  · next h _ _ => simp [h]
  · simp

theorem attributeNames_move (opened : Nat) (c : Cursor) :
    attributeNames (f opened) (c.move f) = moveResult f (Prod.map id (move f)) (attributeNames opened c) := by
  fun_induction attributeNames opened c with
  | case1 c word ht hword =>
    rw [attributeNames_eq, token_move, ht]
    simp only [hword, expected_move, moveResult_error]
  | case2 c word ht a hword hcomma ih =>
    rw [attributeNames_eq, token_move, ht]
    simp only [hword, advance_move, token_move, hcomma, if_true]
    exact moveResult_bind f ih fun _ => rfl
  | case3 c word ht a hword hcomma =>
    rw [attributeNames_eq, token_move, ht]
    simp only [hword, advance_move, token_move, hcomma, if_false]
    exact moveResult_bind f (closeParen_move f opened _) fun _ => rfl
  | case4 c ht =>
    rw [attributeNames_eq, token_move, ht]
    rfl
  | case5 c hword ht =>
    rw [attributeNames_eq, token_move, expected_move]
    split
    · next word h => exact absurd h (hword word)
    · next h => exact absurd h ht
    · rfl

theorem attributeList_move (c : Cursor) :
    (c.move f).attributeList = moveResult f (Prod.map id (move f)) c.attributeList := by
  rw [attributeList, attributeList, pos_move, advance_move, attributeNames_move]

theorem segments_move (c : Cursor) :
    (c.move f).segments = moveResult f (Prod.map id (move f)) c.segments := by
  fun_induction segments c with
  | case1 c ht hnext =>
    rw [segments_eq, advance_move, token_move, token_move, ht, hnext]
    exact moveResult_bind f (attributeList_move f _) fun _ => rfl
  | case2 c word ht hnext a hdot hword =>
    rw [segments_eq, advance_move, token_move, token_move, ht, hnext]
    simp only [hword, advance_move, token_move, hdot]
    rfl
  | case3 c word ht hnext hword ih =>
    rw [segments_eq, advance_move, token_move, token_move, ht, hnext]
    simp only [advance_move, token_move]
    exact moveResult_bind f ih fun _ => rfl
  | case4 c ht hopen hword =>
    rw [segments_eq, advance_move, token_move, token_move, ht, expected_move]
    simp
  | case5 c ht hopen hword =>
    rw [segments_eq, token_move]
    simp

theorem operand_move (c : Cursor) :
    (c.move f).operand = moveResult f (Prod.map (Prod.map (ViewPath.move f) id) (move f)) c.operand := by
  rw [operand, operand, advance_move, token_move, expected_move]
  split
  · rfl
  · rw [advance_move]
    exact moveResult_bind f (segments_move f _) fun _ => rfl

/-! ## The left side, the relation and the priority -/

theorem leftTerm_move (c : Cursor) :
    (c.move f).leftTerm = moveResult f (Prod.map (LeftTerm.move f) (move f)) c.leftTerm := by
  rw [leftTerm, leftTerm, token_move, expected_move]
  split
  · refine moveResult_bind f (operand_move f c) ?_
    rintro ⟨⟨view, as⟩, c'⟩
    by_cases has : as = []
    · simp [has]
    · simp [has, LeftTerm.move]
  · rfl

theorem relation_move (c : Cursor) : (c.move f).relation = moveResult f (Prod.map id (move f)) c.relation := by
  rw [relation, relation, token_move, advance_move, expected_move, expected_move]
  split <;> rfl

theorem priority_move (c : Cursor) : (c.move f).priority = moveResult f (Prod.map id (move f)) c.priority := by
  rw [priority, priority, token_move, advance_move, token_move, advance_move]
  split
  · refine moveResult_bind f (signedNumber_move f _ _) ?_
    rintro ⟨x, c'⟩
    dsimp only [Prod.map, id]
    split
    · rfl
    · exact moveResult_bind f (closeParen_move f _ _) fun _ => rfl
  · rfl

/-! ## Constants -/

theorem constantEntry?_move (c : Cursor) :
    constantEntry? (c.move f) = c.constantEntry?.map (Prod.map id (move f)) := by
  unfold constantEntry?
  rw [token_move, advance_move, signedNumber?_move]
  split
  · rfl
  · cases c.signedNumber? <;> rfl

theorem constantEntries_eq (opened : Nat) (c : Cursor) :
    constantEntries opened c = match c.constantEntry? with
      | some (entry, c') =>
        if c'.token = .comma then do
          let (entries, c'') ← constantEntries opened c'.advance
          .ok (entry :: entries, c'')
        else do
          let c'' ← c'.closeParen opened
          .ok ([entry], c'')
      | none => match c.token with
        | .eof => .error (.unbalancedParen opened)
        | _ => .error (c.expected .constantOrSkip) := by
  rw [constantEntries]
  split
  · next h =>
    simp only [h]
    rfl
  · next h => cases c.token <;> simp only [h]

theorem constantEntries_move (opened : Nat) (c : Cursor) :
    constantEntries (f opened) (c.move f) = moveResult f (Prod.map id (move f)) (constantEntries opened c) := by
  fun_induction constantEntries opened c with
  | case1 c entry c' hentry hcomma ih =>
    rw [constantEntries_eq, constantEntry?_move, hentry]
    simp only [Option.map_some, Prod.map, id, token_move, advance_move, hcomma, if_true]
    exact moveResult_bind f ih fun _ => rfl
  | case2 c entry c' hentry hcomma =>
    rw [constantEntries_eq, constantEntry?_move, hentry]
    simp only [Option.map_some, Prod.map, id, token_move, hcomma, if_false]
    exact moveResult_bind f (closeParen_move f _ _) fun _ => rfl
  | case3 c hentry ht =>
    rw [constantEntries_eq, constantEntry?_move, hentry, token_move, ht]
    rfl
  | case4 c hentry ht =>
    rw [constantEntries_eq, constantEntry?_move, hentry, token_move, expected_move]
    simp

theorem constantList_move (c : Cursor) :
    (c.move f).constantList = moveResult f (Prod.map id (move f)) c.constantList := by
  rw [constantList, constantList, pos_move, advance_move, constantEntries_move]

theorem endConstants_move (t : RightTerm) (c : Cursor) :
    endConstants (t.move f) (c.move f) = moveResult f (Prod.map (RightTerm.move f) (move f)) (endConstants t c) := by
  rw [endConstants, endConstants, token_move]
  split <;> rfl

theorem clauseConstants_move (c : Cursor) :
    (c.move f).clauseConstants = moveResult f (Prod.map id (move f)) c.clauseConstants := by
  rw [clauseConstants, clauseConstants, token_move]
  split
  · exact constantList_move f c
  · exact moveResult_bind f (signedNumber_move f _ _) fun _ => rfl

theorem constantClause_move (t : RightTerm) (c : Cursor) :
    constantClause (t.move f) (c.move f) =
      moveResult f (Prod.map (RightTerm.move f) (move f)) (constantClause t c) := by
  rw [constantClause, constantClause, token_move, advance_move, expected_move]
  split
  · refine moveResult_bind f (clauseConstants_move f _) fun r => ?_
    exact endConstants_move f { t with constants := r.1 } r.2
  · refine moveResult_bind f (clauseConstants_move f _) fun r => ?_
    exact endConstants_move f { t with constants := r.1.map Constant.neg } r.2
  · rfl
  · rfl

/-! ## Right sides and equations -/

theorem viewTerm_move (c : Cursor) :
    (c.move f).viewTerm = moveResult f (Prod.map (RightTerm.move f) (move f)) c.viewTerm := by
  rw [viewTerm, viewTerm]
  refine moveResult_bind f (operand_move f c) ?_
  rintro ⟨⟨view, attributes⟩, c'⟩
  dsimp only [Prod.map, id]
  rw [token_move, advance_move]
  split
  · refine moveResult_bind f (signedNumber_move f _ _) fun r => ?_
    exact constantClause_move f { view, attributes, multiplier := r.1, multiplierPosition := .after } r.2
  · exact constantClause_move f { view, attributes } c'

theorem scaledTerm_move (multiplier : Number) (c : Cursor) :
    scaledTerm multiplier (c.move f) =
      moveResult f (Prod.map (RightTerm.move f) (move f)) (scaledTerm multiplier c) := by
  rw [scaledTerm, scaledTerm, advance_move, token_move, expected_move]
  split
  · refine moveResult_bind f (operand_move f _) ?_
    rintro ⟨⟨view, attributes⟩, c'⟩
    refine moveResult_bind f (closeParen_move f _ _) fun c'' => ?_
    exact constantClause_move f { view, attributes, multiplier, multiplierPosition := .before } c''
  · rfl

theorem rightTerm_move (c : Cursor) :
    (c.move f).rightTerm = moveResult f (Prod.map (RightTerm.move f) (move f)) c.rightTerm := by
  have hmoved := signedNumber?_move f c
  cases hsigned : c.signedNumber? with
  | none =>
    rw [hsigned, Option.map_none] at hmoved
    rw [rightTerm, rightTerm, hsigned, hmoved, token_move, expected_move]
    split
    · exact viewTerm_move f c
    · next h _ => cases h
    · refine moveResult_bind f (constantList_move f c) fun r => ?_
      exact endConstants_move f { view := none, constants := r.1 } r.2
    · rfl
  | some r =>
    obtain ⟨x, c'⟩ := r
    rw [hsigned, Option.map_some] at hmoved
    rw [rightTerm_of_signedNumber? hsigned, rightTerm_of_signedNumber? hmoved, token_move]
    split
    · exact scaledTerm_move f x c'
    · exact endConstants_move f { view := none, constants := [.value x] } c'

theorem endEquation_move (c : Cursor) : (c.move f).endEquation = moveResult f id c.endEquation := by
  rw [endEquation, endEquation, token_move]
  split <;> rfl

theorem equation_move (c : Cursor) : (c.move f).equation = moveResult f (Equation.move f) c.equation := by
  rw [equation, equation]
  refine moveResult_bind f (leftTerm_move f c) fun _ => ?_
  refine moveResult_bind f (relation_move f _) fun _ => ?_
  refine moveResult_bind f (priority_move f _) fun _ => ?_
  refine moveResult_bind f (rightTerm_move f _) fun _ => ?_
  exact moveResult_bind f (endEquation_move f _) fun _ => rfl

end Cursor

/-- Lexemes at other offsets spell the equation at other offsets, or fail at another offset. -/
theorem Equation.ofLexemes_move {ls : List Lexeme} (hls : ls ≠ []) :
    ofLexemes (ls.map (Lexeme.move f)) = moveResult f (Equation.move f) (ofLexemes ls) := by
  cases ls with
  | nil => exact absurd rfl hls
  | cons l ls => exact Cursor.equation_move f ⟨l, ls⟩

end LayoutEquations
