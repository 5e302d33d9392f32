import LayoutEquations.Alignment
import LayoutEquations.Equation.Parser
import LayoutEquations.View.Resolve

/-!
# From equations to constraints

`Equation.compile` gives the constraints of an equation in a scope, `compileEquation` those of its text. The four
kinds of failure are gathered in `CompileError`.
-/

namespace LayoutEquations

inductive CompileError where
  | lex (e : LexError)
  | parse (e : ParseError)
  | resolve (e : ResolveError)
  | align (e : AlignError)
deriving DecidableEq

namespace CompileError

/-- The kind of failure as messages and JSON output name it. -/
def kind : CompileError → String
  | lex _ => "lex"
  | parse _ => "parse"
  | resolve _ => "resolve"
  | align _ => "broadcast"

def message : CompileError → String
  | lex e => e.message
  | parse e => e.message
  | resolve e => e.message
  | align e => e.message

/-- The offset that the failure points at, if it points at one. -/
def pos? : CompileError → Option Nat
  | lex e => some e.pos
  | parse e => some e.pos
  | resolve e => e.pos?
  | align _ => none

end CompileError

/-- The equation that a text spells. -/
def Equation.ofText (src : String) : Except CompileError Equation := do
  let lexemes ← (lex src).mapError .lex
  (Equation.ofLexemes lexemes).mapError .parse

variable {V : Type} [DecidableEq V]

/-- The lists of an equation in a scope. The left reference is resolved first. -/
def Equation.operands (e : Equation) (scope : Scope V) : Except ResolveError (Operands V) := do
  let leftViews ← scope.resolve e.left.view
  let rightViews ← e.right.view.mapM scope.resolve
  .ok {
    leftViews
    leftAttributes := AttributeName.expand e.left.attributes
    rightViews
    rightAttributes := AttributeName.expand e.right.attributes
    constants := e.right.constants
  }

/-- The constraints that an equation stands for, target by target. -/
def Equation.compile (e : Equation) (scope : Scope V) : Except CompileError (List (Constraint V)) := do
  let operands ← (e.operands scope).mapError .resolve
  let targets ← operands.align.mapError .align
  .ok (targets.map e.constraint)

/-- The constraints that an equation's text stands for. -/
def compileEquation (scope : Scope V) (src : String) : Except CompileError (List (Constraint V)) := do
  let e ← Equation.ofText src
  e.compile scope

end LayoutEquations
