import LayoutEquations.Equation
import LayoutEquations.Number.Text

/-!
# Equations as text

`Equation.render` writes an equation in canonical form: one spelling for each blank, list and number, no clause that
says what holds anyway, and every constant behind a `+`.
-/

namespace LayoutEquations

/-- The list between parentheses. -/
def parenthesized (items : List String) : String :=
  "(" ++ String.intercalate ", " items ++ ")"

def ViewRef.render : ViewRef → String
  | self => "self"
  | all => "all"
  | index n => n.repr
  | name word => word

def ViewPath.render (p : ViewPath) : String :=
  "$" ++ p.root.render ++ String.join (p.keyPath.map ("." ++ ·))

namespace AttributeName

/-- The attributes behind a view reference. -/
def renderList : List AttributeName → String
  | [] => ""
  | [a] => "." ++ a.name
  | as => "." ++ parenthesized (as.map name)

end AttributeName

namespace Constant

def render : Constant → String
  | value x => x.text
  | skip => "-"

/-- The constants of a right side; a single number needs no parentheses. -/
def renderList : List Constant → String
  | [value x] => x.text
  | cs => parenthesized (cs.map render)

end Constant

namespace RightTerm

/-- A view with its attributes and multiplier. -/
def renderOperand (t : RightTerm) (view : ViewPath) : String :=
  let operand := view.render ++ AttributeName.renderList t.attributes
  match t.multiplierPosition with
  | .before => t.multiplier.text ++ "(" ++ operand ++ ")"
  | .after => operand ++ " * " ++ t.multiplier.text
  | .omitted => operand

def render (t : RightTerm) : String :=
  match t.view with
  | none => Constant.renderList t.constants
  | some view =>
    t.renderOperand view ++ (if t.hasDefaultConstant then "" else " + " ++ Constant.renderList t.constants)

end RightTerm

/-- The priority clause of an equation. -/
def renderPriority (priority : Nat) : String :=
  if priority = requiredPriority then "" else "(@" ++ priority.repr ++ ")"

/-- The canonical form of an equation. -/
def Equation.render (e : Equation) : String :=
  e.left.view.render ++ AttributeName.renderList e.left.attributes ++ " " ++ e.relation.symbol ++
    renderPriority e.priority ++ " " ++ e.right.render

end LayoutEquations
