import LayoutEquations.Equation
import LayoutEquations.Number.Text

/-!
# Constraints

A `Constraint` relates one attribute of a view to a multiple of an attribute of another view plus a constant, or to
the constant alone. `Constraint.text` is its one-line form, in which what holds by default is left out.
-/

namespace LayoutEquations

variable {V W : Type}

/-- `itemView.itemAttribute relation multiplier · relatedView.relatedAttribute + constant`, at a priority. -/
structure Constraint (V : Type) where
  itemView : V
  itemAttribute : Attribute
  relation : Relation
  relatedView : Option V
  relatedAttribute : Option Attribute
  multiplier : Number
  constant : Number
  priority : Nat
deriving DecidableEq

namespace Constraint

def isRequired (c : Constraint V) : Bool := c.priority == requiredPriority

/-- The same constraint between the images of its views. -/
def mapViews (f : V → W) (c : Constraint V) : Constraint W :=
  { c with itemView := f c.itemView, relatedView := c.relatedView.map f }

/-- The constant behind a related view: its sign is an operator and zero is left out. -/
def offsetText (x : Number) : String :=
  if x.isPositive then " + " ++ x.text
  else if x.isNegative then " - " ++ (-x).text
  else ""

/-- What the item is related to. -/
def relatedText (c : Constraint String) : String :=
  match c.relatedView, c.relatedAttribute with
  | some view, some a =>
    (if c.multiplier == .one then "" else c.multiplier.text ++ " * ") ++ view ++ "." ++ a.name ++
      offsetText c.constant
  | _, _ => c.constant.text

def text (c : Constraint String) : String :=
  c.itemView ++ "." ++ c.itemAttribute.name ++ " " ++ c.relation.symbol ++ " " ++ c.relatedText ++
    (if c.isRequired then "" else " @" ++ c.priority.repr)

end Constraint

end LayoutEquations
