import LayoutEquations.Constraint

/-!
# Alignment

An equation has one target for each attribute and view of its left side. `Operands.align` lines up the lists of its
right side with the targets: a list of one entry goes with every target, any other list must have an entry for each,
and a skipped constant drops its target.
-/

namespace LayoutEquations

variable {α V : Type}

/-! ## Lists that do not fit -/

/-- The list-valued parts of an equation. -/
inductive ListPart where
  | leftTargets
  | rightAttributes
  | rightViews
  | constants
deriving DecidableEq

namespace ListPart

def text : ListPart → String
  | leftTargets => "left-hand targets"
  | rightAttributes => "right-hand attribute list"
  | rightViews => "right-hand view list"
  | constants => "constant list"

/-- The part's name in JSON output. -/
def label : ListPart → String
  | leftTargets => "left_targets"
  | rightAttributes => "right_attributes"
  | rightViews => "right_views"
  | constants => "constants"

end ListPart

inductive AlignError where
  | sizeMismatch (part : ListPart) (expected got : Nat)
  | empty (part : ListPart)
deriving DecidableEq

namespace AlignError

def part : AlignError → ListPart
  | sizeMismatch part _ _ => part
  | empty part => part

def message : AlignError → String
  | sizeMismatch part expected got =>
    part.text ++ " has " ++ got.repr ++ " entries, expected 1 or " ++ expected.repr
  | empty part => part.text ++ " is empty"

end AlignError

/-- A list with an entry for each of `n` targets. -/
def spread (part : ListPart) (n : Nat) : List α → Except AlignError (List α)
  | [] => .error (.empty part)
  | [x] => .ok (List.replicate n x)
  | xs => if xs.length = n then .ok xs else .error (.sizeMismatch part n xs.length)

/-! ## Operands and targets -/

/-- The lists of an equation after its names and references have been replaced by attributes and views. -/
structure Operands (V : Type) where
  leftViews : List V
  leftAttributes : List Attribute
  /-- Absent when the right side is constants alone. -/
  rightViews : Option (List V)
  /-- Empty when each target relates to the attribute of its own. -/
  rightAttributes : List Attribute
  constants : List Constant

/-- A target with what it is related to. The index counts the skipped targets too. -/
structure Target (V : Type) where
  index : Nat
  itemView : V
  itemAttribute : Attribute
  relatedView : Option V
  relatedAttribute : Option Attribute
  constant : Number
deriving DecidableEq

namespace Operands

/-- The views and attributes of the left side, attribute by attribute. -/
def items (o : Operands V) : List (V × Attribute) :=
  o.leftAttributes.flatMap fun a => o.leftViews.map fun v => (v, a)

/-- The attribute that each item is related to. -/
def relatedAttributes (o : Operands V) : Except AlignError (List Attribute) :=
  if o.rightAttributes.isEmpty then .ok (o.items.map (·.2))
  else spread .rightAttributes o.items.length o.rightAttributes

/-- The view that each item is related to. -/
def relatedViews (o : Operands V) : Except AlignError (List (Option V)) :=
  match o.rightViews with
  | none => .ok (List.replicate o.items.length none)
  | some views => (·.map some) <$> spread .rightViews o.items.length views

/-- The target of one item, unless its constant is skipped. Without a view it has no related attribute. -/
def target? : ((V × Attribute) × Option V × Attribute × Constant) × Nat → Option (Target V)
  | ((item, view, a, .value x), index) => some ⟨index, item.1, item.2, view, view.map fun _ => a, x⟩
  | ((_, _, _, .skip), _) => none

/-- The targets of an equation that are not skipped. -/
def align (o : Operands V) : Except AlignError (List (Target V)) :=
  if o.items.isEmpty then .error (.empty .leftTargets)
  else do
    let attributes ← o.relatedAttributes
    let views ← o.relatedViews
    let constants ← spread .constants o.items.length o.constants
    .ok ((o.items.zip (views.zip (attributes.zip constants))).zipIdx.filterMap target?)

end Operands

/-- The constraint of a target: what the lists left open comes from the equation. -/
def Equation.constraint (e : Equation) (t : Target V) : Constraint V where
  itemView := t.itemView
  itemAttribute := t.itemAttribute
  relation := e.relation
  relatedView := t.relatedView
  relatedAttribute := t.relatedAttribute
  multiplier := e.right.multiplier
  constant := t.constant
  priority := e.priority

end LayoutEquations
