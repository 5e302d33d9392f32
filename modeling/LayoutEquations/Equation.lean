import LayoutEquations.Attribute
import LayoutEquations.Number.Basic

/-!
# Equations

The syntax of an equation `left relation priority right`. The left side is a view reference with attributes; the
right side a list of constants, or a view reference with attributes, a multiplier and constants. View references are
still symbolic: a root and the key path behind it.

`==` compares what equations say: offsets do not count and numbers are compared by value.
-/

namespace LayoutEquations

/-! ## View references -/

/-- The root of a view reference. -/
inductive ViewRef where
  /-- The view that the equation is compiled for, `$self`. -/
  | self
  /-- Every substitution view but the receiver, `$all`. -/
  | all
  /-- A substitution view by its index, `$0`. -/
  | index (n : Nat)
  /-- A substitution view by its name, `$name`. -/
  | name (word : String)
deriving DecidableEq

/-- A view reference and the offset of its `$`. -/
structure ViewPath where
  root : ViewRef
  keyPath : List String
  pos : Nat
deriving DecidableEq

namespace ViewPath

/-- A reference without its place. -/
def key (p : ViewPath) : ViewRef × List String := (p.root, p.keyPath)

/-- References are alike wherever they stand. -/
instance : BEq ViewPath := ⟨fun p q => p.key == q.key⟩

end ViewPath

/-! ## Constants and terms -/

/-- An entry of a constant list. -/
inductive Constant where
  | value (x : Number)
  /-- No constraint for this place. -/
  | skip
deriving DecidableEq

namespace Constant

instance : BEq Constant where
  beq
    | value x, value y => x == y
    | skip, skip => true
    | _, _ => false

/-- The constant with the opposite sign; a skipped place stays skipped. -/
def neg : Constant → Constant
  | value x => value (-x)
  | skip => skip

end Constant

/-- Where the multiplier of a view term is written. -/
inductive MultiplierPosition where
  /-- As in `2($view.width)`. -/
  | before
  /-- As in `$view.width * 2`. -/
  | after
  | omitted
deriving DecidableEq

/-- The multiplier's position as JSON output names it. -/
def MultiplierPosition.label : MultiplierPosition → String
  | before => "before"
  | after => "after"
  | omitted => "omitted"

structure LeftTerm where
  view : ViewPath
  attributes : List AttributeName
deriving DecidableEq

instance : BEq LeftTerm := ⟨fun s t => s.view == t.view && s.attributes == t.attributes⟩

/-- The right side. Without a view it is the constants alone; a view without attributes relates to the attributes
of the left side. -/
structure RightTerm where
  view : Option ViewPath
  attributes : List AttributeName := []
  multiplierPosition : MultiplierPosition := .omitted
  multiplier : Number := .one
  constants : List Constant := [.value .zero]
deriving DecidableEq

instance : BEq RightTerm where
  beq s t := s.view == t.view && s.attributes == t.attributes && s.multiplierPosition == t.multiplierPosition &&
    s.multiplier == t.multiplier && s.constants == t.constants

/-- Are the constants what they are when none is written? -/
def RightTerm.hasDefaultConstant (t : RightTerm) : Bool :=
  t.constants == [.value .zero]

/-! ## Equations -/

/-- The priority of a required constraint, which holds when none is written. -/
def requiredPriority : Nat := 1000

structure Equation where
  left : LeftTerm
  relation : Relation
  priority : Nat
  right : RightTerm
deriving DecidableEq

instance : BEq Equation where
  beq s t := s.left == t.left && s.relation == t.relation && s.priority == t.priority && s.right == t.right

end LayoutEquations
