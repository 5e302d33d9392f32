import LayoutEquations.Batch
import LayoutEquations.EdgeInsets
import LayoutEquations.Json

/-!
# The library's values as JSON

One encoder for each kind of value that a tool can ask for: equations, constraints, failures, insets and lexemes.
Choices are objects with a `kind`, absent parts are `null`, and keys stand in alphabetical order.
-/

namespace LayoutEquations

/-! ## Equations -/

def AttributeName.toJson : AttributeName → Json
  | primitive a => .object [("primitive", .text a.name)]
  | a => .text a.name

def ViewRef.toJson : ViewRef → Json
  | self => .object [("kind", .text "self_ref")]
  | all => .object [("kind", .text "all_ref")]
  | index n => .object [("kind", .text "index_ref"), ("value", .nat n)]
  | name word => .object [("kind", .text "name_ref"), ("value", .text word)]

def ViewPath.toJson (p : ViewPath) : Json :=
  .object [
    ("key_path", .ofList .text p.keyPath),
    ("pos", .nat p.pos),
    ("root", p.root.toJson)]

def Constant.toJson : Constant → Json
  | value x => .object [("kind", .text "value"), ("value", .number x)]
  | skip => .object [("kind", .text "skip")]

def LeftTerm.toJson (t : LeftTerm) : Json :=
  .object [
    ("attributes", .ofList AttributeName.toJson t.attributes),
    ("view", t.view.toJson)]

def RightTerm.toJson (t : RightTerm) : Json :=
  .object [
    ("attributes", .ofList AttributeName.toJson t.attributes),
    ("constants", .ofList Constant.toJson t.constants),
    ("multiplier", .number t.multiplier),
    ("multiplier_position", .text t.multiplierPosition.label),
    ("view", .ofOption ViewPath.toJson t.view)]

def Equation.toJson (e : Equation) : Json :=
  .object [
    ("left", e.left.toJson),
    ("priority", .nat e.priority),
    ("relation", .text e.relation.name),
    ("right", e.right.toJson)]

/-! ## Results -/

def Lexeme.toJson (l : Lexeme) : Json :=
  .object [("pos", .nat l.pos), ("token", .text l.token.describe)]

def Constraint.toJson (c : Constraint String) : Json :=
  .object [
    ("constant", .number c.constant),
    ("item_attribute", .text c.itemAttribute.name),
    ("item_view", .text c.itemView),
    ("multiplier", .number c.multiplier),
    ("priority", .nat c.priority),
    ("related_attribute", .ofOption (.text ·.name) c.relatedAttribute),
    ("related_view", .ofOption .text c.relatedView),
    ("relation", .text c.relation.name)]

def EquationError.toJson (e : EquationError) : Json :=
  .object [
    ("equation", .text e.equation),
    ("index", .nat e.index),
    ("kind", .text e.error.kind),
    ("message", .text e.error.message),
    ("offset", .ofOption .nat e.error.pos?)]

def EdgeInsets.toJson (i : EdgeInsets) : Json :=
  .object [
    ("bottom", .number i.bottom),
    ("leading", .number i.leading),
    ("top", .number i.top),
    ("trailing", .number i.trailing)]

end LayoutEquations
