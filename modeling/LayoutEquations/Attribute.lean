/-!
# Attributes and relations

`Attribute` lists the layout attributes that a constraint can relate, and `AttributeName` what an equation can write:
one of them, or a special name that `AttributeName.parts` replaces by several. The fourteen names, `self` and `all`
are the reserved words of the language; none of them can name a view. A `Relation` stands between the two sides of an
equation.
-/

namespace LayoutEquations

/-! ## Attributes -/

/-- A layout attribute of a view. -/
inductive Attribute where
  | left
  | right
  | top
  | bottom
  | leading
  | trailing
  | width
  | height
  | centerX
  | centerY
  | baseline
deriving DecidableEq

namespace Attribute

def all : List Attribute :=
  [left, right, top, bottom, leading, trailing, width, height, centerX, centerY, baseline]

def name : Attribute → String
  | left => "left"
  | right => "right"
  | top => "top"
  | bottom => "bottom"
  | leading => "leading"
  | trailing => "trailing"
  | width => "width"
  | height => "height"
  | centerX => "centerX"
  | centerY => "centerY"
  | baseline => "baseline"

end Attribute

/-- An attribute as an equation writes it. -/
inductive AttributeName where
  | primitive (a : Attribute)
  | margins
  | size
  | center
deriving DecidableEq

namespace AttributeName

def all : List AttributeName :=
  Attribute.all.map primitive ++ [margins, size, center]

def name : AttributeName → String
  | primitive a => a.name
  | margins => "margins"
  | size => "size"
  | center => "center"

/-- The attribute name that a word spells, if it spells one. -/
def ofWord? (word : String) : Option AttributeName :=
  all.find? fun a => a.name == word

/-- Does the name stand for several attributes? -/
def isSpecial : AttributeName → Bool
  | primitive _ => false
  | _ => true

/-- The attributes that a name stands for, in the order in which their constraints are written. -/
def parts : AttributeName → List Attribute
  | primitive a => [a]
  | margins => [.top, .leading, .bottom, .trailing]
  | size => [.width, .height]
  | center => [.centerX, .centerY]

/-- A list of names with each special name replaced by its parts. -/
def expand (names : List AttributeName) : List Attribute :=
  names.flatMap parts

end AttributeName

/-- Is the word taken by the language? -/
def isReserved (word : String) : Bool :=
  word == "self" || word == "all" || (AttributeName.ofWord? word).isSome

/-! ## Relations -/

inductive Relation where
  | equal
  | lessOrEqual
  | greaterOrEqual
deriving DecidableEq

/-- The relation as an equation spells it. -/
def Relation.symbol : Relation → String
  | equal => "="
  | lessOrEqual => "<="
  | greaterOrEqual => ">="

/-- The relation's name in JSON output. -/
def Relation.name : Relation → String
  | equal => "equal"
  | lessOrEqual => "less_or_equal"
  | greaterOrEqual => "greater_or_equal"

end LayoutEquations
