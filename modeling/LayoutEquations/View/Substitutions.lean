import LayoutEquations.Attribute
import LayoutEquations.Dictionary

/-!
# Substitution views

The views that an equation can refer to beside the receiver: a list, addressed by index, or a dictionary, addressed
by name. What a view is stays open; the library only compares views and hands them on.
-/

namespace LayoutEquations

inductive Substitutions (V : Type) where
  | indexed (views : List V)
  | named (views : Dictionary V)
deriving DecidableEq

namespace Substitutions

variable {V : Type}

/-- The view of `$n`. In a dictionary it is the one under the decimal text of `n`. -/
def byIndex? : Substitutions V → Nat → Option V
  | indexed views, n => views[n]?
  | named views, n => views.get? n.repr

/-- The view of `$name`. A list has no names. -/
def byName? : Substitutions V → String → Option V
  | indexed _, _ => none
  | named views, name => views.get? name

/-- All views, in the order of their indices or keys. -/
def toList : Substitutions V → List V
  | indexed views => views
  | named views => views.values

def size (s : Substitutions V) : Nat := s.toList.length

def isEmpty (s : Substitutions V) : Bool := s.toList.isEmpty

/-- The first key that no equation can refer to because the word is reserved. -/
def reservedName? : Substitutions V → Option String
  | indexed _ => none
  | named views => views.keys.find? isReserved

end Substitutions

end LayoutEquations
