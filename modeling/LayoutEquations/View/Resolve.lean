import LayoutEquations.Equation.Render
import LayoutEquations.View.KeyPaths
import LayoutEquations.View.Substitutions

/-!
# Resolving view references

A `Scope` holds what references are read against: the receiver, the substitution views and the key paths.
`Scope.resolve` maps a reference to its views in two steps: `Scope.roots` finds the views of the root, more than one
only for `$all`, and `follow` walks the key path from each of them. Whether the views belong together is not asked
here.
-/

namespace LayoutEquations

variable {V : Type}

/-- What the references of an equation mean. -/
structure Scope (V : Type) where
  receiver : V
  substitutions : Substitutions V
  keyPaths : KeyPaths V

inductive ResolveError where
  | unknownView (name : String) (pos : Nat)
  | keyPathNotAView (segment : String) (pos : Nat)
  /-- A substitution view whose key is a reserved word. -/
  | reservedName (key : String)
deriving DecidableEq

namespace ResolveError

def pos? : ResolveError → Option Nat
  | unknownView _ pos => some pos
  | keyPathNotAView _ pos => some pos
  | reservedName _ => none

def message : ResolveError → String
  | unknownView name pos => "unknown view '$" ++ name ++ "' at offset " ++ pos.repr
  | keyPathNotAView segment pos =>
    "key path segment '" ++ segment ++ "' at offset " ++ pos.repr ++ " does not resolve to a view"
  | reservedName key => "'" ++ key ++ "' is reserved and cannot name a substitution view"

end ResolveError

/-- The end of a key path from a view on, or the first segment that leads to no view. -/
def follow (keyPaths : KeyPaths V) (view : V) : List String → Except String V
  | [] => .ok view
  | segment :: segments => match keyPaths view segment with
    | some next => follow keyPaths next segments
    | none => .error segment

namespace Scope

variable [DecidableEq V]

/-- The views of a root. `$all` leaves the receiver out. -/
def roots (scope : Scope V) : ViewRef → Option (List V)
  | .self => some [scope.receiver]
  | .all => some (scope.substitutions.toList.filter (· ≠ scope.receiver))
  | .index n => (scope.substitutions.byIndex? n).map ([·])
  | .name word => (scope.substitutions.byName? word).map ([·])

/-- The view at the end of a reference's key path. -/
def followPath (scope : Scope V) (path : ViewPath) (root : V) : Except ResolveError V :=
  (follow scope.keyPaths root path.keyPath).mapError (.keyPathNotAView · path.pos)

/-- The views that a reference stands for. Reserved keys are refused whatever the reference is. -/
def resolve (scope : Scope V) (path : ViewPath) : Except ResolveError (List V) :=
  match scope.substitutions.reservedName? with
  | some key => .error (.reservedName key)
  | none => match scope.roots path.root with
    | none => .error (.unknownView path.root.render path.pos)
    | some roots => roots.mapM (scope.followPath path)

end Scope

end LayoutEquations
