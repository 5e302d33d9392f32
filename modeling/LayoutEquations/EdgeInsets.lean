import LayoutEquations.View.Resolve

/-!
# Edge insets

The distances at which a subview is held inside its superview. `EdgeInsets.equation` says them as an equation for
the subview `$0`, and `EdgeInsets.scope` is the scope to compile it in.
-/

namespace LayoutEquations

/-- The distances of a view's edges from the edges of its superview. -/
structure EdgeInsets where
  top : Number := .zero
  leading : Number := .zero
  bottom : Number := .zero
  trailing : Number := .zero
deriving DecidableEq

namespace EdgeInsets

/-- The same distance at every edge. -/
def uniform (x : Number) : EdgeInsets := ⟨x, x, x, x⟩

/-- The equation that pins view `$0` inside the receiver. The bottom and trailing insets point inwards, against the
axes, so their constants have the opposite sign. -/
def equation (i : EdgeInsets) : String :=
  "$0.margins = $self.margins + (" ++ i.top.text ++ ", " ++ i.leading.text ++ ", " ++ (-i.bottom).text ++ ", " ++
    (-i.trailing).text ++ ")"

/-- The scope in which a subview is pinned inside its superview. -/
def scope {V : Type} (superview subview : V) : Scope V := ⟨superview, .indexed [subview], .none⟩

end EdgeInsets

end LayoutEquations
