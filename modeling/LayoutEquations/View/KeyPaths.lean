import LayoutEquations.Dictionary

/-!
# Key paths

A key path leads from a view to another one, a property at a time. `KeyPaths` answers for a single step. Hosts bring
their own; `KeyPathTable` answers from declarations, the last one for a property counting. It has a dictionary for each
view with declared properties.
-/

namespace LayoutEquations

/-- The view under a property of a view, if there is one. -/
abbrev KeyPaths (V : Type) := V → String → Option V

/-- No view has properties. -/
def KeyPaths.none {V : Type} : KeyPaths V := fun _ _ => .none

/-- Declared key paths: for each owner the targets of its properties. -/
structure KeyPathTable (V : Type) where
  owners : List (V × Dictionary V)
  distinct : owners.Pairwise (·.1 ≠ ·.1)

namespace KeyPathTable

variable {V : Type} [DecidableEq V]

def empty : KeyPathTable V := ⟨[], .nil⟩

/-- The targets of the properties of an owner, if it has any. -/
def properties? (t : KeyPathTable V) (owner : V) : Option (Dictionary V) :=
  (t.owners.find? (·.1 == owner)).map (·.2)

/-- Declares that `owner.key` is `target`, in place of what was declared for it before. -/
def insert (t : KeyPathTable V) (owner : V) (key : String) (target : V) : KeyPathTable V where
  owners := (owner, ((t.properties? owner).getD .empty).insert key target) :: t.owners.filter (·.1 ≠ owner)
  distinct := List.pairwise_cons.2
    ⟨fun o ho => Ne.symm (by simpa using (List.mem_filter.1 ho).2), t.distinct.filter _⟩

def lookup (t : KeyPathTable V) : KeyPaths V := fun view key =>
  (t.properties? view).bind (·.get? key)

/-- The number of declared properties. -/
def size (t : KeyPathTable V) : Nat := t.owners.foldl (fun n o => n + o.2.size) 0

def isEmpty (t : KeyPathTable V) : Bool := t.size == 0

end KeyPathTable

end LayoutEquations
