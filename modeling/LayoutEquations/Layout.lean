import LayoutEquations.Dictionary
import LayoutEquations.View.Resolve

/-!
# Layouts

A `Layout` is what a batch of equations is compiled against when it comes from a file: the receiver, the substitution
views and the key paths, all of them plain names. `Layout.ofFields?` and `Layout.ofValues?` accept the values that a
file can hold, and `Layout.scope` turns a layout into a scope; each key path there names its owner and its property
with a point between them.
-/

namespace LayoutEquations

/-- A value of a layout file. -/
inductive LayoutValue where
  | text (s : String)
  | list (items : List String)
  | table (entries : List (String × String))
deriving DecidableEq

structure Layout where
  receiver : String := "self"
  views : Substitutions String := .indexed []
  keyPaths : Dictionary String := .empty
deriving DecidableEq

namespace Layout

/-! ## From values -/

/-- Sets a field; `none` when there is no such field or the value does not suit it. -/
def set? (l : Layout) : String → LayoutValue → Option Layout
  | "receiver", .text s => some { l with receiver := s }
  | "views", .list items => some { l with views := .indexed items }
  | "views", .table entries => some { l with views := .named (.ofList entries) }
  | "key_paths", .table entries => some { l with keyPaths := .ofList entries }
  | _, _ => none

/-- A layout from fields with their names, none of them twice. -/
def ofFields? (fields : List (String × LayoutValue)) : Option Layout :=
  if (fields.map (·.1)).Nodup then fields.foldlM (fun l f => l.set? f.1 f.2) {} else none

/-- A layout from values without names: receiver, views and key paths, as many as there are. -/
def ofValues? (values : List LayoutValue) : Option Layout :=
  if values.length ≤ 3 then ofFields? (["receiver", "views", "key_paths"].zip values) else none

/-! ## To a scope -/

/-- Owner and property of a key path, parted at the first point; neither may be empty. -/
def splitKeyPath? (key : String) : Option (String × String) :=
  let owner := key.toList.takeWhile (· ≠ '.')
  let property := (key.toList.dropWhile (· ≠ '.')).drop 1
  if owner.isEmpty || property.isEmpty then none
  else some (String.ofList owner, String.ofList property)

/-- The table of the layout's key paths, or the first key that does not name a property of a view. -/
def keyPathTable (l : Layout) : Except String (KeyPathTable String) :=
  l.keyPaths.entries.foldlM (fun t e => match splitKeyPath? e.1 with
    | some (owner, property) => .ok (t.insert owner property e.2)
    | none => .error e.1) .empty

/-- The scope of a layout, or a key of its key paths that is not well formed. -/
def scope (l : Layout) : Except String (Scope String) := do
  let table ← l.keyPathTable
  .ok ⟨l.receiver, l.views, table.lookup⟩

end Layout

end LayoutEquations
