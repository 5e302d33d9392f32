import LayoutEquations.View.KeyPaths

/-!
# Declared key paths

A table keeps a dictionary for each owner. What it answers is a map from pairs of an owner and a property all the same
(`lookup_insert`).
-/

namespace LayoutEquations.KeyPathTable

variable {V : Type} [DecidableEq V] {owner view target : V} {key property : String}

@[simp] theorem lookup_empty : (empty : KeyPathTable V).lookup view property = none := rfl

theorem lookup_eq_get? (t : KeyPathTable V) :
    t.lookup view property = ((t.properties? view).getD .empty).get? property := by
  unfold lookup
  cases t.properties? view with
  | none => rfl
  | some properties => rfl

theorem properties?_insert_self (t : KeyPathTable V) :
    (t.insert owner key target).properties? owner = some (((t.properties? owner).getD .empty).insert key target) := by
  rw [properties?, insert, List.find?_cons_of_pos (by simp)]
  rfl

theorem properties?_insert_of_ne (t : KeyPathTable V) (h : view ≠ owner) :
    (t.insert owner key target).properties? view = t.properties? view := by
  unfold properties? insert
  rw [List.find?_cons_of_neg (by simpa using h.symm), List.find?_filter]
  congr 2
  funext o
  by_cases ho : o.1 = view
  · simp [ho, h]
  · simp [ho]

theorem lookup_insert_self (t : KeyPathTable V) : (t.insert owner key target).lookup owner key = some target := by
  rw [lookup_eq_get?, properties?_insert_self, Option.getD_some, Dictionary.get?_insert_self]

theorem lookup_insert_of_ne (t : KeyPathTable V) (h : (view, property) ≠ (owner, key)) :
    (t.insert owner key target).lookup view property = t.lookup view property := by
  rw [lookup_eq_get?, lookup_eq_get?]
  by_cases hview : view = owner
  · subst hview
    have hproperty : property ≠ key := fun heq => h (by rw [heq])
    rw [properties?_insert_self, Option.getD_some, Dictionary.get?_insert_of_ne _ hproperty]
  · rw [properties?_insert_of_ne t hview]

/-- A declaration answers for its own property of its own owner, and nothing else changes. -/
theorem lookup_insert (t : KeyPathTable V) :
    (t.insert owner key target).lookup view property =
      if view = owner ∧ property = key then some target else t.lookup view property := by
  by_cases h : view = owner ∧ property = key
  · obtain ⟨rfl, rfl⟩ := h
    rw [lookup_insert_self, if_pos ⟨rfl, rfl⟩]
  · rw [if_neg h, lookup_insert_of_ne t fun heq => h (Prod.mk.inj heq)]

end LayoutEquations.KeyPathTable
