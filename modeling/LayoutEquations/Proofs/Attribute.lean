import LayoutEquations.Attribute
import LayoutEquations.Text.Classes

/-!
# Attribute names

Each attribute name is an identifier and spells itself. So the reserved words are a list of identifiers.
-/

namespace LayoutEquations

namespace AttributeName

theorem mem_all (a : AttributeName) : a ∈ all := by
  cases a with
  | primitive a => cases a <;> decide
  | margins => decide
  | size => decide
  | center => decide

theorem isIdentifier_name (a : AttributeName) : isIdentifier a.name = true := by
  have hall : ∀ a ∈ all, isIdentifier a.name = true := by decide +kernel
  exact hall a (mem_all a)

theorem ofWord?_name (a : AttributeName) : ofWord? a.name = some a := by
  have hall : ∀ a ∈ all, ofWord? a.name = some a := by decide +kernel
  exact hall a (mem_all a)

end AttributeName

/-- The words that the language takes for itself. -/
def reservedWords : List String := "self" :: "all" :: AttributeName.all.map AttributeName.name

theorem mem_reservedWords {word : String} (h : isReserved word = true) : word ∈ reservedWords := by
  rw [isReserved, Bool.or_eq_true, Bool.or_eq_true, beq_iff_eq, beq_iff_eq] at h
  rcases h with (rfl | rfl) | h
  · exact List.mem_cons_self
  · exact List.mem_cons_of_mem _ List.mem_cons_self
  · obtain ⟨a, ha, hname⟩ := List.find?_isSome.1 h
    rw [beq_iff_eq] at hname
    exact List.mem_cons_of_mem _ (List.mem_cons_of_mem _ (List.mem_map.2 ⟨a, ha, hname⟩))

theorem isIdentifier_of_isReserved {word : String} (h : isReserved word = true) : isIdentifier word = true := by
  have hall : ∀ word ∈ reservedWords, isIdentifier word = true := by decide +kernel
  exact hall word (mem_reservedWords h)

end LayoutEquations
