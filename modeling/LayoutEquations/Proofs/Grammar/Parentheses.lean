import Mathlib.Tactic
import LayoutEquations.Proofs.Grammar

/-!
# Parentheses

`Balanced` is what it means that parentheses come in pairs; a parenthesis is `Unclosed` or `Unopened` where no balanced
list leads to a partner. Everything that the grammar derives is balanced (`Right.balanced` and the others), so it can
be seen from the balance of what stands around a parenthesis that it has no partner. That argument counts: each front
part of a balanced list opens at least as many parentheses as it closes (`Balanced.depth_front`).
-/

namespace LayoutEquations.Grammar

variable {α : Type} {l : Lexeme} {ls ms xs : List Lexeme}

/-- Parentheses come in pairs, one pair inside another or behind it. -/
inductive Balanced : List Lexeme → Prop
  | nil : Balanced []
  | token {l : Lexeme} {ls : List Lexeme} (hopen : l.token ≠ .openParen) (hclose : l.token ≠ .closeParen)
      (h : Balanced ls) : Balanced (l :: ls)
  | group {ls ms : List Lexeme} (p q : Nat) (h : Balanced ls) (h' : Balanced ms) :
      Balanced (⟨p, .openParen⟩ :: (ls ++ ⟨q, .closeParen⟩ :: ms))

/-- A `(` in front of these lexemes has no `)` among them. -/
def Unclosed (after : List Lexeme) : Prop :=
  ∀ ls q rest, after = ls ++ ⟨q, .closeParen⟩ :: rest → ¬ Balanced ls

/-- A `)` behind these lexemes has no `(` among them. -/
def Unopened (before : List Lexeme) : Prop :=
  ∀ rest p ls, before = rest ++ ⟨p, .openParen⟩ :: ls → ¬ Balanced ls

theorem balanced_singleton (hopen : l.token ≠ .openParen) (hclose : l.token ≠ .closeParen) : Balanced [l] :=
  .token hopen hclose .nil

theorem Balanced.append (h : Balanced ls) (h' : Balanced ms) : Balanced (ls ++ ms) := by
  induction h with
  | nil => exact h'
  | token hopen hclose h ih => exact .token hopen hclose ih
  | group p q h hms ih ihms =>
    rw [List.cons_append, List.append_assoc, List.cons_append]
    exact .group p q h ihms

/-! ## How many parentheses are open -/

/-- How a token changes the number of open parentheses. -/
def nesting : Token → Int
  | .openParen => 1
  | .closeParen => -1
  | _ => 0

/-- The parentheses that are opened, less those that are closed. -/
def depth (ls : List Lexeme) : Int := (ls.map fun l => nesting l.token).sum

@[simp] theorem depth_nil : depth [] = 0 := rfl

@[simp] theorem depth_cons (l : Lexeme) (ls : List Lexeme) : depth (l :: ls) = nesting l.token + depth ls := rfl

@[simp] theorem depth_append (ls ms : List Lexeme) : depth (ls ++ ms) = depth ls + depth ms := by
  simp [depth]

@[simp] theorem nesting_openParen : nesting .openParen = 1 := rfl

@[simp] theorem nesting_closeParen : nesting .closeParen = -1 := rfl

theorem nesting_of_ne {t : Token} (hopen : t ≠ .openParen) (hclose : t ≠ .closeParen) : nesting t = 0 := by
  cases t <;> first | rfl | contradiction

namespace Balanced

theorem depth_eq_zero (h : Balanced ls) : depth ls = 0 := by
  induction h with
  | nil => rfl
  | token hopen hclose h ih => rw [depth_cons, nesting_of_ne hopen hclose, ih, Int.add_zero]
  | group p q h h' ih ih' => simp [ih, ih']

/-- No front part closes more than it opens. -/
theorem depth_front (h : Balanced ls) (hls : ls = xs ++ ms) : 0 ≤ depth xs := by
  induction h generalizing xs ms with
  | nil =>
    obtain ⟨rfl, -⟩ := List.append_eq_nil_iff.1 hls.symm
    exact Int.le_refl 0
  | token hopen hclose h ih =>
    rcases List.cons_eq_append_iff.1 hls with ⟨rfl, -⟩ | ⟨ys, rfl, htail⟩
    · exact Int.le_refl 0
    · rw [depth_cons, nesting_of_ne hopen hclose, Int.zero_add]
      exact ih htail
  | group p q h h' ih ih' =>
    rcases List.cons_eq_append_iff.1 hls with ⟨rfl, -⟩ | ⟨ys, rfl, htail⟩
    · exact Int.le_refl 0
    rw [depth_cons, nesting_openParen]
    rcases List.append_eq_append_iff.1 htail with ⟨zs, rfl, hzs⟩ | ⟨zs, hinner, -⟩
    · rw [depth_append, h.depth_eq_zero]
      rcases List.cons_eq_append_iff.1 hzs with ⟨rfl, -⟩ | ⟨zs, rfl, hbehind⟩
      · decide
      · have := ih' hbehind
        rw [depth_cons, nesting_closeParen]
        omega
    · have := ih hinner
      omega

theorem unclosed {p : Nat} (h : Balanced ls) : Unclosed (ls ++ [⟨p, .eof⟩]) := by
  intro xs q rest hsplit hxs
  have hall : Balanced (ls ++ [⟨p, .eof⟩]) := h.append (balanced_singleton (by simp) (by simp))
  have hclosed : ls ++ [⟨p, .eof⟩] = (xs ++ [⟨q, .closeParen⟩]) ++ rest := by
    rw [hsplit, List.append_assoc, List.singleton_append]
  have hfront := hall.depth_front hclosed
  rw [depth_append, hxs.depth_eq_zero, depth_cons, nesting_closeParen, depth_nil] at hfront
  omega

theorem unopened (h : Balanced ls) : Unopened ls := by
  intro rest p xs hsplit hxs
  have hfront := h.depth_front hsplit
  have hall := h.depth_eq_zero
  rw [hsplit, depth_append, depth_cons, nesting_openParen, hxs.depth_eq_zero] at hall
  omega

end Balanced

/-! ## What the grammar derives -/

theorem Separated.balanced {Item : α → List Lexeme → Prop} {as : List α}
    (hitem : ∀ {a ls}, Item a ls → Balanced ls) (h : Separated Item as ls) : Balanced ls := by
  induction h with
  | one h => exact hitem h
  | more p h hs ih => exact (hitem h).append (.token (by simp) (by simp) ih)

theorem Parenthesized.balanced {Item : α → List Lexeme → Prop} {as : List α}
    (hitem : ∀ {a ls}, Item a ls → Balanced ls) (h : Parenthesized Item as ls) : Balanced ls := by
  cases h with
  | intro p q h => exact .group p q (h.balanced hitem) .nil

theorem Signed.balanced {x : Number} (h : Signed x ls) : Balanced ls := by
  cases h with
  | plain p x => exact balanced_singleton (by simp) (by simp)
  | plus p q x => exact .token (by simp) (by simp) (balanced_singleton (by simp) (by simp))
  | minus p q x => exact .token (by simp) (by simp) (balanced_singleton (by simp) (by simp))

theorem Keyword.balanced {a : AttributeName} (h : Keyword a ls) : Balanced ls := by
  cases h with
  | intro p h => exact balanced_singleton (by simp) (by simp)

theorem Entry.balanced {c : Constant} (h : Entry c ls) : Balanced ls := by
  cases h with
  | skip p => exact balanced_singleton (by simp) (by simp)
  | value h => exact h.balanced

theorem Dotted.balanced {words : List String} {as : List AttributeName} (h : Dotted words as ls) : Balanced ls := by
  induction h with
  | nothing => exact .nil
  | single p q h => exact .token (by simp) (by simp) (balanced_singleton (by simp) (by simp))
  | list p h => exact .token (by simp) (by simp) (h.balanced Keyword.balanced)
  | segment p q hword h ih => exact .token (by simp) (by simp) (.token (by simp) (by simp) ih)

theorem Root.balanced {root : ViewRef} {t : Token} (h : Root root t) (p : Nat) : Balanced [⟨p, t⟩] := by
  cases h <;> exact balanced_singleton (by simp) (by simp)

theorem Operand.balanced {view : ViewPath} {as : List AttributeName} (h : Operand view as ls) : Balanced ls := by
  cases h with
  | intro p q hroot h => exact .token (by simp) (by simp) ((hroot.balanced q).append h.balanced)

theorem Priority.balanced {n : Nat} (h : Priority n ls) : Balanced ls := by
  cases h with
  | absent => exact .nil
  | clause p q r h hx hn =>
    have hinner := Balanced.token (l := ⟨q, .atSign⟩) (by simp) (by simp) h.balanced
    have := Balanced.group p r hinner .nil
    simpa using this

theorem Constants.balanced {cs : List Constant} (h : Constants cs ls) : Balanced ls := by
  cases h with
  | number h => exact h.balanced
  | list h => exact h.balanced Entry.balanced

theorem Clause.balanced {cs : List Constant} (h : Clause cs ls) : Balanced ls := by
  cases h with
  | absent => exact .nil
  | plus p h => exact .token (by simp) (by simp) h.balanced
  | minus p h => exact .token (by simp) (by simp) h.balanced

theorem Right.balanced {t : RightTerm} (h : Right t ls) : Balanced ls := by
  cases h with
  | plain h hc => exact h.balanced.append hc.balanced
  | after p h hm hc => exact h.balanced.append (.token (by simp) (by simp) (hm.balanced.append hc.balanced))
  | before p q hm h hc => exact hm.balanced.append (.group p q h.balanced hc.balanced)
  | constant h => exact h.balanced

end LayoutEquations.Grammar
