import LayoutEquations.Proofs.Grammar

/-!
# The numbers of an equation

Reading turns the sign of a number and puts `0` and `1` for what is not written. So what holds of the numbers among the
lexemes, of `0` and `1`, and of `-x` whenever it holds of `x`, holds of all numbers of the equation
(`Derives.forall_numbers`).
-/

namespace LayoutEquations

def ForallValues (P : Number → Prop) (cs : List Constant) : Prop := ∀ x, .value x ∈ cs → P x

structure RightTerm.ForallNumbers (P : Number → Prop) (t : RightTerm) : Prop where
  multiplier : P t.multiplier
  constants : ForallValues P t.constants

namespace Grammar

variable {P : Number → Prop} {ls ms : List Lexeme}

def ForallTokens (P : Number → Prop) (ls : List Lexeme) : Prop := ∀ l ∈ ls, ∀ x, l.token = .number x → P x

theorem forallTokens_append : ForallTokens P (ls ++ ms) ↔ ForallTokens P ls ∧ ForallTokens P ms :=
  List.forall_mem_append

theorem ForallTokens.tail {l : Lexeme} (h : ForallTokens P (l :: ls)) : ForallTokens P ls :=
  (List.forall_mem_cons.1 h).2

/-- What a property of numbers needs to hold of all that is read. -/
structure Kept (P : Number → Prop) : Prop where
  neg : ∀ x, P x → P (-x)
  zero : P .zero
  one : P .one

theorem Signed.forall_numbers {x : Number} (h : Signed x ls) (hP : Kept P) (hls : ForallTokens P ls) : P x := by
  cases h with
  | plain p x => exact hls _ List.mem_cons_self x rfl
  | plus p q x => exact hls.tail _ List.mem_cons_self x rfl
  | minus p q x => exact hP.neg x (hls.tail _ List.mem_cons_self x rfl)

theorem forallValues_singleton {x : Number} (hx : P x) : ForallValues P [.value x] := by
  intro y hy
  obtain rfl : y = x := by simpa using hy
  exact hx

theorem Entry.forall_numbers {c : Constant} (h : Entry c ls) (hP : Kept P) (hls : ForallTokens P ls) :
    ForallValues P [c] := by
  cases h with
  | skip p => exact fun x hx => by simp at hx
  | value h => exact forallValues_singleton (h.forall_numbers hP hls)

theorem Separated.forall_numbers {cs : List Constant} (h : Separated Entry cs ls) (hP : Kept P)
    (hls : ForallTokens P ls) : ForallValues P cs := by
  induction h with
  | one h => exact h.forall_numbers hP hls
  | more p h hs ih =>
    obtain ⟨hitem, hrest⟩ := forallTokens_append.1 hls
    intro x hx
    rcases List.mem_cons.1 hx with rfl | hx
    · exact h.forall_numbers hP hitem x (by simp)
    · exact ih hrest.tail x hx

theorem Constants.forall_numbers {cs : List Constant} (h : Constants cs ls) (hP : Kept P) (hls : ForallTokens P ls) :
    ForallValues P cs := by
  cases h with
  | number h => exact forallValues_singleton (h.forall_numbers hP hls)
  | list h =>
    cases h with
    | intro p q h => exact h.forall_numbers hP (forallTokens_append.1 hls.tail).1

theorem Clause.forall_numbers {cs : List Constant} (h : Clause cs ls) (hP : Kept P) (hls : ForallTokens P ls) :
    ForallValues P cs := by
  cases h with
  | absent => exact forallValues_singleton hP.zero
  | plus p h => exact h.forall_numbers hP hls.tail
  | minus p h =>
    intro x hx
    obtain ⟨c, hc, hneg⟩ := List.mem_map.1 hx
    cases c with
    | skip => cases hneg
    | value y =>
      cases hneg
      exact hP.neg y (h.forall_numbers hP hls.tail y hc)

theorem Right.forall_numbers {t : RightTerm} (h : Right t ls) (hP : Kept P) (hls : ForallTokens P ls) :
    t.ForallNumbers P := by
  cases h with
  | plain h hc => exact ⟨hP.one, hc.forall_numbers hP (forallTokens_append.1 hls).2⟩
  | after p h hm hc =>
    obtain ⟨hmultiplier, hclause⟩ := forallTokens_append.1 (forallTokens_append.1 hls).2.tail
    exact ⟨hm.forall_numbers hP hmultiplier, hc.forall_numbers hP hclause⟩
  | before p q hm h hc =>
    obtain ⟨hmultiplier, hgroup⟩ := forallTokens_append.1 hls
    have hclause := (forallTokens_append.1 hgroup.tail).2.tail
    exact ⟨hm.forall_numbers hP hmultiplier, hc.forall_numbers hP hclause⟩
  | constant h => exact ⟨hP.one, h.forall_numbers hP hls⟩

/-- The numbers of an equation are those that are written, up to their sign, and where none is written `0` or `1`. -/
theorem Derives.forall_numbers {e : Equation} (h : Derives e ls) (hP : Kept P) (hls : ForallTokens P ls) :
    e.right.ForallNumbers P := by
  cases h with
  | intro p q h hne hp hr =>
    have hbehind := (forallTokens_append.1 hls).2.tail
    have hterm := (forallTokens_append.1 hbehind).2
    exact hr.forall_numbers hP (forallTokens_append.1 hterm).1

end Grammar

end LayoutEquations
