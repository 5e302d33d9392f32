import LayoutEquations.Compile
import LayoutEquations.Proofs.Grammar.Errors
import LayoutEquations.Proofs.Token.Lexing
import LayoutEquations.Proofs.Token.Tiling

/-!
# What parse errors point at

The offset of a parse error is that of a token. Either the lexemes in front of it can still be continued to a list that
is read (`FitsUpTo`), or it is a parenthesis without a partner (`Unpaired`). As the offsets of a text's lexemes
increase, the offset tells which lexemes are in front (`filter_pos`). A token that an error names is one of the lexemes
too (`found_of_ofLexemes`).
-/

namespace LayoutEquations

open Grammar

variable {ls xs rest : List Lexeme} {l : Lexeme} {p : Nat} {err : ParseError}

/-- There is a token at this offset, and the lexemes in front of it start a list that is read. -/
def FitsUpTo (ls : List Lexeme) (p : Nat) : Prop :=
  ∃ l ∈ ls, l.pos = p ∧ ∃ rest e, Equation.ofLexemes (ls.filter (·.pos < p) ++ rest) = .ok e

/-- The token at this offset is a `(` without a `)` for it behind, or a `)` without a `(` for it in front. -/
def Unpaired (ls : List Lexeme) (p : Nat) : Prop :=
  ∃ before l after, ls = before ++ l :: after ∧ l.pos = p ∧
    (l.token = .openParen ∧ Unclosed after ∨ l.token = .closeParen ∧ Unopened before)

/-- What the error says about its offset is so. -/
def ParseError.Justified (ls : List Lexeme) : ParseError → Prop
  | unbalancedParen p => Unpaired ls p
  | err => FitsUpTo ls err.pos

theorem filter_pos (h : (xs ++ l :: rest).Pairwise (·.pos < ·.pos)) :
    (xs ++ l :: rest).filter (·.pos < l.pos) = xs := by
  obtain ⟨-, hbehind, hfront⟩ := List.pairwise_append.1 h
  have hlow : xs.filter (·.pos < l.pos) = xs :=
    List.filter_eq_self.2 fun l' hl' => by simpa using hfront l' hl' l List.mem_cons_self
  have hhigh : (l :: rest).filter (·.pos < l.pos) = [] := by
    rw [List.filter_eq_nil_iff]
    intro l' hl'
    rcases List.mem_cons.1 hl' with rfl | hl'
    · simp
    · have := (List.pairwise_cons.1 hbehind).1 l' hl'
      simp
      omega
  rw [List.filter_append, hlow, hhigh, List.append_nil]

theorem fitsUpTo_of_viable {d : Cursor} (h : (d.prepend xs).lexemes.Pairwise (·.pos < ·.pos))
    (hxs : Viable (fun ls => ∃ e, Derives e ls) xs) : FitsUpTo (d.prepend xs).lexemes d.pos := by
  obtain ⟨rest, e, hderives⟩ := hxs
  rw [Cursor.lexemes_prepend] at h ⊢
  refine ⟨d.current, by simp [Cursor.lexemes], rfl, rest, e, ?_⟩
  have hfront : (xs ++ d.lexemes).filter (·.pos < d.pos) = xs := filter_pos h
  rw [hfront]
  exact ofLexemes_of_derives hderives

theorem justified_of_at {d : Cursor} (herr : d.At err) (h : FitsUpTo ls d.pos) : err.Justified ls := by
  cases herr with
  | expected wanted => exact h
  | multiplierAfterConstant => exact h
  | priorityOutOfRange x => exact h

/-- Reading fails with an error that the parser gives at the first lexeme: it blames a place, or a `)` behind a whole
equation. -/
theorem exists_blame (hends : EndsOnce ls) (h : Equation.ofLexemes ls = .error err) :
    ∃ c : Cursor, c.lexemes = ls ∧
      (Cursor.Blames (fun ls => ∃ e, Derives e ls) c err ∨
        ∃ (xs : List Lexeme) (p : Nat) (d : Cursor), c = d.prepend (xs ++ [⟨p, .closeParen⟩]) ∧ Balanced xs ∧
          err = .unbalancedParen p) := by
  obtain ⟨l, rest, rfl⟩ : ∃ l rest, ls = l :: rest := by
    obtain ⟨init, q, rfl, -⟩ := hends
    exact List.exists_cons_of_ne_nil (List.append_ne_nil_of_right_ne_nil _ (List.cons_ne_nil _ _))
  have hclosed : Cursor.Closed ⟨l, rest⟩ := hends
  exact ⟨⟨l, rest⟩, rfl, Cursor.equation_error hclosed h⟩

theorem justified_of_ofLexemes (hends : EndsOnce ls) (hpos : ls.Pairwise (·.pos < ·.pos))
    (h : Equation.ofLexemes ls = .error err) : err.Justified ls := by
  obtain ⟨c, rfl, hblames | ⟨xs, p, d, hd, hxs, rfl⟩⟩ := exists_blame hends h
  · cases hblames with
    | token xs hd hxs herr =>
      rw [hd] at hpos ⊢
      exact justified_of_at herr (fitsUpTo_of_viable hpos hxs)
    | @opened d xs p hd hlevel =>
      obtain ⟨ms, q, hms, hbalanced⟩ := hlevel
      refine ⟨xs, ⟨p, .openParen⟩, d.lexemes, ?_, rfl, .inl ⟨rfl, ?_⟩⟩
      · rw [hd, Cursor.lexemes_prepend, List.append_assoc, List.singleton_append]
      · rw [hms]
        exact hbalanced.unclosed
  · refine ⟨xs, ⟨p, .closeParen⟩, d.lexemes, ?_, rfl, .inr ⟨rfl, hxs.unopened⟩⟩
    rw [hd, Cursor.lexemes_prepend, List.append_assoc, List.singleton_append]

/-- The token that the error has found is one of the lexemes. -/
def ParseError.Found (ls : List Lexeme) : ParseError → Prop
  | expected _ found _ => ∃ l ∈ ls, l.token = found
  | _ => True

theorem found_of_at {d : Cursor} (herr : d.At err) (h : d.current ∈ ls) : err.Found ls := by
  cases herr with
  | expected wanted => exact ⟨d.current, h, rfl⟩
  | multiplierAfterConstant => trivial
  | priorityOutOfRange x => trivial

theorem found_of_ofLexemes (hends : EndsOnce ls) (h : Equation.ofLexemes ls = .error err) : err.Found ls := by
  obtain ⟨c, rfl, hblames | ⟨-, p, -, -, -, rfl⟩⟩ := exists_blame hends h
  · cases hblames with
    | @token d _ xs hd hxs herr =>
      refine found_of_at herr ?_
      rw [hd, Cursor.lexemes_prepend]
      exact List.mem_append_right _ List.mem_cons_self
    | opened xs p hd hlevel => trivial
  · trivial

/-- A text whose lexemes are no equation is rejected for a token that they contain: one in front of which they could
still be continued, or a parenthesis without a partner. -/
theorem ofText_error_justified {src : String} {err : CompileError} (hlex : lex src = .ok ls)
    (h : Equation.ofText src = .error err) : ∃ e, err = .parse e ∧ e.Justified ls := by
  rw [Equation.ofText, hlex, mapError_ok, ok_bind] at h
  cases hread : Equation.ofLexemes ls with
  | ok e =>
    rw [hread] at h
    cases h
  | error e =>
    rw [hread] at h
    cases h
    obtain ⟨tiles, htiles, htokens⟩ := tiles_of_lexFrom hlex
    have hpos := htiles.pairwise_pos
    rw [htokens] at hpos
    exact ⟨e, rfl, justified_of_ofLexemes (endsOnce_of_lex hlex) hpos hread⟩

theorem lex_eq_ok_of_parse_error {src : String} {e : ParseError} (h : Equation.ofText src = .error (.parse e)) :
    ∃ ls, lex src = .ok ls := by
  cases hlex : lex src with
  | ok ls => exact ⟨ls, rfl⟩
  | error e =>
    rw [Equation.ofText, hlex] at h
    cases h

/-- In `$a.top=($x)` the `$` does not fit, `$a.top=2($x.(top,left)` has a `(` too many and `$a.top=(1,-))` a `)`. -/
theorem ofText_error_justified_sample :
    (∃ ls, lex "$a.top=($x)" = .ok ls ∧
      Equation.ofText "$a.top=($x)" = .error (.parse (.expected .constantOrSkip .dollar 8)) ∧ FitsUpTo ls 8) ∧
    (∃ ls, lex "$a.top=2($x.(top,left)" = .ok ls ∧
      Equation.ofText "$a.top=2($x.(top,left)" = .error (.parse (.unbalancedParen 8)) ∧ Unpaired ls 8) ∧
    ∃ ls, lex "$a.top=(1,-))" = .ok ls ∧
      Equation.ofText "$a.top=(1,-))" = .error (.parse (.unbalancedParen 12)) ∧ Unpaired ls 12 := by
  have hfits : Equation.ofText "$a.top=($x)" = .error (.parse (.expected .constantOrSkip .dollar 8)) := by
    decide +kernel
  have hopen : Equation.ofText "$a.top=2($x.(top,left)" = .error (.parse (.unbalancedParen 8)) := by decide +kernel
  have hclose : Equation.ofText "$a.top=(1,-))" = .error (.parse (.unbalancedParen 12)) := by decide +kernel
  obtain ⟨fits, hfitsLex⟩ := lex_eq_ok_of_parse_error hfits
  obtain ⟨opened, hopenLex⟩ := lex_eq_ok_of_parse_error hopen
  obtain ⟨closed, hcloseLex⟩ := lex_eq_ok_of_parse_error hclose
  obtain ⟨e, he, hfitsUpTo⟩ := ofText_error_justified hfitsLex hfits
  cases he
  obtain ⟨e, he, hopenUnpaired⟩ := ofText_error_justified hopenLex hopen
  cases he
  obtain ⟨e, he, hcloseUnpaired⟩ := ofText_error_justified hcloseLex hclose
  cases he
  exact ⟨⟨fits, hfitsLex, hfits, hfitsUpTo⟩, ⟨opened, hopenLex, hopen, hopenUnpaired⟩,
    closed, hcloseLex, hclose, hcloseUnpaired⟩

end LayoutEquations
