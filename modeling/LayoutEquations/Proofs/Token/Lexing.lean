import LayoutEquations.Proofs.Grammar
import LayoutEquations.Proofs.Results
import LayoutEquations.Token.Lexer

/-!
# What the lexer gives

The lexemes of a text end with their only end mark (`endsOnce_of_lex`), each word among them is an identifier
(`isIdentifier_of_lex`), and each number is that of a numeral, so none is NaN (`ne_nan_of_lex`).
-/

namespace LayoutEquations

/-- A token that stands for characters; words are identifiers, and numbers those of numerals. -/
def Token.Written : Token → Prop
  | identifier word => isIdentifier word = true
  | number x => ∃ (n : Numeral) (negative : Bool), x = n.value negative
  | eof => False
  | _ => True

theorem written_symbol {c : Char} {cs : List Char} {t : Token} (h : symbolToken? c cs = some t) : t.Written := by
  unfold symbolToken? at h
  split at h
  case h_10 =>
    split at h <;> cases h <;> trivial
  case h_11 => cases h
  all_goals
    cases h
    trivial

theorem written_nextToken? {previous : Option Token} {c : Char} {cs : List Char} {t : Token} {more : Nat}
    (h : nextToken? previous c cs = some (t, more)) : t.Written := by
  unfold nextToken? at h
  split at h
  · cases h
    exact ⟨_, _, rfl⟩
  · split at h
    · cases h
      exact ⟨_, _, rfl⟩
    · split at h
      · next hsymbol =>
        cases h
        exact written_symbol hsymbol
      · split at h
        · cases h
          trivial
        · split at h
          · next hc =>
            cases h
            show isIdentifier _ = true
            simp [isIdentifier, hc, List.all_takeWhile]
          · cases h

theorem written_lexFrom {previous : Option Token} {pos : Nat} {cs : List Char} {ls : List Lexeme}
    (h : lexFrom previous pos cs = .ok ls) : ∃ init p, ls = init ++ [⟨p, .eof⟩] ∧ ∀ l ∈ init, l.token.Written := by
  fun_induction lexFrom previous pos cs generalizing ls with
  | case1 previous pos =>
    cases h
    exact ⟨[], pos, rfl, fun l hl => by cases hl⟩
  | case2 previous pos c rest hc ih => exact ih h
  | case3 previous pos c rest hc hnext => cases h
  | case4 previous pos c rest hc token more hnext ih =>
    obtain ⟨ls', hls', hls⟩ := bind_eq_ok.1 h
    cases hls
    obtain ⟨init, p, rfl, hinit⟩ := ih hls'
    refine ⟨⟨pos, token⟩ :: init, p, rfl, fun l hl => ?_⟩
    rcases List.mem_cons.1 hl with rfl | hl
    · exact written_nextToken? hnext
    · exact hinit l hl

theorem endsOnce_of_lex {src : String} {ls : List Lexeme} (h : lex src = .ok ls) : Grammar.EndsOnce ls := by
  obtain ⟨init, p, hls, hinit⟩ := written_lexFrom h
  refine ⟨init, p, hls, fun l hl heof => ?_⟩
  have := hinit l hl
  rw [heof] at this
  exact this

theorem ne_nil_of_lex {src : String} {ls : List Lexeme} (h : lex src = .ok ls) : ls ≠ [] := by
  obtain ⟨init, p, rfl, -⟩ := endsOnce_of_lex h
  exact List.append_ne_nil_of_right_ne_nil _ (List.cons_ne_nil _ _)

theorem isIdentifier_of_lex {src : String} {ls : List Lexeme} (h : lex src = .ok ls) {pos : Nat} {word : String}
    (hl : ⟨pos, .identifier word⟩ ∈ ls) : isIdentifier word = true := by
  obtain ⟨init, p, rfl, hinit⟩ := written_lexFrom h
  rcases List.mem_append.1 hl with hl | hl
  · exact hinit _ hl
  · cases List.mem_singleton.1 hl

theorem Number.ofDecimal_ne_nan (negative : Bool) (d : Decimal) : Number.ofDecimal negative d ≠ .nan := by
  unfold ofDecimal ofRank
  split <;> simp

theorem ne_nan_of_lex {src : String} {ls : List Lexeme} (h : lex src = .ok ls) {l : Lexeme} (hl : l ∈ ls) {x : Number}
    (hx : l.token = .number x) : x ≠ .nan := by
  obtain ⟨init, p, rfl, hinit⟩ := written_lexFrom h
  rcases List.mem_append.1 hl with hl | hl
  · have hwritten := hinit l hl
    rw [hx] at hwritten
    obtain ⟨n, negative, rfl⟩ := hwritten
    exact Number.ofDecimal_ne_nan negative n.decimal
  · obtain rfl := List.mem_singleton.1 hl
    cases hx

end LayoutEquations
