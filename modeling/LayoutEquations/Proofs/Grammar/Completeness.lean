import Mathlib.Tactic
import LayoutEquations.Equation.Parser
import LayoutEquations.Proofs.Grammar.Cursor
import LayoutEquations.Proofs.Results

/-!
# What the grammar derives is read

Each reading function, started in front of lexemes that its nonterminal derives, gives what they spell and ends
behind them. A nonterminal with an optional end needs to know that what follows does not go on with it: no dot after
an operand, no sign and no `*` after a right side.
-/

namespace LayoutEquations.Cursor

open Grammar

theorem signedNumber?_prepend {x : Number} {ls : List Lexeme} (h : Signed x ls) (c : Cursor) :
    (c.prepend ls).signedNumber? = some (x, c) := by
  cases h <;> rfl

theorem signedNumber_prepend {x : Number} {ls : List Lexeme} (h : Signed x ls) (wanted : Wanted) (c : Cursor) :
    (c.prepend ls).signedNumber wanted = .ok (x, c) := by
  rw [signedNumber, signedNumber?_prepend h]

/-! ## Operands -/

theorem attributeNames_prepend {as : List AttributeName} {ls : List Lexeme} (h : Separated Keyword as ls)
    (opened q : Nat) (c : Cursor) :
    attributeNames opened (c.prepend (ls ++ [⟨q, .closeParen⟩])) = .ok (as, c) := by
  induction h with
  | one h =>
    obtain ⟨p, hword⟩ := h
    rw [attributeNames]
    simp [hword, closeParen]
  | more p h _ ih =>
    obtain ⟨p', hword⟩ := h
    rw [attributeNames]
    simp [hword] at ih ⊢
    simp [ih]

theorem attributeList_prepend {as : List AttributeName} {ls : List Lexeme} (h : Parenthesized Keyword as ls)
    (c : Cursor) : (c.prepend ls).attributeList = .ok (as, c) := by
  obtain ⟨p, q, h⟩ := h
  exact attributeNames_prepend h p q c

theorem segments_prepend {words : List String} {as : List AttributeName} {ls : List Lexeme}
    (h : Dotted words as ls) {c : Cursor} (hc : c.token ≠ .dot) :
    (c.prepend ls).segments = .ok ((words, as), c) := by
  induction h with
  | nothing =>
    rw [segments]
    split
    · next h _ => exact absurd h hc
    · next h _ => exact absurd h hc
    · next h _ _ => exact absurd h hc
    · rfl
  | single p q hword =>
    have hdot : (c.token == .dot) = false := beq_eq_false_iff_ne.2 hc
    rw [segments]
    simp [hword, hdot]
  | list p h =>
    have hlist := attributeList_prepend h c
    obtain ⟨p', q', h⟩ := h
    rw [segments]
    simp [hlist]
  | @segment word words as ls p q hword h ih =>
    rw [segments]
    simp only [token_prepend, advance_prepend]
    split
    · next a hkeyword hdot =>
      rcases hword with hnone | hnext
      · rw [hnone] at hkeyword
        cases hkeyword
      · cases ls with
        | nil => cases hnext
        | cons l ls =>
          rw [token_prepend, Option.some.inj hnext] at hdot
          cases hdot
    · simp [ih]

theorem rootOf?_of_root {root : ViewRef} {t : Token} (h : Root root t) : rootOf? t = some root := by
  cases h with
  | self => rfl
  | all => rfl
  | @name word h =>
    have hself : word ≠ "self" := by
      rintro rfl
      cases h
    have hall : word ≠ "all" := by
      rintro rfl
      cases h
    simp [rootOf?, hself, hall, h]
  | index hx hn => simp [rootOf?, hx, maxIndex, hn]

theorem operand_prepend {view : ViewPath} {as : List AttributeName} {ls : List Lexeme} (h : Operand view as ls)
    {c : Cursor} (hc : c.token ≠ .dot) : (c.prepend ls).operand = .ok ((view, as), c) := by
  obtain ⟨p, q, hroot, h⟩ := h
  simp [operand, rootOf?_of_root hroot, segments_prepend h hc]

theorem token_prepend_operand {view : ViewPath} {as : List AttributeName} {ls : List Lexeme} (h : Operand view as ls)
    (c : Cursor) : (c.prepend ls).token = .dollar := by
  obtain ⟨p, q, hroot, h⟩ := h
  rfl

/-! ## Priorities and constants -/

theorem priority_prepend {n : Nat} {ls : List Lexeme} (h : Priority n ls) {c : Cursor}
    (hc : ¬ (c.token = .openParen ∧ c.advance.token = .atSign)) : (c.prepend ls).priority = .ok (n, c) := by
  cases h with
  | absent =>
    rw [prepend_nil, priority]
    split
    · next h h' => exact absurd ⟨h, h'⟩ hc
    · rfl
  | clause p q r h hx hn =>
    simp [priority, signedNumber_prepend h, priorityOf?, hx, hn, requiredPriority, closeParen]

theorem constantEntry?_prepend {entry : Constant} {ls : List Lexeme} (h : Entry entry ls) (c : Cursor) :
    constantEntry? (c.prepend ls) = some (entry, c) := by
  cases h with
  | skip p => rfl
  | value h =>
    cases h <;> rfl

theorem constantEntries_prepend {cs : List Constant} {ls : List Lexeme} (h : Separated Entry cs ls)
    (opened q : Nat) (c : Cursor) :
    constantEntries opened (c.prepend (ls ++ [⟨q, .closeParen⟩])) = .ok (cs, c) := by
  induction h with
  | one h =>
    rw [constantEntries]
    split
    · next entry c' hentry =>
      rw [prepend_append, constantEntry?_prepend h] at hentry
      cases hentry
      simp [closeParen]
    · next hentry =>
      rw [prepend_append, constantEntry?_prepend h] at hentry
      cases hentry
  | more p h _ ih =>
    rw [constantEntries]
    split
    · next entry c' hentry =>
      rw [List.append_assoc, prepend_append, constantEntry?_prepend h] at hentry
      cases hentry
      simp at ih ⊢
      simp [ih]
    · next hentry =>
      rw [List.append_assoc, prepend_append, constantEntry?_prepend h] at hentry
      cases hentry

theorem constantList_prepend {cs : List Constant} {ls : List Lexeme} (h : Parenthesized Entry cs ls) (c : Cursor) :
    (c.prepend ls).constantList = .ok (cs, c) := by
  obtain ⟨p, q, h⟩ := h
  exact constantEntries_prepend h p q c

theorem clauseConstants_prepend {cs : List Constant} {ls : List Lexeme} (h : Constants cs ls) (c : Cursor) :
    (c.prepend ls).clauseConstants = .ok (cs, c) := by
  cases h with
  | number h =>
    have hnumber := signedNumber_prepend h .constant c
    unfold clauseConstants
    split
    · cases h <;> simp_all
    · simp [hnumber]
  | list h =>
    have hlist := constantList_prepend h c
    obtain ⟨p, q, h⟩ := h
    exact hlist

theorem constantClause_prepend {cs : List Constant} {ls : List Lexeme} (h : Clause cs ls) {c : Cursor}
    (hc : c.token = .eof) (t : RightTerm) (ht : t.constants = [.value .zero]) :
    constantClause t (c.prepend ls) = .ok ({ t with constants := cs }, c) := by
  cases h with
  | absent => simp [constantClause, hc, ← ht]
  | plus p h => simp [constantClause, clauseConstants_prepend h, endConstants, hc]
  | minus p h => simp [constantClause, clauseConstants_prepend h, endConstants, hc]

theorem token_prepend_clause {cs : List Constant} {ls : List Lexeme} (h : Clause cs ls) {c : Cursor}
    (hc : c.token = .eof) : (c.prepend ls).token ≠ .dot ∧ (c.prepend ls).token ≠ .star := by
  cases h <;> simp [hc]

/-! ## Right sides and equations -/

theorem viewTerm_plain {view : ViewPath} {attributes : List AttributeName} {constants : List Constant}
    {ls rest : List Lexeme} (h : Operand view attributes ls) (hclause : Clause constants rest) {c : Cursor}
    (hc : c.token = .eof) :
    viewTerm (c.prepend (ls ++ rest)) = .ok ({ view := some view, attributes, constants }, c) := by
  obtain ⟨hdot, hstar⟩ := token_prepend_clause hclause hc
  rw [viewTerm, prepend_append, operand_prepend h hdot, ok_bind]
  dsimp only
  split
  · next h => exact absurd h hstar
  · exact constantClause_prepend hclause hc _ rfl

theorem viewTerm_after {view : ViewPath} {attributes : List AttributeName} {multiplier : Number}
    {constants : List Constant} {ls ms rest : List Lexeme} (p : Nat) (h : Operand view attributes ls)
    (hm : Signed multiplier ms) (hclause : Clause constants rest) {c : Cursor} (hc : c.token = .eof) :
    viewTerm (c.prepend (ls ++ ⟨p, .star⟩ :: (ms ++ rest))) =
      .ok ({ view := some view, attributes, multiplierPosition := .after, multiplier, constants }, c) := by
  have hdot : (c.prepend (⟨p, .star⟩ :: (ms ++ rest))).token ≠ .dot := by simp
  rw [viewTerm, prepend_append, operand_prepend h hdot, ok_bind]
  simp only [token_prepend, advance_prepend, prepend_append, signedNumber_prepend hm, ok_bind]
  exact constantClause_prepend hclause hc _ rfl

theorem scaledTerm_before {view : ViewPath} {attributes : List AttributeName} {constants : List Constant}
    {ls rest : List Lexeme} (p q : Nat) (h : Operand view attributes ls) (hclause : Clause constants rest) {c : Cursor}
    (hc : c.token = .eof) (multiplier : Number) :
    scaledTerm multiplier (c.prepend (⟨p, .openParen⟩ :: (ls ++ ⟨q, .closeParen⟩ :: rest))) =
      .ok ({ view := some view, attributes, multiplierPosition := .before, multiplier, constants }, c) := by
  have hdot : (c.prepend (⟨q, .closeParen⟩ :: rest)).token ≠ .dot := by simp
  rw [scaledTerm, advance_prepend, prepend_append, token_prepend_operand h]
  dsimp only
  rw [operand_prepend h hdot, ok_bind]
  simp only [closeParen, token_prepend, advance_prepend, ok_bind]
  exact constantClause_prepend hclause hc _ rfl

theorem rightTerm_of_signedNumber? {c c' : Cursor} {x : Number} (h : c.signedNumber? = some (x, c')) :
    c.rightTerm = match c'.token with
      | .openParen => c'.scaledTerm x
      | _ => endConstants { view := none, attributes := [], constants := [.value x] } c' := by
  rw [rightTerm, h]
  split
  · next hdollar =>
    simp [signedNumber?, hdollar] at h
  · next hsigned _ =>
    cases hsigned
    rfl
  · next hsigned => cases hsigned
  · next hsigned _ _ => cases hsigned

theorem rightTerm_prepend {t : RightTerm} {ls : List Lexeme} (h : Right t ls) {c : Cursor} (hc : c.token = .eof) :
    (c.prepend ls).rightTerm = .ok (t, c) := by
  cases h with
  | plain h hclause =>
    rw [rightTerm, prepend_append, token_prepend_operand h]
    dsimp only
    rw [← prepend_append]
    exact viewTerm_plain h hclause hc
  | after p h hm hclause =>
    rw [rightTerm, prepend_append, token_prepend_operand h]
    dsimp only
    rw [← prepend_append]
    exact viewTerm_after p h hm hclause hc
  | before p q hm h hclause =>
    rw [prepend_append, rightTerm_of_signedNumber? (signedNumber?_prepend hm _)]
    exact scaledTerm_before p q h hclause hc _
  | constant h =>
    cases h with
    | number h =>
      rw [rightTerm_of_signedNumber? (signedNumber?_prepend h _)]
      simp [hc, endConstants]
    | list h =>
      have hlist := constantList_prepend h c
      obtain ⟨p, q, h⟩ := h
      simp only [rightTerm, token_prepend, signedNumber?, hlist, ok_bind, endConstants, hc]

theorem token_prepend_right {t : RightTerm} {ls : List Lexeme} (h : Right t ls) (c : Cursor) :
    ¬ ((c.prepend ls).token = .openParen ∧ (c.prepend ls).advance.token = .atSign) := by
  rintro ⟨hopen, hat⟩
  cases h with
  | plain h _ =>
    rw [prepend_append, token_prepend_operand h] at hopen
    cases hopen
  | after p h _ _ =>
    rw [prepend_append, token_prepend_operand h] at hopen
    cases hopen
  | before p q hm _ _ => cases hm <;> cases hopen
  | constant h =>
    cases h with
    | number h => cases h <;> cases hopen
    | list h =>
      obtain ⟨p, q, h⟩ := h
      cases h with
      | one h =>
        cases h with
        | skip p => cases hat
        | value h => cases h <;> cases hat
      | more p h _ =>
        cases h with
        | skip p => cases hat
        | value h => cases h <;> cases hat

theorem leftTerm_prepend {view : ViewPath} {attributes : List AttributeName} {ls : List Lexeme}
    (h : Operand view attributes ls) (hne : attributes ≠ []) {c : Cursor} (hc : c.token ≠ .dot) :
    (c.prepend ls).leftTerm = .ok (⟨view, attributes⟩, c) := by
  rw [leftTerm, token_prepend_operand h]
  dsimp only
  rw [operand_prepend h hc, ok_bind]
  exact if_neg hne

theorem equation_prepend {e : Equation} {ls : List Lexeme} (h : Derives e ls) :
    ∃ c : Cursor, c.lexemes = ls ∧ c.equation = .ok e := by
  cases h with
  | @intro view attributes r priority right ls ps rs p q h hne hp hr =>
    let atEnd : Cursor := ⟨⟨q, .eof⟩, []⟩
    refine ⟨(((atEnd.prepend rs).prepend ps).prepend [⟨p, .relation r⟩]).prepend ls, ?_, ?_⟩
    · simp only [lexemes_prepend]
      rfl
    · rw [equation, leftTerm_prepend h hne (by simp), ok_bind]
      simp only [relation, token_prepend, advance_prepend, prepend_nil, ok_bind]
      rw [priority_prepend hp (token_prepend_right hr _), ok_bind]
      dsimp only
      rw [rightTerm_prepend hr rfl, ok_bind]
      rfl

end LayoutEquations.Cursor

namespace LayoutEquations

/-- Every list that the grammar derives is read. -/
theorem ofLexemes_of_derives {e : Equation} {ls : List Lexeme} (h : Grammar.Derives e ls) :
    Equation.ofLexemes ls = .ok e := by
  obtain ⟨c, hls, he⟩ := Cursor.equation_prepend h
  rw [← hls]
  exact he

end LayoutEquations
