import Mathlib.Tactic
import LayoutEquations.Equation.Parser
import LayoutEquations.Proofs.Grammar.Cursor
import LayoutEquations.Proofs.Results

/-!
# What is read is derived by the grammar

A reading function that ends at `c'` started at some `c'.prepend ls`, and the nonterminal derives what it read from
`ls`. The cursor has to be closed: at the end of a list without an end mark, the last lexeme can be read twice.
-/

namespace LayoutEquations.Cursor

open Grammar

theorem closeParen_sound {opened : Nat} {c c' : Cursor} (hc : c.Closed) (h : c.closeParen opened = .ok c') :
    ∃ q, c = c'.prepend [⟨q, .closeParen⟩] := by
  unfold closeParen at h
  split at h
  · next ht =>
    obtain ⟨p, d, rfl⟩ := hc.exists_prepend ht (by simp)
    cases h
    exact ⟨p, rfl⟩
  · cases h
  · cases h

theorem signedNumber?_sound {c c' : Cursor} {x : Number} (hc : c.Closed) (h : c.signedNumber? = some (x, c')) :
    ∃ ls, c = c'.prepend ls ∧ Signed x ls := by
  unfold signedNumber? at h
  split at h
  · next ht =>
    obtain ⟨p, d, rfl⟩ := hc.exists_prepend ht (by simp)
    cases h
    exact ⟨_, rfl, .plain p _⟩
  · next ht hnext =>
    obtain ⟨p, d, rfl⟩ := hc.exists_prepend ht (by simp)
    obtain ⟨q, d, rfl⟩ := hc.of_prepend.exists_prepend hnext (by simp)
    cases h
    exact ⟨_, rfl, .minus p q _⟩
  · next ht hnext =>
    obtain ⟨p, d, rfl⟩ := hc.exists_prepend ht (by simp)
    obtain ⟨q, d, rfl⟩ := hc.of_prepend.exists_prepend hnext (by simp)
    cases h
    exact ⟨_, rfl, .plus p q _⟩
  · cases h

theorem signedNumber_sound {wanted : Wanted} {c c' : Cursor} {x : Number} (hc : c.Closed)
    (h : c.signedNumber wanted = .ok (x, c')) : ∃ ls, c = c'.prepend ls ∧ Signed x ls := by
  unfold signedNumber at h
  split at h
  · next hr =>
    cases h
    exact signedNumber?_sound hc hr
  · cases h

/-! ## Operands -/

theorem attributeNames_sound {opened : Nat} {c c' : Cursor} {as : List AttributeName} (hc : c.Closed)
    (h : attributeNames opened c = .ok (as, c')) :
    ∃ ls q, c = c'.prepend (ls ++ [⟨q, .closeParen⟩]) ∧ Separated Keyword as ls := by
  fun_induction attributeNames opened c generalizing as c' with
  | case1 c word ht hword => cases h
  | case2 c word ht a hword hcomma ih =>
    obtain ⟨⟨as, d⟩, hnames, h⟩ := bind_eq_ok.1 h
    cases h
    obtain ⟨p, c, rfl⟩ := hc.exists_prepend ht (by simp)
    obtain ⟨q, c, rfl⟩ := hc.of_prepend.exists_prepend hcomma (by simp)
    simp only [advance_prepend, prepend_nil] at ih hnames
    obtain ⟨ls, r, rfl, hs⟩ := ih hc.of_prepend.of_prepend hnames
    exact ⟨⟨p, .identifier word⟩ :: ⟨q, .comma⟩ :: ls, r, rfl, .more q (.intro p hword) hs⟩
  | case3 c word ht a hword hcomma =>
    obtain ⟨d, hclose, h⟩ := bind_eq_ok.1 h
    cases h
    obtain ⟨p, c, rfl⟩ := hc.exists_prepend ht (by simp)
    obtain ⟨q, rfl⟩ := closeParen_sound hc.of_prepend hclose
    exact ⟨_, q, rfl, .one (.intro p hword)⟩
  | case4 c ht => cases h
  | case5 c hword ht => cases h

theorem attributeList_sound {c c' : Cursor} {as : List AttributeName} (hc : c.Closed) (ht : c.token = .openParen)
    (h : c.attributeList = .ok (as, c')) : ∃ ls, c = c'.prepend ls ∧ Parenthesized Keyword as ls := by
  obtain ⟨p, c, rfl⟩ := hc.exists_prepend ht (by simp)
  obtain ⟨ls, q, rfl, hs⟩ := attributeNames_sound hc.of_prepend h
  exact ⟨_, rfl, .intro p q hs⟩

theorem segments_sound {c c' : Cursor} {words : List String} {as : List AttributeName} (hc : c.Closed)
    (h : c.segments = .ok ((words, as), c')) :
    ∃ ls, c = c'.prepend ls ∧ Dotted words as ls ∧ (ls = [] → c'.token ≠ .dot) := by
  fun_induction segments c generalizing words as c' with
  | case1 c ht hnext =>
    obtain ⟨⟨as, d⟩, hlist, h⟩ := bind_eq_ok.1 h
    cases h
    obtain ⟨p, c, rfl⟩ := hc.exists_prepend ht (by simp)
    obtain ⟨ls, hd, hs⟩ := attributeList_sound hc.of_prepend hnext hlist
    obtain rfl : c = prepend ls _ := hd
    exact ⟨⟨p, .dot⟩ :: ls, rfl, .list p hs, by simp⟩
  | case2 c word ht hnext a hdot hword =>
    cases h
    obtain ⟨p, c, rfl⟩ := hc.exists_prepend ht (by simp)
    obtain ⟨q, c, rfl⟩ := hc.of_prepend.exists_prepend hnext (by simp)
    exact ⟨_, rfl, .single p q hword, by simp⟩
  | case3 c word ht hnext hword ih =>
    obtain ⟨⟨⟨words, as⟩, d⟩, hsegments, h⟩ := bind_eq_ok.1 h
    cases h
    obtain ⟨p, c, rfl⟩ := hc.exists_prepend ht (by simp)
    obtain ⟨q, c, rfl⟩ := hc.of_prepend.exists_prepend hnext (by simp)
    simp only [advance_prepend, prepend_nil] at ih hsegments hword
    obtain ⟨ls, rfl, hs, hend⟩ := ih hc.of_prepend.of_prepend hsegments
    refine ⟨⟨p, .dot⟩ :: ⟨q, .identifier word⟩ :: ls, rfl, .segment p q ?_ hs, by simp⟩
    -- an attribute name was kept as a segment because of the dot behind it
    cases hkeyword : AttributeName.ofWord? word with
    | none => exact Or.inl rfl
    | some a =>
      have hdot : (c'.prepend ls).token = .dot := by simpa using hword a hkeyword
      cases ls with
      | nil => exact absurd hdot (hend rfl)
      | cons l ls => exact Or.inr (congrArg some hdot)
  | case4 c ht hopen hword => cases h
  | case5 c ht hopen hword =>
    cases h
    exact ⟨[], rfl, .nothing, fun _ => ht⟩

theorem root_of_rootOf? {root : ViewRef} {t : Token} (h : rootOf? t = some root) : Root root t := by
  unfold rootOf? at h
  split at h
  · next word =>
    split_ifs at h with hself hall hreserved
    · cases h
      rw [hself]
      exact .self
    · cases h
      rw [hall]
      exact .all
    · cases h
      exact .name (by simpa using hreserved)
  · next x =>
    split at h
    · next n hn =>
      split_ifs at h with hle
      cases h
      exact .index hn hle
    · cases h
  · cases h

theorem Closed.exists_root {c : Cursor} {root : ViewRef} (hc : c.Closed) (h : rootOf? c.token = some root) :
    ∃ q t d, c = prepend [⟨q, t⟩] d ∧ Root root t := by
  have hne : c.token ≠ .eof := by
    intro ht
    rw [ht] at h
    cases h
  obtain ⟨q, d, hd⟩ := hc.exists_prepend rfl hne
  exact ⟨q, c.token, d, hd, root_of_rootOf? h⟩

theorem operand_sound {c c' : Cursor} {view : ViewPath} {as : List AttributeName} (hc : c.Closed)
    (ht : c.token = .dollar) (h : c.operand = .ok ((view, as), c')) :
    ∃ ls, c = c'.prepend ls ∧ Operand view as ls := by
  obtain ⟨p, c, rfl⟩ := hc.exists_prepend ht (by simp)
  unfold operand at h
  split at h
  · cases h
  · next root hroot =>
    obtain ⟨⟨⟨words, as⟩, d⟩, hsegments, h⟩ := bind_eq_ok.1 h
    cases h
    obtain ⟨q, t, c, rfl, hderived⟩ := hc.of_prepend.exists_root hroot
    obtain ⟨ls, hd, hs, -⟩ := segments_sound hc.of_prepend.of_prepend hsegments
    obtain rfl : c = prepend ls _ := hd
    exact ⟨_, rfl, .intro p q hderived hs⟩

/-! ## Priorities and constants -/

theorem range_of_priorityOf? {x : Number} {n : Nat} (h : priorityOf? x = some n) :
    x.toNat? = some n ∧ 1 ≤ n ∧ n ≤ requiredPriority := by
  unfold priorityOf? at h
  split at h
  · next hm =>
    split_ifs at h with hrange
    cases h
    exact ⟨hm, hrange⟩
  · cases h

theorem priority_sound {c c' : Cursor} {n : Nat} (hc : c.Closed) (h : c.priority = .ok (n, c')) :
    ∃ ls, c = c'.prepend ls ∧ Priority n ls := by
  unfold priority at h
  split at h
  · next ht hnext =>
    obtain ⟨⟨x, d⟩, hsigned, h⟩ := bind_eq_ok.1 h
    obtain ⟨p, c, rfl⟩ := hc.exists_prepend ht (by simp)
    obtain ⟨q, c, rfl⟩ := hc.of_prepend.exists_prepend hnext (by simp)
    obtain ⟨ls, hd, hs⟩ := signedNumber_sound hc.of_prepend.of_prepend hsigned
    obtain rfl : c = prepend ls _ := hd
    dsimp only at h
    split at h
    · cases h
    · next n hn =>
      obtain ⟨e, hclose, h⟩ := bind_eq_ok.1 h
      cases h
      obtain ⟨r, rfl⟩ := closeParen_sound hc.of_prepend.of_prepend.of_prepend hclose
      obtain ⟨hx, hrange⟩ := range_of_priorityOf? hn
      refine ⟨⟨p, .openParen⟩ :: ⟨q, .atSign⟩ :: (ls ++ [⟨r, .closeParen⟩]), ?_, .clause p q r hs hx hrange⟩
      rw [← List.cons_append, ← List.cons_append, prepend_append]
      rfl
  · cases h
    exact ⟨[], rfl, .absent⟩

theorem constantEntry?_sound {c c' : Cursor} {entry : Constant} (hc : c.Closed)
    (h : c.constantEntry? = some (entry, c')) : ∃ ls, c = c'.prepend ls ∧ Entry entry ls := by
  unfold constantEntry? at h
  split at h
  · next ht =>
    obtain ⟨p, c, rfl⟩ := hc.exists_prepend ht (by simp)
    cases h
    exact ⟨_, rfl, .skip p⟩
  · obtain ⟨⟨x, d⟩, hsigned, h⟩ := Option.map_eq_some_iff.1 h
    cases h
    obtain ⟨ls, rfl, hs⟩ := signedNumber?_sound hc hsigned
    exact ⟨ls, rfl, .value hs⟩

theorem constantEntries_sound {opened : Nat} {c c' : Cursor} {cs : List Constant} (hc : c.Closed)
    (h : constantEntries opened c = .ok (cs, c')) :
    ∃ ls q, c = c'.prepend (ls ++ [⟨q, .closeParen⟩]) ∧ Separated Entry cs ls := by
  fun_induction constantEntries opened c generalizing cs c' with
  | case1 c entry d hentry hcomma ih =>
    obtain ⟨⟨cs, e⟩, hentries, h⟩ := bind_eq_ok.1 h
    cases h
    obtain ⟨ls, rfl, hs⟩ := constantEntry?_sound hc hentry
    obtain ⟨p, d, rfl⟩ := hc.of_prepend.exists_prepend hcomma (by simp)
    simp only [advance_prepend, prepend_nil] at ih hentries
    obtain ⟨rest, q, rfl, hrest⟩ := ih hc.of_prepend.of_prepend hentries
    refine ⟨ls ++ ⟨p, .comma⟩ :: rest, q, ?_, .more p hs hrest⟩
    rw [List.append_assoc, prepend_append ls]
    rfl
  | case2 c entry d hentry hcomma =>
    obtain ⟨e, hclose, h⟩ := bind_eq_ok.1 h
    cases h
    obtain ⟨ls, rfl, hs⟩ := constantEntry?_sound hc hentry
    obtain ⟨q, rfl⟩ := closeParen_sound hc.of_prepend hclose
    exact ⟨ls, q, by rw [prepend_append], .one hs⟩
  | case3 c hentry ht => cases h
  | case4 c hentry ht => cases h

theorem constantList_sound {c c' : Cursor} {cs : List Constant} (hc : c.Closed) (ht : c.token = .openParen)
    (h : c.constantList = .ok (cs, c')) : ∃ ls, c = c'.prepend ls ∧ Parenthesized Entry cs ls := by
  obtain ⟨p, c, rfl⟩ := hc.exists_prepend ht (by simp)
  obtain ⟨ls, q, hd, hs⟩ := constantEntries_sound hc.of_prepend h
  obtain rfl : c = prepend (ls ++ [⟨q, .closeParen⟩]) _ := hd
  exact ⟨_, rfl, .intro p q hs⟩

theorem clauseConstants_sound {c c' : Cursor} {cs : List Constant} (hc : c.Closed)
    (h : c.clauseConstants = .ok (cs, c')) : ∃ ls, c = c'.prepend ls ∧ Constants cs ls := by
  unfold clauseConstants at h
  split at h
  · next ht =>
    obtain ⟨ls, rfl, hs⟩ := constantList_sound hc ht h
    exact ⟨ls, rfl, .list hs⟩
  · obtain ⟨⟨x, d⟩, hsigned, h⟩ := bind_eq_ok.1 h
    cases h
    obtain ⟨ls, rfl, hs⟩ := signedNumber_sound hc hsigned
    exact ⟨ls, rfl, .number hs⟩

theorem eq_of_endConstants {t t' : RightTerm} {c c' : Cursor} (h : endConstants t c = .ok (t', c')) :
    t' = t ∧ c' = c := by
  unfold endConstants at h
  split at h
  · cases h
  · cases h
    exact ⟨rfl, rfl⟩

theorem constantClause_sound {t t' : RightTerm} {c c' : Cursor} (hc : c.Closed) (ht : t.constants = [.value .zero])
    (h : constantClause t c = .ok (t', c')) :
    ∃ cs ls, c = c'.prepend ls ∧ Clause cs ls ∧ t' = { t with constants := cs } := by
  unfold constantClause at h
  split at h
  · next hplus =>
    obtain ⟨p, c, rfl⟩ := hc.exists_prepend hplus (by simp)
    obtain ⟨⟨cs, d⟩, hconstants, h⟩ := bind_eq_ok.1 h
    obtain ⟨rfl, rfl⟩ := eq_of_endConstants h
    obtain ⟨ls, hd, hs⟩ := clauseConstants_sound hc.of_prepend hconstants
    obtain rfl : c = prepend ls _ := hd
    exact ⟨cs, ⟨p, .plus⟩ :: ls, rfl, .plus p hs, rfl⟩
  · next hminus =>
    obtain ⟨p, c, rfl⟩ := hc.exists_prepend hminus (by simp)
    obtain ⟨⟨cs, d⟩, hconstants, h⟩ := bind_eq_ok.1 h
    obtain ⟨rfl, rfl⟩ := eq_of_endConstants h
    obtain ⟨ls, hd, hs⟩ := clauseConstants_sound hc.of_prepend hconstants
    obtain rfl : c = prepend ls _ := hd
    exact ⟨cs.map Constant.neg, ⟨p, .minus⟩ :: ls, rfl, .minus p hs, rfl⟩
  · cases h
  · cases h
    exact ⟨[.value .zero], [], rfl, .absent, by rw [← ht]⟩

/-! ## Right sides and equations -/

theorem viewTerm_sound {c c' : Cursor} {t : RightTerm} (hc : c.Closed) (ht : c.token = .dollar)
    (h : c.viewTerm = .ok (t, c')) : ∃ ls, c = c'.prepend ls ∧ Right t ls := by
  obtain ⟨⟨⟨view, attributes⟩, d⟩, hoperand, htail⟩ := bind_eq_ok.1 h
  obtain ⟨ls, rfl, hs⟩ := operand_sound hc ht hoperand
  dsimp only at htail
  split at htail
  · next hstar =>
    obtain ⟨p, d, rfl⟩ := hc.of_prepend.exists_prepend hstar (by simp)
    obtain ⟨⟨multiplier, e⟩, hsigned, hend⟩ := bind_eq_ok.1 htail
    obtain ⟨ms, hd, hm⟩ := signedNumber_sound hc.of_prepend.of_prepend hsigned
    obtain rfl : d = prepend ms e := hd
    obtain ⟨cs, rest, rfl, hclause, rfl⟩ := constantClause_sound hc.of_prepend.of_prepend.of_prepend rfl hend
    refine ⟨ls ++ ⟨p, .star⟩ :: (ms ++ rest), ?_, .after p hs hm hclause⟩
    rw [← List.cons_append, prepend_append, prepend_append]
    rfl
  · obtain ⟨cs, rest, rfl, hclause, rfl⟩ := constantClause_sound hc.of_prepend rfl htail
    exact ⟨ls ++ rest, by rw [prepend_append], .plain hs hclause⟩

theorem scaledTerm_sound {c c' : Cursor} {x : Number} {t : RightTerm} {ms : List Lexeme} (hm : Signed x ms)
    (hc : c.Closed) (ht : c.token = .openParen) (h : c.scaledTerm x = .ok (t, c')) :
    ∃ ls, c = c'.prepend ls ∧ Right t (ms ++ ls) := by
  obtain ⟨p, c, rfl⟩ := hc.exists_prepend ht (by simp)
  unfold scaledTerm at h
  split at h
  · next hdollar =>
    obtain ⟨⟨⟨view, attributes⟩, d⟩, hoperand, h⟩ := bind_eq_ok.1 h
    obtain ⟨ls, hd, hs⟩ := operand_sound hc.of_prepend hdollar hoperand
    obtain rfl : c = prepend ls d := hd
    obtain ⟨e, hclose, h⟩ := bind_eq_ok.1 h
    obtain ⟨q, rfl⟩ := closeParen_sound hc.of_prepend.of_prepend hclose
    obtain ⟨cs, rest, rfl, hclause, rfl⟩ := constantClause_sound hc.of_prepend.of_prepend.of_prepend rfl h
    refine ⟨⟨p, .openParen⟩ :: (ls ++ ⟨q, .closeParen⟩ :: rest), ?_, .before p q hm hs hclause⟩
    rw [← List.cons_append, prepend_append]
    rfl
  · cases h

theorem rightTerm_sound {c c' : Cursor} {t : RightTerm} (hc : c.Closed) (h : c.rightTerm = .ok (t, c')) :
    ∃ ls, c = c'.prepend ls ∧ Right t ls := by
  unfold rightTerm at h
  split at h
  · next ht => exact viewTerm_sound hc ht h
  · next x d hsigned _ =>
    obtain ⟨ms, rfl, hm⟩ := signedNumber?_sound hc hsigned
    split at h
    · next hopen =>
      obtain ⟨ls, rfl, hs⟩ := scaledTerm_sound hm hc.of_prepend hopen h
      exact ⟨ms ++ ls, by rw [prepend_append], hs⟩
    · obtain ⟨rfl, rfl⟩ := eq_of_endConstants h
      exact ⟨ms, rfl, .constant (.number hm)⟩
  · next ht _ =>
    obtain ⟨⟨constants, d⟩, hlist, h⟩ := bind_eq_ok.1 h
    obtain ⟨rfl, rfl⟩ := eq_of_endConstants h
    obtain ⟨ls, rfl, hs⟩ := constantList_sound hc ht hlist
    exact ⟨ls, rfl, .constant (.list hs)⟩
  · cases h

theorem leftTerm_sound {c c' : Cursor} {left : LeftTerm} (hc : c.Closed) (h : c.leftTerm = .ok (left, c')) :
    ∃ ls, c = c'.prepend ls ∧ Operand left.view left.attributes ls ∧ left.attributes ≠ [] := by
  unfold leftTerm at h
  split at h
  · next ht =>
    obtain ⟨⟨⟨view, as⟩, d⟩, hoperand, h⟩ := bind_eq_ok.1 h
    dsimp only at h
    split_ifs at h with hne
    cases h
    obtain ⟨ls, rfl, hs⟩ := operand_sound hc ht hoperand
    exact ⟨ls, rfl, hs, hne⟩
  · cases h

theorem relation_sound {c c' : Cursor} {r : Relation} (hc : c.Closed) (h : c.relation = .ok (r, c')) :
    ∃ p, c = c'.prepend [⟨p, .relation r⟩] := by
  unfold relation at h
  split at h
  · next ht =>
    obtain ⟨p, d, rfl⟩ := hc.exists_prepend ht (by simp)
    cases h
    exact ⟨p, rfl⟩
  · cases h
  · cases h

theorem endEquation_sound {c : Cursor} (hc : c.Closed) (h : c.endEquation = .ok ()) : ∃ p, c.lexemes = [⟨p, .eof⟩] := by
  unfold endEquation at h
  split at h
  · next ht =>
    obtain ⟨p, rfl⟩ := hc.eq_eof ht
    exact ⟨p, rfl⟩
  · cases h
  · cases h

theorem equation_sound {c : Cursor} {e : Equation} (hc : c.Closed) (h : c.equation = .ok e) : Derives e c.lexemes := by
  obtain ⟨⟨⟨view, attributes⟩, c₁⟩, hleft, h₁⟩ := bind_eq_ok.1 h
  obtain ⟨⟨r, c₂⟩, hrelation, h₂⟩ := bind_eq_ok.1 h₁
  obtain ⟨⟨priority, c₃⟩, hpriority, h₃⟩ := bind_eq_ok.1 h₂
  obtain ⟨⟨right, c₄⟩, hright, h₄⟩ := bind_eq_ok.1 h₃
  obtain ⟨⟨⟩, hend, he⟩ := bind_eq_ok.1 h₄
  obtain ⟨ls, rfl, hs, hne⟩ := leftTerm_sound hc hleft
  obtain ⟨p, rfl⟩ := relation_sound hc.of_prepend hrelation
  obtain ⟨ps, rfl, hp⟩ := priority_sound hc.of_prepend.of_prepend hpriority
  obtain ⟨rs, rfl, hr⟩ := rightTerm_sound hc.of_prepend.of_prepend.of_prepend hright
  obtain ⟨q, hq⟩ := endEquation_sound hc.of_prepend.of_prepend.of_prepend.of_prepend hend
  cases he
  simp only [lexemes_prepend, hq]
  exact .intro p q hs hne hp hr

end LayoutEquations.Cursor

namespace LayoutEquations

/-- Every list that is read is derived by the grammar. -/
theorem derives_of_ofLexemes {e : Equation} {ls : List Lexeme} (hls : Grammar.EndsOnce ls)
    (h : Equation.ofLexemes ls = .ok e) : Grammar.Derives e ls := by
  cases ls with
  | nil => cases h
  | cons l ls => exact Cursor.equation_sound (c := ⟨l, ls⟩) hls h

end LayoutEquations
