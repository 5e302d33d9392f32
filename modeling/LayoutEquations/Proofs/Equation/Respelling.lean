import LayoutEquations.Proofs.Equation.Signs
import LayoutEquations.Proofs.Token.Pieces

/-!
# Other spellings of an equation

A multiplier is written in front of its operand, `2($x)`, or behind it, `$x * 2`, and a constant is subtracted or its
opposite added. The texts differ in where their pieces stand, so in what stands before each of them. That counts for the
sign of a multiplier alone: behind a priority clause it is a token of its own, and behind `*` it is part of a number
written against it. The number is the same (`Signed.exists_lexed`), and the other pieces keep their tokens.
-/

namespace LayoutEquations

namespace Grammar

/-! ## Parts of an equation -/

/-- `operand relation priority`, with at least one attribute: what stands in front of a right side. -/
inductive Heading : LeftTerm → Relation → Nat → List Lexeme → Prop
  | intro {view : ViewPath} {attributes : List AttributeName} {r : Relation} {priority : Nat} {ls ps : List Lexeme}
      (p : Nat) (h : Operand view attributes ls) (hne : attributes ≠ []) (hp : Priority priority ps) :
      Heading ⟨view, attributes⟩ r priority (ls ++ ⟨p, .relation r⟩ :: ps)

/-- `operand ('*' number)? | number '(' operand ')'`, a right side with a view up to its clause. -/
inductive ViewTerm : RightTerm → List Lexeme → Prop
  | plain {view : ViewPath} {attributes : List AttributeName} {ls : List Lexeme} (h : Operand view attributes ls) :
      ViewTerm { view, attributes } ls
  | after {view : ViewPath} {attributes : List AttributeName} {multiplier : Number} {ls ms : List Lexeme} (p : Nat)
      (h : Operand view attributes ls) (hm : Signed multiplier ms) :
      ViewTerm { view, attributes, multiplierPosition := .after, multiplier } (ls ++ ⟨p, .star⟩ :: ms)
  | before {view : ViewPath} {attributes : List AttributeName} {multiplier : Number} {ls ms : List Lexeme} (p q : Nat)
      (hm : Signed multiplier ms) (h : Operand view attributes ls) :
      ViewTerm { view, attributes, multiplierPosition := .before, multiplier }
        (ms ++ ⟨p, .openParen⟩ :: (ls ++ [⟨q, .closeParen⟩]))

variable {before : List Token} {ls rs ts : List Lexeme} {left : LeftTerm} {r : Relation} {priority : Nat}
  {t : RightTerm} {view : ViewPath} {attributes : List AttributeName} {x : Number}

theorem derives_of_heading (h : Heading left r priority ls) (hr : Right t rs) (q : Nat) :
    Derives ⟨left, r, priority, t⟩ (ls ++ (rs ++ [⟨q, .eof⟩])) := by
  cases h with
  | intro p h hne hp =>
    rw [List.append_assoc]
    exact .intro p q h hne hp hr

theorem Derives.exists_heading {e : Equation} (h : Derives e ls) :
    ∃ hs rs q, ls = hs ++ (rs ++ [⟨q, .eof⟩]) ∧ Heading e.left e.relation e.priority hs ∧ Right e.right rs := by
  cases h with
  | intro p q h hne hp hr =>
    refine ⟨_, _, q, ?_, .intro p h hne hp, hr⟩
    rw [List.append_assoc, List.cons_append]

theorem ViewTerm.right {constants : List Constant} {cs : List Lexeme} (h : ViewTerm t ts) (hc : Clause constants cs) :
    Right { t with constants } (ts ++ cs) := by
  cases h with
  | plain h => exact .plain h hc
  | after p h hm =>
    rw [List.append_assoc]
    exact .after p h hm hc
  | before p q hm h =>
    simp only [List.append_assoc, List.cons_append, List.nil_append]
    exact .before p q hm h hc

/-! ## Where parts end -/

theorem Operand.ne_nil (h : Operand view attributes ls) : ls ≠ [] := by
  cases h
  exact List.cons_ne_nil _ _

theorem Operand.settled (h : Operand view attributes ls) : Settled ls := by
  have hall : ∀ l ∈ ls, l.token ≠ .minus ∧ l.token ≠ .dash := by
    cases h with
    | intro p q hroot h =>
      rw [List.forall_mem_cons, List.forall_mem_cons]
      refine ⟨⟨nofun, nofun⟩, by cases hroot <;> exact ⟨nofun, nofun⟩, fun l hl => ?_⟩
      have hplain := h.plain l hl
      constructor <;> intro htoken <;> rw [htoken] at hplain <;> exact hplain
  intro t ht
  obtain ⟨l, hl, rfl⟩ := List.mem_map.1 (List.mem_of_getLast? ht)
  exact hall l hl

theorem Signed.settled (h : Signed x ls) : Settled ls := by
  cases h with
  | plain p x => exact settled_concat [] nofun nofun
  | plus p q x => exact settled_concat [_] nofun nofun
  | minus p q x => exact settled_concat [_] nofun nofun

theorem Signed.ne_nil (h : Signed x ls) : ls ≠ [] := by
  cases h <;> exact List.cons_ne_nil _ _

theorem Heading.settled (h : Heading left r priority ls) : Settled ls := by
  cases h with
  | intro p h hne hp =>
    refine Settled.append ?_ _ (List.cons_ne_nil _ _)
    cases hp with
    | absent => exact settled_concat [] nofun nofun
    | @clause x n ls q q' q'' h hx hn => exact settled_concat (_ :: _ :: _ :: ls) nofun nofun

theorem ViewTerm.ne_nil (h : ViewTerm t ts) : ts ≠ [] := by
  cases h with
  | plain h => exact h.ne_nil
  | after p h hm => exact List.append_ne_nil_of_left_ne_nil h.ne_nil _
  | before p q hm h => exact List.append_ne_nil_of_left_ne_nil hm.ne_nil _

theorem ViewTerm.settled (h : ViewTerm t ts) : Settled ts := by
  cases h with
  | plain h => exact h.settled
  | after p h hm => exact (hm.settled.append [_] hm.ne_nil).append _ (List.cons_ne_nil _ _)
  | @before view attributes multiplier ls ms p q hm h =>
    have := settled_concat (l := ⟨q, .closeParen⟩) (ms ++ ⟨p, .openParen⟩ :: ls) nofun nofun
    rwa [List.append_assoc] at this

theorem signAllowed_of_not_operandStarts {ts : List Token} (h : operandStarts ts = false) :
    signAllowed ts.head? = false := by
  unfold operandStarts at h
  split at h
  · cases h
  · cases h
  · cases h
  · exact h
  · cases h

theorem ViewTerm.signAllowed (h : ViewTerm t ts) : signAllowed (behind before ts).head? = false := by
  cases h with
  | plain h => exact signAllowed_of_not_operandStarts h.not_operandStarts.1
  | after p h hm =>
    rw [behind_append, behind_cons]
    exact signAllowed_of_not_operandStarts hm.not_operandStarts
  | before p q hm h =>
    rw [behind_append, behind_cons, behind_append, behind_cons, behind_nil]
    rfl

end Grammar

open Grammar

/-! ## A multiplier behind other tokens -/

variable {before before' : List Token} {x : Number} {xs : List Char} {ls ms : List Lexeme} {e : Equation} {q : Nat}

theorem Grammar.Signed.of_flush {c : Char} {s : Token} {ys : List Char} {rest : List Lexeme} (h : Signed x ms)
    (hs : Sign c s)
    (htokens : s :: numberAt false ys :: rest.map Lexeme.token = ms.map Lexeme.token ++ [.eof]) :
    x = (Numeral.ofChars ys).value (c == '-') ∧ rest.map Lexeme.token = [.eof] := by
  cases h with
  | plain p x =>
    obtain ⟨hfirst, -⟩ := List.cons.inj htokens
    cases hs <;> cases hfirst
  | plus p q x =>
    obtain ⟨hfirst, htail⟩ := List.cons.inj htokens
    obtain ⟨hnumber, hend⟩ := List.cons.inj htail
    cases hs with
    | plus => exact ⟨(Token.number.inj hnumber).symm, hend⟩
    | minus => cases hfirst
  | minus p q x =>
    obtain ⟨hfirst, htail⟩ := List.cons.inj htokens
    obtain ⟨hnumber, hend⟩ := List.cons.inj htail
    cases hs with
    | plus => cases hfirst
    | minus =>
      obtain rfl := Token.number.inj hnumber
      exact ⟨(Numeral.value_true _).symm, hend⟩

/-- Behind a token that allows a sign, the text of a number is still one of the same number. -/
theorem Grammar.Signed.exists_lexed (h : Signed x ms) (before' : List Token) (hlexed : Lexed before xs ms)
    (hallowed : signAllowed before'.head? = true) : ∃ ms', Signed x ms' ∧ Lexed before' xs ms' := by
  cases hbefore : signAllowed before.head? with
  | true => exact ⟨ms, h, hlexed.congr (hbefore.trans hallowed.symm)⟩
  | false =>
    obtain ⟨ls, hls, htokens⟩ := hlexed 0
    rcases lexFrom_eq_or_flush before.head? before'.head? 0 xs with hsame | ⟨blanks, c, s, ys, rfl, hblank, hs, hys⟩
    · rw [hsame] at hls
      refine ⟨ms, h, ?_⟩
      rw [Lexed, ← htokens]
      exact spellsAfter_of_lexFrom hls
    · rw [lexFrom_blanks hblank] at hls
      obtain ⟨rest, rfl, hrest⟩ := lexFrom_flush hs hys hls
      rw [signLexemes, if_neg (by simp [hbefore])] at htokens
      obtain ⟨hx, hend⟩ := h.of_flush hs htokens
      obtain ⟨⟨q, t⟩, rfl, rfl⟩ := List.map_eq_singleton_iff.1 hend
      have hread := lexFrom_flush_allowed hs hys hallowed hrest rfl
      exact ⟨[⟨_, numberAt (c == '-') ys⟩], hx ▸ .plain _ _, (lexed_of_lexFrom _ hread).append_blanks hblank⟩

/-! ## Equations from pieces -/

theorem exists_ofText_of_lexed (h : Lexed [] xs ls) (hd : Derives e (ls ++ [⟨q, .eof⟩])) :
    ∃ e', Equation.ofText (String.ofList xs) = .ok e' ∧ e'.move (fun _ => 0) = e.move fun _ => 0 := by
  obtain ⟨ms, hms, htokens⟩ := h 0
  have hlex : lex (String.ofList xs) = .ok ms := by
    rw [lex, String.toList_ofList]
    exact hms
  have hsame : ms.map (Lexeme.move fun _ => 0) = (ls ++ [Lexeme.mk q .eof]).map (Lexeme.move fun _ => 0) := by
    have hmove : Lexeme.move (fun _ => 0) = Lexeme.mk 0 ∘ Lexeme.token := rfl
    have hsplit : ls.map Lexeme.token ++ [.eof] = (ls ++ [Lexeme.mk q .eof]).map Lexeme.token := by
      rw [List.map_append, List.map_singleton]
    rw [hmove, ← List.map_map, ← List.map_map, htokens, hsplit]
  have hread := Equation.ofLexemes_move (fun _ => 0) (ne_nil_of_lex hlex)
  rw [hsame, Equation.ofLexemes_move _ (List.append_ne_nil_of_right_ne_nil _ (List.cons_ne_nil _ _)),
    ofLexemes_of_derives hd] at hread
  rw [Equation.ofText, hlex, mapError_ok, ok_bind]
  cases hms : Equation.ofLexemes ms with
  | error err =>
    rw [hms] at hread
    cases hread
  | ok e' =>
    rw [hms] at hread
    exact ⟨e', rfl, (Except.ok.inj hread).symm⟩

/-- The pieces of an equation with a multiplier, with the blanks around them: the left side with the relation and the
priority, the multiplier, its operand and the clause. -/
structure Pieces where
  heading : List Char
  multiplier : List Char
  operand : List Char
  clause : List Char

namespace Pieces

/-- `heading multiplier(operand) clause` -/
def multiplierFirst (p : Pieces) : String :=
  String.ofList (p.heading ++ (p.multiplier ++ '(' :: (p.operand ++ ')' :: p.clause)))

/-- `heading operand * multiplier clause`, with more characters between the pieces. -/
def operandFirst (p : Pieces) (gaps : Nat → List Char) : String :=
  String.ofList (p.heading ++ (gaps 0 ++ (p.operand ++ (gaps 1 ++ '*' ::
    (gaps 2 ++ (p.multiplier ++ (gaps 3 ++ p.clause)))))))

/-- The pieces spell the parts of the equation, each at its place in `heading multiplier(operand) clause`. -/
inductive Spell (p : Pieces) : Equation → Prop
  | intro {left : LeftTerm} {r : Relation} {priority : Nat} {view : ViewPath} {attributes : List AttributeName}
      {multiplier : Number} {constants : List Constant} {hs ms os cs : List Lexeme}
      (hh : Heading left r priority hs) (hheading : Lexed [] p.heading hs)
      (hm : Signed multiplier ms) (hmultiplier : Lexed (behind [] hs) p.multiplier ms)
      (ho : Operand view attributes os) (hoperand : Lexed [.openParen] p.operand os)
      (hc : Clause constants cs) (hclause : Lexed [.closeParen] p.clause cs) :
      Spell p
        { left, relation := r, priority
          right := { view := some view, attributes, multiplierPosition := .before, multiplier, constants } }

end Pieces

def Equation.multiplierAfter (e : Equation) : Equation :=
  { e with right := { e.right with multiplierPosition := .after } }

theorem Grammar.Operand.stops {view : ViewPath} {attributes : List AttributeName} {os : List Lexeme}
    (h : Operand view attributes os) (hxs : Lexed before xs (os ++ ls)) : Stops xs := by
  refine hxs.stops ?_
  cases h with
  | intro p q hroot h => exact fun l hl => .inl (by obtain rfl := Option.some.inj hl; rfl)

theorem Grammar.Clause.stops {constants : List Constant} {cs : List Lexeme} (h : Clause constants cs)
    (hxs : Lexed before xs cs) : Stops xs := by
  refine hxs.stops fun l hl => .inr ?_
  cases h with
  | absent => cases hl
  | plus p h =>
    cases hl
    exact .inl rfl
  | minus p h =>
    cases hl
    exact .inr rfl

theorem Grammar.Operand.lexed_behind_any {view : ViewPath} {attributes : List AttributeName} {os : List Lexeme}
    (h : Operand view attributes os) (hxs : Lexed before xs os) (before' : List Token) : Lexed before' xs os := by
  cases h with
  | intro p q hroot h => exact hxs.behind_any (by simp) nofun before'

namespace Pieces

variable {p : Pieces} {gaps : Nat → List Char}

theorem Spell.exists_operandFirst (h : p.Spell e) (hgaps : ∀ i, ∀ c ∈ gaps i, isBlank c = true) :
    ∃ e', Equation.ofText (p.operandFirst gaps) = .ok e' ∧
      e'.move (fun _ => 0) = e.multiplierAfter.move fun _ => 0 := by
  cases h with
  | @intro left r priority view attributes multiplier constants hs ms os cs hh hheading hm hmultiplier ho hoperand hc
      hclause =>
    -- behind `*` the sign of the multiplier may become part of the number
    obtain ⟨ms', hm', hmultiplier'⟩ := hm.exists_lexed [.star] hmultiplier rfl
    -- and behind the number, as behind `)`, the sign of the clause may not
    have hvalue : signAllowed [Token.closeParen].head? = signAllowed (behind [.star] ms').head? :=
      (signAllowed_of_not_operandStarts hm'.not_operandStarts).symm
    have hclause' := (hclause.congr hvalue).append_blanks (hgaps 3)
    have hscaled := hmultiplier'.append hm'.settled (hc.stops hclause') hclause'
    have hstar : Lexed (behind (behind [] hs) os) _ _ :=
      (Lexed.symbol .star 0 (hscaled.append_blanks (hgaps 2))).append_blanks (hgaps 1)
    have hstops : Stops (gaps 1 ++ '*' :: (gaps 2 ++ (p.multiplier ++ (gaps 3 ++ p.clause)))) :=
      (stops_cons (by decide) (by decide)).append_blanks (hgaps 1)
    have hoperand' := (ho.lexed_behind_any hoperand (behind [] hs)).append ho.settled hstops hstar
    have hright : Lexed (behind [] hs) _ _ := hoperand'.append_blanks (hgaps 0)
    have htext := hheading.append hh.settled (ho.stops hright) hright
    have hderives : Derives _ _ := derives_of_heading hh (.after 0 ho hm' hc) 0
    rw [← List.append_assoc] at hderives
    exact exists_ofText_of_lexed htext hderives

end Pieces

variable {src : String}

theorem exists_pieces (h : Equation.ofText src = .ok e) (hposition : e.right.multiplierPosition = .before) :
    ∃ p : Pieces, p.Spell e ∧ p.multiplierFirst = src := by
  obtain ⟨ls, hlex, -⟩ := ofText_eq_ok.1 h
  obtain ⟨hs, rs, q, rfl, hh, hr⟩ := ((ofText_eq_ok_iff_derives hlex).1 h).exists_heading
  obtain ⟨left, r, priority, right⟩ := e
  cases hr with
  | plain h hc => cases hposition
  | after p h hm hc => cases hposition
  | constant h => cases hposition
  | @before view attributes multiplier constants os ms cs p q' hm ho hc =>
    obtain ⟨m, ms', hms⟩ := List.exists_cons_of_ne_nil hm.ne_nil
    have htext : lexFrom [].head? 0 src.toList =
        .ok (hs ++ m :: (ms' ++ ⟨p, .openParen⟩ :: (os ++ ⟨q', .closeParen⟩ :: (cs ++ [⟨q, .eof⟩])))) := by
      have : lexFrom none 0 src.toList = _ := hlex
      simpa [hms] using this
    obtain ⟨heading, xs, hsrc, hheading, hxs⟩ := exists_lexed _ htext hh.settled
    rw [← List.cons_append, ← hms] at hxs
    obtain ⟨multiplier, ys, rfl, hmultiplier, hys⟩ := exists_lexed _ hxs hm.settled
    obtain ⟨zs, rfl, hzs⟩ := exists_symbol .openParen hys
    obtain ⟨operand, ys, rfl, hoperand, hys⟩ := exists_lexed [.openParen] hzs ho.settled
    obtain ⟨clause, rfl, hclause⟩ := exists_symbol .closeParen hys
    refine ⟨⟨heading, multiplier, operand, clause⟩, .intro hh hheading hm hmultiplier ho hoperand hc ?_, ?_⟩
    · exact lexed_of_lexFrom [.closeParen] hclause
    · rw [Pieces.multiplierFirst, ← hsrc, String.ofList_toList]

/-! ## The operator of a clause -/

/-- The right side of the equation that the text spells is a view term with a clause, and the operator of the clause is
a `-` at offset `p`. -/
inductive MinusClause (src : String) (p : Nat) : Prop
  | intro {left : LeftTerm} {r : Relation} {priority : Nat} {t : RightTerm} {constants : List Constant}
      {hs ts cs : List Lexeme} (q : Nat) (hlex : lex src = .ok (hs ++ (ts ++ ⟨p, .minus⟩ :: (cs ++ [⟨q, .eof⟩]))))
      (hh : Heading left r priority hs) (ht : ViewTerm t ts) (hc : Constants constants cs)

def withPlus (src : String) (p : Nat) : String := String.ofList (src.toList.set p '+')

def Equation.negateConstants (e : Equation) : Equation :=
  { e with right := { e.right with constants := e.right.constants.map Constant.neg } }

theorem Constant.neg_comp_neg : neg ∘ neg = id := by
  funext c
  cases c with
  | value x => exact congrArg value x.neg_neg
  | skip => rfl

theorem lexFrom_plus_of_minus {previous : Option Token} {p : Nat} {ys : List Char} {back : List Lexeme}
    (hallowed : signAllowed previous = false) (h : lexFrom previous p ys = .ok (⟨p, .minus⟩ :: back)) :
    ∃ zs, ys = '-' :: zs ∧ lexFrom previous p ('+' :: zs) = .ok (⟨p, .plus⟩ :: back) := by
  obtain ⟨w, zs, rfl, hspelled, hzs⟩ := exists_spelling h nofun
  cases hspelled with
  | symbol hsymbol => cases hsymbol
  | minus hskip =>
    refine ⟨zs, rfl, ?_⟩
    have hnext : nextToken? previous '+' zs = some (.plus, 0) :=
      nextToken?_symbol rfl (by rw [hallowed, Bool.and_false, Bool.false_and]) rfl
    have hsame : signAllowed (some .plus) = signAllowed (some .minus) := rfl
    rw [lexFrom_token (by decide) hnext, lexFrom_congr hsame]
    exact congrArg (· >>= _) hzs

theorem lex_withPlus {front back : List Lexeme} {p : Nat} (hlex : lex src = .ok (front ++ ⟨p, .minus⟩ :: back))
    (hsettled : Settled front) (hallowed : signAllowed (behind [] front).head? = false) :
    src.toList[p]? = some '-' ∧ lex (withPlus src p) = .ok (front ++ ⟨p, .plus⟩ :: back) := by
  obtain ⟨xs, ys, hsrc, hp, hys, hfront⟩ := exists_split [] hlex
  rw [Nat.zero_add] at hp
  obtain rfl : p = xs.length := hp
  obtain ⟨zs, rfl, hplus⟩ := lexFrom_plus_of_minus hallowed hys
  have hread := hfront _ _ (stops_cons (by decide) (by decide)) hsettled hplus
  rw [withPlus, lex, String.toList_ofList, hsrc, List.getElem?_append_right (Nat.le_refl _),
    List.set_append_right _ _ (Nat.le_refl _), Nat.sub_self, List.set_cons_zero]
  exact ⟨rfl, hread⟩

theorem ofText_withPlus (h : Equation.ofText src = .ok e) {p : Nat} (hclause : MinusClause src p) :
    src.toList[p]? = some '-' ∧ Equation.ofText (withPlus src p) = .ok e.negateConstants := by
  cases hclause with
  | @intro left r priority t constants hs ts cs q hlex hh ht hc =>
    have hminus : Derives ⟨left, r, priority, { t with constants := constants.map Constant.neg }⟩ _ :=
      derives_of_heading hh (ht.right (.minus p hc)) q
    have hplus : Derives ⟨left, r, priority, { t with constants }⟩ _ :=
      derives_of_heading hh (ht.right (.plus p hc)) q
    rw [List.append_assoc, List.cons_append, ← List.append_assoc] at hminus hplus
    rw [← List.append_assoc] at hlex
    have hallowed : signAllowed (behind [] (hs ++ ts)).head? = false := by
      rw [behind_append]
      exact ht.signAllowed
    obtain ⟨hchar, hnew⟩ := lex_withPlus hlex (ht.settled.append hs ht.ne_nil) hallowed
    have he := (ofText_eq_ok_iff_derives hlex).2 hminus
    obtain rfl := Except.ok.inj (h.symm.trans he)
    have hconstants : (constants.map Constant.neg).map Constant.neg = constants := by
      rw [List.map_map, Constant.neg_comp_neg, List.map_id]
    refine ⟨hchar, ?_⟩
    rw [Equation.negateConstants, hconstants]
    exact (ofText_eq_ok_iff_derives hnew).2 hplus

end LayoutEquations
