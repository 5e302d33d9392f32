import LayoutEquations.Proofs.Grammar
import LayoutEquations.Token.Lexer

/-!
# Signs in front of numbers

A number with its sign may also be written as the sign and the number without it, in two tokens: `Detached ls ms` says
that `ms` is `ls` with one number written so. The grammar derives the same equation from both, unless the number already
had a detached sign (`derives_of_detached`). And no equation has two signs one behind the other at the start of an
operand (`not_doubled_of_derives`); in front of an operand one of two signs is the operator of a clause.

What stands before a place is kept as a list of tokens, the last one first.
-/

namespace LayoutEquations

/-- A sign that is a token of its own. -/
@[simp] def Token.IsSign (t : Token) : Prop := t = .plus ∨ t = .minus

/-- A token behind the root of a view reference: a word, a point, or what holds a list together. -/
def Token.Plain : Token → Prop
  | identifier _ | dot | openParen | closeParen | comma => True
  | _ => False

theorem Token.Plain.not_sign {t : Token} (h : t.Plain) : ¬ t.IsSign := by
  rintro (rfl | rfl) <;> exact h

/-- Does an operand start behind these tokens, the last one first? A `)` ends an operand, but for the one that closes
a priority clause. -/
def operandStarts : List Token → Bool
  | .closeParen :: .number _ :: .atSign :: _ => true
  | .closeParen :: .number _ :: .plus :: .atSign :: _ => true
  | .closeParen :: .number _ :: .minus :: .atSign :: _ => true
  | t :: _ => t.opensOperand
  | [] => true

/-- Do these tokens, the last one first, end in the detached sign of an operand? -/
def endsInSign : List Token → Bool
  | .plus :: ts => operandStarts ts
  | .minus :: ts => operandStarts ts
  | _ => false

namespace Grammar

variable {before : List Token} {l : Lexeme} {ls ms ns : List Lexeme}

/-- The tokens of the lexemes in front of others, the last one first. -/
def behind (before : List Token) (ls : List Lexeme) : List Token :=
  (ls.map Lexeme.token).reverse ++ before

@[simp] theorem behind_nil (before : List Token) : behind before [] = before := rfl

@[simp] theorem behind_cons (before : List Token) (l : Lexeme) (ls : List Lexeme) :
    behind before (l :: ls) = behind (l.token :: before) ls := by
  simp [behind]

theorem behind_append (before : List Token) (ls ms : List Lexeme) :
    behind before (ls ++ ms) = behind (behind before ls) ms := by
  simp [behind]

/-! ## Detaching a sign -/

/-- The number `x` is the sign `t` in front of `y`. -/
inductive SignedBy : Token → Number → Number → Prop
  | plus (x : Number) : SignedBy .plus x x
  | minus (x : Number) : SignedBy .minus (-x) x

/-- Behind `before`, the list `ms` is `ls` with the sign of one number detached: of one whose sign was part of it and
that has no detached sign yet. -/
inductive Detached : List Token → List Lexeme → List Lexeme → Prop
  | here {before : List Token} {s : Token} {x y : Number} {rest : List Lexeme} (p q : Nat) (hs : SignedBy s x y)
      (hallowed : signAllowed before.head? = true) (hone : endsInSign before = false) :
      Detached before (⟨p, .number x⟩ :: rest) (⟨p, s⟩ :: ⟨q, .number y⟩ :: rest)
  | there {before : List Token} {l : Lexeme} {ls ms : List Lexeme} (h : Detached (l.token :: before) ls ms) :
      Detached before (l :: ls) (l :: ms)

namespace Detached

theorem exists_number (h : Detached before ls ms) : ∃ l ∈ ls, ∃ x, l.token = .number x := by
  induction h with
  | here p q hs hallowed hone => exact ⟨_, List.mem_cons_self, _, rfl⟩
  | there h ih =>
    obtain ⟨l, hl, hx⟩ := ih
    exact ⟨l, List.mem_cons_of_mem _ hl, hx⟩

theorem tail (h : Detached before (l :: ls) ms) (hl : ∀ x, l.token ≠ .number x) :
    ∃ ms', ms = l :: ms' ∧ Detached (l.token :: before) ls ms' := by
  cases h with
  | here p q hs hallowed hone => exact absurd rfl (hl _)
  | there h => exact ⟨_, rfl, h⟩

theorem append (h : Detached before (ls ++ ms) ns) :
    (∃ ls', ns = ls' ++ ms ∧ Detached before ls ls') ∨
      ∃ ms', ns = ls ++ ms' ∧ Detached (behind before ls) ms ms' := by
  induction ls generalizing before ns with
  | nil => exact .inr ⟨ns, rfl, h⟩
  | cons l ls ih =>
    cases h with
    | here p q hs hallowed hone => exact .inl ⟨_, rfl, .here p q hs hallowed hone⟩
    | there h =>
      rcases ih h with ⟨ls', rfl, hleft⟩ | ⟨ms', rfl, hright⟩
      · exact .inl ⟨l :: ls', rfl, .there hleft⟩
      · exact .inr ⟨ms', rfl, by rwa [behind_cons]⟩

theorem append_left (ls : List Lexeme) (h : Detached (behind before ls) ms ns) :
    Detached before (ls ++ ms) (ls ++ ns) := by
  induction ls generalizing before with
  | nil => exact h
  | cons l ls ih =>
    rw [behind_cons] at h
    exact .there (ih h)

end Detached

/-! ### Operands have no sign to detach -/

theorem Keyword.plain {a : AttributeName} (h : Keyword a ls) : ∀ l ∈ ls, l.token.Plain := by
  cases h with
  | intro p hword =>
    rw [List.forall_mem_singleton]
    trivial

theorem Separated.plain {as : List AttributeName} (h : Separated Keyword as ls) : ∀ l ∈ ls, l.token.Plain := by
  induction h with
  | one h => exact h.plain
  | more p h hs ih =>
    rw [List.forall_mem_append, List.forall_mem_cons]
    exact ⟨h.plain, trivial, ih⟩

theorem Parenthesized.plain {as : List AttributeName} (h : Parenthesized Keyword as ls) :
    ∀ l ∈ ls, l.token.Plain := by
  cases h with
  | intro p q h =>
    rw [List.forall_mem_cons, List.forall_mem_append, List.forall_mem_singleton]
    exact ⟨trivial, h.plain, trivial⟩

theorem Dotted.plain {words : List String} {as : List AttributeName} (h : Dotted words as ls) :
    ∀ l ∈ ls, l.token.Plain := by
  induction h with
  | nothing => exact List.forall_mem_nil _
  | single p q hword =>
    rw [List.forall_mem_cons, List.forall_mem_singleton]
    exact ⟨trivial, trivial⟩
  | list p h =>
    rw [List.forall_mem_cons]
    exact ⟨trivial, h.plain⟩
  | segment p q hword h ih =>
    rw [List.forall_mem_cons, List.forall_mem_cons]
    exact ⟨trivial, trivial, ih⟩

theorem Operand.not_detached {view : ViewPath} {as : List AttributeName} (h : Operand view as ls) :
    ¬ Detached before ls ms := by
  intro hd
  cases h with
  | intro p q hroot h =>
    obtain ⟨ms, rfl, htail⟩ := hd.tail (by simp)
    cases htail with
    | here p q hs hallowed hone => cases hallowed
    | there htail =>
      obtain ⟨l, hl, x, hx⟩ := htail.exists_number
      have hplain := h.plain l hl
      rw [hx] at hplain
      exact hplain

/-! ### Numbers keep their value -/

theorem Signed.of_detached {x : Number} (h : Signed x ls) (hstart : operandStarts before = true)
    (hd : Detached before ls ms) : Signed x ms := by
  -- a number that already has a sign of its own is none whose sign is detached
  have hsigned : ∀ s, endsInSign (s :: before) = false → s.IsSign → False := by
    rintro s hone (rfl | rfl) <;> exact Bool.false_ne_true (hone.symm.trans hstart)
  cases h with
  | plain p x =>
    cases hd with
    | here p q hs hallowed hone =>
      cases hs with
      | plus => exact .plus p q _
      | minus => exact .minus p q _
    | there hd => cases hd
  | plus p q x =>
    cases hd with
    | there hd =>
      cases hd with
      | here q r hs hallowed hone => exact (hsigned _ hone (.inl rfl)).elim
      | there hd => cases hd
  | minus p q x =>
    cases hd with
    | there hd =>
      cases hd with
      | here q r hs hallowed hone => exact (hsigned _ hone (.inr rfl)).elim
      | there hd => cases hd

theorem Entry.of_detached {c : Constant} (h : Entry c ls) (hstart : operandStarts before = true)
    (hd : Detached before ls ms) : Entry c ms := by
  cases h with
  | skip p =>
    cases hd with
    | there hd => cases hd
  | value h => exact .value (h.of_detached hstart hd)

theorem Separated.of_detached {cs : List Constant} (h : Separated Entry cs ls) (hstart : operandStarts before = true)
    (hd : Detached before ls ms) : Separated Entry cs ms := by
  induction h generalizing before ms with
  | one h => exact .one (h.of_detached hstart hd)
  | more p h hs ih =>
    rcases hd.append with ⟨ls, rfl, hleft⟩ | ⟨ms, rfl, hright⟩
    · exact .more p (h.of_detached hstart hleft) hs
    · obtain ⟨ms, rfl, htail⟩ := hright.tail (by simp)
      exact .more p h (ih rfl htail)

theorem Parenthesized.of_detached {cs : List Constant} (h : Parenthesized Entry cs ls) (hd : Detached before ls ms) :
    Parenthesized Entry cs ms := by
  cases h with
  | intro p q h =>
    obtain ⟨ms, rfl, hitems⟩ := hd.tail (by simp)
    rcases hitems.append with ⟨ls, rfl, hleft⟩ | ⟨ms, rfl, hright⟩
    · exact .intro p q (h.of_detached rfl hleft)
    · obtain ⟨ms, rfl, htail⟩ := hright.tail (by simp)
      cases htail

theorem Constants.of_detached {cs : List Constant} (h : Constants cs ls) (hstart : operandStarts before = true)
    (hd : Detached before ls ms) : Constants cs ms := by
  cases h with
  | number h => exact .number (h.of_detached hstart hd)
  | list h => exact .list (h.of_detached hd)

theorem Clause.of_detached {cs : List Constant} (h : Clause cs ls) (hd : Detached before ls ms) : Clause cs ms := by
  cases h with
  | absent => cases hd
  | plus p h =>
    obtain ⟨ms, rfl, htail⟩ := hd.tail (by simp)
    exact .plus p (h.of_detached rfl htail)
  | minus p h =>
    obtain ⟨ms, rfl, htail⟩ := hd.tail (by simp)
    exact .minus p (h.of_detached rfl htail)

theorem Priority.of_detached {n : Nat} (h : Priority n ls) (hd : Detached before ls ms) : Priority n ms := by
  cases h with
  | absent => cases hd
  | clause p q r h hx hn =>
    obtain ⟨ms, rfl, hopen⟩ := hd.tail (by simp)
    obtain ⟨ms, rfl, hvalue⟩ := hopen.tail (by simp)
    rcases hvalue.append with ⟨ls, rfl, hleft⟩ | ⟨ms, rfl, hright⟩
    · exact .clause p q r (h.of_detached rfl hleft) hx hn
    · obtain ⟨ms, rfl, htail⟩ := hright.tail (by simp)
      cases htail

theorem Priority.operandStarts {n : Nat} (h : Priority n ls) (hstart : operandStarts before = true) :
    operandStarts (behind before ls) = true := by
  cases h with
  | absent => exact hstart
  | clause p q r h hx hn => cases h <;> rfl

theorem Right.of_detached {t : RightTerm} (h : Right t ls) (hstart : operandStarts before = true)
    (hd : Detached before ls ms) : Right t ms := by
  cases h with
  | plain h hc =>
    rcases hd.append with ⟨ls, rfl, hleft⟩ | ⟨ms, rfl, hright⟩
    · exact absurd hleft h.not_detached
    · exact .plain h (hc.of_detached hright)
  | after p h hm hc =>
    rcases hd.append with ⟨ls, rfl, hleft⟩ | ⟨ms, rfl, hright⟩
    · exact absurd hleft h.not_detached
    · obtain ⟨ms, rfl, hbehind⟩ := hright.tail (by simp)
      rcases hbehind.append with ⟨ls, rfl, hvalue⟩ | ⟨ms, rfl, hclause⟩
      · exact .after p h (hm.of_detached rfl hvalue) hc
      · exact .after p h hm (hc.of_detached hclause)
  | before p q hm h hc =>
    rcases hd.append with ⟨ls, rfl, hleft⟩ | ⟨ms, rfl, hright⟩
    · exact .before p q (hm.of_detached hstart hleft) h hc
    · obtain ⟨ms, rfl, hgroup⟩ := hright.tail (by simp)
      rcases hgroup.append with ⟨ls, rfl, hoperand⟩ | ⟨ms, rfl, hbehind⟩
      · exact absurd hoperand h.not_detached
      · obtain ⟨ms, rfl, hclause⟩ := hbehind.tail (by simp)
        exact .before p q hm h (hc.of_detached hclause)
  | constant h => exact .constant (h.of_detached hstart hd)

/-- Detaching the sign of a number does not change the equation. -/
theorem derives_of_detached {e : Equation} (h : Derives e ls) (hd : Detached [] ls ms) : Derives e ms := by
  cases h with
  | intro p q h hne hp hr =>
    rcases hd.append with ⟨ls, rfl, hleft⟩ | ⟨ms, rfl, hright⟩
    · exact absurd hleft h.not_detached
    obtain ⟨ms, rfl, hbehind⟩ := hright.tail (by simp)
    rcases hbehind.append with ⟨ls, rfl, hpriority⟩ | ⟨ms, rfl, hterm⟩
    · exact .intro p q h hne (hp.of_detached hpriority) hr
    rcases hterm.append with ⟨ls, rfl, hvalue⟩ | ⟨ms, rfl, hend⟩
    · exact .intro p q h hne hp (hr.of_detached (hp.operandStarts rfl) hvalue)
    · obtain ⟨ms, rfl, htail⟩ := hend.tail (by simp)
      cases htail

/-! ## Two signs -/

/-- Two signs stand one behind the other where an operand starts. -/
inductive Doubled : List Token → List Lexeme → Prop
  | here {before : List Token} {l l' : Lexeme} {rest : List Lexeme} (hl : l.token.IsSign) (hl' : l'.token.IsSign)
      (hstart : operandStarts before = true) : Doubled before (l :: l' :: rest)
  | there {before : List Token} {l : Lexeme} {ls : List Lexeme} (h : Doubled (l.token :: before) ls) :
      Doubled before (l :: ls)

def EndsPlain (ls : List Lexeme) : Prop := ∀ l ∈ ls.getLast?, ¬ l.token.IsSign

theorem endsPlain_concat (ls : List Lexeme) (hl : ¬ l.token.IsSign) : EndsPlain (ls ++ [l]) := by
  intro l' hl'
  rw [List.getLast?_concat] at hl'
  exact Option.some.inj hl' ▸ hl

namespace Doubled

theorem exists_sign (h : Doubled before ls) : ∃ l ∈ ls, l.token.IsSign := by
  induction h with
  | here hl hl' hstart => exact ⟨_, List.mem_cons_self, hl⟩
  | there h ih =>
    obtain ⟨l, hl, hsign⟩ := ih
    exact ⟨l, List.mem_cons_of_mem _ hl, hsign⟩

theorem tail (h : Doubled before (l :: ls)) (hl : ¬ l.token.IsSign) : Doubled (l.token :: before) ls := by
  cases h with
  | here hsign hsign' hstart => exact absurd hsign hl
  | there h => exact h

theorem append (h : Doubled before (ls ++ ms)) (hjoin : EndsPlain ls ∨ ∀ l ∈ ms.head?, ¬ l.token.IsSign) :
    Doubled before ls ∨ Doubled (behind before ls) ms := by
  induction ls generalizing before with
  | nil => exact .inr h
  | cons l ls ih =>
    cases ls with
    | nil =>
      cases h with
      | here hl hl' hstart =>
        rcases hjoin with hends | hhead
        · exact absurd hl (hends l rfl)
        · exact absurd hl' (hhead _ rfl)
      | there h => exact .inr h
    | cons l' ls =>
      cases h with
      | here hl hl' hstart => exact .inl (.here hl hl' hstart)
      | there h =>
        rcases ih h hjoin with h | h
        · exact .inl (.there h)
        · exact .inr (by rwa [behind_cons])

theorem append_left (ls : List Lexeme) (h : Doubled (behind before ls) ms) : Doubled before (ls ++ ms) := by
  induction ls generalizing before with
  | nil => exact h
  | cons l ls ih =>
    rw [behind_cons] at h
    exact .there (ih h)

end Doubled

theorem exists_of_endsInSign (h : endsInSign before = true) :
    ∃ t ts, before = t :: ts ∧ t.IsSign ∧ operandStarts ts = true := by
  unfold endsInSign at h
  split at h
  · exact ⟨_, _, rfl, .inl rfl, h⟩
  · exact ⟨_, _, rfl, .inr rfl, h⟩
  · cases h

theorem doubled_of_endsInSign (h : endsInSign (behind [] ls) = true) (hl : l.token.IsSign) (ms : List Lexeme) :
    Doubled [] (ls ++ l :: ms) := by
  obtain ⟨t, ts, hbehind, ht, hstart⟩ := exists_of_endsInSign h
  rcases List.eq_nil_or_concat ls with rfl | ⟨ls, l', rfl⟩
  · cases hbehind
  · rw [List.concat_eq_append, behind_append, behind_cons, behind_nil] at hbehind
    obtain ⟨rfl, rfl⟩ := List.cons.inj hbehind
    rw [List.concat_eq_append, List.append_assoc]
    exact .append_left ls (.here ht hl hstart)

/-! ### Where there are none -/

theorem Operand.not_sign {view : ViewPath} {as : List AttributeName} (h : Operand view as ls) :
    ∀ l ∈ ls, ¬ l.token.IsSign := by
  cases h with
  | intro p q hroot h =>
    rw [List.forall_mem_cons, List.forall_mem_cons]
    refine ⟨by simp, ?_, fun l hl => (h.plain l hl).not_sign⟩
    cases hroot <;> simp

theorem Operand.endsPlain {view : ViewPath} {as : List AttributeName} (h : Operand view as ls) : EndsPlain ls :=
  fun l hl => h.not_sign l (List.mem_of_getLast? hl)

theorem Operand.not_doubled {view : ViewPath} {as : List AttributeName} (h : Operand view as ls) :
    ¬ Doubled before ls := by
  intro hd
  obtain ⟨l, hl, hsign⟩ := hd.exists_sign
  exact h.not_sign l hl hsign

theorem Signed.endsPlain {x : Number} (h : Signed x ls) : EndsPlain ls := by
  cases h <;> simp [EndsPlain]

theorem Signed.not_doubled {x : Number} (h : Signed x ls) : ¬ Doubled before ls := by
  intro hd
  cases h with
  | plain p x => cases hd.tail (by simp)
  | plus p q x =>
    cases hd with
    | here hl hl' hstart => simp at hl'
    | there hd => cases hd.tail (by simp)
  | minus p q x =>
    cases hd with
    | here hl hl' hstart => simp at hl'
    | there hd => cases hd.tail (by simp)

theorem Entry.not_doubled {c : Constant} (h : Entry c ls) : ¬ Doubled before ls := by
  intro hd
  cases h with
  | skip p => cases hd.tail (by simp)
  | value h => exact h.not_doubled hd

theorem Separated.not_doubled {cs : List Constant} (h : Separated Entry cs ls) : ¬ Doubled before ls := by
  induction h generalizing before with
  | one h => exact h.not_doubled
  | more p h hs ih =>
    intro hd
    rcases hd.append (.inr (by simp)) with hleft | hright
    · exact h.not_doubled hleft
    · exact ih (hright.tail (by simp))

theorem Constants.not_doubled {cs : List Constant} (h : Constants cs ls) : ¬ Doubled before ls := by
  cases h with
  | number h => exact h.not_doubled
  | list h =>
    cases h with
    | intro p q h =>
      intro hd
      rcases (hd.tail (by simp)).append (.inr (by simp)) with hleft | hright
      · exact h.not_doubled hleft
      · cases hright.tail (by simp)

/-! ### Clauses -/

theorem Separated.ends_identifier {as : List AttributeName} (h : Separated Keyword as ls) (before : List Token) :
    ∃ word ts, behind before ls = .identifier word :: ts := by
  induction h generalizing before with
  | one h =>
    cases h with
    | intro p hword => exact ⟨_, _, rfl⟩
  | more p h hs ih =>
    rw [behind_append, behind_cons]
    exact ih _

theorem Dotted.not_operandStarts {words : List String} {as : List AttributeName} (h : Dotted words as ls)
    (hstart : operandStarts before = false) (hclosed : operandStarts (.closeParen :: before) = false) :
    operandStarts (behind before ls) = false ∧ operandStarts (.closeParen :: behind before ls) = false := by
  induction h generalizing before with
  | nothing => exact ⟨hstart, hclosed⟩
  | single p q hword => exact ⟨rfl, rfl⟩
  | list p h =>
    cases h with
    | intro q r h =>
      obtain ⟨word, ts, hends⟩ := h.ends_identifier (.openParen :: .dot :: before)
      rw [behind_cons, behind_cons, behind_append, hends]
      exact ⟨rfl, rfl⟩
  | segment p q hword h ih =>
    rw [behind_cons, behind_cons]
    exact ih rfl rfl

theorem Operand.not_operandStarts {view : ViewPath} {as : List AttributeName} (h : Operand view as ls) :
    operandStarts (behind before ls) = false ∧ operandStarts (.closeParen :: behind before ls) = false := by
  cases h with
  | intro p q hroot h =>
    rw [behind_cons, behind_cons]
    -- a number at the root stands behind `$`, not in a priority clause
    cases hroot <;> exact h.not_operandStarts rfl rfl

theorem Signed.not_operandStarts {x : Number} (h : Signed x ls) : operandStarts (behind before ls) = false := by
  cases h <;> rfl

/-- The operator of a clause stands behind an operand, so it may be followed by a sign. -/
theorem Clause.not_doubled {cs : List Constant} (h : Clause cs ls) (hstart : operandStarts before = false) :
    ¬ Doubled before ls := by
  have hoperator : ∀ {l ls'}, Doubled before (l :: ls') → Doubled (l.token :: before) ls' := by
    intro l ls' hd
    cases hd with
    | here hl hl' hstart' =>
      rw [hstart] at hstart'
      cases hstart'
    | there hd => exact hd
  cases h with
  | absent => exact fun hd => by cases hd
  | plus p h => exact fun hd => h.not_doubled (hoperator hd)
  | minus p h => exact fun hd => h.not_doubled (hoperator hd)

theorem Right.not_doubled {t : RightTerm} (h : Right t ls) : ¬ Doubled before ls := by
  intro hd
  cases h with
  | plain h hc =>
    rcases hd.append (.inl h.endsPlain) with hleft | hright
    · exact h.not_doubled hleft
    · exact hc.not_doubled h.not_operandStarts.1 hright
  | after p h hm hc =>
    rcases hd.append (.inl h.endsPlain) with hleft | hright
    · exact h.not_doubled hleft
    · rcases (hright.tail (by simp)).append (.inl hm.endsPlain) with hvalue | hclause
      · exact hm.not_doubled hvalue
      · exact hc.not_doubled hm.not_operandStarts hclause
  | before p q hm h hc =>
    rcases hd.append (.inl hm.endsPlain) with hleft | hright
    · exact hm.not_doubled hleft
    · rcases (hright.tail (by simp)).append (.inl h.endsPlain) with hoperand | hbehind
      · exact h.not_doubled hoperand
      · exact hc.not_doubled h.not_operandStarts.2 (hbehind.tail (by simp))
  | constant h => exact h.not_doubled hd

theorem Priority.endsPlain {n : Nat} (h : Priority n ls) : EndsPlain ls := by
  cases h with
  | absent => exact fun l hl => by cases hl
  | @clause x n ls p q r h hx hn =>
    exact endsPlain_concat (⟨p, .openParen⟩ :: ⟨q, .atSign⟩ :: ls) (by simp)

theorem Priority.not_doubled {n : Nat} (h : Priority n ls) : ¬ Doubled before ls := by
  intro hd
  cases h with
  | absent => cases hd
  | clause p q r h hx hn =>
    have hvalue := (hd.tail (by simp)).tail (by simp)
    rcases hvalue.append (.inl h.endsPlain) with hleft | hright
    · exact h.not_doubled hleft
    · cases hright.tail (by simp)

/-- No equation has two signs where an operand starts. -/
theorem not_doubled_of_derives {e : Equation} (h : Derives e ls) : ¬ Doubled [] ls := by
  intro hd
  cases h with
  | intro p q h hne hp hr =>
    rcases hd.append (.inl h.endsPlain) with hleft | hright
    · exact h.not_doubled hleft
    rcases (hright.tail (by simp)).append (.inl hp.endsPlain) with hpriority | hterm
    · exact hp.not_doubled hpriority
    rcases hterm.append (.inr (by simp)) with hvalue | hend
    · exact hr.not_doubled hvalue
    · cases hend.tail (by simp)

end Grammar

end LayoutEquations
