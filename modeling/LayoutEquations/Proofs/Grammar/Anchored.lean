import LayoutEquations.Proofs.Grammar

/-!
# Where words stand

In what the grammar derives, each word stands behind a `$` or a point, or it is an attribute name
(`anchored_of_derives`). So tokens with a word at another place (`LooseWord`) spell no equation.
-/

namespace LayoutEquations

/-- Each word is an attribute name or stands behind a `$` or a point. -/
inductive Anchored : List Token → Prop
  | nil : Anchored []
  | token {t : Token} {ts : List Token} (ht : ∀ word, t ≠ .identifier word) (hs : Anchored ts) : Anchored (t :: ts)
  | keyword {word : String} {a : AttributeName} {ts : List Token} (h : AttributeName.ofWord? word = some a)
      (hs : Anchored ts) : Anchored (.identifier word :: ts)
  | word {t : Token} {word : String} {ts : List Token} (ht : t = .dollar ∨ t = .dot) (hs : Anchored ts) :
      Anchored (t :: .identifier word :: ts)

/-- A word that is no attribute name stands behind a token other than `$` and the point. -/
def LooseWord (ts : List Token) : Prop :=
  ∃ t word, [t, .identifier word] <:+: ts ∧ t ≠ .dollar ∧ t ≠ .dot ∧ AttributeName.ofWord? word = none

theorem LooseWord.mono {ts us : List Token} (h : LooseWord ts) (hts : ts <:+: us) : LooseWord us := by
  obtain ⟨t, word, hpair, hloose⟩ := h
  exact ⟨t, word, hpair.trans hts, hloose⟩

theorem Anchored.keyword_of_head {word : String} {ts : List Token} (h : Anchored (.identifier word :: ts)) :
    AttributeName.ofWord? word ≠ none := by
  cases h with
  | token ht hs => exact absurd rfl (ht word)
  | keyword hword hs => simp [hword]
  | word ht hs => rcases ht with ht | ht <;> cases ht

theorem Anchored.keyword_of_behind {pre post : List Token} {t : Token} {word : String} {ts : List Token}
    (h : Anchored ts) (hts : ts = pre ++ t :: .identifier word :: post) (ht : t ≠ .dollar ∧ t ≠ .dot) :
    AttributeName.ofWord? word ≠ none := by
  induction h generalizing pre with
  | nil => simp at hts
  | token _ hs ih =>
    cases pre with
    | nil =>
      cases hts
      exact hs.keyword_of_head
    | cons u pre =>
      cases hts
      exact ih rfl
  | keyword _ hs ih =>
    cases pre with
    | nil =>
      cases hts
      exact hs.keyword_of_head
    | cons u pre =>
      cases hts
      exact ih rfl
  | word hu hs ih =>
    rcases pre with _ | ⟨u, _ | ⟨v, pre⟩⟩
    · cases hts
      rcases hu with rfl | rfl
      · exact absurd rfl ht.1
      · exact absurd rfl ht.2
    · cases hts
      exact hs.keyword_of_head
    · cases hts
      exact ih rfl

theorem not_looseWord_of_anchored {ts : List Token} (h : Anchored ts) : ¬ LooseWord ts := by
  rintro ⟨t, word, ⟨pre, post, hts⟩, hdollar, hdot, hword⟩
  have hts : ts = pre ++ t :: .identifier word :: post := by
    rw [← hts, List.append_assoc]
    rfl
  exact h.keyword_of_behind hts ⟨hdollar, hdot⟩ hword

/-! ## What the grammar derives -/

namespace Grammar

variable {α : Type} {ls : List Lexeme} {ts : List Token}

theorem Separated.anchored {Item : α → List Lexeme → Prop} {as : List α}
    (hitem : ∀ {a ls ts}, Item a ls → Anchored ts → Anchored (ls.map Lexeme.token ++ ts)) (h : Separated Item as ls)
    (hts : Anchored ts) : Anchored (ls.map Lexeme.token ++ ts) := by
  induction h with
  | one h => exact hitem h hts
  | more p h hs ih =>
    rw [List.map_append, List.append_assoc]
    exact hitem h (.token (fun _ => Token.noConfusion) ih)

theorem Parenthesized.anchored {Item : α → List Lexeme → Prop} {as : List α}
    (hitem : ∀ {a ls ts}, Item a ls → Anchored ts → Anchored (ls.map Lexeme.token ++ ts))
    (h : Parenthesized Item as ls) (hts : Anchored ts) : Anchored (ls.map Lexeme.token ++ ts) := by
  cases h with
  | intro p q h =>
    have hclose : Anchored (.closeParen :: ts) := .token (by simp) hts
    have := Anchored.token (t := .openParen) (by simp) (h.anchored hitem hclose)
    simpa using this

theorem Signed.anchored {x : Number} (h : Signed x ls) (hts : Anchored ts) : Anchored (ls.map Lexeme.token ++ ts) := by
  cases h with
  | plain p x => exact .token (by simp) hts
  | plus p q x => exact .token (by simp) (.token (by simp) hts)
  | minus p q x => exact .token (by simp) (.token (by simp) hts)

theorem Keyword.anchored {a : AttributeName} (h : Keyword a ls) (hts : Anchored ts) :
    Anchored (ls.map Lexeme.token ++ ts) := by
  cases h with
  | intro p hword => exact .keyword hword hts

theorem Entry.anchored {c : Constant} (h : Entry c ls) (hts : Anchored ts) : Anchored (ls.map Lexeme.token ++ ts) := by
  cases h with
  | skip p => exact .token (by simp) hts
  | value h => exact h.anchored hts

theorem Dotted.anchored {words : List String} {as : List AttributeName} (h : Dotted words as ls) (hts : Anchored ts) :
    Anchored (ls.map Lexeme.token ++ ts) := by
  induction h with
  | nothing => exact hts
  | single p q hword => exact .word (Or.inr rfl) hts
  | list p h => exact .token (by simp) (h.anchored Keyword.anchored hts)
  | segment p q hword h ih => exact .word (Or.inr rfl) ih

theorem Operand.anchored {view : ViewPath} {as : List AttributeName} (h : Operand view as ls) (hts : Anchored ts) :
    Anchored (ls.map Lexeme.token ++ ts) := by
  cases h with
  | intro p q hroot h =>
    have hdotted := h.anchored hts
    cases hroot with
    | index hx hn => exact .token (by simp) (.token (by simp) hdotted)
    | self => exact .word (Or.inl rfl) hdotted
    | all => exact .word (Or.inl rfl) hdotted
    | name hword => exact .word (Or.inl rfl) hdotted

theorem Priority.anchored {n : Nat} (h : Priority n ls) (hts : Anchored ts) : Anchored (ls.map Lexeme.token ++ ts) := by
  cases h with
  | absent => exact hts
  | clause p q r h hx hn =>
    have hclose : Anchored (.closeParen :: ts) := .token (by simp) hts
    have := Anchored.token (t := .openParen) (by simp) (.token (t := .atSign) (by simp) (h.anchored hclose))
    simpa using this

theorem Constants.anchored {cs : List Constant} (h : Constants cs ls) (hts : Anchored ts) :
    Anchored (ls.map Lexeme.token ++ ts) := by
  cases h with
  | number h => exact h.anchored hts
  | list h => exact h.anchored Entry.anchored hts

theorem Clause.anchored {cs : List Constant} (h : Clause cs ls) (hts : Anchored ts) :
    Anchored (ls.map Lexeme.token ++ ts) := by
  cases h with
  | absent => exact hts
  | plus p h => exact .token (by simp) (h.anchored hts)
  | minus p h => exact .token (by simp) (h.anchored hts)

theorem Right.anchored {t : RightTerm} (h : Right t ls) (hts : Anchored ts) : Anchored (ls.map Lexeme.token ++ ts) := by
  cases h with
  | plain h hc =>
    have := h.anchored (hc.anchored hts)
    simpa using this
  | after p h hm hc =>
    have := h.anchored (.token (t := .star) (by simp) (hm.anchored (hc.anchored hts)))
    simpa using this
  | before p q hm h hc =>
    have hgroup := h.anchored (.token (t := .closeParen) (by simp) (hc.anchored hts))
    have := hm.anchored (.token (t := .openParen) (by simp) hgroup)
    simpa using this
  | constant h => exact h.anchored hts

theorem anchored_of_derives {e : Equation} (h : Derives e ls) : Anchored (ls.map Lexeme.token) := by
  cases h with
  | @intro view attributes r priority right ls ps rs p q h hne hp hr =>
    have hend : Anchored [.eof] := .token (by simp) .nil
    have := h.anchored (.token (t := .relation r) (by simp) (hp.anchored (hr.anchored hend)))
    simpa using this

end Grammar

end LayoutEquations
