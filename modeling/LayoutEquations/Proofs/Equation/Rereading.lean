import LayoutEquations.Proofs.Equation.Tokens

/-!
# Deriving an equation from its tokens

Lexemes that carry the tokens of a well-formed equation with finite numbers spell that equation
(`derives_of_tokens`), up to what the canonical form leaves out: where the views stand, and the sign of a constant zero
that is not written (`Equation.placed`).
-/

namespace LayoutEquations

open Grammar

/-! ## What the canonical form keeps -/

def ViewPath.placed (p : ViewPath) (pos : Nat) : ViewPath := { p with pos }

/-- The constants behind a view as they are read back: those that are not written are zero. -/
def RightTerm.writtenConstants (t : RightTerm) : List Constant :=
  if t.hasDefaultConstant then [.value .zero] else t.constants

def RightTerm.placed (t : RightTerm) (pos : Nat) : RightTerm :=
  match t.view with
  | none => t
  | some view => { t with view := view.placed pos, constants := t.writtenConstants }

def Equation.placed (e : Equation) (left right : Nat) : Equation :=
  { e with left := { e.left with view := e.left.view.placed left }, right := e.right.placed right }

theorem RightTerm.writtenConstants_beq {t : RightTerm} (ht : t.Finite) :
    (t.writtenConstants == t.constants) = true := by
  unfold writtenConstants
  split
  · next hdefault => exact Constant.singleton_beq hdefault
  · exact Constant.list_beq_self ht.2

theorem RightTerm.writtenConstants_default (t : RightTerm) :
    (t.writtenConstants == [.value .zero]) = t.hasDefaultConstant := by
  unfold writtenConstants
  split
  · next hdefault =>
    rw [hdefault]
    decide
  · rfl

theorem RightTerm.writtenConstants_of_not_default {t : RightTerm} (h : t.hasDefaultConstant = false) :
    t.writtenConstants = t.constants := by
  rw [writtenConstants, h]
  rfl

theorem RightTerm.placed_beq {t : RightTerm} (ht : t.Finite) (pos : Nat) : (t.placed pos == t) = true := by
  unfold placed
  split
  · next hview =>
    have hnone : (t.view == t.view) = true := by
      rw [hview]
      rfl
    exact beq_iff.2 ⟨hnone, rfl, rfl, Number.beq_self ht.1, Constant.list_beq_self ht.2⟩
  · next view hview =>
    have hsome : (some (view.placed pos) == t.view) = true := by
      rw [hview]
      exact ViewPath.beq_iff.2 ⟨rfl, rfl⟩
    exact beq_iff.2 ⟨hsome, rfl, rfl, Number.beq_self ht.1, writtenConstants_beq ht⟩

theorem Equation.placed_beq {e : Equation} (he : e.right.Finite) (left right : Nat) :
    (e.placed left right == e) = true :=
  beq_iff.2 ⟨LeftTerm.beq_iff.2 ⟨ViewPath.beq_iff.2 ⟨rfl, rfl⟩, rfl⟩, rfl, rfl, e.right.placed_beq he right⟩

theorem RightTerm.render_placed (t : RightTerm) (pos : Nat) : (t.placed pos).render = t.render := by
  unfold placed
  split
  · rfl
  · next view hview =>
    unfold render
    rw [hview]
    show renderOperand { t with view := view.placed pos, constants := t.writtenConstants } (view.placed pos) ++
      (if t.writtenConstants == [.value .zero] then "" else " + " ++ Constant.renderList t.writtenConstants) = _
    rw [writtenConstants_default]
    cases hdefault : t.hasDefaultConstant with
    | true => rfl
    | false =>
      rw [writtenConstants_of_not_default hdefault]
      rfl

theorem Equation.render_placed (e : Equation) (left right : Nat) : (e.placed left right).render = e.render := by
  unfold render
  rw [show (e.placed left right).right.render = e.right.render from e.right.render_placed right]
  rfl

/-! ## Numbers and lists -/

variable {ls : List Lexeme}

theorem exists_cons_of_tokens {t : Token} {ts : List Token} (h : ls.map Lexeme.token = t :: ts) :
    ∃ p rest, ls = ⟨p, t⟩ :: rest ∧ rest.map Lexeme.token = ts := by
  obtain ⟨⟨p, t'⟩, rest, rfl, rfl, hrest⟩ := List.map_eq_cons_iff.1 h
  exact ⟨p, rest, rfl, hrest⟩

theorem exists_singleton_of_tokens {t : Token} (h : ls.map Lexeme.token = [t]) : ∃ p, ls = [⟨p, t⟩] := by
  obtain ⟨p, rest, rfl, hrest⟩ := exists_cons_of_tokens h
  rw [List.map_eq_nil_iff.1 hrest]
  exact ⟨p, rfl⟩

theorem signed_of_tokens {x : Number} (hx : x.isFinite = true) {signed : Bool}
    (h : ls.map Lexeme.token = x.tokens signed) : Signed x ls := by
  rcases x with _ | s | ⟨s, r⟩
  · cases hx
  · cases hx
  cases s with
  | false =>
    obtain ⟨p, rfl⟩ := exists_singleton_of_tokens h
    exact .plain p _
  | true =>
    cases signed with
    | true =>
      obtain ⟨p, rfl⟩ := exists_singleton_of_tokens h
      exact .plain p _
    | false =>
      obtain ⟨p, rest, rfl, hrest⟩ := exists_cons_of_tokens h
      obtain ⟨q, rfl⟩ := exists_singleton_of_tokens hrest
      exact .minus p q (.finite false r)

theorem separated_of_tokens {α : Type} {Item : α → List Lexeme → Prop} {tokens : α → List Token} {as : List α}
    (hne : as ≠ []) (hitem : ∀ a ∈ as, ∀ ls, ls.map Lexeme.token = tokens a → Item a ls)
    (h : ls.map Lexeme.token = [Token.comma].intercalate (as.map tokens)) : Separated Item as ls := by
  induction as generalizing ls with
  | nil => exact absurd rfl hne
  | cons a as ih =>
    cases as with
    | nil => exact .one (hitem a (by simp) ls (by simpa using h))
    | cons b bs =>
      rw [List.map_cons, List.map_cons, List.intercalate_cons_cons, List.append_assoc] at h
      obtain ⟨ms, rest, rfl, hms, hrest⟩ := List.map_eq_append_iff.1 h
      obtain ⟨p, tail, rfl, htail⟩ := exists_cons_of_tokens hrest
      exact .more p (hitem a (by simp) ms hms)
        (ih (List.cons_ne_nil _ _) (fun a ha => hitem a (List.mem_cons_of_mem _ ha)) htail)

theorem parenthesized_of_tokens {α : Type} {Item : α → List Lexeme → Prop} {tokens : α → List Token} {as : List α}
    (hne : as ≠ []) (hitem : ∀ a ∈ as, ∀ ls, ls.map Lexeme.token = tokens a → Item a ls)
    (h : ls.map Lexeme.token = parenthesizedTokens (as.map tokens)) : Parenthesized Item as ls := by
  obtain ⟨p, rest, rfl, hrest⟩ := exists_cons_of_tokens h
  obtain ⟨ms, close, rfl, hms, hclose⟩ := List.map_eq_append_iff.1 hrest
  obtain ⟨q, rfl⟩ := exists_singleton_of_tokens hclose
  exact .intro p q (separated_of_tokens hne hitem hms)

/-! ## View references -/

theorem keyword_of_tokens (a : AttributeName) (h : ls.map Lexeme.token = [.identifier a.name]) : Keyword a ls := by
  obtain ⟨p, rfl⟩ := exists_singleton_of_tokens h
  exact .intro p a.ofWord?_name

theorem root_token {root : ViewRef} (h : root.WellFormed) : Root root root.token := by
  cases root with
  | self => exact .self
  | all => exact .all
  | index n =>
    have hn : n ≤ 4294967295 := h
    have hbound : 4294967295 < 2 * Rank.binade := by decide
    exact .index (Number.toNat?_ofNat (by omega)) hn
  | name word => exact .name h.2

/-- A word at the end of a reference without attributes must be no attribute name; any other word has a point behind
it. -/
theorem dotted_of_tokens {words : List String} {as : List AttributeName}
    (hends : as = [] → ∀ word ∈ words.getLast?, AttributeName.ofWord? word = none)
    (h : ls.map Lexeme.token = segmentTokens words ++ AttributeName.listTokens as) : Dotted words as ls := by
  induction words generalizing ls with
  | nil =>
    rcases as with _ | ⟨a, _ | ⟨b, bs⟩⟩
    · rw [List.map_eq_nil_iff.1 h]
      exact .nothing
    · obtain ⟨p, rest, rfl, hrest⟩ := exists_cons_of_tokens h
      obtain ⟨q, rfl⟩ := exists_singleton_of_tokens hrest
      exact .single p q a.ofWord?_name
    · obtain ⟨p, rest, rfl, hrest⟩ := exists_cons_of_tokens h
      exact .list p (parenthesized_of_tokens (List.cons_ne_nil _ _) (fun a _ _ => keyword_of_tokens a) hrest)
  | cons word words ih =>
    obtain ⟨p, rest, rfl, hrest⟩ := exists_cons_of_tokens h
    obtain ⟨q, tail, rfl, htail⟩ := exists_cons_of_tokens hrest
    refine .segment p q ?_ (ih (fun has w hw => hends has w ?_) htail)
    · -- whatever follows, the next segment or the attributes, starts with a point
      rw [← List.head?_map, htail]
      rcases words with _ | ⟨w, ws⟩
      · rcases as with _ | ⟨a, _ | ⟨b, bs⟩⟩
        · exact Or.inl (hends rfl word rfl)
        · exact Or.inr rfl
        · exact Or.inr rfl
      · exact Or.inr rfl
    · cases words with
      | nil => cases hw
      | cons => exact hw

theorem operand_of_tokens {p : ViewPath} (hp : p.WellFormed) {as : List AttributeName}
    (hends : as = [] → p.EndsInSegment) (h : ls.map Lexeme.token = p.tokens ++ AttributeName.listTokens as) :
    ∃ pos, Operand (p.placed pos) as ls := by
  obtain ⟨pos, rest, rfl, hrest⟩ := exists_cons_of_tokens h
  obtain ⟨q, tail, rfl, htail⟩ := exists_cons_of_tokens hrest
  exact ⟨pos, .intro pos q (root_token hp.root) (dotted_of_tokens hends htail)⟩

/-! ## Behind the relation -/

theorem priority_of_tokens {n : Nat} (hn : 1 ≤ n ∧ n ≤ 1000) (h : ls.map Lexeme.token = priorityTokens n) :
    Priority n ls := by
  unfold priorityTokens at h
  split at h
  · next hrequired =>
    rw [List.map_eq_nil_iff.1 h, hrequired]
    exact .absent
  · obtain ⟨p, rest, rfl, hrest⟩ := exists_cons_of_tokens h
    obtain ⟨q, tail, rfl, htail⟩ := exists_cons_of_tokens hrest
    obtain ⟨o, close, rfl, hclose⟩ := exists_cons_of_tokens htail
    obtain ⟨r, rfl⟩ := exists_singleton_of_tokens hclose
    have hbound : 1000 < 2 * Rank.binade := by decide
    exact .clause p q r (.plain o _) (Number.toNat?_ofNat (by omega)) hn

theorem entry_of_tokens {c : Constant} (hc : c.isFinite = true)
    (h : ls.map Lexeme.token = c.tokens) : Entry c ls := by
  cases c with
  | value x => exact .value (signed_of_tokens hc h)
  | skip =>
    obtain ⟨p, rfl⟩ := exists_singleton_of_tokens h
    exact .skip p

theorem constants_of_tokens {cs : List Constant} (hne : cs ≠ []) (hcs : ∀ c ∈ cs, c.isFinite = true)
    {signed : Bool} (h : ls.map Lexeme.token = Constant.listTokens signed cs) : Constants cs ls := by
  unfold Constant.listTokens at h
  split at h
  · next x => exact .number (signed_of_tokens (hcs (.value x) (by simp)) h)
  · exact .list (parenthesized_of_tokens hne (fun c hc _ => entry_of_tokens (hcs c hc)) h)

theorem clause_of_tokens {t : RightTerm} (hne : t.constants ≠ []) (ht : t.Finite)
    (h : ls.map Lexeme.token = t.clauseTokens) : Clause t.writtenConstants ls := by
  unfold RightTerm.clauseTokens at h
  split at h
  · next hdefault =>
    rw [List.map_eq_nil_iff.1 h, RightTerm.writtenConstants, if_pos hdefault]
    exact .absent
  · next hwritten =>
    obtain ⟨p, rest, rfl, hrest⟩ := exists_cons_of_tokens h
    rw [RightTerm.writtenConstants_of_not_default (by simpa using hwritten)]
    exact .plus p (constants_of_tokens hne ht.2 hrest)

theorem right_of_tokens {t : RightTerm} (hwf : t.WellFormed) (ht : t.Finite) {signed : Bool}
    (h : ls.map Lexeme.token = t.tokens signed) : ∃ pos, Right (t.placed pos) ls := by
  obtain ⟨view, as, position, multiplier, constants⟩ := t
  cases view with
  | none =>
    obtain ⟨rfl, rfl⟩ : as = [] ∧ position = .omitted := hwf.constant rfl
    obtain rfl : multiplier = .one := hwf.omitted rfl
    exact ⟨0, .constant (constants_of_tokens hwf.constants_ne_nil ht.2 h)⟩
  | some view =>
    obtain ⟨hview, hends⟩ := hwf.view view rfl
    obtain ⟨ms, rest, rfl, hms, hrest⟩ := List.map_eq_append_iff.1 h
    have hclause := clause_of_tokens hwf.constants_ne_nil ht hrest
    cases position with
    | omitted =>
      obtain rfl : multiplier = .one := hwf.omitted rfl
      obtain ⟨pos, hoperand⟩ := operand_of_tokens hview hends hms
      exact ⟨pos, .plain hoperand hclause⟩
    | after =>
      obtain ⟨os, star, rfl, hos, hstar⟩ := List.map_eq_append_iff.1 hms
      obtain ⟨pos, hoperand⟩ := operand_of_tokens hview hends hos
      obtain ⟨p, ns, rfl, hns⟩ := exists_cons_of_tokens hstar
      refine ⟨pos, ?_⟩
      rw [List.append_assoc, List.cons_append]
      exact .after p hoperand (signed_of_tokens ht.1 hns) hclause
    | before =>
      obtain ⟨ns, group, rfl, hns, hgroup⟩ := List.map_eq_append_iff.1 hms
      obtain ⟨p, inner, rfl, hinner⟩ := exists_cons_of_tokens hgroup
      obtain ⟨os, close, rfl, hos, hclose⟩ := List.map_eq_append_iff.1 hinner
      obtain ⟨q, rfl⟩ := exists_singleton_of_tokens hclose
      obtain ⟨pos, hoperand⟩ := operand_of_tokens hview hends hos
      refine ⟨pos, ?_⟩
      rw [List.append_assoc, List.cons_append, List.append_assoc, List.singleton_append]
      exact .before p q (signed_of_tokens ht.1 hns) hoperand hclause

/-- Lexemes with the tokens of a well-formed equation spell that equation. -/
theorem derives_of_tokens {e : Equation} (hwf : e.WellFormed) (he : e.right.Finite)
    (h : ls.map Lexeme.token = e.tokens ++ [.eof]) : ∃ left right, Derives (e.placed left right) ls := by
  obtain ⟨all, stop, rfl, hall, hstop⟩ := List.map_eq_append_iff.1 h
  obtain ⟨q, rfl⟩ := exists_singleton_of_tokens hstop
  obtain ⟨front, rs, rfl, hfront, hrs⟩ := List.map_eq_append_iff.1 hall
  obtain ⟨ms, ps, rfl, hms, hps⟩ := List.map_eq_append_iff.1 hfront
  obtain ⟨os, relation, rfl, hos, hrelation⟩ := List.map_eq_append_iff.1 hms
  obtain ⟨p, rfl⟩ := exists_singleton_of_tokens hrelation
  obtain ⟨left, hoperand⟩ := operand_of_tokens hwf.view (fun has => absurd has hwf.attributes_ne_nil) hos
  obtain ⟨right, hright⟩ := right_of_tokens hwf.right he hrs
  refine ⟨left, right, ?_⟩
  rw [List.append_assoc, List.append_assoc, List.append_assoc, List.singleton_append]
  exact .intro p q hoperand hwf.attributes_ne_nil (priority_of_tokens hwf.priority hps) hright

end LayoutEquations
