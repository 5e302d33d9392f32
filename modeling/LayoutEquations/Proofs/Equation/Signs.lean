import LayoutEquations.Proofs.Equation.Offsets
import LayoutEquations.Proofs.Equation.WellFormed
import LayoutEquations.Proofs.Grammar.Numbers
import LayoutEquations.Proofs.Token.Signs

/-!
# Signs in an equation's text

Blanks between a sign and its numeral leave the equation as it is, or the text is rejected (`ofText_detach`). A number
has at most one detached sign. So a number whose sign is part of it may stand behind another sign, and loses that when
blanks detach its own: `--5` is five and `-- 5` is no number.
-/

namespace LayoutEquations

open Grammar

variable {f : Nat → Nat} {c : Char} {s : Token} {ls : List Lexeme} {xs ys blanks : List Char} {src : String}

/-! ## Equations at other offsets -/

theorem RightTerm.move_beq {t : RightTerm} (ht : t.ForallNumbers (· ≠ .nan)) : (t.move f == t) = true := by
  have hview : (t.view.map (ViewPath.move f) == t.view) = true := by
    cases t.view with
    | none => rfl
    | some view => exact ViewPath.beq_iff.2 ⟨rfl, rfl⟩
  have hconstants : (t.constants == t.constants) = true := by
    apply Constant.list_beq_self_of
    intro c hc
    cases c with
    | value x => exact Number.beq_self_of_ne_nan (ht.constants x hc)
    | skip => rfl
  exact beq_iff.2 ⟨hview, rfl, rfl, Number.beq_self_of_ne_nan ht.multiplier, hconstants⟩

theorem Equation.move_beq {e : Equation} (he : e.right.ForallNumbers (· ≠ .nan)) : (e.move f == e) = true :=
  beq_iff.2 ⟨LeftTerm.beq_iff.2 ⟨ViewPath.beq_iff.2 ⟨rfl, rfl⟩, rfl⟩, rfl, rfl, RightTerm.move_beq he⟩

theorem kept_ne_nan : Kept (· ≠ .nan) where
  neg x hx := by cases x <;> simp_all [Neg.neg, Number.neg]
  zero := by decide
  one := by decide

theorem forall_ne_nan_of_ofText {e : Equation} (hlex : lex src = .ok ls) (h : Derives e ls) :
    e.right.ForallNumbers (· ≠ .nan) :=
  h.forall_numbers kept_ne_nan fun _ hl _ hx => ne_nan_of_lex hlex hl hx

theorem endsOnce_of_move (h : EndsOnce (ls.map (Lexeme.move f))) : EndsOnce ls := by
  obtain ⟨init, p, hls, hinit⟩ := h
  obtain ⟨front, back, rfl, rfl, hback⟩ := List.map_eq_append_iff.1 hls
  obtain ⟨l, rest, rfl, hl, hrest⟩ := List.map_eq_cons_iff.1 hback
  obtain rfl := List.map_eq_nil_iff.1 hrest
  have htoken : l.token = .eof := congrArg Lexeme.token hl
  refine ⟨front, l.pos, by rw [← htoken], fun l' hl' => ?_⟩
  exact hinit (l'.move f) (List.mem_map_of_mem hl')

theorem ofText_eq_ok_iff_of_move (hlex : lex src = .ok (ls.map (Lexeme.move f))) (e' : Equation) :
    Equation.ofText src = .ok e' ↔ ∃ e, Derives e ls ∧ e.move f = e' := by
  have hends : EndsOnce ls := endsOnce_of_move (endsOnce_of_lex hlex)
  have hne : ls ≠ [] := by
    rintro rfl
    exact ne_nil_of_lex hlex rfl
  rw [Equation.ofText, hlex, mapError_ok, ok_bind, mapError_eq_ok, Equation.ofLexemes_move f hne]
  simp only [← ofLexemes_eq_ok_iff hends]
  cases Equation.ofLexemes ls <;> simp

/-! ## A sign and the numeral behind it -/

theorem Numeral.value_true (n : Numeral) : n.value true = -n.value false := by
  unfold value Number.ofDecimal Number.ofRank
  split <;> rfl

theorem Sign.signedBy (hs : Sign c s) (n : Numeral) : SignedBy s (n.value (c == '-')) (n.value false) := by
  cases hs with
  | plus => exact .plus _
  | minus =>
    show SignedBy .minus (n.value true) (n.value false)
    rw [n.value_true]
    exact .minus _

variable {e : Equation} {front rest : List Lexeme} {p : Nat}

theorem derives_of_signLexemes (hs : Sign c s) (hone : endsInSign (behind [] front) = false)
    (h : Derives e (front ++ (signLexemes (behind [] front).head? p c s ys ++ rest))) :
    Derives e (front ++ ⟨p, s⟩ :: ⟨p + 1, numberAt false ys⟩ :: rest) := by
  unfold signLexemes at h
  split at h
  · next hallowed =>
    have hdetached : Detached (behind [] front) (⟨p, numberAt (c == '-') ys⟩ :: rest)
        (⟨p, s⟩ :: ⟨p + 1, numberAt false ys⟩ :: rest) :=
      .here p (p + 1) (hs.signedBy _) hallowed hone
    exact derives_of_detached h (hdetached.append_left front)
  · exact h

/-- Blanks between a sign and its numeral leave the meaning of an equation as it is. It is rejected with them exactly
where another detached sign of the same operand stands in front. -/
theorem ofText_detach (h : Equation.ofText src = .ok e) (hlex : lex src = .ok ls) (hsrc : src.toList = xs ++ c :: ys)
    (hc : c = '+' ∨ c = '-') (hys : Numeral.startsAt ys = true) (hblank : ∀ d ∈ blanks, isBlank d = true)
    (hne : blanks ≠ []) :
    ((∃ e', Equation.ofText (String.ofList (xs ++ c :: (blanks ++ ys))) = .ok e') ↔
        endsInSign (tokensBefore ls xs.length) = false) ∧
      ∀ e', Equation.ofText (String.ofList (xs ++ c :: (blanks ++ ys))) = .ok e' → (e' == e) = true := by
  obtain ⟨s, hs⟩ : ∃ s, Sign c s := by
    rcases hc with rfl | rfl
    · exact ⟨_, .plus⟩
    · exact ⟨_, .minus⟩
  have hderives := (ofText_eq_ok_iff_derives hlex).1 h
  have hnan := forall_ne_nan_of_ofText hlex hderives
  obtain ⟨front, rest, rfl, hbefore, hdetached⟩ := lex_detach hlex hsrc hs hys
  have hread := ofText_eq_ok_iff_of_move (hdetached blanks hne hblank)
  rw [hbefore]
  cases hone : endsInSign (behind [] front) with
  | true =>
    have hnone : ∀ e', Equation.ofText (String.ofList (xs ++ c :: (blanks ++ ys))) ≠ .ok e' := by
      intro e' he'
      obtain ⟨e'', hdoubled, -⟩ := (hread e').1 he'
      exact not_doubled_of_derives hdoubled (doubled_of_endsInSign hone hs.isSign _)
    refine ⟨⟨?_, fun hfalse => by cases hfalse⟩, fun e' he' => absurd he' (hnone e')⟩
    rintro ⟨e', he'⟩
    exact absurd he' (hnone e')
  | false =>
    have hmoved := (hread _).2 ⟨e, derives_of_signLexemes hs hone hderives, rfl⟩
    refine ⟨⟨fun _ => rfl, fun _ => ⟨_, hmoved⟩⟩, fun e' he' => ?_⟩
    rw [← Except.ok.inj (hmoved.symm.trans he')]
    exact Equation.move_beq hnan

/-- The lexemes of `$self.width=+3($x)---.5`: the first sign is part of the multiplier, and the others are the operator
of the constant clause, a detached sign, and one that is part of the constant. -/
def signedLexemes : List Lexeme :=
  [⟨0, .dollar⟩, ⟨1, .identifier "self"⟩, ⟨5, .dot⟩, ⟨6, .identifier "width"⟩, ⟨11, .relation .equal⟩,
    ⟨12, .number ((⟨['3'], []⟩ : Numeral).value false)⟩, ⟨14, .openParen⟩, ⟨15, .dollar⟩, ⟨16, .identifier "x"⟩,
    ⟨17, .closeParen⟩, ⟨18, .minus⟩, ⟨19, .minus⟩, ⟨20, .number ((⟨[], ['5']⟩ : Numeral).value true)⟩, ⟨23, .eof⟩]

def signedEquation : Equation where
  left := ⟨⟨.self, [], 0⟩, [.primitive .width]⟩
  relation := .equal
  priority := 1000
  right :=
    { view := some ⟨.name "x", [], 15⟩, multiplierPosition := .before, multiplier := .ofNat 3,
      constants := [.value ((⟨[], ['5']⟩ : Numeral).value true)] }

/-- Blanks behind the sign of the multiplier change nothing; those behind the last sign are no longer read. -/
theorem ofText_detach_sample :
    Equation.ofText "$self.width=+3($x)---.5" = .ok signedEquation ∧
      (∃ e, Equation.ofText "$self.width=+ 3($x)---.5" = .ok e ∧ (e == signedEquation) = true) ∧
      ¬ ∃ e, Equation.ofText "$self.width=+3($x)--- .5" = .ok e := by
  have hread : Equation.ofText "$self.width=+3($x)---.5" = .ok signedEquation := by decide +kernel
  have hlex : lex "$self.width=+3($x)---.5" = .ok signedLexemes := by decide +kernel
  have hblank : ∀ d ∈ [' '], isBlank d = true := List.forall_mem_singleton.2 (by decide)
  have hplus : "$self.width=+3($x)---.5".toList = "$self.width=".toList ++ '+' :: "3($x)---.5".toList := by
    decide +kernel
  have hminus : "$self.width=+3($x)---.5".toList = "$self.width=+3($x)--".toList ++ '-' :: ".5".toList := by
    decide +kernel
  obtain ⟨haccepted, hequal⟩ := ofText_detach hread hlex hplus (.inl rfl) (by decide +kernel) hblank (by simp)
  obtain ⟨hrejected, -⟩ := ofText_detach hread hlex hminus (.inr rfl) (by decide +kernel) hblank (by simp)
  have hplusText : String.ofList ("$self.width=".toList ++ '+' :: ([' '] ++ "3($x)---.5".toList)) =
      "$self.width=+ 3($x)---.5" := by decide +kernel
  have hminusText : String.ofList ("$self.width=+3($x)--".toList ++ '-' :: ([' '] ++ ".5".toList)) =
      "$self.width=+3($x)--- .5" := by decide +kernel
  rw [hplusText] at haccepted hequal
  rw [hminusText] at hrejected
  have hone : endsInSign (tokensBefore signedLexemes "$self.width=".toList.length) = false := by decide +kernel
  have htwo : endsInSign (tokensBefore signedLexemes "$self.width=+3($x)--".toList.length) = true := by decide +kernel
  obtain ⟨e, he⟩ := haccepted.2 hone
  refine ⟨hread, ⟨e, he, hequal e he⟩, fun haccepted => ?_⟩
  have := hrejected.1 haccepted
  rw [htwo] at this
  cases this

def widthFive : Equation where
  left := ⟨⟨.self, [], 0⟩, [.primitive .width]⟩
  relation := .equal
  priority := 1000
  right := { view := none, constants := [.value (.ofDecimal false ⟨5, 0⟩)] }

theorem not_ofText_detach :
    ¬ ∀ (src : String) (e : Equation) (xs ys blanks : List Char) (c : Char), Equation.ofText src = .ok e →
      src.toList = xs ++ c :: ys → c = '+' ∨ c = '-' → Numeral.startsAt ys = true → (∀ d ∈ blanks, isBlank d = true) →
        ∃ e', Equation.ofText (String.ofList (xs ++ c :: (blanks ++ ys))) = .ok e' ∧ (e' == e) = true := by
  intro h
  have hflush : Equation.ofText "$self.width = --5" = .ok widthFive := by decide +kernel
  have hdetached : Equation.ofText (String.ofList ("$self.width = -".toList ++ '-' :: ([' '] ++ ['5']))) =
      .error (.parse (.expected .rightTerm .minus 14)) := by decide +kernel
  obtain ⟨e', he', -⟩ := h "$self.width = --5" widthFive "$self.width = -".toList ['5'] [' '] '-' hflush
    (by decide +kernel) (.inr rfl) rfl (List.forall_mem_singleton.2 (by decide))
  rw [hdetached] at he'
  cases he'

end LayoutEquations
