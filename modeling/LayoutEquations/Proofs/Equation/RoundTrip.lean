import LayoutEquations.Proofs.Equation.Rereading
import LayoutEquations.Proofs.Grammar.Anchored

/-!
# Reading the canonical form

The canonical form of a well-formed equation with finite numbers is read as the equation again
(`ofText_render`). With a number that is not finite it has a word where none can stand, and no text of an equation
does (`ofText_render_of_not_finite`). Since a text spells well-formed equations only, the two say which equations
survive being written.
-/

namespace LayoutEquations

open Grammar

/-! ## Finite numbers -/

theorem exists_lexemes_of_spells {src : String} {ts : List Token} (h : Spells src.toList ts) :
    ∃ ls, lex src = .ok ls ∧ ls.map Lexeme.token = ts :=
  h none 0

theorem ofText_render {e : Equation} (hwf : e.WellFormed) (he : e.right.Finite) :
    ∃ left right, Equation.ofText e.render = .ok (e.placed left right) := by
  obtain ⟨ls, hlex, htokens⟩ := exists_lexemes_of_spells (spells_render hwf)
  obtain ⟨left, right, hderives⟩ := derives_of_tokens hwf he htokens
  exact ⟨left, right, (ofText_eq_ok_iff_derives hlex).2 hderives⟩

/-! ## Numbers that are not finite -/

theorem looseWord_number {x : Number} (hx : x.isFinite ≠ true) {t : Token} (ht : t ≠ .dollar ∧ t ≠ .dot)
    (signed : Bool) : LooseWord (t :: x.tokens signed) := by
  rcases x with _ | s | ⟨s, r⟩
  · exact ⟨t, "NaN", List.infix_rfl, ht.1, ht.2, by decide⟩
  · cases s with
    | false => exact ⟨t, "inf", List.infix_rfl, ht.1, ht.2, by decide⟩
    | true => exact ⟨.minus, "inf", ⟨[t], [], rfl⟩, by simp, by simp, by decide⟩
  · exact absurd rfl hx

theorem looseWord_items {x : Number} (hx : x.isFinite ≠ true) {cs : List Constant} (hmem : .value x ∈ cs)
    {t : Token} (ht : t ≠ .dollar ∧ t ≠ .dot) :
    LooseWord (t :: [Token.comma].intercalate (cs.map Constant.tokens)) := by
  induction cs generalizing t with
  | nil => cases hmem
  | cons c cs ih =>
    cases cs with
    | nil =>
      obtain rfl := List.mem_singleton.1 hmem
      rw [List.map_singleton, List.intercalate_singleton]
      exact looseWord_number hx ht true
    | cons d ds =>
      rw [List.map_cons, List.map_cons, List.intercalate_cons_cons, List.append_assoc]
      rcases List.mem_cons.1 hmem with rfl | hmem
      · exact (looseWord_number hx ht true).mono ⟨[], _, rfl⟩
      · exact (ih hmem (t := .comma) (by simp)).mono ⟨t :: c.tokens, [], by simp⟩

theorem looseWord_constants {x : Number} (hx : x.isFinite ≠ true) {cs : List Constant} (hmem : .value x ∈ cs)
    {t : Token} (ht : t ≠ .dollar ∧ t ≠ .dot) (signed : Bool) : LooseWord (t :: Constant.listTokens signed cs) := by
  unfold Constant.listTokens
  split
  · obtain rfl : x = _ := Constant.value.inj (List.mem_singleton.1 hmem)
    exact looseWord_number hx ht signed
  · exact (looseWord_items hx hmem (t := .openParen) (by simp)).mono
      ⟨[t], [.closeParen], by simp [parenthesizedTokens]⟩

theorem exists_of_not_finite {t : RightTerm} (h : ¬ t.Finite) :
    t.multiplier.isFinite ≠ true ∨ ∃ x, .value x ∈ t.constants ∧ x.isFinite ≠ true := by
  by_cases hmultiplier : t.multiplier.isFinite = true
  · right
    by_contra hall
    refine h ⟨hmultiplier, fun c hc => ?_⟩
    cases c with
    | value x =>
      by_contra hx
      exact hall ⟨x, hc, hx⟩
    | skip => rfl
  · exact Or.inl hmultiplier

theorem isFinite_of_default {t : RightTerm} (h : t.hasDefaultConstant = true) :
    ∀ c ∈ t.constants, c.isFinite = true := by
  intro c hc
  have h : (t.constants == [.value .zero]) = true := h
  rcases hconstants : t.constants with _ | ⟨d, _ | ⟨d', ds⟩⟩
  · rw [hconstants] at hc
    cases hc
  · rw [hconstants, List.cons_beq_cons, Bool.and_eq_true] at h
    rw [hconstants] at hc
    obtain rfl := List.mem_singleton.1 hc
    cases c with
    | value x => exact Number.isFinite_of_beq (y := .zero) h.1 (by decide)
    | skip => rfl
  · rw [hconstants, List.cons_beq_cons, Bool.and_eq_true] at h
    cases h.2

theorem looseWord_right {t : RightTerm} (hwf : t.WellFormed) (ht : ¬ t.Finite) {u : Token}
    (hu : u ≠ .dollar ∧ u ≠ .dot) (signed : Bool) : LooseWord (u :: t.tokens signed) := by
  unfold RightTerm.tokens
  rcases exists_of_not_finite ht with hmultiplier | ⟨x, hmem, hx⟩
  · have hwritten : t.multiplierPosition ≠ .omitted := by
      intro homitted
      rw [hwf.omitted homitted] at hmultiplier
      exact hmultiplier (by decide)
    cases hview : t.view with
    | none => exact absurd (hwf.constant hview).2 hwritten
    | some view =>
      unfold RightTerm.operandTokens
      cases hposition : t.multiplierPosition with
      | omitted => exact absurd hposition hwritten
      | before =>
        exact (looseWord_number hmultiplier hu signed).mono
          ⟨[], .openParen :: (view.tokens ++ AttributeName.listTokens t.attributes ++ .closeParen :: t.clauseTokens),
            by simp⟩
      | after =>
        exact (looseWord_number hmultiplier (t := .star) (by simp) true).mono
          ⟨u :: (view.tokens ++ AttributeName.listTokens t.attributes), t.clauseTokens, by simp⟩
  · cases hview : t.view with
    | none => exact looseWord_constants hx hmem hu signed
    | some view =>
      have hdefault : t.hasDefaultConstant ≠ true := fun hdefault => hx (isFinite_of_default hdefault _ hmem)
      have hclause : t.clauseTokens = .plus :: Constant.listTokens true t.constants := if_neg hdefault
      exact (looseWord_constants hx hmem (t := .plus) (by simp) true).mono
        ⟨u :: t.operandTokens signed view, [], by simp [hclause]⟩

theorem looseWord_equation {e : Equation} (hwf : e.WellFormed) (he : ¬ e.right.Finite) : LooseWord e.tokens := by
  unfold Equation.tokens Equation.leftTokens priorityTokens
  by_cases hpriority : e.priority = requiredPriority
  · exact (looseWord_right hwf.right he (u := .relation e.relation) (by simp) (e.priority == requiredPriority)).mono
      ⟨e.left.view.tokens ++ AttributeName.listTokens e.left.attributes, [], by simp [hpriority]⟩
  · exact (looseWord_right hwf.right he (u := .closeParen) (by simp) (e.priority == requiredPriority)).mono
      ⟨e.leftTokens ++ [.openParen, .atSign, .number (.ofNat e.priority)], [],
        by simp [hpriority, Equation.leftTokens]⟩

/-- The number that is not finite stands in the canonical form as a word where no word can stand. -/
theorem ofText_render_of_not_finite {e : Equation} (hwf : e.WellFormed) (he : ¬ e.right.Finite) :
    ∃ err, Equation.ofText e.render = .error (.parse err) := by
  obtain ⟨ls, hlex, htokens⟩ := exists_lexemes_of_spells (spells_render hwf)
  cases hread : Equation.ofLexemes ls with
  | error err => exact ⟨err, by rw [Equation.ofText, hlex, mapError_ok, ok_bind, hread, mapError_error]⟩
  | ok e' =>
    have hanchored := anchored_of_derives ((ofLexemes_eq_ok_iff (endsOnce_of_lex hlex)).1 hread)
    rw [htokens] at hanchored
    have hloose := (looseWord_equation hwf he).mono (List.prefix_append _ [.eof]).isInfix
    exact absurd hloose (not_looseWord_of_anchored hanchored)

/-! ## What survives being written -/

/-- The equation of a text is read back from its canonical form, and has the same canonical form, exactly when its
numbers are finite. With another number the canonical form has tokens but no derivation. -/
theorem ofText_render_ofText {src : String} {e : Equation} (h : Equation.ofText src = .ok e) :
    ((∃ e', Equation.ofText e.render = .ok e') ↔ e.right.Finite) ∧
      (e.right.Finite → ∃ e', Equation.ofText e.render = .ok e' ∧ (e' == e) = true ∧ e'.render = e.render) ∧
      (¬ e.right.Finite → ∃ err, Equation.ofText e.render = .error (.parse err)) := by
  have hwf := wellFormed_of_ofText h
  have hfinite : e.right.Finite →
      ∃ e', Equation.ofText e.render = .ok e' ∧ (e' == e) = true ∧ e'.render = e.render := by
    intro he
    obtain ⟨left, right, hread⟩ := ofText_render hwf he
    exact ⟨_, hread, e.placed_beq he left right, e.render_placed left right⟩
  refine ⟨⟨fun ⟨e', hread⟩ => ?_, fun he => ?_⟩, hfinite, ofText_render_of_not_finite hwf⟩
  · by_contra he
    obtain ⟨err, herror⟩ := ofText_render_of_not_finite hwf he
    rw [hread] at herror
    cases herror
  · obtain ⟨e', hread, -⟩ := hfinite he
    exact ⟨e', hread⟩

/-- What `$self.center.(width,height)>=(@ 750)- 2 ($x.y)-(0,.1,-)` spells: its canonical form has a multiplier behind a
priority, a negative zero and a skip. -/
def scaledEquation : Equation where
  left := ⟨⟨.self, ["center"], 0⟩, [.primitive .width, .primitive .height]⟩
  relation := .greaterOrEqual
  priority := 750
  right :=
    { view := some ⟨.name "x", ["y"], 41⟩, multiplierPosition := .before, multiplier := -.ofNat 2,
      constants := [.value (-.zero), .value ((⟨['0'], ['1']⟩ : Numeral).value true), .skip] }

/-- What `$a.top=` and a numeral of 310 digits spell. -/
def hugeEquation : Equation where
  left := ⟨⟨.name "a", [], 0⟩, [.primitive .top]⟩
  relation := .equal
  priority := 1000
  right := { view := none, constants := [.value (.infinite false)] }

theorem ofText_render_ofText_sample :
    (∃ src, Equation.ofText src = .ok scaledEquation ∧ scaledEquation.right.Finite ∧
      ∃ e', Equation.ofText scaledEquation.render = .ok e' ∧ (e' == scaledEquation) = true ∧
        e'.render = scaledEquation.render) ∧
    ∃ src, Equation.ofText src = .ok hugeEquation ∧ ¬ hugeEquation.right.Finite ∧
      ∃ err, Equation.ofText hugeEquation.render = .error (.parse err) := by
  have hscaled : Equation.ofText "$self.center.(width,height)>=(@ 750)- 2 ($x.y)-(0,.1,-)" = .ok scaledEquation := by
    decide +kernel
  have hhuge : Equation.ofText (.ofList (['$', 'a', '.', 't', 'o', 'p', '=', '1'] ++ List.replicate 309 '0')) =
      .ok hugeEquation := by
    rw [Equation.ofText, lex, String.toList_ofList]
    decide +kernel
  have hfinite : scaledEquation.right.Finite := by decide +kernel
  have hinfinite : ¬ hugeEquation.right.Finite := by decide +kernel
  exact ⟨⟨_, hscaled, hfinite, (ofText_render_ofText hscaled).2.1 hfinite⟩,
    ⟨_, hhuge, hinfinite, (ofText_render_ofText hhuge).2.2 hinfinite⟩⟩

/-- Of the equations with finite numbers, the well-formed ones and no other are read back from their canonical form. -/
theorem ofText_render_iff_wellFormed (e : Equation) (he : e.right.Finite) :
    (∃ e', Equation.ofText e.render = .ok e' ∧ (e' == e) = true) ↔ e.WellFormed := by
  constructor
  · rintro ⟨e', hread, hsame⟩
    exact (wellFormed_of_ofText hread).of_beq hsame
  · intro hwf
    obtain ⟨left, right, hread⟩ := ofText_render hwf he
    exact ⟨_, hread, e.placed_beq he left right⟩

/-- A multiplier at its place, a key path that ends in a segment, and a constant zero with a sign. -/
def writtenEquation : Equation where
  left := ⟨⟨.index 4294967295, ["top"], 7⟩, [.center]⟩
  relation := .lessOrEqual
  priority := 1
  right :=
    { view := some ⟨.all, ["top", "x"], 3⟩, multiplierPosition := .after, multiplier := .one,
      constants := [.value (-.zero)] }

/-- The key path ends in an attribute name, which is read as an attribute. -/
def misreadEquation : Equation where
  left := ⟨⟨.self, [], 0⟩, [.size]⟩
  relation := .equal
  priority := 1000
  right := { view := some ⟨.name "x", ["top"], 0⟩ }

theorem ofText_render_iff_wellFormed_sample :
    (writtenEquation.right.Finite ∧ writtenEquation.WellFormed ∧
      ∃ e', Equation.ofText writtenEquation.render = .ok e' ∧ (e' == writtenEquation) = true) ∧
    misreadEquation.right.Finite ∧ ¬ misreadEquation.WellFormed ∧
      ¬ ∃ e', Equation.ofText misreadEquation.render = .ok e' ∧ (e' == misreadEquation) = true := by
  have hfinite : writtenEquation.right.Finite := by decide +kernel
  have hwf : writtenEquation.WellFormed := by
    refine ⟨⟨Nat.le_refl _, by decide +kernel⟩, by decide, by decide,
      ⟨by decide, fun h => (by cases h), fun _ => rfl, ?_⟩⟩
    intro view hview
    obtain rfl := Option.some.inj hview
    refine ⟨⟨trivial, by decide +kernel⟩, fun _ word hword => ?_⟩
    obtain rfl := Option.some.inj hword
    decide
  have hfinite' : misreadEquation.right.Finite := by decide +kernel
  have hmisread : ¬ misreadEquation.WellFormed := by
    intro h
    have hends := (h.right.view _ rfl).2 rfl "top" rfl
    exact absurd hends (by decide)
  exact ⟨⟨hfinite, hwf, (ofText_render_iff_wellFormed _ hfinite).2 hwf⟩, hfinite', hmisread,
    fun h => hmisread ((ofText_render_iff_wellFormed _ hfinite').1 h)⟩

end LayoutEquations
