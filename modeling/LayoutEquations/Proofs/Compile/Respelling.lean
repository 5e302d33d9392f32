import LayoutEquations.Proofs.Compile.Renaming
import LayoutEquations.Proofs.Compile.Spacing
import LayoutEquations.Proofs.Equation.Respelling

/-!
# Equivalent spellings compile alike

The constraints of an equation do not depend on where its multiplier is written, nor on its offsets, and negating the
constants of an equation negates the constant of each constraint (`Equation.compile_negateConstants`). So the spellings
of a multiplier and of a difference mean what they look like (`compileEquation_respelled`).
-/

namespace LayoutEquations

open Grammar

variable {V : Type}

/-! ## Negated constants -/

def Constraint.negateConstant (c : Constraint V) : Constraint V := { c with constant := -c.constant }

def Target.negateConstant (t : Target V) : Target V := { t with constant := -t.constant }

namespace Operands

def negateConstants (o : Operands V) : Operands V := { o with constants := o.constants.map Constant.neg }

theorem target?_neg (entry : ((V × Attribute) × Option V × Attribute × Constant) × Nat) :
    target? (Prod.map (Prod.map id (Prod.map id (Prod.map id Constant.neg))) id entry) =
      (target? entry).map Target.negateConstant := by
  obtain ⟨⟨item, view, a, c⟩, index⟩ := entry
  cases c <;> rfl

theorem align_negateConstants (o : Operands V) :
    o.negateConstants.align = o.align.map (List.map Target.negateConstant) := by
  rw [align, align]
  show (if o.items.isEmpty then _ else _) = _
  split
  · rfl
  · refine bind_eq_map_bind (congrFun Except.map_id _).symm fun attributes => ?_
    refine bind_eq_map_bind (congrFun Except.map_id _).symm fun views => ?_
    refine bind_eq_map_bind (spread_map _ _ Constant.neg _) fun constants => congrArg Except.ok ?_
    have hentries : o.items.zip (views.zip (attributes.zip (constants.map Constant.neg))) =
        (o.items.zip (views.zip (attributes.zip constants))).map
          (Prod.map id (Prod.map id (Prod.map id Constant.neg))) := by
      rw [← List.zip_map, ← List.zip_map, ← List.zip_map, List.map_id, List.map_id, List.map_id]
    show List.filterMap _ (o.items.zip (views.zip (attributes.zip (constants.map Constant.neg)))).zipIdx = _
    rw [hentries, List.zipIdx_map, List.filterMap_map, List.map_filterMap]
    exact congrArg (List.filterMap · _) (funext target?_neg)

end Operands

variable [DecidableEq V]

/-- With its constants negated, an equation has the same constraints with the opposite constants. -/
theorem Equation.compile_negateConstants (scope : Scope V) (e : Equation) :
    e.negateConstants.compile scope = (e.compile scope).map (List.map Constraint.negateConstant) := by
  have hoperands : e.negateConstants.operands scope = (e.operands scope).map Operands.negateConstants := by
    refine bind_eq_map_bind (congrFun Except.map_id _).symm fun leftViews => ?_
    exact bind_eq_map_bind (congrFun Except.map_id _).symm fun rightViews => rfl
  refine bind_eq_map_bind (by rw [hoperands, map_mapError]) fun operands => ?_
  refine bind_eq_map_bind (by rw [Operands.align_negateConstants, map_mapError]) fun targets => ?_
  show Except.ok ((targets.map _).map _) = Except.ok ((targets.map _).map _)
  rw [List.map_map, List.map_map]
  rfl

/-! ## Spellings -/

theorem Equation.compile_multiplierAfter (scope : Scope V) (e : Equation) :
    e.multiplierAfter.compile scope = e.compile scope := rfl

theorem compile_eq_of_move_eq {e e' : Equation} (h : (e'.move fun _ => 0) = e.move fun _ => 0) (scope : Scope V) :
    (e'.compile scope).mapError (CompileError.move fun _ => 0) =
      (e.compile scope).mapError (CompileError.move fun _ => 0) := by
  rw [← compile_move, ← compile_move, h]

/-- A multiplier in front of its operand may be written behind it: every accepted text with one is made of pieces, and
the pieces in the other order, with any blanks between them, are accepted and have the same constraints or the same
error, up to its offset. And a `+` in the place of the `-` of a constant clause negates the constants: the text is
accepted, each number of the equation's constants is negated and each skip stays, and so is the constant of each
constraint. -/
theorem compileEquation_respelled :
    (∀ src e, Equation.ofText src = .ok e → e.right.multiplierPosition = .before →
      ∃ p : Pieces, p.Spell e ∧ p.multiplierFirst = src) ∧
    (∀ (p : Pieces) (e : Equation) (gaps : Nat → List Char), Equation.ofText p.multiplierFirst = .ok e → p.Spell e →
      (∀ i, ∀ c ∈ gaps i, isBlank c = true) →
      (∃ e', Equation.ofText (p.operandFirst gaps) = .ok e' ∧
        e'.move (fun _ => 0) = e.multiplierAfter.move fun _ => 0) ∧
      ∀ (V : Type) [DecidableEq V] (scope : Scope V),
        (compileEquation scope (p.operandFirst gaps)).mapError (CompileError.move fun _ => 0) =
          (compileEquation scope p.multiplierFirst).mapError (CompileError.move fun _ => 0)) ∧
    ∀ src e p, Equation.ofText src = .ok e → MinusClause src p →
      src.toList[p]? = some '-' ∧ Equation.ofText (withPlus src p) = .ok e.negateConstants ∧
      ∀ (V : Type) [DecidableEq V] (scope : Scope V),
        compileEquation scope (withPlus src p) =
          (compileEquation scope src).map (List.map Constraint.negateConstant) := by
  refine ⟨fun src e h hposition => exists_pieces h hposition, fun p e gaps h hspell hgaps => ?_, fun src e p h hp => ?_⟩
  · obtain ⟨e', he', hsame⟩ := hspell.exists_operandFirst hgaps
    refine ⟨⟨e', he', hsame⟩, fun V _ scope => ?_⟩
    rw [compileEquation, compileEquation, he', h, ok_bind, ok_bind, compile_eq_of_move_eq hsame,
      Equation.compile_multiplierAfter]
  · obtain ⟨hchar, hplus⟩ := ofText_withPlus h hp
    refine ⟨hchar, hplus, fun V _ scope => ?_⟩
    rw [compileEquation, compileEquation, hplus, h, ok_bind, ok_bind, Equation.compile_negateConstants]

/-- The pieces of `$self.(left,width)>=(@500)-.5($x.right)-(1,-)`. Behind the priority clause the sign of the multiplier
is a token of its own. -/
def respelledPieces : Pieces where
  heading := "$self.(left,width)>=(@500)".toList
  multiplier := "-.5".toList
  operand := "$x.right".toList
  clause := "-(1,-)".toList

def respelledEquation : Equation where
  left := ⟨⟨.self, [], 0⟩, [.primitive .left, .primitive .width]⟩
  relation := .greaterOrEqual
  priority := 500
  right :=
    { view := some ⟨.name "x", [], 30⟩, attributes := [.primitive .right], multiplierPosition := .before,
      multiplier := -(.ofDecimal false ⟨5, -1⟩), constants := [.value (-.one), .skip] }

/-- The lexemes of `$self.(left,width)>=(@500)`, `-.5`, `$x.right` and `(1,-)`, with their offsets in the text. -/
def respelledLexemes : List Lexeme × List Lexeme × List Lexeme × List Lexeme :=
  ([⟨0, .dollar⟩, ⟨1, .identifier "self"⟩, ⟨5, .dot⟩, ⟨6, .openParen⟩, ⟨7, .identifier "left"⟩, ⟨11, .comma⟩,
      ⟨12, .identifier "width"⟩, ⟨17, .closeParen⟩, ⟨18, .relation .greaterOrEqual⟩, ⟨20, .openParen⟩, ⟨21, .atSign⟩,
      ⟨22, .number (.ofNat 500)⟩, ⟨25, .closeParen⟩],
    [⟨26, .minus⟩, ⟨27, .number (.ofDecimal false ⟨5, -1⟩)⟩],
    [⟨30, .dollar⟩, ⟨31, .identifier "x"⟩, ⟨32, .dot⟩, ⟨33, .identifier "right"⟩],
    [⟨40, .openParen⟩, ⟨41, .number .one⟩, ⟨42, .comma⟩, ⟨43, .dash⟩, ⟨44, .closeParen⟩])

theorem parts_respelledLexemes :
    Heading respelledEquation.left .greaterOrEqual 500 respelledLexemes.1 ∧
      Signed (-(.ofDecimal false ⟨5, -1⟩)) respelledLexemes.2.1 ∧
      Operand ⟨.name "x", [], 30⟩ [.primitive .right] respelledLexemes.2.2.1 ∧
      Constants [.value .one, .skip] respelledLexemes.2.2.2 := by
  have hleft : AttributeName.ofWord? "left" = some (.primitive .left) := rfl
  have hwidth : AttributeName.ofWord? "width" = some (.primitive .width) := rfl
  have hright : AttributeName.ofWord? "right" = some (.primitive .right) := rfl
  have hx : isReserved "x" = false := by decide +kernel
  have hpriority : (Number.ofNat 500).toNat? = some 500 := by decide +kernel
  have hh : Heading respelledEquation.left .greaterOrEqual 500 _ :=
    .intro 18 (.intro 0 1 .self (.list 5 (.intro 6 17 (.more 11 (.intro 7 hleft) (.one (.intro 12 hwidth))))))
      (List.cons_ne_nil _ _) (.clause 20 21 25 (.plain 22 _) hpriority (by decide))
  have hc : Constants [.value .one, .skip] _ :=
    .list (.intro 40 44 (.more 42 (.value (.plain 41 _)) (.one (.skip 43))))
  exact ⟨hh, .minus 26 27 _, .intro 30 31 (.name hx) (.single 32 33 hright), hc⟩

theorem spell_respelledPieces : respelledPieces.Spell respelledEquation := by
  obtain ⟨hh, hm, ho, hc⟩ := parts_respelledLexemes
  refine .intro hh ?_ hm ?_ ho ?_ (.minus 39 hc) ?_
  · exact lexed_of_lexFrom _ (show lexFrom none 0 _ = .ok (_ ++ [⟨26, .eof⟩]) by decide +kernel)
  · exact lexed_of_lexFrom _ (show lexFrom (some .closeParen) 26 _ = .ok (_ ++ [⟨29, .eof⟩]) by decide +kernel)
  · exact lexed_of_lexFrom _ (show lexFrom (some .openParen) 30 _ = .ok (_ ++ [⟨38, .eof⟩]) by decide +kernel)
  · exact lexed_of_lexFrom _ (show lexFrom (some .closeParen) 39 _ = .ok (_ ++ [⟨45, .eof⟩]) by decide +kernel)

/-- A blank on each side of the `*`. -/
def starGaps : Nat → List Char
  | 1 | 2 => [' ']
  | _ => []

theorem compileEquation_respelled_sample :
    let src := "$self.(left,width)>=(@500)-.5($x.right)-(1,-)"
    let scope : Scope Nat := ⟨0, .named (.ofList [("x", 1)]), fun _ _ => none⟩
    let constraint : Constraint Nat :=
      ⟨0, .left, .greaterOrEqual, some 1, some .right, -(.ofDecimal false ⟨5, -1⟩), -.one, 500⟩
    (Equation.ofText src = .ok respelledEquation ∧
      ∃ p : Pieces, p.Spell respelledEquation ∧ p.multiplierFirst = src) ∧
    (respelledPieces.multiplierFirst = src ∧ respelledPieces.Spell respelledEquation ∧
      respelledPieces.operandFirst starGaps = "$self.(left,width)>=(@500)$x.right * -.5-(1,-)" ∧
      (compileEquation scope "$self.(left,width)>=(@500)$x.right * -.5-(1,-)").mapError
        (CompileError.move fun _ => 0) = .ok [constraint]) ∧
    MinusClause src 39 ∧ withPlus src 39 = "$self.(left,width)>=(@500)-.5($x.right)+(1,-)" ∧
      compileEquation scope "$self.(left,width)>=(@500)-.5($x.right)+(1,-)" =
        .ok [constraint.negateConstant] := by
  intro src scope constraint
  have hread : Equation.ofText src = .ok respelledEquation := by decide +kernel
  have hcompiled : compileEquation scope src = .ok [constraint] := by decide +kernel
  have hfirst : respelledPieces.multiplierFirst = src := by decide +kernel
  have hsecond : respelledPieces.operandFirst starGaps = "$self.(left,width)>=(@500)$x.right * -.5-(1,-)" := by
    decide +kernel
  have hminus : withPlus src 39 = "$self.(left,width)>=(@500)-.5($x.right)+(1,-)" := by decide +kernel
  have hgaps : ∀ i, ∀ c ∈ starGaps i, isBlank c = true := by
    refine fun i => List.all_eq_true.1 ?_
    unfold starGaps
    split <;> decide
  have hclause : MinusClause src 39 := by
    obtain ⟨hh, hm, ho, hc⟩ := parts_respelledLexemes
    exact .intro 45 (by decide +kernel) hh (.before 29 38 hm ho) hc
  obtain ⟨hpieces, hafter, hplus⟩ := compileEquation_respelled
  obtain ⟨-, hsame⟩ := hafter respelledPieces respelledEquation starGaps (hfirst ▸ hread) spell_respelledPieces hgaps
  obtain ⟨-, -, hopposite⟩ := hplus src respelledEquation 39 hread hclause
  have hspelled := hsame Nat scope
  have hnegated := hopposite Nat scope
  rw [hsecond, hfirst, hcompiled] at hspelled
  rw [hminus, hcompiled] at hnegated
  refine ⟨⟨hread, hpieces src _ hread rfl⟩, ?_, hclause, hminus, hnegated⟩
  exact ⟨hfirst, spell_respelledPieces, hsecond, hspelled⟩

end LayoutEquations
