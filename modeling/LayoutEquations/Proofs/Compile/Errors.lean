import LayoutEquations.Proofs.Batch
import LayoutEquations.Proofs.Equation.Errors
import LayoutEquations.Proofs.Equation.WellFormed
import LayoutEquations.Proofs.View.Dangling

/-!
# What the offsets of errors point at

An offset comes from the lexer and stays what it is: the parser gives a reference the offset of its `$`, wherever the
reference stands in the equation (`Grammar.Derives.left`, `Grammar.Derives.right`), and resolving hands it on
(`Dangling.pos`). As the lexemes are tiles of the text, none of them starts behind its end, and the character at the
offset of a `$` is one (`char_of_dollar`). `Failure` lists how a text fails to compile, stage by stage; of its errors,
those about a reference are the ones of `Unresolved`, and `EquationError.Located` says what their offsets point at.
-/

namespace LayoutEquations

/-! ## References among the lexemes -/

namespace Grammar

variable {ls : List Lexeme} {path : ViewPath}

theorem Operand.dollar_mem {as : List AttributeName} (h : Operand path as ls) : ⟨path.pos, .dollar⟩ ∈ ls := by
  cases h with
  | intro p q hroot h => exact List.mem_cons_self

theorem Right.operand {t : RightTerm} (h : Right t ls) (hview : t.view = some path) :
    ∃ front operand rest as, ls = front ++ (operand ++ rest) ∧ Operand path as operand := by
  cases h with
  | plain h hc =>
    obtain rfl := Option.some.inj hview
    exact ⟨[], _, _, _, rfl, h⟩
  | after p h hm hc =>
    obtain rfl := Option.some.inj hview
    exact ⟨[], _, _, _, rfl, h⟩
  | @before _ _ _ _ ls ms rest p q hm h hc =>
    obtain rfl := Option.some.inj hview
    refine ⟨ms ++ [⟨p, .openParen⟩], ls, ⟨q, .closeParen⟩ :: rest, _, ?_, h⟩
    rw [List.append_assoc, List.singleton_append]
  | constant h => cases hview

theorem Derives.left {e : Equation} (h : Derives e ls) :
    ∃ operand rest as, ls = operand ++ rest ∧ Operand e.left.view as operand := by
  cases h with
  | intro p q h hne hp hr => exact ⟨_, _, _, rfl, h⟩

/-- The reference of the right side stands behind the relation. -/
theorem Derives.right {e : Equation} (h : Derives e ls) (hview : e.right.view = some path) :
    ∃ front operand rest as, ls = front ++ (operand ++ rest) ∧ (∃ p, ⟨p, .relation e.relation⟩ ∈ front) ∧
      Operand path as operand := by
  cases h with
  | @intro _ _ r _ _ ls ps rs p q h hne hp hr =>
    obtain ⟨front, operand, rest, as, rfl, hoperand⟩ := hr.operand hview
    refine ⟨ls ++ ⟨p, .relation r⟩ :: (ps ++ front), operand, rest ++ [⟨q, .eof⟩], as, ?_, ⟨p, by simp⟩, hoperand⟩
    simp only [List.append_assoc, List.cons_append]

end Grammar

variable {src : String} {ls : List Lexeme}

/-- A `$` among the lexemes of a text is one in the text. -/
theorem char_of_dollar (h : lex src = .ok ls) {p : Nat} (hmem : ⟨p, .dollar⟩ ∈ ls) : src.toList[p]? = some '$' := by
  obtain ⟨tiles, htiles, rfl⟩ := tiles_of_lexFrom h
  obtain ⟨⟨l, w⟩, hw, rfl⟩ := List.mem_map.1 hmem
  obtain ⟨front, rest, previous, hsrc, hpos, hspelled⟩ := htiles.spelled hw (by simp)
  have hchars : w = ['$'] := by
    cases hspelled with
    | symbol hsymbol =>
      cases hsymbol
      rfl
  rw [Nat.zero_add] at hpos
  dsimp only at hpos
  rw [hsrc, hpos, hchars, List.getElem?_append_right (Nat.le_refl _), Nat.sub_self]
  rfl

/-- Behind the lexemes `front` of the text stand those that spell the reference, and its offset is that of its `$`. -/
structure Written (src : String) (front : List Lexeme) (path : ViewPath) : Prop where
  lexemes : ∃ operand rest as, lex src = .ok (front ++ (operand ++ rest)) ∧ Grammar.Operand path as operand
  char : src.toList[path.pos]? = some '$'

theorem written_of_operand {front operand rest : List Lexeme} {path : ViewPath} {as : List AttributeName}
    (hlex : lex src = .ok (front ++ (operand ++ rest))) (h : Grammar.Operand path as operand) :
    Written src front path where
  lexemes := ⟨operand, rest, as, hlex, h⟩
  char := char_of_dollar hlex (List.mem_append_right _ (List.mem_append_left _ h.dollar_mem))

/-! ## How a text fails -/

section Failures

variable {V : Type} [DecidableEq V] {scope : Scope V} {err : CompileError}

/-- How compiling a text fails: in the lexer, in the parser, at a reference, or where the lists do not fit. -/
inductive Failure (scope : Scope V) (src : String) : CompileError → Prop
  | lex {e : LexError} (h : lex src = .error e) : Failure scope src (.lex e)
  | parse {ls : List Lexeme} {e : ParseError} (hlex : LayoutEquations.lex src = .ok ls)
      (h : Equation.ofLexemes ls = .error e) : Failure scope src (.parse e)
  | resolve {e : Equation} {r : ResolveError} (he : Equation.ofText src = .ok e)
      (h : e.operands scope = .error r) : Failure scope src (.resolve r)
  | align {e : Equation} {operands : Operands V} {a : AlignError} (he : Equation.ofText src = .ok e)
      (hoperands : e.operands scope = .ok operands) (h : operands.align = .error a) : Failure scope src (.align a)

theorem failure_of_ofText (h : Equation.ofText src = .error err) : Failure scope src err := by
  rcases bind_eq_error.1 h with h | ⟨ls, hlex, h⟩
  · obtain ⟨e, he, rfl⟩ := mapError_eq_error.1 h
    exact .lex he
  · obtain ⟨e, he, rfl⟩ := mapError_eq_error.1 h
    exact .parse (mapError_eq_ok.1 hlex) he

theorem failure_of_compileEquation (h : compileEquation scope src = .error err) : Failure scope src err := by
  rcases bind_eq_error.1 h with h | ⟨e, he, h⟩
  · exact failure_of_ofText h
  rcases bind_eq_error.1 h with h | ⟨operands, hoperands, h⟩
  · obtain ⟨r, hr, rfl⟩ := mapError_eq_error.1 h
    exact .resolve he hr
  · have h := error_of_bind h fun _ => ⟨_, rfl⟩
    obtain ⟨a, ha, rfl⟩ := mapError_eq_error.1 h
    exact .align he (mapError_eq_ok.1 hoperands) ha

theorem operands_eq_error_iff {e : Equation} {r : ResolveError} :
    e.operands scope = .error r ↔
      scope.resolve e.left.view = .error r ∨
        (∃ views, scope.resolve e.left.view = .ok views) ∧
          ∃ path, e.right.view = some path ∧ scope.resolve path = .error r := by
  rw [Equation.operands, bind_eq_error]
  refine or_congr_right ⟨?_, ?_⟩
  · rintro ⟨views, hviews, h⟩
    exact ⟨⟨views, hviews⟩, optionMapM_eq_error.1 (error_of_bind h fun _ => ⟨_, rfl⟩)⟩
  · rintro ⟨⟨views, hviews⟩, hright⟩
    exact ⟨views, hviews, bind_eq_error.2 (.inl (optionMapM_eq_error.2 hright))⟩

/-- The reference of the text that fails, and how: the left one, with which the text starts, or, where that one
resolves, the right one, which stands behind the relation. -/
inductive Unresolved (scope : Scope V) (src : String) (r : ResolveError) : ViewPath → Prop
  | left {e : Equation} (he : Equation.ofText src = .ok e) (hleft : scope.resolve e.left.view = .error r)
      (hwritten : Written src [] e.left.view) : Unresolved scope src r e.left.view
  | right {e : Equation} {path : ViewPath} {views : List V} {front : List Lexeme} {p : Nat}
      (he : Equation.ofText src = .ok e) (hleft : scope.resolve e.left.view = .ok views)
      (hview : e.right.view = some path) (hright : scope.resolve path = .error r)
      (hrelation : ⟨p, .relation e.relation⟩ ∈ front) (hwritten : Written src front path) :
      Unresolved scope src r path

theorem Unresolved.written {r : ResolveError} {path : ViewPath} (h : Unresolved scope src r path) :
    ∃ front, Written src front path := by
  cases h with
  | left he hleft hwritten => exact ⟨_, hwritten⟩
  | right he hleft hview hright hrelation hwritten => exact ⟨_, hwritten⟩

theorem Unresolved.resolve {r : ResolveError} {path : ViewPath} (h : Unresolved scope src r path) :
    scope.resolve path = .error r := by
  cases h with
  | left he hleft hwritten => exact hleft
  | right he hleft hview hright hrelation hwritten => exact hright

theorem exists_unresolved {e : Equation} {r : ResolveError} (he : Equation.ofText src = .ok e)
    (h : e.operands scope = .error r) : ∃ path, Unresolved scope src r path := by
  obtain ⟨ls, hlex, -⟩ := ofText_eq_ok.1 he
  have hderives := (ofText_eq_ok_iff_derives hlex).1 he
  rcases operands_eq_error_iff.1 h with hleft | ⟨⟨views, hleft⟩, path, hview, hright⟩
  · obtain ⟨operand, rest, as, rfl, hoperand⟩ := hderives.left
    have hwritten : Written src [] e.left.view := written_of_operand hlex hoperand
    exact ⟨_, .left he hleft hwritten⟩
  · obtain ⟨front, operand, rest, as, rfl, ⟨p, hrelation⟩, hoperand⟩ := hderives.right hview
    exact ⟨path, .right he hleft hview hright hrelation (written_of_operand hlex hoperand)⟩

/-! ## What offsets point at -/

theorem le_length_of_char {p : Nat} {c : Char} (h : src.toList[p]? = some c) : p ≤ src.length := by
  obtain ⟨hlt, -⟩ := List.getElem?_eq_some_iff.1 h
  rw [String.length_toList] at hlt
  exact Nat.le_of_lt hlt

theorem exists_pos_of_justified {e : ParseError} (h : e.Justified ls) : ∃ l ∈ ls, l.pos = e.pos := by
  have hfits : FitsUpTo ls e.pos → ∃ l ∈ ls, l.pos = e.pos := fun ⟨l, hl, hpos, _⟩ => ⟨l, hl, hpos⟩
  cases e with
  | unbalancedParen p =>
    obtain ⟨before, l, after, rfl, hpos, -⟩ := h
    exact ⟨l, by simp, hpos⟩
  | expected => exact hfits h
  | multiplierAfterConstant => exact hfits h
  | priorityOutOfRange => exact hfits h

theorem exists_dangling {e : Equation} {r : ResolveError} (he : Equation.ofText src = .ok e)
    (h : e.operands scope = .error r) {p : Nat} (hp : r.pos? = some p) :
    ∃ path, path.pos = p ∧ Unresolved scope src r path ∧ Dangling scope path r := by
  obtain ⟨path, hpath⟩ := exists_unresolved he h
  rcases resolve_eq_error_iff.1 hpath.resolve with ⟨key, -, rfl⟩ | ⟨-, hdangling⟩
  · cases hp
  · have hpos := hdangling.pos
    rw [hp] at hpos
    exact ⟨path, (Option.some.inj hpos).symm, hpath, hdangling⟩

theorem le_length_of_failure (h : Failure scope src err) {p : Nat} (hp : err.pos? = some p) : p ≤ src.length := by
  cases h with
  | @lex e h =>
    obtain ⟨q, c⟩ := e
    obtain rfl := Option.some.inj hp
    exact le_length_of_char (refused_of_lex h).char
  | parse hlex h =>
    obtain ⟨tiles, htiles, rfl⟩ := tiles_of_lexFrom hlex
    have hjustified := justified_of_ofLexemes (endsOnce_of_lex hlex) htiles.pairwise_pos h
    obtain rfl := Option.some.inj hp
    obtain ⟨l, hl, hpos⟩ := exists_pos_of_justified hjustified
    rw [← hpos]
    exact htiles.tiled.pos_le l hl
  | resolve he h =>
    obtain ⟨path, rfl, hpath, -⟩ := exists_dangling he h hp
    obtain ⟨front, hwritten⟩ := hpath.written
    exact le_length_of_char hwritten.char
  | align he hoperands h => cases hp

theorem pos?_eq_none_iff :
    err.pos? = none ↔ (∃ a, err = .align a) ∨ ∃ key, err = .resolve (.reservedName key) := by
  rcases err with _ | _ | r | _
  · simp [CompileError.pos?]
  · simp [CompileError.pos?]
  · cases r <;> simp [CompileError.pos?, ResolveError.pos?]
  · simp [CompileError.pos?]

/-- What is right about the offset of an equation's failure. -/
structure EquationError.Located (scope : Scope V) (err : EquationError) : Prop where
  le_length : ∀ p, err.error.pos? = some p → p ≤ err.equation.length
  absent : err.error.pos? = none ↔ (∃ a, err.error = .align a) ∨ ∃ key, err.error = .resolve (.reservedName key)
  /-- Where a view or a segment is blamed, a `$` at the offset begins the reference that failed, and it is the root or
  the segment that this reference fails with. -/
  reference : ∀ r p, err.error = .resolve r → r.pos? = some p →
    err.equation.toList[p]? = some '$' ∧
      ∃ path, path.pos = p ∧ Unresolved scope err.equation r path ∧ Dangling scope path r

/-- The offsets that a batch reports are right. -/
theorem located_of_mem_errors {equations : List String} {err : EquationError}
    (h : err ∈ (compile scope equations).errors) : err.Located scope := by
  have hfailure := failure_of_compileEquation (mem_errors_compile.1 h).2
  refine ⟨fun p hp => le_length_of_failure hfailure hp, pos?_eq_none_iff, fun r p hr hp => ?_⟩
  rw [hr] at hfailure
  cases hfailure with
  | resolve he hoperands =>
    obtain ⟨path, rfl, hpath, hdangling⟩ := exists_dangling he hoperands hp
    obtain ⟨front, hwritten⟩ := hpath.written
    exact ⟨hwritten.char, path, rfl, hpath, hdangling⟩

/-- A box with a label, which has no icon. -/
def labelScope : Scope String :=
  ⟨"root", .indexed ["box"], fun view key => if view = "box" ∧ key = "label" then some "label" else none⟩

/-- The right reference stands behind a no-break space, and its second segment is no view. -/
theorem located_of_mem_errors_sample :
    let err : EquationError :=
      ⟨1, "$0.top = 2(\u00a0$0.label.icon.left)", .resolve (.keyPathNotAView "icon" 12)⟩
    err ∈ (compile labelScope ["$0.top=1", "$0.top = 2(\u00a0$0.label.icon.left)", "$1.top=1"]).errors ∧
      err.Located labelScope := by
  intro err
  have hmem : err ∈ (compile labelScope ["$0.top=1", err.equation, "$1.top=1"]).errors := by decide +kernel
  exact ⟨hmem, located_of_mem_errors hmem⟩

end Failures

end LayoutEquations
