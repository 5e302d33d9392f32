import LayoutEquations.Compile
import LayoutEquations.Proofs.Equation.Offsets
import LayoutEquations.Proofs.Token.Lexing

/-!
# Blanks in an equation's text

Offsets do not enter the constraints of an equation, and an error only shows the one it is given. So an equation with
blanks between its tokens has the same constraints, or the same error at the place where its cause now stands
(`compile_move`, `compileEquation_respace`).
-/

namespace LayoutEquations

variable (f : Nat → Nat)

def LexError.move : LexError → LexError
  | unexpectedChar pos c => unexpectedChar (f pos) c

def ResolveError.move : ResolveError → ResolveError
  | unknownView name pos => unknownView name (f pos)
  | keyPathNotAView segment pos => keyPathNotAView segment (f pos)
  | reservedName key => reservedName key

/-- The failure with its place, if it has one, at another offset. -/
def CompileError.move : CompileError → CompileError
  | lex e => lex (e.move f)
  | parse e => parse (e.move f)
  | resolve e => resolve (e.move f)
  | align e => align e

variable {V : Type} [DecidableEq V]

/-! ## Resolving and compiling -/

omit [DecidableEq V] in
theorem followPath_move (scope : Scope V) (path : ViewPath) (root : V) :
    scope.followPath (path.move f) root = (scope.followPath path root).mapError (ResolveError.move f) := by
  show (follow scope.keyPaths root path.keyPath).mapError _ = _
  unfold Scope.followPath
  cases follow scope.keyPaths root path.keyPath <;> rfl

theorem resolve_move (scope : Scope V) (path : ViewPath) :
    scope.resolve (path.move f) = (scope.resolve path).mapError (ResolveError.move f) := by
  unfold Scope.resolve
  cases scope.substitutions.reservedName? with
  | some key => rfl
  | none =>
    dsimp only [ViewPath.move]
    cases scope.roots path.root with
    | none => rfl
    | some roots =>
      show roots.mapM (scope.followPath (path.move f)) = _
      rw [funext (followPath_move f scope path)]
      exact mapM_mapError _ _ roots

theorem operands_move (scope : Scope V) (e : Equation) :
    (e.move f).operands scope = (e.operands scope).mapError (ResolveError.move f) := by
  unfold Equation.operands
  show (scope.resolve (e.left.view.move f) >>= _) = _
  rw [resolve_move]
  cases scope.resolve e.left.view with
  | error err => rfl
  | ok leftViews =>
    show ((e.right.view.map (ViewPath.move f)).mapM scope.resolve >>= _) = _
    cases e.right.view with
    | none => rfl
    | some path =>
      rw [Option.map_some, Option.mapM_some, Option.mapM_some, resolve_move]
      cases scope.resolve path <;> rfl

/-- An equation at other offsets has the same constraints, or its error is at another offset. -/
theorem compile_move (scope : Scope V) (e : Equation) :
    (e.move f).compile scope = (e.compile scope).mapError (CompileError.move f) := by
  unfold Equation.compile
  rw [operands_move]
  cases e.operands scope with
  | error err => rfl
  | ok operands =>
    simp only [mapError_ok, ok_bind]
    cases operands.align <;> rfl

theorem ofText_respace {src : String} {ls : List Lexeme} {gaps : Nat → List Char} (h : lex src = .ok ls)
    (hgaps : Gaps gaps 0 src.toList ls) :
    Equation.ofText (respace gaps src) =
      ((Equation.ofText src).map (Equation.move (moved gaps))).mapError (CompileError.move (moved gaps)) := by
  unfold Equation.ofText
  rw [h, lex_respace h hgaps]
  simp only [mapError_ok, ok_bind, Equation.ofLexemes_move _ (ne_nil_of_lex h)]
  cases Equation.ofLexemes ls <;> rfl

/-- Blanks between the tokens of a text are insignificant: its lexemes are moved by the number of characters inserted
in front of them, and it has the same constraints or the same error up to that shift. -/
theorem compileEquation_respace {src : String} {ls : List Lexeme} {gaps : Nat → List Char} (h : lex src = .ok ls)
    (hgaps : Gaps gaps 0 src.toList ls) :
    lex (respace gaps src) = .ok (ls.map (Lexeme.move (moved gaps))) ∧
      ∀ (V : Type) [DecidableEq V] (scope : Scope V), compileEquation scope (respace gaps src) =
        (compileEquation scope src).mapError (CompileError.move (moved gaps)) := by
  refine ⟨lex_respace h hgaps, fun V _ scope => ?_⟩
  unfold compileEquation
  rw [ofText_respace h hgaps]
  cases Equation.ofText src with
  | error e => rfl
  | ok e => exact compile_move _ scope e

/-- Gaps for `$self.left=$x-.5`: behind the first `$`, around the `=`, around the `-` and at the end. -/
def sampleGaps : Nat → List Char
  | 1 => [' ']
  | 10 => ['\t']
  | 11 => ['\u00a0', ' ']
  | 13 => [' ']
  | 14 => ['\n']
  | 16 => ['\u3000']
  | _ => []

def tightLexemes : List Lexeme :=
  [⟨0, .dollar⟩, ⟨1, .identifier "self"⟩, ⟨5, .dot⟩, ⟨6, .identifier "left"⟩, ⟨10, .relation .equal⟩, ⟨11, .dollar⟩,
    ⟨12, .identifier "x"⟩, ⟨13, .minus⟩, ⟨14, .number ((⟨[], ['5']⟩ : Numeral).value false)⟩, ⟨16, .eof⟩]

theorem gaps_sampleGaps : Gaps sampleGaps 0 "$self.left=$x-.5".toList tightLexemes := by
  refine ⟨fun i => List.all_eq_true.1 ?_, fun i _ => ?_⟩
  · unfold sampleGaps
    split <;> decide
  · unfold sampleGaps
    split
    case h_7 => exact fun h => absurd rfl h
    all_goals exact fun _ => .inl (by decide)

theorem compileEquation_respace_sample :
    lex "$self.left=$x-.5" = .ok tightLexemes ∧
      respace sampleGaps "$self.left=$x-.5" = "$ self.left\t=\u00a0 $x -\n.5\u3000" ∧
      lex "$ self.left\t=\u00a0 $x -\n.5\u3000" = .ok (tightLexemes.map (Lexeme.move (moved sampleGaps))) ∧
      compileEquation ⟨"receiver", .indexed [], .none⟩ "$ self.left\t=\u00a0 $x -\n.5\u3000" =
        .error (.resolve (.unknownView "x" 15)) := by
  have hlex : lex "$self.left=$x-.5" = .ok tightLexemes := by decide +kernel
  have htext : respace sampleGaps "$self.left=$x-.5" = "$ self.left\t=\u00a0 $x -\n.5\u3000" := by decide +kernel
  have herror : compileEquation ⟨"receiver", .indexed [], .none⟩ "$self.left=$x-.5" =
      .error (.resolve (.unknownView "x" 11)) := by decide +kernel
  obtain ⟨hlexed, hcompiled⟩ := compileEquation_respace hlex gaps_sampleGaps
  have hmoved := hcompiled String ⟨"receiver", .indexed [], .none⟩
  rw [htext] at hlexed hmoved
  rw [herror] at hmoved
  exact ⟨hlex, htext, hlexed, hmoved⟩

end LayoutEquations
