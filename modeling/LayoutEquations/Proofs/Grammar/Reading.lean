import Mathlib.Tactic
import LayoutEquations.Proofs.Grammar.Completeness
import LayoutEquations.Proofs.Grammar.Soundness
import LayoutEquations.Proofs.Number.Text

/-!
# Reading accepts exactly the grammar

On lists that end with their only end mark, an equation is read if and only if the grammar derives it
(`ofLexemes_eq_ok_iff`); so no list spells two equations.
-/

namespace LayoutEquations

open Grammar

/-- Reading gives an equation exactly where the grammar derives it. -/
theorem ofLexemes_eq_ok_iff {ls : List Lexeme} (hls : EndsOnce ls) {e : Equation} :
    Equation.ofLexemes ls = .ok e ↔ Derives e ls :=
  ⟨derives_of_ofLexemes hls, ofLexemes_of_derives⟩

/-- Reading accepts exactly what the grammar derives, and the grammar is unambiguous. -/
theorem ofLexemes_accepts_grammar {ls : List Lexeme} (hls : EndsOnce ls) :
    (∀ e, Equation.ofLexemes ls = .ok e ↔ Derives e ls) ∧ ∀ e e', Derives e ls → Derives e' ls → e = e' := by
  refine ⟨fun e => ofLexemes_eq_ok_iff hls, fun e e' h h' => ?_⟩
  have hread := (ofLexemes_eq_ok_iff hls).2 h
  have hread' := (ofLexemes_eq_ok_iff hls).2 h'
  exact Except.ok.inj (hread.symm.trans hread')

/-- `$self.center.(width,height)>=(@750)2($x)-(1,-)`: an attribute name as a key-path segment, a list of attributes,
a priority, a multiplier in front and a list of constants with a skip. -/
def sampleLexemes : List Lexeme :=
  [⟨0, .dollar⟩, ⟨1, .identifier "self"⟩, ⟨5, .dot⟩, ⟨6, .identifier "center"⟩, ⟨12, .dot⟩, ⟨13, .openParen⟩,
    ⟨14, .identifier "width"⟩, ⟨19, .comma⟩, ⟨20, .identifier "height"⟩, ⟨26, .closeParen⟩,
    ⟨27, .relation .greaterOrEqual⟩, ⟨29, .openParen⟩, ⟨30, .atSign⟩, ⟨31, .number (.ofNat 750)⟩, ⟨34, .closeParen⟩,
    ⟨35, .number (.ofNat 2)⟩, ⟨36, .openParen⟩, ⟨37, .dollar⟩, ⟨38, .identifier "x"⟩, ⟨39, .closeParen⟩,
    ⟨40, .minus⟩, ⟨41, .openParen⟩, ⟨42, .number .one⟩, ⟨43, .comma⟩, ⟨44, .dash⟩, ⟨45, .closeParen⟩, ⟨46, .eof⟩]

def sampleEquation : Equation where
  left := ⟨⟨.self, ["center"], 0⟩, [.primitive .width, .primitive .height]⟩
  relation := .greaterOrEqual
  priority := 750
  right :=
    { view := some ⟨.name "x", [], 37⟩, multiplierPosition := .before, multiplier := .ofNat 2,
      constants := [.value (-.one), .skip] }

theorem ofLexemes_accepts_grammar_sample :
    EndsOnce sampleLexemes ∧ Equation.ofLexemes sampleLexemes = .ok sampleEquation ∧
      Derives sampleEquation sampleLexemes ∧ ∀ e, Derives e sampleLexemes → e = sampleEquation := by
  have hends : EndsOnce sampleLexemes := ⟨sampleLexemes.dropLast, 46, by decide +kernel, by decide +kernel⟩
  have hread : Equation.ofLexemes sampleLexemes = .ok sampleEquation := by decide +kernel
  obtain ⟨hiff, hunique⟩ := ofLexemes_accepts_grammar hends
  have hderives := (hiff sampleEquation).1 hread
  exact ⟨hends, hread, hderives, fun e h => hunique e sampleEquation h hderives⟩

end LayoutEquations
