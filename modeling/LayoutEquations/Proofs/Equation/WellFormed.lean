import Mathlib.Tactic
import LayoutEquations.Compile
import LayoutEquations.Proofs.Equation.Equality
import LayoutEquations.Proofs.Grammar.Reading
import LayoutEquations.Proofs.Results
import LayoutEquations.Proofs.Token.Lexing

/-!
# Well-formed equations

`Equation.WellFormed` is what holds of an equation that a text can spell. The grammar gives no other equation when the
words among the lexemes are identifiers (`wellFormed_of_derives`), so reading a text gives none either
(`wellFormed_of_ofText`); and equations that say the same are well-formed together (`WellFormed.of_beq`).
-/

namespace LayoutEquations

/-! ## The conditions -/

/-- A root that is a special view, an index in range, or a word that is free to name a view. -/
def ViewRef.WellFormed : ViewRef → Prop
  | self => True
  | all => True
  | index n => n ≤ 4294967295
  | name word => isIdentifier word = true ∧ isReserved word = false

structure ViewPath.WellFormed (p : ViewPath) : Prop where
  root : p.root.WellFormed
  keyPath : ∀ word ∈ p.keyPath, isIdentifier word = true

def ViewPath.EndsInSegment (p : ViewPath) : Prop :=
  ∀ word ∈ p.keyPath.getLast?, AttributeName.ofWord? word = none

/-- A right side with a place for everything that it says: constants alone have neither attributes nor a multiplier, a
multiplier that is not written is one, and a last segment is not taken for an attribute. -/
structure RightTerm.WellFormed (t : RightTerm) : Prop where
  constants_ne_nil : t.constants ≠ []
  constant : t.view = none → t.attributes = [] ∧ t.multiplierPosition = .omitted
  omitted : t.multiplierPosition = .omitted → t.multiplier = .one
  view : ∀ view ∈ t.view, view.WellFormed ∧ (t.attributes = [] → view.EndsInSegment)

structure Equation.WellFormed (e : Equation) : Prop where
  view : e.left.view.WellFormed
  attributes_ne_nil : e.left.attributes ≠ []
  priority : 1 ≤ e.priority ∧ e.priority ≤ 1000
  right : e.right.WellFormed

def RightTerm.Finite (t : RightTerm) : Prop :=
  t.multiplier.isFinite = true ∧ ∀ c ∈ t.constants, c.isFinite = true

instance (t : RightTerm) : Decidable t.Finite := inferInstanceAs (Decidable (_ ∧ _))

/-! ## What the grammar derives -/

namespace Grammar

variable {α : Type} {ls : List Lexeme}

/-- The words among the lexemes are identifiers. -/
def Identifiers (ls : List Lexeme) : Prop :=
  ∀ pos word, ⟨pos, .identifier word⟩ ∈ ls → isIdentifier word = true

theorem Identifiers.tail {l : Lexeme} (h : Identifiers (l :: ls)) : Identifiers ls :=
  fun pos word hl => h pos word (List.mem_cons_of_mem _ hl)

theorem Identifiers.left {ms : List Lexeme} (h : Identifiers (ls ++ ms)) : Identifiers ls :=
  fun pos word hl => h pos word (List.mem_append_left _ hl)

theorem Identifiers.right {ms : List Lexeme} (h : Identifiers (ls ++ ms)) : Identifiers ms :=
  fun pos word hl => h pos word (List.mem_append_right _ hl)

theorem Constants.ne_nil {cs : List Constant} (h : Constants cs ls) : cs ≠ [] := by
  cases h with
  | number h => exact List.cons_ne_nil _ _
  | list h => exact h.ne_nil

theorem Clause.ne_nil {cs : List Constant} (h : Clause cs ls) : cs ≠ [] := by
  cases h with
  | absent => exact List.cons_ne_nil _ _
  | plus p h => exact h.ne_nil
  | minus p h => simpa using h.ne_nil

theorem Root.wellFormed {root : ViewRef} {t : Token} (h : Root root t)
    (ht : ∀ word, t = .identifier word → isIdentifier word = true) : root.WellFormed := by
  cases h with
  | self => trivial
  | all => trivial
  | name hword => exact ⟨ht _ rfl, hword⟩
  | index hx hn => exact hn

theorem Dotted.identifiers {words : List String} {as : List AttributeName} (h : Dotted words as ls)
    (hls : Identifiers ls) : ∀ word ∈ words, isIdentifier word = true := by
  induction h with
  | nothing => exact fun word hword => by cases hword
  | single => exact fun word hword => by cases hword
  | list => exact fun word hword => by cases hword
  | segment p q hword h ih =>
    intro word' hword'
    rcases List.mem_cons.1 hword' with rfl | hword'
    · exact hls q _ (by simp)
    · exact ih hls.tail.tail word' hword'

theorem Dotted.endsInSegment {words : List String} {as : List AttributeName} (h : Dotted words as ls) (has : as = []) :
    ∀ word ∈ words.getLast?, AttributeName.ofWord? word = none := by
  induction h with
  | nothing => exact fun word hword => by cases hword
  | single => cases has
  | list p h => exact absurd has h.ne_nil
  | segment p q hword h ih =>
    intro word' hword'
    cases h with
    | nothing =>
      obtain rfl := Option.some.inj hword'
      rcases hword with hword | hword
      · exact hword
      · cases hword
    | single => cases has
    | list p h => exact absurd has h.ne_nil
    | segment => exact ih has word' (by simpa using hword')

theorem Operand.wellFormed {view : ViewPath} {as : List AttributeName} (h : Operand view as ls)
    (hls : Identifiers ls) : view.WellFormed := by
  cases h with
  | intro p q hroot h =>
    exact ⟨hroot.wellFormed fun word ht => hls q word (by simp [ht]), h.identifiers hls.tail.tail⟩

theorem Operand.endsInSegment {view : ViewPath} {as : List AttributeName} (h : Operand view as ls) (has : as = []) :
    view.EndsInSegment := by
  cases h with
  | intro p q hroot h => exact h.endsInSegment has

theorem Priority.range {n : Nat} (h : Priority n ls) : 1 ≤ n ∧ n ≤ 1000 := by
  cases h with
  | absent => decide
  | clause p q r h hx hn => exact hn

theorem Right.wellFormed {t : RightTerm} (h : Right t ls) (hls : Identifiers ls) : t.WellFormed := by
  cases h with
  | plain h hc =>
    refine ⟨hc.ne_nil, fun h => (by cases h), fun _ => rfl, fun view hview => ?_⟩
    obtain rfl := Option.some.inj hview
    exact ⟨h.wellFormed hls.left, h.endsInSegment⟩
  | after p h hm hc =>
    refine ⟨hc.ne_nil, fun h => (by cases h), fun h => (by cases h), fun view hview => ?_⟩
    obtain rfl := Option.some.inj hview
    exact ⟨h.wellFormed hls.left, h.endsInSegment⟩
  | before p q hm h hc =>
    refine ⟨hc.ne_nil, fun h => (by cases h), fun h => (by cases h), fun view hview => ?_⟩
    obtain rfl := Option.some.inj hview
    exact ⟨h.wellFormed hls.right.tail.left, h.endsInSegment⟩
  | constant h => exact ⟨h.ne_nil, fun _ => ⟨rfl, rfl⟩, fun _ => rfl, fun view hview => by cases hview⟩

theorem wellFormed_of_derives {e : Equation} (h : Derives e ls) (hls : Identifiers ls) : e.WellFormed := by
  cases h with
  | intro p q h hne hp hr =>
    exact ⟨h.wellFormed hls.left, hne, hp.range, hr.wellFormed hls.right.tail.right.left⟩

end Grammar

/-! ## What a text spells -/

theorem ofText_eq_ok {src : String} {e : Equation} :
    Equation.ofText src = .ok e ↔ ∃ ls, lex src = .ok ls ∧ Equation.ofLexemes ls = .ok e := by
  simp only [Equation.ofText, bind_eq_ok, mapError_eq_ok]

theorem ofText_eq_ok_iff_derives {src : String} {ls : List Lexeme} (hlex : lex src = .ok ls) {e : Equation} :
    Equation.ofText src = .ok e ↔ Grammar.Derives e ls := by
  rw [← ofLexemes_eq_ok_iff (endsOnce_of_lex hlex), Equation.ofText, hlex, mapError_ok, ok_bind, mapError_eq_ok]

theorem wellFormed_of_ofText {src : String} {e : Equation} (h : Equation.ofText src = .ok e) : e.WellFormed := by
  obtain ⟨ls, hlex, -⟩ := ofText_eq_ok.1 h
  have hderives := (ofText_eq_ok_iff_derives hlex).1 h
  exact Grammar.wellFormed_of_derives hderives fun pos word hl => isIdentifier_of_lex hlex hl

/-! ## Equations that say the same -/

theorem ViewPath.WellFormed.of_beq {p q : ViewPath} (hp : p.WellFormed) (h : (p == q) = true) : q.WellFormed := by
  obtain ⟨hroot, hpath⟩ := beq_iff.1 h
  exact ⟨hroot ▸ hp.root, hpath ▸ hp.keyPath⟩

theorem RightTerm.WellFormed.of_beq {s t : RightTerm} (hs : s.WellFormed) (h : (s == t) = true) : t.WellFormed := by
  obtain ⟨hview, has, hposition, hmultiplier, hconstants⟩ := beq_iff.1 h
  refine ⟨fun hnil => ?_, fun hnone => ?_, fun homitted => ?_, fun view ht => ?_⟩
  · rw [hnil] at hconstants
    cases hc : s.constants with
    | nil => exact hs.constants_ne_nil hc
    | cons c cs =>
      rw [hc] at hconstants
      cases hconstants
  · rw [hnone] at hview
    cases hv : s.view with
    | none =>
      rw [← has, ← hposition]
      exact hs.constant hv
    | some v =>
      rw [hv] at hview
      cases hview
  · rw [hs.omitted (hposition.trans homitted)] at hmultiplier
    exact Number.eq_one_of_beq hmultiplier
  · rw [ht] at hview
    cases hv : s.view with
    | none =>
      rw [hv] at hview
      cases hview
    | some v =>
      rw [hv] at hview
      obtain ⟨hwf, hends⟩ := hs.view v hv
      refine ⟨hwf.of_beq hview, fun hnil => ?_⟩
      have hpath := (ViewPath.beq_iff.1 hview).2
      have := hends (has.trans hnil)
      rw [ViewPath.EndsInSegment, hpath] at this
      exact this

theorem Equation.WellFormed.of_beq {d e : Equation} (hd : d.WellFormed) (h : (d == e) = true) : e.WellFormed := by
  obtain ⟨hleft, -, hpriority, hright⟩ := beq_iff.1 h
  obtain ⟨hview, has⟩ := LeftTerm.beq_iff.1 hleft
  exact ⟨hd.view.of_beq hview, has ▸ hd.attributes_ne_nil, hpriority ▸ hd.priority, hd.right.of_beq hright⟩

end LayoutEquations
