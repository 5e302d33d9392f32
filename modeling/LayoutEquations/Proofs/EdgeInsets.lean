import LayoutEquations.Proofs.Equation.RoundTrip
import LayoutEquations.Proofs.Installer

/-!
# Pinning a subview

`EdgeInsets.equation` is the canonical form of an equation between the margins of the two views (`render_margins`). So
finite insets are read back exactly, and the equation compiles to the four constraints that they say
(`compileEquation_margins`); any other inset makes it a text that no equation has. What `addSubview` asks of a host
follows (`addSubview_pins`).
-/

namespace LayoutEquations

variable {σ ε V : Type}

namespace EdgeInsets

def Finite (i : EdgeInsets) : Prop :=
  ∀ x ∈ [i.top, i.leading, i.bottom, i.trailing], x.isFinite = true

instance (i : EdgeInsets) : Decidable i.Finite := inferInstanceAs (Decidable (∀ x ∈ _, _))

/-- The constraints that insets stand for: each edge of the subview keeps its distance from the superview's. -/
def constraints (i : EdgeInsets) (superview subview : V) : List (Constraint V) :=
  [(Attribute.top, i.top), (.leading, i.leading), (.bottom, -i.bottom), (.trailing, -i.trailing)].map fun (a, x) =>
    { itemView := subview, itemAttribute := a, relation := .equal, relatedView := some superview,
      relatedAttribute := some a, multiplier := .one, constant := x, priority := 1000 }

def margins (i : EdgeInsets) : Equation where
  left := ⟨⟨.index 0, [], 0⟩, [.margins]⟩
  relation := .equal
  priority := 1000
  right :=
    { view := some ⟨.self, [], 14⟩, attributes := [.margins],
      constants := [.value i.top, .value i.leading, .value (-i.bottom), .value (-i.trailing)] }

theorem hasDefaultConstant_margins (i : EdgeInsets) : i.margins.right.hasDefaultConstant = false := by
  show ((Constant.value i.top == .value .zero) && false) = false
  exact Bool.and_false _

theorem render_constants (a b c d : Number) : Constant.renderList [.value a, .value b, .value c, .value d] =
    "(" ++ a.text ++ ", " ++ b.text ++ ", " ++ c.text ++ ", " ++ d.text ++ ")" := by
  show "(" ++ String.intercalate ", " [a.text, b.text, c.text, d.text] ++ ")" = _
  apply String.toList_inj.1
  simp

theorem render_margins (i : EdgeInsets) : i.margins.render = i.equation := by
  have hleft : ViewPath.render ⟨.index 0, [], 0⟩ ++ AttributeName.renderList [.margins] ++ " " ++
      Relation.equal.symbol ++ renderPriority 1000 ++ " " = "$0.margins = " := by decide +kernel
  have hview : ViewPath.render ⟨.self, [], 14⟩ ++ AttributeName.renderList [.margins] = "$self.margins" := by
    decide +kernel
  have hright : i.margins.right.render = "$self.margins" ++
      (" + " ++ Constant.renderList [.value i.top, .value i.leading, .value (-i.bottom), .value (-i.trailing)]) := by
    rw [← hview, RightTerm.render, hasDefaultConstant_margins]
    rfl
  have htext : "$0.margins = " ++ "$self.margins" ++ " + " ++ "(" = "$0.margins = $self.margins + (" := by
    decide +kernel
  show ViewPath.render ⟨.index 0, [], 0⟩ ++ AttributeName.renderList [.margins] ++ " " ++
    Relation.equal.symbol ++ renderPriority 1000 ++ " " ++ i.margins.right.render = _
  rw [hleft, hright, render_constants]
  unfold equation
  rw [← htext]
  -- the literals stay apart: only the brackets of the concatenation move
  simp only [String.append_assoc, -String.reduceAppend]

theorem wellFormed_margins (i : EdgeInsets) : i.margins.WellFormed where
  view := ⟨Nat.zero_le _, fun word h => by cases h⟩
  attributes_ne_nil := List.cons_ne_nil _ _
  priority := ⟨by show 1 ≤ 1000; decide, Nat.le_refl _⟩
  right := {
    constants_ne_nil := List.cons_ne_nil _ _
    constant := fun h => by cases h
    omitted := fun _ => rfl
    view := by
      intro view hview
      obtain rfl := Option.some.inj hview
      exact ⟨⟨trivial, fun word h => by cases h⟩, fun h => by cases h⟩ }

theorem finite_margins (i : EdgeInsets) : i.margins.right.Finite ↔ i.Finite := by
  have hone : Number.one.isFinite = true := by decide
  simp [RightTerm.Finite, Finite, margins, Constant.isFinite, Number.isFinite_neg, hone]

variable [DecidableEq V]

theorem compile_margins (i : EdgeInsets) (left right : Nat) (superview subview : V) :
    (i.margins.placed left right).compile (scope superview subview) = .ok (i.constraints superview subview) := by
  have hplaced : i.margins.placed left right = { i.margins with
      left := ⟨⟨.index 0, [], left⟩, [.margins]⟩
      right := { i.margins.right with view := some ⟨.self, [], right⟩ } } := by
    show ({ i.margins with
      left := _, right := { i.margins.right with view := _, constants := _ } } : Equation) = _
    rw [RightTerm.writtenConstants_of_not_default (hasDefaultConstant_margins i)]
    rfl
  rw [hplaced]
  rfl

theorem ofText_equation {i : EdgeInsets} (hi : i.Finite) :
    ∃ left right, Equation.ofText i.equation = .ok (i.margins.placed left right) := by
  rw [← render_margins]
  exact ofText_render (wellFormed_margins i) ((finite_margins i).2 hi)

theorem ofText_equation_of_not_finite {i : EdgeInsets} (hi : ¬ i.Finite) :
    ∃ err, Equation.ofText i.equation = .error (.parse err) := by
  rw [← render_margins]
  exact ofText_render_of_not_finite (wellFormed_margins i) (mt (finite_margins i).1 hi)

theorem compile_equation {i : EdgeInsets} (hi : i.Finite) (superview subview : V) :
    LayoutEquations.compile (scope superview subview) [i.equation] = ⟨i.constraints superview subview, []⟩ := by
  obtain ⟨left, right, htext⟩ := ofText_equation hi
  have hcompile : compileEquation (scope superview subview) i.equation = .ok (i.constraints superview subview) := by
    rw [compileEquation, htext, ok_bind, compile_margins]
  show Batch.ofOutcomes [⟨0, i.equation, compileEquation (scope superview subview) i.equation⟩] = _
  rw [hcompile]
  rfl

theorem compile_equation_of_not_finite {i : EdgeInsets} (hi : ¬ i.Finite) (superview subview : V) :
    ∃ err, LayoutEquations.compile (scope superview subview) [i.equation] =
      ⟨[], [⟨0, i.equation, .parse err⟩]⟩ := by
  obtain ⟨err, htext⟩ := ofText_equation_of_not_finite hi
  refine ⟨err, ?_⟩
  show Batch.ofOutcomes [⟨0, i.equation, compileEquation (scope superview subview) i.equation⟩] = _
  rw [compileEquation, htext]
  rfl

end EdgeInsets

variable [DecidableEq V]

/-- What is asked of a host to pin a subview, and what is reported. A refused subview is all that is asked for. For an
accepted one and finite insets the equation has lexemes, is read and compiles, and the host is offered its four
constraints. Any other inset makes one failure of the kind `parse`; the subview stays where the host has put it. -/
theorem addSubview_pins (host : Installer σ ε V) (superview subview : V) (i : EdgeInsets) {s s' : σ}
    {answer : Except ε Unit} (h : (host.insertSubview superview subview).run.run s = (answer, s'))
    (log : List (Request V)) :
    (∀ e, answer = .error e → (addSubview host.logged superview subview i).run.run (s, log) =
      (.error e, s', log ++ [.insertSubview superview subview])) ∧
    (answer = .ok () → i.Finite →
      (∃ ls e, lex i.equation = .ok ls ∧ Equation.ofLexemes ls = .ok e ∧
        e.compile (EdgeInsets.scope superview subview) = .ok (i.constraints superview subview)) ∧
      ∃ answers s'', (host.offer (i.constraints superview subview)).run s' = (answers, s'') ∧
        (addSubview host.logged superview subview i).run.run (s, log) =
          (.ok ⟨answers.installed, [], answers.refused⟩, s'',
            log ++ .insertSubview superview subview :: (i.constraints superview subview).map .install)) ∧
    (answer = .ok () → ¬ i.Finite → ∃ err : ParseError, (CompileError.parse err).kind = "parse" ∧
      (addSubview host.logged superview subview i).run.run (s, log) =
        (.ok ⟨0, [⟨0, i.equation, .parse err⟩], []⟩, s', log ++ [.insertSubview superview subview])) := by
  have hlogged := insertSubview_logged h log
  refine ⟨?_, ?_, ?_⟩
  · rintro e rfl
    exact addSubview_of_refused hlogged
  · rintro rfl hi
    obtain ⟨left, right, htext⟩ := EdgeInsets.ofText_equation hi
    obtain ⟨ls, hlex, hread⟩ := ofText_eq_ok.1 htext
    refine ⟨⟨ls, _, hlex, hread, EdgeInsets.compile_margins i left right superview subview⟩, ?_⟩
    obtain ⟨answers, s'', hoffer⟩ : ∃ answers s'',
      (host.offer (i.constraints superview subview)).run s' = (answers, s'') := ⟨_, _, rfl⟩
    refine ⟨answers, s'', hoffer, ?_⟩
    have hreport := addEquations_of_offer (EdgeInsets.compile_equation hi superview subview)
      (offer_logged hoffer (log ++ [.insertSubview superview subview]))
    rw [addSubview_of_accepted hlogged hreport, List.append_assoc]
    rfl
  · rintro rfl hi
    obtain ⟨err, hcompile⟩ := EdgeInsets.compile_equation_of_not_finite hi superview subview
    refine ⟨err, rfl, ?_⟩
    have hnone : (host.logged.offer []).run (s', log ++ [.insertSubview superview subview]) =
      ([], s', log ++ [.insertSubview superview subview]) := rfl
    rw [addSubview_of_accepted hlogged (addEquations_of_offer hcompile hnone)]
    rfl

/-- A host that refuses the view `9` and every constraint on a top edge. -/
def pickyHost : Installer (Recording Nat) String Nat :=
  recording (fun c => if c.itemAttribute = .top then some "no top" else none)
    fun _ subview => if subview = 9 then some "no nine" else none

def sampleInsets : EdgeInsets := ⟨.one, -.zero, .ofNat 2, -.one⟩

theorem addSubview_pins_sample :
    (addSubview pickyHost.logged 0 9 sampleInsets).run.run ({}, []) = (.error "no nine", {}, [.insertSubview 0 9]) ∧
    (sampleInsets.Finite ∧ ∃ answers s,
      (pickyHost.offer (sampleInsets.constraints 0 1)).run { hierarchy := [(0, 1)] } = (answers, s) ∧
        (addSubview pickyHost.logged 0 1 sampleInsets).run.run ({}, []) =
          (.ok ⟨answers.installed, [], answers.refused⟩, s,
            .insertSubview 0 1 :: (sampleInsets.constraints 0 1).map .install) ∧
        answers.installed = 3) ∧
    ¬ (EdgeInsets.uniform (.infinite true)).Finite ∧ ∃ err,
      (addSubview pickyHost.logged 0 1 (.uniform (.infinite true))).run.run ({}, []) =
        (.ok ⟨0, [⟨0, (EdgeInsets.uniform (.infinite true)).equation, .parse err⟩], []⟩, { hierarchy := [(0, 1)] },
          [.insertSubview 0 1]) := by
  have hrefused : (pickyHost.insertSubview 0 9).run.run {} = (.error "no nine", {}) := rfl
  have haccepted : (pickyHost.insertSubview 0 1).run.run {} = (.ok (), { hierarchy := [(0, 1)] }) := rfl
  have hfinite : sampleInsets.Finite := by decide +kernel
  have hinfinite : ¬ (EdgeInsets.uniform (.infinite true)).Finite := by decide
  refine ⟨(addSubview_pins pickyHost 0 9 sampleInsets hrefused []).1 _ rfl, ⟨hfinite, ?_⟩, hinfinite, ?_⟩
  · obtain ⟨-, answers, s, hoffer, hrun⟩ := (addSubview_pins pickyHost 0 1 sampleInsets haccepted []).2.1 rfl hfinite
    refine ⟨answers, s, hoffer, hrun, ?_⟩
    rw [← congrArg (fun r => r.1.installed) hoffer]
    decide +kernel
  · obtain ⟨err, -, hrun⟩ :=
      (addSubview_pins pickyHost 0 1 (.uniform (.infinite true)) haccepted []).2.2 rfl hinfinite
    exact ⟨err, hrun⟩

end LayoutEquations
