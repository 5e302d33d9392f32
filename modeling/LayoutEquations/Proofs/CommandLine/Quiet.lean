import LayoutEquations.Proofs.CommandLine.ExitCode

/-!
# What a quiet user reads

With `--quiet` nothing is logged, and the commands keep their failures to themselves: what is left of a failure is its
exit code. One command does not look at the setting. `margins` writes its failure to standard error in any case, when
the output is text and the insets are not finite (`Loud`); every other run is silent (`stderr_respond_quiet`).
-/

namespace LayoutEquations.CommandLine

variable {tools : Toolkit} {s : Settings} {equations : List String} {scope : Scope String}

/-- The commands that write to standard error even for a quiet user. -/
inductive Loud : OutputFormat → Command → Prop
  | margins {subview superview : String} {insets : EdgeInsets} (h : ¬ insets.Finite) :
      Loud .text (.margins subview superview insets)

/-! ## Silent commands -/

theorem log_quiet (h : s.quiet = true) (os : List (Outcome String)) : log tools s os = "" := by
  rw [log, h, Bool.not_true, Bool.and_false]
  rfl

theorem stderr_report_quiet (h : s.quiet = true) (e : SetupError) : (e.report s).stderr = "" := by
  rw [SetupError.report, if_pos h]

theorem stderr_runCompile_quiet (h : s.quiet = true) : (runCompile tools s scope equations).stderr = "" := by
  unfold runCompile
  dsimp only
  rw [log_quiet h, h]
  cases s.output <;> rfl

theorem stderr_runCheck_quiet (h : s.quiet = true) : (runCheck s equations).stderr = "" := by
  unfold runCheck
  rw [h]
  cases s.output <;> rfl

theorem stderr_runTokens_quiet (h : s.quiet = true) (src : String) : (runTokens s src).stderr = "" := by
  unfold runTokens
  rw [h]
  cases lex src <;> cases s.output <;> rfl

/-! ## The command that is not -/

theorem lines_singleton_ne (line : String) : lines [line] ≠ "" := by
  intro h
  have hchars := congrArg String.toList h
  simp [lines] at hchars

theorem stderr_runMargins_of_finite {insets : EdgeInsets} (h : s.quiet = true) (hfinite : insets.Finite)
    (subview superview : String) : (runMargins tools s subview superview insets).stderr = "" := by
  have hbatch : Batch.ofOutcomes (outcomes (EdgeInsets.scope superview subview) [insets.equation]) = _ :=
    EdgeInsets.compile_equation hfinite superview subview
  rw [runMargins_eq]
  dsimp only
  rw [hbatch, log_quiet h]
  cases s.output <;> rfl

theorem stderr_runMargins_of_not_finite {insets : EdgeInsets} (h : s.quiet = true) (hfinite : ¬ insets.Finite)
    (subview superview : String) :
    ∃ err : ParseError, (runMargins tools s subview superview insets).stderr =
      if s.output = .text then lines [EquationError.text ⟨0, insets.equation, .parse err⟩] else "" := by
  obtain ⟨err, hbatch⟩ := EdgeInsets.compile_equation_of_not_finite hfinite superview subview
  have hbatch : Batch.ofOutcomes (outcomes (EdgeInsets.scope superview subview) [insets.equation]) = _ := hbatch
  refine ⟨err, ?_⟩
  rw [runMargins_eq]
  dsimp only
  rw [hbatch, log_quiet h]
  cases s.output
  · exact String.empty_append
  · rfl

/-- The failure of a loud command, as it is written. -/
def Command.FailureText : Command → String → Prop
  | .margins _ _ insets, text => ∃ err : ParseError, text = lines [EquationError.text ⟨0, insets.equation, .parse err⟩]
  | _, _ => False

theorem Command.FailureText.ne_empty {c : Command} {text : String} (h : c.FailureText text) : text ≠ "" := by
  cases c with
  | margins subview superview insets =>
    obtain ⟨err, rfl⟩ := h
    exact lines_singleton_ne _
  | compile => cases h
  | check => cases h
  | tokens => cases h

theorem stderr_run_quiet (tools : Toolkit) (read : FileReader) (i : Invocation) (h : i.settings.quiet = true) :
    (¬ Loud i.settings.output i.command → (tools.run read i).stderr = "") ∧
      (Loud i.settings.output i.command → i.command.FailureText (tools.run read i).stderr) := by
  obtain ⟨⟨output, quiet, verbose⟩, command⟩ := i
  cases command with
  | compile equations file layout =>
    refine ⟨fun _ => ?_, fun hloud => by cases hloud⟩
    unfold Toolkit.run
    dsimp only
    cases setup tools read equations file layout with
    | ok r => exact stderr_runCompile_quiet h
    | error e => exact stderr_report_quiet h e
  | check equations => exact ⟨fun _ => stderr_runCheck_quiet h, fun hloud => by cases hloud⟩
  | tokens src => exact ⟨fun _ => stderr_runTokens_quiet h src, fun hloud => by cases hloud⟩
  | margins subview superview insets =>
    by_cases hfinite : insets.Finite
    · refine ⟨fun _ => stderr_runMargins_of_finite h hfinite subview superview, fun hloud => ?_⟩
      cases hloud with
      | margins hnot => exact absurd hfinite hnot
    obtain ⟨err, hstderr⟩ := stderr_runMargins_of_not_finite h hfinite subview superview
    cases output with
    | text => exact ⟨fun hsilent => absurd (.margins hfinite) hsilent, fun _ => ⟨err, hstderr⟩⟩
    | json => exact ⟨fun _ => hstderr, fun hloud => by cases hloud⟩

/-! ## Command lines -/

/-- With `--quiet` a command line that can be run writes nothing to standard error, whatever its command, its files and
the other options are; but for `margins` with an inset that is not finite and text as output, which writes that its
equation does not parse. -/
theorem stderr_respond_quiet (tools : Toolkit) (read : FileReader) {words : List String} {i : Invocation}
    (h : tools.readWords words = .ok i) (hquiet : i.settings.quiet = true) :
    ((tools.respond read words).stderr = "" ↔ ¬ Loud i.settings.output i.command) ∧
      (Loud i.settings.output i.command → i.command.FailureText (tools.respond read words).stderr) := by
  obtain ⟨hsilent, hloud⟩ := stderr_run_quiet tools read i hquiet
  rw [respond_of_readWords h]
  exact ⟨⟨fun hempty hcommand => (hloud hcommand).ne_empty hempty, hsilent⟩, hloud⟩

/-- The command line of `margins` with a top inset that is not a number. -/
def nanMargins : Invocation := ⟨⟨.text, true, false⟩, .margins "x" "self" ⟨.nan, .zero, .zero, .zero⟩⟩

/-- A quiet `compile` keeps an equation without a view to itself, verbose or not, and a quiet `margins` does not keep
its own failure to itself. -/
theorem stderr_respond_quiet_sample :
    let words := ["--quiet", "compile", "$side.top = 1", "--file", "side.txt", "-v"]
    let command := Command.compile ["$side.top = 1"] (some "side.txt") none
    let words' := ["--quiet", "margins", "x", "--top", "nan"]
    Toolkit.bundled.readWords words = .ok ⟨⟨.text, true, true⟩, command⟩ ∧ (respond sideFile words).code = 1 ∧
      (respond sideFile words).stderr = "" ∧ Toolkit.bundled.readWords words' = .ok nanMargins ∧
      nanMargins.command.FailureText (respond sideFile words').stderr := by
  intro words command words'
  have h : Toolkit.bundled.readWords words = .ok ⟨⟨.text, true, true⟩, command⟩ := by decide +kernel
  have h' : Toolkit.bundled.readWords words' = .ok nanMargins := by decide +kernel
  have hsilent : ¬ Loud .text (.compile ["$side.top = 1"] (some "side.txt") none) := by
    rintro ⟨⟩
  have hloud : Loud .text nanMargins.command := .margins (by decide)
  refine ⟨h, by decide +kernel, (stderr_respond_quiet .bundled sideFile h rfl).1.2 hsilent, h', ?_⟩
  exact (stderr_respond_quiet .bundled sideFile h' rfl).2 hloud

/-- Quiet is not silent: `margins` tells of an inset that is not a number. -/
theorem not_stderr_respond_quiet :
    ¬ ∀ (read : FileReader) (words : List String) (i : Invocation), Toolkit.bundled.readWords words = .ok i →
      i.settings.quiet = true → (respond read words).stderr = "" := by
  intro hall
  have h : Toolkit.bundled.readWords ["--quiet", "margins", "x", "--top", "nan"] = .ok nanMargins := by decide +kernel
  have hsilent := hall sideFile _ nanMargins h rfl
  rw [respond, respond_of_readWords h] at hsilent
  exact ((stderr_run_quiet .bundled sideFile nanMargins rfl).2 (.margins (by decide))).ne_empty hsilent

end LayoutEquations.CommandLine
