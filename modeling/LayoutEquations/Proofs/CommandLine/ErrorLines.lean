import LayoutEquations.Proofs.CommandLine.ExitCode
import LayoutEquations.Proofs.Compile.OneLine

/-!
# A line for each failure

The text of a failure is one line, so the lines that a command writes about its failures can be told apart again: cut at
its line feeds, standard error gives the failures one by one (`splitOn_lines`). `TellsFailures` says that these are the
equations that fail, each one once and in their order; it holds of `compile`, where equations fail to compile, and of
`check`, where they fail to be read (`stderr_tells_failures`).
-/

namespace LayoutEquations.CommandLine

variable {α : Type} {tools : Toolkit} {s : Settings} {equations : List String} {scope : Scope String}

/-! ## Lines -/

/-- Lines without line feeds are what stands between the line feeds, and nothing stands behind the last one. -/
theorem splitOn_lines {ls : List String} (h : ∀ l ∈ ls, OneLine l) :
    (lines ls).toList.splitOn '\n' = ls.map String.toList ++ [[]] := by
  -- the line feeds stand behind the lines, so what is cut off last is empty
  have hjoined : (lines ls).toList = ['\n'].intercalate (ls.map String.toList ++ [[]]) := by
    induction ls with
    | nil => rfl
    | cons l ls ih =>
      have hne : ls.map String.toList ++ [[]] ≠ [] := by simp
      have hls := ih fun l hl => h l (List.mem_cons_of_mem _ hl)
      rw [List.map_cons, List.cons_append, List.intercalate_cons_of_ne_nil hne, ← hls]
      simp [lines]
  rw [hjoined]
  refine List.splitOn_intercalate '\n' ?_ (by simp)
  refine List.forall_mem_append.2 ⟨List.forall_mem_map.2 h, ?_⟩
  exact List.forall_mem_singleton.2 List.not_mem_nil

/-! ## Failures -/

/-- Cut at its line feeds, the text is the failures of the equations on which `run` fails, in their order, and the end
behind the last line feed. -/
def TellsFailures (run : String → Except CompileError α) (equations : List String) (text : String) : Prop :=
  ∃ errors : List EquationError, errors.Pairwise (·.index < ·.index) ∧
    (∀ err, err ∈ errors ↔ equations[err.index]? = some err.equation ∧ run err.equation = .error err.error) ∧
    text.toList.splitOn '\n' = errors.map (·.text.toList) ++ [[]]

theorem tellsFailures_errorLines {run : String → Except CompileError α} {errors : List EquationError}
    (hline : ∀ src err, run src = .error err → ∀ index, OneLine (EquationError.text ⟨index, src, err⟩))
    (hindices : errors.Pairwise (·.index < ·.index))
    (hmem : ∀ err, err ∈ errors ↔ equations[err.index]? = some err.equation ∧ run err.equation = .error err.error) :
    TellsFailures run equations (errorLines errors) := by
  refine ⟨errors, hindices, hmem, ?_⟩
  rw [errorLines, splitOn_lines, List.map_map]
  · rfl
  · exact List.forall_mem_map.2 fun err herr => hline _ _ ((hmem err).1 herr).2 err.index

theorem log_of_not_verbose (h : s.verbose = false) (os : List (Outcome String)) : log tools s os = "" := by
  rw [log, h]
  rfl

theorem stderr_runCompile (houtput : s.output = .text) (hquiet : s.quiet = false) (hverbose : s.verbose = false) :
    TellsFailures (compileEquation scope) equations (runCompile tools s scope equations).stderr := by
  have hstderr : (runCompile tools s scope equations).stderr = errorLines (compile scope equations).errors := by
    unfold runCompile
    rw [houtput]
    dsimp only
    rw [log_of_not_verbose hverbose, hquiet]
    exact String.empty_append
  rw [hstderr]
  exact tellsFailures_errorLines (fun _ _ => oneLine_of_compileEquation) (pairwise_index_errors scope equations)
    fun _ => mem_errors_compile

theorem stderr_runCheck (houtput : s.output = .text) (hquiet : s.quiet = false) :
    TellsFailures Equation.ofText equations (runCheck s equations).stderr := by
  have hstderr : (runCheck s equations).stderr = errorLines (parseFailures equations) := by
    unfold runCheck
    rw [houtput, hquiet]
    rfl
  rw [hstderr]
  exact tellsFailures_errorLines (fun _ _ => oneLine_of_ofText) (pairwise_index_parseFailures equations)
    fun _ => mem_parseFailures

/-! ## Command lines -/

/-- Every failure is one line, of whatever text. So a command line that compiles at least one equation with a layout, or
checks equations, and writes text, neither quiet nor verbose, writes a line to standard error for each equation that
fails, in the order of the equations, and nothing else. -/
theorem stderr_tells_failures :
    (∀ {V : Type} [DecidableEq V] (scope : Scope V) (equations : List String),
      ∀ err ∈ (compile scope equations).errors, OneLine err.text) ∧
    (∀ src err, Equation.ofText src = .error err → ∀ index, OneLine (EquationError.text ⟨index, src, err⟩)) ∧
    ∀ (tools : Toolkit) (read : FileReader) (words : List String) (i : Invocation), tools.readWords words = .ok i →
      i.settings = ⟨.text, false, false⟩ →
      (∀ equations file layout added l scope, i.command = .compile equations file layout → Added read file added →
        Loaded tools read layout l → equations ++ added ≠ [] → l.scope = .ok scope →
          TellsFailures (compileEquation scope) (equations ++ added) (tools.respond read words).stderr) ∧
      ∀ equations, i.command = .check equations →
        TellsFailures Equation.ofText equations (tools.respond read words).stderr := by
  refine ⟨fun scope equations err herr => ?_, fun src err => oneLine_of_ofText,
    fun tools read words i h hsettings => ⟨?_, ?_⟩⟩
  · exact oneLine_of_compileEquation (mem_errors_compile.1 herr).2 err.index
  · intro equations file layout added l scope hcommand hadded hloaded hne hscope
    rw [respond_compile h hcommand hadded hloaded hne hscope, hsettings]
    exact stderr_runCompile rfl rfl rfl
  · intro equations hcommand
    obtain ⟨s, command⟩ := i
    obtain rfl : command = .check equations := hcommand
    obtain rfl : s = ⟨.text, false, false⟩ := hsettings
    rw [respond_of_readWords h]
    exact stderr_runCheck rfl rfl

/-- `sideFile`, and a layout with a text over two lines. -/
def sideFiles : FileReader := fun path =>
  if path = "layout.toml" then .ok "receiver = \"\"\"\nroot\"\"\"\n" else sideFile path

/-- An equation over two lines fails, and so does one of the file: two lines, and none for the equation between them.
The same equation fails in `check`. -/
theorem stderr_tells_failures_sample :
    let broken := "$self\n.width = 'x'"
    let words := ["compile", "--file", "side.txt", "--layout", "layout.toml", broken]
    let words' := ["check", "$side.top = 1", broken]
    let command := Command.compile [broken] (some "side.txt") (some "layout.toml")
    let scope : Scope String := ⟨"root", .indexed [], KeyPathTable.empty.lookup⟩
    ¬ OneLine broken ∧
      Toolkit.bundled.readWords words = .ok ⟨{}, command⟩ ∧
      Loaded .bundled sideFiles (some "layout.toml") { receiver := "root" } ∧
      TellsFailures (compileEquation scope) [broken, "$self.height = 2", "$side.top = 1"]
        (respond sideFiles words).stderr ∧
      (respond sideFiles words).stderr =
        "equation 0 (\"$self\\n.width = 'x'\"): lex error: unexpected character ''' at offset 15\n" ++
        "equation 2 (\"$side.top = 1\"): resolve error: unknown view '$side' at offset 0\n" ∧
      Toolkit.bundled.readWords words' = .ok ⟨{}, .check ["$side.top = 1", broken]⟩ ∧
      TellsFailures Equation.ofText ["$side.top = 1", broken] (respond sideFiles words').stderr := by
  intro broken words words' command scope
  have h : Toolkit.bundled.readWords words = .ok ⟨{}, command⟩ := by decide +kernel
  have h' : Toolkit.bundled.readWords words' = .ok ⟨{}, .check ["$side.top = 1", broken]⟩ := by decide +kernel
  have hlines : equationLines "# height\n$self.height = 2\n$side.top = 1\n" =
    ["$self.height = 2", "$side.top = 1"] := by decide +kernel
  have hadded : Added sideFiles (some "side.txt") ["$self.height = 2", "$side.top = 1"] := hlines ▸ .file rfl
  have hloaded : Loaded .bundled sideFiles (some "layout.toml") { receiver := "root" } :=
    .toml rfl (by decide +kernel) (by decide +kernel)
  obtain ⟨hcompile, -⟩ := stderr_tells_failures.2.2 .bundled sideFiles words _ h rfl
  obtain ⟨-, hcheck⟩ := stderr_tells_failures.2.2 .bundled sideFiles words' _ h' rfl
  refine ⟨by decide, h, hloaded, ?_, by decide +kernel, h', hcheck _ rfl⟩
  exact hcompile [broken] (some "side.txt") (some "layout.toml") _ _ scope rfl hadded hloaded (by simp) rfl

end LayoutEquations.CommandLine
