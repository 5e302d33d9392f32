import LayoutEquations.Proofs.Batch
import LayoutEquations.Proofs.CommandLine.Inputs
import LayoutEquations.Proofs.CommandLine.Settings
import LayoutEquations.Proofs.EdgeInsets
import LayoutEquations.Proofs.Json
import LayoutEquations.Proofs.Layout.KeyPaths

/-!
# Exit codes and standard output

`Command.Succeeds` says when the work of a command succeeds: in terms of its files and equations, and without its
settings. The exit code is that of its success (`code_run`), so commands that are run with other settings have the same
exit code. What goes to standard output is known for each command by itself; of the settings, it sees the format, and
in `check` whether the user wants quiet (`stdout_run`). For `compile` it is said in full what stands there (`Writes`).
All of this holds with any toolkit.
-/

namespace LayoutEquations.CommandLine

variable {tools : Toolkit} {read : FileReader} {s s' : Settings} {equations all : List String}
  {file layout : Option String} {scope : Scope String}

/-! ## When a command succeeds -/

/-- The work of the command succeeds. -/
inductive Command.Succeeds (tools : Toolkit) (read : FileReader) : Command → Prop
  | compile {equations added : List String} {file layout : Option String} {l : Layout} (hfile : Added read file added)
      (hlayout : Loaded tools read layout l) (hkeys : ∀ e ∈ l.keyPaths.entries, Layout.IsKeyPath e.1)
      (hne : equations ++ added ≠ [])
      (hall : ∀ scope, l.scope = .ok scope → ∀ src ∈ equations ++ added, ∃ cs, compileEquation scope src = .ok cs) :
      Succeeds tools read (.compile equations file layout)
  | check {equations : List String} (h : ∀ src ∈ equations, ∃ e, Equation.ofText src = .ok e) :
      Succeeds tools read (.check equations)
  | tokens {src : String} (h : ∃ ls, lex src = .ok ls) : Succeeds tools read (.tokens src)
  | margins {subview superview : String} {insets : EdgeInsets} (h : insets.Finite) :
      Succeeds tools read (.margins subview superview insets)

theorem succeeds_compile_iff :
    (Command.compile equations file layout).Succeeds tools read ↔
      ∃ all scope, setup tools read equations file layout = .ok (all, scope) ∧
        ∀ src ∈ all, ∃ cs, compileEquation scope src = .ok cs := by
  constructor
  · intro h
    cases h with
    | compile hfile hlayout hkeys hne hall =>
      obtain ⟨scope, hscope⟩ := Layout.exists_scope_iff.2 hkeys
      exact ⟨_, scope, setup_eq_ok_iff.2 ⟨_, _, hfile, hlayout, rfl, hne, hscope⟩, hall scope hscope⟩
  · rintro ⟨all, scope, hsetup, hall⟩
    obtain ⟨added, l, hfile, hlayout, rfl, hne, hscope⟩ := setup_eq_ok_iff.1 hsetup
    refine .compile hfile hlayout (Layout.exists_scope_iff.1 ⟨scope, hscope⟩) hne fun scope' hscope' => ?_
    rw [hscope] at hscope'
    obtain rfl := Except.ok.inj hscope'
    exact hall

/-! ## Equations that are not read -/

/-- The failure of an equation that is not read. -/
def parseFailure? (entry : String × Nat) : Option EquationError :=
  match Equation.ofText entry.1 with
  | .ok _ => none
  | .error e => some ⟨entry.2, entry.1, e⟩

theorem parseFailures_eq (equations : List String) :
    parseFailures equations = equations.zipIdx.filterMap parseFailure? := rfl

theorem parseFailure?_eq_some_iff {entry : String × Nat} {err : EquationError} :
    parseFailure? entry = some err ↔
      entry = (err.equation, err.index) ∧ Equation.ofText err.equation = .error err.error := by
  obtain ⟨src, index⟩ := entry
  obtain ⟨index', src', e'⟩ := err
  rw [parseFailure?]
  dsimp only
  cases he : Equation.ofText src with
  | ok e =>
    refine iff_of_false (by simp) ?_
    rintro ⟨hentry, he'⟩
    cases hentry
    rw [he] at he'
    cases he'
  | error e =>
    constructor
    · intro h
      cases h
      exact ⟨rfl, he⟩
    · rintro ⟨hentry, he'⟩
      cases hentry
      rw [he] at he'
      cases he'
      rfl

theorem mem_parseFailures {err : EquationError} :
    err ∈ parseFailures equations ↔
      equations[err.index]? = some err.equation ∧ Equation.ofText err.equation = .error err.error := by
  rw [parseFailures_eq, List.mem_filterMap]
  simp only [parseFailure?_eq_some_iff]
  constructor
  · rintro ⟨entry, hentry, rfl, he⟩
    exact ⟨List.mem_zipIdx_iff_getElem?.1 hentry, he⟩
  · rintro ⟨hsrc, he⟩
    exact ⟨_, List.mem_zipIdx_iff_getElem?.2 hsrc, rfl, he⟩

theorem pairwise_index_parseFailures (equations : List String) :
    (parseFailures equations).Pairwise (·.index < ·.index) := by
  have hindices : equations.zipIdx.Pairwise (·.2 < ·.2) := by
    rw [← List.pairwise_map, List.zipIdx_map_snd]
    exact List.pairwise_lt_range'
  rw [parseFailures_eq]
  refine hindices.filterMap _ fun entry entry' hlt err herr err' herr' => ?_
  obtain ⟨rfl, -⟩ := parseFailure?_eq_some_iff.1 herr
  obtain ⟨rfl, -⟩ := parseFailure?_eq_some_iff.1 herr'
  exact hlt

/-! ## Exit codes -/

/-- Zero for success, one otherwise. -/
def Signals (code : Nat) (success : Prop) : Prop := success ∧ code = 0 ∨ ¬ success ∧ code = 1

theorem signals_exitCode {ok : Bool} {success : Prop} (h : ok = true ↔ success) : Signals (exitCode ok) success := by
  by_cases hsuccess : success
  · exact .inl ⟨hsuccess, by rw [exitCode, if_pos (h.2 hsuccess)]⟩
  · exact .inr ⟨hsuccess, by rw [exitCode, if_neg (mt h.1 hsuccess)]⟩

theorem Signals.congr {code : Nat} {p q : Prop} (h : Signals code p) (hpq : p ↔ q) : Signals code q := by
  rwa [Signals, ← hpq]

theorem Signals.unique {code code' : Nat} {success : Prop} (h : Signals code success) (h' : Signals code' success) :
    code = code' := by
  rcases h with ⟨hs, rfl⟩ | ⟨hs, rfl⟩
  · rcases h' with ⟨-, rfl⟩ | ⟨hs', -⟩
    · rfl
    · exact absurd hs hs'
  · rcases h' with ⟨hs', -⟩ | ⟨-, rfl⟩
    · exact absurd hs' hs
    · rfl

theorem Signals.code_eq_zero_iff {code : Nat} {success : Prop} (h : Signals code success) : code = 0 ↔ success := by
  rcases h with ⟨hsuccess, rfl⟩ | ⟨hfailure, rfl⟩
  · exact iff_of_true rfl hsuccess
  · exact iff_of_false Nat.one_ne_zero hfailure

theorem Signals.code_eq_one {code : Nat} {success : Prop} (h : Signals code success) (hfailure : ¬ success) :
    code = 1 := by
  rcases h with ⟨hsuccess, -⟩ | ⟨-, hcode⟩
  · exact absurd hsuccess hfailure
  · exact hcode

theorem code_runCompile :
    Signals (runCompile tools s scope all).code (∀ src ∈ all, ∃ cs, compileEquation scope src = .ok cs) := by
  have hcode : (runCompile tools s scope all).code = exitCode (compile scope all).isOk := by
    unfold runCompile
    cases s.output <;> rfl
  rw [hcode]
  refine signals_exitCode ?_
  rw [Batch.isOk, List.isEmpty_iff]
  exact eq_nil_iff_of_mem_iff fun _ => mem_errors_compile

theorem code_runCheck : Signals (runCheck s all).code (∀ src ∈ all, ∃ e, Equation.ofText src = .ok e) := by
  have hcode : (runCheck s all).code = exitCode (parseFailures all).isEmpty := by
    unfold runCheck
    cases s.output
    · cases s.quiet <;> rfl
    · rfl
  rw [hcode]
  refine signals_exitCode ?_
  rw [List.isEmpty_iff]
  exact eq_nil_iff_of_mem_iff fun _ => mem_parseFailures

theorem code_runTokens (src : String) : Signals (runTokens s src).code (∃ ls, lex src = .ok ls) := by
  unfold runTokens
  cases hlex : lex src with
  | ok ls =>
    refine .inl ⟨⟨ls, rfl⟩, ?_⟩
    cases s.output <;> rfl
  | error e =>
    refine .inr ⟨by simp, ?_⟩
    cases s.output <;> rfl

theorem runMargins_eq (subview superview : String) (insets : EdgeInsets) :
    runMargins tools s subview superview insets =
      let os := outcomes (EdgeInsets.scope superview subview) [insets.equation]
      let batch := Batch.ofOutcomes os
      match s.output with
      | .text =>
        ⟨exitCode batch.isOk, lines ["equation: " ++ insets.equation] ++ constraintLines batch.constraints,
          log tools s os ++ errorLines batch.errors⟩
      | .json =>
        ⟨exitCode batch.isOk, jsonLines (.object [
            ("descriptors", .ofList Constraint.toJson batch.constraints),
            ("equation", .text insets.equation),
            ("errors", .ofList EquationError.toJson batch.errors),
            ("insets", insets.toJson)]), log tools s os⟩ := by
  have hrun : (addSubview recordingAll superview subview insets).run {} = _ := addSubview_recordingAll insets
  have hok : ∀ batch : Batch String,
      (⟨batch.constraints.length, batch.errors, []⟩ : InstallReport Empty String).isOk = batch.isOk :=
    fun batch => Bool.and_true _
  unfold runMargins
  rw [hrun]
  dsimp only
  rw [hok]
  rfl

theorem code_runMargins (subview superview : String) (insets : EdgeInsets) :
    Signals (runMargins tools s subview superview insets).code insets.Finite := by
  have hcode : (runMargins tools s subview superview insets).code =
      exitCode (compile (EdgeInsets.scope superview subview) [insets.equation]).isOk := by
    rw [runMargins_eq]
    cases s.output <;> rfl
  rw [hcode]
  refine signals_exitCode ?_
  by_cases hfinite : insets.Finite
  · rw [EdgeInsets.compile_equation hfinite]
    exact ⟨fun _ => hfinite, fun _ => rfl⟩
  · obtain ⟨err, herr⟩ := EdgeInsets.compile_equation_of_not_finite hfinite superview subview
    rw [herr]
    exact ⟨fun h => (by cases h), fun h => absurd h hfinite⟩

/-- The exit code of a command signals its success. -/
theorem code_run (i : Invocation) : Signals (tools.run read i).code (i.command.Succeeds tools read) := by
  obtain ⟨s, command⟩ := i
  cases command with
  | compile equations file layout =>
    refine Signals.congr ?_ succeeds_compile_iff.symm
    unfold Toolkit.run
    dsimp only
    cases hsetup : setup tools read equations file layout with
    | ok r =>
      obtain ⟨all, scope⟩ := r
      refine code_runCompile.congr ⟨fun hall => ⟨all, scope, rfl, hall⟩, ?_⟩
      rintro ⟨all', scope', h, hall⟩
      cases h
      exact hall
    | error e =>
      refine .inr ⟨?_, rfl⟩
      rintro ⟨all, scope, h, -⟩
      cases h
  | check equations =>
    exact code_runCheck.congr ⟨.check, fun | .check h => h⟩
  | tokens src => exact (code_runTokens src).congr ⟨.tokens, fun | .tokens h => h⟩
  | margins subview superview insets =>
    exact (code_runMargins subview superview insets).congr ⟨.margins, fun | .margins h => h⟩

/-! ## Standard output -/

/-- What is written about constraints and failures: a line with each of the constraints, or one JSON value that lists
both. -/
def Writes (output : OutputFormat) (constraints : List (Constraint String)) (errors : List EquationError)
    (stdout : String) : Prop :=
  match output with
  | .text => stdout.toList = constraints.flatMap fun c => c.text.toList ++ ['\n']
  | .json => ∃ text, Json.Spells (.object [("descriptors", .array (constraints.map Constraint.toJson)),
      ("errors", .array (errors.map EquationError.toJson))]) text ∧ stdout.toList = text ++ ['\n']

theorem toList_lines (ls : List String) : (lines ls).toList = ls.flatMap fun l => l.toList ++ ['\n'] := by
  rw [lines, String.toList_join, List.flatMap_map]
  exact List.flatMap_congr fun l _ => String.toList_append

/-- The constraints of each equation that compiles are written, whatever becomes of the others. -/
theorem writes_runCompile :
    Writes s.output (all.flatMap fun src => (compileEquation scope src).toOption.getD []) (compile scope all).errors
      (runCompile tools s scope all).stdout := by
  rw [← constraints_compile]
  unfold Writes runCompile
  cases s.output with
  | text =>
    show (constraintLines (compile scope all).constraints).toList = _
    rw [constraintLines, toList_lines, List.flatMap_map]
  | json =>
    refine ⟨_, Json.spells_prettyAt 0 _, ?_⟩
    show (jsonLines _).toList = _
    rw [jsonLines, toList_lines, List.flatMap_singleton]
    rfl

/-- Standard output depends on the format, and in `check` on whether the user wants quiet. -/
theorem stdout_run {c : Command} (houtput : s'.output = s.output)
    (hquiet : s'.quiet = s.quiet ∨ ∀ equations, c ≠ .check equations) :
    (tools.run read ⟨s', c⟩).stdout = (tools.run read ⟨s, c⟩).stdout := by
  cases c with
  | compile equations file layout =>
    unfold Toolkit.run
    dsimp only
    cases setup tools read equations file layout with
    | ok r =>
      show (runCompile tools s' r.2 r.1).stdout = (runCompile tools s r.2 r.1).stdout
      unfold runCompile
      rw [houtput]
      cases s.output <;> rfl
    | error e => rfl
  | check equations =>
    have hquiet : s'.quiet = s.quiet := hquiet.resolve_right fun h => h equations rfl
    show (runCheck s' equations).stdout = (runCheck s equations).stdout
    unfold runCheck
    rw [houtput, hquiet]
  | tokens src =>
    show (runTokens s' src).stdout = (runTokens s src).stdout
    unfold runTokens
    rw [houtput]
    cases lex src <;> cases s.output <;> rfl
  | margins subview superview insets =>
    show (runMargins tools s' subview superview insets).stdout = (runMargins tools s subview superview insets).stdout
    rw [runMargins_eq, runMargins_eq, houtput]
    cases s.output <;> rfl

/-! ## Command lines -/

section Respond

variable {words words' : List String} {i i' : Invocation}

theorem respond_of_readWords (h : tools.readWords words = .ok i) : tools.respond read words = tools.run read i := by
  rw [Toolkit.respond, h]

theorem respond_compile {added : List String} {l : Layout} (h : tools.readWords words = .ok i)
    (hcommand : i.command = .compile equations file layout) (hadded : Added read file added)
    (hloaded : Loaded tools read layout l) (hne : equations ++ added ≠ []) (hscope : l.scope = .ok scope) :
    tools.respond read words = runCompile tools i.settings scope (equations ++ added) := by
  obtain ⟨s, command⟩ := i
  obtain rfl : command = .compile equations file layout := hcommand
  have hsetup := setup_eq_ok_iff.2 ⟨added, l, hadded, hloaded, rfl, hne, hscope⟩
  rw [respond_of_readWords h, Toolkit.run]
  dsimp only
  rw [hsetup]

theorem signals_respond (h : tools.readWords words = .ok i) :
    Signals (tools.respond read words).code (i.command.Succeeds tools read) := by
  rw [respond_of_readWords h]
  exact code_run i

/-- What the words for one command have in common. -/
theorem respond_same_command (read : FileReader) (h : tools.readWords words = .ok i)
    (h' : tools.readWords words' = .ok i') (hcommand : i'.command = i.command) :
    (tools.respond read words').code = (tools.respond read words).code ∧
    (i'.settings.output = i.settings.output →
      (i'.settings.quiet = i.settings.quiet ∨ ∀ equations, i.command ≠ .check equations) →
      (tools.respond read words').stdout = (tools.respond read words).stdout) := by
  have hsignals : Signals (tools.respond read words').code (i.command.Succeeds tools read) :=
    hcommand ▸ signals_respond h'
  refine ⟨hsignals.unique (signals_respond h), fun houtput hquiet => ?_⟩
  obtain ⟨s', command⟩ := i'
  obtain rfl : command = i.command := hcommand
  rw [respond_of_readWords h, respond_of_readWords h']
  exact stdout_run houtput hquiet

end Respond

/-- The exit code of an accepted command line is zero when the command succeeds, and one otherwise. Of the settings, the
exit code sees none, and standard output the format and, in `check`, whether the user wants quiet: so it is when the
same command is asked for in other words, and where general options are taken in front of a command, when they are put
there. What `compile` writes is the constraints of each equation that compiles. -/
theorem respond_signals_success (tools : Toolkit) (read : FileReader) {words : List String} {i : Invocation}
    (h : tools.readWords words = .ok i) :
    ((tools.respond read words).code = 0 ↔ i.command.Succeeds tools read) ∧
    (¬ i.command.Succeeds tools read → (tools.respond read words).code = 1) ∧
    (∀ words' i', tools.readWords words' = .ok i' → i'.command = i.command →
      (tools.respond read words').code = (tools.respond read words).code ∧
      (i'.settings.output = i.settings.output →
        (i'.settings.quiet = i.settings.quiet ∨ ∀ equations, i.command ≠ .check equations) →
        (tools.respond read words').stdout = (tools.respond read words).stdout)) ∧
    (tools.TakesOptions → words.head? = some i.command.name → ∀ o : GeneralOptions,
      (tools.respond read (o.words ++ words)).code = (tools.respond read words).code ∧
      ((∀ format, o.output = some format → format = i.settings.output) →
        (o.quiet = false ∨ ∀ equations, i.command ≠ .check equations) →
        (tools.respond read (o.words ++ words)).stdout = (tools.respond read words).stdout)) ∧
    ∀ equations file layout added l scope, i.command = .compile equations file layout → Added read file added →
      Loaded tools read layout l → equations ++ added ≠ [] → l.scope = .ok scope →
        Writes i.settings.output ((equations ++ added).flatMap fun src => (compileEquation scope src).toOption.getD [])
          (compile scope (equations ++ added)).errors (tools.respond read words).stdout := by
  have hsignals : Signals (tools.respond read words).code (i.command.Succeeds tools read) := signals_respond h
  refine ⟨hsignals.code_eq_zero_iff, hsignals.code_eq_one, fun _ _ => respond_same_command read h, ?_, ?_⟩
  · intro htakes hhead o
    obtain ⟨output, houtput, hwith⟩ := htakes words i h hhead o
    obtain ⟨hcode, hstdout⟩ := respond_same_command read h hwith rfl
    refine ⟨hcode, fun hformat hquiet => hstdout (houtput.elim (hformat output) id) ?_⟩
    exact hquiet.imp_left fun hquiet => by rw [hquiet, Bool.false_or]
  · intro equations file layout added l scope hcommand hadded hloaded hne hscope
    rw [respond_compile h hcommand hadded hloaded hne hscope]
    exact writes_runCompile

/-- A file with a comment, an equation that compiles and one whose view is unknown. -/
def sideFile : FileReader := fun path =>
  if path = "side.txt" then .ok "# height\n$self.height = 2\n$side.top = 1\n" else .error .notFound

/-- The scope of a command without a layout. -/
def bareScope : Scope String := ⟨"self", .indexed [], KeyPathTable.empty.lookup⟩

def sideJson : String :=
  "\x7b\n  \"descriptors\": [\n    \x7b\n      \"constant\": 1.0,\n      \"item_attribute\": \"width\",\n" ++
  "      \"item_view\": \"self\",\n      \"multiplier\": 1.0,\n      \"priority\": 1000,\n" ++
  "      \"related_attribute\": null,\n      \"related_view\": null,\n      \"relation\": \"equal\"\n" ++
  "    \x7d,\n    \x7b\n      \"constant\": 2.0,\n      \"item_attribute\": \"height\",\n" ++
  "      \"item_view\": \"self\",\n      \"multiplier\": 1.0,\n      \"priority\": 1000,\n" ++
  "      \"related_attribute\": null,\n      \"related_view\": null,\n      \"relation\": \"equal\"\n" ++
  "    \x7d\n  ],\n  \"errors\": [\n    \x7b\n      \"equation\": \"$side.top = 1\",\n      \"index\": 2,\n" ++
  "      \"kind\": \"resolve\",\n      \"message\": \"unknown view '$side' at offset 0\",\n" ++
  "      \"offset\": 0\n    \x7d\n  ]\n\x7d\n"

/-- One of three equations fails, so the exit code is one, with and without general options; the constraints of the two
others are written, as lines and in a JSON value. -/
theorem respond_signals_success_sample :
    let command := Command.compile ["$self.width = 1"] (some "side.txt") none
    let words := ["compile", "--file", "side.txt", "$self.width = 1"]
    let words' := ["compile", "--output", "json", "--file", "side.txt", "$self.width = 1"]
    let equations := ["$self.width = 1", "$self.height = 2", "$side.top = 1"]
    let constraints := equations.flatMap fun src => (compileEquation bareScope src).toOption.getD []
    let errors := (compile bareScope equations).errors
    Toolkit.bundled.readWords words = .ok ⟨{}, command⟩ ∧ Toolkit.bundled.TakesOptions ∧
      Toolkit.bundled.readWords words' = .ok ⟨⟨.json, false, false⟩, command⟩ ∧
      ¬ command.Succeeds .bundled sideFile ∧ (respond sideFile words).code = 1 ∧ (respond sideFile words').code = 1 ∧
      (respond sideFile ("--quiet" :: "--verbose" :: words)).code = 1 ∧
      (respond sideFile ("--quiet" :: "--verbose" :: words)).stdout = (respond sideFile words).stdout ∧
      Writes .text constraints errors (respond sideFile words).stdout ∧
      (respond sideFile words).stdout = "self.width = 1\nself.height = 2\n" ∧
      Writes .json constraints errors (respond sideFile words').stdout ∧
      (respond sideFile words').stdout = sideJson := by
  intro command words words' equations constraints errors
  have h : Toolkit.bundled.readWords words = .ok ⟨{}, command⟩ := by decide +kernel
  have h' : Toolkit.bundled.readWords words' = .ok ⟨⟨.json, false, false⟩, command⟩ := by decide +kernel
  have hcode : (respond sideFile words).code = 1 := by decide +kernel
  obtain ⟨hsuccess, -, hsame, hfront, hwritten⟩ := respond_signals_success .bundled sideFile h
  have hfailure : ¬ command.Succeeds .bundled sideFile := by
    intro hs
    rw [respond, hsuccess.2 hs] at hcode
    cases hcode
  obtain ⟨hcode', -⟩ := hsame words' _ h' rfl
  obtain ⟨hcodeFront, hstdoutFront⟩ := hfront takesOptions_bundled rfl { quiet := true, verbose := true }
  have hlines : equationLines "# height\n$self.height = 2\n$side.top = 1\n" =
    ["$self.height = 2", "$side.top = 1"] := by decide +kernel
  have hadded : Added sideFile (some "side.txt") ["$self.height = 2", "$side.top = 1"] := hlines ▸ .file rfl
  have hnotCheck : ∀ es, command ≠ .check es := by simp [command]
  have hwrites := hwritten ["$self.width = 1"] (some "side.txt") none _ {} bareScope rfl hadded .default (by simp) rfl
  obtain ⟨-, -, -, -, hwritten'⟩ := respond_signals_success .bundled sideFile h'
  have hwrites' := hwritten' ["$self.width = 1"] (some "side.txt") none _ {} bareScope rfl hadded .default (by simp) rfl
  have htext : (respond sideFile words).stdout = "self.width = 1\nself.height = 2\n" := by decide +kernel
  have hjson : (respond sideFile words').stdout = sideJson := by decide +kernel
  exact ⟨h, takesOptions_bundled, h', hfailure, hcode, hcode'.trans hcode, hcodeFront.trans hcode,
    hstdoutFront (by simp) (.inr hnotCheck), hwrites, htext, hwrites', hjson⟩

end LayoutEquations.CommandLine
