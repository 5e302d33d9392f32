import LayoutEquations.CommandLine.FileSystem
import LayoutEquations.CommandLine.Invocation
import LayoutEquations.Installer
import LayoutEquations.Json.Encode
import LayoutEquations.Text.Classes

/-!
# The commands

A command is a function of its settings, of a toolkit and of the files it reads. `Toolkit.respond` answers any command
line.
-/

namespace LayoutEquations.CommandLine

/-- A value on lines of its own. -/
def jsonLines (j : Json) : String := lines [j.pretty]

/-! ## Failures before the work starts -/

/-- Why a command cannot start. -/
inductive SetupError where
  | unreadable (path : String) (e : ReadError)
  | noEquations
  | badLayout (format path problem : String)
  | badKeyPath (key : String)
deriving DecidableEq

namespace SetupError

def message : SetupError → String
  | unreadable path e => "error reading file '" ++ path ++ "': " ++ e.message
  | noEquations => "no equations given"
  | badLayout format path problem => "error parsing " ++ format ++ " in '" ++ path ++ "': " ++ problem
  | badKeyPath key => "invalid key path '" ++ key ++ "': expected '<view>.<property>'"

/-- The error as a line for standard error. -/
def line (output : OutputFormat) (e : SetupError) : String :=
  match output with
  | .text => e.message
  | .json => (Json.object [("error", .text e.message)]).compact

/-- The report of a command that cannot start. -/
def report (s : Settings) (e : SetupError) : Report :=
  ⟨1, "", if s.quiet then "" else lines [e.line s.output]⟩

end SetupError

variable (tools : Toolkit) (read : FileReader)

/-! ## Inputs -/

/-- The text without the blanks at its two ends. -/
def trim (cs : List Char) : List Char :=
  ((cs.dropWhile isBlank).reverse.dropWhile isBlank).reverse

/-- The equations of a file: one a line, without blanks around it; blank lines and comments are left out. -/
def equationLines (src : String) : List String :=
  let lines := (splitChars '\n' src.toList).map trim
  (lines.filter fun line => line ≠ [] ∧ line.head? ≠ some '#').map String.ofList

def readFile (path : String) : Except SetupError String :=
  (read path).mapError (.unreadable path)

/-- The equations of the command line and then those of the file. -/
def gather (equations : List String) : Option String → Except SetupError (List String)
  | none => .ok equations
  | some path => do .ok (equations ++ equationLines (← readFile read path))

/-- Reads a layout: as JSON when the extension says so, else as TOML. -/
def loadLayout (path : String) : Except SetupError Layout := do
  let src ← readFile read path
  if extension? path = some "json" then (tools.ofJson src).mapError (.badLayout "JSON" path)
  else (tools.ofToml src).mapError (.badLayout "TOML" path)

/-- The equations and the scope of a `compile` command. -/
def setup (equations : List String) (file layout : Option String) : Except SetupError (List String × Scope String) := do
  let equations ← gather read equations file
  if equations = [] then .error .noEquations
  else do
    let layout ← match layout with
      | some path => loadLayout tools read path
      | none => .ok {}
    let scope ← layout.scope.mapError .badKeyPath
    .ok (equations, scope)

/-! ## Commands -/

/-- The log of a compilation. -/
def log (s : Settings) (os : List (Outcome String)) : String :=
  if s.verbose && !s.quiet then lines (os.map tools.logLine) else ""

def errorLines (errors : List EquationError) : String := lines (errors.map EquationError.text)

def constraintLines (cs : List (Constraint String)) : String := lines (cs.map Constraint.text)

def runCompile (s : Settings) (scope : Scope String) (equations : List String) : Report :=
  let os := outcomes scope equations
  let batch := Batch.ofOutcomes os
  let code := exitCode batch.isOk
  match s.output with
  | .text =>
    ⟨code, constraintLines batch.constraints, log tools s os ++ if s.quiet then "" else errorLines batch.errors⟩
  | .json =>
    let j := Json.object [
      ("descriptors", .ofList Constraint.toJson batch.constraints),
      ("errors", .ofList EquationError.toJson batch.errors)]
    ⟨code, jsonLines j, log tools s os⟩

/-- The equations that parse, each with its index. -/
def parsedEquations (equations : List String) : List (Nat × Equation) :=
  equations.zipIdx.filterMap fun (src, index) => match Equation.ofText src with
    | .ok e => some (index, e)
    | .error _ => none

/-- The failures of the equations that do not parse. -/
def parseFailures (equations : List String) : List EquationError :=
  equations.zipIdx.filterMap fun (src, index) => match Equation.ofText src with
    | .ok _ => none
    | .error e => some ⟨index, src, e⟩

def parsedJson (index : Nat) (e : Equation) : Json :=
  .object [("ast", e.toJson), ("canonical", .text e.render), ("index", .nat index)]

def runCheck (s : Settings) (equations : List String) : Report :=
  let parsed := parsedEquations equations
  let errors := parseFailures equations
  let code := exitCode errors.isEmpty
  match s.output with
  | .text =>
    if s.quiet then ⟨code, "", ""⟩
    else ⟨code, lines (parsed.map fun (_, e) => e.render), errorLines errors⟩
  | .json =>
    let j := Json.object [
      ("equations", .ofList (fun (index, e) => parsedJson index e) parsed),
      ("errors", .ofList EquationError.toJson errors)]
    ⟨code, jsonLines j, ""⟩

/-- A lexeme on a line: its offset, right-aligned in four columns, and its token. -/
def lexemeLine (l : Lexeme) : String :=
  let offset := l.pos.repr
  String.ofList (List.replicate (4 - offset.length) ' ') ++ offset ++ "  " ++ l.token.describe

def runTokens (s : Settings) (src : String) : Report :=
  match lex src with
  | .ok ls => match s.output with
    | .text => ⟨0, lines (ls.map lexemeLine), ""⟩
    | .json => ⟨0, jsonLines (.ofList Lexeme.toJson ls), ""⟩
  | .error e =>
    let err : EquationError := ⟨0, src, .lex e⟩
    match s.output with
    | .text => ⟨1, "", if s.quiet then "" else errorLines [err]⟩
    | .json => ⟨1, jsonLines err.toJson, ""⟩

/-- The constraints are those that a recording host has accepted. The errors are written even to a quiet user. -/
def runMargins (s : Settings) (subview superview : String) (insets : EdgeInsets) : Report :=
  let (report, recorded) := (addSubview recordingAll superview subview insets).run {}
  let os := outcomes (EdgeInsets.scope superview subview) [insets.equation]
  match report with
  | .error e => nomatch e
  | .ok report =>
    let code := exitCode report.isOk
    match s.output with
    | .text =>
      ⟨code, lines ["equation: " ++ insets.equation] ++ constraintLines recorded.constraints,
        log tools s os ++ errorLines report.compileErrors⟩
    | .json =>
      let j := Json.object [
        ("descriptors", .ofList Constraint.toJson recorded.constraints),
        ("equation", .text insets.equation),
        ("errors", .ofList EquationError.toJson report.compileErrors),
        ("insets", insets.toJson)]
      ⟨code, jsonLines j, log tools s os⟩

/-- Runs an invocation. -/
def Toolkit.run (i : Invocation) : Report :=
  match i.command with
  | .compile equations file layout => match setup tools read equations file layout with
    | .ok (equations, scope) => runCompile tools i.settings scope equations
    | .error e => e.report i.settings
  | .check equations => runCheck i.settings equations
  | .tokens src => runTokens i.settings src
  | .margins subview superview insets => runMargins tools i.settings subview superview insets

/-- The answer to the words of a command line. -/
def Toolkit.respond (words : List String) : Report :=
  match tools.readWords words with
  | .ok i => tools.run read i
  | .error report => report

end LayoutEquations.CommandLine
