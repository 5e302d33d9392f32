import LayoutEquations.CommandLine.Commands
import LayoutEquations.CommandLine.Request
import LayoutEquations.Layout.Toml

/-!
# The program's toolkit

`Toolkit.bundled` is the toolkit that the program runs with. Its readers are this library's own: `Invocation.ofWords`
for command lines, `Layout.ofToml?` and `Layout.ofJson?` for layouts. So are its texts for help and for misuse, and its
log, in which no times stand.
-/

namespace LayoutEquations.CommandLine

def usage : List String := [
  "Layout constraint equation compiler",
  "",
  "Usage: autolay [--output text|json] [--quiet] [--verbose] COMMAND",
  "",
  "Commands:",
  "  compile [--file FILE] [--layout FILE] [EQUATIONS]   Compile equations into constraint descriptors",
  "  check EQUATIONS                                     Parse equations and print their syntax tree",
  "  tokens EQUATION                                     Print the token stream of an equation",
  "  margins [--superview NAME] [--top N] [--leading N] [--bottom N] [--trailing N] SUBVIEW",
  "                                                      Pin a subview inside its superview with edge insets"]

/-- The answer to a request. -/
def Request.report : Request → Report
  | version => ⟨0, "autolay 0.1.0\n", ""⟩
  | help => ⟨0, lines usage, ""⟩
  | misuse m => ⟨2, "", lines (("error: " ++ m.message) :: "" :: usage)⟩

/-- What is wrong with a file that holds no layout. -/
def SetupError.layoutProblem : String := "not a layout"

/-- An outcome as a line of the log: level, message and fields. -/
def outcomeLine (o : Outcome String) : String :=
  match o.result with
  | .ok constraints =>
    " DEBUG compiled equation index=" ++ o.index.repr ++ " count=" ++ constraints.length.repr
  | .error e =>
    "  WARN equation failed to compile index=" ++ o.index.repr ++ " equation=" ++ quoted o.equation ++
      " error=" ++ e.message

def Toolkit.bundled : Toolkit where
  readWords words := (Invocation.ofWords words).mapError Request.report
  ofToml src := (Layout.ofToml? src).elim (.error SetupError.layoutProblem) .ok
  ofJson src := (Layout.ofJson? src).elim (.error SetupError.layoutProblem) .ok
  logLine := outcomeLine

/-- The program's answer to the words of a command line. -/
def respond (read : FileReader) (words : List String) : Report := Toolkit.bundled.respond read words

/-- The files that a command line can make the program read. -/
def filesOf (words : List String) : List String :=
  match Invocation.ofWords words with
  | .ok ⟨_, .compile _ file layout⟩ => file.toList ++ layout.toList
  | _ => []

end LayoutEquations.CommandLine
