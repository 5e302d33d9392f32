import LayoutEquations.Batch
import LayoutEquations.EdgeInsets
import LayoutEquations.Layout

/-!
# Commands and what runs them

An `Invocation` is a command with the general options, and a `Report` what a run of it leaves behind. A command does
not read words or layout files by itself, and it does not lay out its log: for that it uses a `Toolkit`, and nothing is
known about a toolkit but what it answers.
-/

namespace LayoutEquations.CommandLine

/-! ## Invocations -/

inductive OutputFormat where
  | text
  | json
deriving DecidableEq

/-- The general options. -/
structure Settings where
  output : OutputFormat := .text
  quiet : Bool := false
  verbose : Bool := false
deriving DecidableEq

inductive Command where
  /-- Compile equations, those of a file behind those of the command line, against a layout file. -/
  | compile (equations : List String) (file layout : Option String)
  /-- Parse equations and write their canonical forms. -/
  | check (equations : List String)
  /-- Write the tokens of an equation. -/
  | tokens (equation : String)
  /-- Pin a subview inside its superview. -/
  | margins (subview superview : String) (insets : EdgeInsets)
deriving DecidableEq

/-- A command line that can be run. -/
structure Invocation where
  settings : Settings
  command : Command
deriving DecidableEq

/-! ## Reports -/

/-- What a run leaves behind: exit code, standard output and standard error. -/
structure Report where
  code : Nat
  stdout : String
  stderr : String
deriving DecidableEq

/-- Lines, each with its end. -/
def lines (ls : List String) : String := String.join (ls.map (· ++ "\n"))

def exitCode (ok : Bool) : Nat := if ok then 0 else 1

/-! ## Tools -/

/-- What the commands leave to others. -/
structure Toolkit where
  /-- The invocation that the words of a command line stand for. Words that ask for help or for the version, or that
  make no sense, are answered with a report at once. -/
  readWords : List String → Except Report Invocation
  /-- The layout that a TOML text holds, or what is wrong with the text. -/
  ofToml : String → Except String Layout
  /-- The layout that a JSON text holds, or what is wrong with the text. -/
  ofJson : String → Except String Layout
  /-- The line of the log about an outcome. -/
  logLine : Outcome String → String

end LayoutEquations.CommandLine
