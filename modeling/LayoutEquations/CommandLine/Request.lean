import LayoutEquations.CommandLine.Invocation
import LayoutEquations.CommandLine.Options

/-!
# Reading a command line

`Invocation.ofWords` reads a command line: general options, a command, and the command's options and operands. The
general options may stand before or after the command; behind it they weigh more. The words are read from left to
right, and the first of them that asks for help, asks for the version or makes no sense decides.
-/

namespace LayoutEquations.CommandLine

/-- What words can ask for instead of a command to run. -/
inductive Request where
  | version
  | help
  | misuse (m : Misuse)
deriving DecidableEq

/-! ## Options -/

def OutputFormat.ofText? : String → Option OutputFormat
  | "text" => some .text
  | "json" => some .json
  | _ => none

/-- The options that hold for every command. -/
def generalFlags : List Flag :=
  [{ name := "output", takesValue := true }, { name := "quiet" }, { name := "verbose", letter := 'v' },
    { name := "help", letter := 'h' }]

/-- The names of the commands. -/
inductive Verb where
  | compile
  | check
  | tokens
  | margins
  | help
deriving DecidableEq

namespace Verb

def name : Verb → String
  | compile => "compile"
  | check => "check"
  | tokens => "tokens"
  | margins => "margins"
  | help => "help"

def ofWord? (word : String) : Option Verb :=
  [compile, check, tokens, margins, help].find? (·.name == word)

/-- The options of a command's own. -/
def flags : Verb → List Flag
  | compile => [{ name := "file", takesValue := true }, { name := "layout", takesValue := true }]
  | margins => { name := "superview", takesValue := true } ::
      ["top", "leading", "bottom", "trailing"].map fun name => { name, takesValue := true, anyValue := true }
  | _ => []

/-- The number of operands that a command takes at most. -/
def operandLimit? : Verb → Option Nat
  | compile | check => none
  | _ => some 1

end Verb

/-- Does the text suit the option? -/
def accepts (name text : String) : Bool :=
  match name with
  | "output" => (OutputFormat.ofText? text).isSome
  | "file" | "layout" => !text.isEmpty
  | "top" | "leading" | "bottom" | "trailing" => (Number.ofText? text).isSome
  | _ => true

/-! ## Reading -/

/-- What has been given so far. -/
structure Given where
  flags : List String := []
  values : List (String × String) := []
  operands : List String := []

namespace Given

/-- One item more. An option may be given once. -/
def add (limit : Option Nat) (g : Given) : Item → Except Request Given
  | .mistake m => .error (.misuse m)
  | .flag "help" => .error .help
  | .flag "version" => .error .version
  | .flag name =>
    if g.flags.contains name then .error (.misuse (.repeatedOption name))
    else .ok { g with flags := name :: g.flags }
  | .value name text =>
    if (g.values.lookup name).isSome then .error (.misuse (.repeatedOption name))
    else if accepts name text then .ok { g with values := (name, text) :: g.values }
    else .error (.misuse (.invalidValue name text))
  | .operand word =>
    if limit.any (· ≤ g.operands.length) then .error (.misuse (.unwantedOperand word))
    else .ok { g with operands := g.operands ++ [word] }

def ofItems (limit : Option Nat) (items : List Item) : Except Request Given :=
  items.foldlM (add limit) {}

/-- The number given for an option, or zero. -/
def number (g : Given) (name : String) : Number :=
  ((g.values.lookup name).bind Number.ofText?).getD .zero

def insets (g : Given) : EdgeInsets :=
  ⟨g.number "top", g.number "leading", g.number "bottom", g.number "trailing"⟩

/-- The general options given before and behind a command. -/
def settings (before behind : Given) : Settings where
  output := ((behind.values ++ before.values).lookup "output" |>.bind OutputFormat.ofText?).getD .text
  quiet := (behind.flags ++ before.flags).contains "quiet"
  verbose := (behind.flags ++ before.flags).contains "verbose"

/-- The command with what was given behind it. -/
def command (verb : Verb) (g : Given) : Except Request Command :=
  match verb, g.operands with
  | .compile, equations => .ok (.compile equations (g.values.lookup "file") (g.values.lookup "layout"))
  | .check, e :: es => .ok (.check (e :: es))
  | .tokens, [e] => .ok (.tokens e)
  | .margins, [subview] => .ok (.margins subview ((g.values.lookup "superview").getD "self") g.insets)
  | _, _ => .error (.misuse .missingOperand)

end Given

/-- A request for help, about a command or none. -/
def helpRequest : List String → Request
  | [] => .help
  | [word] => if (Verb.ofWord? word).isSome then .help else .misuse (.unwantedOperand word)
  | _ :: word :: _ => .misuse (.unwantedOperand word)

/-- The invocation of a command with the words behind it. -/
def commandInvocation (before : Given) (verb : Verb) (words : List String) : Except Request Invocation := do
  let behind ← Given.ofItems verb.operandLimit? (readItems (generalFlags ++ verb.flags) false words).1
  let command ← behind.command verb
  .ok ⟨Given.settings before behind, command⟩

/-- The invocation that the words of a command line stand for. -/
def Invocation.ofWords (words : List String) : Except Request Invocation := do
  let (items, words) := readItems ({ name := "version", letter := 'V' } :: generalFlags) true words
  let before ← Given.ofItems none items
  match before.operands with
  | [] => .error (.misuse .missingCommand)
  | word :: _ => match Verb.ofWord? word with
    | none => .error (.misuse (.unwantedOperand word))
    | some .help => .error (helpRequest words)
    | some verb => commandInvocation before verb words

end LayoutEquations.CommandLine
