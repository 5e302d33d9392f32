/-!
# Reading options

How words of a command line are told apart: options with and without values, bundles of short flags, operands. A
`Flag` describes one option; `readItems` turns the words into `Item`s up to the first mistake. What the options mean
is decided elsewhere.
-/

namespace LayoutEquations.CommandLine

/-- An option: its long name, its letter, and whether a value follows. -/
structure Flag where
  name : String
  letter : Option Char := none
  takesValue : Bool := false
  /-- The value may look like an option. -/
  anyValue : Bool := false
deriving DecidableEq

/-- A mistake in a command line. -/
inductive Misuse where
  | unknownOption (word : String)
  | unwantedValue (name : String)
  | missingValue (name : String)
  | invalidValue (name value : String)
  | repeatedOption (name : String)
  | unwantedOperand (word : String)
  | missingOperand
  | missingCommand
deriving DecidableEq

def Misuse.message : Misuse → String
  | unknownOption word => "unknown option '" ++ word ++ "'"
  | unwantedValue name => "option '--" ++ name ++ "' takes no value"
  | missingValue name => "option '--" ++ name ++ "' needs a value"
  | invalidValue name value => "invalid value '" ++ value ++ "' for option '--" ++ name ++ "'"
  | repeatedOption name => "option '--" ++ name ++ "' is given twice"
  | unwantedOperand word => "unexpected argument '" ++ word ++ "'"
  | missingOperand => "an argument is missing"
  | missingCommand => "a command is missing"

/-- A part of a command line. -/
inductive Item where
  | flag (name : String)
  | value (name text : String)
  | operand (word : String)
  | mistake (m : Misuse)
deriving DecidableEq

/-- How a word looks. -/
inductive Shape where
  /-- `--`: operands follow. -/
  | separator
  | long (name : String) (attached : Option String)
  | short (letters : List Char)
  | plain
deriving DecidableEq

/-- A long option with the value behind its `=`. -/
def longShape (cs : List Char) : Shape :=
  .long (String.ofList (cs.takeWhile (· ≠ '='))) (match cs.dropWhile (· ≠ '=') with
    | [] => none
    | _ :: value => some (String.ofList value))

/-- A `-` alone is an operand. -/
def shapeOf (word : String) : Shape :=
  match word.toList with
  | ['-', '-'] => .separator
  | '-' :: '-' :: cs => longShape cs
  | ['-'] => .plain
  | '-' :: cs => .short cs
  | _ => .plain

/-- The flags of a bundle, up to the first letter that is none. -/
def bundle (flags : List Flag) : List Char → List Item
  | [] => []
  | c :: cs => match flags.find? fun f => f.letter == some c && !f.takesValue with
    | some f => .flag f.name :: bundle flags cs
    | none => [.mistake (.unknownOption (String.ofList ['-', c]))]

/-- The items of the words of a command line. With `untilOperand` the first operand, which `--` cannot announce, ends
them, and the words after it are returned. -/
def readItems (flags : List Flag) (untilOperand : Bool) : List String → List Item × List String
  | [] => ([], [])
  | word :: words =>
    match shapeOf word with
    | .separator =>
      (words.map fun word => if untilOperand then .mistake (.unwantedOperand word) else .operand word, [])
    | .short letters =>
      let (items, rest) := readItems flags untilOperand words
      (bundle flags letters ++ items, rest)
    | .plain =>
      if untilOperand then ([.operand word], words)
      else
        let (items, rest) := readItems flags untilOperand words
        (.operand word :: items, rest)
    | .long name attached =>
      match flags.find? (·.name == name), attached with
      | none, _ => ([.mistake (.unknownOption word)], [])
      | some f, some value =>
        let (items, rest) := readItems flags untilOperand words
        if f.takesValue then (.value name value :: items, rest) else ([.mistake (.unwantedValue name)], [])
      | some f, none =>
        if f.takesValue then
          match words with
          | [] => ([.mistake (.missingValue name)], [])
          | value :: words =>
            let (items, rest) := readItems flags untilOperand words
            if f.anyValue || shapeOf value == .plain then (.value name value :: items, rest)
            else ([.mistake (.missingValue name)], [])
        else
          let (items, rest) := readItems flags untilOperand words
          (.flag name :: items, rest)

end LayoutEquations.CommandLine
