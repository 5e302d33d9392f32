import LayoutEquations.Number.Text

/-!
# JSON

Values for tools, and their two layouts: `Json.compact` on one line, `Json.pretty` with a line for each entry and two
spaces for each level. An object is written in the order of its list of entries; the encoders of this library list
keys in alphabetical order.
-/

namespace LayoutEquations

inductive Json where
  | null
  | bool (b : Bool)
  | nat (n : Nat)
  | number (x : Number)
  | text (s : String)
  | array (items : List Json)
  | object (entries : List (String × Json))

namespace Json

/-! ## Encoding optional and listed values -/

def ofOption {α : Type} (encode : α → Json) : Option α → Json
  | some x => encode x
  | none => null

def ofList {α : Type} (encode : α → Json) (xs : List α) : Json :=
  array (xs.map encode)

/-! ## Texts -/

/-- The characters that stand for one character inside a JSON string. -/
def escapedChar (c : Char) : List Char :=
  match c with
  | '"' => ['\\', '"']
  | '\\' => ['\\', '\\']
  | '\n' => ['\\', 'n']
  | '\r' => ['\\', 'r']
  | '\t' => ['\\', 't']
  | '\x08' => ['\\', 'b']
  | '\x0c' => ['\\', 'f']
  | c =>
    if c.toNat < 0x20 then
      let hex := Nat.toDigits 16 c.toNat
      ['\\', 'u'] ++ List.replicate (4 - hex.length) '0' ++ hex
    else [c]

/-- The text as a JSON string. -/
def stringLiteral (s : String) : String :=
  String.ofList ('"' :: s.toList.flatMap escapedChar ++ ['"'])

/-! ## Layouts -/

mutual

/-- The value on one line, without blanks. -/
def compact : Json → String
  | null => "null"
  | bool b => if b then "true" else "false"
  | nat n => n.repr
  | number x => x.jsonText?.getD "null"
  | text s => stringLiteral s
  | array items => "[" ++ String.intercalate "," (compactItems items) ++ "]"
  | object entries => "\x7b" ++ String.intercalate "," (compactEntries entries) ++ "\x7d"

def compactItems : List Json → List String
  | [] => []
  | item :: items => item.compact :: compactItems items

def compactEntries : List (String × Json) → List String
  | [] => []
  | (key, value) :: entries => (stringLiteral key ++ ":" ++ value.compact) :: compactEntries entries

end

/-- A line break and the blanks of a level. -/
def newline (level : Nat) : String := String.ofList ('\n' :: List.replicate (2 * level) ' ')

/-- Items between brackets, each on a line of its own. -/
def block (level : Nat) (opening closing : String) (items : List String) : String :=
  if items.isEmpty then opening ++ closing
  else opening ++ String.intercalate "," (items.map (newline (level + 1) ++ ·)) ++ newline level ++ closing

mutual

/-- The value inside a text whose lines are indented to a level. -/
def prettyAt (level : Nat) : Json → String
  | array items => block level "[" "]" (prettyItems (level + 1) items)
  | object entries => block level "\x7b" "\x7d" (prettyEntries (level + 1) entries)
  | value => value.compact

def prettyItems (level : Nat) : List Json → List String
  | [] => []
  | item :: items => item.prettyAt level :: prettyItems level items

def prettyEntries (level : Nat) : List (String × Json) → List String
  | [] => []
  | (key, value) :: entries =>
    (stringLiteral key ++ ": " ++ value.prettyAt level) :: prettyEntries level entries

end

def pretty (j : Json) : String := prettyAt 0 j

end Json

end LayoutEquations
