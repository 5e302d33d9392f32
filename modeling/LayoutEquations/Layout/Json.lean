import LayoutEquations.Layout

/-!
# Layouts in JSON

`Layout.ofJson?` reads a layout from JSON text: an object of its fields, or an array of their values. Texts, lists of
texts and objects of texts are all that a layout holds, so any other value is refused where it stands. Of entries with
one key the last counts.
-/

namespace LayoutEquations

namespace LayoutJson

/-! ## Tokens -/

inductive Token where
  | openBrace
  | closeBrace
  | openBracket
  | closeBracket
  | colon
  | comma
  | text (s : String)
deriving DecidableEq

def symbol? : Char → Option Token
  | '\x7b' => some .openBrace
  | '\x7d' => some .closeBrace
  | '[' => some .openBracket
  | ']' => some .closeBracket
  | ':' => some .colon
  | ',' => some .comma
  | _ => none

def isBlank (c : Char) : Bool := c == ' ' || c == '\t' || c == '\n' || c == '\r'

/-- The value of hexadecimal digits. -/
def hexValue? (digits : List Char) : Option Nat :=
  digits.foldlM (fun n c =>
    if c.isDigit then some (16 * n + (c.toNat - '0'.toNat))
    else if 'a' ≤ c ∧ c ≤ 'f' then some (16 * n + (c.toNat - 'a'.toNat + 10))
    else if 'A' ≤ c ∧ c ≤ 'F' then some (16 * n + (c.toNat - 'A'.toNat + 10))
    else none) 0

/-- The character behind a backslash of one letter. -/
def escape? : Char → Option Char
  | '"' => some '"'
  | '\\' => some '\\'
  | '/' => some '/'
  | 'b' => some '\x08'
  | 'f' => some '\x0c'
  | 'n' => some '\n'
  | 'r' => some '\r'
  | 't' => some '\t'
  | _ => none

/-- The text of code units: two halves of a pair stand for one character, and no half stands alone. -/
def textOfUnits? : List Nat → Option (List Char)
  | [] => some []
  | high :: low :: units =>
    if 0xD800 ≤ high ∧ high < 0xDC00 then
      if 0xDC00 ≤ low ∧ low < 0xE000 then
        (Char.ofNat (0x10000 + (high - 0xD800) * 0x400 + (low - 0xDC00)) :: ·) <$> textOfUnits? units
      else none
    else if high.isValidChar then (Char.ofNat high :: ·) <$> textOfUnits? (low :: units)
    else none
  | [unit] => if unit.isValidChar then some [Char.ofNat unit] else none

mutual

/-- The tokens of a text, outside of strings. -/
def tokens? : List Char → Option (List Token)
  | [] => some []
  | '"' :: cs => stringTokens? [] cs
  | c :: cs =>
    if isBlank c then tokens? cs
    else do
      let token ← symbol? c
      let rest ← tokens? cs
      some (token :: rest)

/-- The tokens of a text that starts inside a string; `units` are the string's code units so far, last one first. -/
def stringTokens? (units : List Nat) : List Char → Option (List Token)
  | [] => none
  | '"' :: cs => do
    let s ← textOfUnits? units.reverse
    let rest ← tokens? cs
    some (.text (String.ofList s) :: rest)
  | '\\' :: 'u' :: a :: b :: c :: d :: cs => do
    let unit ← hexValue? [a, b, c, d]
    stringTokens? (unit :: units) cs
  | '\\' :: c :: cs => do
    let e ← escape? c
    stringTokens? (e.toNat :: units) cs
  | c :: cs => if c.toNat < 0x20 then none else stringTokens? (c.toNat :: units) cs

end

/-! ## Values -/

/-- The items of a list up to its bracket. -/
def items? : List Token → Option (List String × List Token)
  | .text s :: .comma :: ts => do
    let (items, rest) ← items? ts
    some (s :: items, rest)
  | .text s :: .closeBracket :: ts => some ([s], ts)
  | _ => none

/-- The entries of a table up to its brace. -/
def entries? : List Token → Option (List (String × String) × List Token)
  | .text k :: .colon :: .text v :: .comma :: ts => do
    let (entries, rest) ← entries? ts
    some ((k, v) :: entries, rest)
  | .text k :: .colon :: .text v :: .closeBrace :: ts => some ([(k, v)], ts)
  | _ => none

/-- The value at the head of a list of tokens, and what follows it. -/
def value? : List Token → Option (LayoutValue × List Token)
  | .text s :: ts => some (.text s, ts)
  | .openBracket :: .closeBracket :: ts => some (.list [], ts)
  | .openBracket :: ts => (items? ts).map fun (items, rest) => (.list items, rest)
  | .openBrace :: .closeBrace :: ts => some (.table [], ts)
  | .openBrace :: ts => (entries? ts).map fun (entries, rest) => (.table entries, rest)
  | _ => none

theorem length_lt_of_items? {ts rest : List Token} {items : List String} (h : items? ts = some (items, rest)) :
    rest.length < ts.length := by
  fun_induction items? ts generalizing items with
  | case1 s ts ih =>
    obtain ⟨r, hr, h⟩ := Option.bind_eq_some_iff.1 h
    cases h
    have := ih hr
    simp only [List.length_cons]
    omega
  | case2 => cases h; simp only [List.length_cons]; omega
  | case3 => cases h

theorem length_lt_of_entries? {ts rest : List Token} {entries : List (String × String)}
    (h : entries? ts = some (entries, rest)) : rest.length < ts.length := by
  fun_induction entries? ts generalizing entries with
  | case1 k v ts ih =>
    obtain ⟨r, hr, h⟩ := Option.bind_eq_some_iff.1 h
    cases h
    have := ih hr
    simp only [List.length_cons]
    omega
  | case2 => cases h; simp only [List.length_cons]; omega
  | case3 => cases h

theorem length_lt_of_value? {ts rest : List Token} {v : LayoutValue} (h : value? ts = some (v, rest)) :
    rest.length < ts.length := by
  unfold value? at h
  split at h
  · cases h; simp
  · cases h; simp only [List.length_cons]; omega
  · obtain ⟨r, hr, h⟩ := Option.map_eq_some_iff.1 h
    cases h
    have := length_lt_of_items? hr
    simp only [List.length_cons]
    omega
  · cases h; simp only [List.length_cons]; omega
  · obtain ⟨r, hr, h⟩ := Option.map_eq_some_iff.1 h
    cases h
    have := length_lt_of_entries? hr
    simp only [List.length_cons]
    omega
  · cases h

/-! ## Layouts -/

/-- The fields of an object that ends the text. -/
def fields? : List Token → Option (List (String × LayoutValue))
  | .text key :: .colon :: ts =>
    match _ : value? ts with
    | some (v, .comma :: rest) => do
      let fields ← fields? rest
      some ((key, v) :: fields)
    | some (v, [.closeBrace]) => some [(key, v)]
    | _ => none
  | _ => none
termination_by ts => ts.length
decreasing_by
  have := length_lt_of_value? (by assumption)
  simp_all only [List.length_cons]
  omega

/-- The values of an array that ends the text. -/
def values? (ts : List Token) : Option (List LayoutValue) :=
  match _ : value? ts with
  | some (v, .comma :: rest) => do
    let values ← values? rest
    some (v :: values)
  | some (v, [.closeBracket]) => some [v]
  | _ => none
termination_by ts.length
decreasing_by
  have := length_lt_of_value? (by assumption)
  simp_all only [List.length_cons]
  omega

/-- The layout that a list of tokens spells. -/
def layout? : List Token → Option Layout
  | [.openBrace, .closeBrace] => Layout.ofFields? []
  | .openBrace :: ts => fields? ts >>= Layout.ofFields?
  | [.openBracket, .closeBracket] => Layout.ofValues? []
  | .openBracket :: ts => values? ts >>= Layout.ofValues?
  | _ => none

end LayoutJson

/-- The layout that a JSON text holds. -/
def Layout.ofJson? (src : String) : Option Layout := do
  let tokens ← LayoutJson.tokens? src.toList
  LayoutJson.layout? tokens

end LayoutEquations
