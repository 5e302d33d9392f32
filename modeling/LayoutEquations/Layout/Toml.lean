import LayoutEquations.Layout.Json

/-!
# Layouts in TOML

`Layout.ofToml?` reads a layout from TOML text. It reads bindings of keys to texts, to lists of texts and to inline
tables of texts, and tables of texts under a header. Texts stand between one or three quotes, double ones with escapes
or single ones without. Keys are bare or quoted, and may be dotted where that names an entry of a table.

What a layout cannot hold is refused where it stands: numbers, truth values, lists of lists, lists of tables, deeper
tables. So is a key that is bound twice. One value is refused that another reader could make sense of: a date, which is
sometimes read as a table with one entry.
-/

namespace LayoutEquations

namespace LayoutToml

/-! ## Tokens -/

inductive Token where
  | openBrace
  | closeBrace
  | openBracket
  | closeBracket
  | equals
  | comma
  | dot
  | lineEnd
  | word (s : String)
  /-- A text between quotes; a block when there are three of them. -/
  | text (block : Bool) (s : String)
deriving DecidableEq

def symbol? : Char → Option Token
  | '\x7b' => some .openBrace
  | '\x7d' => some .closeBrace
  | '[' => some .openBracket
  | ']' => some .closeBracket
  | '=' => some .equals
  | ',' => some .comma
  | '.' => some .dot
  | '\n' => some .lineEnd
  | _ => none

/-- The characters of bare keys. -/
def isWordChar (c : Char) : Bool := c.isAlphanum || c == '_' || c == '-'

/-- May the character stand in a comment or between quotes? -/
def isPlain (c : Char) : Bool := (0x20 ≤ c.toNat || c == '\t') && c.toNat ≠ 0x7F

/-- The character behind a backslash of one letter. -/
def escape? : Char → Option Char
  | '"' => some '"'
  | '\\' => some '\\'
  | 'b' => some '\x08'
  | 'f' => some '\x0c'
  | 'n' => some '\n'
  | 'r' => some '\r'
  | 't' => some '\t'
  | _ => none

/-- The character with a code point in hexadecimal digits. -/
def charOfHex? (digits : List Char) : Option Char := do
  let n ← LayoutJson.hexValue? digits
  if n.isValidChar then some (Char.ofNat n) else none

/-- What the reader of characters is inside of. What has been read there comes last character first. -/
inductive Place where
  | line
  | comment
  | word (read : List Char)
  | basic (block : Bool) (read : List Char)
  /-- Between a backslash that breaks off a line of a block and what the block goes on with. -/
  | broken (lineEnded : Bool) (read : List Char)
  | literal (block : Bool) (read : List Char)

/-- The token of a text that has been read. -/
def textToken (block : Bool) (read : List Char) : Token := .text block (String.ofList read.reverse)

/-- The tokens of a text that starts at a place. A block leaves out a line end right behind its quotes, and it may end
in two quotes of its own. -/
def tokensAt? : Place → List Char → Option (List Token)
  | .line, [] => some []
  | .line, '#' :: cs => tokensAt? .comment cs
  | .line, '"' :: '"' :: '"' :: '\n' :: cs => tokensAt? (.basic true []) cs
  | .line, '"' :: '"' :: '"' :: cs => tokensAt? (.basic true []) cs
  | .line, '"' :: cs => tokensAt? (.basic false []) cs
  | .line, '\x27' :: '\x27' :: '\x27' :: '\n' :: cs => tokensAt? (.literal true []) cs
  | .line, '\x27' :: '\x27' :: '\x27' :: cs => tokensAt? (.literal true []) cs
  | .line, '\x27' :: cs => tokensAt? (.literal false []) cs
  | .line, c :: cs =>
    if c = ' ' ∨ c = '\t' then tokensAt? .line cs
    else if isWordChar c then tokensAt? (.word [c]) cs
    else do
      let token ← symbol? c
      let rest ← tokensAt? .line cs
      some (token :: rest)
  | .comment, [] => some []
  | .comment, '\n' :: cs => (.lineEnd :: ·) <$> tokensAt? .line cs
  | .comment, c :: cs => if isPlain c then tokensAt? .comment cs else none
  | .word read, [] => some [.word (String.ofList read.reverse)]
  | .word read, c :: cs =>
    if isWordChar c then tokensAt? (.word (c :: read)) cs
    else (.word (String.ofList read.reverse) :: ·) <$> tokensAt? .line (c :: cs)
  | .basic false read, '"' :: cs => (textToken false read :: ·) <$> tokensAt? .line cs
  | .basic true read, '"' :: '"' :: '"' :: '"' :: '"' :: cs =>
    (textToken true ('"' :: '"' :: read) :: ·) <$> tokensAt? .line cs
  | .basic true read, '"' :: '"' :: '"' :: '"' :: cs => (textToken true ('"' :: read) :: ·) <$> tokensAt? .line cs
  | .basic true read, '"' :: '"' :: '"' :: cs => (textToken true read :: ·) <$> tokensAt? .line cs
  | .basic block read, '\\' :: 'u' :: a :: b :: c :: d :: cs => do
    let e ← charOfHex? [a, b, c, d]
    tokensAt? (.basic block (e :: read)) cs
  | .basic block read, '\\' :: 'U' :: a :: b :: c :: d :: e :: f :: g :: h :: cs => do
    let e ← charOfHex? [a, b, c, d, e, f, g, h]
    tokensAt? (.basic block (e :: read)) cs
  | .basic block read, '\\' :: c :: cs =>
    if block && (c == ' ' || c == '\t' || c == '\n') then tokensAt? (.broken (c == '\n') read) cs
    else do
      let e ← escape? c
      tokensAt? (.basic block (e :: read)) cs
  | .basic block read, c :: cs =>
    if isPlain c || block && c == '\n' then tokensAt? (.basic block (c :: read)) cs else none
  | .broken lineEnded read, c :: cs =>
    if c = ' ' ∨ c = '\t' ∨ c = '\n' then tokensAt? (.broken (lineEnded || c == '\n') read) cs
    else if lineEnded then tokensAt? (.basic true read) (c :: cs)
    else none
  | .literal false read, '\x27' :: cs => (textToken false read :: ·) <$> tokensAt? .line cs
  | .literal true read, '\x27' :: '\x27' :: '\x27' :: '\x27' :: '\x27' :: cs =>
    (textToken true ('\x27' :: '\x27' :: read) :: ·) <$> tokensAt? .line cs
  | .literal true read, '\x27' :: '\x27' :: '\x27' :: '\x27' :: cs =>
    (textToken true ('\x27' :: read) :: ·) <$> tokensAt? .line cs
  | .literal true read, '\x27' :: '\x27' :: '\x27' :: cs => (textToken true read :: ·) <$> tokensAt? .line cs
  | .literal block read, c :: cs =>
    if isPlain c || block && c == '\n' then tokensAt? (.literal block (c :: read)) cs else none
  | .basic .., [] | .broken .., [] | .literal .., [] => none
termination_by place cs => 2 * cs.length + match place with | .word _ | .broken .. => 1 | _ => 0

/-! ## Statements -/

/-- The key that a token spells. -/
def key? : Token → Option String
  | .word s | .text false s => some s
  | _ => none

/-- The items of a list up to its bracket. A comma follows each but perhaps the last; lines may end anywhere. -/
def items? (afterItem : Bool) : List Token → Option (List String × List Token)
  | .lineEnd :: ts => items? afterItem ts
  | .closeBracket :: ts => some ([], ts)
  | .comma :: ts => if afterItem then items? false ts else none
  | .text _ s :: ts =>
    if afterItem then none
    else do
      let (items, rest) ← items? true ts
      some (s :: items, rest)
  | _ => none

/-- The entries of an inline table up to its brace. -/
def entries? : List Token → Option (List (String × String) × List Token)
  | k :: .equals :: .text _ v :: .comma :: ts => do
    let k ← key? k
    let (entries, rest) ← entries? ts
    some ((k, v) :: entries, rest)
  | k :: .equals :: .text _ v :: .closeBrace :: ts => do
    let k ← key? k
    some ([(k, v)], ts)
  | _ => none

/-- The value at the head of a list of tokens, and what follows it. -/
def value? : List Token → Option (LayoutValue × List Token)
  | .text _ s :: ts => some (.text s, ts)
  | .openBracket :: ts => (items? false ts).map fun (items, rest) => (.list items, rest)
  | .openBrace :: .closeBrace :: ts => some (.table [], ts)
  | .openBrace :: ts => do
    let (entries, rest) ← entries? ts
    if (entries.map (·.1)).Nodup then some (.table entries, rest) else none
  | _ => none

inductive Statement where
  /-- The header of a table. -/
  | header (table : String)
  | binding (key : String) (value : LayoutValue)
  /-- A binding whose dotted key names an entry of a table. -/
  | entry (table key value : String)

/-- The statement at the head of a list of tokens, and what follows it. -/
def statement? : List Token → Option (Statement × List Token)
  | .openBracket :: t :: .closeBracket :: ts => (key? t).map fun table => (.header table, ts)
  | k :: .equals :: ts => do
    let key ← key? k
    let (v, rest) ← value? ts
    some (.binding key v, rest)
  | t :: .dot :: k :: .equals :: .text _ v :: ts => do
    let table ← key? t
    let key ← key? k
    some (.entry table key v, ts)
  | _ => none

theorem length_lt_of_items? {afterItem : Bool} {ts rest : List Token} {items : List String}
    (h : items? afterItem ts = some (items, rest)) : rest.length < ts.length := by
  induction ts generalizing afterItem items with
  | nil => simp [items?] at h
  | cons t ts ih =>
    simp only [List.length_cons]
    unfold items? at h
    split at h
    · rename_i heq
      cases heq
      exact Nat.lt_succ_of_lt (ih h)
    · rename_i heq
      cases heq
      cases h
      omega
    · rename_i heq
      cases heq
      split at h
      · exact Nat.lt_succ_of_lt (ih h)
      · cases h
    · rename_i heq
      cases heq
      split at h
      · cases h
      · obtain ⟨r, hr, h⟩ := Option.bind_eq_some_iff.1 h
        cases h
        exact Nat.lt_succ_of_lt (ih hr)
    · cases h

theorem length_lt_of_entries? {ts rest : List Token} {entries : List (String × String)}
    (h : entries? ts = some (entries, rest)) : rest.length < ts.length := by
  fun_induction entries? ts generalizing entries with
  | case1 k _ v ts ih =>
    obtain ⟨key, -, h⟩ := Option.bind_eq_some_iff.1 h
    obtain ⟨r, hr, h⟩ := Option.bind_eq_some_iff.1 h
    cases h
    have := ih hr
    simp only [List.length_cons]
    omega
  | case2 k _ v ts =>
    obtain ⟨key, -, h⟩ := Option.bind_eq_some_iff.1 h
    cases h
    simp only [List.length_cons]
    omega
  | case3 => cases h

theorem length_lt_of_value? {ts rest : List Token} {v : LayoutValue} (h : value? ts = some (v, rest)) :
    rest.length < ts.length := by
  unfold value? at h
  split at h
  · cases h; simp
  · obtain ⟨r, hr, h⟩ := Option.map_eq_some_iff.1 h
    cases h
    have := length_lt_of_items? hr
    simp only [List.length_cons]
    omega
  · cases h; simp only [List.length_cons]; omega
  · obtain ⟨r, hr, h⟩ := Option.bind_eq_some_iff.1 h
    dsimp only at h
    split at h
    · cases h
      have := length_lt_of_entries? hr
      simp only [List.length_cons]
      omega
    · cases h
  · cases h

theorem length_lt_of_statement? {ts rest : List Token} {s : Statement} (h : statement? ts = some (s, rest)) :
    rest.length < ts.length := by
  unfold statement? at h
  split at h
  · obtain ⟨key, -, h⟩ := Option.map_eq_some_iff.1 h
    cases h
    simp only [List.length_cons]
    omega
  · obtain ⟨key, -, h⟩ := Option.bind_eq_some_iff.1 h
    obtain ⟨r, hr, h⟩ := Option.bind_eq_some_iff.1 h
    cases h
    have := length_lt_of_value? hr
    simp only [List.length_cons]
    omega
  · obtain ⟨table, -, h⟩ := Option.bind_eq_some_iff.1 h
    obtain ⟨key, -, h⟩ := Option.bind_eq_some_iff.1 h
    cases h
    simp only [List.length_cons]
    omega
  · cases h

/-- The statements of a text, each on lines of its own. -/
def statements? : List Token → Option (List Statement)
  | [] => some []
  | .lineEnd :: ts => statements? ts
  | ts =>
    match _ : statement? ts with
    | some (s, []) => some [s]
    | some (s, .lineEnd :: rest) => do
      let statements ← statements? rest
      some (s :: statements)
    | _ => none
termination_by ts => ts.length
decreasing_by
  · simp
  · have := length_lt_of_statement? (by assumption)
    simp only [List.length_cons] at this
    omega

/-! ## Documents -/

/-- The fields bound so far, the tables among them that dotted keys have begun, and the table of the last header. -/
structure Draft where
  fields : List (String × LayoutValue) := []
  dotted : List String := []
  current : Option String := none

namespace Draft

/-- A new field. -/
def addField? (d : Draft) (key : String) (v : LayoutValue) : Option Draft :=
  if d.fields.any (·.1 == key) then none else some { d with fields := d.fields ++ [(key, v)] }

/-- A new entry of a table. -/
def addEntry? (d : Draft) (table key value : String) : Option Draft :=
  match d.fields.lookup table with
  | some (.table entries) =>
    if entries.any (·.1 == key) then none
    else
      let v := LayoutValue.table (entries ++ [(key, value)])
      some { d with fields := d.fields.map fun f => if f.1 = table then (table, v) else f }
  | _ => none

/-- The fields after a statement. Under a header only texts are bound, and each table has one place where it is
written. -/
def step? (d : Draft) : Statement → Option Draft
  | .header table => do
    let d ← d.addField? table (.table [])
    some { d with current := some table }
  | .binding key v => match d.current, v with
    | none, v => d.addField? key v
    | some table, .text s => d.addEntry? table key s
    | some _, _ => none
  | .entry table key value =>
    if d.current.isSome then none
    else if d.dotted.contains table then d.addEntry? table key value
    else do
      let d ← d.addField? table (.table [(key, value)])
      some { d with dotted := table :: d.dotted }

end Draft

/-- The fields that the statements of a text bind. -/
def fields? (statements : List Statement) : Option (List (String × LayoutValue)) :=
  (·.fields) <$> statements.foldlM Draft.step? {}

end LayoutToml

/-- The characters of a text with every line end as a line feed. -/
def LayoutToml.joinLineEnds : List Char → List Char
  | '\r' :: '\n' :: cs => '\n' :: joinLineEnds cs
  | c :: cs => c :: joinLineEnds cs
  | [] => []

/-- The layout that a TOML text holds. A byte order mark at its start means nothing. -/
def Layout.ofToml? (src : String) : Option Layout := do
  let cs := match src.toList with
    | '\ufeff' :: cs => cs
    | cs => cs
  let tokens ← LayoutToml.tokensAt? .line (LayoutToml.joinLineEnds cs)
  let statements ← LayoutToml.statements? tokens
  let fields ← LayoutToml.fields? statements
  Layout.ofFields? fields

end LayoutEquations
