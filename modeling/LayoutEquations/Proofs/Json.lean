import LayoutEquations.Json
import LayoutEquations.Layout.Json

/-!
# What is written is JSON

`Json.Spells` is the grammar of JSON with the value of each text, whatever the blanks in it. It knows nothing of how
values are laid out. A value over several lines spells that value (`spells_prettyAt`): leaves by the kind of value,
strings character by character (`spellsChar_escapedChar`), lists and objects entry by entry.
-/

namespace LayoutEquations.Json

/-! ## The grammar -/

/-- Blanks, which may stand between any two parts of a value. -/
def Blanks (cs : List Char) : Prop := ∀ c ∈ cs, c ∈ [' ', '\n', '\r', '\t']

/-- The letters of the escapes, with what they stand for. -/
def escapes : List (Char × Char) :=
  [('"', '"'), ('\\', '\\'), ('/', '/'), ('b', '\x08'), ('f', '\x0c'), ('n', '\n'), ('r', '\r'), ('t', '\t')]

/-- The character in a string. -/
inductive SpellsChar : Char → List Char → Prop
  | plain {c : Char} (hlow : 0x20 ≤ c.toNat) (hquote : c ≠ '"') (hslash : c ≠ '\\') : SpellsChar c [c]
  | escape {c letter : Char} (h : (letter, c) ∈ escapes) : SpellsChar c ['\\', letter]
  | code {c : Char} {digits : List Char} (hlength : digits.length = 4)
      (hvalue : LayoutJson.hexValue? digits = some c.toNat) : SpellsChar c ('\\' :: 'u' :: digits)

inductive SpellsChars : List Char → List Char → Prop
  | nil : SpellsChars [] []
  | cons {c : Char} {cs text rest : List Char} (hc : SpellsChar c text) (hcs : SpellsChars cs rest) :
      SpellsChars (c :: cs) (text ++ rest)

/-- The string between its quotes. -/
inductive SpellsString (s : String) : List Char → Prop
  | quoted {text : List Char} (h : SpellsChars s.toList text) : SpellsString s ('"' :: text ++ ['"'])

mutual

inductive Spells : Json → List Char → Prop
  | null : Spells null "null".toList
  | true : Spells (bool Bool.true) "true".toList
  | false : Spells (bool Bool.false) "false".toList
  | nat {n : Nat} : Spells (nat n) (Nat.toDigits 10 n)
  | number {x : Number} {text : String} (h : x.jsonText? = some text) : Spells (number x) text.toList
  /-- What is no finite number is written as if it were absent. -/
  | noNumber {x : Number} (h : x.jsonText? = none) : Spells (number x) "null".toList
  | text {s : String} {literal : List Char} (h : SpellsString s literal) : Spells (text s) literal
  | emptyArray {blanks : List Char} (h : Blanks blanks) : Spells (array []) ('[' :: blanks ++ [']'])
  | array {items : List Json} {text : List Char} (h : SpellsItems items text) :
      Spells (array items) ('[' :: text ++ [']'])
  | emptyObject {blanks : List Char} (h : Blanks blanks) : Spells (object []) ('\x7b' :: blanks ++ ['\x7d'])
  | object {entries : List (String × Json)} {text : List Char} (h : SpellsEntries entries text) :
      Spells (object entries) ('\x7b' :: text ++ ['\x7d'])

inductive SpellsItems : List Json → List Char → Prop
  | last {item : Json} {before text behind : List Char} (hbefore : Blanks before) (h : Spells item text)
      (hbehind : Blanks behind) : SpellsItems [item] (before ++ text ++ behind)
  | cons {item : Json} {items : List Json} {before text behind rest : List Char} (hbefore : Blanks before)
      (h : Spells item text) (hbehind : Blanks behind) (hrest : SpellsItems items rest) :
      SpellsItems (item :: items) (before ++ text ++ behind ++ ',' :: rest)

/-- The text spells a key and its value, with a colon between them. -/
inductive SpellsEntry : String × Json → List Char → Prop
  | colon {key : String} {value : Json} {name before behind text : List Char} (hname : SpellsString key name)
      (hbefore : Blanks before) (hbehind : Blanks behind) (h : Spells value text) :
      SpellsEntry (key, value) (name ++ before ++ ':' :: behind ++ text)

/-- The text spells the entries, with commas between them. -/
inductive SpellsEntries : List (String × Json) → List Char → Prop
  | last {entry : String × Json} {before text behind : List Char} (hbefore : Blanks before)
      (h : SpellsEntry entry text) (hbehind : Blanks behind) : SpellsEntries [entry] (before ++ text ++ behind)
  | cons {entry : String × Json} {entries : List (String × Json)} {before text behind rest : List Char}
      (hbefore : Blanks before) (h : SpellsEntry entry text) (hbehind : Blanks behind)
      (hrest : SpellsEntries entries rest) :
      SpellsEntries (entry :: entries) (before ++ text ++ behind ++ ',' :: rest)

end

/-! ## Strings -/

theorem hexValue?_control : ∀ n < 0x20,
    let digits := List.replicate (4 - (Nat.toDigits 16 n).length) '0' ++ Nat.toDigits 16 n
    digits.length = 4 ∧ LayoutJson.hexValue? digits = some n := by
  decide

theorem spellsChar_escapedChar (c : Char) : SpellsChar c (escapedChar c) := by
  unfold escapedChar
  split
  case h_8 hquote hslash _ _ _ _ _ =>
    by_cases hlow : c.toNat < 0x20
    · obtain ⟨hlength, hvalue⟩ := hexValue?_control c.toNat hlow
      rw [if_pos hlow]
      exact .code hlength hvalue
    · rw [if_neg hlow]
      exact .plain (Nat.le_of_not_lt hlow) hquote hslash
  all_goals exact .escape (by decide)

theorem spellsString_stringLiteral (s : String) : SpellsString s (stringLiteral s).toList := by
  have hchars : ∀ cs : List Char, SpellsChars cs (cs.flatMap escapedChar) := by
    intro cs
    induction cs with
    | nil => exact .nil
    | cons c cs ih => exact .cons (spellsChar_escapedChar c) ih
  rw [stringLiteral, String.toList_ofList]
  exact .quoted (hchars s.toList)

/-! ## Lists over several lines -/

theorem blanks_newline (level : Nat) : Blanks (newline level).toList := by
  intro c hc
  rw [newline, String.toList_ofList] at hc
  rcases List.mem_cons.1 hc with rfl | hc
  · decide
  · rw [List.eq_of_mem_replicate hc]
    decide

theorem blanks_nil : Blanks [] := fun _ h => absurd h List.not_mem_nil

/-- What stands between the brackets of a list over several lines. -/
def inner (level : Nat) (texts : List String) : List Char :=
  [','].intercalate (texts.map fun text => (newline (level + 1)).toList ++ text.toList) ++ (newline level).toList

theorem toList_block {level : Nat} {texts : List String} (h : texts ≠ []) (opening closing : String) :
    (block level opening closing texts).toList = opening.toList ++ inner level texts ++ closing.toList := by
  rw [block, if_neg (by simpa using h)]
  simp [inner, String.toList_intercalate, Function.comp_def]

theorem inner_singleton (level : Nat) (text : String) :
    inner level [text] = (newline (level + 1)).toList ++ text.toList ++ (newline level).toList := by
  simp [inner]

theorem inner_cons_cons (level : Nat) (text next : String) (texts : List String) :
    inner level (text :: next :: texts) =
      (newline (level + 1)).toList ++ text.toList ++ [] ++ ',' :: inner level (next :: texts) := by
  simp [inner]

theorem spellsEntry_colon {key : String} {value : Json} {text : String} (h : Spells value text.toList) :
    SpellsEntry (key, value) (stringLiteral key ++ ": " ++ text).toList := by
  have hblank : Blanks [' '] := List.forall_mem_singleton.2 (by decide)
  rw [String.toList_append, String.toList_append]
  have hcolon := SpellsEntry.colon (spellsString_stringLiteral key) blanks_nil hblank h
  rwa [List.append_nil] at hcolon

/-! ## Values -/

mutual

theorem spells_prettyAt (level : Nat) : (j : Json) → Spells j (j.prettyAt level).toList
  | null => .null
  | bool true => .true
  | bool false => .false
  | nat n => by
    have hdigits : n.repr.toList = Nat.toDigits 10 n := String.toList_ofList
    show Spells (nat n) n.repr.toList
    rw [hdigits]
    exact .nat
  | number x => by
    show Spells (number x) (x.jsonText?.getD "null").toList
    cases h : x.jsonText? with
    | some text => exact .number h
    | none => exact .noNumber h
  | text s => .text (spellsString_stringLiteral s)
  | array [] => by
    show Spells (array []) ("[" ++ "]").toList
    exact .emptyArray blanks_nil
  | array (item :: items) => by
    show Spells _ (block level "[" "]" (prettyItems (level + 1) (item :: items))).toList
    rw [toList_block (by simp [prettyItems])]
    exact .array (spellsItems_prettyItems level (item :: items) (List.cons_ne_nil _ _))
  | object [] => by
    show Spells (object []) ("\x7b" ++ "\x7d").toList
    exact .emptyObject blanks_nil
  | object (entry :: entries) => by
    show Spells _ (block level "\x7b" "\x7d" (prettyEntries (level + 1) (entry :: entries))).toList
    rw [toList_block (by simp [prettyEntries])]
    exact .object (spellsEntries_prettyEntries level (entry :: entries) (List.cons_ne_nil _ _))

theorem spellsItems_prettyItems (level : Nat) : (items : List Json) → items ≠ [] →
    SpellsItems items (inner level (prettyItems (level + 1) items))
  | [], h => absurd rfl h
  | [item], _ => by
    show SpellsItems _ (inner level [item.prettyAt (level + 1)])
    rw [inner_singleton]
    exact .last (blanks_newline _) (spells_prettyAt _ item) (blanks_newline _)
  | item :: next :: items, _ => by
    show SpellsItems _ (inner level (item.prettyAt (level + 1) :: next.prettyAt (level + 1) :: _))
    rw [inner_cons_cons]
    have hrest := spellsItems_prettyItems level (next :: items) (List.cons_ne_nil _ _)
    exact .cons (blanks_newline _) (spells_prettyAt _ item) blanks_nil hrest

theorem spellsEntries_prettyEntries (level : Nat) : (entries : List (String × Json)) → entries ≠ [] →
    SpellsEntries entries (inner level (prettyEntries (level + 1) entries))
  | [], h => absurd rfl h
  | [(key, value)], _ => by
    show SpellsEntries _ (inner level [stringLiteral key ++ ": " ++ value.prettyAt (level + 1)])
    rw [inner_singleton]
    exact .last (blanks_newline _) (spellsEntry_colon (spells_prettyAt _ value)) (blanks_newline _)
  | (key, value) :: next :: entries, _ => by
    have hrest := spellsEntries_prettyEntries level (next :: entries) (List.cons_ne_nil _ _)
    show SpellsEntries _ (inner level ((stringLiteral key ++ ": " ++ value.prettyAt (level + 1)) ::
      (stringLiteral next.1 ++ ": " ++ next.2.prettyAt (level + 1)) :: _))
    rw [inner_cons_cons]
    exact .cons (blanks_newline _) (spellsEntry_colon (spells_prettyAt _ value)) blanks_nil hrest

end

end LayoutEquations.Json
