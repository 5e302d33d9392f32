import LayoutEquations.Equation
import LayoutEquations.Token

/-!
# The grammar of equations

The grammar as inductive relations between what is written and the lexemes that spell it, one relation for each
nonterminal and one constructor for each of its productions. A production puts the lexemes of its parts one after
the other, so `Derives e ls` says that exactly the lexemes `ls` spell the equation `e`. Nothing here looks ahead or
prefers one production to another: that the productions exclude each other is a property of the grammar.

* `Signed`, `Root`, `Keyword`: numbers with a detached sign, roots of view references, attribute names;
* `Operand`: a view reference with its attributes;
* `Priority`, `Constants`, `Clause`, `Right`: the parts behind the relation.
-/

namespace LayoutEquations.Grammar

variable {α : Type}

/-! ## Lists -/

/-- Items with commas between them, at least one. -/
inductive Separated (Item : α → List Lexeme → Prop) : List α → List Lexeme → Prop
  | one {a : α} {ls : List Lexeme} (h : Item a ls) : Separated Item [a] ls
  | more {a : α} {as : List α} {ls rest : List Lexeme} (p : Nat) (h : Item a ls) (hs : Separated Item as rest) :
      Separated Item (a :: as) (ls ++ ⟨p, .comma⟩ :: rest)

/-- `'(' item (',' item)* ')'` -/
inductive Parenthesized (Item : α → List Lexeme → Prop) : List α → List Lexeme → Prop
  | intro {as : List α} {ls : List Lexeme} (p q : Nat) (h : Separated Item as ls) :
      Parenthesized Item as (⟨p, .openParen⟩ :: (ls ++ [⟨q, .closeParen⟩]))

theorem Separated.ne_nil {Item : α → List Lexeme → Prop} {as : List α} {ls : List Lexeme} (h : Separated Item as ls) :
    as ≠ [] := by
  cases h <;> exact List.cons_ne_nil _ _

theorem Parenthesized.ne_nil {Item : α → List Lexeme → Prop} {as : List α} {ls : List Lexeme}
    (h : Parenthesized Item as ls) : as ≠ [] := by
  cases h with
  | intro p q h => exact h.ne_nil

/-! ## Numbers -/

/-- `('+' | '-')? NUMBER` -/
inductive Signed : Number → List Lexeme → Prop
  | plain (p : Nat) (x : Number) : Signed x [⟨p, .number x⟩]
  | plus (p q : Nat) (x : Number) : Signed x [⟨p, .plus⟩, ⟨q, .number x⟩]
  | minus (p q : Nat) (x : Number) : Signed (-x) [⟨p, .minus⟩, ⟨q, .number x⟩]

/-! ## View references -/

/-- The token of a root: `self`, `all`, a word that is not reserved, or a number that is an index. -/
inductive Root : ViewRef → Token → Prop
  | self : Root .self (.identifier "self")
  | all : Root .all (.identifier "all")
  | name {word : String} (h : isReserved word = false) : Root (.name word) (.identifier word)
  | index {x : Number} {n : Nat} (hx : x.toNat? = some n) (hn : n ≤ 4294967295) : Root (.index n) (.number x)

inductive Keyword : AttributeName → List Lexeme → Prop
  | intro {a : AttributeName} {word : String} (p : Nat) (h : AttributeName.ofWord? word = some a) :
      Keyword a [⟨p, .identifier word⟩]

/-- `('.' segment)* ('.' attributes)?`, what follows a root. A dotted word is a segment unless it is an attribute name;
an attribute name is one where another dot follows it, and the attribute at the end of the reference otherwise. -/
inductive Dotted : List String → List AttributeName → List Lexeme → Prop
  | nothing : Dotted [] [] []
  | single {a : AttributeName} {word : String} (p q : Nat) (h : AttributeName.ofWord? word = some a) :
      Dotted [] [a] [⟨p, .dot⟩, ⟨q, .identifier word⟩]
  | list {as : List AttributeName} {ls : List Lexeme} (p : Nat) (h : Parenthesized Keyword as ls) :
      Dotted [] as (⟨p, .dot⟩ :: ls)
  | segment {word : String} {words : List String} {as : List AttributeName} {ls : List Lexeme} (p q : Nat)
      (hword : AttributeName.ofWord? word = none ∨ ls.head?.map Lexeme.token = some .dot) (h : Dotted words as ls) :
      Dotted (word :: words) as (⟨p, .dot⟩ :: ⟨q, .identifier word⟩ :: ls)

/-- `'$' root ('.' segment)* ('.' attributes)?` -/
inductive Operand : ViewPath → List AttributeName → List Lexeme → Prop
  | intro {root : ViewRef} {t : Token} {words : List String} {as : List AttributeName} {ls : List Lexeme} (p q : Nat)
      (hroot : Root root t) (h : Dotted words as ls) :
      Operand ⟨root, words, p⟩ as (⟨p, .dollar⟩ :: ⟨q, t⟩ :: ls)

/-! ## Behind the relation -/

/-- `('(' '@' number ')')?`, where the number is whole and in 1..=1000. -/
inductive Priority : Nat → List Lexeme → Prop
  | absent : Priority 1000 []
  | clause {x : Number} {n : Nat} {ls : List Lexeme} (p q r : Nat) (h : Signed x ls) (hx : x.toNat? = some n)
      (hn : 1 ≤ n ∧ n ≤ 1000) :
      Priority n (⟨p, .openParen⟩ :: ⟨q, .atSign⟩ :: (ls ++ [⟨r, .closeParen⟩]))

/-- An entry of a constant list: the skip marker or a number. -/
inductive Entry : Constant → List Lexeme → Prop
  | skip (p : Nat) : Entry .skip [⟨p, .dash⟩]
  | value {x : Number} {ls : List Lexeme} (h : Signed x ls) : Entry (.value x) ls

/-- A number, or a list of constants between parentheses. -/
inductive Constants : List Constant → List Lexeme → Prop
  | number {x : Number} {ls : List Lexeme} (h : Signed x ls) : Constants [.value x] ls
  | list {cs : List Constant} {ls : List Lexeme} (h : Parenthesized Entry cs ls) : Constants cs ls

/-- `(('+' | '-') constants)?`; a `-` turns the sign of every number and keeps the skips. -/
inductive Clause : List Constant → List Lexeme → Prop
  | absent : Clause [.value .zero] []
  | plus {cs : List Constant} {ls : List Lexeme} (p : Nat) (h : Constants cs ls) : Clause cs (⟨p, .plus⟩ :: ls)
  | minus {cs : List Constant} {ls : List Lexeme} (p : Nat) (h : Constants cs ls) :
      Clause (cs.map Constant.neg) (⟨p, .minus⟩ :: ls)

/-- `operand ('*' number)? clause | number '(' operand ')' clause | constants` -/
inductive Right : RightTerm → List Lexeme → Prop
  | plain {view : ViewPath} {attributes : List AttributeName} {constants : List Constant} {ls rest : List Lexeme}
      (h : Operand view attributes ls) (hc : Clause constants rest) :
      Right { view, attributes, constants } (ls ++ rest)
  | after {view : ViewPath} {attributes : List AttributeName} {multiplier : Number} {constants : List Constant}
      {ls ms rest : List Lexeme} (p : Nat) (h : Operand view attributes ls) (hm : Signed multiplier ms)
      (hc : Clause constants rest) :
      Right { view, attributes, multiplierPosition := .after, multiplier, constants }
        (ls ++ ⟨p, .star⟩ :: (ms ++ rest))
  | before {view : ViewPath} {attributes : List AttributeName} {multiplier : Number} {constants : List Constant}
      {ls ms rest : List Lexeme} (p q : Nat) (hm : Signed multiplier ms) (h : Operand view attributes ls)
      (hc : Clause constants rest) :
      Right { view, attributes, multiplierPosition := .before, multiplier, constants }
        (ms ++ ⟨p, .openParen⟩ :: (ls ++ ⟨q, .closeParen⟩ :: rest))
  | constant {constants : List Constant} {ls : List Lexeme} (h : Constants constants ls) :
      Right { view := none, constants } ls

/-- `operand relation priority right end`, with at least one attribute on the left. -/
inductive Derives : Equation → List Lexeme → Prop
  | intro {view : ViewPath} {attributes : List AttributeName} {r : Relation} {priority : Nat} {right : RightTerm}
      {ls ps rs : List Lexeme} (p q : Nat) (h : Operand view attributes ls) (hne : attributes ≠ [])
      (hp : Priority priority ps) (hr : Right right rs) :
      Derives ⟨⟨view, attributes⟩, r, priority, right⟩ (ls ++ ⟨p, .relation r⟩ :: (ps ++ (rs ++ [⟨q, .eof⟩])))

def EndsOnce (ls : List Lexeme) : Prop :=
  ∃ init p, ls = init ++ [⟨p, .eof⟩] ∧ ∀ l ∈ init, l.token ≠ .eof

end LayoutEquations.Grammar
