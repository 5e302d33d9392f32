import LayoutEquations.Equation.Render
import LayoutEquations.Proofs.Attribute
import LayoutEquations.Proofs.Equation.WellFormed
import LayoutEquations.Proofs.Token.Spelling

/-!
# The tokens of the canonical form

`Equation.tokens` are the tokens that the canonical form of an equation is cut into (`spells_render`). They follow its
text piece by piece, with one choice that the text does not show: behind a priority clause no sign is part of a
number, so a negative number at the start of the right side is cut into a minus and its magnitude. Numbers that are
not finite give words, which the grammar does not take for numbers.
-/

namespace LayoutEquations

/-! ## Tokens of the parts -/

/-- The tokens of a number, where a sign may be part of it (`signed`) or not. -/
def Number.tokens (signed : Bool) : Number → List Token
  | nan => [.identifier "NaN"]
  | infinite true => [.minus, .identifier "inf"]
  | infinite false => [.identifier "inf"]
  | finite true r => if signed then [.number (.finite true r)] else [.minus, .number (.finite false r)]
  | finite false r => [.number (.finite false r)]

def ViewRef.token : ViewRef → Token
  | self => .identifier "self"
  | all => .identifier "all"
  | index n => .number (.ofNat n)
  | name word => .identifier word

def segmentTokens (words : List String) : List Token :=
  words.flatMap fun word => [.dot, .identifier word]

def ViewPath.tokens (p : ViewPath) : List Token :=
  .dollar :: p.root.token :: segmentTokens p.keyPath

/-- The tokens of a list between parentheses, from those of its items. -/
def parenthesizedTokens (items : List (List Token)) : List Token :=
  .openParen :: ([Token.comma].intercalate items ++ [.closeParen])

def AttributeName.listTokens : List AttributeName → List Token
  | [] => []
  | [a] => [.dot, .identifier a.name]
  | as => .dot :: parenthesizedTokens (as.map fun a => [.identifier a.name])

namespace Constant

def tokens : Constant → List Token
  | value x => x.tokens true
  | skip => [.dash]

def listTokens (signed : Bool) : List Constant → List Token
  | [value x] => x.tokens signed
  | cs => parenthesizedTokens (cs.map tokens)

end Constant

namespace RightTerm

/-- The tokens of a view with its attributes and multiplier. -/
def operandTokens (t : RightTerm) (signed : Bool) (view : ViewPath) : List Token :=
  let operand := view.tokens ++ AttributeName.listTokens t.attributes
  match t.multiplierPosition with
  | .before => t.multiplier.tokens signed ++ .openParen :: (operand ++ [.closeParen])
  | .after => operand ++ .star :: t.multiplier.tokens true
  | .omitted => operand

/-- The tokens of the constant clause behind a view. -/
def clauseTokens (t : RightTerm) : List Token :=
  if t.hasDefaultConstant then [] else .plus :: Constant.listTokens true t.constants

def tokens (t : RightTerm) (signed : Bool) : List Token :=
  match t.view with
  | none => Constant.listTokens signed t.constants
  | some view => t.operandTokens signed view ++ t.clauseTokens

end RightTerm

def priorityTokens (priority : Nat) : List Token :=
  if priority = requiredPriority then [] else [.openParen, .atSign, .number (.ofNat priority), .closeParen]

namespace Equation

def leftTokens (e : Equation) : List Token :=
  e.left.view.tokens ++ AttributeName.listTokens e.left.attributes ++ [.relation e.relation]

def tokens (e : Equation) : List Token :=
  e.leftTokens ++ priorityTokens e.priority ++ e.right.tokens (e.priority == requiredPriority)

end Equation

/-! ## Numbers -/

variable {cs : List Char} {ts : List Token}

theorem spellsAfter_number (previous : Option Token) (x : Number) (hcs : Stops cs) (h : Spells cs ts) :
    SpellsAfter previous (x.text.toList ++ cs) (x.tokens (signAllowed previous) ++ ts) := by
  have hnan : Spells ("NaN".toList ++ cs) (.identifier "NaN" :: ts) := spells_word (by decide +kernel) hcs (h _)
  have hinf : Spells ("inf".toList ++ cs) (.identifier "inf" :: ts) := spells_word (by decide +kernel) hcs (h _)
  have hplain (r : Fin Rank.infinity) : (Rank.numeral r).Plain := Decimal.plain_numeral _
  rw [Number.text, String.toList_ofList]
  cases x with
  | nan => exact hnan previous
  | infinite s =>
    cases s with
    | false => exact hinf previous
    | true =>
      refine spellsAfter_minus (by simp [Numeral.startsAt]) (fun c hc => ?_) (hinf _)
      obtain rfl : 'i' = c := Option.some.inj hc
      decide
  | finite s r =>
    rw [Number.chars_finite]
    cases s with
    | false =>
      have := spells_numeral (hplain r) hcs (h _) previous
      rwa [Number.value_numeral_rank] at this
    | true =>
      cases hallowed : signAllowed previous with
      | true =>
        have := spellsAfter_negative (hplain r) hcs hallowed (h _)
        rwa [Number.value_numeral_rank] at this
      | false =>
        have := spellsAfter_minus_numeral (hplain r) hcs hallowed (h _)
        rwa [Number.value_numeral_rank] at this

/-! ## View references -/

theorem spells_index (n : Nat) (hcs : Stops cs) (h : Spells cs ts) :
    Spells (n.repr.toList ++ cs) (.number (.ofNat n) :: ts) := by
  have hplain : (⟨Nat.toDigits 10 n, []⟩ : Numeral).Plain :=
    ⟨Nat.toDigits_ne_nil, isDigit_toDigits, fun c hc => by cases hc⟩
  rw [Nat.toList_repr]
  exact spells_numeral hplain hcs (h _)

theorem spells_root {root : ViewRef} (hroot : root.WellFormed) (hcs : Stops cs) (h : Spells cs ts) :
    Spells (root.render.toList ++ cs) (root.token :: ts) := by
  cases root with
  | self => exact spells_word (by decide +kernel) hcs (h _)
  | all => exact spells_word (by decide +kernel) hcs (h _)
  | index n => exact spells_index n hcs h
  | name word => exact spells_word hroot.1 hcs (h _)

theorem spells_segment {word : String} (hword : isIdentifier word = true) (hcs : Stops cs) (h : Spells cs ts) :
    Stops ('.' :: (word.toList ++ cs)) ∧ Spells ('.' :: (word.toList ++ cs)) (.dot :: .identifier word :: ts) := by
  have hhead : ∀ c ∈ (word.toList ++ cs).head?, c.isDigit = false := by
    unfold isIdentifier at hword
    split at hword
    · cases hword
    · next heq =>
      intro d hd
      rw [heq] at hd
      obtain rfl := Option.some.inj hd
      exact isDigit_of_startsWord (Bool.and_eq_true_iff.1 hword).1
  exact ⟨stops_point hhead, spells_point hhead (spells_word hword hcs (h _) _)⟩

theorem spells_segments {words : List String} (hwords : ∀ word ∈ words, isIdentifier word = true) (hcs : Stops cs)
    (h : Spells cs ts) :
    Stops ((String.join (words.map ("." ++ ·))).toList ++ cs) ∧
      Spells ((String.join (words.map ("." ++ ·))).toList ++ cs) (segmentTokens words ++ ts) := by
  induction words with
  | nil => exact ⟨hcs, h⟩
  | cons word words ih =>
    obtain ⟨hstops, hspells⟩ := ih fun w hw => hwords w (List.mem_cons_of_mem _ hw)
    have := spells_segment (hwords word (by simp)) hstops hspells
    simpa [segmentTokens] using this

theorem spells_path {p : ViewPath} (hp : p.WellFormed) (hcs : Stops cs) (h : Spells cs ts) :
    Spells (p.render.toList ++ cs) (p.tokens ++ ts) := by
  obtain ⟨hstops, hspells⟩ := spells_segments hp.keyPath hcs h
  have := Symbol.dollar.spells (spells_root hp.root hstops hspells _)
  simpa [ViewPath.render, ViewPath.tokens] using this

/-! ## Lists -/

/-- An item of a list is cut into these tokens, where a sign may be part of a number and `,` or `)` follows. -/
def SpellsItem (item : String) (its : List Token) : Prop :=
  ∀ {previous c cs ts}, signAllowed previous = true → c ∈ [',', ')'] → Spells (c :: cs) ts →
    SpellsAfter previous (item.toList ++ c :: cs) (its ++ ts)

theorem stops_item {c : Char} (hc : c ∈ [',', ')']) : Stops (c :: cs) := by
  rcases List.mem_pair.1 hc with rfl | rfl
  · exact stops_cons (by decide) (by decide)
  · exact stops_cons (by decide) (by decide)

theorem spellsItem_keyword (a : AttributeName) : SpellsItem a.name [.identifier a.name] :=
  fun _ hc h => spells_word a.isIdentifier_name (stops_item hc) (h _) _

theorem spellsItem_constant (c : Constant) : SpellsItem c.render c.tokens := by
  intro previous d cs ts hallowed hd h
  cases c with
  | value x =>
    have := spellsAfter_number previous x (stops_item hd) h
    rwa [hallowed] at this
  | skip => exact spells_dash hd (h _) _

theorem spellsAfter_items {α : Type} {item : α → String} {tokens : α → List Token} {as : List α}
    (hitem : ∀ a ∈ as, SpellsItem (item a) (tokens a)) (h : Spells (')' :: cs) ts) (previous : Option Token)
    (hallowed : signAllowed previous = true) :
    SpellsAfter previous ((String.intercalate ", " (as.map item)).toList ++ ')' :: cs)
      ([Token.comma].intercalate (as.map tokens) ++ ts) := by
  induction as generalizing previous with
  | nil => exact h previous
  | cons a as ih =>
    cases as with
    | nil => simpa using hitem a (by simp) hallowed (by simp) h
    | cons b bs =>
      have hrest := ih (fun a ha => hitem a (List.mem_cons_of_mem _ ha)) (some .comma) rfl
      have := hitem a (by simp) hallowed (by simp) (Symbol.comma.spells hrest.blank)
      simpa [String.intercalate_cons_cons] using this

theorem spells_parenthesized {α : Type} {item : α → String} {tokens : α → List Token} {as : List α}
    (hitem : ∀ a ∈ as, SpellsItem (item a) (tokens a)) (h : Spells cs ts) :
    Spells ((parenthesized (as.map item)).toList ++ cs) (parenthesizedTokens (as.map tokens) ++ ts) := by
  have hitems := spellsAfter_items hitem (Symbol.closeParen.spells (h _)) (some .openParen) rfl
  have := Symbol.openParen.spells hitems
  simpa [parenthesized, parenthesizedTokens] using this

theorem spells_attributes (as : List AttributeName) (hcs : Stops cs) (h : Spells cs ts) :
    Stops ((AttributeName.renderList as).toList ++ cs) ∧
      Spells ((AttributeName.renderList as).toList ++ cs) (AttributeName.listTokens as ++ ts) := by
  rcases as with _ | ⟨a, _ | ⟨b, bs⟩⟩
  · exact ⟨hcs, h⟩
  · have := spells_segment a.isIdentifier_name hcs h
    simpa [AttributeName.renderList, AttributeName.listTokens] using this
  · have hitems : Spells ((parenthesized ((a :: b :: bs).map AttributeName.name)).toList ++ cs) _ :=
      spells_parenthesized (fun a _ => spellsItem_keyword a) h
    have hhead : ∀ c ∈ ((parenthesized ((a :: b :: bs).map AttributeName.name)).toList ++ cs).head?,
        c.isDigit = false := by
      intro c hc
      obtain rfl : '(' = c := by simpa [parenthesized] using hc
      rfl
    have := And.intro (stops_point hhead) (spells_point hhead (hitems _))
    simpa [AttributeName.renderList, AttributeName.listTokens] using this

theorem spellsAfter_constants (previous : Option Token) (constants : List Constant) (hcs : Stops cs)
    (h : Spells cs ts) :
    SpellsAfter previous ((Constant.renderList constants).toList ++ cs)
      (Constant.listTokens (signAllowed previous) constants ++ ts) := by
  unfold Constant.renderList
  split
  · next x => exact spellsAfter_number previous x hcs h
  · next hlist =>
    have htokens : Constant.listTokens (signAllowed previous) constants =
        parenthesizedTokens (constants.map Constant.tokens) := by
      unfold Constant.listTokens
      split
      · next x => exact absurd rfl (hlist x)
      · rfl
    rw [htokens]
    exact spells_parenthesized (fun c _ => spellsItem_constant c) h previous

/-! ## The right side -/

theorem spells_operand {p : ViewPath} (hp : p.WellFormed) (as : List AttributeName) (hcs : Stops cs)
    (h : Spells cs ts) :
    Spells ((p.render ++ AttributeName.renderList as).toList ++ cs)
      (p.tokens ++ AttributeName.listTokens as ++ ts) := by
  obtain ⟨hstops, hspells⟩ := spells_attributes as hcs h
  have := spells_path hp hstops hspells
  simpa using this

theorem spellsAfter_operand (previous : Option Token) (t : RightTerm) {p : ViewPath} (hp : p.WellFormed)
    (hcs : Stops cs) (h : Spells cs ts) :
    SpellsAfter previous ((t.renderOperand p).toList ++ cs) (t.operandTokens (signAllowed previous) p ++ ts) := by
  unfold RightTerm.renderOperand RightTerm.operandTokens
  cases t.multiplierPosition with
  | before =>
    have hclose := Symbol.closeParen.spells (h _)
    have hoperand := spells_operand hp t.attributes (stops_cons (by decide) (by decide)) hclose
    have hopen := Symbol.openParen.spells (hoperand _)
    have := spellsAfter_number previous t.multiplier (stops_cons (by decide) (by decide)) hopen
    simpa using this
  | after =>
    have hnumber := spellsAfter_number (some .star) t.multiplier hcs h
    have hstar := Symbol.star.spells hnumber.blank
    have := spells_operand hp t.attributes (stops_cons (by decide) (by decide)) (fun _ => (hstar _).blank)
    simpa [Token.opensOperand] using this previous
  | omitted => exact spells_operand hp t.attributes hcs h previous

theorem spells_clause (t : RightTerm) (hcs : Stops cs) (h : Spells cs ts) :
    let clause := if t.hasDefaultConstant then "" else " + " ++ Constant.renderList t.constants
    Stops (clause.toList ++ cs) ∧ Spells (clause.toList ++ cs) (t.clauseTokens ++ ts) := by
  unfold RightTerm.clauseTokens
  dsimp only
  split
  · exact ⟨hcs, h⟩
  · have hconstants := spellsAfter_constants (some .plus) t.constants hcs h
    have hplus := spells_plus rfl hconstants.blank
    have : Stops (' ' :: '+' :: ' ' :: ((Constant.renderList t.constants).toList ++ cs)) ∧ Spells _ _ :=
      ⟨stops_cons (by decide) (by decide), fun _ => (hplus _).blank⟩
    simpa [Token.opensOperand] using this

theorem spellsAfter_right (previous : Option Token) {t : RightTerm} (ht : t.WellFormed) (hcs : Stops cs)
    (h : Spells cs ts) :
    SpellsAfter previous (t.render.toList ++ cs) (t.tokens (signAllowed previous) ++ ts) := by
  unfold RightTerm.render RightTerm.tokens
  cases hview : t.view with
  | none => exact spellsAfter_constants previous t.constants hcs h
  | some view =>
    obtain ⟨hstops, hspells⟩ := spells_clause t hcs h
    have := spellsAfter_operand previous t (ht.view view hview).1 hstops hspells
    simpa using this

/-! ## Equations -/

theorem spells_relation (r : Relation) (h : SpellsAfter (some (.relation r)) cs ts) :
    Spells (r.symbol.toList ++ cs) (.relation r :: ts) := by
  cases r with
  | equal => exact Symbol.equal.spells h
  | lessOrEqual => exact spells_inequality rfl h
  | greaterOrEqual => exact spells_inequality rfl h

theorem spells_priority {t : RightTerm} (ht : t.WellFormed) (r : Relation) (priority : Nat) :
    Spells (r.symbol.toList ++ (renderPriority priority).toList ++ ' ' :: t.render.toList)
      (.relation r :: (priorityTokens priority ++ (t.tokens (priority == requiredPriority) ++ [.eof]))) := by
  have hright (previous : Option Token) := spellsAfter_right previous ht stops_nil spells_nil
  unfold renderPriority priorityTokens
  by_cases hpriority : priority = requiredPriority
  · have := spells_relation r (hright _).blank
    simpa [hpriority, Token.opensOperand] using this
  · have hclose := Symbol.closeParen.spells (hright _).blank
    have hvalue := spells_index priority (stops_cons (by decide) (by decide)) hclose
    have := spells_relation r (Symbol.openParen.spells (Symbol.atSign.spells (hvalue _) _) _)
    simpa [hpriority, beq_false_of_ne hpriority, Token.opensOperand] using this

/-- The canonical form of an equation is cut into its tokens. -/
theorem spells_render {e : Equation} (h : e.WellFormed) : Spells e.render.toList (e.tokens ++ [.eof]) := by
  have hright := spells_priority h.right e.relation e.priority
  have := spells_operand h.view e.left.attributes (stops_cons (by decide) (by decide)) (fun _ => (hright _).blank)
  simpa [Equation.render, Equation.tokens, Equation.leftTokens] using this

end LayoutEquations
