import LayoutEquations.Proofs.Number.Text
import LayoutEquations.Proofs.Results
import LayoutEquations.Proofs.Text.Classes
import LayoutEquations.Token.Lexer

/-!
# How tokens are spelled

`SpellsAfter previous cs ts`: behind the token `previous`, the text `cs` is cut into the tokens `ts`; `Spells` says so
of every token before. There is one lemma for each kind of token. It puts the token in front of a text whose tokens
are known, and asks that the text behind does not continue it: a word or a numeral has to stop (`Stops`), a point must
not start a fraction, and what follows a `-` tells the minus from the skip marker.
-/

namespace LayoutEquations

/-- Behind the token `previous` the text is cut into these tokens, at any offset. -/
def SpellsAfter (previous : Option Token) (cs : List Char) (ts : List Token) : Prop :=
  ∀ pos, ∃ ls, lexFrom previous pos cs = .ok ls ∧ ls.map Lexeme.token = ts

/-- The text is cut into these tokens, whichever token stands before. -/
def Spells (cs : List Char) (ts : List Token) : Prop :=
  ∀ previous, SpellsAfter previous cs ts

/-- The text continues neither a word nor a numeral. -/
structure Stops (cs : List Char) : Prop where
  word : ∀ c ∈ cs.head?, continuesWord c = false
  numeral : Numeral.startsAt cs = false

variable {previous : Option Token} {t : Token} {c : Char} {cs : List Char} {ts : List Token}

@[simp] theorem signAllowed_some (t : Token) : signAllowed (some t) = t.opensOperand := rfl

theorem stops_nil : Stops [] := ⟨fun _ h => (by cases h), rfl⟩

/-- The characters behind words and numerals come before the digits; the point is a case of its own. -/
theorem stops_cons (hlow : c.toNat < 0x30) (hpoint : c ≠ '.') : Stops (c :: cs) := by
  refine ⟨fun d hd => ?_, Numeral.startsAt_eq_false hpoint (isDigit_of_lt hlow) cs⟩
  obtain rfl : c = d := Option.some.inj hd
  exact continuesWord_of_lt hlow

theorem stops_point (h : ∀ c ∈ cs.head?, c.isDigit = false) : Stops ('.' :: cs) := by
  refine ⟨fun d hd => ?_, ?_⟩
  · obtain rfl : '.' = d := Option.some.inj hd
    exact continuesWord_of_lt (by decide)
  · cases cs with
    | nil => rfl
    | cons d cs => exact h d rfl

/-! ## Steps of the lexer -/

theorem spells_nil : Spells [] [.eof] := by
  intro previous pos
  exact ⟨[⟨pos, .eof⟩], by rw [lexFrom], rfl⟩

theorem SpellsAfter.blank (h : SpellsAfter previous cs ts) : SpellsAfter previous (' ' :: cs) ts := by
  intro pos
  obtain ⟨ls, hls, hts⟩ := h (pos + 1)
  refine ⟨ls, ?_, hts⟩
  rw [lexFrom, if_pos (by decide)]
  exact hls

theorem lexFrom_token {more : Nat} (hc : isBlank c = false) (hnext : nextToken? previous c cs = some (t, more))
    (pos : Nat) :
    lexFrom previous pos (c :: cs) =
      lexFrom (some t) (pos + 1 + more) (cs.drop more) >>= fun ls => .ok (⟨pos, t⟩ :: ls) := by
  rw [lexFrom, if_neg (by simp [hc]), hnext]

theorem spellsAfter_token {more : Nat} (hc : isBlank c = false) (hnext : nextToken? previous c cs = some (t, more))
    (h : SpellsAfter (some t) (cs.drop more) ts) : SpellsAfter previous (c :: cs) (t :: ts) := by
  intro pos
  obtain ⟨ls, hls, hts⟩ := h (pos + 1 + more)
  refine ⟨⟨pos, t⟩ :: ls, ?_, by rw [List.map_cons, hts]⟩
  rw [lexFrom_token hc hnext, hls, ok_bind]

/-! ## Symbols -/

theorem nextToken?_symbol (hnumeral : Numeral.startsAt (c :: cs) = false)
    (hsigned : ((c == '-' || c == '+') && signAllowed previous && Numeral.startsAt cs) = false)
    (ht : symbolToken? c cs = some t) : nextToken? previous c cs = some (t, 0) := by
  rw [nextToken?, if_neg (by simp [hnumeral]), if_neg (by simp only [hsigned]; decide), ht]

/-- The symbols that mean the same wherever they stand. -/
inductive Symbol : Char → Token → Prop
  | dollar : Symbol '$' .dollar
  | openParen : Symbol '(' .openParen
  | closeParen : Symbol ')' .closeParen
  | comma : Symbol ',' .comma
  | atSign : Symbol '@' .atSign
  | star : Symbol '*' .star
  | equal : Symbol '=' (.relation .equal)

theorem Symbol.spells (hc : Symbol c t) (h : SpellsAfter (some t) cs ts) : Spells (c :: cs) (t :: ts) := by
  intro previous
  cases hc <;> exact spellsAfter_token (by decide) (nextToken?_symbol rfl rfl rfl) h

theorem spells_point (hcs : ∀ c ∈ cs.head?, c.isDigit = false) (h : SpellsAfter (some .dot) cs ts) :
    Spells ('.' :: cs) (.dot :: ts) :=
  fun _ => spellsAfter_token (by decide) (nextToken?_symbol (stops_point hcs).numeral rfl rfl) h

theorem spells_plus (hcs : Numeral.startsAt cs = false) (h : SpellsAfter (some .plus) cs ts) :
    Spells ('+' :: cs) (.plus :: ts) :=
  fun _ => spellsAfter_token (by decide) (nextToken?_symbol rfl (by rw [hcs, Bool.and_false]) rfl) h

theorem spells_inequality {r : Relation} (hr : inequality? c cs = some r)
    (h : SpellsAfter (some (.relation r)) (cs.drop 1) ts) : Spells (c :: cs) (.relation r :: ts) := by
  intro previous
  unfold inequality? at hr
  split at hr
  · cases hr
    exact spellsAfter_token (by decide) rfl h
  · cases hr
    exact spellsAfter_token (by decide) rfl h
  · cases hr

/-! ## The minus and the skip marker -/

theorem spellsAfter_minus (hsigned : (signAllowed previous && Numeral.startsAt cs) = false)
    (hcs : ∀ c ∈ cs.head?, isBlank c = false ∧ c ≠ ',' ∧ c ≠ ')') (h : SpellsAfter (some .minus) cs ts) :
    SpellsAfter previous ('-' :: cs) (.minus :: ts) := by
  refine spellsAfter_token (by decide) (nextToken?_symbol rfl (by simpa using hsigned) ?_) h
  cases cs with
  | nil => rfl
  | cons c cs =>
    obtain ⟨hc, hcomma, hparen⟩ := hcs c rfl
    rw [symbolToken?, List.dropWhile_cons_of_neg (by simp [hc])]
    split
    · next heq => exact absurd (Option.some.inj heq) hcomma
    · next heq => exact absurd (Option.some.inj heq) hparen
    · rfl

theorem spells_dash (hc : c ∈ [',', ')']) (h : SpellsAfter (some .dash) (c :: cs) ts) :
    Spells ('-' :: c :: cs) (.dash :: ts) := by
  intro previous
  have hstops : Numeral.startsAt (c :: cs) = false := by
    rcases List.mem_pair.1 hc with rfl | rfl <;> rfl
  refine spellsAfter_token (by decide) (nextToken?_symbol rfl (by rw [hstops, Bool.and_false]) ?_) h
  rcases List.mem_pair.1 hc with rfl | rfl <;> rfl

/-! ## Words -/

theorem startsWord_of_symbolToken? (h : symbolToken? c cs ≠ none) : startsWord c = false := by
  unfold symbolToken? at h
  split at h
  case h_11 => exact absurd rfl h
  all_goals exact startsWord_of_le (by decide)

theorem startsWord_of_inequality? (h : inequality? c cs ≠ none) : startsWord c = false := by
  unfold inequality? at h
  split at h
  case h_3 => exact absurd rfl h
  all_goals exact startsWord_of_le (by decide)

theorem nextToken?_word (hc : startsWord c = true) :
    nextToken? previous c cs =
      some (.identifier (String.ofList (c :: cs.takeWhile continuesWord)), (cs.takeWhile continuesWord).length) := by
  have hne : ∀ d, startsWord d = false → c ≠ d := by
    rintro d hd rfl
    rw [hc] at hd
    cases hd
  have hpoint : c ≠ '.' := hne '.' (startsWord_of_le (by decide))
  have hnumeral : Numeral.startsAt (c :: cs) = false := Numeral.startsAt_eq_false hpoint (isDigit_of_startsWord hc) cs
  have hsymbol : symbolToken? c cs = none := by
    by_contra hsome
    rw [startsWord_of_symbolToken? hsome] at hc
    cases hc
  have hinequality : inequality? c cs = none := by
    by_contra hsome
    rw [startsWord_of_inequality? hsome] at hc
    cases hc
  have hminus : c ≠ '-' := hne '-' (startsWord_of_le (by decide))
  have hplus : c ≠ '+' := hne '+' (startsWord_of_le (by decide))
  rw [nextToken?, if_neg (by simp [hnumeral]), if_neg (by simp [hminus, hplus]), hsymbol, hinequality]
  simp only [hc, if_true]

theorem spells_word {word : String} (hword : isIdentifier word = true) (hcs : Stops cs)
    (h : SpellsAfter (some (.identifier word)) cs ts) : Spells (word.toList ++ cs) (.identifier word :: ts) := by
  intro previous
  unfold isIdentifier at hword
  split at hword
  · cases hword
  · next c w heq =>
    obtain ⟨hc, hw⟩ := Bool.and_eq_true_iff.1 hword
    have htake : (w ++ cs).takeWhile continuesWord = w := by
      rw [List.takeWhile_append_of_pos (by simpa using hw)]
      cases cs with
      | nil => simp
      | cons d cs => simp [hcs.word d rfl]
    have hnext : nextToken? previous c (w ++ cs) = _ := nextToken?_word hc
    rw [htake, ← heq, String.ofList_toList] at hnext
    rw [heq, List.cons_append]
    exact spellsAfter_token (isBlank_of_startsWord hc) hnext (by rwa [List.drop_left])

/-! ## Numbers -/

theorem spells_numeral {n : Numeral} (hn : n.Plain) (hcs : Stops cs)
    (h : SpellsAfter (some (.number (n.value false))) cs ts) :
    Spells (n.chars ++ cs) (.number (n.value false) :: ts) := by
  intro previous
  have hread := Numeral.ofChars_append (hn.endsBefore hcs.numeral)
  obtain ⟨c, w, hchars, hc⟩ := hn.exists_digit
  rw [hchars, List.cons_append] at hread ⊢
  have hnext : nextToken? previous c (w ++ cs) = some (.number (n.value false), w.length) := by
    rw [nextToken?, if_pos (Numeral.startsAt_of_isDigit hc _), hread]
    dsimp only
    rw [hchars, List.length_cons, Nat.add_sub_cancel]
  exact spellsAfter_token (isBlank_of_isDigit hc) hnext (by rwa [List.drop_left])

theorem spellsAfter_negative {n : Numeral} (hn : n.Plain) (hcs : Stops cs) (hallowed : signAllowed previous = true)
    (h : SpellsAfter (some (.number (n.value true))) cs ts) :
    SpellsAfter previous ('-' :: (n.chars ++ cs)) (.number (n.value true) :: ts) := by
  have hread := Numeral.ofChars_append (hn.endsBefore hcs.numeral)
  have hstarts : Numeral.startsAt (n.chars ++ cs) = true := by
    obtain ⟨c, w, hchars, hc⟩ := hn.exists_digit
    rw [hchars]
    exact Numeral.startsAt_of_isDigit hc _
  have hminus : Numeral.startsAt ('-' :: (n.chars ++ cs)) ≠ true := Bool.false_ne_true
  have hnext : nextToken? previous '-' (n.chars ++ cs) = some (.number (n.value true), n.chars.length) := by
    rw [nextToken?, if_neg hminus, if_pos (by simp [hallowed, hstarts]), hread]
    rfl
  exact spellsAfter_token (by decide) hnext (by rwa [List.drop_left])

theorem spellsAfter_minus_numeral {n : Numeral} (hn : n.Plain) (hcs : Stops cs)
    (hallowed : signAllowed previous = false) (h : SpellsAfter (some (.number (n.value false))) cs ts) :
    SpellsAfter previous ('-' :: (n.chars ++ cs)) (.minus :: .number (n.value false) :: ts) := by
  refine spellsAfter_minus (by rw [hallowed, Bool.false_and]) (fun c hc => ?_) (spells_numeral hn hcs h _)
  obtain ⟨d, w, hchars, hd⟩ := hn.exists_digit
  rw [hchars] at hc
  obtain rfl : d = c := Option.some.inj hc
  refine ⟨isBlank_of_isDigit hd, ?_, ?_⟩
  · rintro rfl
    cases hd
  · rintro rfl
    cases hd

end LayoutEquations
