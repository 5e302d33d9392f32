import LayoutEquations.Proofs.Number.Reading
import LayoutEquations.Proofs.Token.Signs

/-!
# The lexer tiles its text

`Spelling` says which characters stand for a token, in terms of what stands in front of them and behind them, and
`Tiles` cuts a text into blanks and spelled lexemes. The lexemes of an accepted text are cut from it in this way
(`tiles_of_lexFrom`); that their offsets increase, that the last one is the only end mark and that each character other
than a blank belongs to one of them are facts about `Tiles` alone.

A text is refused at a character that is no blank and starts no token. No token in front of that character can see it
(`follows_refused`), so the text that ends there is accepted (`lexFrom_refused`). The refusal is never about the number
that a numeral stands for: the reader of numbers takes every numeral (`Numeral.EndsBefore.ofText?`).
-/

namespace LayoutEquations

variable {previous : Option Token} {t : Token} {c : Char} {w cs xs rest : List Char} {pos : Nat} {ls : List Lexeme}

/-! ## Numerals and the numbers that they stand for -/

def Digits (ds : List Char) : Prop := ds ≠ [] ∧ ∀ d ∈ ds, d.isDigit = true

/-- `digits ('.' digits)?` or `'.' digits` -/
inductive Decimals : List Char → Prop
  | whole {ds : List Char} (h : Digits ds) : Decimals ds
  | point {ds es : List Char} (h : ∀ d ∈ ds, d.isDigit = true) (h' : Digits es) : Decimals (ds ++ '.' :: es)

theorem Numeral.EndsBefore.decimals {n : Numeral} (h : n.EndsBefore rest) (hne : n.chars ≠ []) : Decimals n.chars := by
  obtain ⟨whole, fraction⟩ := n
  cases fraction with
  | nil => exact .whole ⟨hne, h.whole⟩
  | cons d fraction => exact .point h.whole ⟨List.cons_ne_nil _ _, h.fraction⟩

/-! ## What spells a token -/

/-- The first character of a text that is no blank is `,` or `)`. -/
def SkipFollows (cs : List Char) : Prop :=
  (cs.dropWhile isBlank).head? = some ',' ∨ (cs.dropWhile isBlank).head? = some ')'

inductive Token.BeforeSign : Token → Prop
  | relation (r : Relation) : BeforeSign (.relation r)
  | openParen : BeforeSign .openParen
  | comma : BeforeSign .comma
  | atSign : BeforeSign .atSign
  | plus : BeforeSign .plus
  | minus : BeforeSign .minus
  | star : BeforeSign .star

/-- Behind the token `previous` and in front of the text `rest`, the token is spelled by these characters. Words are as
long as they can be, and no digit follows a number; a number has the value that the reader of numbers gives its text. -/
inductive Spelling (previous : Option Token) (rest : List Char) : Token → List Char → Prop
  | symbol {c : Char} {t : Token} (h : Symbol c t) : Spelling previous rest t [c]
  | dot : Spelling previous rest .dot ['.']
  | plus : Spelling previous rest .plus ['+']
  | relation (r : Relation) : Spelling previous rest (.relation r) r.symbol.toList
  | minus (h : ¬ SkipFollows rest) : Spelling previous rest .minus ['-']
  | dash (h : SkipFollows rest) : Spelling previous rest .dash ['-']
  | word {word : String} (h : isIdentifier word = true) (hend : ∀ c ∈ rest.head?, continuesWord c = false) :
      Spelling previous rest (.identifier word) word.toList
  | number {w : List Char} {x : Number} (h : Decimals w) (hend : ∀ c ∈ rest.head?, c.isDigit = false)
      (hx : Number.ofText? (String.ofList w) = some x) : Spelling previous rest (.number x) w
  | signed {sign : Char} {w : List Char} {x : Number} (hsign : sign = '+' ∨ sign = '-') (h : Decimals w)
      (hend : ∀ c ∈ rest.head?, c.isDigit = false) (hprevious : ∀ t ∈ previous, t.BeforeSign)
      (hx : Number.ofText? (String.ofList (sign :: w)) = some x) : Spelling previous rest (.number x) (sign :: w)

theorem beforeSign_of_signAllowed (h : signAllowed previous = true) : ∀ t ∈ previous, t.BeforeSign := by
  rintro t rfl
  cases t <;> first | constructor | cases h

theorem spelling_numeral (h : Numeral.startsAt (c :: (w ++ rest)) = true)
    (hnext : nextToken? previous c (w ++ rest) = some (t, w.length)) : Spelling previous rest t (c :: w) := by
  rw [nextToken?_numeral h] at hnext
  obtain ⟨rfl, hlength⟩ := Prod.mk.inj (Option.some.inj hnext)
  have hne : (Numeral.ofChars (c :: w ++ rest)).chars ≠ [] := Numeral.chars_ne_nil h
  have hpos := List.length_pos_iff.2 hne
  have hchars : (Numeral.ofChars (c :: w ++ rest)).chars = c :: w :=
    Numeral.chars_eq_of_length (by rw [List.length_cons, ← hlength]; exact (Nat.sub_add_cancel hpos).symm)
  have hends := Numeral.endsBefore_of_chars hchars
  have hdecimals := hends.decimals hne
  have hread := hends.ofText? hne .none
  rw [List.nil_append] at hread
  rw [hchars] at hdecimals hread
  exact .number hdecimals hends.digit hread

theorem spelling_signed (hsign : c = '-' ∨ c = '+') (hallowed : signAllowed previous = true)
    (h : Numeral.startsAt (w ++ rest) = true) (hnext : nextToken? previous c (w ++ rest) = some (t, w.length)) :
    Spelling previous rest t (c :: w) := by
  rw [nextToken?_signed hsign hallowed h] at hnext
  obtain ⟨rfl, hlength⟩ := Prod.mk.inj (Option.some.inj hnext)
  have hne := Numeral.chars_ne_nil h
  have hchars := Numeral.chars_eq_of_length hlength
  have hends := Numeral.endsBefore_of_chars hchars
  have hsigns : SignChars (c == '-') [c] := by
    rcases hsign with rfl | rfl
    · exact .minus
    · exact .plus
  have hdecimals := hends.decimals hne
  have hread := hends.ofText? hne hsigns
  rw [hchars] at hdecimals hread
  exact .signed hsign.symm hdecimals hends.digit (beforeSign_of_signAllowed hallowed) hread

theorem spelling_word (hc : startsWord c = true) (hnext : nextToken? previous c (w ++ rest) = some (t, w.length)) :
    Spelling previous rest t (c :: w) := by
  rw [nextToken?_word hc] at hnext
  obtain ⟨rfl, hlength⟩ := Prod.mk.inj (Option.some.inj hnext)
  have hw := takeWhile_of_length hlength
  rw [hw]
  have hword : isIdentifier (String.ofList (c :: w)) = true := by
    rw [isIdentifier, String.toList_ofList, ← hw]
    exact Bool.and_eq_true_iff.2 ⟨hc, List.all_takeWhile⟩
  have hspelled : Spelling previous rest _ _ := .word hword (eq_false_of_takeWhile_append hw)
  rwa [String.toList_ofList] at hspelled

theorem spelling_symbol (h : symbolToken? c rest = some t) : Spelling previous rest t [c] := by
  by_cases hc : c = '-'
  · subst hc
    rw [symbolToken?_minus] at h
    obtain rfl := Option.some.inj h
    split
    · next hskip => exact .dash hskip
    · next hskip => exact .minus hskip
  · unfold symbolToken? at h
    split at h
    case h_10 => exact absurd rfl hc
    all_goals cases h
    · exact .symbol .dollar
    · exact .dot
    · exact .symbol .openParen
    · exact .symbol .closeParen
    · exact .symbol .comma
    · exact .symbol .atSign
    · exact .plus
    · exact .symbol .star
    · exact .symbol .equal

theorem spelling_inequality {r : Relation} (h : inequality? c (w ++ rest) = some r) (hlength : 1 = w.length) :
    Spelling previous rest (.relation r) (c :: w) := by
  obtain ⟨d, rfl⟩ := List.length_eq_one_iff.1 hlength.symm
  unfold inequality? at h
  split at h
  · next heq =>
    cases h
    cases heq
    exact .relation .lessOrEqual
  · next heq =>
    cases h
    cases heq
    exact .relation .greaterOrEqual
  · cases h

theorem spelling_of_nextToken? (hnext : nextToken? previous c (w ++ rest) = some (t, w.length)) :
    Spelling previous rest t (c :: w) := by
  by_cases hnumeral : Numeral.startsAt (c :: (w ++ rest)) = true
  · exact spelling_numeral hnumeral hnext
  by_cases hsigned : ((c == '-' || c == '+') && signAllowed previous && Numeral.startsAt (w ++ rest)) = true
  · obtain ⟨⟨hsign, hallowed⟩, hstarts⟩ := by simpa using hsigned
    exact spelling_signed hsign hallowed hstarts hnext
  by_cases hword : startsWord c = true
  · exact spelling_word hword hnext
  have hvalue := hnext
  rw [nextToken?, if_neg hnumeral, if_neg hsigned] at hvalue
  split at hvalue
  · next hsymbol =>
    obtain ⟨rfl, hlength⟩ := Prod.mk.inj (Option.some.inj hvalue)
    obtain rfl := List.length_eq_zero_iff.1 hlength.symm
    exact spelling_symbol hsymbol
  · split at hvalue
    · next hinequality =>
      obtain ⟨rfl, hlength⟩ := Prod.mk.inj (Option.some.inj hvalue)
      exact spelling_inequality hinequality hlength
    · rw [if_neg hword] at hvalue
      cases hvalue

namespace Decimals

theorem ne_nil (h : Decimals w) : w ≠ [] := by
  cases h with
  | whole h => exact h.1
  | point h h' => exact List.append_ne_nil_of_right_ne_nil _ (List.cons_ne_nil _ _)

theorem isBlank (h : Decimals w) : ∀ d ∈ w, isBlank d = false := by
  cases h with
  | whole h => exact fun d hd => isBlank_of_isDigit (h.2 d hd)
  | point h h' =>
    rw [List.forall_mem_append, List.forall_mem_cons]
    exact ⟨fun d hd => isBlank_of_isDigit (h d hd), by decide, fun d hd => isBlank_of_isDigit (h'.2 d hd)⟩

end Decimals

namespace Spelling

theorem ne_nil (h : Spelling previous rest t w) : w ≠ [] := by
  cases h with
  | relation r => cases r <;> decide
  | word h hend =>
    intro hnil
    rw [isIdentifier, hnil] at h
    cases h
  | number h hend hx => exact h.ne_nil
  | _ => exact List.cons_ne_nil _ _

theorem isBlank (h : Spelling previous rest t w) : ∀ d ∈ w, isBlank d = false := by
  cases h with
  | symbol h => exact List.forall_mem_singleton.2 (by cases h <;> decide)
  | dot => exact List.forall_mem_singleton.2 (by decide)
  | plus => exact List.forall_mem_singleton.2 (by decide)
  | relation r =>
    have hall : r.symbol.toList.all (fun d => !isBlank d) = true := by cases r <;> decide
    simpa using hall
  | minus h => exact List.forall_mem_singleton.2 (by decide)
  | dash h => exact List.forall_mem_singleton.2 (by decide)
  | @word word h hend =>
    intro d hd
    rw [isIdentifier] at h
    split at h
    · cases h
    · next a as hword =>
      rw [Bool.and_eq_true] at h
      rw [hword] at hd
      rcases List.mem_cons.1 hd with rfl | hd
      · exact isBlank_of_startsWord h.1
      · exact isBlank_of_continuesWord (List.all_eq_true.1 h.2 d hd)
  | number h hend hx => exact h.isBlank
  | signed hsign h hend hprevious hx =>
    refine List.forall_mem_cons.2 ⟨?_, h.isBlank⟩
    rcases hsign with rfl | rfl <;> decide

theorem ne_eof (h : Spelling previous rest t w) : t ≠ .eof := by
  rintro rfl
  cases h with
  | symbol h => cases h

end Spelling

/-! ## Texts cut into lexemes -/

/-- The text that starts at offset `pos` behind the token `previous` is cut into these lexemes, each with its
characters: blanks, then the characters of a lexeme at the offset where they start, and so on up to the end mark. -/
inductive Tiles : Option Token → Nat → List Char → List (Lexeme × List Char) → Prop
  | done {previous : Option Token} {pos : Nat} {gap : List Char} (hgap : ∀ c ∈ gap, isBlank c = true) :
      Tiles previous pos gap [(⟨pos + gap.length, .eof⟩, [])]
  | lexeme {previous : Option Token} {pos : Nat} {gap w rest : List Char} {t : Token}
      {tiles : List (Lexeme × List Char)} (hgap : ∀ c ∈ gap, isBlank c = true) (ht : Spelling previous rest t w)
      (h : Tiles (some t) (pos + gap.length + w.length) rest tiles) :
      Tiles previous pos (gap ++ (w ++ rest)) ((⟨pos + gap.length, t⟩, w) :: tiles)

namespace Tiles

variable {tiles : List (Lexeme × List Char)}

theorem blank (hc : isBlank c = true) (h : Tiles previous (pos + 1) cs tiles) : Tiles previous pos (c :: cs) tiles := by
  have hgap' : ∀ {gap : List Char}, (∀ d ∈ gap, isBlank d = true) → ∀ d ∈ c :: gap, isBlank d = true :=
    fun hgap => List.forall_mem_cons.2 ⟨hc, hgap⟩
  have hplace : ∀ gap : List Char, pos + 1 + gap.length = pos + (c :: gap).length := by
    intro gap
    rw [List.length_cons]
    omega
  cases h with
  | done hgap =>
    rw [hplace]
    exact .done (hgap' hgap)
  | lexeme hgap ht h =>
    rw [hplace] at h ⊢
    exact .lexeme (hgap' hgap) ht h

theorem le_pos (h : Tiles previous pos cs tiles) : ∀ tile ∈ tiles, pos ≤ tile.1.pos := by
  induction h with
  | done hgap => simp
  | lexeme hgap ht h ih =>
    refine List.forall_mem_cons.2 ⟨Nat.le_add_right _ _, fun tile htile => ?_⟩
    have := ih tile htile
    omega

theorem pairwise_pos (h : Tiles previous pos cs tiles) : (tiles.map Prod.fst).Pairwise (·.pos < ·.pos) := by
  induction h with
  | done hgap => exact List.pairwise_singleton _ _
  | lexeme hgap ht h ih =>
    refine List.pairwise_cons.2 ⟨fun l hl => ?_, ih⟩
    obtain ⟨tile, htile, rfl⟩ := List.mem_map.1 hl
    have hpos := h.le_pos tile htile
    have hlength := List.length_pos_iff.2 ht.ne_nil
    dsimp only
    omega

theorem exists_eof (h : Tiles previous pos cs tiles) :
    ∃ init, tiles.map Prod.fst = init ++ [⟨pos + cs.length, .eof⟩] ∧ ∀ l ∈ init, l.token ≠ .eof := by
  induction h with
  | done hgap => exact ⟨[], rfl, List.forall_mem_nil _⟩
  | @lexeme previous pos gap w rest t tiles hgap ht h ih =>
    obtain ⟨init, htiles, hinit⟩ := ih
    refine ⟨⟨pos + gap.length, t⟩ :: init, ?_, List.forall_mem_cons.2 ⟨ht.ne_eof, hinit⟩⟩
    have hlength : pos + gap.length + w.length + rest.length = pos + (gap ++ (w ++ rest)).length := by
      rw [List.length_append, List.length_append]
      omega
    rw [List.map_cons, htiles, hlength]
    rfl

theorem spelled (h : Tiles previous pos cs tiles) {l : Lexeme} (hmem : (l, w) ∈ tiles) (hl : l.token ≠ .eof) :
    ∃ front rest p, cs = front ++ (w ++ rest) ∧ l.pos = pos + front.length ∧ Spelling p rest l.token w := by
  induction h with
  | done hgap =>
    cases List.mem_singleton.1 hmem
    exact absurd rfl hl
  | @lexeme previous pos gap w' rest t tiles hgap ht h ih =>
    rcases List.mem_cons.1 hmem with heq | hmem
    · cases heq
      exact ⟨gap, rest, previous, rfl, rfl, ht⟩
    · obtain ⟨front, rest', p, rfl, hpos, hspelled⟩ := ih hmem
      refine ⟨gap ++ (w' ++ front), rest', p, ?_, ?_, hspelled⟩
      · rw [List.append_assoc, List.append_assoc]
      · rw [hpos, List.length_append, List.length_append]
        omega

/-- The character at this offset is one of the lexeme's. -/
def Covers (tile : Lexeme × List Char) (i : Nat) : Prop := tile.1.pos ≤ i ∧ i < tile.1.pos + tile.2.length

theorem existsUnique_covers (h : Tiles previous pos cs tiles) {i : Nat} (hi : cs[i]? = some c)
    (hc : isBlank c = false) : ∃! tile, tile ∈ tiles ∧ Covers tile (pos + i) := by
  have hblank : ∀ {gap : List Char} {j : Nat}, (∀ d ∈ gap, isBlank d = true) → gap[j]? ≠ some c := by
    intro gap j hgap hj
    rw [hgap c (List.mem_of_getElem? hj)] at hc
    cases hc
  induction h generalizing i with
  | done hgap => exact absurd hi (hblank hgap)
  | @lexeme previous pos gap w rest t tiles hgap ht h ih =>
    -- the character is in the gap, in the first lexeme or behind it
    rcases Nat.lt_or_ge i gap.length with hlt | hge
    · rw [List.getElem?_append_left hlt] at hi
      exact absurd hi (hblank hgap)
    rcases Nat.lt_or_ge i (gap.length + w.length) with hlt | hge'
    · refine ⟨(⟨pos + gap.length, t⟩, w), ⟨List.mem_cons_self, Nat.add_le_add_left hge pos, ?_⟩, ?_⟩
      · show pos + i < pos + gap.length + w.length
        omega
      · rintro tile ⟨htile, hlow, -⟩
        rcases List.mem_cons.1 htile with rfl | htile
        · rfl
        · have := h.le_pos tile htile
          omega
    · rw [List.getElem?_append_right hge, List.getElem?_append_right (by omega)] at hi
      obtain ⟨tile, ⟨htile, hcovers⟩, hunique⟩ := ih hi
      have hplace : pos + gap.length + w.length + (i - gap.length - w.length) = pos + i := by omega
      rw [hplace] at hcovers hunique
      refine ⟨tile, ⟨List.mem_cons_of_mem _ htile, hcovers⟩, ?_⟩
      rintro tile' ⟨htile', hcovers'⟩
      rcases List.mem_cons.1 htile' with rfl | htile'
      · have : pos + i < pos + gap.length + w.length := hcovers'.2
        omega
      · exact hunique tile' ⟨htile', hcovers'⟩

end Tiles

theorem tiles_of_lexFrom (h : lexFrom previous pos cs = .ok ls) :
    ∃ tiles, Tiles previous pos cs tiles ∧ tiles.map Prod.fst = ls := by
  fun_induction lexFrom previous pos cs generalizing ls with
  | case1 previous pos =>
    cases h
    exact ⟨_, .done (List.forall_mem_nil _), rfl⟩
  | case2 previous pos c rest hc ih =>
    obtain ⟨tiles, htiles, hls⟩ := ih h
    exact ⟨tiles, htiles.blank hc, hls⟩
  | case3 previous pos c rest hc hnext => cases h
  | case4 previous pos c rest hc token more hnext ih =>
    obtain ⟨ls', hls', hls⟩ := bind_eq_ok.1 h
    cases hls
    obtain ⟨w, rest, rfl, rfl, -⟩ := inside_of_nextToken? hnext
    rw [List.drop_left] at ih hls'
    obtain ⟨tiles, htiles, rfl⟩ := ih hls'
    have hplace : pos + 1 + w.length = pos + ([] : List Char).length + (c :: w).length := by
      rw [List.length_cons, List.length_nil]
      omega
    rw [hplace] at htiles
    exact ⟨_, .lexeme (List.forall_mem_nil _) (spelling_of_nextToken? hnext) htiles, rfl⟩

/-! ## Texts that are refused -/

theorem no_start_of_nextToken? (h : nextToken? previous c cs = none) :
    Numeral.startsAt (c :: cs) = false ∧ symbolToken? c cs = none := by
  unfold nextToken? at h
  split at h
  · cases h
  · next hnumeral =>
    split at h
    · cases h
    · split at h
      · cases h
      · next hsymbol => exact ⟨by simpa using hnumeral, Option.eq_none_iff_forall_ne_some.2 fun t ht => hsymbol t ht⟩

/-- In front of a character that is no blank and no symbol, the lexer sees no more than at the end of the text. -/
theorem follows_refused (hc : isBlank c = false) (hsymbol : symbolToken? c cs = none) (xs : List Char) :
    Follows (xs ++ c :: cs) xs where
  head d hd := by
    obtain ⟨xs, rfl⟩ := List.head?_eq_some_iff.1 hd
    exact .inr rfl
  numeral hxs := by
    rcases xs with _ | ⟨a, _ | ⟨b, xs⟩⟩
    · cases hxs
    · have ha : a.isDigit = true := by simpa [Numeral.startsAt] using hxs
      exact Numeral.startsAt_of_isDigit ha _
    · rw [startsAt_cons_cons] at hxs
      rwa [List.cons_append, List.cons_append, startsAt_cons_cons]
  skip d hd := by
    induction xs with
    | nil =>
      have hdc : d ≠ c := by
        rintro rfl
        simp only [List.mem_cons, List.not_mem_nil, or_false] at hd
        rcases hd with rfl | rfl <;> cases hsymbol
      rw [List.nil_append, List.dropWhile_cons_of_neg (by simp [hc])]
      simpa using hdc.symm
    | cons a xs ih =>
      rw [List.cons_append]
      by_cases ha : isBlank a = true
      · rwa [List.dropWhile_cons_of_pos ha, List.dropWhile_cons_of_pos ha]
      · rw [List.dropWhile_cons_of_neg ha, List.dropWhile_cons_of_neg ha]
        rfl

/-- The characters in front of the one that is refused are cut into lexemes. -/
theorem lexFrom_refused {p : Nat} (h : lexFrom previous pos cs = .error (.unexpectedChar p c)) :
    ∃ xs rest ls, cs = xs ++ c :: rest ∧ p = pos + xs.length ∧ isBlank c = false ∧
      Numeral.startsAt (c :: rest) = false ∧ symbolToken? c rest = none ∧ lexFrom previous pos xs = .ok ls := by
  fun_induction lexFrom previous pos cs with
  | case1 previous pos => cases h
  | case2 previous pos d rest hd ih =>
    obtain ⟨xs, rest, ls, rfl, rfl, hc, hnumeral, hsymbol, hls⟩ := ih h
    refine ⟨d :: xs, rest, ls, rfl, ?_, hc, hnumeral, hsymbol, ?_⟩
    · rw [List.length_cons]
      omega
    · rw [lexFrom, if_pos hd]
      exact hls
  | case3 previous pos d rest hd hnext =>
    cases h
    obtain ⟨hnumeral, hsymbol⟩ := no_start_of_nextToken? hnext
    exact ⟨[], rest, _, rfl, rfl, by simpa using hd, hnumeral, hsymbol, by rw [lexFrom]⟩
  | case4 previous pos d rest hd token more hnext ih =>
    have herror := error_of_bind h fun _ => ⟨_, rfl⟩
    obtain ⟨w, rest, rfl, rfl, -⟩ := inside_of_nextToken? hnext
    rw [List.drop_left] at herror ih
    obtain ⟨xs, rest, ls, rfl, rfl, hc, hnumeral, hsymbol, hls⟩ := ih herror
    -- the token is the same where the text ends in front of the refused character
    have hread := nextToken?_of_follows hnext (follows_refused hc hsymbol xs)
    refine ⟨d :: (w ++ xs), rest, ⟨pos, token⟩ :: ls, by rw [List.cons_append, List.append_assoc], ?_, hc, hnumeral,
      hsymbol, ?_⟩
    · rw [List.length_cons, List.length_append]
      omega
    · rw [lexFrom_token (by simpa using hd) hread, List.drop_left, hls]
      rfl

/-! ## Whole texts -/

/-- The lexemes of a text as its tiles. -/
structure Tiled (src : String) (ls : List Lexeme) : Prop where
  increasing : ls.Pairwise (·.pos < ·.pos)
  ends : ∃ init, ls = init ++ [⟨src.length, .eof⟩] ∧ ∀ l ∈ init, l.token ≠ .eof
  tiles : ∃ tiles, Tiles none 0 src.toList tiles ∧ tiles.map Prod.fst = ls ∧
    ∀ i c, src.toList[i]? = some c → isBlank c = false → ∃! tile, tile ∈ tiles ∧ Tiles.Covers tile i

/-- The character at offset `p` is the first one that the lexer cannot take. It is no blank, and no number starts
there, with a sign or without. -/
structure Refused (src : String) (p : Nat) (c : Char) : Prop where
  char : src.toList[p]? = some c
  blank : isBlank c = false
  front : ∃ ls, lex (String.ofList (src.toList.take p)) = .ok ls
  numeral : Numeral.startsAt (src.toList.drop p) = false
  sign : c ≠ '+' ∧ c ≠ '-'

theorem Tiles.tiled {src : String} {tiles : List (Lexeme × List Char)} (h : Tiles none 0 src.toList tiles) :
    Tiled src (tiles.map Prod.fst) where
  increasing := h.pairwise_pos
  ends := by
    obtain ⟨init, htiles, hinit⟩ := h.exists_eof
    rw [Nat.zero_add, String.length_toList] at htiles
    exact ⟨init, htiles, hinit⟩
  tiles := by
    refine ⟨tiles, h, rfl, fun i c hi hc => ?_⟩
    have := h.existsUnique_covers hi hc
    rwa [Nat.zero_add] at this

theorem Tiled.pos_le {src : String} (h : Tiled src ls) : ∀ l ∈ ls, l.pos ≤ src.length := by
  obtain ⟨init, rfl, -⟩ := h.ends
  obtain ⟨-, -, hlast⟩ := List.pairwise_append.1 h.increasing
  intro l hl
  rcases List.mem_append.1 hl with hl | hl
  · exact Nat.le_of_lt (hlast l hl _ (List.mem_singleton_self _))
  · rw [List.mem_singleton.1 hl]

theorem refused_of_lex {src : String} {p : Nat} (h : lex src = .error (.unexpectedChar p c)) : Refused src p c := by
  obtain ⟨xs, rest, ls, hsrc, rfl, hc, hnumeral, hsymbol, hls⟩ := lexFrom_refused h
  rw [Nat.zero_add]
  refine ⟨?_, hc, ⟨ls, ?_⟩, ?_, ?_, ?_⟩
  · rw [hsrc, List.getElem?_append_right (Nat.le_refl _), Nat.sub_self]
    rfl
  · rw [hsrc, List.take_left, lex, String.toList_ofList]
    exact hls
  · rwa [hsrc, List.drop_left]
  · rintro rfl
    cases hsymbol
  · rintro rfl
    rw [symbolToken?_minus] at hsymbol
    cases hsymbol

/-- A text that the lexer accepts is cut into its lexemes. One that it refuses is accepted up to the character that the
error names; and where a numeral starts, what the lexer scans there, with a sign or without, is read as a number. -/
theorem lex_tiles (src : String) :
    (∀ ls, lex src = .ok ls → Tiled src ls) ∧
    (∀ p c, lex src = .error (.unexpectedChar p c) → Refused src p c) ∧
    ∀ cs, Numeral.startsAt cs = true → ∀ negative signs, SignChars negative signs →
      Number.ofText? (String.ofList (signs ++ (Numeral.ofChars cs).chars)) =
        some ((Numeral.ofChars cs).value negative) := by
  refine ⟨fun ls h => ?_, fun p c h => refused_of_lex h, fun cs hcs negative signs hsigns => ?_⟩
  · obtain ⟨tiles, htiles, rfl⟩ := tiles_of_lexFrom h
    exact htiles.tiled
  · obtain ⟨rest, -, hends⟩ := Numeral.exists_endsBefore cs
    exact hends.ofText? (Numeral.chars_ne_nil hcs) hsigns

/-- The lexemes of `$a.top = -.5 (-)`: the first `-` is part of the number, the second one the skip marker. -/
def tiledLexemes : List Lexeme :=
  [⟨0, .dollar⟩, ⟨1, .identifier "a"⟩, ⟨2, .dot⟩, ⟨3, .identifier "top"⟩, ⟨7, .relation .equal⟩,
    ⟨9, .number (.ofDecimal true ⟨5, -1⟩)⟩, ⟨13, .openParen⟩, ⟨14, .dash⟩, ⟨15, .closeParen⟩, ⟨16, .eof⟩]

theorem lex_tiles_sample :
    (lex "$a.top = -.5 (-)" = .ok tiledLexemes ∧ Tiled "$a.top = -.5 (-)" tiledLexemes) ∧
    (lex "$a.top = -.5 (-;)" = .error (.unexpectedChar 15 ';') ∧ Refused "$a.top = -.5 (-;)" 15 ';') ∧
    Numeral.startsAt ".5 (".toList = true ∧ SignChars true ['-'] ∧
      Number.ofText? "-.5" = some ((Numeral.ofChars ".5 (".toList).value true) := by
  have hlex : lex "$a.top = -.5 (-)" = .ok tiledLexemes := by decide +kernel
  have hrefused : lex "$a.top = -.5 (-;)" = .error (.unexpectedChar 15 ';') := by decide +kernel
  have hstarts : Numeral.startsAt ".5 (".toList = true := by decide +kernel
  have hread := (lex_tiles "").2.2 ".5 (".toList hstarts true ['-'] .minus
  have htext : String.ofList (['-'] ++ (Numeral.ofChars ".5 (".toList).chars) = "-.5" := by decide +kernel
  rw [htext] at hread
  exact ⟨⟨hlex, (lex_tiles _).1 _ hlex⟩, ⟨hrefused, (lex_tiles _).2.1 _ _ hrefused⟩, hstarts, .minus, hread⟩

end LayoutEquations
