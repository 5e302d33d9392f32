import LayoutEquations.Proofs.Number.Text
import LayoutEquations.Proofs.Text.Classes
import LayoutEquations.Proofs.Token.Spelling

/-!
# What the lexer sees behind a token

A token is found by looking at its own characters and a little further: whether a word or a numeral goes on, whether a
numeral starts behind a sign, and which character comes first behind the blanks after a `-`. `Follows cs ds` says that
`ds` shows no more of this than `cs`. So a token in front of `cs` is found in front of `ds` as well
(`nextToken?_of_follows`). The last of the three only matters to a `-`, and any other token is found where `ds` goes on
with it no more than `cs` (`KeepsEnd`, `nextToken?_of_keepsEnd`). Of the token before, only the permission of a sign
counts (`lexFrom_congr`). Behind the first character of a token there is neither a blank nor a sign (`Inside`).
-/

namespace LayoutEquations

variable {previous : Option Token} {t : Token} {c : Char} {w cs ds : List Char} {more : Nat}

/-- The text `ds` goes on with a word or a numeral in front of it only as `cs` does: it continues a word only with the
same character, and it starts a numeral only where `cs` does. -/
structure KeepsEnd (cs ds : List Char) : Prop where
  word : ∀ d ∈ ds.head?, continuesWord d = true → d ∈ cs.head?
  numeral : Numeral.startsAt ds = true → Numeral.startsAt cs = true

/-- Behind the blanks of `ds` a `,` or `)` comes where it does in `cs`. -/
def KeepsSkip (cs ds : List Char) : Prop :=
  ∀ d ∈ [',', ')'], d ∈ (ds.dropWhile isBlank).head? ↔ d ∈ (cs.dropWhile isBlank).head?

/-- The text `ds` can stand in the place of `cs` behind a token: it starts with the same character, or with a blank, or
it ends; it starts a numeral only where `cs` does; and behind its blanks a `,` or `)` comes where it does in `cs`. -/
structure Follows (cs ds : List Char) : Prop where
  head : ∀ d ∈ ds.head?, isBlank d = true ∨ d ∈ cs.head?
  numeral : Numeral.startsAt ds = true → Numeral.startsAt cs = true
  skip : KeepsSkip cs ds

theorem Follows.keepsEnd (h : Follows cs ds) : KeepsEnd cs ds where
  word d hd hcontinues := by
    refine (h.head d hd).resolve_left fun hblank => ?_
    rw [continuesWord_of_isBlank hblank] at hcontinues
    cases hcontinues
  numeral := h.numeral

theorem Stops.keepsEnd (h : Stops ds) : KeepsEnd cs ds where
  word d hd hcontinues := by
    rw [h.word d hd] at hcontinues
    cases hcontinues
  numeral hds := by
    rw [h.numeral] at hds
    cases hds

namespace KeepsEnd

theorem stops (h : KeepsEnd cs ds) (hcs : ∀ d ∈ cs.head?, continuesWord d = false) :
    ∀ d ∈ ds.head?, continuesWord d = false := by
  intro d hd
  rw [← Bool.not_eq_true]
  intro hcontinues
  rw [hcs d (h.word d hd hcontinues)] at hcontinues
  cases hcontinues

theorem digit (h : KeepsEnd cs ds) (hcs : ∀ d ∈ cs.head?, d.isDigit = false) : ∀ d ∈ ds.head?, d.isDigit = false := by
  intro d hd
  rw [← Bool.not_eq_true]
  intro hdigit
  rw [hcs d (h.word d hd (continuesWord_of_isDigit hdigit))] at hdigit
  cases hdigit

theorem startsAt_eq_false (h : KeepsEnd cs ds) (hcs : Numeral.startsAt cs = false) : Numeral.startsAt ds = false := by
  rw [← Bool.not_eq_true] at hcs ⊢
  exact fun hds => hcs (h.numeral hds)

theorem endsBefore (h : KeepsEnd cs ds) {n : Numeral} (hn : n.EndsBefore cs) : n.EndsBefore ds :=
  ⟨hn.whole, hn.fraction, h.digit hn.digit, fun hfraction => h.startsAt_eq_false (hn.point hfraction)⟩

end KeepsEnd

/-! ## Numerals -/

namespace Numeral

theorem startsAt_chars {n : Numeral} (hwhole : ∀ c ∈ n.whole, c.isDigit = true)
    (hfraction : ∀ c ∈ n.fraction, c.isDigit = true) (hne : n.chars ≠ []) (cs : List Char) :
    startsAt (n.chars ++ cs) = true := by
  rcases n with ⟨_ | ⟨c, whole⟩, _ | ⟨d, fraction⟩⟩
  · exact absurd rfl hne
  · exact hfraction d (by simp)
  · exact startsAt_of_isDigit (hwhole c (by simp)) _
  · exact startsAt_of_isDigit (hwhole c (by simp)) _

theorem chars_ne_nil (h : startsAt cs = true) : (ofChars cs).chars ≠ [] := by
  obtain ⟨rest, happend, hends⟩ := exists_endsBefore cs
  intro hnil
  have hfraction : (ofChars cs).fraction = [] := by
    by_contra hne
    simp [chars, hne] at hnil
  rw [hnil, List.nil_append] at happend
  rw [happend, hends.point hfraction] at h
  cases h

theorem startsAt_of_chars (hw : startsAt (w ++ cs) = true) (hn : (ofChars (w ++ cs)).chars = w) (ds : List Char) :
    startsAt (w ++ ds) = true := by
  obtain ⟨rest, -, hends⟩ := exists_endsBefore (w ++ cs)
  have := startsAt_chars hends.whole hends.fraction (chars_ne_nil hw) ds
  rwa [hn] at this

theorem chars_eq_of_length (h : (ofChars (w ++ cs)).chars.length = w.length) : (ofChars (w ++ cs)).chars = w := by
  obtain ⟨rest, happend, -⟩ := exists_endsBefore (w ++ cs)
  exact (List.append_inj_left happend h.symm).symm

theorem endsBefore_of_chars (hn : (ofChars (w ++ cs)).chars = w) : (ofChars (w ++ cs)).EndsBefore cs := by
  obtain ⟨rest, happend, hends⟩ := exists_endsBefore (w ++ cs)
  rw [hn] at happend
  obtain rfl := List.append_cancel_left happend
  exact hends

theorem ofChars_of_keepsEnd (hn : (ofChars (w ++ cs)).chars = w) (h : KeepsEnd cs ds) :
    ofChars (w ++ ds) = ofChars (w ++ cs) := by
  have := ofChars_append (h.endsBefore (endsBefore_of_chars hn))
  rwa [hn] at this

end Numeral

/-! ## Tokens -/

theorem symbolToken?_minus (cs : List Char) :
    symbolToken? '-' cs = some (if (cs.dropWhile isBlank).head? = some ',' ∨ (cs.dropWhile isBlank).head? = some ')'
      then .dash else .minus) := by
  rw [symbolToken?]
  split
  · next hfirst => simp [hfirst]
  · next hfirst => simp [hfirst]
  · next hcomma hparen =>
    rw [if_neg]
    rintro (hfirst | hfirst)
    · exact hcomma hfirst
    · exact hparen hfirst

theorem symbolToken?_of_keepsSkip (h : c = '-' → KeepsSkip cs ds) : symbolToken? c ds = symbolToken? c cs := by
  by_cases hc : c = '-'
  · have hskip := h hc
    subst hc
    have hcomma : (ds.dropWhile isBlank).head? = some ',' ↔ (cs.dropWhile isBlank).head? = some ',' :=
      hskip ',' (by simp)
    have hparen : (ds.dropWhile isBlank).head? = some ')' ↔ (cs.dropWhile isBlank).head? = some ')' :=
      hskip ')' (by simp)
    rw [symbolToken?_minus, symbolToken?_minus, if_congr (or_congr hcomma hparen) rfl rfl]
  · unfold symbolToken?
    split <;> simp_all

theorem startsAt_cons_of_keepsEnd (h : KeepsEnd cs ds) (hcs : Numeral.startsAt (c :: cs) = false) :
    Numeral.startsAt (c :: ds) = false := by
  by_cases hpoint : c = '.'
  · subst hpoint
    have hhead : ∀ d ∈ cs.head?, d.isDigit = false := by
      intro d hd
      obtain ⟨rest, rfl⟩ := List.head?_eq_some_iff.1 hd
      exact hcs
    exact (stops_point (h.digit hhead)).numeral
  · have hdigit : c.isDigit = false := Numeral.isDigit_head_of_startsAt hcs c rfl
    exact Numeral.startsAt_eq_false hpoint hdigit ds

theorem nextToken?_numeral (h : Numeral.startsAt (c :: cs) = true) :
    nextToken? previous c cs = some (.number ((Numeral.ofChars (c :: cs)).value false),
      (Numeral.ofChars (c :: cs)).chars.length - 1) := by
  rw [nextToken?, if_pos h]

theorem nextToken?_signed (hc : c = '-' ∨ c = '+') (hallowed : signAllowed previous = true)
    (h : Numeral.startsAt cs = true) :
    nextToken? previous c cs = some (.number ((Numeral.ofChars cs).value (c == '-')),
      (Numeral.ofChars cs).chars.length) := by
  have hsign : Numeral.startsAt (c :: cs) = false := by rcases hc with rfl | rfl <;> rfl
  rw [nextToken?, if_neg (by simp [hsign]), if_pos (by simpa [hallowed, h] using hc)]

theorem eq_false_of_takeWhile_append {p : Char → Bool} (h : (w ++ cs).takeWhile p = w) :
    ∀ d ∈ cs.head?, p d = false := by
  intro d hd
  obtain ⟨rest, rfl⟩ := List.head?_eq_some_iff.1 hd
  have hw : ∀ d ∈ w, p d = true := by
    rw [← h]
    exact List.all_eq_true.1 List.all_takeWhile
  rw [List.takeWhile_append_of_pos hw] at h
  rw [← Bool.not_eq_true]
  intro hcontinues
  simp [hcontinues] at h

theorem takeWhile_of_keepsEnd (hw : (w ++ cs).takeWhile continuesWord = w) (h : KeepsEnd cs ds) :
    (w ++ ds).takeWhile continuesWord = w := by
  have hword : ∀ d ∈ w, continuesWord d = true := by
    rw [← hw]
    exact List.all_eq_true.1 List.all_takeWhile
  rw [List.takeWhile_append_of_pos hword]
  cases ds with
  | nil => simp
  | cons d ds => simp [h.stops (eq_false_of_takeWhile_append hw) d rfl]

theorem takeWhile_of_length (h : ((w ++ cs).takeWhile continuesWord).length = w.length) :
    (w ++ cs).takeWhile continuesWord = w :=
  List.IsPrefix.eq_of_length (List.prefix_of_prefix_length_le (List.takeWhile_prefix _) (List.prefix_append w cs)
    (Nat.le_of_eq h)) h

theorem nextToken?_word_of_keepsEnd (hc : startsWord c = true)
    (hnext : nextToken? previous c (w ++ cs) = some (t, w.length)) (h : KeepsEnd cs ds) :
    nextToken? previous c (w ++ ds) = some (t, w.length) := by
  have hvalue := hnext
  rw [nextToken?_word hc] at hvalue
  obtain ⟨ht, hlength⟩ := Prod.mk.inj (Option.some.inj hvalue)
  have hw := takeWhile_of_length hlength
  rw [nextToken?_word hc, takeWhile_of_keepsEnd hw h, ← hw, ht]

/-- A token is found whatever follows it, as long as that goes on with it no more than what followed before. A minus or
a skip marker also sees what comes behind the blanks. -/
theorem nextToken?_of_keepsEnd (hnext : nextToken? previous c (w ++ cs) = some (t, w.length)) (h : KeepsEnd cs ds)
    (hskip : t = .minus ∨ t = .dash → KeepsSkip cs ds) : nextToken? previous c (w ++ ds) = some (t, w.length) := by
  by_cases hstarts : Numeral.startsAt ((c :: w) ++ cs) = true
  · have hvalue : nextToken? previous c (w ++ cs) = _ := nextToken?_numeral hstarts
    have hne := List.length_pos_iff.2 (Numeral.chars_ne_nil hstarts)
    obtain ⟨ht, hlength⟩ := Prod.mk.inj (Option.some.inj (hvalue.symm.trans hnext))
    have hchars : (Numeral.ofChars ((c :: w) ++ cs)).chars = c :: w :=
      Numeral.chars_eq_of_length (by rw [List.length_cons, ← hlength]; exact (Nat.sub_add_cancel hne).symm)
    have hstarts' : Numeral.startsAt ((c :: w) ++ ds) = true := Numeral.startsAt_of_chars hstarts hchars ds
    have hvalue' : nextToken? previous c (w ++ ds) = _ := nextToken?_numeral hstarts'
    have hsame : Numeral.ofChars (c :: (w ++ ds)) = Numeral.ofChars (c :: (w ++ cs)) :=
      Numeral.ofChars_of_keepsEnd hchars h
    rw [hvalue', hsame, ← hvalue, hnext]
  by_cases hsigned : ((c == '-' || c == '+') && signAllowed previous && Numeral.startsAt (w ++ cs)) = true
  · obtain ⟨⟨hc, hallowed⟩, hnumeral⟩ := by simpa using hsigned
    have hvalue := nextToken?_signed hc hallowed hnumeral
    obtain ⟨ht, hlength⟩ := Prod.mk.inj (Option.some.inj (hvalue.symm.trans hnext))
    have hchars := Numeral.chars_eq_of_length hlength
    have hnumeral' := Numeral.startsAt_of_chars hnumeral hchars ds
    rw [nextToken?_signed hc hallowed hnumeral', Numeral.ofChars_of_keepsEnd hchars h, ← hvalue, hnext]
  by_cases hword : startsWord c = true
  · exact nextToken?_word_of_keepsEnd hword hnext h
  have hplain : ¬ Numeral.startsAt (c :: (w ++ cs)) = true := hstarts
  rw [nextToken?, if_neg hplain, if_neg hsigned] at hnext
  split at hnext
  · next t' hsymbol =>
    obtain ⟨rfl, hlength⟩ := Prod.mk.inj (Option.some.inj hnext)
    obtain rfl := List.length_eq_zero_iff.1 hlength.symm
    simp only [List.nil_append, Bool.not_eq_true] at hstarts hsigned hsymbol
    have hsigned' : ((c == '-' || c == '+') && signAllowed previous && Numeral.startsAt ds) = false := by
      cases hds : Numeral.startsAt ds with
      | false => exact Bool.and_false _
      | true => rwa [h.numeral hds] at hsigned
    have hdash : c = '-' → KeepsSkip cs ds := by
      rintro rfl
      rw [symbolToken?_minus] at hsymbol
      apply hskip
      obtain rfl := Option.some.inj hsymbol
      split
      · exact .inr rfl
      · exact .inl rfl
    have hsymbol' : symbolToken? c ds = some t' := by rw [symbolToken?_of_keepsSkip hdash, hsymbol]
    exact nextToken?_symbol (startsAt_cons_of_keepsEnd h hstarts) hsigned' hsymbol'
  · next hsymbol =>
    split at hnext
    · next r hinequality =>
      obtain ⟨rfl, hlength⟩ := Prod.mk.inj (Option.some.inj hnext)
      obtain ⟨d, rfl⟩ := List.length_eq_one_iff.1 hlength.symm
      unfold inequality? at hinequality
      split at hinequality
      · next heq =>
        cases hinequality
        cases heq
        rfl
      · next heq =>
        cases hinequality
        cases heq
        rfl
      · cases hinequality
    · rw [if_neg hword] at hnext
      cases hnext

/-- A token is found whatever follows it, as long as that shows no more than what followed before. -/
theorem nextToken?_of_follows (hnext : nextToken? previous c (w ++ cs) = some (t, w.length)) (h : Follows cs ds) :
    nextToken? previous c (w ++ ds) = some (t, w.length) :=
  nextToken?_of_keepsEnd hnext h.keepsEnd fun _ => h.skip

/-! ## The token before, and the characters of a token -/

theorem nextToken?_congr {previous' : Option Token} (h : signAllowed previous = signAllowed previous') (c : Char)
    (cs : List Char) : nextToken? previous c cs = nextToken? previous' c cs := by
  rw [nextToken?, nextToken?, h]

theorem lexFrom_congr {previous' : Option Token} (h : signAllowed previous = signAllowed previous') (pos : Nat)
    (cs : List Char) : lexFrom previous pos cs = lexFrom previous' pos cs := by
  induction cs generalizing pos with
  | nil => rw [lexFrom, lexFrom]
  | cons c cs ih => rw [lexFrom, lexFrom, ih, nextToken?_congr h]

/-- Behind its first character a token has points, a `=`, and characters of words and digits. -/
inductive Inside (d : Char) : Prop
  | point (h : d = '.')
  | equal (h : d = '=')
  | word (h : continuesWord d = true)

theorem Inside.isBlank {d : Char} (h : Inside d) : isBlank d = false := by
  cases h with
  | point h => exact h ▸ by decide
  | equal h => exact h ▸ by decide
  | word h => exact isBlank_of_continuesWord h

theorem Inside.ne_of_lt {d : Char} (h : Inside d) (hlow : c.toNat < 0x2E) : d ≠ c := by
  rintro rfl
  cases h with
  | point h => exact absurd hlow (h ▸ by decide)
  | equal h => exact absurd hlow (h ▸ by decide)
  | word h =>
    rw [continuesWord_of_lt (Nat.lt_trans hlow (by decide))] at h
    cases h

theorem inside_numeral (cs : List Char) :
    ∃ w rest, cs = w ++ rest ∧ w = (Numeral.ofChars cs).chars ∧ ∀ d ∈ w, Inside d := by
  obtain ⟨rest, happend, hends⟩ := Numeral.exists_endsBefore cs
  refine ⟨_, rest, happend, rfl, fun d hd => ?_⟩
  rcases Numeral.mem_chars hends.whole hends.fraction hd with hpoint | hdigit
  · exact .point hpoint
  · exact .word (continuesWord_of_isDigit hdigit)

/-- A token takes as many characters as it says, and behind its first one only the kinds that stand inside a token. -/
theorem inside_of_nextToken? (h : nextToken? previous c cs = some (t, more)) :
    ∃ w rest, cs = w ++ rest ∧ w.length = more ∧ ∀ d ∈ w, Inside d := by
  unfold nextToken? at h
  split at h
  · next hnumeral =>
    obtain ⟨w, rest, happend, hw, hinside⟩ := inside_numeral (c :: cs)
    obtain ⟨-, rfl⟩ := Prod.mk.inj (Option.some.inj h)
    cases w with
    | nil => exact absurd hw.symm (Numeral.chars_ne_nil hnumeral)
    | cons d w =>
      obtain ⟨rfl, rfl⟩ := List.cons.inj happend
      refine ⟨w, rest, rfl, ?_, fun d hd => hinside d (List.mem_cons_of_mem _ hd)⟩
      rw [← hw, List.length_cons, Nat.add_sub_cancel]
  split at h
  · obtain ⟨w, rest, happend, hw, hinside⟩ := inside_numeral cs
    obtain ⟨-, rfl⟩ := Prod.mk.inj (Option.some.inj h)
    exact ⟨w, rest, happend, by rw [hw], hinside⟩
  split at h
  · obtain ⟨-, rfl⟩ := Prod.mk.inj (Option.some.inj h)
    exact ⟨[], cs, rfl, rfl, fun d hd => by cases hd⟩
  split at h
  · next hinequality =>
    obtain ⟨-, rfl⟩ := Prod.mk.inj (Option.some.inj h)
    unfold inequality? at hinequality
    split at hinequality
    · exact ⟨['='], _, rfl, rfl, fun d hd => .equal (List.mem_singleton.1 hd)⟩
    · exact ⟨['='], _, rfl, rfl, fun d hd => .equal (List.mem_singleton.1 hd)⟩
    · cases hinequality
  split at h
  · obtain ⟨-, rfl⟩ := Prod.mk.inj (Option.some.inj h)
    refine ⟨cs.takeWhile continuesWord, cs.dropWhile continuesWord, List.takeWhile_append_dropWhile.symm, rfl, ?_⟩
    exact fun d hd => .word (List.all_eq_true.1 List.all_takeWhile d hd)
  · cases h

end LayoutEquations
