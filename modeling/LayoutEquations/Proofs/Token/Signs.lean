import LayoutEquations.Proofs.Grammar.Signs
import LayoutEquations.Proofs.Token.Spacing

/-!
# Blanks behind a sign

A sign is never inside a token, so the lexemes in front of it do not depend on what follows it (`lexFrom_front`).
Written against a numeral a sign may be part of the number, and with blanks between the two it is a token of its own.
`lex_detach` gives the lexemes of both texts: they are the same, up to the places of what is behind the blanks and up
to this one number.
-/

namespace LayoutEquations

open Grammar

variable {previous : Option Token} {before : List Token} {s t : Token} {c : Char} {cs xs ys blanks : List Char}
  {pos q more : Nat} {ls : List Lexeme}

/-- A sign and the token that it is by itself. -/
inductive Sign : Char → Token → Prop
  | plus : Sign '+' .plus
  | minus : Sign '-' .minus

namespace Sign

theorem toNat_lt (h : Sign c s) : c.toNat < 0x2E := by
  cases h <;> decide

theorem isBlank (h : Sign c s) : isBlank c = false := by
  cases h <;> decide

theorem startsAt (h : Sign c s) (cs : List Char) : Numeral.startsAt (c :: cs) = false := by
  cases h <;> rfl

theorem isSign (h : Sign c s) : s.IsSign := by
  cases h
  · exact .inl rfl
  · exact .inr rfl

theorem eq_or_eq (h : Sign c s) : c = '-' ∨ c = '+' := by
  cases h
  · exact .inr rfl
  · exact .inl rfl

end Sign

/-! ## In front of a sign -/

theorem startsAt_cons_cons (a b : Char) (cs : List Char) :
    Numeral.startsAt (a :: b :: cs) = Numeral.startsAt [a, b] := by
  by_cases ha : a = '.'
  · subst ha
    rfl
  · simp [Numeral.startsAt, ha]

theorem follows_sign (h : Sign c s) (xs cs ds : List Char) : Follows (xs ++ c :: cs) (xs ++ c :: ds) where
  head d hd := by
    cases xs <;> exact .inr hd
  numeral hds := by
    cases xs with
    | nil =>
      rw [List.nil_append, h.startsAt] at hds
      cases hds
    | cons a xs =>
      cases xs with
      | nil => rwa [List.singleton_append, startsAt_cons_cons] at hds ⊢
      | cons b xs => rwa [List.cons_append, List.cons_append, startsAt_cons_cons] at hds ⊢
  skip d _ := by
    induction xs with
    | nil =>
      rw [List.nil_append, List.nil_append, List.dropWhile_cons_of_neg (by simp [h.isBlank]),
        List.dropWhile_cons_of_neg (by simp [h.isBlank])]
      rfl
    | cons a xs ih =>
      rw [List.cons_append, List.cons_append]
      by_cases ha : isBlank a = true
      · rwa [List.dropWhile_cons_of_pos ha, List.dropWhile_cons_of_pos ha]
      · rw [List.dropWhile_cons_of_neg ha, List.dropWhile_cons_of_neg ha]
        rfl

theorem append_of_notMem {w rest : List Char} (h : xs ++ c :: cs = w ++ rest) (hw : c ∉ w) :
    ∃ xs', xs = w ++ xs' ∧ rest = xs' ++ c :: cs := by
  rcases List.append_eq_append_iff.1 h with ⟨a, rfl, ha⟩ | ⟨xs', rfl, hrest⟩
  · cases a with
    | nil => exact ⟨[], by simp, by simpa using ha.symm⟩
    | cons d a =>
      obtain ⟨rfl, -⟩ := List.cons.inj ha
      exact absurd (by simp) hw
  · exact ⟨xs', rfl, hrest⟩

/-- The lexemes in front of a sign are the same whatever follows it. -/
theorem lexFrom_front (hs : Sign c s) (before : List Token) (h : lexFrom before.head? pos (xs ++ c :: cs) = .ok ls) :
    ∃ front back, ls = front ++ back ∧ (∀ l ∈ front, l.pos < pos + xs.length) ∧
      lexFrom (behind before front).head? (pos + xs.length) (c :: cs) = .ok back ∧
      ∀ ds ms, lexFrom (behind before front).head? (pos + xs.length) (c :: ds) = .ok ms →
        lexFrom before.head? pos (xs ++ c :: ds) = .ok (front ++ ms) := by
  generalize hprevious : before.head? = previous at h
  generalize htext : xs ++ c :: cs = text at h
  fun_induction lexFrom previous pos text generalizing xs before ls with
  | case1 previous pos => simp at htext
  | case2 previous pos d rest hd ih =>
    cases xs with
    | nil =>
      obtain ⟨rfl, -⟩ := List.cons.inj htext
      rw [hs.isBlank] at hd
      cases hd
    | cons a xs =>
      obtain ⟨rfl, rfl⟩ := List.cons.inj htext
      obtain ⟨front, back, hls, hpos, hback, hrest⟩ := ih before hprevious rfl h
      have hplace : pos + 1 + xs.length = pos + (xs.length + 1) := by omega
      rw [hplace] at hpos hback hrest
      refine ⟨front, back, hls, hpos, hback, fun ds ms hms => ?_⟩
      rw [List.cons_append, lexFrom, if_pos hd]
      exact hrest ds ms hms
  | case3 previous pos d rest hd hnext => cases h
  | case4 previous pos d rest hd token more hnext ih =>
    subst hprevious
    cases xs with
    | nil =>
      obtain ⟨rfl, rfl⟩ := List.cons.inj htext
      refine ⟨[], ls, rfl, List.forall_mem_nil _, ?_, fun ds ms hms => hms⟩
      rw [behind_nil, List.length_nil, Nat.add_zero, lexFrom, if_neg hd, hnext]
      exact h
    | cons a xs =>
      rw [List.cons_append] at htext
      obtain ⟨rfl, htail⟩ := List.cons.inj htext
      obtain ⟨w, rest, rfl, rfl, hinside⟩ := inside_of_nextToken? hnext
      obtain ⟨xs, rfl, rfl⟩ := append_of_notMem htail fun hc => (hinside c hc).ne_of_lt hs.toNat_lt rfl
      obtain ⟨ls', hls', hls⟩ := bind_eq_ok.1 h
      cases hls
      rw [List.drop_left] at hls' ih
      obtain ⟨front, back, rfl, hpos, hback, hrest⟩ := ih (token :: before) rfl rfl hls'
      have hplace : pos + 1 + w.length + xs.length = pos + (a :: (w ++ xs)).length := by
        rw [List.length_cons, List.length_append]
        omega
      rw [hplace] at hpos hback hrest
      refine ⟨⟨pos, token⟩ :: front, back, rfl, ?_, by rwa [behind_cons], fun ds ms hms => ?_⟩
      · rw [List.forall_mem_cons]
        exact ⟨by simp, hpos⟩
      · rw [behind_cons] at hms
        have hread := nextToken?_of_follows hnext (follows_sign hs xs cs ds)
        rw [List.cons_append, List.append_assoc, lexFrom_token (by simpa using hd) hread, List.drop_left,
          hrest ds ms hms]
        rfl

/-! ## At the sign -/

theorem inside_of_startsAt (h : Numeral.startsAt (c :: cs) = true) : Inside c := by
  by_cases hpoint : c = '.'
  · exact .point hpoint
  by_cases hdigit : c.isDigit = true
  · exact .word (continuesWord_of_isDigit hdigit)
  · rw [Numeral.startsAt_eq_false hpoint (by simpa using hdigit)] at h
    cases h

theorem symbolToken?_sign (hs : Sign c s) (hys : Numeral.startsAt ys = true)
    (hblank : ∀ d ∈ blanks, isBlank d = true) : symbolToken? c (blanks ++ ys) = some s := by
  cases hs with
  | plus => rfl
  | minus =>
    cases ys with
    | nil => cases hys
    | cons y ys =>
      have hinside := inside_of_startsAt hys
      rw [symbolToken?_minus, dropWhile_blanks hblank, List.dropWhile_cons_of_neg (by simp [hinside.isBlank]), if_neg]
      rintro (hhead | hhead)
      · exact hinside.ne_of_lt (by decide) (Option.some.inj hhead)
      · exact hinside.ne_of_lt (by decide) (Option.some.inj hhead)

/-- The number that a numeral at the head of a text stands for, behind a `-` or not. -/
def numberAt (negative : Bool) (ys : List Char) : Token := .number ((Numeral.ofChars ys).value negative)

theorem signAllowed_numberAt (negative : Bool) (ys : List Char) : signAllowed (some (numberAt negative ys)) = false :=
  rfl

theorem lexFrom_numeral (hys : Numeral.startsAt ys = true) (previous : Option Token) (pos : Nat) :
    lexFrom previous pos ys =
      lexFrom (some (numberAt false ys)) (pos + (Numeral.ofChars ys).chars.length)
        (ys.drop (Numeral.ofChars ys).chars.length) >>= fun ls => .ok (⟨pos, numberAt false ys⟩ :: ls) := by
  cases ys with
  | nil => cases hys
  | cons y ys =>
    obtain ⟨k, hk⟩ := Nat.exists_eq_succ_of_ne_zero (List.length_pos_iff.2 (Numeral.chars_ne_nil hys)).ne'
    have hnext : nextToken? previous y ys = some (numberAt false (y :: ys), k) := by
      rw [nextToken?_numeral hys, hk]
      rfl
    rw [lexFrom_token (inside_of_startsAt hys).isBlank hnext, hk, List.drop_succ_cons, Nat.add_assoc, Nat.add_comm 1]

/-- The lexemes of a sign that is written against a numeral: one where the sign may be part of the number, else two. -/
def signLexemes (previous : Option Token) (pos : Nat) (c : Char) (s : Token) (ys : List Char) : List Lexeme :=
  if signAllowed previous then [⟨pos, numberAt (c == '-') ys⟩] else [⟨pos, s⟩, ⟨pos + 1, numberAt false ys⟩]

theorem nextToken?_sign (hs : Sign c s) (hys : Numeral.startsAt ys = true) (hblank : ∀ d ∈ blanks, isBlank d = true)
    (h : (signAllowed previous && Numeral.startsAt (blanks ++ ys)) = false) :
    nextToken? previous c (blanks ++ ys) = some (s, 0) :=
  nextToken?_symbol (hs.startsAt _) (by rw [Bool.and_assoc, h, Bool.and_false]) (symbolToken?_sign hs hys hblank)

theorem lexFrom_flush (hs : Sign c s) (hys : Numeral.startsAt ys = true)
    (h : lexFrom previous pos (c :: ys) = .ok ls) :
    ∃ rest, ls = signLexemes previous pos c s ys ++ rest ∧
      lexFrom (some s) (pos + 1) ys = .ok (⟨pos + 1, numberAt false ys⟩ :: rest) := by
  unfold signLexemes
  cases hallowed : signAllowed previous with
  | false =>
    have hnext : nextToken? previous c ys = some (s, 0) :=
      nextToken?_sign hs hys (List.forall_mem_nil _) (by rw [hallowed, Bool.false_and])
    rw [lexFrom_token hs.isBlank hnext, List.drop_zero] at h
    obtain ⟨ls', hls', hls⟩ := bind_eq_ok.1 h
    cases hls
    rw [lexFrom_numeral hys] at hls'
    obtain ⟨rest, hrest, hls⟩ := bind_eq_ok.1 hls'
    cases hls
    refine ⟨rest, rfl, ?_⟩
    rw [lexFrom_numeral hys]
    exact hls'
  | true =>
    have hnext : nextToken? previous c ys = some (numberAt (c == '-') ys, (Numeral.ofChars ys).chars.length) :=
      nextToken?_signed hs.eq_or_eq hallowed hys
    rw [lexFrom_token hs.isBlank hnext] at h
    obtain ⟨rest, hrest, hls⟩ := bind_eq_ok.1 h
    cases hls
    refine ⟨rest, rfl, ?_⟩
    have hsame : signAllowed (some (numberAt (c == '-') ys)) = signAllowed (some (numberAt false ys)) := by
      rw [signAllowed_numberAt, signAllowed_numberAt]
    rw [lexFrom_numeral hys, ← lexFrom_congr hsame, hrest]
    rfl

/-! ## A gap behind the sign -/

def gapAt (q : Nat) (blanks : List Char) : Nat → List Char := fun i => if i = q then blanks else []

theorem gapAt_of_ne {i : Nat} (h : i ≠ q) : gapAt q blanks i = [] := if_neg h

theorem gapAt_self (q : Nat) (blanks : List Char) : gapAt q blanks q = blanks := if_pos rfl

theorem inserted_gapAt {p : Nat} (h : p < q) : inserted (gapAt q blanks) p = 0 := by
  induction p with
  | zero => rw [inserted, gapAt_of_ne (Nat.ne_of_lt h), List.length_nil]
  | succ p ih => rw [inserted, ih (by omega), gapAt_of_ne (Nat.ne_of_lt h), List.length_nil]

theorem moved_gapAt {p : Nat} (h : p < q) : moved (gapAt q blanks) p = p := by
  rw [moved, inserted_gapAt h, Nat.add_zero]

theorem moved_gapAt_self (p : Nat) : moved (gapAt (p + 1) blanks) (p + 1) = p + 1 + blanks.length := by
  rw [moved, inserted, inserted_gapAt (Nat.lt_succ_self p), gapAt_self, Nat.zero_add]

theorem respaceFrom_gapAt (q : Nat) (blanks ys : List Char) : respaceFrom (gapAt q blanks) q ys = blanks ++ ys := by
  cases ys with
  | nil => rw [respaceFrom, gapAt_self, List.append_nil]
  | cons y ys =>
    have hrest : respaceFrom (gapAt q blanks) (q + 1) (ys ++ []) = ys ++ gapAt q blanks (q + 1 + ys.length) :=
      respaceFrom_append (fun i hlow _ => gapAt_of_ne (by omega)) []
    rw [gapAt_of_ne (by omega), List.append_nil] at hrest
    rw [respaceFrom, gapAt_self, hrest]

theorem lexFrom_detached (hs : Sign c s) (hys : Numeral.startsAt ys = true) (hblank : ∀ d ∈ blanks, isBlank d = true)
    (hne : blanks ≠ []) {rest : List Lexeme}
    (h : lexFrom (some s) (pos + 1) ys = .ok (⟨pos + 1, numberAt false ys⟩ :: rest)) :
    lexFrom previous pos (c :: (blanks ++ ys)) =
      .ok ((⟨pos, s⟩ :: ⟨pos + 1, numberAt false ys⟩ :: rest).map (Lexeme.move (moved (gapAt (pos + 1) blanks)))) := by
  have hgaps : Gaps (gapAt (pos + 1) blanks) (pos + 1) ys (⟨pos + 1, numberAt false ys⟩ :: rest) := by
    constructor
    · intro i d hd
      unfold gapAt at hd
      split at hd
      · exact hblank d hd
      · cases hd
    · intro i _ hgap
      by_cases hi : i = pos + 1
      · exact .inl ⟨_, List.mem_cons_self, hi.symm⟩
      · exact absurd (gapAt_of_ne hi) hgap
  have hplace : pos + 1 + (gapAt (pos + 1) blanks (pos + 1)).length = moved (gapAt (pos + 1) blanks) (pos + 1) := by
    rw [gapAt_self, moved_gapAt_self]
  have hmoved := lexFrom_respaceFrom h hgaps hplace
  rw [respaceFrom_gapAt] at hmoved
  have hnext : nextToken? previous c (blanks ++ ys) = some (s, 0) :=
    nextToken?_sign hs hys hblank (by rw [startsAt_of_blanks hblank hne, Bool.and_false])
  have hsign : Lexeme.move (moved (gapAt (pos + 1) blanks)) ⟨pos, s⟩ = ⟨pos, s⟩ := by
    rw [Lexeme.move, moved_gapAt (Nat.lt_succ_self pos)]
  rw [lexFrom_token hs.isBlank hnext, List.drop_zero, Nat.add_zero, hmoved, ok_bind]
  conv_rhs => rw [List.map_cons, hsign]

/-- The tokens in front of offset `p`, the last one first. -/
def tokensBefore (ls : List Lexeme) (p : Nat) : List Token := behind [] (ls.filter (·.pos < p))

/-- The lexemes of a text with a sign in front of a numeral, and those of the text with blanks between the two. In front
of the sign they are the same, and behind it too, moved by the blanks. -/
theorem lex_detach {src : String} (hlex : lex src = .ok ls) (hsrc : src.toList = xs ++ c :: ys) (hs : Sign c s)
    (hys : Numeral.startsAt ys = true) :
    ∃ front rest, ls = front ++ (signLexemes (behind [] front).head? xs.length c s ys ++ rest) ∧
      tokensBefore ls xs.length = behind [] front ∧
      ∀ blanks ≠ [], (∀ d ∈ blanks, isBlank d = true) →
        lex (String.ofList (xs ++ c :: (blanks ++ ys))) =
          .ok ((front ++ ⟨xs.length, s⟩ :: ⟨xs.length + 1, numberAt false ys⟩ :: rest).map
            (Lexeme.move (moved (gapAt (xs.length + 1) blanks)))) := by
  rw [lex, hsrc] at hlex
  obtain ⟨front, back, rfl, hpos, hback, hfront⟩ := lexFrom_front hs [] hlex
  rw [Nat.zero_add] at hpos hback hfront
  obtain ⟨rest, rfl, hnumeral⟩ := lexFrom_flush hs hys hback
  refine ⟨front, rest, rfl, ?_, fun blanks hne hblank => ?_⟩
  · have hlow : front.filter (·.pos < xs.length) = front := List.filter_eq_self.2 fun l hl => by simpa using hpos l hl
    have hhigh : (signLexemes (behind [] front).head? xs.length c s ys ++ rest).filter (·.pos < xs.length) = [] := by
      rw [List.filter_eq_nil_iff]
      intro l hl
      have := le_pos_of_lexFrom hback l hl
      simpa using this
    rw [tokensBefore, List.filter_append, hlow, hhigh, List.append_nil]
  · have hstay : front.map (Lexeme.move (moved (gapAt (xs.length + 1) blanks))) = front := by
      have hplace : ∀ l ∈ front, l.move (moved (gapAt (xs.length + 1) blanks)) = l := by
        intro l hl
        rw [Lexeme.move, moved_gapAt (Nat.lt_succ_of_lt (hpos l hl))]
      rw [List.map_congr_left hplace, List.map_id']
    rw [lex, String.toList_ofList, List.map_append, hstay]
    exact hfront _ _ (lexFrom_detached hs hys hblank hne hnumeral)

end LayoutEquations
