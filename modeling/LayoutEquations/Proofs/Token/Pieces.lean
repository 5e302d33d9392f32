import Mathlib.Data.List.TakeWhile
import LayoutEquations.Proofs.Token.Signs
import LayoutEquations.Proofs.Token.Tiling

/-!
# Texts in pieces

A text is cut in front of a lexeme. Behind the cut the lexemes are those of that part of the text alone. In front of it
they stay the same when another text takes the place of what is behind, as long as that text does not go on with the
last token (`Stops`), and that token does not look behind the blanks (`Settled`): a token sees no further than that
(`lexFrom_split`).

So texts can be taken apart and put together by their lexemes. `Lexed before xs ls` says that `xs` is cut into `ls`
behind the tokens `before`. Pieces are put together by `Lexed.append` and taken out of a text by `exists_lexed`. What
stands before a piece counts for a sign against a numeral at its head only (`lexFrom_eq_or_flush`).
-/

namespace LayoutEquations

open Grammar

variable {previous : Option Token} {before before' : List Token} {s t : Token} {c : Char}
  {cs ds xs ys blanks : List Char} {pos p : Nat} {l : Lexeme} {ls front back : List Lexeme} {ts : List Token}

/-! ## What a text shows to the one in front of it -/

theorem Stops.of_blank (hc : isBlank c = true) (cs : List Char) : Stops (c :: cs) where
  word d hd := by
    obtain rfl : c = d := Option.some.inj hd
    exact continuesWord_of_isBlank hc
  numeral := startsAt_of_blanks (List.forall_mem_singleton.2 hc) (List.cons_ne_nil _ _) cs

theorem Stops.append_blanks (h : Stops cs) (hblank : ∀ d ∈ blanks, isBlank d = true) : Stops (blanks ++ cs) := by
  cases blanks with
  | nil => exact h
  | cons c blanks => exact .of_blank (hblank c (by simp)) _

theorem KeepsEnd.append (h : KeepsEnd cs ds) (xs : List Char) : KeepsEnd (xs ++ cs) (xs ++ ds) where
  word d hd hcontinues := by
    cases xs with
    | nil => exact h.word d hd hcontinues
    | cons a xs => exact hd
  numeral hds := by
    rcases xs with _ | ⟨a, _ | ⟨b, xs⟩⟩
    · exact h.numeral hds
    · by_cases hpoint : a = '.'
      · -- behind the point `ds` goes on with a digit, so `cs` starts with that digit
        subst hpoint
        cases ds with
        | nil => cases hds
        | cons d ds =>
          have hd : d.isDigit = true := hds
          obtain ⟨cs, rfl⟩ := List.head?_eq_some_iff.1 (h.word d rfl (continuesWord_of_isDigit hd))
          exact hd
      · by_cases ha : a.isDigit = true
        · exact Numeral.startsAt_of_isDigit ha _
        · rw [List.singleton_append, Numeral.startsAt_eq_false hpoint (by simpa using ha)] at hds
          cases hds
    · rw [List.cons_append, List.cons_append, startsAt_cons_cons] at hds ⊢
      exact hds

theorem KeepsSkip.of_mem (hmem : c ∈ xs) (hc : isBlank c = false) (cs ds : List Char) :
    KeepsSkip (xs ++ cs) (xs ++ ds) := by
  have hne : xs.dropWhile isBlank ≠ [] := by
    intro hnil
    rw [List.dropWhile_eq_nil_iff] at hnil
    rw [hnil c hmem] at hc
    cases hc
  obtain ⟨a, rest, hrest⟩ := List.exists_cons_of_ne_nil hne
  intro d _
  rw [List.dropWhile_append, List.dropWhile_append, hrest]
  rfl

/-! ## Cutting a text -/

theorem pairwise_pos_of_lexFrom (h : lexFrom previous pos cs = .ok ls) : ls.Pairwise (·.pos < ·.pos) := by
  obtain ⟨tiles, htiles, rfl⟩ := tiles_of_lexFrom h
  exact htiles.pairwise_pos

theorem exists_token (hc : isBlank c = false) (h : lexFrom previous pos (c :: cs) = .ok ls) :
    ∃ t w rest back, cs = w ++ rest ∧ ls = ⟨pos, t⟩ :: back ∧ nextToken? previous c (w ++ rest) = some (t, w.length) ∧
      lexFrom (some t) (pos + 1 + w.length) rest = .ok back := by
  cases hnext : nextToken? previous c cs with
  | none =>
    rw [lexFrom, if_neg (by simp [hc]), hnext] at h
    cases h
  | some r =>
    obtain ⟨t, more⟩ := r
    rw [lexFrom_token hc hnext] at h
    obtain ⟨back, hback, hls⟩ := bind_eq_ok.1 h
    obtain ⟨w, rest, rfl, rfl, -⟩ := inside_of_nextToken? hnext
    rw [List.drop_left] at hback
    exact ⟨t, w, rest, back, rfl, (Except.ok.inj hls).symm, hnext, hback⟩

theorem lexFrom_blanks_split (hblank : ∀ d ∈ blanks, isBlank d = true)
    (h : lexFrom previous pos (blanks ++ ys) = .ok (front ++ l :: back)) (hl : l.pos = pos + blanks.length) :
    front = [] ∧ lexFrom previous l.pos ys = .ok (l :: back) := by
  rw [lexFrom_blanks hblank, ← hl] at h
  cases front with
  | nil => exact ⟨rfl, h⟩
  | cons f front =>
    have hlow := le_pos_of_lexFrom h f (by simp)
    have hhigh := List.rel_of_pairwise_cons (pairwise_pos_of_lexFrom h) (show l ∈ front ++ l :: back by simp)
    omega

/-- The last lexeme is neither a minus nor a skip marker. -/
def Settled (ls : List Lexeme) : Prop := ∀ t ∈ (ls.map Lexeme.token).getLast?, t ≠ .minus ∧ t ≠ .dash

theorem settled_concat (ls : List Lexeme) (hminus : l.token ≠ .minus) (hdash : l.token ≠ .dash) :
    Settled (ls ++ [l]) := by
  intro t ht
  rw [List.map_append, List.map_singleton, List.getLast?_concat] at ht
  obtain rfl := Option.some.inj ht
  exact ⟨hminus, hdash⟩

theorem Settled.of_cons {l' : Lexeme} (h : Settled (l :: l' :: ls)) : Settled (l' :: ls) := by
  intro t ht
  exact h t (by rwa [List.map_cons, List.map_cons, List.getLast?_cons_cons, ← List.map_cons])

theorem Settled.append (h : Settled ls) (front : List Lexeme) (hne : ls ≠ []) : Settled (front ++ ls) := by
  intro t ht
  rw [List.map_append, List.getLast?_append_of_ne_nil _ (by simpa using hne)] at ht
  exact h t ht

/-- Where a lexeme is in front of the cut, no token in front of it sees behind the cut. -/
theorem keepsSkip_of_lexFrom {f : Lexeme} (h : lexFrom previous pos (xs ++ ys) = .ok (f :: front ++ l :: back))
    (hl : l.pos = pos + xs.length) (ds : List Char) : KeepsSkip (xs ++ ys) (xs ++ ds) := by
  by_contra hskip
  have hxs : ∀ d ∈ xs, isBlank d = true := by
    intro d hd
    rw [← Bool.not_eq_false]
    exact fun hfalse => hskip (KeepsSkip.of_mem hd hfalse _ _)
  obtain ⟨hnil, -⟩ := lexFrom_blanks_split hxs h hl
  cases hnil

theorem exists_append_of_length {w rest : List Char} (htext : xs ++ ys = w ++ rest) (h : w.length ≤ xs.length) :
    ∃ xs', xs = w ++ xs' ∧ rest = xs' ++ ys := by
  obtain ⟨xs', rfl⟩ := List.prefix_of_prefix_length_le (htext ▸ List.prefix_append w rest) (List.prefix_append xs ys) h
  exact ⟨xs', rfl, by simpa using htext.symm⟩

/-- Behind a cut the lexemes are those of the text there. In front of it they are the same when a text takes the place
of what is behind that the last one neither goes on with nor looks into. -/
theorem lexFrom_split (h : lexFrom before.head? pos (xs ++ ys) = .ok (front ++ l :: back))
    (hl : l.pos = pos + xs.length) :
    lexFrom (behind before front).head? l.pos ys = .ok (l :: back) ∧
      ∀ ds ms, Stops ds → Settled front → lexFrom (behind before front).head? (pos + xs.length) ds = .ok ms →
        lexFrom before.head? pos (xs ++ ds) = .ok (front ++ ms) := by
  -- by induction on the text in front of the cut, from which each step takes a blank or a token
  induction hn : xs.length using Nat.strong_induction_on generalizing xs before pos front with
  | h n ih =>
    subst hn
    cases xs with
    | nil =>
      obtain ⟨rfl, hback⟩ := lexFrom_blanks_split (List.forall_mem_nil _) h hl
      exact ⟨hback, fun ds ms _ _ hms => hms⟩
    | cons c xs =>
      rw [List.length_cons] at hl ih ⊢
      by_cases hc : isBlank c = true
      · rw [List.cons_append, lexFrom, if_pos hc] at h
        obtain ⟨hback, hfront⟩ := ih xs.length (Nat.lt_succ_self _) h (by omega) rfl
        refine ⟨hback, fun ds ms hds hsettled hms => ?_⟩
        rw [List.cons_append, lexFrom, if_pos hc]
        exact hfront ds ms hds hsettled (by rwa [show pos + 1 + xs.length = pos + (xs.length + 1) by omega])
      have hc : isBlank c = false := by simpa using hc
      obtain ⟨token, w, rest, back', htext, hls, hnext, hrest⟩ := exists_token hc h
      -- the first lexeme is in front of the cut, for its offset is
      cases front with
      | nil =>
        obtain ⟨rfl, -⟩ := List.cons.inj hls
        dsimp only at hl
        omega
      | cons f front =>
        obtain ⟨rfl, rfl⟩ := List.cons.inj hls
        have hle : w.length ≤ xs.length := by
          have := le_pos_of_lexFrom hrest l (by simp)
          omega
        obtain ⟨xs, rfl, rfl⟩ := exists_append_of_length htext hle
        rw [List.length_append] at hl ih ⊢
        have hrest' : lexFrom (token :: before).head? _ (xs ++ ys) = _ := hrest
        obtain ⟨hback, hfront⟩ := ih xs.length (by omega) hrest' (by omega) rfl
        rw [behind_cons]
        refine ⟨hback, fun ds ms hds hsettled hms => ?_⟩
        have hskip : token = .minus ∨ token = .dash → KeepsSkip (xs ++ ys) (xs ++ ds) := by
          intro htoken
          cases front with
          | nil =>
            obtain ⟨hminus, hdash⟩ := hsettled _ rfl
            exact (htoken.elim hminus hdash).elim
          | cons f front => exact keepsSkip_of_lexFrom hrest (by omega) ds
        have hread := nextToken?_of_keepsEnd hnext (hds.keepsEnd.append xs) hskip
        have hplace : pos + 1 + w.length + xs.length = pos + (w.length + xs.length + 1) := by omega
        have hms : lexFrom (some token) (pos + 1 + w.length) (xs ++ ds) = .ok (front ++ ms) := by
          refine hfront ds ms hds ?_ (by rwa [hplace])
          cases front with
          | nil => exact fun t ht => by cases ht
          | cons f' front => exact hsettled.of_cons
        rw [List.cons_append, List.append_assoc, lexFrom_token hc hread, List.drop_left, hms]
        rfl

theorem exists_eof_of_lexFrom (h : lexFrom previous pos cs = .ok ls) :
    ∃ init, ls = init ++ [⟨pos + cs.length, .eof⟩] := by
  obtain ⟨tiles, htiles, rfl⟩ := tiles_of_lexFrom h
  obtain ⟨init, hinit, -⟩ := htiles.exists_eof
  exact ⟨init, hinit⟩

theorem pos_le_of_lexFrom (h : lexFrom previous pos cs = .ok ls) : ∀ l ∈ ls, l.pos ≤ pos + cs.length := by
  have hpairwise := pairwise_pos_of_lexFrom h
  obtain ⟨init, rfl⟩ := exists_eof_of_lexFrom h
  intro l hl
  rcases List.mem_append.1 hl with hl | hl
  · exact Nat.le_of_lt ((List.pairwise_append.1 hpairwise).2.2 l hl _ (List.mem_singleton.2 rfl))
  · exact Nat.le_of_eq (congrArg Lexeme.pos (List.mem_singleton.1 hl))

/-! ## Pieces -/

theorem spellsAfter_of_lexFrom (h : lexFrom previous pos cs = .ok ls) :
    SpellsAfter previous cs (ls.map Lexeme.token) := by
  fun_induction lexFrom previous pos cs generalizing ls with
  | case1 previous pos =>
    cases h
    exact spells_nil previous
  | case2 previous pos c rest hc ih =>
    intro place
    obtain ⟨ls', hls', htokens⟩ := ih h (place + 1)
    exact ⟨ls', by rw [lexFrom, if_pos hc, hls'], htokens⟩
  | case3 previous pos c rest hc hnext => cases h
  | case4 previous pos c rest hc token more hnext ih =>
    obtain ⟨ls', hls', hls⟩ := bind_eq_ok.1 h
    cases hls
    exact spellsAfter_token (by simpa using hc) hnext (ih hls')

/-- Behind the tokens `before`, the last one first, the text is cut into the tokens of these lexemes. -/
def Lexed (before : List Token) (xs : List Char) (ls : List Lexeme) : Prop :=
  SpellsAfter before.head? xs (ls.map Lexeme.token ++ [.eof])

theorem lexed_of_lexFrom (before : List Token) (h : lexFrom before.head? pos xs = .ok (ls ++ [⟨p, .eof⟩])) :
    Lexed before xs ls := by
  have := spellsAfter_of_lexFrom h
  rwa [List.map_append] at this

namespace Lexed

theorem congr (hallowed : signAllowed before.head? = signAllowed before'.head?) (h : Lexed before xs ls) :
    Lexed before' xs ls := by
  intro pos
  rw [← lexFrom_congr hallowed]
  exact h pos

theorem append_blanks (hblank : ∀ d ∈ blanks, isBlank d = true) (h : Lexed before xs ls) :
    Lexed before (blanks ++ xs) ls := by
  intro pos
  rw [lexFrom_blanks hblank]
  exact h _

theorem symbol (hc : Symbol c t) (p : Nat) (h : Lexed (t :: before) xs ls) : Lexed before' (c :: xs) (⟨p, t⟩ :: ls) :=
  hc.spells h _

/-- A piece in front of another one. -/
theorem append (h : Lexed before xs front) (hsettled : Settled front) (hys : Stops ys)
    (hback : Lexed (behind before front) ys back) : Lexed before (xs ++ ys) (front ++ back) := by
  intro pos
  obtain ⟨ls, hls, htokens⟩ := h pos
  obtain ⟨front', last, rfl, hfront', hlast⟩ := List.map_eq_append_iff.1 htokens
  obtain ⟨l, rfl, hl⟩ := List.map_eq_singleton_iff.1 hlast
  have hend : l.pos = pos + xs.length := by
    obtain ⟨init, hinit⟩ := exists_eof_of_lexFrom hls
    exact congrArg Lexeme.pos (List.singleton_inj.1 (List.append_inj_right' hinit rfl))
  have hbehind : behind before front' = behind before front := by rw [behind, behind, hfront']
  obtain ⟨ms, hms, hmtokens⟩ := hback (pos + xs.length)
  rw [← List.append_nil xs] at hls
  obtain ⟨-, hreplace⟩ := lexFrom_split hls hend
  refine ⟨front' ++ ms, hreplace ys ms hys ?_ (by rwa [hbehind]), ?_⟩
  · rwa [Settled, hfront']
  · rw [List.map_append, List.map_append, hfront', hmtokens, List.append_assoc]

end Lexed

theorem exists_split (before : List Token) (h : lexFrom before.head? pos cs = .ok (front ++ l :: back)) :
    ∃ xs ys, cs = xs ++ ys ∧ l.pos = pos + xs.length ∧
      lexFrom (behind before front).head? l.pos ys = .ok (l :: back) ∧
      ∀ ds ms, Stops ds → Settled front → lexFrom (behind before front).head? l.pos ds = .ok ms →
        lexFrom before.head? pos (xs ++ ds) = .ok (front ++ ms) := by
  have hlow := le_pos_of_lexFrom h l (by simp)
  have hhigh := pos_le_of_lexFrom h l (by simp)
  have hpos : l.pos = pos + (cs.take (l.pos - pos)).length := by
    rw [List.length_take]
    omega
  have hcs : cs = cs.take (l.pos - pos) ++ cs.drop (l.pos - pos) := (List.take_append_drop _ _).symm
  rw [hcs] at h
  obtain ⟨hback, hfront⟩ := lexFrom_split h hpos
  rw [← hpos] at hfront
  exact ⟨_, _, hcs, hpos, hback, hfront⟩

/-- The piece in front of a lexeme. -/
theorem exists_lexed (before : List Token) (h : lexFrom before.head? pos cs = .ok (front ++ l :: back))
    (hsettled : Settled front) :
    ∃ xs ys, cs = xs ++ ys ∧ Lexed before xs front ∧
      lexFrom (behind before front).head? l.pos ys = .ok (l :: back) := by
  obtain ⟨xs, ys, rfl, -, hback, hfront⟩ := exists_split before h
  have hend := hfront [] _ stops_nil hsettled (by rw [lexFrom])
  rw [List.append_nil] at hend
  exact ⟨xs, ys, rfl, lexed_of_lexFrom before hend, hback⟩

theorem exists_spelling (h : lexFrom previous pos cs = .ok (⟨pos, t⟩ :: back)) (ht : t ≠ .eof) :
    ∃ w rest, cs = w ++ rest ∧ Spelling previous rest t w ∧
      lexFrom (some t) (pos + w.length) rest = .ok back := by
  cases cs with
  | nil =>
    rw [lexFrom] at h
    cases h
    exact absurd rfl ht
  | cons c cs =>
    by_cases hc : isBlank c = true
    · rw [lexFrom, if_pos hc] at h
      have := le_pos_of_lexFrom h _ (List.mem_cons_self)
      dsimp only at this
      omega
    · obtain ⟨t', w, rest, back', rfl, hls, hnext, hrest⟩ := exists_token (by simpa using hc) h
      obtain ⟨hfirst, rfl⟩ := List.cons.inj hls
      obtain rfl : t = t' := congrArg Lexeme.token hfirst
      refine ⟨c :: w, rest, rfl, spelling_of_nextToken? hnext, ?_⟩
      rwa [List.length_cons, Nat.add_comm w.length, ← Nat.add_assoc]

theorem Symbol.eq_of_spelling {w rest : List Char} (hc : Symbol c t) (h : Spelling previous rest t w) : w = [c] := by
  cases h with
  | symbol h =>
    cases h <;> cases hc
    all_goals rfl
  | relation r =>
    cases hc
    rfl
  | _ => cases hc

theorem exists_symbol (hc : Symbol c t) (h : lexFrom previous pos cs = .ok (⟨pos, t⟩ :: back)) :
    ∃ ys, cs = c :: ys ∧ lexFrom (some t) (pos + 1) ys = .ok back := by
  obtain ⟨w, ys, rfl, hspelled, hys⟩ := exists_spelling h (by cases hc <;> exact nofun)
  obtain rfl := hc.eq_of_spelling hspelled
  exact ⟨ys, rfl, hys⟩

/-! ## What stands before a piece -/

theorem nextToken?_of_not_flush (h : ((c == '-' || c == '+') && Numeral.startsAt cs) = false)
    (previous previous' : Option Token) : nextToken? previous c cs = nextToken? previous' c cs := by
  have hsigned : ∀ allowed, ((c == '-' || c == '+') && allowed && Numeral.startsAt cs) = false := by
    intro allowed
    rw [Bool.and_right_comm, h, Bool.false_and]
  unfold nextToken?
  rw [hsigned, hsigned]

/-- A text has the same lexemes behind any token, or it starts with a sign against a numeral. -/
theorem lexFrom_eq_or_flush (previous previous' : Option Token) (pos : Nat) (cs : List Char) :
    lexFrom previous pos cs = lexFrom previous' pos cs ∨
      ∃ blanks c s ys, cs = blanks ++ c :: ys ∧ (∀ d ∈ blanks, isBlank d = true) ∧ Sign c s ∧
        Numeral.startsAt ys = true := by
  induction cs generalizing pos with
  | nil => exact .inl (by rw [lexFrom, lexFrom])
  | cons c cs ih =>
    by_cases hc : isBlank c = true
    · rcases ih (pos + 1) with hsame | ⟨blanks, d, s, ys, rfl, hblank, hs, hys⟩
      · exact .inl (by rw [lexFrom, lexFrom, if_pos hc, if_pos hc, hsame])
      · exact .inr ⟨c :: blanks, d, s, ys, rfl, List.forall_mem_cons.2 ⟨hc, hblank⟩, hs, hys⟩
    cases hflush : (c == '-' || c == '+') && Numeral.startsAt cs with
    | false =>
      exact .inl (by rw [lexFrom, lexFrom, if_neg hc, if_neg hc, nextToken?_of_not_flush hflush])
    | true =>
      obtain ⟨hsign, hys⟩ := Bool.and_eq_true_iff.1 hflush
      refine .inr ⟨[], c, ?_⟩
      rcases (by simpa using hsign : c = '-' ∨ c = '+') with rfl | rfl
      · exact ⟨_, cs, rfl, List.forall_mem_nil _, .minus, hys⟩
      · exact ⟨_, cs, rfl, List.forall_mem_nil _, .plus, hys⟩

theorem lexFrom_flush_allowed (hs : Sign c s) (hys : Numeral.startsAt ys = true)
    (hallowed : signAllowed previous = true) {q : Nat}
    (h : lexFrom (some s) q ys = .ok (⟨q, numberAt false ys⟩ :: back)) (hq : q = pos + 1) :
    lexFrom previous pos (c :: ys) = .ok (⟨pos, numberAt (c == '-') ys⟩ :: back) := by
  subst hq
  rw [lexFrom_numeral hys] at h
  obtain ⟨ls, hls, heq⟩ := bind_eq_ok.1 h
  obtain rfl := (List.cons.inj (Except.ok.inj heq)).2
  have hsame : signAllowed (some (numberAt (c == '-') ys)) = signAllowed (some (numberAt false ys)) := by
    rw [signAllowed_numberAt, signAllowed_numberAt]
  rw [lexFrom_token hs.isBlank (nextToken?_signed hs.eq_or_eq hallowed hys), ← numberAt, lexFrom_congr hsame]
  exact congrArg (· >>= _) hls

theorem Lexed.behind_any (h : Lexed before xs (l :: ls)) (hsign : ¬ l.token.IsSign) (hnumber : ∀ x, l.token ≠ .number x)
    (before' : List Token) : Lexed before' xs (l :: ls) := by
  obtain ⟨ms, hms, htokens⟩ := h 0
  rcases lexFrom_eq_or_flush before.head? before'.head? 0 xs with hsame | ⟨blanks, c, s, ys, rfl, hblank, hs, hys⟩
  · rw [Lexed, ← htokens]
    rw [hsame] at hms
    exact spellsAfter_of_lexFrom hms
  · rw [lexFrom_blanks hblank] at hms
    obtain ⟨rest, rfl, -⟩ := lexFrom_flush hs hys hms
    rw [signLexemes] at htokens
    split at htokens
    · obtain ⟨htoken, -⟩ := List.cons.inj htokens
      exact absurd htoken.symm (hnumber _)
    · obtain ⟨htoken, -⟩ := List.cons.inj htokens
      exact absurd (htoken ▸ hs.isSign) hsign

/-! ## Where a piece may start -/

theorem Lexed.stops (h : Lexed before xs ls) (hls : ∀ l ∈ ls.head?, l.token = .dollar ∨ l.token.IsSign) :
    Stops xs := by
  cases xs with
  | nil => exact stops_nil
  | cons c xs =>
    by_cases hc : isBlank c = true
    · exact .of_blank hc xs
    · obtain ⟨ms, hms, htokens⟩ := h 0
      obtain ⟨t, w, rest, back, rfl, rfl, hnext, -⟩ := exists_token (by simpa using hc) hms
      have hspelled := spelling_of_nextToken? hnext
      cases ls with
      | nil =>
        obtain ⟨rfl, -⟩ := List.cons.inj htokens
        exact absurd rfl hspelled.ne_eof
      | cons l ls =>
        obtain ⟨rfl, -⟩ := List.cons.inj htokens
        rcases hls l rfl with hdollar | hplus | hminus
        · rw [hdollar] at hspelled
          cases hspelled with
          | symbol hsymbol =>
            cases hsymbol
            exact stops_cons (by decide) (by decide)
        · rw [hplus] at hspelled
          cases hspelled with
          | symbol hsymbol => cases hsymbol
          | plus => exact stops_cons (by decide) (by decide)
        · rw [hminus] at hspelled
          cases hspelled with
          | symbol hsymbol => cases hsymbol
          | minus hskip => exact stops_cons (by decide) (by decide)

end LayoutEquations
