import LayoutEquations.Proofs.Token.Lookahead

/-!
# Blanks between tokens

`respace gaps src` is the text `src` with the characters `gaps i` in front of the one at offset `i`. When the gaps are
blanks and none of them is inside a token (`Gaps`), the text has the same tokens, each moved by the number of
characters in front of it (`lex_respace`). The gaps behind a token show the lexer no more than the text did
(`follows_respace`).
-/

namespace LayoutEquations

variable {gaps : Nat → List Char} {previous : Option Token} {pos place : Nat} {cs : List Char} {ls : List Lexeme}

/-! ## Texts with gaps -/

/-- A text that starts at offset `pos`, with the gaps in front of its characters and behind the last one. -/
def respaceFrom (gaps : Nat → List Char) (pos : Nat) : List Char → List Char
  | [] => gaps pos
  | c :: cs => gaps pos ++ c :: respaceFrom gaps (pos + 1) cs

/-- The text with `gaps i` in front of the character at offset `i`, or at the end. -/
def respace (gaps : Nat → List Char) (src : String) : String :=
  String.ofList (respaceFrom gaps 0 src.toList)

/-- The number of characters in the gaps up to the one in front of offset `p`. -/
def inserted (gaps : Nat → List Char) : Nat → Nat
  | 0 => (gaps 0).length
  | p + 1 => inserted gaps p + (gaps (p + 1)).length

/-- The offset at which a text with gaps has what was at offset `p`. -/
def moved (gaps : Nat → List Char) (p : Nat) : Nat := p + inserted gaps p

def Lexeme.move (f : Nat → Nat) (l : Lexeme) : Lexeme := { l with pos := f l.pos }

@[simp] theorem Lexeme.token_move (f : Nat → Nat) (l : Lexeme) : (l.move f).token = l.token := rfl

@[simp] theorem Lexeme.pos_move (f : Nat → Nat) (l : Lexeme) : (l.move f).pos = f l.pos := rfl

theorem inserted_add {n : Nat} (h : ∀ i, pos < i → i ≤ pos + n → gaps i = []) :
    inserted gaps (pos + n) = inserted gaps pos := by
  induction n with
  | zero => rfl
  | succ n ih =>
    have hlast : gaps (pos + n + 1) = [] := h (pos + n + 1) (by omega) (by omega)
    have hinit : ∀ i, pos < i → i ≤ pos + n → gaps i = [] := fun i hlow hhigh => h i hlow (by omega)
    rw [← Nat.add_assoc, inserted, ih hinit, hlast]
    rfl

theorem respaceFrom_append {w : List Char} (h : ∀ i, pos ≤ i → i < pos + w.length → gaps i = []) (cs : List Char) :
    respaceFrom gaps pos (w ++ cs) = w ++ respaceFrom gaps (pos + w.length) cs := by
  induction w generalizing pos with
  | nil => rfl
  | cons c w ih =>
    rw [List.length_cons] at h ⊢
    have hhead : gaps pos = [] := h pos (by omega) (by omega)
    have htail : ∀ i, pos + 1 ≤ i → i < pos + 1 + w.length → gaps i = [] :=
      fun i hlow hhigh => h i (by omega) (by omega)
    have hplace : pos + (w.length + 1) = pos + 1 + w.length := by omega
    rw [List.cons_append, respaceFrom, hhead, ih htail, hplace]
    rfl

/-! ## Gaps show the lexer nothing new -/

theorem startsAt_of_blanks {blanks : List Char} (h : ∀ c ∈ blanks, isBlank c = true) (hne : blanks ≠ [])
    (cs : List Char) : Numeral.startsAt (blanks ++ cs) = false := by
  cases blanks with
  | nil => exact absurd rfl hne
  | cons c blanks =>
    have hc : isBlank c = true := h c (by simp)
    have hpoint : c ≠ '.' := by
      rintro rfl
      exact absurd hc (by decide)
    exact Numeral.startsAt_eq_false hpoint (isDigit_of_isBlank hc) _

theorem dropWhile_blanks {blanks : List Char} (h : ∀ c ∈ blanks, isBlank c = true) (cs : List Char) :
    (blanks ++ cs).dropWhile isBlank = cs.dropWhile isBlank := by
  induction blanks with
  | nil => rfl
  | cons c blanks ih =>
    rw [List.cons_append, List.dropWhile_cons_of_pos (h c (by simp))]
    exact ih fun d hd => h d (List.mem_cons_of_mem _ hd)

theorem head?_dropWhile_respaceFrom (hblank : ∀ i, ∀ c ∈ gaps i, isBlank c = true) (pos : Nat) (cs : List Char) :
    ((respaceFrom gaps pos cs).dropWhile isBlank).head? = (cs.dropWhile isBlank).head? := by
  induction cs generalizing pos with
  | nil =>
    have := dropWhile_blanks (hblank pos) []
    rw [List.append_nil] at this
    rw [respaceFrom, this]
  | cons c cs ih =>
    rw [respaceFrom, dropWhile_blanks (hblank pos)]
    by_cases hc : isBlank c = true
    · rw [List.dropWhile_cons_of_pos hc, List.dropWhile_cons_of_pos hc, ih]
    · rw [List.dropWhile_cons_of_neg hc, List.dropWhile_cons_of_neg hc, List.head?_cons, List.head?_cons]

theorem head?_respaceFrom (hblank : ∀ i, ∀ c ∈ gaps i, isBlank c = true) :
    ∀ d ∈ (respaceFrom gaps pos cs).head?, isBlank d = true ∨ d ∈ cs.head? := by
  intro d hd
  cases hgap : gaps pos with
  | nil =>
    cases cs with
    | nil =>
      rw [respaceFrom, hgap] at hd
      cases hd
    | cons c cs =>
      rw [respaceFrom, hgap] at hd
      exact .inr hd
  | cons c gap =>
    have hc : isBlank c = true := hblank pos c (by rw [hgap]; exact List.mem_cons_self)
    have hhead : (respaceFrom gaps pos cs).head? = some c := by
      cases cs <;> simp [respaceFrom, hgap]
    rw [hhead] at hd
    obtain rfl := Option.some.inj hd
    exact .inl hc

theorem startsAt_of_respaceFrom (hblank : ∀ i, ∀ c ∈ gaps i, isBlank c = true)
    (h : Numeral.startsAt (respaceFrom gaps pos cs) = true) : Numeral.startsAt cs = true := by
  by_cases hgap : gaps pos = []
  · cases cs with
    | nil =>
      rw [respaceFrom, hgap] at h
      cases h
    | cons c cs =>
      rw [respaceFrom, hgap, List.nil_append] at h
      by_cases hdigit : c.isDigit = true
      · exact Numeral.startsAt_of_isDigit hdigit cs
      by_cases hpoint : c = '.'
      · -- behind a point the digit has to come at once, so it stood there before
        subst hpoint
        cases hrest : respaceFrom gaps (pos + 1) cs with
        | nil =>
          rw [hrest] at h
          cases h
        | cons d ds =>
          rw [hrest] at h
          have hd : d.isDigit = true := h
          have hhead : isBlank d = true ∨ d ∈ cs.head? := by
            apply head?_respaceFrom hblank
            rw [hrest]
            rfl
          rw [isBlank_of_isDigit hd] at hhead
          obtain ⟨rest, rfl⟩ := List.head?_eq_some_iff.1 (hhead.resolve_left Bool.false_ne_true)
          exact hd
      · rw [Numeral.startsAt_eq_false hpoint (by simpa using hdigit)] at h
        cases h
  · have hstarts : Numeral.startsAt (respaceFrom gaps pos cs) = false := by
      cases cs with
      | nil =>
        have := startsAt_of_blanks (hblank pos) hgap []
        rwa [List.append_nil] at this
      | cons c cs => exact startsAt_of_blanks (hblank pos) hgap _
    rw [hstarts] at h
    cases h

theorem follows_respace (hblank : ∀ i, ∀ c ∈ gaps i, isBlank c = true) (pos : Nat) (cs : List Char) :
    Follows cs (respaceFrom gaps pos cs) where
  head := head?_respaceFrom hblank
  numeral := startsAt_of_respaceFrom hblank
  skip d _ := by rw [head?_dropWhile_respaceFrom hblank]

/-! ## Lexing a text with gaps -/

theorem lexFrom_blanks {blanks : List Char} (h : ∀ c ∈ blanks, isBlank c = true) (previous : Option Token)
    (pos : Nat) (cs : List Char) :
    lexFrom previous pos (blanks ++ cs) = lexFrom previous (pos + blanks.length) cs := by
  induction blanks generalizing pos with
  | nil => rfl
  | cons c blanks ih =>
    have hplace : pos + (blanks.length + 1) = pos + 1 + blanks.length := by omega
    rw [List.cons_append, lexFrom, if_pos (h c (by simp)), List.length_cons, hplace]
    exact ih (fun d hd => h d (List.mem_cons_of_mem _ hd)) (pos + 1)

theorem le_pos_of_lexFrom (h : lexFrom previous pos cs = .ok ls) : ∀ l ∈ ls, pos ≤ l.pos := by
  fun_induction lexFrom previous pos cs generalizing ls with
  | case1 previous pos =>
    cases h
    intro l hl
    rw [List.mem_singleton.1 hl]
  | case2 previous pos c rest hc ih =>
    intro l hl
    have := ih h l hl
    omega
  | case3 previous pos c rest hc hnext => cases h
  | case4 previous pos c rest hc token more hnext ih =>
    obtain ⟨ls', hls', hls⟩ := bind_eq_ok.1 h
    cases hls
    intro l hl
    rcases List.mem_cons.1 hl with rfl | hl
    · exact Nat.le_refl _
    · have := ih hls' l hl
      omega

/-- Gaps of blanks between the lexemes of a text that starts at `pos`: there is none in front of a character inside a
token, since such a character is no blank and no lexeme starts with it. What comes right behind a token is a blank,
the next lexeme or the end mark. -/
structure Gaps (gaps : Nat → List Char) (pos : Nat) (cs : List Char) (ls : List Lexeme) : Prop where
  blank : ∀ i, ∀ c ∈ gaps i, isBlank c = true
  between : ∀ i, pos ≤ i → gaps i ≠ [] → (∃ l ∈ ls, l.pos = i) ∨ ∃ c ∈ cs[i - pos]?, isBlank c = true

namespace Gaps

theorem of_blank {c : Char} (h : Gaps gaps pos (c :: cs) ls) : Gaps gaps (pos + 1) cs ls := by
  refine ⟨h.blank, fun i hi hne => ?_⟩
  obtain ⟨k, rfl⟩ : ∃ k, i = pos + 1 + k := ⟨i - (pos + 1), by omega⟩
  have hindex : pos + 1 + k - pos = k + 1 := by omega
  have := h.between (pos + 1 + k) (by omega) hne
  rw [hindex, List.getElem?_cons_succ] at this
  rwa [Nat.add_sub_cancel_left]

variable {l : Lexeme} {c : Char} {w : List Char}

theorem of_token (h : Gaps gaps l.pos (c :: (w ++ cs)) (l :: ls)) :
    Gaps gaps (l.pos + 1 + w.length) cs ls := by
  refine ⟨h.blank, fun i hi hne => ?_⟩
  obtain ⟨k, rfl⟩ : ∃ k, i = l.pos + 1 + w.length + k := ⟨i - (l.pos + 1 + w.length), by omega⟩
  have hindex : l.pos + 1 + w.length + k - l.pos = w.length + k + 1 := by omega
  rcases h.between _ (by omega) hne with ⟨l', hl', hpos⟩ | hblank
  · rcases List.mem_cons.1 hl' with rfl | hl'
    · omega
    · exact .inl ⟨l', hl', hpos⟩
  · rw [hindex, List.getElem?_cons_succ, List.getElem?_append_right (by omega)] at hblank
    rw [Nat.add_sub_cancel_left] at hblank ⊢
    exact .inr hblank

theorem inside_token (h : Gaps gaps l.pos (c :: (w ++ cs)) (l :: ls)) (hw : ∀ d ∈ w, Inside d)
    (hls : ∀ l' ∈ ls, l.pos + 1 + w.length ≤ l'.pos) {i : Nat} (hlow : l.pos < i) (hhigh : i ≤ l.pos + w.length) :
    gaps i = [] := by
  by_contra hne
  obtain ⟨k, rfl⟩ : ∃ k, i = l.pos + 1 + k := ⟨i - (l.pos + 1), by omega⟩
  have hindex : l.pos + 1 + k - l.pos = k + 1 := by omega
  rcases h.between _ (by omega) hne with ⟨l', hl', hpos⟩ | ⟨d, hd, hblank⟩
  · rcases List.mem_cons.1 hl' with rfl | hl'
    · omega
    · have := hls l' hl'
      omega
  · rw [hindex, List.getElem?_cons_succ, List.getElem?_append_left (by omega)] at hd
    have hinside := hw d (List.mem_of_getElem? hd)
    rw [hinside.isBlank] at hblank
    cases hblank

end Gaps

/-- Gaps between the lexemes move them and change nothing else. The text with gaps starts at `place`, in front of the
first gap. -/
theorem lexFrom_respaceFrom (h : lexFrom previous pos cs = .ok ls) (hgaps : Gaps gaps pos cs ls)
    (hplace : place + (gaps pos).length = moved gaps pos) :
    lexFrom previous place (respaceFrom gaps pos cs) = .ok (ls.map (Lexeme.move (moved gaps))) := by
  fun_induction lexFrom previous pos cs generalizing ls place with
  | case1 previous pos =>
    cases h
    have := lexFrom_blanks (hgaps.blank pos) previous place []
    rw [List.append_nil] at this
    rw [respaceFrom, this, lexFrom, hplace]
    rfl
  | case2 previous pos c rest hc ih =>
    have hnext : moved gaps pos + 1 + (gaps (pos + 1)).length = moved gaps (pos + 1) := by
      simp only [moved, inserted]
      omega
    rw [respaceFrom, lexFrom_blanks (hgaps.blank pos), hplace, lexFrom, if_pos hc]
    exact ih h hgaps.of_blank hnext
  | case3 previous pos c rest hc hnext => cases h
  | case4 previous pos c rest hc token more hnext ih =>
    obtain ⟨ls', hls', hls⟩ := bind_eq_ok.1 h
    cases hls
    obtain ⟨w, rest, rfl, rfl, hw⟩ := inside_of_nextToken? hnext
    rw [List.drop_left] at ih hls'
    have hempty : ∀ i, pos < i → i ≤ pos + w.length → gaps i = [] := by
      intro i hlow hhigh
      exact hgaps.inside_token (l := ⟨pos, token⟩) hw (le_pos_of_lexFrom hls') hlow hhigh
    have htoken : respaceFrom gaps (pos + 1) (w ++ rest) = w ++ respaceFrom gaps (pos + 1 + w.length) rest :=
      respaceFrom_append (fun i hlow hhigh => hempty i (by omega) (by omega)) rest
    have hmoved : moved gaps pos + 1 + w.length + (gaps (pos + 1 + w.length)).length =
        moved gaps (pos + 1 + w.length) := by
      have hplace : pos + 1 + w.length = pos + w.length + 1 := by omega
      simp only [moved]
      rw [hplace, inserted, inserted_add hempty]
      omega
    have hread := nextToken?_of_follows hnext (follows_respace hgaps.blank (pos + 1 + w.length) rest)
    rw [respaceFrom, lexFrom_blanks (hgaps.blank pos), hplace, htoken, lexFrom_token (by simpa using hc) hread,
      List.drop_left, ih hls' (hgaps.of_token (l := ⟨pos, token⟩)) hmoved]
    rfl

/-- Blanks between the lexemes of a text move them by the number of characters in front, and change nothing else. -/
theorem lex_respace {src : String} (h : lex src = .ok ls) (hgaps : Gaps gaps 0 src.toList ls) :
    lex (respace gaps src) = .ok (ls.map (Lexeme.move (moved gaps))) := by
  rw [lex, respace, String.toList_ofList]
  exact lexFrom_respaceFrom h hgaps (by simp [moved, inserted])

end LayoutEquations
