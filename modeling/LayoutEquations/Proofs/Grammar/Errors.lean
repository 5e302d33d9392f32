import LayoutEquations.Proofs.Grammar.Completeness
import LayoutEquations.Proofs.Grammar.Parentheses
import LayoutEquations.Proofs.Grammar.Soundness

/-!
# Where reading fails

A reading function that fails blames a place. Either what it read up to there can still be continued to what it was
looking for, with something else at this place; or the place is that of a `(`, and no `)` for it comes before the end
mark. `Blames P c err` says so of the error `err` that a function looking for `P` gives at `c`. Each function has one
lemma, and the errors of its parts are its own errors with more in front (`Blames.prepend`). Only the end of the
equation blames a `)`, where a whole equation is in front of it (`equation_error`).
-/

namespace LayoutEquations.Grammar

variable {P : List Lexeme → Prop} {ls : List Lexeme}

/-! ## What can be continued -/

/-- The lexemes can be continued to what satisfies `P`. -/
def Viable (P : List Lexeme → Prop) (ls : List Lexeme) : Prop := ∃ rest, P (ls ++ rest)

theorem viable_self (h : P ls) : Viable P ls := ⟨[], by rwa [List.append_nil]⟩

theorem Viable.of_append {ms : List Lexeme} (h : Viable P (ls ++ ms)) : Viable P ls := by
  obtain ⟨rest, hrest⟩ := h
  exact ⟨ms ++ rest, by rwa [← List.append_assoc]⟩

theorem signed_one : Signed .one [⟨0, .number .one⟩] := .plain 0 .one

theorem ofWord?_width : AttributeName.ofWord? "width" = some (.primitive .width) := by decide

/-- What a root is followed by where there are attributes. -/
def DottedAttributes (ls : List Lexeme) : Prop := ∃ words as, as ≠ [] ∧ Dotted words as ls

theorem DottedAttributes.head (h : DottedAttributes ls) : ls.head?.map Lexeme.token = some .dot := by
  obtain ⟨words, as, hne, h⟩ := h
  cases h with
  | nothing => exact absurd rfl hne
  | single p q hword => rfl
  | list p h => rfl
  | segment p q hword h => rfl

theorem dotted_width : DottedAttributes [⟨0, .dot⟩, ⟨0, .identifier "width"⟩] :=
  ⟨[], [.primitive .width], by simp, .single 0 0 ofWord?_width⟩

def Attributed (ls : List Lexeme) : Prop := ∃ view as, as ≠ [] ∧ Operand view as ls

theorem attributed_of_root {root : ViewRef} {t : Token} {xs : List Lexeme} (p q : Nat) (hroot : Root root t)
    (h : DottedAttributes xs) : Attributed (⟨p, .dollar⟩ :: ⟨q, t⟩ :: xs) := by
  obtain ⟨words, as, hne, hs⟩ := h
  exact ⟨_, as, hne, .intro p q hroot hs⟩

theorem viable_attributed : Viable Attributed [] := ⟨_, attributed_of_root 0 0 .self dotted_width⟩

theorem Dotted.width {words : List String} {as : List AttributeName} (h : Dotted words as ls) (has : as = []) :
    DottedAttributes (ls ++ [⟨0, .dot⟩, ⟨0, .identifier "width"⟩]) := by
  induction h with
  | nothing => exact dotted_width
  | single p q h => cases has
  | list p h => exact absurd has h.ne_nil
  | segment p q hword h ih =>
    have hhead := (ih has).head
    obtain ⟨words', as', hne, hs⟩ := ih has
    exact ⟨_, as', hne, .segment p q (.inr hhead) hs⟩

theorem viable_of_operand {view : ViewPath} {as : List AttributeName} (h : Operand view as ls) :
    Viable Attributed ls := by
  by_cases has : as = []
  · cases h with
    | intro p q hroot h => exact ⟨_, attributed_of_root p q hroot (h.width has)⟩
  · exact viable_self ⟨view, as, has, h⟩

theorem viable_equation {view : ViewPath} {attributes : List AttributeName} {r : Relation} {n : Nat} {t : RightTerm}
    {ps rs : List Lexeme} (p : Nat) (h : Operand view attributes ls) (hne : attributes ≠ []) (hp : Priority n ps)
    (hr : Right t rs) : Viable (fun ls => ∃ e, Derives e ls) (ls ++ ⟨p, .relation r⟩ :: (ps ++ rs)) := by
  refine ⟨[⟨0, .eof⟩], ⟨⟨view, attributes⟩, r, n, t⟩, ?_⟩
  rw [List.append_assoc, List.cons_append, List.append_assoc]
  exact .intro p 0 h hne hp hr

end LayoutEquations.Grammar

namespace LayoutEquations.Cursor

open Grammar

variable {P Q : List Lexeme → Prop} {c d : Cursor} {err : ParseError} {ls : List Lexeme} {opened : Nat}

/-! ## Blame -/

/-- The error is about the token at this place. -/
inductive At (c : Cursor) : ParseError → Prop
  | expected (wanted : Wanted) : At c (c.expected wanted)
  | multiplierAfterConstant : At c (.multiplierAfterConstant c.pos)
  | priorityOutOfRange (x : Number) : At c (.priorityOutOfRange x c.pos)

/-- From here to the end mark, parentheses come in pairs. -/
def Level (c : Cursor) : Prop := ∃ ls p, c.lexemes = ls ++ [⟨p, .eof⟩] ∧ Balanced ls

theorem Level.prepend (h : d.Level) (hls : Balanced ls) : (d.prepend ls).Level := by
  obtain ⟨ms, p, hd, hms⟩ := h
  exact ⟨ls ++ ms, p, by rw [lexemes_prepend, hd, List.append_assoc], hls.append hms⟩

theorem Closed.level (hc : c.Closed) (ht : c.token = .eof) : c.Level := by
  obtain ⟨p, rfl⟩ := hc.eq_eof ht
  exact ⟨[], p, rfl, .nil⟩

/-- Looking for `P` at `c` fails with this error: at a place behind lexemes that can be continued to `P`, or at a `(`
that is not closed. -/
inductive Blames (P : List Lexeme → Prop) (c : Cursor) : ParseError → Prop
  | token {d : Cursor} {err : ParseError} (ls : List Lexeme) (hc : c = d.prepend ls) (hls : Viable P ls)
      (herr : At d err) : Blames P c err
  | opened {d : Cursor} (ls : List Lexeme) (p : Nat) (hc : c = d.prepend (ls ++ [⟨p, .openParen⟩])) (hd : d.Level) :
      Blames P c (.unbalancedParen p)

/-- The same behind the `(` at offset `opened`. -/
def BlamesWithin (P : List Lexeme → Prop) (opened : Nat) (c : Cursor) (err : ParseError) : Prop :=
  err = .unbalancedParen opened ∧ c.Level ∨ Blames P c err

theorem Blames.here (hP : Viable P []) (herr : At c err) : Blames P c err := .token [] rfl hP herr

/-- The error of a part is the error of the whole. -/
theorem Blames.prepend (h : Blames P d err) (ls : List Lexeme) (hPQ : ∀ xs, P xs → Viable Q (ls ++ xs)) :
    Blames Q (d.prepend ls) err := by
  cases h with
  | token ms hd hms herr =>
    obtain ⟨rest, hrest⟩ := hms
    obtain ⟨rest', hrest'⟩ := hPQ _ hrest
    exact .token (ls ++ ms) (by rw [hd, prepend_append]) ⟨rest ++ rest', by simpa using hrest'⟩ herr
  | opened ms p hd hlevel => exact .opened (ls ++ ms) p (by rw [hd, List.append_assoc, prepend_append ls]) hlevel

theorem Blames.mono (h : Blames P c err) (hPQ : ∀ xs, P xs → Viable Q xs) : Blames Q c err :=
  h.prepend [] hPQ

theorem BlamesWithin.prepend (h : BlamesWithin P opened d err) (hls : Balanced ls)
    (hPQ : ∀ xs, P xs → Viable Q (ls ++ xs)) : BlamesWithin Q opened (d.prepend ls) err := by
  rcases h with ⟨rfl, hlevel⟩ | hblames
  · exact .inl ⟨rfl, hlevel.prepend hls⟩
  · exact .inr (hblames.prepend ls hPQ)

theorem BlamesWithin.blames (h : BlamesWithin P opened d err)
    (hPQ : ∀ xs, P xs → Viable Q (⟨opened, .openParen⟩ :: xs)) : Blames Q (d.prepend [⟨opened, .openParen⟩]) err := by
  rcases h with ⟨rfl, hlevel⟩ | hblames
  · exact .opened [] opened rfl hlevel
  · exact hblames.prepend _ hPQ

theorem BlamesWithin.mono (h : BlamesWithin P opened c err) (hPQ : ∀ xs, P xs → Viable Q xs) :
    BlamesWithin Q opened c err :=
  h.imp_right fun hblames => hblames.mono hPQ

theorem closeParen_error (hc : c.Closed) (hls : Balanced ls) (h : c.closeParen opened = .error err) :
    BlamesWithin (· = ls) opened (c.prepend ls) err := by
  unfold closeParen at h
  split at h
  · cases h
  · next ht =>
    cases h
    exact .inl ⟨rfl, (hc.level ht).prepend hls⟩
  · cases h
    exact .inr (.token ls rfl (viable_self rfl) (.expected _))

theorem signedNumber_error {wanted : Wanted} (h : c.signedNumber wanted = .error err) : At c err := by
  unfold signedNumber at h
  split at h
  · cases h
  · cases h
    exact .expected wanted

/-! ## Operands -/

theorem viable_keywords : Viable (fun ls => ∃ as, Separated Keyword as ls) [] := ⟨_, _, .one (.intro 0 ofWord?_width)⟩

theorem attributeNames_error (hc : c.Closed) (h : attributeNames opened c = .error err) :
    BlamesWithin (fun ls => ∃ as, Separated Keyword as ls) opened c err := by
  fun_induction attributeNames opened c with
  | case1 c word ht hword =>
    cases h
    exact .inr (.here viable_keywords (.expected _))
  | case2 c word ht a hword hcomma ih =>
    obtain ⟨p, c, rfl⟩ := hc.exists_prepend ht (by simp)
    obtain ⟨q, c, rfl⟩ := hc.of_prepend.exists_prepend hcomma (by simp)
    have herror := error_of_bind h fun _ => ⟨_, rfl⟩
    have hitem : Balanced [⟨p, .identifier word⟩, ⟨q, .comma⟩] :=
      .token (by simp) (by simp) (balanced_singleton (by simp) (by simp))
    refine (ih hc.of_prepend.of_prepend herror).prepend hitem ?_
    rintro xs ⟨as, hs⟩
    exact viable_self ⟨a :: as, .more q (.intro p hword) hs⟩
  | case3 c word ht a hword hcomma =>
    obtain ⟨p, c, rfl⟩ := hc.exists_prepend ht (by simp)
    have herror := error_of_bind h fun _ => ⟨_, rfl⟩
    have hkeyword : Keyword a [⟨p, .identifier word⟩] := .intro p hword
    refine (closeParen_error hc.of_prepend hkeyword.balanced herror).mono ?_
    rintro xs rfl
    exact viable_self ⟨[a], .one hkeyword⟩
  | case4 c ht =>
    cases h
    exact .inl ⟨rfl, hc.level ht⟩
  | case5 c hword ht =>
    cases h
    exact .inr (.here viable_keywords (.expected _))

theorem attributeList_error (hc : c.Closed) (ht : c.token = .openParen) (h : c.attributeList = .error err) :
    Blames (fun ls => ∃ as, Parenthesized Keyword as ls) c err := by
  obtain ⟨p, c, rfl⟩ := hc.exists_prepend ht (by simp)
  refine (attributeNames_error hc.of_prepend h).blames ?_
  rintro xs ⟨as, hs⟩
  exact ⟨[⟨0, .closeParen⟩], as, .intro p 0 hs⟩

theorem segments_error (hc : c.Closed) (h : c.segments = .error err) : Blames DottedAttributes c err := by
  fun_induction segments c with
  | case1 c ht hnext =>
    obtain ⟨p, c, rfl⟩ := hc.exists_prepend ht (by simp)
    have herror := error_of_bind h fun _ => ⟨_, rfl⟩
    refine (attributeList_error hc.of_prepend hnext herror).prepend [⟨p, .dot⟩] ?_
    rintro xs ⟨as, hs⟩
    exact viable_self ⟨[], as, hs.ne_nil, .list p hs⟩
  | case2 c word ht hnext a hdot hword => cases h
  | case3 c word ht hnext hword ih =>
    obtain ⟨p, c, rfl⟩ := hc.exists_prepend ht (by simp)
    obtain ⟨q, c, rfl⟩ := hc.of_prepend.exists_prepend hnext (by simp)
    have herror := error_of_bind h fun _ => ⟨_, rfl⟩
    refine (ih hc.of_prepend.of_prepend herror).prepend [⟨p, .dot⟩, ⟨q, .identifier word⟩] fun xs hxs => ?_
    -- the word may be an attribute name: it is a segment all the same, since what is to follow starts with a dot
    have hhead := hxs.head
    obtain ⟨words, as, hne, hs⟩ := hxs
    exact viable_self ⟨word :: words, as, hne, .segment p q (.inr hhead) hs⟩
  | case4 c ht hopen hword =>
    obtain ⟨p, c, rfl⟩ := hc.exists_prepend ht (by simp)
    cases h
    have hviable : Viable DottedAttributes [⟨p, .dot⟩] :=
      ⟨_, [], [.primitive .width], by simp, .single p 0 ofWord?_width⟩
    exact .token _ rfl hviable (.expected _)
  | case5 c ht hopen hword => cases h

theorem operand_error (hc : c.Closed) (ht : c.token = .dollar) (h : c.operand = .error err) :
    Blames Attributed c err := by
  obtain ⟨p, c, rfl⟩ := hc.exists_prepend ht (by simp)
  unfold operand at h
  split at h
  · cases h
    have hviable : Viable Attributed [⟨p, .dollar⟩] := ⟨_, attributed_of_root p 0 .self dotted_width⟩
    exact .token _ rfl hviable (.expected _)
  · next root hroot =>
    obtain ⟨q, t, c, rfl, hderived⟩ := hc.of_prepend.exists_root hroot
    have herror := error_of_bind h fun _ => ⟨_, rfl⟩
    exact (segments_error hc.of_prepend.of_prepend herror).prepend [⟨p, .dollar⟩, ⟨q, t⟩] fun xs hxs =>
      viable_self (attributed_of_root p q hderived hxs)

/-! ## The left side and the relation -/

theorem leftTerm_error (hc : c.Closed) (h : c.leftTerm = .error err) : Blames Attributed c err := by
  unfold leftTerm at h
  split at h
  · next ht =>
    rcases bind_eq_error.1 h with herror | ⟨⟨⟨view, as⟩, d⟩, hoperand, h⟩
    · exact operand_error hc ht herror
    · dsimp only at h
      split_ifs at h with has
      cases h
      obtain ⟨ls, rfl, hs⟩ := operand_sound hc ht hoperand
      exact .token ls rfl (viable_of_operand hs) (.expected _)
  · cases h
    exact .here viable_attributed (.expected _)

theorem relation_error (h : c.relation = .error err) : At c err := by
  unfold relation at h
  split at h <;> cases h
  · exact .expected _
  · exact .expected _

theorem priority_error (hc : c.Closed) (h : c.priority = .error err) :
    Blames (fun ls => ∃ n, Priority n ls) c err := by
  unfold priority at h
  split at h
  · next ht hnext =>
    obtain ⟨p, c, rfl⟩ := hc.exists_prepend ht (by simp)
    obtain ⟨q, c, rfl⟩ := hc.of_prepend.exists_prepend hnext (by simp)
    have hone : Priority 1 (⟨p, .openParen⟩ :: ⟨q, .atSign⟩ :: ([⟨0, .number .one⟩] ++ [⟨0, .closeParen⟩])) :=
      .clause p q 0 signed_one (by decide +kernel) (by decide)
    have hviable : Viable (fun ls => ∃ n, Priority n ls) [⟨p, .openParen⟩, ⟨q, .atSign⟩] := ⟨_, 1, hone⟩
    rcases bind_eq_error.1 h with herror | ⟨⟨x, d⟩, hsigned, h⟩
    · exact .token [⟨p, .openParen⟩, ⟨q, .atSign⟩] rfl hviable (signedNumber_error herror)
    obtain ⟨ls, hd, hs⟩ := signedNumber_sound hc.of_prepend.of_prepend hsigned
    obtain rfl : c = prepend ls d := hd
    dsimp only at h
    split at h
    · cases h
      exact .token [⟨p, .openParen⟩, ⟨q, .atSign⟩] rfl hviable (.priorityOutOfRange x)
    · next n hn =>
      obtain ⟨hx, hrange⟩ := range_of_priorityOf? hn
      have herror := error_of_bind h fun _ => ⟨_, rfl⟩
      have hinner : Balanced (⟨q, .atSign⟩ :: ls) := .token (by simp) (by simp) hs.balanced
      refine (closeParen_error hc.of_prepend.of_prepend.of_prepend hinner herror).blames ?_
      rintro xs rfl
      exact ⟨[⟨0, .closeParen⟩], n, .clause p q 0 hs hx hrange⟩
  · cases h

/-! ## Constants -/

theorem viable_entries : Viable (fun ls => ∃ cs, Separated Entry cs ls) [] := ⟨_, _, .one (.skip 0)⟩

theorem constantEntries_error (hc : c.Closed) (h : constantEntries opened c = .error err) :
    BlamesWithin (fun ls => ∃ cs, Separated Entry cs ls) opened c err := by
  fun_induction constantEntries opened c with
  | case1 c entry d hentry hcomma ih =>
    obtain ⟨ls, rfl, hs⟩ := constantEntry?_sound hc hentry
    obtain ⟨p, d, rfl⟩ := hc.of_prepend.exists_prepend hcomma (by simp)
    have herror := error_of_bind h fun _ => ⟨_, rfl⟩
    have hitem : Balanced (ls ++ [⟨p, .comma⟩]) := hs.balanced.append (balanced_singleton (by simp) (by simp))
    rw [← prepend_append]
    refine (ih hc.of_prepend.of_prepend herror).prepend hitem ?_
    rintro xs ⟨cs, hcs⟩
    rw [List.append_assoc]
    exact viable_self ⟨entry :: cs, .more p hs hcs⟩
  | case2 c entry d hentry hcomma =>
    obtain ⟨ls, rfl, hs⟩ := constantEntry?_sound hc hentry
    have herror := error_of_bind h fun _ => ⟨_, rfl⟩
    refine (closeParen_error hc.of_prepend hs.balanced herror).mono ?_
    rintro xs rfl
    exact viable_self ⟨[entry], .one hs⟩
  | case3 c hentry ht =>
    cases h
    exact .inl ⟨rfl, hc.level ht⟩
  | case4 c hentry ht =>
    cases h
    exact .inr (.here viable_entries (.expected _))

theorem constantList_error (hc : c.Closed) (ht : c.token = .openParen) (h : c.constantList = .error err) :
    Blames (fun ls => ∃ cs, Parenthesized Entry cs ls) c err := by
  obtain ⟨p, c, rfl⟩ := hc.exists_prepend ht (by simp)
  refine (constantEntries_error hc.of_prepend h).blames ?_
  rintro xs ⟨cs, hs⟩
  exact ⟨[⟨0, .closeParen⟩], cs, .intro p 0 hs⟩

theorem endConstants_error {t : RightTerm} (h : endConstants t c = .error err) : At c err := by
  unfold endConstants at h
  split at h
  · cases h
    exact .multiplierAfterConstant
  · cases h

theorem viable_constants : Viable (fun ls => ∃ cs, Constants cs ls) [] := ⟨_, _, .number signed_one⟩

theorem clauseConstants_error (hc : c.Closed) (h : c.clauseConstants = .error err) :
    Blames (fun ls => ∃ cs, Constants cs ls) c err := by
  unfold clauseConstants at h
  split at h
  · next ht =>
    exact (constantList_error hc ht h).mono fun xs ⟨cs, hs⟩ => viable_self ⟨cs, .list hs⟩
  · have herror := error_of_bind h fun _ => ⟨_, rfl⟩
    exact .here viable_constants (signedNumber_error herror)

theorem signedConstants_error {s : Token} {f : List Constant → List Constant} {g : List Constant → RightTerm}
    (hclause : ∀ {p cs ls}, Constants cs ls → Clause (f cs) (⟨p, s⟩ :: ls)) {p : Nat} (hc : c.Closed)
    (h : (c.clauseConstants >>= fun r => endConstants (g r.1) r.2) = .error err) :
    Blames (fun ls => ∃ cs, Clause cs ls) (c.prepend [⟨p, s⟩]) err := by
  rcases bind_eq_error.1 h with herror | ⟨⟨cs, d⟩, hconstants, hend⟩
  · exact (clauseConstants_error hc herror).prepend [⟨p, s⟩] fun xs ⟨cs, hs⟩ => viable_self ⟨f cs, hclause hs⟩
  · obtain ⟨ls, rfl, hs⟩ := clauseConstants_sound hc hconstants
    exact .token (⟨p, s⟩ :: ls) rfl (viable_self ⟨f cs, hclause hs⟩) (endConstants_error hend)

theorem constantClause_error {t : RightTerm} (hc : c.Closed) (h : constantClause t c = .error err) :
    Blames (fun ls => ∃ cs, Clause cs ls) c err := by
  unfold constantClause at h
  split at h
  · next ht =>
    obtain ⟨p, c, rfl⟩ := hc.exists_prepend ht (by simp)
    exact signedConstants_error (fun hs => .plus _ hs) hc.of_prepend h
  · next ht =>
    obtain ⟨p, c, rfl⟩ := hc.exists_prepend ht (by simp)
    exact signedConstants_error (g := fun cs => { t with constants := cs.map Constant.neg }) (fun hs => .minus _ hs)
      hc.of_prepend h
  · cases h
    exact .here ⟨[], _, .absent⟩ (.expected _)
  · cases h

/-! ## Right sides and equations -/

theorem viewTerm_error (hc : c.Closed) (ht : c.token = .dollar) (h : c.viewTerm = .error err) :
    Blames (fun ls => ∃ t, Right t ls) c err := by
  rcases bind_eq_error.1 h with herror | ⟨⟨⟨view, attributes⟩, d⟩, hoperand, htail⟩
  · refine (operand_error hc ht herror).mono ?_
    rintro xs ⟨view, as, -, hs⟩
    exact ⟨[], _, .plain hs .absent⟩
  obtain ⟨ls, rfl, hs⟩ := operand_sound hc ht hoperand
  dsimp only at htail
  split at htail
  · next hstar =>
    obtain ⟨p, d, rfl⟩ := hc.of_prepend.exists_prepend hstar (by simp)
    rcases bind_eq_error.1 htail with herror | ⟨⟨multiplier, e⟩, hsigned, hend⟩
    · have hviable : Viable (fun ls => ∃ t, Right t ls) (ls ++ [⟨p, .star⟩]) :=
        ⟨[⟨0, .number .one⟩], _, by simpa using Right.after p hs signed_one .absent⟩
      exact .token _ (prepend_append ls _ d).symm hviable (signedNumber_error herror)
    · obtain ⟨ms, hd, hm⟩ := signedNumber_sound hc.of_prepend.of_prepend hsigned
      obtain rfl : d = prepend ms e := hd
      have hclause := constantClause_error hc.of_prepend.of_prepend.of_prepend hend
      have hplace : ((e.prepend ms).prepend [⟨p, .star⟩]).prepend ls = e.prepend (ls ++ ⟨p, .star⟩ :: ms) := by
        rw [prepend_append]
        rfl
      rw [hplace]
      refine hclause.prepend _ ?_
      rintro xs ⟨cs, hcs⟩
      rw [List.append_assoc]
      exact viable_self ⟨_, .after p hs hm hcs⟩
  · exact (constantClause_error hc.of_prepend htail).prepend ls fun xs ⟨cs, hcs⟩ => viable_self ⟨_, .plain hs hcs⟩

theorem scaledTerm_error {x : Number} (hm : Signed x ls) (hc : c.Closed) (ht : c.token = .openParen)
    (h : c.scaledTerm x = .error err) : Blames (fun ms => ∃ t, Right t (ls ++ ms)) c err := by
  obtain ⟨p, c, rfl⟩ := hc.exists_prepend ht (by simp)
  have hoperand : ∀ {view as ms}, Operand view as ms →
      Viable (fun ms => ∃ t, Right t (ls ++ ms)) (⟨p, .openParen⟩ :: ms) :=
    fun hs => ⟨[⟨0, .closeParen⟩], _, .before p 0 hm hs .absent⟩
  unfold scaledTerm at h
  split at h
  · next hdollar =>
    rcases bind_eq_error.1 h with herror | ⟨⟨⟨view, attributes⟩, d⟩, hread, htail⟩
    · exact (operand_error hc.of_prepend hdollar herror).prepend [⟨p, .openParen⟩] fun xs ⟨_, _, _, hs⟩ => hoperand hs
    obtain ⟨ms, hd, hs⟩ := operand_sound hc.of_prepend hdollar hread
    obtain rfl : c = prepend ms d := hd
    rcases bind_eq_error.1 htail with herror | ⟨e, hclose, hend⟩
    · refine (closeParen_error hc.of_prepend.of_prepend hs.balanced herror).blames ?_
      rintro xs rfl
      exact hoperand hs
    · obtain ⟨q, rfl⟩ := closeParen_sound hc.of_prepend.of_prepend hclose
      have hclause := constantClause_error hc.of_prepend.of_prepend.of_prepend hend
      have hplace : ((e.prepend [⟨q, .closeParen⟩]).prepend ms).prepend [⟨p, .openParen⟩] =
          e.prepend (⟨p, .openParen⟩ :: (ms ++ [⟨q, .closeParen⟩])) := by
        rw [← prepend_append ms]
        rfl
      rw [hplace]
      refine hclause.prepend _ ?_
      rintro xs ⟨cs, hcs⟩
      rw [List.cons_append, List.append_assoc]
      exact viable_self ⟨_, .before p q hm hs hcs⟩
  · cases h
    obtain ⟨rest, view, as, -, hs⟩ := viable_attributed
    obtain ⟨rest', hviable⟩ := hoperand hs
    exact .token [⟨p, .openParen⟩] rfl ⟨rest ++ rest', hviable⟩ (.expected _)

theorem rightTerm_error (hc : c.Closed) (h : c.rightTerm = .error err) : Blames (fun ls => ∃ t, Right t ls) c err := by
  unfold rightTerm at h
  split at h
  · next ht => exact viewTerm_error hc ht h
  · next x d hsigned _ =>
    obtain ⟨ms, rfl, hm⟩ := signedNumber?_sound hc hsigned
    split at h
    · next hopen =>
      exact (scaledTerm_error hm hc.of_prepend hopen h).prepend ms fun xs hxs => viable_self hxs
    · exact .token ms rfl (viable_self ⟨_, .constant (.number hm)⟩) (endConstants_error h)
  · next ht _ =>
    rcases bind_eq_error.1 h with herror | ⟨⟨constants, d⟩, hlist, hend⟩
    · exact (constantList_error hc ht herror).mono fun xs ⟨cs, hs⟩ => viable_self ⟨_, .constant (.list hs)⟩
    · obtain ⟨ls, rfl, hs⟩ := constantList_sound hc ht hlist
      exact .token ls rfl (viable_self ⟨_, .constant (.list hs)⟩) (endConstants_error hend)
  · cases h
    exact .here ⟨_, _, .constant (.number signed_one)⟩ (.expected _)

theorem endEquation_error (h : c.endEquation = .error err) :
    At c err ∨ c.token = .closeParen ∧ err = .unbalancedParen c.pos := by
  unfold endEquation at h
  split at h
  · cases h
  · next ht =>
    cases h
    exact .inr ⟨ht, rfl⟩
  · cases h
    exact .inl (.expected _)

/-- An equation fails at a token that does not fit, at a `(` that is not closed, or at a `)` behind all of it. -/
theorem equation_error (hc : c.Closed) (h : c.equation = .error err) :
    Blames (fun ls => ∃ e, Derives e ls) c err ∨
      ∃ (ls : List Lexeme) (p : Nat) (d : Cursor), c = d.prepend (ls ++ [⟨p, .closeParen⟩]) ∧ Balanced ls ∧
        err = .unbalancedParen p := by
  -- what was read up to each stage is completed by the stages behind it, in their shortest forms
  have hone : Right { view := none, constants := [.value .one] } [⟨0, .number .one⟩] := .constant (.number signed_one)
  rcases bind_eq_error.1 h with herror | ⟨⟨left, c₁⟩, hleft, h₁⟩
  · refine .inl ((leftTerm_error hc herror).mono ?_)
    rintro xs ⟨view, as, hne, hs⟩
    exact (viable_equation (r := .equal) 0 hs hne .absent hone).of_append
  obtain ⟨ls, rfl, hs, hne⟩ := leftTerm_sound hc hleft
  rcases bind_eq_error.1 h₁ with herror | ⟨⟨r, c₂⟩, hrelation, h₂⟩
  · exact .inl (.token ls rfl (viable_equation (r := .equal) 0 hs hne .absent hone).of_append (relation_error herror))
  obtain ⟨p, rfl⟩ := relation_sound hc.of_prepend hrelation
  rcases bind_eq_error.1 h₂ with herror | ⟨⟨n, c₃⟩, hpriority, h₃⟩
  · rw [← prepend_append]
    refine .inl ((priority_error hc.of_prepend.of_prepend herror).prepend _ ?_)
    rintro xs ⟨n, hp⟩
    have hviable := viable_equation (r := r) p hs hne hp hone
    rw [← List.cons_append, ← List.append_assoc] at hviable
    simpa using hviable.of_append
  obtain ⟨ps, rfl, hp⟩ := priority_sound hc.of_prepend.of_prepend hpriority
  rcases bind_eq_error.1 h₃ with herror | ⟨⟨right, c₄⟩, hright, h₄⟩
  · rw [← prepend_append, ← prepend_append]
    refine .inl ((rightTerm_error hc.of_prepend.of_prepend.of_prepend herror).prepend _ ?_)
    rintro xs ⟨t, hr⟩
    have hviable := viable_equation (r := r) p hs hne hp hr
    simpa using hviable
  obtain ⟨rs, rfl, hr⟩ := rightTerm_sound hc.of_prepend.of_prepend.of_prepend hright
  have hplace : (((c₄.prepend rs).prepend ps).prepend [⟨p, .relation r⟩]).prepend ls =
      c₄.prepend (ls ++ ⟨p, .relation r⟩ :: (ps ++ rs)) := by
    rw [prepend_append ls, ← prepend_append ps]
    rfl
  rw [hplace]
  have herror := error_of_bind h₄ fun _ => ⟨_, rfl⟩
  rcases endEquation_error herror with hat | ⟨ht, rfl⟩
  · exact .inl (.token _ rfl (viable_equation p hs hne hp hr) hat)
  · have hbalanced : Balanced (ls ++ ⟨p, .relation r⟩ :: (ps ++ rs)) :=
      hs.balanced.append (.token (by simp) (by simp) (hp.balanced.append hr.balanced))
    obtain ⟨q, d, rfl⟩ := hc.of_prepend.of_prepend.of_prepend.of_prepend.exists_prepend ht (by simp)
    exact .inr ⟨_, q, d, by rw [prepend_append _ [_]], hbalanced, rfl⟩

end LayoutEquations.Cursor
