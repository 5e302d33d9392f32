import LayoutEquations.Proofs.Equation.Offsets
import LayoutEquations.Proofs.Grammar.Cursor

/-!
# Reading by index

A cursor cannot leave its list. Here is the same reading with an index into the list and with everything that could go
wrong (`Fault`): the index of the last lexeme is a difference, every access to a lexeme is checked, and the loops may go
around as often as the list is long. The two readings simulate each other (`equation_sim`), so none of the faults occurs
(`read_eq`).

An index and a cursor are the same place (`At`) when the same lexemes follow, up to an end mark at which the lexemes of
the cursor may stop: neither reading passes an end mark or looks behind it. So the simulation holds between a list and
what is left of it when it is cut behind an end mark.
-/

namespace LayoutEquations.ByIndex

/-- What must not happen while lexemes are read by index. -/
inductive Fault where
  /-- The index of the last lexeme of an empty list. -/
  | underflow
  | outOfRange
  /-- A loop that has gone around more often than the list is long. -/
  | endless
deriving DecidableEq

inductive Stop where
  | refused (e : ParseError)
  | fault (f : Fault)
deriving DecidableEq

variable {α β : Type}

/-! ## Access -/

section
variable (ls : List Lexeme)

def lastIndex : Except Stop Nat :=
  if ls.length < 1 then .error (.fault .underflow) else .ok (ls.length - 1)

def get (i : Nat) : Except Stop Lexeme :=
  match ls[i]? with
  | some l => .ok l
  | none => .error (.fault .outOfRange)

/-- The lexeme `k` places after the current one, the last one if there are not that many. -/
def lookAt (i k : Nat) : Except Stop Lexeme := do
  let last ← lastIndex ls
  get ls (min (i + k) last)

def peek (i : Nat) : Except Stop Token := do
  let l ← lookAt ls i 0
  .ok l.token

def peekNext (i : Nat) : Except Stop Token := do
  let l ← lookAt ls i 1
  .ok l.token

def offset (i : Nat) : Except Stop Nat := do
  let l ← lookAt ls i 0
  .ok l.pos

/-- The next index; the last lexeme is followed by itself. -/
def advance (i : Nat) : Except Stop Nat := do
  let last ← lastIndex ls
  let _ ← get ls (min i last)
  .ok (if i < last then i + 1 else i)

/-! ## The reading functions -/

def refuse (wanted : Wanted) (i : Nat) : Except Stop α := do
  let found ← peek ls i
  let pos ← offset ls i
  .error (.refused (.expected wanted found pos))

def closeParen (opened i : Nat) : Except Stop Nat := do
  match ← peek ls i with
  | .closeParen => advance ls i
  | .eof => .error (.refused (.unbalancedParen opened))
  | _ => refuse ls .closeParen i

/-- Passes a detached sign that a number follows; is it a minus? -/
def detachedSign (i : Nat) : Except Stop (Bool × Nat) := do
  match ← peek ls i with
  | .minus => match ← peekNext ls i with
    | .number _ => do
      let i ← advance ls i
      .ok (true, i)
    | _ => .ok (false, i)
  | .plus => match ← peekNext ls i with
    | .number _ => do
      let i ← advance ls i
      .ok (false, i)
    | _ => .ok (false, i)
  | _ => .ok (false, i)

def signedNumber (wanted : Wanted) (i : Nat) : Except Stop (Number × Nat) := do
  let (negate, i) ← detachedSign ls i
  match ← peek ls i with
  | .number x => do
    let i ← advance ls i
    .ok (if negate then -x else x, i)
  | _ => refuse ls wanted i

def startsNumber (i : Nat) : Except Stop Bool := do
  match ← peek ls i with
  | .number _ => .ok true
  | .minus | .plus => match ← peekNext ls i with
    | .number _ => .ok true
    | _ => .ok false
  | _ => .ok false

def attributeNames (opened : Nat) : Nat → Nat → Except Stop (List AttributeName × Nat)
  | 0, _ => .error (.fault .endless)
  | rounds + 1, i => do
    match ← peek ls i with
    | .identifier word => match AttributeName.ofWord? word with
      | none => refuse ls .attributeName i
      | some a => do
        let i ← advance ls i
        match ← peek ls i with
        | .comma => do
          let i ← advance ls i
          let (as, i) ← attributeNames opened rounds i
          .ok (a :: as, i)
        | _ => do
          let i ← closeParen ls opened i
          .ok ([a], i)
    | .eof => .error (.refused (.unbalancedParen opened))
    | _ => refuse ls .attributeName i

def attributeList (i : Nat) : Except Stop (List AttributeName × Nat) := do
  let opened ← offset ls i
  let i ← advance ls i
  attributeNames ls opened ls.length i

def segments : Nat → Nat → Except Stop ((List String × List AttributeName) × Nat)
  | 0, _ => .error (.fault .endless)
  | rounds + 1, i => do
    match ← peek ls i with
    | .dot => match ← peekNext ls i with
      | .openParen => do
        let i ← advance ls i
        let (as, i) ← attributeList ls i
        .ok (([], as), i)
      | .identifier word => do
        let i ← advance ls i
        let next ← peekNext ls i
        let i ← advance ls i
        match AttributeName.ofWord? word, next == .dot with
        | some a, false => .ok (([], [a]), i)
        | _, _ => do
          let ((words, as), i) ← segments rounds i
          .ok ((word :: words, as), i)
      | _ => do
        let i ← advance ls i
        refuse ls .segment i
    | _ => .ok (([], []), i)

def operand (i : Nat) : Except Stop ((ViewPath × List AttributeName) × Nat) := do
  let start ← offset ls i
  let i ← advance ls i
  match Cursor.rootOf? (← peek ls i) with
  | none => refuse ls .viewRoot i
  | some root => do
    let i ← advance ls i
    let ((words, as), i) ← segments ls ls.length i
    .ok ((⟨root, words, start⟩, as), i)

def leftTerm (i : Nat) : Except Stop (LeftTerm × Nat) := do
  match ← peek ls i with
  | .dollar => do
    let ((view, as), i) ← operand ls i
    if as = [] then refuse ls .attributes i else .ok (⟨view, as⟩, i)
  | _ => refuse ls .viewReference i

def relation (i : Nat) : Except Stop (Relation × Nat) := do
  match ← peek ls i with
  | .relation r => do
    let i ← advance ls i
    .ok (r, i)
  | .star => refuse ls .relationBeforeMultiplier i
  | _ => refuse ls .relation i

def priority (i : Nat) : Except Stop (Nat × Nat) := do
  match ← peek ls i with
  | .openParen => match ← peekNext ls i with
    | .atSign => do
      let opened ← offset ls i
      let i ← advance ls i
      let i ← advance ls i
      let start ← offset ls i
      let (x, i) ← signedNumber ls .priority i
      match Cursor.priorityOf? x with
      | none => .error (.refused (.priorityOutOfRange x start))
      | some n => do
        let i ← closeParen ls opened i
        .ok (n, i)
    | _ => .ok (requiredPriority, i)
  | _ => .ok (requiredPriority, i)

def constantEntry (opened i : Nat) : Except Stop (Constant × Nat) := do
  match ← peek ls i with
  | .dash => do
    let i ← advance ls i
    .ok (.skip, i)
  | .eof => .error (.refused (.unbalancedParen opened))
  | _ => do
    let (x, i) ← signedNumber ls .constantOrSkip i
    .ok (.value x, i)

def constantEntries (opened : Nat) : Nat → Nat → Except Stop (List Constant × Nat)
  | 0, _ => .error (.fault .endless)
  | rounds + 1, i => do
    let (entry, i) ← constantEntry ls opened i
    match ← peek ls i with
    | .comma => do
      let i ← advance ls i
      let (entries, i) ← constantEntries opened rounds i
      .ok (entry :: entries, i)
    | _ => do
      let i ← closeParen ls opened i
      .ok ([entry], i)

def constantList (i : Nat) : Except Stop (List Constant × Nat) := do
  let opened ← offset ls i
  let i ← advance ls i
  constantEntries ls opened ls.length i

def endConstants (t : RightTerm) (i : Nat) : Except Stop (RightTerm × Nat) := do
  match ← peek ls i with
  | .star => do
    let pos ← offset ls i
    .error (.refused (.multiplierAfterConstant pos))
  | _ => .ok (t, i)

def clauseConstants (i : Nat) : Except Stop (List Constant × Nat) := do
  match ← peek ls i with
  | .openParen => constantList ls i
  | _ => do
    let (x, i) ← signedNumber ls .constant i
    .ok ([.value x], i)

def constantClause (t : RightTerm) (i : Nat) : Except Stop (RightTerm × Nat) := do
  match ← peek ls i with
  | .plus => do
    let i ← advance ls i
    let (constants, i) ← clauseConstants ls i
    endConstants ls { t with constants } i
  | .minus => do
    let i ← advance ls i
    let (constants, i) ← clauseConstants ls i
    endConstants ls { t with constants := constants.map Constant.neg } i
  | .star => refuse ls .constantOrEnd i
  | _ => .ok (t, i)

def viewTerm (i : Nat) : Except Stop (RightTerm × Nat) := do
  let ((view, attributes), i) ← operand ls i
  match ← peek ls i with
  | .star => do
    let i ← advance ls i
    let (multiplier, i) ← signedNumber ls .multiplier i
    constantClause ls { view, attributes, multiplier, multiplierPosition := .after } i
  | _ => constantClause ls { view, attributes } i

def scaledTerm (multiplier : Number) (i : Nat) : Except Stop (RightTerm × Nat) := do
  let opened ← offset ls i
  let i ← advance ls i
  match ← peek ls i with
  | .dollar => do
    let ((view, attributes), i) ← operand ls i
    let i ← closeParen ls opened i
    constantClause ls { view, attributes, multiplier, multiplierPosition := .before } i
  | _ => refuse ls .viewReference i

def rightTerm (i : Nat) : Except Stop (RightTerm × Nat) := do
  match ← peek ls i with
  | .dollar => viewTerm ls i
  | token =>
    if ← startsNumber ls i then do
      -- a number starts here, so the wish is never told
      let (x, i) ← signedNumber ls .constant i
      match ← peek ls i with
      | .openParen => scaledTerm ls x i
      | _ => endConstants ls { view := none, attributes := [], constants := [.value x] } i
    else match token with
      | .openParen => do
        let (constants, i) ← constantList ls i
        endConstants ls { view := none, constants } i
      | _ => refuse ls .rightTerm i

def endEquation (i : Nat) : Except Stop Unit := do
  match ← peek ls i with
  | .eof => .ok ()
  | .closeParen => do
    let pos ← offset ls i
    .error (.refused (.unbalancedParen pos))
  | _ => refuse ls .endOfEquation i

def equation (i : Nat) : Except Stop Equation := do
  let (left, i) ← leftTerm ls i
  let (relation, i) ← relation ls i
  let (priority, i) ← priority ls i
  let (right, i) ← rightTerm ls i
  endEquation ls i
  .ok ⟨left, relation, priority, right⟩

def read : Except Stop Equation :=
  if ls.length = 0 then .error (.refused (.expected .equation .eof 0)) else equation ls 0

end

/-! ## The simulation -/

/-- Index and cursor are the same place. What there is more of the list stands behind an end mark, which is the last
lexeme of the cursor. -/
def At (ls : List Lexeme) (i : Nat) (c : Cursor) : Prop :=
  ∃ behind, ls.drop i = c.lexemes ++ behind ∧ (behind = [] ∨ ∃ init l, c.lexemes = init ++ [l] ∧ l.token = .eof)

/-- Both readings stop for the same reason, or both give related results. -/
inductive Sim (R : α → β → Prop) : Except ParseError α → Except Stop β → Prop
  | ok {a : α} {b : β} (h : R a b) : Sim R (.ok a) (.ok b)
  | refused (e : ParseError) : Sim R (.error e) (.error (.refused e))

/-- The same was read, up to the same place. -/
def SamePlace (ls : List Lexeme) (r : α × Cursor) (s : α × Nat) : Prop := r.1 = s.1 ∧ At ls s.2 r.2

theorem Sim.bind {α' β' : Type} {R : α → β → Prop} {S : α' → β' → Prop} {x : Except ParseError α} {y : Except Stop β}
    {k : α → Except ParseError α'} {m : β → Except Stop β'} (h : Sim R x y)
    (hk : ∀ a b, R a b → Sim S (k a) (m b)) : Sim S (x >>= k) (y >>= m) := by
  cases h with
  | ok h => exact hk _ _ h
  | refused e => exact .refused e

variable {ls : List Lexeme} {i : Nat} {c : Cursor}

theorem Sim.bind_read {α' β' : Type} {S : α' → β' → Prop} {x : Except ParseError (α × Cursor)}
    {y : Except Stop (α × Nat)} {k : α × Cursor → Except ParseError α'} {m : α × Nat → Except Stop β'}
    (h : Sim (SamePlace ls) x y) (hk : ∀ a c i, At ls i c → Sim S (k (a, c)) (m (a, i))) :
    Sim S (x >>= k) (y >>= m) := by
  refine h.bind ?_
  rintro ⟨a, c⟩ ⟨a', i⟩ ⟨rfl, hplace⟩
  exact hk a c i hplace

theorem Sim.map_read {x : Except ParseError (α × Cursor)} {y : Except Stop (α × Nat)} (h : Sim (SamePlace ls) x y)
    (f : α → β) : Sim (SamePlace ls) (x >>= fun r => .ok (f r.1, r.2)) (y >>= fun r => .ok (f r.1, r.2)) :=
  h.bind_read fun _ _ _ hplace => .ok ⟨rfl, hplace⟩

theorem Sim.exists_of_ok {y : Except Stop (α × Nat)} {a : α} {c : Cursor} (h : Sim (SamePlace ls) (.ok (a, c)) y) :
    ∃ j, y = .ok (a, j) ∧ At ls j c := by
  obtain @⟨-, ⟨a', j⟩, ⟨rfl, hplace⟩⟩ := h
  exact ⟨j, rfl, hplace⟩

theorem At.length_lt (h : At ls i c) : c.rest.length + i < ls.length := by
  obtain ⟨behind, hdrop, -⟩ := h
  have hlength := congrArg List.length hdrop
  simp only [List.length_drop, List.length_append, Cursor.lexemes, List.length_cons] at hlength
  omega

theorem At.lastIndex_eq (h : At ls i c) : lastIndex ls = .ok (ls.length - 1) := by
  have := h.length_lt
  rw [lastIndex, if_neg (by omega)]

theorem At.get_eq (h : At ls i c) : ls[i]? = some c.current := by
  obtain ⟨behind, hdrop, -⟩ := h
  have hget := congrArg (·[0]?) hdrop
  simpa [Cursor.lexemes] using hget

theorem At.lookAt_zero (h : At ls i c) : lookAt ls i 0 = .ok c.current := by
  have := h.length_lt
  rw [lookAt, h.lastIndex_eq, ok_bind, Nat.add_zero, Nat.min_eq_left (by omega), get, h.get_eq]

@[simp] theorem At.peek_eq (h : At ls i c) : peek ls i = .ok c.token := by
  rw [peek, h.lookAt_zero]
  rfl

@[simp] theorem At.offset_eq (h : At ls i c) : offset ls i = .ok c.pos := by
  rw [offset, h.lookAt_zero]
  rfl

theorem At.advance_or (h : At ls i c) (hne : c.token ≠ .eof) :
    (i + 1 = ls.length ∧ c.advance = c) ∨ (i + 1 < ls.length ∧ At ls (i + 1) c.advance) := by
  obtain ⟨behind, hdrop, hbehind⟩ := h
  have hdrop' : ls.drop (i + 1) = c.rest ++ behind := by
    rw [← List.drop_drop, hdrop]
    rfl
  have hlength := congrArg List.length hdrop
  simp only [List.length_drop, List.length_append, Cursor.lexemes, List.length_cons] at hlength
  obtain ⟨l, rest⟩ := c
  cases rest with
  | nil =>
    have hnil : behind = [] := by
      refine hbehind.resolve_right ?_
      rintro ⟨init, l', hlexemes, heof⟩
      obtain rfl : l = l' := by
        have hlast := congrArg List.getLast? hlexemes
        simpa [Cursor.lexemes] using hlast
      exact hne heof
    subst hnil
    exact .inl ⟨by simp at hlength; omega, rfl⟩
  | cons l' rest =>
    refine .inr ⟨by simp at hlength; omega, behind, hdrop', ?_⟩
    refine hbehind.imp_right ?_
    rintro ⟨init, e, hlexemes, heof⟩
    cases init with
    | nil => simp [Cursor.lexemes] at hlexemes
    | cons l'' init => exact ⟨init, e, (List.cons.inj hlexemes).2, heof⟩

theorem At.peekNext_eq (h : At ls i c) (hne : c.token ≠ .eof) : peekNext ls i = .ok c.advance.token := by
  have hlook : lookAt ls i 1 = .ok c.advance.current := by
    rw [lookAt, h.lastIndex_eq, ok_bind, get]
    rcases h.advance_or hne with ⟨hlast, hsame⟩ | ⟨hlt, hnext⟩
    · rw [Nat.min_eq_right (by omega), hsame, ← hlast, Nat.add_sub_cancel, h.get_eq]
    · rw [Nat.min_eq_left (by omega), hnext.get_eq]
  rw [peekNext, hlook]
  rfl

theorem At.advance_eq (h : At ls i c) (hne : c.token ≠ .eof) : ∃ j, advance ls i = .ok j ∧ At ls j c.advance := by
  have hlt := h.length_lt
  have hadvance : advance ls i = .ok (if i < ls.length - 1 then i + 1 else i) := by
    rw [advance, h.lastIndex_eq, ok_bind, get, Nat.min_eq_left (by omega), h.get_eq]
    rfl
  rw [hadvance]
  rcases h.advance_or hne with ⟨hlast, hsame⟩ | ⟨hlt, hnext⟩
  · rw [if_neg (by omega), hsame]
    exact ⟨i, rfl, h⟩
  · rw [if_pos (by omega)]
    exact ⟨i + 1, rfl, hnext⟩

theorem At.refuse_sim (h : At ls i c) {R : α → β → Prop} (wanted : Wanted) :
    Sim R (.error (c.expected wanted)) (refuse ls wanted i) := by
  rw [refuse, h.peek_eq, ok_bind, h.offset_eq, ok_bind]
  exact .refused _

/-! ## Numbers and parentheses -/

theorem At.closeParen_sim (h : At ls i c) (opened : Nat) :
    Sim (fun c i => At ls i c) (c.closeParen opened) (closeParen ls opened i) := by
  rw [Cursor.closeParen, closeParen, h.peek_eq, ok_bind]
  cases ht : c.token with
  | closeParen =>
    obtain ⟨j, hj, hnext⟩ := h.advance_eq (by simp [ht])
    rw [hj]
    exact .ok hnext
  | eof => exact .refused _
  | _ => exact h.refuse_sim _

theorem At.number_sim (h : At ls i c) {x : Number} (ht : c.token = .number x) (wanted : Wanted) (negate : Bool) :
    Sim (SamePlace ls) (.ok (if negate then -x else x, c.advance)) (do
      match ← peek ls i with
      | .number x => do
        let i ← advance ls i
        .ok (if negate then -x else x, i)
      | _ => refuse ls wanted i) := by
  obtain ⟨j, hj, hnext⟩ := h.advance_eq (by simp [ht])
  simp only [h.peek_eq, ht, ok_bind, hj]
  exact .ok ⟨rfl, hnext⟩

theorem At.signedNumber_sim (h : At ls i c) (wanted : Wanted) :
    Sim (SamePlace ls) (c.signedNumber wanted) (signedNumber ls wanted i) := by
  rw [Cursor.signedNumber, Cursor.signedNumber?, signedNumber, detachedSign, h.peek_eq, ok_bind]
  cases ht : c.token with
  | number x => exact h.number_sim ht wanted false
  | minus =>
    have hne : c.token ≠ .eof := by simp [ht]
    simp only [h.peekNext_eq hne, ok_bind]
    obtain ⟨j, hj, hnext⟩ := h.advance_eq hne
    cases hn : c.advance.token with
    | number x =>
      simp only [hj, ok_bind]
      exact hnext.number_sim hn wanted true
    | _ =>
      simp only [h.peek_eq, ht, ok_bind]
      exact h.refuse_sim _
  | plus =>
    have hne : c.token ≠ .eof := by simp [ht]
    simp only [h.peekNext_eq hne, ok_bind]
    obtain ⟨j, hj, hnext⟩ := h.advance_eq hne
    cases hn : c.advance.token with
    | number x =>
      simp only [hj, ok_bind]
      exact hnext.number_sim hn wanted false
    | _ =>
      simp only [h.peek_eq, ht, ok_bind]
      exact h.refuse_sim _
  | _ =>
    simp only [h.peek_eq, ht, ok_bind]
    exact h.refuse_sim _

theorem At.startsNumber_eq (h : At ls i c) : startsNumber ls i = .ok c.signedNumber?.isSome := by
  rw [startsNumber, Cursor.signedNumber?, h.peek_eq, ok_bind]
  cases ht : c.token with
  | minus =>
    simp only [h.peekNext_eq (by simp [ht] : c.token ≠ .eof), ok_bind]
    cases c.advance.token <;> rfl
  | plus =>
    simp only [h.peekNext_eq (by simp [ht] : c.token ≠ .eof), ok_bind]
    cases c.advance.token <;> rfl
  | _ => rfl

/-! ## Operands -/

theorem At.attributeNames_sim (h : At ls i c) (opened : Nat) {rounds : Nat} (hrounds : c.rest.length < rounds) :
    Sim (SamePlace ls) (c.attributeNames opened) (attributeNames ls opened rounds i) := by
  induction rounds generalizing i c with
  | zero => exact absurd hrounds (Nat.not_lt_zero _)
  | succ rounds ih =>
    rw [Cursor.attributeNames_eq, attributeNames, h.peek_eq, ok_bind]
    cases ht : c.token with
    | identifier word =>
      obtain ⟨j, hj, hnext⟩ := h.advance_eq (by simp [ht])
      cases hword : AttributeName.ofWord? word with
      | none =>
        simp only [hword]
        exact h.refuse_sim _
      | some a =>
        simp only [hword, hj, ok_bind, hnext.peek_eq]
        by_cases hcomma : c.advance.token = .comma
        · obtain ⟨k, hk, hbehind⟩ := hnext.advance_eq (by simp [hcomma])
          have hlt := Cursor.length_advance_lt (c := c) (by simp [hcomma, ht])
          have hle := Cursor.length_advance_le c.advance
          simp only [hcomma, if_true, hk, ok_bind]
          exact (ih hbehind (by omega)).map_read (a :: ·)
        · have hclosed := (hnext.closeParen_sim opened).bind fun c' i' hplace =>
            Sim.ok (R := SamePlace ls) (a := ([a], c')) (b := ([a], i')) ⟨rfl, hplace⟩
          rw [if_neg hcomma]
          split
          · next h' => exact absurd h' hcomma
          · exact hclosed
    | eof => exact .refused _
    | _ => exact h.refuse_sim _

theorem At.attributeList_sim (h : At ls i c) (hne : c.token ≠ .eof) :
    Sim (SamePlace ls) c.attributeList (attributeList ls i) := by
  obtain ⟨j, hj, hnext⟩ := h.advance_eq hne
  have hlt := hnext.length_lt
  rw [Cursor.attributeList, attributeList, h.offset_eq, ok_bind, hj, ok_bind]
  exact hnext.attributeNames_sim _ (by omega)

theorem At.segments_sim (h : At ls i c) {rounds : Nat} (hrounds : c.rest.length < rounds) :
    Sim (SamePlace ls) c.segments (segments ls rounds i) := by
  induction rounds generalizing i c with
  | zero => exact absurd hrounds (Nat.not_lt_zero _)
  | succ rounds ih =>
    rw [Cursor.segments_eq, segments, h.peek_eq, ok_bind]
    cases ht : c.token with
    | dot =>
      have hne : c.token ≠ .eof := by simp [ht]
      obtain ⟨j, hj, hnext⟩ := h.advance_eq hne
      simp only [h.peekNext_eq hne, ok_bind, hj]
      cases hn : c.advance.token with
      | openParen =>
        exact (hnext.attributeList_sim (by simp [hn])).map_read fun as => ([], as)
      | identifier word =>
        have hnext_ne : c.advance.token ≠ .eof := by simp [hn]
        obtain ⟨k, hk, hbehind⟩ := hnext.advance_eq hnext_ne
        have hlt := Cursor.length_advance_lt (c := c) (by simp [hn, ht])
        have hle := Cursor.length_advance_le c.advance
        have hrest := (ih hbehind (by omega)).map_read fun r => (word :: r.1, r.2)
        simp only [hnext.peekNext_eq hnext_ne, hk, ok_bind]
        cases AttributeName.ofWord? word with
        | none => exact hrest
        | some a =>
          cases c.advance.advance.token == .dot with
          | true => exact hrest
          | false => exact .ok ⟨rfl, hbehind⟩
      | _ => exact hnext.refuse_sim _
    | _ => exact .ok ⟨rfl, h⟩

theorem At.operand_sim (h : At ls i c) (hne : c.token ≠ .eof) :
    Sim (SamePlace ls) c.operand (operand ls i) := by
  obtain ⟨j, hj, hnext⟩ := h.advance_eq hne
  rw [Cursor.operand, operand, h.offset_eq, ok_bind, hj, ok_bind, hnext.peek_eq, ok_bind]
  cases hroot : Cursor.rootOf? c.advance.token with
  | none => exact hnext.refuse_sim _
  | some root =>
    have hnext_ne : c.advance.token ≠ .eof := by
      intro heof
      rw [heof] at hroot
      cases hroot
    obtain ⟨k, hk, hbehind⟩ := hnext.advance_eq hnext_ne
    have hlt := hbehind.length_lt
    simp only [hk, ok_bind]
    have hsegments : Sim (SamePlace ls) c.advance.advance.segments (segments ls ls.length k) :=
      hbehind.segments_sim (by omega)
    exact hsegments.map_read fun r => ((⟨root, r.1, c.pos⟩ : ViewPath), r.2)

/-! ## The left side, the relation and the priority -/

theorem At.leftTerm_sim (h : At ls i c) : Sim (SamePlace ls) c.leftTerm (leftTerm ls i) := by
  rw [Cursor.leftTerm, leftTerm, h.peek_eq, ok_bind]
  cases ht : c.token with
  | dollar =>
    refine (h.operand_sim (by simp [ht])).bind_read ?_
    rintro ⟨view, as⟩ c' i' hplace
    by_cases has : as = []
    · simp only [if_pos has]
      exact hplace.refuse_sim _
    · simp only [if_neg has]
      exact .ok ⟨rfl, hplace⟩
  | _ => exact h.refuse_sim _

theorem At.relation_sim (h : At ls i c) : Sim (SamePlace ls) c.relation (relation ls i) := by
  rw [Cursor.relation, relation, h.peek_eq, ok_bind]
  cases ht : c.token with
  | relation r =>
    obtain ⟨j, hj, hnext⟩ := h.advance_eq (by simp [ht])
    simp only [hj, ok_bind]
    exact .ok ⟨rfl, hnext⟩
  | star => exact h.refuse_sim _
  | _ => exact h.refuse_sim _

theorem At.priority_sim (h : At ls i c) : Sim (SamePlace ls) c.priority (priority ls i) := by
  rw [Cursor.priority, priority, h.peek_eq, ok_bind]
  cases ht : c.token with
  | openParen =>
    have hne : c.token ≠ .eof := by simp [ht]
    obtain ⟨j, hj, hnext⟩ := h.advance_eq hne
    simp only [h.peekNext_eq hne, ok_bind]
    cases hn : c.advance.token with
    | atSign =>
      obtain ⟨k, hk, hbehind⟩ := hnext.advance_eq (by simp [hn])
      simp only [h.offset_eq, hj, hk, hbehind.offset_eq, ok_bind]
      refine (hbehind.signedNumber_sim .priority).bind_read fun x c' i' hplace => ?_
      dsimp only
      cases Cursor.priorityOf? x with
      | none => exact .refused _
      | some n => exact (hplace.closeParen_sim c.pos).bind fun _ _ hclosed => .ok ⟨rfl, hclosed⟩
    | _ => exact .ok ⟨rfl, h⟩
  | _ => exact .ok ⟨rfl, h⟩

/-! ## Constants -/

theorem At.constantEntry_sim (h : At ls i c) (opened : Nat) :
    Sim (SamePlace ls)
      (match c.constantEntry? with
        | some r => .ok r
        | none => match c.token with
          | .eof => .error (.unbalancedParen opened)
          | _ => .error (c.expected .constantOrSkip))
      (constantEntry ls opened i) := by
  have hnumber := (h.signedNumber_sim .constantOrSkip).map_read Constant.value
  rw [constantEntry, h.peek_eq, ok_bind, Cursor.constantEntry?]
  cases ht : c.token with
  | dash =>
    obtain ⟨j, hj, hnext⟩ := h.advance_eq (by simp [ht])
    simp only [hj, ok_bind]
    exact .ok ⟨rfl, hnext⟩
  | eof =>
    rw [Cursor.signedNumber?, ht]
    exact .refused _
  | _ =>
    rw [Cursor.signedNumber] at hnumber
    cases hread : c.signedNumber? with
    | some r =>
      rw [hread] at hnumber
      exact hnumber
    | none =>
      rw [hread] at hnumber
      exact hnumber

theorem At.constantEntries_sim (h : At ls i c) (opened : Nat) {rounds : Nat} (hrounds : c.rest.length < rounds) :
    Sim (SamePlace ls) (c.constantEntries opened) (constantEntries ls opened rounds i) := by
  induction rounds generalizing i c with
  | zero => exact absurd hrounds (Nat.not_lt_zero _)
  | succ rounds ih =>
    have hentry := h.constantEntry_sim opened
    rw [Cursor.constantEntries_eq, constantEntries]
    cases hread : c.constantEntry? with
    | none =>
      rw [hread] at hentry
      generalize constantEntry ls opened i = x at hentry ⊢
      cases hc : c.token with
      | eof =>
        simp only [hc] at hentry
        cases hentry
        exact .refused _
      | _ =>
        simp only [hc] at hentry
        cases hentry
        exact .refused _
    | some r =>
      obtain ⟨entry, c'⟩ := r
      rw [hread] at hentry
      obtain ⟨j, hj, hplace⟩ := hentry.exists_of_ok
      simp only [hj, ok_bind, hplace.peek_eq]
      by_cases hcomma : c'.token = .comma
      · obtain ⟨k, hk, hbehind⟩ := hplace.advance_eq (by simp [hcomma])
        have hlt := Cursor.length_lt_of_constantEntry? hread hcomma
        have hlt := Nat.lt_of_le_of_lt (Cursor.length_advance_le c') hlt
        simp only [hcomma, if_true, hk, ok_bind]
        exact (ih hbehind (Nat.lt_of_lt_of_le hlt (Nat.le_of_lt_succ hrounds))).map_read (entry :: ·)
      · have hclosed := (hplace.closeParen_sim opened).bind fun c'' i' hplace =>
          Sim.ok (R := SamePlace ls) (a := ([entry], c'')) (b := ([entry], i')) ⟨rfl, hplace⟩
        rw [if_neg hcomma]
        split
        · next h' => exact absurd h' hcomma
        · exact hclosed

theorem At.constantList_sim (h : At ls i c) (hne : c.token ≠ .eof) :
    Sim (SamePlace ls) c.constantList (constantList ls i) := by
  obtain ⟨j, hj, hnext⟩ := h.advance_eq hne
  have hlt := hnext.length_lt
  rw [Cursor.constantList, constantList, h.offset_eq, ok_bind, hj, ok_bind]
  exact hnext.constantEntries_sim _ (by omega)

theorem At.endConstants_sim (h : At ls i c) (t : RightTerm) :
    Sim (SamePlace ls) (Cursor.endConstants t c) (endConstants ls t i) := by
  rw [Cursor.endConstants, endConstants, h.peek_eq, ok_bind]
  cases c.token with
  | star =>
    simp only [h.offset_eq, ok_bind]
    exact .refused _
  | _ => exact .ok ⟨rfl, h⟩

theorem At.clauseConstants_sim (h : At ls i c) : Sim (SamePlace ls) c.clauseConstants (clauseConstants ls i) := by
  have hnumber := (h.signedNumber_sim .constant).map_read fun x => [Constant.value x]
  rw [Cursor.clauseConstants, clauseConstants, h.peek_eq, ok_bind]
  cases ht : c.token with
  | openParen => exact h.constantList_sim (by simp [ht])
  | _ => exact hnumber

theorem At.constantClause_sim (h : At ls i c) (t : RightTerm) :
    Sim (SamePlace ls) (Cursor.constantClause t c) (constantClause ls t i) := by
  rw [Cursor.constantClause, constantClause, h.peek_eq, ok_bind]
  cases ht : c.token with
  | plus =>
    obtain ⟨j, hj, hnext⟩ := h.advance_eq (by simp [ht])
    simp only [hj, ok_bind]
    exact hnext.clauseConstants_sim.bind_read fun constants c' i' hplace => hplace.endConstants_sim _
  | minus =>
    obtain ⟨j, hj, hnext⟩ := h.advance_eq (by simp [ht])
    simp only [hj, ok_bind]
    exact hnext.clauseConstants_sim.bind_read fun constants c' i' hplace => hplace.endConstants_sim _
  | star => exact h.refuse_sim _
  | _ => exact .ok ⟨rfl, h⟩

/-! ## Right sides and equations -/

theorem At.viewTerm_sim (h : At ls i c) (hne : c.token ≠ .eof) :
    Sim (SamePlace ls) c.viewTerm (viewTerm ls i) := by
  rw [Cursor.viewTerm, viewTerm]
  refine (h.operand_sim hne).bind_read fun r c' i' hplace => ?_
  simp only [hplace.peek_eq, ok_bind]
  cases ht : c'.token with
  | star =>
    obtain ⟨j, hj, hnext⟩ := hplace.advance_eq (by simp [ht])
    simp only [hj, ok_bind]
    exact (hnext.signedNumber_sim .multiplier).bind_read fun x c'' i'' hbehind => hbehind.constantClause_sim _
  | _ => exact hplace.constantClause_sim _

theorem At.scaledTerm_sim (h : At ls i c) (hne : c.token ≠ .eof) (multiplier : Number) :
    Sim (SamePlace ls) (Cursor.scaledTerm multiplier c) (scaledTerm ls multiplier i) := by
  obtain ⟨j, hj, hnext⟩ := h.advance_eq hne
  rw [Cursor.scaledTerm, scaledTerm, h.offset_eq, ok_bind, hj, ok_bind, hnext.peek_eq, ok_bind]
  cases ht : c.advance.token with
  | dollar =>
    refine (hnext.operand_sim (by simp [ht])).bind_read fun r c' i' hplace => ?_
    exact (hplace.closeParen_sim c.pos).bind fun c'' i'' hbehind => hbehind.constantClause_sim _
  | _ => exact hnext.refuse_sim _

theorem At.rightTerm_sim (h : At ls i c) : Sim (SamePlace ls) c.rightTerm (rightTerm ls i) := by
  have hnumber := h.signedNumber_sim .constant
  rw [rightTerm, h.peek_eq, ok_bind]
  simp only [h.startsNumber_eq, ok_bind]
  cases hread : c.signedNumber? with
  | none =>
    rw [Cursor.rightTerm, hread]
    cases ht : c.token with
    | dollar => exact h.viewTerm_sim (by simp [ht])
    | openParen =>
      exact (h.constantList_sim (by simp [ht])).bind_read fun constants c' i' hplace => hplace.endConstants_sim _
    | _ => exact h.refuse_sim _
  | some r =>
    obtain ⟨x, c'⟩ := r
    rw [Cursor.signedNumber, hread] at hnumber
    obtain ⟨j, hj, hplace⟩ := hnumber.exists_of_ok
    simp only [Option.isSome_some, if_true, hj, ok_bind, hplace.peek_eq]
    have hrest : Sim (SamePlace ls) c.rightTerm (match c'.token with
        | .openParen => scaledTerm ls x j
        | _ => endConstants ls { view := none, attributes := [], constants := [.value x] } j) := by
      rw [Cursor.rightTerm_of_signedNumber? hread]
      cases ht : c'.token with
      | openParen => exact hplace.scaledTerm_sim (by simp [ht]) x
      | _ => exact hplace.endConstants_sim _
    cases ht : c.token with
    | dollar => simp [Cursor.signedNumber?, ht] at hread
    | _ => exact hrest

theorem At.endEquation_sim (h : At ls i c) : Sim Eq c.endEquation (endEquation ls i) := by
  rw [Cursor.endEquation, endEquation, h.peek_eq, ok_bind]
  cases c.token with
  | eof => exact .ok rfl
  | closeParen =>
    simp only [h.offset_eq, ok_bind]
    exact .refused _
  | _ => exact h.refuse_sim _

theorem At.equation_sim (h : At ls i c) : Sim Eq c.equation (equation ls i) := by
  rw [Cursor.equation, equation]
  refine h.leftTerm_sim.bind_read fun left c i h => ?_
  refine h.relation_sim.bind_read fun relation c i h => ?_
  refine h.priority_sim.bind_read fun priority c i h => ?_
  refine h.rightTerm_sim.bind_read fun right c i h => ?_
  exact h.endEquation_sim.bind fun _ _ _ => .ok rfl

theorem Sim.eq_mapError {x : Except ParseError α} {y : Except Stop α} (h : Sim Eq x y) : y = x.mapError .refused := by
  cases h with
  | ok h => rw [h, mapError_ok]
  | refused e => rfl

/-- Reading by index does what reading by cursor does, also when the cursor sees no more than the lexemes up to an end
mark. So there are no faults. -/
theorem read_append (front : List Lexeme) {l : Lexeme} {behind : List Lexeme} (h : behind = [] ∨ l.token = .eof) :
    read (front ++ l :: behind) = (Equation.ofLexemes (front ++ [l])).mapError .refused := by
  obtain ⟨c, hc, hplace⟩ : ∃ c, Cursor.ofList? (front ++ [l]) = some c ∧ At (front ++ l :: behind) 0 c := by
    have hends : ∀ c : Cursor, c.lexemes = front ++ [l] → At (front ++ l :: behind) 0 c := by
      intro c hc
      refine ⟨behind, ?_, h.imp_right fun heof => ⟨front, l, hc, heof⟩⟩
      rw [List.drop_zero, hc, List.append_assoc, List.singleton_append]
    cases front with
    | nil => exact ⟨⟨l, []⟩, rfl, hends _ rfl⟩
    | cons l' front => exact ⟨⟨l', front ++ [l]⟩, rfl, hends _ rfl⟩
  rw [read, if_neg (by simp), Equation.ofLexemes, hc]
  exact hplace.equation_sim.eq_mapError

theorem read_eq (ls : List Lexeme) : read ls = (Equation.ofLexemes ls).mapError .refused := by
  rcases List.eq_nil_or_concat ls with rfl | ⟨front, l, rfl⟩
  · rfl
  · rw [List.concat_eq_append]
    exact read_append front (.inl rfl)

end LayoutEquations.ByIndex
