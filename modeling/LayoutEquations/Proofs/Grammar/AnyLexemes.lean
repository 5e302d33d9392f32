import LayoutEquations.Proofs.Compile.Errors
import LayoutEquations.Proofs.Grammar.ByIndex

/-!
# Reading any list of lexemes

Reading is for lists that end with their only end mark, and it is safe on any other: nothing goes wrong when the lexemes
are read by index, what stands behind the first end mark is not looked at, a list without an end mark spells no
equation, and an equation that is read has its priority in range and its indices from the numbers in the list
(`ofLexemes_safe`).

An equation is read up to an end mark, and the place of that end mark is a place in the list. So there is a first one,
and what is left of the list up to it ends with its only end mark: there the grammar says how the equation is spelled.
-/

namespace LayoutEquations

open Grammar

def Number.Equals (x : Number) (n : Nat) : Prop :=
  ∃ negative rank, x = .finite negative rank ∧ Rank.units rank.val = n * Rank.unit ∧ (negative = true → n = 0)

theorem Number.equals_of_toNat? {x : Number} {n : Nat} (h : x.toNat? = some n) : x.Equals n := by
  cases x with
  | nan => cases h
  | infinite s => cases h
  | finite s r =>
    unfold toNat? at h
    dsimp only at h
    split at h
    · next hwhole =>
      obtain ⟨hmod, hsign⟩ := hwhole
      have hunits := Nat.div_mul_cancel (Nat.dvd_of_mod_eq_zero hmod)
      rw [Option.some.inj h] at hunits
      refine ⟨s, r, rfl, hunits.symm, fun hs => ?_⟩
      have hzero : Rank.units r.val = 0 := by
        refine Decidable.byContradiction fun hne => hsign ⟨hs, hne⟩
      rw [← Option.some.inj h, hzero, Nat.zero_div]
    · cases h

/-- The reference stands at the start of the lexemes; if it is an index, that is the number behind its `$`. -/
def IndexRead (path : ViewPath) (ls : List Lexeme) : Prop :=
  ∀ n, path.root = .index n → ∃ q x back, ls = ⟨path.pos, .dollar⟩ :: ⟨q, .number x⟩ :: back ∧ x.Equals n

variable {ls : List Lexeme} {e : Equation}

theorem Grammar.Operand.indexRead {path : ViewPath} {as : List AttributeName} (h : Operand path as ls)
    (rest : List Lexeme) : IndexRead path (ls ++ rest) := by
  intro n hn
  cases h with
  | intro p q hroot h =>
    cases hroot with
    | @index x n' hx hle =>
      obtain rfl := ViewRef.index.inj hn
      exact ⟨q, x, _, rfl, Number.equals_of_toNat? hx⟩
    | self => cases hn
    | all => cases hn
    | name => cases hn

theorem Grammar.Derives.priority_range (h : Derives e ls) : 1 ≤ e.priority ∧ e.priority ≤ 1000 := by
  cases h with
  | intro p q h hne hp hr => exact hp.range

/-! ## The end mark -/

theorem ofLexemes_append_eof (front : List Lexeme) {l : Lexeme} (back : List Lexeme) (h : l.token = .eof) :
    Equation.ofLexemes (front ++ l :: back) = Equation.ofLexemes (front ++ [l]) := by
  have hread := ByIndex.read_eq (front ++ l :: back)
  rw [ByIndex.read_append front (.inr h)] at hread
  revert hread
  cases Equation.ofLexemes (front ++ [l]) <;> cases Equation.ofLexemes (front ++ l :: back) <;>
    simp +contextual [eq_comm]

theorem ByIndex.At.mem {i : Nat} {c : Cursor} (h : At ls i c) : c.current ∈ ls :=
  List.mem_of_getElem? h.get_eq

theorem exists_eof_of_ofLexemes (h : Equation.ofLexemes ls = .ok e) : ∃ l ∈ ls, l.token = .eof := by
  cases ls with
  | nil => cases h
  | cons l ls =>
    have hplace : ByIndex.At (l :: ls) 0 ⟨l, ls⟩ := ⟨[], (List.append_nil _).symm, .inl rfl⟩
    replace h : Cursor.equation ⟨l, ls⟩ = .ok e := h
    rw [Cursor.equation] at h
    obtain ⟨⟨left, c₁⟩, hleft, h⟩ := bind_eq_ok.1 h
    obtain ⟨⟨relation, c₂⟩, hrelation, h⟩ := bind_eq_ok.1 h
    obtain ⟨⟨priority, c₃⟩, hpriority, h⟩ := bind_eq_ok.1 h
    obtain ⟨⟨right, c₄⟩, hright, h⟩ := bind_eq_ok.1 h
    obtain ⟨_, hend, -⟩ := bind_eq_ok.1 h
    obtain ⟨_, -, hplace⟩ := (hleft ▸ hplace.leftTerm_sim).exists_of_ok
    obtain ⟨_, -, hplace⟩ := (hrelation ▸ hplace.relation_sim).exists_of_ok
    obtain ⟨_, -, hplace⟩ := (hpriority ▸ hplace.priority_sim).exists_of_ok
    obtain ⟨_, -, hplace⟩ := (hright ▸ hplace.rightTerm_sim).exists_of_ok
    refine ⟨c₄.current, hplace.mem, ?_⟩
    unfold Cursor.endEquation at hend
    split at hend
    · next heof => exact heof
    · cases hend
    · cases hend

theorem exists_derives_of_ofLexemes (h : Equation.ofLexemes ls = .ok e) :
    ∃ front l back, ls = front ++ l :: back ∧ (∀ l' ∈ front, l'.token ≠ .eof) ∧ Derives e (front ++ [l]) := by
  obtain ⟨l, hl, heof⟩ := exists_eof_of_ofLexemes h
  have hfind : (ls.find? (·.token == .eof)).isSome := by
    rw [List.find?_isSome]
    exact ⟨l, hl, by simp [heof]⟩
  obtain ⟨l, hfind⟩ := Option.isSome_iff_exists.1 hfind
  obtain ⟨heof, front, back, rfl, hfront⟩ := List.find?_eq_some_iff_append.1 hfind
  have heof : l.token = .eof := by simpa using heof
  have hfront : ∀ l' ∈ front, l'.token ≠ .eof := fun l' hl' => by simpa using hfront l' hl'
  refine ⟨front, l, back, rfl, hfront, derives_of_ofLexemes ⟨front, l.pos, ?_, hfront⟩ ?_⟩
  · rw [← heof]
  · rw [← ofLexemes_append_eof front back heof]
    exact h

/-! ## Any list -/

/-- Any list of lexemes is read safely. Read by index, it is read without a fault and to the same result. What stands
behind the first end mark does not matter, and without an end mark there is an error. An equation that is read has a
priority in range; its references to views by index stand in the list, the left one at its start and the right one
behind the relation, and the index of each is the value of the number there. -/
theorem ofLexemes_safe (ls : List Lexeme) :
    ByIndex.read ls = (Equation.ofLexemes ls).mapError .refused ∧
    (∀ front l back, ls = front ++ l :: back → l.token = .eof → (∀ l' ∈ front, l'.token ≠ .eof) →
      Equation.ofLexemes ls = Equation.ofLexemes (front ++ [l])) ∧
    ((∀ l ∈ ls, l.token ≠ .eof) → ∃ err, Equation.ofLexemes ls = .error err) ∧
    ∀ e, Equation.ofLexemes ls = .ok e →
      (1 ≤ e.priority ∧ e.priority ≤ 1000) ∧ IndexRead e.left.view ls ∧
        ∀ path, e.right.view = some path → ∃ front back, ls = front ++ back ∧ (∀ l ∈ front, l.token ≠ .eof) ∧
          (∃ p, ⟨p, .relation e.relation⟩ ∈ front) ∧ IndexRead path back := by
  refine ⟨ByIndex.read_eq ls, ?_, ?_, ?_⟩
  · rintro front l back rfl heof -
    exact ofLexemes_append_eof front back heof
  · intro hno
    cases h : Equation.ofLexemes ls with
    | error err => exact ⟨err, rfl⟩
    | ok e =>
      obtain ⟨l, hl, heof⟩ := exists_eof_of_ofLexemes h
      exact absurd heof (hno l hl)
  · intro e h
    obtain ⟨front, l, back, rfl, hfront, hderives⟩ := exists_derives_of_ofLexemes h
    have hls : front ++ l :: back = front ++ [l] ++ back := by simp
    refine ⟨hderives.priority_range, ?_, fun path hpath => ?_⟩
    · obtain ⟨operand, rest, as, heq, hoperand⟩ := hderives.left
      rw [hls, heq, List.append_assoc]
      exact hoperand.indexRead _
    · obtain ⟨before, operand, rest, as, heq, hrelation, hoperand⟩ := hderives.right hpath
      have hbefore : ∀ l' ∈ before, l'.token ≠ .eof := by
        have hne : operand ++ rest ≠ [] := List.append_ne_nil_of_left_ne_nil (List.ne_nil_of_mem hoperand.dollar_mem) _
        have hdrop := congrArg List.dropLast heq
        rw [List.dropLast_concat, List.dropLast_append_of_ne_nil hne] at hdrop
        intro l' hl'
        exact hfront l' (hdrop ▸ List.mem_append_left _ hl')
      refine ⟨before, operand ++ (rest ++ back), ?_, hbefore, hrelation, hoperand.indexRead _⟩
      rw [hls, heq, List.append_assoc, List.append_assoc]

/-- A list that ends in the middle of an attribute list: its last lexeme is met over and over. -/
def brokenOff : List Lexeme :=
  [⟨0, .dollar⟩, ⟨1, .identifier "self"⟩, ⟨5, .dot⟩, ⟨6, .openParen⟩, ⟨7, .identifier "width"⟩, ⟨12, .comma⟩]

/-- `$7 . width = $4294967295`, with offsets that do not grow, an end mark and more lexemes behind it. -/
def overlong : List Lexeme :=
  [⟨9, .dollar⟩, ⟨9, .number (.ofNat 7)⟩, ⟨9, .dot⟩, ⟨9, .identifier "width"⟩, ⟨9, .relation .equal⟩, ⟨2, .dollar⟩,
    ⟨2, .number (.ofNat 4294967295)⟩, ⟨0, .eof⟩, ⟨1, .number .nan⟩, ⟨0, .eof⟩, ⟨5, .dollar⟩]

def overlongEquation : Equation where
  left := ⟨⟨.index 7, [], 9⟩, [.primitive .width]⟩
  relation := .equal
  priority := 1000
  right := { view := some ⟨.index 4294967295, [], 2⟩ }

theorem ofLexemes_safe_sample :
    ByIndex.read [] = .error (.refused (.expected .equation .eof 0)) ∧
    ByIndex.read brokenOff = .error (.refused (.expected .attributeName .comma 12)) ∧
    ByIndex.read overlong = .ok overlongEquation ∧ Equation.ofLexemes (overlong.take 8) = .ok overlongEquation ∧
      ∃ q x, ⟨q, .number x⟩ ∈ overlong ∧ x.Equals 4294967295 := by
  have hbroken : Equation.ofLexemes brokenOff = .error (.expected .attributeName .comma 12) := by decide +kernel
  have hoverlong : Equation.ofLexemes overlong = .ok overlongEquation := by decide +kernel
  obtain ⟨hindex, hcut, -, hread⟩ := ofLexemes_safe overlong
  have hcut := hcut (overlong.take 7) ⟨0, .eof⟩ (overlong.drop 8) rfl rfl (by simp [overlong])
  obtain ⟨-, -, hright⟩ := hread _ hoverlong
  obtain ⟨front, back, hsplit, -, -, hnumber⟩ := hright _ rfl
  obtain ⟨q, x, back', rfl, hx⟩ := hnumber 4294967295 rfl
  refine ⟨?_, ?_, ?_, hcut ▸ hoverlong, q, x, ?_, hx⟩
  · rw [(ofLexemes_safe []).1]
    rfl
  · rw [(ofLexemes_safe brokenOff).1, hbroken]
    rfl
  · rw [hindex, hoverlong]
    rfl
  · rw [hsplit]
    simp

end LayoutEquations
