import LayoutEquations.Equation

/-!
# Equality of equations

`==` taken apart: equations say the same when their parts do. Numbers other than NaN are equal to themselves, and so are
the lists of constants that hold no other.
-/

namespace LayoutEquations

theorem ViewPath.beq_iff {p q : ViewPath} : (p == q) = true ↔ p.root = q.root ∧ p.keyPath = q.keyPath := by
  show (p.key == q.key) = true ↔ _
  rw [beq_iff_eq, key, key, Prod.mk.injEq]

theorem LeftTerm.beq_iff {s t : LeftTerm} :
    (s == t) = true ↔ (s.view == t.view) = true ∧ s.attributes = t.attributes := by
  show (s.view == t.view && s.attributes == t.attributes) = true ↔ _
  rw [Bool.and_eq_true, beq_iff_eq (a := s.attributes)]

theorem RightTerm.beq_iff {s t : RightTerm} :
    (s == t) = true ↔ (s.view == t.view) = true ∧ s.attributes = t.attributes ∧
      s.multiplierPosition = t.multiplierPosition ∧ (s.multiplier == t.multiplier) = true ∧
      (s.constants == t.constants) = true := by
  show (s.view == t.view && s.attributes == t.attributes && s.multiplierPosition == t.multiplierPosition &&
    s.multiplier == t.multiplier && s.constants == t.constants) = true ↔ _
  simp only [Bool.and_eq_true, beq_iff_eq, and_assoc]

theorem Equation.beq_iff {d e : Equation} :
    (d == e) = true ↔ (d.left == e.left) = true ∧ d.relation = e.relation ∧ d.priority = e.priority ∧
      (d.right == e.right) = true := by
  show (d.left == e.left && d.relation == e.relation && d.priority == e.priority && d.right == e.right) = true ↔ _
  simp only [Bool.and_eq_true, beq_iff_eq, and_assoc]

/-! ## Numbers and constants -/

theorem Number.beq_self_of_ne_nan {x : Number} (h : x ≠ .nan) : (x == x) = true := by
  cases x with
  | nan => exact absurd rfl h
  | infinite s =>
    show (s == s) = true
    simp
  | finite s r =>
    show (r.val == r.val && (s == s || r.val == 0)) = true
    simp

theorem Number.beq_self {x : Number} (h : x.isFinite = true) : (x == x) = true := by
  apply beq_self_of_ne_nan
  rintro rfl
  cases h

theorem Number.neg_neg (x : Number) : - -x = x := by
  rcases x with _ | s | ⟨s, r⟩
  · rfl
  · exact congrArg infinite (Bool.not_not s)
  · exact congrArg (finite · r) (Bool.not_not s)

theorem Number.isFinite_neg (x : Number) : (-x).isFinite = x.isFinite := by
  cases x <;> rfl

theorem Number.isFinite_of_beq {x y : Number} (h : (x == y) = true) (hy : y.isFinite = true) : x.isFinite = true := by
  rcases x with _ | s | ⟨s, m⟩
  · cases h
  · cases y with
    | nan => cases h
    | infinite t => cases hy
    | finite t n => cases h
  · rfl

theorem Number.beq_comm (x y : Number) : (x == y) = (y == x) := by
  rcases x with _ | s | ⟨s, m⟩ <;> rcases y with _ | t | ⟨t, n⟩ <;> try rfl
  · show (s == t) = (t == s)
    exact BEq.comm
  · show (m.val == n.val && (s == t || m.val == 0)) = (n.val == m.val && (t == s || n.val == 0))
    by_cases h : m.val = n.val
    · rw [h, BEq.comm (a := s)]
    · rw [beq_false_of_ne h, beq_false_of_ne (Ne.symm h)]
      rfl

theorem Number.exists_zero {x : Number} (hx : x ≠ .nan) (hpositive : ¬ x.isPositive = true)
    (hnegative : ¬ x.isNegative = true) : ∃ s r, x = .finite s r ∧ r.val = 0 := by
  cases x with
  | nan => exact absurd rfl hx
  | infinite s => cases s <;> simp [isPositive, isNegative] at hpositive hnegative
  | finite s r => cases s <;> simpa [isPositive, isNegative] using And.intro hpositive hnegative

theorem Number.eq_one_of_beq {x : Number} (h : (Number.one == x) = true) : x = .one := by
  obtain ⟨rank, hrank, hone⟩ : ∃ rank, rank.val ≠ 0 ∧ Number.one = .finite false rank :=
    ⟨⟨1023 * Rank.binade, by decide⟩, by decide, by decide⟩
  rw [hone] at h ⊢
  cases x with
  | nan => cases h
  | infinite s => cases h
  | finite s r =>
    have h : (rank.val == r.val && (false == s || rank.val == 0)) = true := h
    rw [Bool.and_eq_true, Bool.or_eq_true, beq_iff_eq, beq_iff_eq, beq_iff_eq] at h
    obtain ⟨hr, rfl | hzero⟩ := h
    · rw [Fin.ext hr]
    · exact absurd hzero hrank

/-- A skipped place holds no number. -/
def Constant.isFinite : Constant → Bool
  | value x => x.isFinite
  | skip => true

theorem Constant.beq_self {c : Constant} (h : c.isFinite = true) : (c == c) = true := by
  cases c with
  | value x => exact Number.beq_self h
  | skip => rfl

theorem Constant.beq_comm (c d : Constant) : (c == d) = (d == c) := by
  rcases c with x | _ <;> rcases d with y | _ <;> try rfl
  exact Number.beq_comm x y

theorem Constant.singleton_beq {cs : List Constant} {c : Constant} (h : (cs == [c]) = true) : ([c] == cs) = true := by
  rcases cs with _ | ⟨d, _ | ⟨d', ds⟩⟩
  · cases h
  · rw [List.cons_beq_cons, Bool.and_eq_true] at h ⊢
    exact ⟨(beq_comm c d).trans h.1, h.2⟩
  · rw [List.cons_beq_cons, Bool.and_eq_true] at h
    cases h.2

theorem Constant.list_beq_self_of {cs : List Constant} (h : ∀ c ∈ cs, (c == c) = true) : (cs == cs) = true := by
  induction cs with
  | nil => rfl
  | cons c cs ih =>
    have hc : (c == c) = true := h c (by simp)
    have hcs : (cs == cs) = true := ih fun d hd => h d (List.mem_cons_of_mem _ hd)
    rw [List.cons_beq_cons, hc, hcs]
    rfl

theorem Constant.list_beq_self {cs : List Constant} (h : ∀ c ∈ cs, c.isFinite = true) :
    (cs == cs) = true :=
  list_beq_self_of fun c hc => beq_self (h c hc)

end LayoutEquations
