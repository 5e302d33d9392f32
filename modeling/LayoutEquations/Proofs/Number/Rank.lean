import Mathlib.Tactic
import LayoutEquations.Number.Rank

/-!
# Ranks and their magnitudes

A rank is `shift * binade + m` for a shift and a significand `m` that fit each other (`Normal`), and then its
magnitude is `m * 2 ^ shift`. So magnitudes grow with the ranks (`units_lt_units_succ`), `floor` undoes `units`, and
a quotient that is a magnitude rounds to its rank (`nearest_units`). Rounding depends on the value of the quotient
alone (`nearest_congr`).
-/

namespace LayoutEquations.Rank

/-! ## Significands -/

/-- The significand `m` needs the shift: it fills its binade, or there is nothing to shift. -/
def Normal (shift m : Nat) : Prop :=
  m < 2 * binade ∧ (shift = 0 ∨ binade ≤ m)

theorem binade_pos : 0 < binade := Nat.two_pow_pos 52

theorem exists_normal (rank : Nat) : ∃ shift m, Normal shift m ∧ rank = shift * binade + m := by
  have hb := binade_pos
  have hdiv := Nat.div_add_mod rank binade
  have hmod := Nat.mod_lt rank hb
  rw [Nat.mul_comm] at hdiv
  rcases Nat.eq_zero_or_pos (rank / binade) with h | h
  · rw [h] at hdiv
    exact ⟨0, rank, ⟨by omega, Or.inl rfl⟩, by omega⟩
  · refine ⟨rank / binade - 1, binade + rank % binade, ⟨by omega, Or.inr (by omega)⟩, ?_⟩
    obtain ⟨shift, hshift⟩ : ∃ shift, rank / binade = shift + 1 := ⟨rank / binade - 1, by omega⟩
    rw [hshift, Nat.succ_mul] at hdiv
    rw [hshift, Nat.add_sub_cancel]
    omega

theorem units_of_normal {shift m : Nat} (h : Normal shift m) :
    units (shift * binade + m) = m * 2 ^ shift := by
  have hb := binade_pos
  have hshift : (shift * binade + m) / binade - 1 = shift := by
    rw [Nat.add_comm, Nat.add_mul_div_right _ _ hb]
    rcases h.2 with rfl | hm
    · have : m / binade < 2 := Nat.div_lt_of_lt_mul (by rw [Nat.mul_comm]; exact h.1)
      omega
    · have : m / binade = 1 := Nat.div_eq_of_lt_le (by omega) (by have := h.1; omega)
      omega
  show (shift * binade + m - ((shift * binade + m) / binade - 1) * binade) *
    2 ^ ((shift * binade + m) / binade - 1) = _
  rw [hshift, Nat.add_sub_cancel_left]

theorem units_succ_of_normal {shift m : Nat} (h : Normal shift m) :
    units (shift * binade + m + 1) = (m + 1) * 2 ^ shift := by
  have hb := binade_pos
  by_cases hm : m + 1 < 2 * binade
  · have hnext : Normal shift (m + 1) := ⟨hm, h.2.imp_right fun hle => by omega⟩
    rw [Nat.add_assoc, units_of_normal hnext]
  · have hend : m + 1 = 2 * binade := by have := h.1; omega
    have hnext : Normal (shift + 1) binade := ⟨by omega, Or.inr (Nat.le_refl _)⟩
    rw [show shift * binade + m + 1 = (shift + 1) * binade + binade by rw [Nat.succ_mul]; omega,
      units_of_normal hnext, hend, Nat.pow_succ]
    ring

theorem units_lt_units_succ (rank : Nat) : units rank < units (rank + 1) := by
  obtain ⟨shift, m, h, rfl⟩ := exists_normal rank
  rw [units_of_normal h, units_succ_of_normal h]
  exact Nat.mul_lt_mul_of_pos_right (Nat.lt_succ_self m) (Nat.two_pow_pos shift)

/-! ## The rank of a magnitude -/

theorem log2_of_normal {shift m : Nat} (h : Normal shift m) (hm : binade ≤ m) :
    (m * 2 ^ shift).log2 = 52 + shift := by
  have hpos : 0 < m := Nat.lt_of_lt_of_le binade_pos hm
  have hbinade : binade = 2 ^ 52 := rfl
  rw [Nat.log2_eq_iff (Nat.mul_pos hpos (Nat.two_pow_pos shift)).ne']
  constructor
  · rw [Nat.pow_add, ← hbinade]
    exact Nat.mul_le_mul_right _ hm
  · rw [show 52 + shift + 1 = 53 + shift by omega, Nat.pow_add]
    refine Nat.mul_lt_mul_of_pos_right ?_ (Nat.two_pow_pos shift)
    have := h.1
    omega

theorem floor_units (rank : Nat) : floor (units rank) = rank := by
  obtain ⟨shift, m, h, rfl⟩ := exists_normal rank
  rw [units_of_normal h]
  have hshift : (m * 2 ^ shift).log2 - 52 = shift := by
    by_cases hm : binade ≤ m
    · rw [log2_of_normal h hm]
      omega
    · have hzero : shift = 0 := h.2.resolve_right hm
      have : m.log2 < 53 := by
        rcases Nat.eq_zero_or_pos m with rfl | hpos
        · decide
        · exact (Nat.log2_lt hpos.ne').2 h.1
      rw [hzero, Nat.pow_zero, Nat.mul_one]
      omega
  show ((m * 2 ^ shift).log2 - 52) * binade + m * 2 ^ shift / 2 ^ ((m * 2 ^ shift).log2 - 52) = _
  rw [hshift, Nat.mul_div_cancel _ (Nat.two_pow_pos shift)]

/-! ## Rounding -/

/-- A quotient that is a magnitude rounds to its rank. -/
theorem nearest_units (rank : Nat) {den : Nat} (hden : 0 < den) : nearest (units rank * den) den = rank := by
  have hlt : 2 * (units rank * den) < (units rank + units (rank + 1)) * den := by
    rw [← Nat.mul_assoc]
    refine Nat.mul_lt_mul_of_pos_right ?_ hden
    have := units_lt_units_succ rank
    omega
  rw [nearest, Nat.mul_div_cancel _ hden, floor_units, Nat.compare_eq_lt.2 hlt, roundFrom]

theorem compare_mul_right (a b : Nat) {k : Nat} (hk : 0 < k) : compare (a * k) (b * k) = compare a b := by
  rcases Nat.lt_trichotomy a b with h | rfl | h
  · rw [Nat.compare_eq_lt.2 h, Nat.compare_eq_lt.2 (Nat.mul_lt_mul_of_pos_right h hk)]
  · rw [Nat.compare_eq_eq.2 rfl, Nat.compare_eq_eq.2 rfl]
  · rw [Nat.compare_eq_gt.2 h, Nat.compare_eq_gt.2 (Nat.mul_lt_mul_of_pos_right h hk)]

theorem nearest_mul_right (num den : Nat) {k : Nat} (hk : 0 < k) :
    nearest (num * k) (den * k) = nearest num den := by
  rw [nearest, nearest, Nat.mul_div_mul_right _ _ hk, ← Nat.mul_assoc, ← Nat.mul_assoc, compare_mul_right _ _ hk]

/-- Equal quotients round alike. -/
theorem nearest_congr {num den num' den' : Nat} (hden : 0 < den) (hden' : 0 < den')
    (h : num * den' = num' * den) : nearest num den = nearest num' den' := by
  rw [← nearest_mul_right num den hden', h, Nat.mul_comm den den', nearest_mul_right num' den' hden]

/-! ## Natural numbers -/

/-- The exponent stays a variable, so that no power is computed. -/
theorem unit_eq {k : Nat} (hk : 1074 = k) : unit = 2 ^ k := by
  delta unit
  generalize 1074 = n at *
  rw [Nat.pow_eq, hk]

theorem exists_units_eq {n : Nat} (hn : n < 2 * binade) :
    ∃ rank, rank < infinity ∧ units rank = n * unit := by
  rcases Nat.eq_zero_or_pos n with rfl | hpos
  · have hzero : Normal 0 0 := ⟨by have := binade_pos; omega, Or.inl rfl⟩
    refine ⟨0, Nat.mul_pos (by decide) binade_pos, ?_⟩
    have := units_of_normal hzero
    simpa using this
  · -- the significand is `n` moved up to fill its binade
    have hlow := Nat.log2_self_le hpos.ne'
    have hhigh := Nat.lt_log2_self (n := n)
    have hlog : n.log2 ≤ 52 := by
      have := (Nat.log2_lt (k := 53) hpos.ne').2 hn
      omega
    have hnormal : Normal (1022 + n.log2) (n * 2 ^ (52 - n.log2)) := by
      refine ⟨?_, Or.inr ?_⟩
      · calc n * 2 ^ (52 - n.log2) < 2 ^ (n.log2 + 1) * 2 ^ (52 - n.log2) :=
              Nat.mul_lt_mul_of_pos_right hhigh (Nat.two_pow_pos _)
          _ = 2 * binade := by rw [← Nat.pow_add, show n.log2 + 1 + (52 - n.log2) = 53 by omega]; rfl
      · calc binade = 2 ^ n.log2 * 2 ^ (52 - n.log2) := by
              rw [← Nat.pow_add, show n.log2 + (52 - n.log2) = 52 by omega]; rfl
          _ ≤ n * 2 ^ (52 - n.log2) := Nat.mul_le_mul_right _ hlow
    refine ⟨(1022 + n.log2) * binade + n * 2 ^ (52 - n.log2), ?_, ?_⟩
    · have hshift : (1022 + n.log2) * binade ≤ 1074 * binade := Nat.mul_le_mul_right _ (by omega)
      have := hnormal.1
      unfold infinity
      omega
    · have hexponent : 52 - n.log2 + (1022 + n.log2) = 1074 := by omega
      rw [units_of_normal hnormal, Nat.mul_assoc, ← Nat.pow_add, unit_eq hexponent.symm]

end LayoutEquations.Rank
